import ReplicatedVolume.Library.Failures
import ReplicatedVolume.Safety.Redundancy

/-!
# Losing a zone

The guards count, zone by zone, the voters and tie-breakers that are left. DRBD lets a tie-breaker
stand in only where the number of voters is even, and a tie-breaker that becomes a voter breaks no
tie any more. The guards ask for neither.
-/

namespace ReplicatedVolume.Datamesh
open Dmte Finset

def tieBreakerIDs (g : GlobalContext) : Finset ReplicaID := memberWhere g (·.type = .tieBreaker)

def zoneMembers (g : GlobalContext) (zone : String) : Finset ReplicaID :=
  idsWhere fun id => (g.member id).any (·.zone = zone)

/-- The members that a zone takes with it once the subject is a voter in its own zone. -/
def zoneMembersWith (g : GlobalContext) (id : ReplicaID) (addedZone zone : String) :
    Finset ReplicaID :=
  if zone = addedZone then insert id (zoneMembers g zone) else (zoneMembers g zone).erase id

def afterGain (g : GlobalContext) (id : ReplicaID) : Failures.Group ReplicaID :=
  .majority (insert id (voters g)) ((tieBreakerIDs g).erase id)

/-- The mesh once the subject is no voter, with the subject as a tie-breaker or not at all. -/
def afterLoss (g : GlobalContext) (id : ReplicaID) (becomesTieBreaker : Bool) :
    Failures.Group ReplicaID :=
  .majority ((voters g).erase id)
    (if becomesTieBreaker then insert id (tieBreakerIDs g) else tieBreakerIDs g)

structure GainAdmitted (g : GlobalContext) (id : ReplicaID) (addedZone : String) : Prop where
  topology : g.configuration.topology = .transZonal
  subject : id ∉ voters g
  zone : replicaZone g (g.replicas id) = some addedZone
  placement : guardTransZonalVoterPlacement g (g.replicas id) = .pass

structure LossAdmitted (g : GlobalContext) (id : ReplicaID) (becomesTieBreaker : Bool) : Prop where
  topology : g.configuration.topology = .transZonal
  subject : id ∈ voters g
  ftt : guardFTTPreserved g (g.replicas id) = .pass
  zoneFTT : evaluateZoneFTT becomesTieBreaker g (g.replicas id) = .pass

/-- No zone holds most of an odd number of voters, and where a tie-breaker becomes a voter
another one is left outside each zone that holds half of them. -/
structure GainSafe (g : GlobalContext) (id : ReplicaID) (addedZone : String) : Prop where
  odd : (voterCount g + 1) % 2 = 1 → ∀ zone,
    2 * (insert id (voters g) ∩ zoneMembersWith g id addedZone zone).card ≤ voterCount g + 1
  tie : (voterCount g + 1) % 2 = 0 → id ∈ tieBreakerIDs g → ∀ zone,
    2 * (insert id (voters g) ∩ zoneMembersWith g id addedZone zone).card = voterCount g + 1 →
      ((tieBreakerIDs g).erase id \ zoneMembersWith g id addedZone zone).Nonempty

def LossSafe (g : GlobalContext) (id : ReplicaID) : Prop :=
  (voterCount g - 1) % 2 = 1 → ∀ zone,
    2 * ((voters g).erase id ∩ zoneMembers g zone).card ≤ voterCount g - 1

section Counts

variable {g : GlobalContext} {id : ReplicaID} {zone : String}

theorem mem_zoneMembers {other : ReplicaID} :
    other ∈ zoneMembers g zone ↔ ∃ m, g.member other = some m ∧ m.zone = zone := by
  simp [zoneMembers, idsWhere, Option.any_eq_true]

theorem inZone_eq (p : DatameshMember → Bool) :
    inZone g (·.member.any p) zone = memberWhere g p ∩ zoneMembers g zone := by
  ext other
  rw [mem_inZone, mem_inter, mem_zoneMembers]
  simp only [memberWhere, idsWhere, mem_filter, mem_univ, true_and]
  rfl

theorem card_sdiff_zone (p : DatameshMember → Bool) :
    (memberWhere g p \ zoneMembers g zone).card =
      (memberWhere g p).card - findZoneCount (countPerZone g (·.member.any p)) zone := by
  rw [findZoneCount_countPerZone, inZone_eq]
  have hsplit := card_inter_add_card_sdiff (memberWhere g p) (zoneMembers g zone)
  omega

theorem subject_mem_zoneMembers {m : DatameshMember} (hm : g.member id = some m) :
    id ∈ zoneMembers g zone ↔ zone = memberZone (g.replicas id) := by
  rw [mem_zoneMembers, memberZone, show (g.replicas id).member = some m from hm]
  simp [hm, eq_comm]

theorem voter_member (h : id ∈ voters g) : ∃ m, g.member id = some m := by
  simp only [voters, memberWhere, idsWhere, mem_filter, Option.any_eq_true] at h
  exact ⟨h.2.choose, h.2.choose_spec.1⟩

theorem card_voters_with (hsubject : id ∉ voters g) (addedZone : String) :
    (insert id (voters g) ∩ zoneMembersWith g id addedZone zone).card =
      findZoneCount (voterCountPerZone g) zone + if zone = addedZone then 1 else 0 := by
  rw [voterCountPerZone, findZoneCount_countPerZone, inZone_eq, zoneMembersWith]
  change _ = (voters g ∩ zoneMembers g zone).card + _
  have hnot : id ∉ voters g ∩ zoneMembers g zone := fun h => hsubject (mem_inter.mp h).1
  split
  · rw [← insert_inter_distrib, card_insert_of_notMem hnot]
  · rw [insert_inter_of_notMem (notMem_erase _ _), inter_erase,
      erase_eq_of_notMem hnot, Nat.add_zero]

theorem tieBreakers_sdiff_with (addedZone : String) :
    (tieBreakerIDs g).erase id \ zoneMembersWith g id addedZone zone =
      (tieBreakerIDs g \ zoneMembers g zone).erase id := by
  ext other
  unfold zoneMembersWith
  split <;> grind

theorem card_voters_without (hsubject : id ∈ voters g) :
    ((voters g).erase id ∩ zoneMembers g zone).card =
      findZoneCount (voterCountPerZone g) zone -
        if zone = memberZone (g.replicas id) then 1 else 0 := by
  rw [voterCountPerZone, findZoneCount_countPerZone, inZone_eq, erase_inter]
  change _ = (voters g ∩ zoneMembers g zone).card - _
  obtain ⟨m, hm⟩ := voter_member hsubject
  by_cases hzone : zone = memberZone (g.replicas id)
  · rw [if_pos hzone, card_erase_of_mem
      (mem_inter.mpr ⟨hsubject, (subject_mem_zoneMembers hm).mpr hzone⟩)]
  · rw [if_neg hzone, erase_eq_of_notMem, Nat.sub_zero]
    exact fun h => hzone ((subject_mem_zoneMembers hm).mp (mem_inter.mp h).2)

end Counts

/-- The condition both guards put on the voters that are left and the tie-breakers. -/
def Enough (votersAfter left tieBreakers : ℕ) : Prop :=
  computeTargetQ votersAfter ≤ left ∨
    (left + 1 = computeTargetQ votersAfter ∧ 0 < tieBreakers)

theorem enough_of_not_fails {n left tb : ℕ} (h : (decide (left < computeTargetQ n) &&
    (decide (left ≠ computeTargetQ n - 1) || decide (tb = 0))) = false) : Enough n left tb := by
  unfold Enough
  simp only [Bool.and_eq_false_iff, Bool.or_eq_false_iff, decide_eq_false_iff_not] at h
  unfold computeTargetQ at h ⊢
  omega

section Guards

variable {g : GlobalContext} {id : ReplicaID} {addedZone : String} {becomesTieBreaker : Bool}

theorem mem_voterCountPerZone {zone : String} (h : findZoneCount (voterCountPerZone g) zone ≠ 0) :
    (zone, findZoneCount (voterCountPerZone g) zone) ∈ voterCountPerZone g := by
  rw [voterCountPerZone, findZoneCount_countPerZone] at h ⊢
  exact mem_countPerZone.mpr ⟨card_ne_zero.mp h, rfl⟩

theorem unlisted_of_zero {zone : String} (h : findZoneCount (voterCountPerZone g) zone = 0) :
    (voterCountPerZone g).any (·.1 = zone) = false := by
  rw [voterCountPerZone, findZoneCount_countPerZone] at h
  rw [List.any_eq_false]
  intro zc hzc hzone
  obtain ⟨hne, -⟩ := mem_countPerZone.mp hzc
  rw [of_decide_eq_true hzone] at hne
  exact hne.card_pos.ne' h

/-- Placement is checked for each zone with voters and for the zone of the subject; any other
zone takes no voter with it. -/
theorem GainAdmitted.enough (h : GainAdmitted g id addedZone) (zone : String) :
    Enough (voterCount g + 1)
      (voterCount g + 1 - (findZoneCount (voterCountPerZone g) zone +
        if zone = addedZone then 1 else 0))
      (tbCount g - findZoneCount (tbCountPerZone g) zone) := by
  have hpass := h.placement
  unfold guardTransZonalVoterPlacement at hpass
  simp only [h.topology, h.zone, ne_eq, not_true_eq_false, if_false] at hpass
  split at hpass
  case h_2 => simp [GuardResult.block, GuardResult.pass] at hpass
  case h_1 hnone =>
    rw [Option.or_eq_none_iff, List.findSome?_eq_none_iff] at hnone
    obtain ⟨hlisted, hnew⟩ := hnone
    by_cases hzone : findZoneCount (voterCountPerZone g) zone = 0
    · by_cases hadded : zone = addedZone
      · subst hadded
        rw [unlisted_of_zero hzone] at hnew
        refine enough_of_not_fails (Bool.eq_false_iff.mpr fun hfails => ?_)
        rw [hzone, if_pos rfl, Nat.zero_add] at hfails
        simp only [Bool.not_false, Bool.not_true, Bool.false_eq_true, hfails, if_false, if_true,
          reduceCtorEq] at hnew
      · left
        rw [hzone, if_neg hadded, computeTargetQ]
        omega
    · have hproblem := hlisted _ (List.mem_map_of_mem (mem_voterCountPerZone hzone))
      refine enough_of_not_fails (Bool.eq_false_iff.mpr fun hfails => ?_)
      simp only [hfails, if_true, reduceCtorEq] at hproblem
theorem LossAdmitted.enough (h : LossAdmitted g id becomesTieBreaker) (zone : String) :
    Enough (voterCount g - 1)
      (voterCount g - 1 - (findZoneCount (voterCountPerZone g) zone -
        if zone = memberZone (g.replicas id) then 1 else 0))
      (tbCount g - findZoneCount (tbCountPerZone g) zone +
        if becomesTieBreaker ∧ zone ≠ memberZone (g.replicas id) then 1 else 0) := by
  have hmore : 1 < voterCount g := by
    have hftt := of_decide_eq_false ((blockIf_pass _ _ _).mp h.ftt)
    unfold intendedDiskfulCount at hftt
    omega
  have hpass := h.zoneFTT
  unfold evaluateZoneFTT at hpass
  rw [if_neg (by simp [h.topology]; omega)] at hpass
  dsimp only at hpass
  by_cases hzone : findZoneCount (voterCountPerZone g) zone = 0
  · left
    rw [hzone, computeTargetQ]
    omega
  · split at hpass
    case h_2 => simp [GuardResult.block, GuardResult.pass] at hpass
    case h_1 hnone =>
      have hsafe := List.find?_eq_none.mp hnone _ (mem_voterCountPerZone hzone)
      refine enough_of_not_fails (Bool.eq_false_iff.mpr fun hfails => hsafe ?_)
      simp only [Bool.and_eq_true, Bool.or_eq_true, decide_eq_true_eq] at hfails ⊢
      omega

end Guards

section Exact

variable {g : GlobalContext} {id : ReplicaID} {addedZone : String} {becomesTieBreaker : Bool}

theorem Enough.half {n left tb : ℕ} (h : Enough n left tb) : n / 2 ≤ left := by
  unfold Enough computeTargetQ at h
  omega

theorem Enough.tieBreaker {n left tb : ℕ} (h : Enough n left tb) (hleft : left = n / 2) :
    0 < tb := by
  unfold Enough computeTargetQ at h
  omega

theorem card_votersAfterGain (hsubject : id ∉ voters g) :
    (insert id (voters g)).card = voterCount g + 1 := card_insert_of_notMem hsubject

/-- With a new voter, losing a zone is survived exactly where no zone holds most of an odd
number of voters, and a tie-breaker other than the subject is left to break a tie. -/
theorem GainAdmitted.serves_iff (h : GainAdmitted g id addedZone) :
    (∀ zone, (afterGain g id).Serves (zoneMembersWith g id addedZone zone)) ↔
      GainSafe g id addedZone := by
  have hcard := card_votersAfterGain h.subject
  have hleft : ∀ zone, (insert id (voters g) \ zoneMembersWith g id addedZone zone).card =
      voterCount g + 1 - (findZoneCount (voterCountPerZone g) zone +
        if zone = addedZone then 1 else 0) := by
    intro zone
    have hsplit := card_inter_add_card_sdiff (insert id (voters g))
      (zoneMembersWith g id addedZone zone)
    rw [card_voters_with h.subject, hcard] at hsplit
    omega
  have hserves : ∀ zone, (afterGain g id).Serves (zoneMembersWith g id addedZone zone) ↔ _ :=
    fun zone => Failures.Group.serves_majority (by
      rw [hleft, hcard]
      exact (h.enough zone).half)
  simp only [hserves, hcard]
  constructor
  · intro hall
    exact ⟨fun hodd zone => (hall zone).1 hodd, fun heven _ zone => (hall zone).2 heven⟩
  · intro hsafe zone
    refine ⟨fun hodd => hsafe.odd hodd zone, fun heven hhalf => ?_⟩
    by_cases htie : id ∈ tieBreakerIDs g
    · exact hsafe.tie heven htie zone hhalf
    · have hsplit := card_inter_add_card_sdiff (insert id (voters g))
        (zoneMembersWith g id addedZone zone)
      have hpos := (h.enough zone).tieBreaker (by rw [← hleft]; omega)
      rw [tieBreakers_sdiff_with, erase_eq_of_notMem
        fun hmem => htie (mem_sdiff.mp hmem).1, ← card_pos, tieBreakerIDs,
        card_sdiff_zone]
      exact hpos

theorem card_votersAfterLoss (hsubject : id ∈ voters g) :
    ((voters g).erase id).card = voterCount g - 1 := card_erase_of_mem hsubject

theorem tieBreakers_left (hsubject : id ∈ voters g) {zone : String}
    (hpos : 0 < tbCount g - findZoneCount (tbCountPerZone g) zone +
      if becomesTieBreaker ∧ zone ≠ memberZone (g.replicas id) then 1 else 0) :
    ((if becomesTieBreaker then insert id (tieBreakerIDs g) else tieBreakerIDs g) \
      zoneMembers g zone).Nonempty := by
  by_cases hsubjectLeft : becomesTieBreaker = true ∧ zone ≠ memberZone (g.replicas id)
  · obtain ⟨m, hm⟩ := voter_member hsubject
    rw [if_pos hsubjectLeft.1]
    exact ⟨id, mem_sdiff.mpr ⟨mem_insert_self _ _,
      fun hmem => hsubjectLeft.2 ((subject_mem_zoneMembers hm).mp hmem)⟩⟩
  · rw [if_neg hsubjectLeft, Nat.add_zero, tbCount, tbCountPerZone, ← card_sdiff_zone,
      card_pos] at hpos
    refine hpos.mono (sdiff_subset_sdiff ?_ le_rfl)
    split
    · exact subset_insert _ _
    · exact subset_rfl

/-- Without a voter, losing a zone is survived exactly where no zone holds most of an odd number
of voters. -/
theorem LossAdmitted.serves_iff (h : LossAdmitted g id becomesTieBreaker) :
    (∀ zone, (afterLoss g id becomesTieBreaker).Serves (zoneMembers g zone)) ↔ LossSafe g id := by
  have hcard := card_votersAfterLoss h.subject
  have hleft : ∀ zone, ((voters g).erase id \ zoneMembers g zone).card =
      voterCount g - 1 - (findZoneCount (voterCountPerZone g) zone -
        if zone = memberZone (g.replicas id) then 1 else 0) := by
    intro zone
    have hsplit := card_inter_add_card_sdiff ((voters g).erase id) (zoneMembers g zone)
    rw [card_voters_without h.subject, hcard] at hsplit
    omega
  have hserves : ∀ zone, (afterLoss g id becomesTieBreaker).Serves (zoneMembers g zone) ↔ _ :=
    fun zone => Failures.Group.serves_majority (by
      rw [hleft, hcard]
      exact (h.enough zone).half)
  simp only [hserves, hcard]
  constructor
  · intro hall hodd zone
    exact (hall zone).1 hodd
  · intro hsafe zone
    refine ⟨fun hodd => hsafe hodd zone, fun heven hhalf => ?_⟩
    have hsplit := card_inter_add_card_sdiff ((voters g).erase id) (zoneMembers g zone)
    exact tieBreakers_left h.subject ((h.enough zone).tieBreaker (by rw [← hleft]; omega))

end Exact

/-- What the guards admit survives the loss of any zone exactly where no zone holds most of an
odd number of voters and a tie-breaker that becomes a voter is not the one that was counted on. -/
theorem zone_loss_survived_iff (g : GlobalContext) (id : ReplicaID) :
    (∀ addedZone, GainAdmitted g id addedZone →
      ((∀ zone, (afterGain g id).Serves (zoneMembersWith g id addedZone zone)) ↔
        GainSafe g id addedZone)) ∧
    ∀ becomesTieBreaker, LossAdmitted g id becomesTieBreaker →
      ((∀ zone, (afterLoss g id becomesTieBreaker).Serves (zoneMembers g zone)) ↔ LossSafe g id) :=
  ⟨fun _ h => h.serves_iff, fun _ h => h.serves_iff⟩

def zonedMember (id : ReplicaID) (type : MemberType) (zone : String) : DatameshMember :=
  { plainMember id type with zone := zone, addresses := [⟨"net", toString id.val, 7000⟩] }

def twoZonesAndTieBreaker : Status :=
  ⟨[zonedMember 0 .diskful "a", zonedMember 1 .diskful "b", zonedMember 2 .tieBreaker "c"],
    2, 1, false, ["net"], 0, 5, 0, []⟩

def joining (zone : String) (revision : ℕ) : Observation :=
  let addressed (id : ReplicaID) (type : ReplicaType) : RVR :=
    { plainReplica id type revision with addresses := [⟨"net", toString id.val, 7000⟩] }
  { plainObservation [addressed 0 .diskful, addressed 1 .diskful, addressed 2 .tieBreaker,
      addressed 3 .diskful] [⟨3, "", .join, some .diskful, "vg", ""⟩] with
    configuration := ⟨"pool", .transZonal, 1, 0, .any⟩
    rsp := some ⟨[⟨"0", "a", true, true⟩, ⟨"1", "b", true, true⟩, ⟨"2", "c", true, true⟩,
      ⟨"3", zone, true, true⟩], ["net"]⟩ }

/-- The third voter joins in a zone that has one. With this zone one voter of three is left,
and the tie-breaker does not help an odd number. -/
theorem second_voter_in_zone_admitted :
    GainAdmitted (startContext (joining "a" 5) twoZonesAndTieBreaker) 3 "a" ∧
    ¬(afterGain (startContext (joining "a" 5) twoZonesAndTieBreaker) 3).Serves
      (zoneMembersWith (startContext (joining "a" 5) twoZonesAndTieBreaker) 3 "a" "a") ∧
    ∃ results,
      run twoZonesAndTieBreaker [joining "a" 7, joining "a" 6, joining "a" 5] = some results ∧
      (lastStatus twoZonesAndTieBreaker results).transitions = [] ∧
      (lastStatus twoZonesAndTieBreaker results).voters = {0, 1, 3} ∧
      (lastStatus twoZonesAndTieBreaker results).quorum = 2 := by
  refine ⟨⟨rfl, by decide +kernel, by decide +kernel, by decide +kernel⟩, ?_, ?_⟩
  · unfold afterGain
    decide +kernel
  · exact exists_of_decide (by decide +kernel)

theorem card_inter_zone_le_one {g : GlobalContext} {ids : Finset ReplicaID}
    (happart : ∀ a ∈ ids, ∀ b ∈ ids,
      memberZone (g.replicas a) = memberZone (g.replicas b) → a = b) (zone : String) :
    (ids ∩ zoneMembers g zone).card ≤ 1 := by
  have hzone : ∀ a ∈ zoneMembers g zone, memberZone (g.replicas a) = zone := by
    intro a ha
    obtain ⟨m, hm, -⟩ := mem_zoneMembers.mp ha
    exact ((subject_mem_zoneMembers hm).mp ha).symm
  rw [card_le_one]
  intro a ha b hb
  rw [mem_inter] at ha hb
  exact happart a ha.1 b hb.1 ((hzone a ha.2).trans (hzone b hb.2).symm)

/-- A third voter in a third zone, and one of two voters of a zone that goes. -/
theorem zone_loss_survived_three :
    (∀ zone, (afterGain (startContext (joining "c" 5) twoZonesAndTieBreaker) 3).Serves
      (zoneMembersWith (startContext (joining "c" 5) twoZonesAndTieBreaker) 3 "c" zone)) ∧
    ∀ zone, (afterLoss fourInThreeZones 0 false).Serves (zoneMembers fourInThreeZones zone) := by
  constructor
  · have hadmitted : GainAdmitted (startContext (joining "c" 5) twoZonesAndTieBreaker) 3 "c" :=
      ⟨rfl, by decide +kernel, by decide +kernel, by decide +kernel⟩
    have hvoters : voterCount (startContext (joining "c" 5) twoZonesAndTieBreaker) = 2 := by
      decide +kernel
    refine ((zone_loss_survived_iff _ 3).1 "c" hadmitted).mpr ⟨fun _ zone => ?_, fun heven => ?_⟩
    · by_cases hzone : zone = "c"
      · rw [hzone]
        decide +kernel
      · have hone : (voters (startContext (joining "c" 5) twoZonesAndTieBreaker) ∩
            zoneMembers (startContext (joining "c" 5) twoZonesAndTieBreaker) zone).card ≤ 1 :=
          card_inter_zone_le_one (by decide +kernel) zone
        rw [zoneMembersWith, if_neg hzone, insert_inter_of_notMem (notMem_erase _ _),
          inter_erase, hvoters]
        have hle := card_erase_le (a := (3 : ReplicaID))
          (s := voters (startContext (joining "c" 5) twoZonesAndTieBreaker) ∩
            zoneMembers (startContext (joining "c" 5) twoZonesAndTieBreaker) zone)
        omega
    · omega
  · have hadmitted : LossAdmitted fourInThreeZones 0 false :=
      ⟨rfl, by decide +kernel, by decide +kernel, by decide +kernel⟩
    refine ((zone_loss_survived_iff _ 0).2 false hadmitted).mpr fun _ zone => ?_
    have hone : ((voters fourInThreeZones).erase 0 ∩ zoneMembers fourInThreeZones zone).card ≤ 1 :=
      card_inter_zone_le_one (by decide +kernel) zone
    have hvoters : voterCount fourInThreeZones = 4 := by decide +kernel
    omega

end ReplicatedVolume.Datamesh
