import ReplicatedVolume.Datamesh.Zones
import ReplicatedVolume.Mesh.Persistence
import ReplicatedVolume.Safety.Convergence

/-!
# The choice of a retype and its guard

Layout convergence chooses a Diskful member that becomes a tie-breaker, and the plan of the retype
has a guard of its own. Both simulate the loss of every zone, the one over the list of members, the
other over the contexts of a cycle. They come to the same answer.
-/

namespace ReplicatedVolume.Datamesh

variable {m : DatameshMember} {members : List DatameshMember}

theorem countP_members {st : Status} (obs : Observation) (hids : (st.members.map (·.id)).Nodup)
    (p : DatameshMember → Bool) :
    st.members.countP p = (memberWhere (buildContexts st obs) p).card := by
  have hset : memberWhere (buildContexts st obs) p =
      ((st.members.filter p).map (·.id)).toFinset := by
    ext id
    simp only [memberWhere, idsWhere, Finset.mem_filter, Finset.mem_univ, true_and,
      buildContexts_member, Option.any_eq_true, memberOf_eq_some hids, List.mem_toFinset,
      List.mem_map, List.mem_filter]
    constructor
    · rintro ⟨m, ⟨hm, rfl⟩, hp⟩
      exact ⟨m, ⟨hm, hp⟩, rfl⟩
    · rintro ⟨m, ⟨hm, hp⟩, rfl⟩
      exact ⟨m, ⟨hm, rfl⟩, hp⟩
  rw [hset, List.toFinset_card_of_nodup (hids.sublist (List.filter_sublist.map _)),
    List.length_map, List.countP_eq_length_filter]

theorem inZone_members (g : GlobalContext) (p : DatameshMember → Bool) (zone : String) :
    inZone g (·.member.any p) zone = memberWhere g fun m => p m && m.zone = zone := by
  ext id
  simp only [mem_inZone, memberWhere, idsWhere, Finset.mem_filter, Finset.mem_univ, true_and,
    Option.any_eq_true, GlobalContext.member, Bool.and_eq_true, decide_eq_true_eq]
  constructor
  · rintro ⟨⟨m, hm, hp⟩, m', hm', hzone⟩
    rw [hm, Option.some.injEq] at hm'
    exact ⟨m, hm, hp, hm' ▸ hzone⟩
  · rintro ⟨m, hm, hp, hzone⟩
    exact ⟨⟨m, hm, hp⟩, m, hm, hzone⟩

end ReplicatedVolume.Datamesh

namespace ReplicatedVolume.Volume
open Datamesh Dmte

/-- What is left of `voters` voters and `tieBreakers` tie-breakers after the retype of a voter and
the loss of a zone with `zoneVoters` and `zoneTieBreakers` of them. -/
def survives (voters tieBreakers zoneVoters zoneTieBreakers : ℕ) (own : Bool) : Prop :=
  let left := voters - 1 - (zoneVoters - if own then 1 else 0)
  let tieBreakersLeft := tieBreakers - zoneTieBreakers + if own then 0 else 1
  let q := (voters - 1) / 2 + 1
  q ≤ left ∨ left = q - 1 ∧ 0 < tieBreakersLeft

def SurvivesZones (members : List DatameshMember) (m : DatameshMember) : Prop :=
  ∀ zone, 0 < votersInZone members zone →
    survives (members.countP (·.type.isVoter)) (members.countP (·.type = .tieBreaker))
      (votersInZone members zone) (tieBreakersInZone members zone) (zone = m.zone)

variable {rv : VolumeObject} {c : Configuration} {obs : Observation}

theorem mem_voterZones {zone : String} :
    zone ∈ voterZones members ↔ 0 < votersInZone members zone := by
  simp only [voterZones, List.mem_dedup, List.mem_map, List.mem_filter, votersInZone,
    List.countP_pos_iff, Bool.and_eq_true, decide_eq_true_eq, and_assoc]

theorem votersInZone_lt (hm : m ∈ members)
    (hvoter : m.type.isVoter = true) {zone : String} (hzone : zone ≠ m.zone) :
    votersInZone members zone < members.countP (·.type.isVoter) := by
  have hsplit := List.countP_eq_countP_filter_add members (·.type.isVoter) (·.zone = zone)
  have hother : 0 < (members.filter fun m => !decide (m.zone = zone)).countP (·.type.isVoter) :=
    List.countP_pos_iff.mpr ⟨m, List.mem_filter.mpr ⟨hm, by simpa using hzone.symm⟩, hvoter⟩
  rw [List.countP_filter] at hsplit
  unfold votersInZone
  omega

theorem votersInZone_le (members : List DatameshMember) (zone : String) :
    votersInZone members zone ≤ members.countP (·.type.isVoter) := by
  refine List.countP_mono_left fun m _ h => ?_
  exact (Bool.and_eq_true _ _ ▸ h).1

theorem tieBreakersInZone_le (members : List DatameshMember) (zone : String) :
    tieBreakersInZone members zone ≤ members.countP (·.type = .tieBreaker) := by
  refine List.countP_mono_left fun m _ h => ?_
  exact (Bool.and_eq_true _ _ ▸ h).1

theorem quorumSafe_iff (hm : m ∈ members) (hvoter : m.type.isVoter = true) :
    isRetypeToTieBreakerZoneQuorumSafe m.zone members = true ↔ SurvivesZones members m := by
  have hvoters : 0 < members.countP (·.type.isVoter) := List.countP_pos_iff.mpr ⟨m, hm, hvoter⟩
  have hnonzero : ((members.countP (·.type.isVoter) : ℕ) : ℤ) ≠ 0 := by omega
  simp only [isRetypeToTieBreakerZoneQuorumSafe, hnonzero, decide_false, Bool.false_or,
    List.all_eq_true, mem_voterZones]
  refine forall_congr' fun zone => forall_congr' fun hzone => ?_
  have htie := tieBreakersInZone_le members zone
  have hle := votersInZone_le members zone
  by_cases hown : zone = m.zone
  · simp only [survives, hown, decide_true, Bool.or_eq_true, Bool.and_eq_true, decide_eq_true_eq,
      if_true, true_and] at hzone ⊢
    rw [hown] at htie hle
    rw [if_pos (by omega)]
    omega
  · have hless := votersInZone_lt hm hvoter hown
    simp only [survives, hown, decide_false, Bool.or_eq_true, Bool.and_eq_true, decide_eq_true_eq,
      false_and, if_false, Bool.false_eq_true] at hzone ⊢
    omega

structure Counts (members : List DatameshMember) (g : GlobalContext) : Prop where
  voters : voterCount g = members.countP (·.type.isVoter)
  tieBreakers : tbCount g = members.countP (·.type = .tieBreaker)
  votersInZone : ∀ zone, findZoneCount (voterCountPerZone g) zone = votersInZone members zone
  tieBreakersInZone : ∀ zone, findZoneCount (tbCountPerZone g) zone = tieBreakersInZone members zone
  zones : ∀ zc, zc ∈ voterCountPerZone g ↔
    0 < Volume.votersInZone members zc.1 ∧ zc.2 = Volume.votersInZone members zc.1

theorem counts_members (obs : Observation) (hids : (rv.datamesh.members.map (·.id)).Nodup) :
    Counts rv.datamesh.members (buildContexts rv.status obs) := by
  have hcount : ∀ p, (memberWhere (buildContexts rv.status obs) p).card =
      rv.datamesh.members.countP p := fun p => (countP_members obs hids p).symm
  have hzone : ∀ (p : DatameshMember → Bool) (zone : String),
      (inZone (buildContexts rv.status obs) (·.member.any p) zone).card =
        rv.datamesh.members.countP fun m => p m && m.zone = zone := by
    intro p zone
    rw [inZone_members, hcount]
  refine ⟨hcount _, hcount _, fun zone => ?_, fun zone => ?_, fun zc => ?_⟩
  · rw [voterCountPerZone, findZoneCount_countPerZone, hzone]
    rfl
  · rw [tbCountPerZone, findZoneCount_countPerZone, hzone]
    rfl
  · rw [voterCountPerZone, mem_countPerZone, ← Finset.card_pos, hzone]
    rfl

theorem guardZoneFTT_iff {g : GlobalContext} {rc : ReplicaContext} (hg : Counts members g)
    (htopology : g.configuration.topology = .transZonal) (hrc : rc.member = some m)
    (hm : m ∈ members) (hvoter : m.type.isVoter = true) :
    (guardZoneFTTPreservedForRetypeToTieBreaker g rc).blocked = false ↔
      SurvivesZones members m := by
  have hvoters : 0 < members.countP (·.type.isVoter) := List.countP_pos_iff.mpr ⟨m, hm, hvoter⟩
  have hzone : memberZone rc = m.zone := by rw [memberZone, hrc]; rfl
  unfold guardZoneFTTPreservedForRetypeToTieBreaker evaluateZoneFTT
  have happlies : ¬(g.configuration.topology ≠ .transZonal ∨ voterCount g = 0) := by
    rw [htopology, hg.voters]
    exact fun h => h.elim (fun hne => hne rfl) hvoters.ne'
  rw [if_neg happlies]
  simp only [hg.voters, hg.tieBreakers, hg.tieBreakersInZone, hzone, computeTargetQ, true_and]
  split
  · rename_i hnone
    refine iff_of_true rfl fun zone hpos => ?_
    have hfine := List.find?_eq_none.mp hnone (zone, votersInZone members zone)
      ((hg.zones _).mpr ⟨hpos, rfl⟩)
    by_cases hown : zone = m.zone <;>
      simp only [survives, hown, decide_true, decide_false, if_true, if_false, Bool.false_eq_true,
        decide_eq_true_eq, not_true, not_false_iff, ne_eq] at hfine ⊢ <;>
      omega
  · rename_i zc hfound
    refine iff_of_false Bool.noConfusion fun h => ?_
    obtain ⟨hpos, hcount⟩ := (hg.zones zc).mp (List.mem_of_find?_eq_some hfound)
    have hfails := List.find?_some hfound
    have hfine := h zc.1 hpos
    by_cases hown : zc.1 = m.zone <;>
      simp only [survives, hown, hcount, decide_true, decide_false, if_true, if_false,
        Bool.false_eq_true, decide_eq_true_eq, not_true, not_false_iff, ne_eq] at hfine hfails <;>
      omega

/-- A member passes the zone test of the choice exactly when the guard of its retype would not
block it on the same members, and so the chosen candidate passes the guard. -/
theorem retype_choice_agrees_with_guard (obs : Observation) (rvrs : List Replica) (rvas : List RVA)
    (hids : (rv.datamesh.members.map (·.id)).Nodup) :
    (∀ m ∈ rv.datamesh.members, m.type = .diskful →
      ((obs.configuration.topology = .transZonal →
          isRetypeToTieBreakerZoneQuorumSafe m.zone rv.datamesh.members = true) ↔
        (guardZoneFTTPreservedForRetypeToTieBreaker (buildContexts rv.status obs)
          ((buildContexts rv.status obs).replicas m.id)).blocked = false)) ∧
    ∀ id, selectRetypeCandidate rv obs.configuration rvrs rvas = .ok id →
      (guardZoneFTTPreservedForRetypeToTieBreaker (buildContexts rv.status obs)
        ((buildContexts rv.status obs).replicas id)).blocked = false := by
  have hagrees : ∀ m ∈ rv.datamesh.members, m.type = .diskful →
      ((obs.configuration.topology = .transZonal →
          isRetypeToTieBreakerZoneQuorumSafe m.zone rv.datamesh.members = true) ↔
        (guardZoneFTTPreservedForRetypeToTieBreaker (buildContexts rv.status obs)
          ((buildContexts rv.status obs).replicas m.id)).blocked = false) := by
    intro m hm htype
    have hvoter : m.type.isVoter = true := by rw [htype]; rfl
    by_cases htopology : obs.configuration.topology = .transZonal
    · have hmember : ((buildContexts rv.status obs).replicas m.id).member = some m :=
        (buildContexts_member rv.status obs m.id).trans ((memberOf_eq_some hids).mpr ⟨hm, rfl⟩)
      rw [guardZoneFTT_iff (counts_members obs hids) htopology hmember hm hvoter,
        ← quorumSafe_iff hm hvoter]
      exact ⟨fun h => h htopology, fun h _ => h⟩
    · have hpass : guardZoneFTTPreservedForRetypeToTieBreaker (buildContexts rv.status obs)
          ((buildContexts rv.status obs).replicas m.id) = .pass := if_pos (.inl htopology)
      rw [hpass]
      exact iff_of_true (fun h => absurd h htopology) rfl
  refine ⟨hagrees, fun id hchosen => ?_⟩
  obtain ⟨m, hm, rfl, htype, hsafe⟩ := selectRetypeCandidate_ok hchosen
  exact (hagrees m hm htype).mp hsafe

def zonedConfiguration : Configuration := ⟨"pool", .transZonal, 1, 0, .any⟩

def zonedMember (id : ReplicaID) (nodeName zone : String) : DatameshMember :=
  { surplusMember id nodeName with zone := zone }

def zonedVolume : VolumeObject :=
  { surplusVolume with
    configuration := some zonedConfiguration
    datamesh := { DatameshStatus.zero with
      members := [zonedMember 0 "a" "z1", zonedMember 1 "b" "z2", zonedMember 2 "c" "z3"] } }

def zonedReplicas : List Replica := surplusReplicas.map (·.replica)

def zonedObservation : Observation :=
  { volumeName := "v", deleting := false, configuration := zonedConfiguration, size := 4096
    maxAttachments := none, replicatedStorageClassName := "", rsp := none
    rvrs := zonedReplicas.map (·.toRVR), rvas := [], requests := [], features := ⟨false⟩ }

theorem retype_choice_agrees_three_zones :
    selectRetypeCandidate zonedVolume zonedConfiguration zonedReplicas [] = .ok 2 ∧
      (guardZoneFTTPreservedForRetypeToTieBreaker
        (buildContexts zonedVolume.status zonedObservation)
        ((buildContexts zonedVolume.status zonedObservation).replicas 2)).blocked = false := by
  have hchosen : selectRetypeCandidate zonedVolume zonedConfiguration zonedReplicas [] = .ok 2 := by
    decide +kernel
  have hids : (zonedVolume.datamesh.members.map (·.id)).Nodup := by decide
  exact ⟨hchosen, (retype_choice_agrees_with_guard zonedObservation zonedReplicas [] hids).2 2
    hchosen⟩

end ReplicatedVolume.Volume
