import ReplicatedVolume.Safety.Layout

/-!
# The reported tolerance of failures

The effective layout reports how many failures the volume tolerates now. The formula adds one for a
tie-breaker when the number of reachable voters is even; DRBD asks a tie-breaker when the number of
all voters is.
-/

namespace ReplicatedVolume.Datamesh
open Dmte Finset

def layoutSets (written : List DatameshMember) (g : GlobalContext) : LayoutSets :=
  classify (fun id => (pointedMember written g id).map (·.type)) g.rvr

/-- Enough voters, or one short of it with an even number of voters in all and a tie-breaker. -/
def Quorate (q total : ℕ) (voters tbs : Finset ReplicaID) : Prop :=
  q ≤ voters.card ∨ voters.card = q - 1 ∧ total % 2 = 0 ∧ tbs.Nonempty

def Achievable (q qmr : ℕ) (s : LayoutSets) (f : ℕ) : Prop :=
  ∀ failed ⊆ s.reachableVoters ∪ s.reachableTBs, failed.card = f →
    Quorate q s.voters.card (s.reachableVoters \ failed) (s.reachableTBs \ failed) ∧
      qmr ≤ ((s.reachableVoters \ failed) ∩ s.upToDateVoters).card

def bonus (s : LayoutSets) : ℕ :=
  if s.reachableVoters.card % 2 = 0 ∧ s.reachableTBs.Nonempty then 1 else 0

/-- The minimum redundancy is a small number; the tie-breaker is counted only where DRBD counts
it, or the copies are the bottleneck; and up-to-date voters are reachable, or quorum is the
bottleneck even without the others. -/
structure Honest (q qmr : ℕ) (s : LayoutSets) : Prop where
  small : qmr ≤ 127
  even : s.voters.card % 2 = 0 ∨ bonus s = 0 ∨
    s.upToDateVoters.card + q ≤ s.reachableVoters.card + qmr
  reachable : qmr = 0 ∨ s.upToDateVoters ⊆ s.reachableVoters ∨
    s.reachableVoters.card + bonus s + qmr ≤ (s.reachableVoters ∩ s.upToDateVoters).card + q

theorem int8_eq {n : ℤ} (hlow : -128 ≤ n) (hhigh : n ≤ 127) : int8 n = n :=
  Int.bmod_eq_of_le (by omega) (by omega)

theorem countOf_eq (ids : Finset ReplicaID) : countOf ids = ids.card := by
  have hcard : ids.card ≤ 32 := (card_le_univ ids).trans_eq (Fintype.card_fin 32)
  exact int8_eq (by omega) (by omega)

theorem reachable_disjoint (type : ReplicaID → Option MemberType) (rvr : ReplicaID → Option RVR) :
    Disjoint (classify type rvr).reachableVoters (classify type rvr).reachableTBs := by
  rw [disjoint_left]
  intro id hreachable htb
  have hvoter : id ∈ (classify type rvr).voters := by
    simp only [LayoutSets.reachableVoters, LayoutSets.staleVoters, mem_union,
      mem_inter, mem_sdiff] at hreachable
    exact hreachable.elim And.left fun h => h.1.1
  have htb := (mem_inter.mp htb).1
  simp only [classify, mem_idsWhere, Bool.and_eq_true, decide_eq_true_eq] at hvoter htb
  rw [htb.1] at hvoter
  cases hvoter.1

variable {q qmr f : ℕ} {s : LayoutSets}

theorem bonus_le : bonus s ≤ 1 := by
  unfold bonus
  split <;> omega

theorem bonus_eq_tbBonus :
    (if countOf s.reachableVoters % 2 = 0 ∧ 0 < countOf s.reachableTBs then 1 else 0 : ℤ)
      = bonus s := by
  have hparity : (s.reachableVoters.card : ℤ) % 2 = 0 ↔ s.reachableVoters.card % 2 = 0 := by omega
  simp only [countOf_eq, bonus, ← card_pos, hparity, Nat.cast_pos, Nat.cast_ite,
    Nat.cast_one, Nat.cast_zero]

/-- The two bounds of the formula. One of them is met; a minimum redundancy that is no small
number is above every count whatever the formula says. -/
structure Reported (q qmr : ℕ) (s : LayoutSets) (f : ℕ) : Prop where
  quorum : f + q ≤ s.reachableVoters.card + bonus s
  copies : qmr ≤ 127 → f + qmr ≤ s.upToDateVoters.card
  tight : qmr ≤ 127 → f + q = s.reachableVoters.card + bonus s ∨ f + qmr = s.upToDateVoters.card

theorem reported_of_layoutOf (hq : q ≤ 17)
    (hreported : (layoutOf q qmr s).failuresToTolerate = some (f : ℤ)) : Reported q qmr s f := by
  have hcard : ∀ ids : Finset ReplicaID, ids.card ≤ 32 := fun ids =>
    (card_le_univ ids).trans_eq (Fintype.card_fin 32)
  have hreachable := hcard s.reachableVoters
  have hupToDate := hcard s.upToDateVoters
  have hbonus := bonus_le (s := s)
  have hvalue : (f : ℤ) = min ((s.reachableVoters.card : ℤ) - q + bonus s)
      (int8 (s.upToDateVoters.card - int8 qmr)) := by
    simp only [layoutOf, bonus_eq_tbBonus] at hreported
    split at hreported
    · rw [countOf_eq, countOf_eq, int8_eq (n := (q : ℤ)) (by omega) (by omega),
        int8_eq (n := _ - (q : ℤ) + _) (by omega) (by omega)] at hreported
      exact (Option.some.inj hreported).symm
    · cases hreported
  have hsmall : qmr ≤ 127 → int8 (s.upToDateVoters.card - int8 qmr)
      = s.upToDateVoters.card - qmr := by
    intro h
    rw [int8_eq (n := (qmr : ℤ)) (by omega) (by omega), int8_eq (by omega) (by omega)]
  refine ⟨by omega, ?_, ?_⟩
  · intro h
    have := hsmall h
    omega
  · intro h
    have := hsmall h
    omega

theorem card_left (reachable failed : Finset ReplicaID) :
    (reachable \ failed).card + (failed ∩ reachable).card = reachable.card := by
  rw [inter_comm, card_sdiff_add_card_inter]

theorem card_copies_left (reachable upToDate failed : Finset ReplicaID) :
    (reachable ∩ upToDate).card ≤
      ((reachable \ failed) ∩ upToDate).card + (failed ∩ reachable).card := by
  have hleft := card_left (reachable ∩ upToDate) failed
  have hsub : failed ∩ (reachable ∩ upToDate) ⊆ failed ∩ reachable :=
    inter_subset_inter_left inter_subset_left
  have hcard := card_le_card hsub
  rw [← sdiff_inter_right_comm] at hleft
  omega

theorem card_failed (hapart : Disjoint s.reachableVoters s.reachableTBs)
    {failed : Finset ReplicaID} (hfailed : failed ⊆ s.reachableVoters ∪ s.reachableTBs) :
    (failed ∩ s.reachableVoters).card + (failed ∩ s.reachableTBs).card = failed.card := by
  have hparts : Disjoint (failed ∩ s.reachableVoters) (failed ∩ s.reachableTBs) :=
    hapart.mono inter_subset_right inter_subset_right
  rw [← card_union_of_disjoint hparts, ← inter_union_distrib_left,
    inter_eq_left.mpr hfailed]

theorem exists_worst (s : LayoutSets) (hf : f ≤ s.reachableVoters.card) :
    ∃ failed ⊆ s.reachableVoters, failed.card = f ∧
      ((s.reachableVoters \ failed) ∩ s.upToDateVoters).card
        = (s.reachableVoters ∩ s.upToDateVoters).card - f := by
  have hsub : s.reachableVoters ∩ s.upToDateVoters ⊆ s.reachableVoters := inter_subset_left
  rcases Nat.le_total f (s.reachableVoters ∩ s.upToDateVoters).card with hle | hle
  · obtain ⟨failed, hfailed, hcard⟩ := exists_subset_card_eq hle
    refine ⟨failed, hfailed.trans hsub, hcard, ?_⟩
    rw [sdiff_inter_right_comm, card_sdiff_of_subset hfailed, hcard]
  · obtain ⟨failed, hmore, hfailed, hcard⟩ := exists_subsuperset_card_eq hsub hle hf
    refine ⟨failed, hfailed, hcard, ?_⟩
    rw [sdiff_inter_right_comm, sdiff_eq_empty_iff_subset.mpr hmore,
      card_empty]
    omega

theorem achievable_of_honest (hapart : Disjoint s.reachableVoters s.reachableTBs)
    (hr : Reported q qmr s f) (honest : Honest q qmr s) : Achievable q qmr s f := by
  intro failed hfailed hcard
  have hvoters := card_left s.reachableVoters failed
  have hsplit := card_failed hapart hfailed
  have hquorum := hr.quorum
  have hcopies := hr.copies honest.small
  refine ⟨?_, ?_⟩
  · by_cases hmany : q ≤ (s.reachableVoters \ failed).card
    · exact .inl hmany
    -- One voter short: the bonus was counted and no tie-breaker is among the failed.
    · have hbonus : bonus s = 1 := by
        have := bonus_le (s := s)
        omega
      have heven := honest.even
      refine .inr ⟨by omega, by omega, ?_⟩
      have hnone : failed ∩ s.reachableTBs = ∅ := card_eq_zero.mp (by omega)
      rw [Finset.sdiff_eq_self_iff_disjoint.mpr (Finset.disjoint_iff_inter_eq_empty.mpr
        (by rwa [inter_comm]))]
      by_contra hempty
      simp [bonus, hempty] at hbonus
  · have hleft := card_copies_left s.reachableVoters s.upToDateVoters failed
    rcases honest.reachable with hzero | hsub | hbound
    · omega
    · rw [inter_eq_right.mpr hsub] at hleft
      omega
    · omega

theorem honest_of_achievable (hq : 0 < q) (hr : Reported q qmr s f)
    (ha : Achievable q qmr s f) : Honest q qmr s := by
  have hquorum := hr.quorum
  have hbonus := bonus_le (s := s)
  obtain ⟨failed, hfailed, hcard, hcopies⟩ := exists_worst s (f := f) (by omega)
  obtain ⟨hserves, hredundant⟩ := ha failed (hfailed.trans subset_union_left) hcard
  have hvoters := card_left s.reachableVoters failed
  rw [inter_eq_left.mpr hfailed] at hvoters
  have hsmall : qmr ≤ 127 := by
    have := (card_le_univ (s.reachableVoters ∩ s.upToDateVoters)).trans_eq
      (Fintype.card_fin 32)
    omega
  have htight := hr.tight hsmall
  refine ⟨hsmall, ?_, ?_⟩
  · rcases hserves with hmany | ⟨-, heven, -⟩
    · omega
    · exact .inl heven
  · by_cases hsub : s.upToDateVoters ⊆ s.reachableVoters
    · exact .inr (.inl hsub)
    -- A copy out of reach was counted, so the reachable ones are fewer than reported.
    · have hfewer : (s.reachableVoters ∩ s.upToDateVoters).card < s.upToDateVoters.card :=
        card_lt_card (inter_subset_right.ssubset_of_ne fun h =>
          hsub (inter_eq_right.mp h))
      omega

/-- With the quorum of a majority, a reported tolerance is achievable exactly where the tie-breaker
was counted as DRBD counts it and the copies counted are within reach. -/
theorem reported_tolerance_achievable_iff (written : List DatameshMember) (g : GlobalContext)
    (el : EffectiveLayout) (f : ℕ) (hq : g.quorum = (layoutSets written g).voters.card / 2 + 1)
    (hreported : (updateEffectiveLayout written g el).1.failuresToTolerate = some (f : ℤ)) :
    Achievable g.quorum g.quorumMinimumRedundancy (layoutSets written g) f ↔
      Honest g.quorum g.quorumMinimumRedundancy (layoutSets written g) := by
  have hcard := (card_le_univ (layoutSets written g).voters).trans_eq (Fintype.card_fin 32)
  have hr : Reported g.quorum g.quorumMinimumRedundancy (layoutSets written g) f :=
    reported_of_layoutOf (by omega) hreported
  exact ⟨honest_of_achievable (by omega) hr, achievable_of_honest (reachable_disjoint _ _) hr⟩

def threeAndTieBreaker : Status :=
  { mixedMembers [0, 1, 2, 3] [.diskful, .diskful, .diskful, .tieBreaker] with quorum := 2 }

def thirdReports (quorum : Bool) : GlobalContext :=
  (startCycle (plainObservation [plainReplica 0 .diskful 5, plainReplica 1 .diskful 5,
    { plainReplica 2 .diskful 5 with quorum := some quorum }, plainReplica 3 .tieBreaker 5] [])
    threeAndTieBreaker).1.global

/-- With all three voters in reach one of them may fail. -/
theorem reported_tolerance_achievable_healthy :
    Achievable 2 1 (layoutSets threeAndTieBreaker.members (thirdReports true)) 1 :=
  (reported_tolerance_achievable_iff threeAndTieBreaker.members (thirdReports true) .zero 1
    (by decide +kernel) (by decide +kernel)).mpr
    ⟨by decide, by decide +kernel, by decide +kernel⟩

/-- With the third voter out of quorum the same tolerance is reported, since two is even. Another
voter fails, one of three is left and the tie-breaker does not count. -/
theorem reported_tolerance_unachievable :
    (updateEffectiveLayout threeAndTieBreaker.members (thirdReports false)
        .zero).1.failuresToTolerate = some 1 ∧
      (layoutSets threeAndTieBreaker.members (thirdReports false)).voters.card = 3 ∧
      ¬Achievable 2 1 (layoutSets threeAndTieBreaker.members (thirdReports false)) 1 := by
  refine ⟨by decide +kernel, by decide +kernel, fun h => ?_⟩
  have hlost := (h {0} (by decide +kernel) (by decide)).1
  unfold Quorate at hlost
  revert hlost
  decide +kernel

end ReplicatedVolume.Datamesh
