import Mathlib

/-!
# Surviving any few failures

A group serves as long as a quorum of its voters is left, or one voter less if
a helper is left to break the tie, and never with fewer voters than a floor. It
survives `f` failures if it serves whichever `f` nodes fail. The worst failures
hit voters first and helpers with what remains.
-/

namespace Failures
open Finset

structure Group (Node : Type*) where
  voters : Finset Node
  helpers : Finset Node
  quorum : ℕ
  floor : ℕ
  /-- Whether a helper may stand in for the missing voter. -/
  breaksTie : Prop

namespace Group

variable {Node : Type*} [DecidableEq Node]

def Serves (g : Group Node) (failed : Finset Node) : Prop :=
  (g.quorum ≤ (g.voters \ failed).card ∨
    ((g.voters \ failed).card + 1 = g.quorum ∧ g.breaksTie ∧ (g.helpers \ failed).Nonempty)) ∧
  g.floor ≤ (g.voters \ failed).card

def Survives (g : Group Node) (f : ℕ) : Prop := ∀ failed : Finset Node, failed.card ≤ f →
  g.Serves failed

theorem card_sub_le_card_sdiff (s failed : Finset Node) {f : ℕ} (h : failed.card ≤ f) :
    s.card - f ≤ (s \ failed).card := by
  have hsdiff := le_card_sdiff failed s
  omega

/-- Failures that leave as few voters as possible, and then as few helpers. -/
theorem exists_worst {voters helpers : Finset Node} (hdisj : Disjoint voters helpers) (f : ℕ) :
    ∃ failed : Finset Node, failed.card ≤ f ∧ (voters \ failed).card = voters.card - f ∧
      (helpers \ failed).card = helpers.card - (f - voters.card) := by
  obtain ⟨v, hv, hvcard⟩ := exists_subset_card_eq (min_le_right f voters.card)
  obtain ⟨w, hw, hwcard⟩ := exists_subset_card_eq (min_le_right (f - voters.card) helpers.card)
  have hvw : Disjoint v w := hdisj.mono hv hw
  refine ⟨v ∪ w, ?_, ?_, ?_⟩
  · rw [card_union_of_disjoint hvw]
    omega
  · have hleft : voters \ (v ∪ w) = voters \ v := by
      rw [sdiff_union_distrib, inter_eq_left]
      rw [sdiff_eq_self_of_disjoint (hdisj.mono_right hw)]
      exact sdiff_subset
    rw [hleft, card_sdiff_of_subset hv]
    omega
  · have hleft : helpers \ (v ∪ w) = helpers \ w := by
      rw [sdiff_union_distrib, inter_eq_right]
      rw [sdiff_eq_self_of_disjoint (hdisj.symm.mono_right hv)]
      exact sdiff_subset
    rw [hleft, card_sdiff_of_subset hw]
    omega

/-- Failures that leave no more voters than they must spare the helpers. -/
theorem helper_left {voters helpers failed : Finset Node} {f : ℕ}
    (hdisj : Disjoint voters helpers) (hcard : failed.card ≤ f)
    (hworst : (voters \ failed).card ≤ voters.card - f) (hspare : f - voters.card < helpers.card) :
    (helpers \ failed).Nonempty := by
  rw [sdiff_nonempty]
  intro hsub
  -- the failed helpers and the failed voters are different nodes
  have hboth : (voters ∩ failed).card + helpers.card ≤ failed.card := by
    have hdisj' : Disjoint (voters ∩ failed) helpers := hdisj.mono_left inter_subset_left
    rw [← card_union_of_disjoint hdisj']
    exact card_le_card (union_subset inter_subset_right hsub)
  have hsplit := card_inter_add_card_sdiff voters failed
  omega

theorem survives_iff {g : Group Node} (hdisj : Disjoint g.voters g.helpers) {f : ℕ} :
    g.Survives f ↔ g.floor ≤ g.voters.card - f ∧ (g.quorum ≤ g.voters.card - f ∨
      (g.voters.card - f + 1 = g.quorum ∧ g.breaksTie ∧ f - g.voters.card < g.helpers.card)) := by
  constructor
  · intro h
    obtain ⟨failed, hcard, hvoters, hhelpers⟩ := exists_worst hdisj f
    obtain ⟨hquorum, hfloor⟩ := h failed hcard
    rw [hvoters] at hquorum hfloor
    refine ⟨hfloor, hquorum.imp_right ?_⟩
    rintro ⟨hone, htie, hleft⟩
    refine ⟨hone, htie, ?_⟩
    rw [← card_pos, hhelpers] at hleft
    omega
  · rintro ⟨hfloor, hquorum⟩ failed hcard
    have hleft := card_sub_le_card_sdiff g.voters failed hcard
    refine ⟨?_, hfloor.trans hleft⟩
    rcases hquorum with hquorum | ⟨hone, htie, hspare⟩
    · exact .inl (hquorum.trans hleft)
    · by_cases hworst : (g.voters \ failed).card ≤ g.voters.card - f
      · exact .inr ⟨by omega, htie, helper_left hdisj hcard hworst hspare⟩
      · exact .inl (by omega)

/-- A group with a majority for its quorum, where a helper stands in for the last of an even
number of voters. -/
def majority (voters helpers : Finset Node) : Group Node where
  voters := voters
  helpers := helpers
  quorum := voters.card / 2 + 1
  floor := 0
  breaksTie := voters.card % 2 = 0

instance (voters helpers failed : Finset Node) :
    Decidable ((majority voters helpers).Serves failed) :=
  inferInstanceAs (Decidable ((voters.card / 2 + 1 ≤ (voters \ failed).card ∨
    ((voters \ failed).card + 1 = voters.card / 2 + 1 ∧ voters.card % 2 = 0 ∧
      (helpers \ failed).Nonempty)) ∧ 0 ≤ (voters \ failed).card))

/-- With half of the voters left, an odd number needs that less than half failed, and an even
number needs a helper only where exactly half did. -/
theorem serves_majority {voters helpers failed : Finset Node}
    (hhalf : voters.card / 2 ≤ (voters \ failed).card) :
    (majority voters helpers).Serves failed ↔
      (voters.card % 2 = 1 → 2 * (voters ∩ failed).card ≤ voters.card) ∧
      (voters.card % 2 = 0 → 2 * (voters ∩ failed).card = voters.card →
        (helpers \ failed).Nonempty) := by
  have hsplit := card_inter_add_card_sdiff voters failed
  simp only [Serves, majority, Nat.zero_le, and_true]
  rcases Nat.mod_two_eq_zero_or_one voters.card with heven | hodd
  · by_cases htie : 2 * (voters ∩ failed).card = voters.card
    · have hone : (voters \ failed).card + 1 = voters.card / 2 + 1 := by omega
      simp [heven, htie, hone]
      omega
    · have hmore : voters.card / 2 + 1 ≤ (voters \ failed).card := by omega
      simp [heven, htie, hmore]
  · simp only [hodd, one_ne_zero, false_and, and_false, or_false, true_imp_iff, false_imp_iff,
      and_true]
    omega

end Group

end Failures
