import Mathlib

/-!
# Majority quorums of neighbouring configurations

A voting configuration is a set of voters with a threshold. Two configurations
whose thresholds are majorities and whose voter sets agree apart from one node
cannot both be satisfied by disjoint sets of nodes.
-/

namespace Majority
open Finset

variable {Node : Type*} [DecidableEq Node]

structure Config (Node : Type*) where
  voters : Finset Node
  quorum : ℕ

namespace Config

def IsMajority (c : Config Node) : Prop := c.quorum = c.voters.card / 2 + 1

/-- The set holds enough voters of the configuration. -/
def Quorate (c : Config Node) (s : Finset Node) : Prop := c.quorum ≤ (c.voters ∩ s).card

end Config

/-- The sets agree apart from one node. -/
def Adjacent (v w : Finset Node) : Prop := ∃ x, v.erase x = w.erase x

theorem Adjacent.refl [Nonempty Node] (v : Finset Node) : Adjacent v v :=
  ⟨Classical.arbitrary Node, rfl⟩

theorem Adjacent.symm {v w : Finset Node} (h : Adjacent v w) : Adjacent w v := by
  obtain ⟨x, hx⟩ := h
  exact ⟨x, hx.symm⟩

theorem adjacent_insert (v : Finset Node) (x : Node) : Adjacent v (insert x v) :=
  ⟨x, (erase_insert_eq_erase v x).symm⟩

theorem adjacent_erase (v : Finset Node) (x : Node) : Adjacent v (v.erase x) :=
  ⟨x, (erase_idem).symm⟩

/-- Adjacent sets are nested, and the larger one has at most one node more. -/
theorem Adjacent.nested {v w : Finset Node} (h : Adjacent v w) :
    (v ⊆ w ∧ w.card ≤ v.card + 1) ∨ (w ⊆ v ∧ v.card ≤ w.card + 1) := by
  obtain ⟨x, hx⟩ := h
  have hv : v.card ≤ (v.erase x).card + 1 := by
    have hpred := pred_card_le_card_erase (s := v) (a := x)
    omega
  have hw : w.card ≤ (w.erase x).card + 1 := by
    have hpred := pred_card_le_card_erase (s := w) (a := x)
    omega
  by_cases hmem : x ∈ w
  · left
    have hsub : v ⊆ w := by
      rw [← insert_erase hmem, ← hx]
      exact subset_insert_iff.mpr subset_rfl
    have hle : (v.erase x).card ≤ v.card := card_le_card (erase_subset x v)
    rw [hx] at hle
    exact ⟨hsub, by omega⟩
  · right
    have heq : w.erase x = w := erase_eq_of_notMem hmem
    rw [heq] at hx
    refine ⟨hx ▸ erase_subset x v, ?_⟩
    rw [← hx]
    exact hv

theorem not_both_quorate {c d : Config Node} {s t : Finset Node} (hc : c.IsMajority)
    (hd : d.IsMajority) (hadj : Adjacent c.voters d.voters) (hdisj : Disjoint s t)
    (hs : c.Quorate s) (ht : d.Quorate t) : False := by
  unfold Config.IsMajority at hc hd
  unfold Config.Quorate at hs ht
  have hcard : ∀ u : Finset Node, c.voters ⊆ u → d.voters ⊆ u →
      (c.voters ∩ s).card + (d.voters ∩ t).card ≤ u.card := by
    intro u hcu hdu
    have hdisj' : Disjoint (c.voters ∩ s) (d.voters ∩ t) :=
      hdisj.mono inter_subset_right inter_subset_right
    rw [← card_union_of_disjoint hdisj']
    apply card_le_card
    exact union_subset (inter_subset_left.trans hcu) (inter_subset_left.trans hdu)
  rcases hadj.nested with ⟨hsub, hle⟩ | ⟨hsub, hle⟩
  · have hsum := hcard d.voters hsub subset_rfl
    omega
  · have hsum := hcard c.voters subset_rfl hsub
    omega

end Majority
