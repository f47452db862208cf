import Mathlib

/-!
# Admission by place in a queue

Candidates decide for themselves whether they are admitted, each from a snapshot of its own: those
active and those waiting ahead have to be fewer than the bound. It is enough that of any two
candidates that are in at the same time the larger one took the smaller one into account.
-/

namespace Admission

variable {α : Type*} [LinearOrder α]

/-- If each element took all smaller ones into account and fewer than the bound,
there are no more than the bound. -/
theorem card_le_of_accounted {s : Finset α} {accounted : α → Finset α} {bound : ℕ}
    (hfew : ∀ y ∈ s, (accounted y).card < bound)
    (hsmaller : ∀ y ∈ s, ∀ x ∈ s, x < y → x ∈ accounted y) : s.card ≤ bound := by
  by_cases hempty : s.Nonempty
  · have hmax := s.max'_mem hempty
    have hsub : s.erase (s.max' hempty) ⊆ accounted (s.max' hempty) := by
      intro x hx
      have hne := Finset.ne_of_mem_erase hx
      have hmem := Finset.mem_of_mem_erase hx
      exact hsmaller _ hmax x hmem (lt_of_le_of_ne (s.le_max' x hmem) hne)
    have hcard := Finset.card_le_card hsub
    have hlt := hfew _ hmax
    rw [Finset.card_erase_of_mem hmax] at hcard
    omega
  · rw [Finset.not_nonempty_iff_eq_empty] at hempty
    simp [hempty]

/-- The place in a sorted queue is the number of those ahead. -/
theorem idxOf_of_sorted {l : List α} (hl : l.Pairwise (· ≤ ·)) {a : α} {n : ℕ}
    (h : l.idxOf? a = some n) : n = l.countP (· < a) := by
  induction l generalizing n with
  | nil => simp at h
  | cons b l ih =>
    rw [List.pairwise_cons] at hl
    rw [List.idxOf?_cons] at h
    by_cases hb : b = a
    · subst hb
      have hnone : l.countP (fun c => decide (c < b)) = 0 := by
        rw [List.countP_eq_zero]
        intro c hc
        simpa using hl.1 c hc
      simp only [beq_self_eq_true, if_true, Option.some.injEq] at h
      rw [List.countP_cons, hnone, ← h]
      simp
    · have hab : (b == a) = false := by simpa using hb
      rw [hab] at h
      simp only [Bool.false_eq_true, if_false, Option.map_eq_some_iff] at h
      obtain ⟨m, hm, rfl⟩ := h
      have ha : a ∈ l := by
        by_contra hnot
        rw [List.idxOf?_eq_none_iff.mpr hnot] at hm
        cases hm
      have hlt : b < a := lt_of_le_of_ne (hl.1 a ha) hb
      rw [List.countP_cons, ← ih hl.2 hm]
      simp [hlt]

theorem idxOf_insertionSort {l : List α} {a : α} {n : ℕ}
    (h : (l.insertionSort (· ≤ ·)).idxOf? a = some n) : n = l.countP (· < a) := by
  rw [idxOf_of_sorted (List.pairwise_insertionSort (· ≤ ·) l) h]
  exact (List.perm_insertionSort (· ≤ ·) l).countP_eq _

end Admission
