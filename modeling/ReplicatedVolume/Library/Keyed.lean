import Mathlib

/-!
# Lists with unique keys
-/

namespace Keyed
open List

variable {α κ : Type*} [DecidableEq κ]

/-- A search by key finds the element of the key. -/
theorem find?_eq_some {key : α → κ} {l : List α} (h : (l.map key).Nodup) {k : κ} {a : α} :
    l.find? (key · = k) = some a ↔ a ∈ l ∧ key a = k := by
  constructor
  · intro hfind
    exact ⟨mem_of_find?_eq_some hfind, by simpa using List.find?_some hfind⟩
  · rintro ⟨ha, rfl⟩
    cases hfind : l.find? (key · = key a) with
    | none => exact absurd (decide_eq_true rfl) (List.find?_eq_none.mp hfind a ha)
    | some b =>
      have hkey : key b = key a := by simpa using List.find?_some hfind
      rw [inj_on_of_nodup_map h (mem_of_find?_eq_some hfind) ha hkey]

/-- One element at most has a key. -/
theorem filter_eq_single (key : α → κ) {l : List α} (h : (l.map key).Nodup) {a : α} (ha : a ∈ l) :
    l.filter (key · = key a) = [a] := by
  induction l with
  | nil => cases ha
  | cons b l ih =>
    obtain ⟨hnot, hrest⟩ := nodup_cons.mp h
    rw [filter_cons]
    rcases mem_cons.mp ha with rfl | hmem
    · have hnone : l.filter (key · = key a) = [] := filter_eq_nil_iff.mpr fun c hc hkey =>
        hnot (mem_map.mpr ⟨c, hc, by simpa using hkey⟩)
      simp [hnone]
    · have hne : key b ≠ key a := fun heq => hnot (mem_map.mpr ⟨a, hmem, heq.symm⟩)
      simp [hne, ih hrest hmem]

end Keyed
