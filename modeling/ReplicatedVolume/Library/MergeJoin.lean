import Mathlib

/-!
# Merging entries with the requests for them

Two cursors walk the lists from the front and compare keys: an entry below the request is dropped,
a request below the entry makes a new entry, at equal keys the entry stays if it is still right.
When both lists only ascend in two blocks, a common key of the second block is missed exactly when
a key of the first block holds one of the cursors back.
-/

namespace MergeJoin
open List

variable {κ ε ρ : Type*} [LinearOrder κ]

section Walk

variable (key : ε → κ) (ask : ρ → κ) (make : ρ → ε) (same : ε → ρ → Bool)

/-- The new entries, and whether anything was added, updated or dropped. -/
def join : List ε → List ρ → List ε × Bool
  | es, [] => ([], !es.isEmpty)
  | [], r :: rs => (make r :: (join [] rs).1, true)
  | e :: es, r :: rs =>
    if key e < ask r then ((join es (r :: rs)).1, true)
    else if ask r < key e then (make r :: (join (e :: es) rs).1, true)
    else if same e r then (e :: (join es rs).1, (join es rs).2)
    else (make r :: (join es rs).1, true)
termination_by es rs => es.length + rs.length

end Walk

/-- The keys at which the cursors meet. -/
def matched : List κ → List κ → List κ
  | _, [] => []
  | [], _ :: _ => []
  | a :: as, b :: bs =>
    if a < b then matched as (b :: bs)
    else if b < a then matched (a :: as) bs
    else a :: matched as bs
termination_by as bs => as.length + bs.length

section Keys

variable {as bs : List κ}

theorem matched_cons_lt {a b : κ} (h : a < b) :
    matched (a :: as) (b :: bs) = matched as (b :: bs) := by
  rw [matched, if_pos h]

theorem matched_cons_gt {a b : κ} (h : b < a) :
    matched (a :: as) (b :: bs) = matched (a :: as) bs := by
  rw [matched, if_neg h.not_gt, if_pos h]

theorem matched_cons_self (a : κ) : matched (a :: as) (a :: bs) = a :: matched as bs := by
  rw [matched, if_neg (lt_irrefl a), if_neg (lt_irrefl a)]

@[simp] theorem matched_nil_left : matched [] bs = [] := by cases bs <;> rw [matched]

@[simp] theorem matched_nil_right : matched as [] = [] := by rw [matched]

theorem mem_of_matched {y : κ} (h : y ∈ matched as bs) : y ∈ as ∧ y ∈ bs := by
  fun_induction matched as bs with
  | case1 | case2 => cases h
  | case3 _ _ _ _ _ ih => exact ⟨mem_cons_of_mem _ (ih h).1, (ih h).2⟩
  | case4 _ _ _ _ _ _ ih => exact ⟨(ih h).1, mem_cons_of_mem _ (ih h).2⟩
  | case5 a _ b _ hle hge ih =>
    obtain rfl : a = b := le_antisymm (not_lt.mp hge) (not_lt.mp hle)
    rcases mem_cons.mp h with rfl | h
    · exact ⟨mem_cons_self, mem_cons_self⟩
    · exact ⟨mem_cons_of_mem _ (ih h).1, mem_cons_of_mem _ (ih h).2⟩

theorem matched_comm (as bs : List κ) : matched as bs = matched bs as := by
  fun_induction matched as bs with
  | case1 | case2 => simp
  | case3 _ _ _ _ hlt ih => rw [matched_cons_gt hlt, ih]
  | case4 _ _ _ _ _ hgt ih => rw [matched_cons_lt hgt, ih]
  | case5 a _ b _ hle hge ih =>
    obtain rfl : a = b := le_antisymm (not_lt.mp hge) (not_lt.mp hle)
    rw [matched_cons_self, ih]

end Keys

section Blocks

variable {a1 a2 b1 b2 : List κ} {y : κ}

/-- Common keys of the first blocks are found, whatever comes behind. -/
theorem mem_matched_first (ha : a1.Pairwise (· < ·)) (hb : b1.Pairwise (· < ·))
    (hya : y ∈ a1) (hyb : y ∈ b1) : y ∈ matched (a1 ++ a2) (b1 ++ b2) := by
  induction a1 generalizing b1 with
  | nil => cases hya
  | cons a a1 iha =>
    induction b1 with
    | nil => cases hyb
    | cons b b1 ihb =>
      rw [pairwise_cons] at ha
      simp only [cons_append]
      rcases lt_trichotomy a b with hlt | rfl | hgt
      · rw [matched_cons_lt hlt]
        have hne : y ≠ a := by
          rintro rfl
          rcases mem_cons.mp hyb with rfl | hyb
          · exact lt_irrefl _ hlt
          · exact lt_asymm hlt ((pairwise_cons.mp hb).1 y hyb)
        exact iha ha.2 hb ((mem_cons.mp hya).resolve_left hne) hyb
      · rw [matched_cons_self, mem_cons]
        by_cases hy : y = a
        · exact .inl hy
        · exact .inr (iha ha.2 (pairwise_cons.mp hb).2
            ((mem_cons.mp hya).resolve_left hy) ((mem_cons.mp hyb).resolve_left hy))
      · rw [matched_cons_gt hgt]
        have hne : y ≠ b := by
          rintro rfl
          rcases mem_cons.mp hya with rfl | hya
          · exact lt_irrefl _ hgt
          · exact lt_asymm hgt (ha.1 y hya)
        exact ihb (pairwise_cons.mp hb).2 ((mem_cons.mp hyb).resolve_left hne)

/-- One cursor is in its second block already: the other finds the key exactly when nothing of its
first block is above it. -/
theorem mem_matched_behind (ha : a2.Pairwise (· < ·)) (hb : b2.Pairwise (· < ·))
    (hapart : ∀ d ∈ b1, d ∉ a2) (hya : y ∈ a2) (hyb : y ∈ b2) :
    y ∈ matched a2 (b1 ++ b2) ↔ ∀ d ∈ b1, ¬y < d := by
  induction b1 generalizing a2 with
  | nil =>
    have hmet : y ∈ matched (a2 ++ []) (b2 ++ []) := mem_matched_first ha hb hya hyb
    simp only [append_nil] at hmet
    simpa using hmet
  | cons b b1 ihb =>
    induction a2 with
    | nil => cases hya
    | cons a a2 iha =>
      have ha' := pairwise_cons.mp ha
      rw [cons_append]
      rcases lt_trichotomy a b with hlt | rfl | hgt
      · rw [matched_cons_lt hlt, ← cons_append]
        by_cases hy : y = a
        · have hlost : y ∉ a2 := fun h => lt_irrefl a (hy ▸ ha'.1 y h)
          refine iff_of_false (fun h => hlost (mem_of_matched h).1) fun h => ?_
          exact h b mem_cons_self (hy ▸ hlt)
        · exact iha ha'.2 (fun d hd h => hapart d hd (mem_cons_of_mem _ h))
            ((mem_cons.mp hya).resolve_left hy)
      · exact absurd mem_cons_self (hapart a mem_cons_self)
      · have hby : b < y := by
          rcases mem_cons.mp hya with rfl | hya
          · exact hgt
          · exact hgt.trans (ha'.1 y hya)
        rw [matched_cons_gt hgt, ihb ha (fun d hd => hapart d (mem_cons_of_mem _ hd)) hya]
        simp [hby.le]

/-- Whatever of the first blocks is above the key, a common key of theirs is not below that. -/
def Clear (a₁ b₁ : List κ) (y : κ) : Prop :=
  ∀ d, d ∈ a₁ ∨ d ∈ b₁ → y < d → ∃ d', d' ∈ a₁ ∧ d' ∈ b₁ ∧ d ≤ d'

theorem Clear.comm : Clear a1 b1 y ↔ Clear b1 a1 y := by
  unfold Clear
  simp only [or_comm, and_left_comm]

theorem clear_nil_left : Clear [] b1 y ↔ ∀ d ∈ b1, ¬y < d := by simp [Clear]

theorem clear_cons_lt {a b : κ} (hb : (b :: b1).Pairwise (· < ·)) (h : a < b) :
    Clear (a :: a1) (b :: b1) y ↔ Clear a1 (b :: b1) y := by
  have hnot : a ∉ b :: b1 := by
    intro hmem
    rcases mem_cons.mp hmem with rfl | hmem
    · exact lt_irrefl _ h
    · exact lt_asymm h ((pairwise_cons.mp hb).1 a hmem)
  constructor
  · intro hclear d hd hy
    obtain ⟨d', hda, hdb, hle⟩ := hclear d (hd.imp_left (mem_cons_of_mem _)) hy
    rcases mem_cons.mp hda with rfl | hda
    · exact absurd hdb hnot
    · exact ⟨d', hda, hdb, hle⟩
  · intro hclear d hd hy
    rcases hd with hd | hd
    · rcases mem_cons.mp hd with rfl | hd
      · obtain ⟨d', hda, hdb, hle⟩ := hclear b (.inr mem_cons_self) (hy.trans h)
        exact ⟨d', mem_cons_of_mem _ hda, hdb, h.le.trans hle⟩
      · obtain ⟨d', hda, hdb, hle⟩ := hclear d (.inl hd) hy
        exact ⟨d', mem_cons_of_mem _ hda, hdb, hle⟩
    · obtain ⟨d', hda, hdb, hle⟩ := hclear d (.inr hd) hy
      exact ⟨d', mem_cons_of_mem _ hda, hdb, hle⟩

theorem clear_cons_self {a : κ} (ha : (a :: a1).Pairwise (· < ·))
    (hb : (a :: b1).Pairwise (· < ·)) : Clear (a :: a1) (a :: b1) y ↔ Clear a1 b1 y := by
  constructor
  · intro hclear d hd hy
    have had : a < d := hd.elim ((pairwise_cons.mp ha).1 d) ((pairwise_cons.mp hb).1 d)
    obtain ⟨d', hda, hdb, hle⟩ := hclear d (hd.imp (mem_cons_of_mem _) (mem_cons_of_mem _)) hy
    have hne : d' ≠ a := (had.trans_le hle).ne'
    exact ⟨d', (mem_cons.mp hda).resolve_left hne, (mem_cons.mp hdb).resolve_left hne, hle⟩
  · intro hclear d hd hy
    by_cases hda : d = a
    · exact ⟨a, mem_cons_self, mem_cons_self, hda.le⟩
    · have hd := hd.imp (fun h => (mem_cons.mp h).resolve_left hda)
        fun h => (mem_cons.mp h).resolve_left hda
      obtain ⟨d', ha', hb', hle⟩ := hclear d hd hy
      exact ⟨d', mem_cons_of_mem _ ha', mem_cons_of_mem _ hb', hle⟩

/-- A common key of the second blocks is found exactly when the first blocks are clear of it. -/
theorem mem_matched_second_iff (ha1 : a1.Pairwise (· < ·)) (ha2 : a2.Pairwise (· < ·))
    (hb1 : b1.Pairwise (· < ·)) (hb2 : b2.Pairwise (· < ·)) (hab : ∀ d ∈ a1, d ∉ b2)
    (hba : ∀ d ∈ b1, d ∉ a2) (hya : y ∈ a2) (hyb : y ∈ b2) :
    y ∈ matched (a1 ++ a2) (b1 ++ b2) ↔ Clear a1 b1 y := by
  induction a1 generalizing b1 with
  | nil => rw [clear_nil_left, nil_append, mem_matched_behind ha2 hb2 hba hya hyb]
  | cons a a1 iha =>
    have ha := pairwise_cons.mp ha1
    have hab' : ∀ d ∈ a1, d ∉ b2 := fun d hd => hab d (mem_cons_of_mem _ hd)
    induction b1 with
    | nil =>
      rw [Clear.comm, clear_nil_left, nil_append, matched_comm,
        mem_matched_behind hb2 ha2 hab hyb hya]
    | cons b b1 ihb =>
      have hb := pairwise_cons.mp hb1
      have hba' : ∀ d ∈ b1, d ∉ a2 := fun d hd => hba d (mem_cons_of_mem _ hd)
      simp only [cons_append] at iha ihb ⊢
      rcases lt_trichotomy a b with hlt | rfl | hgt
      · rw [matched_cons_lt hlt, clear_cons_lt hb1 hlt, ← cons_append, iha ha.2 hb1 hab' hba]
      · have hne : y ≠ a := fun h => hab a mem_cons_self (h ▸ hyb)
        rw [matched_cons_self, clear_cons_self ha1 hb1, mem_cons, iha ha.2 hb.2 hab' hba']
        simp [hne]
      · rw [matched_cons_gt hgt, Clear.comm, clear_cons_lt ha1 hgt, Clear.comm]
        exact ihb hb.2 hba'

end Blocks

section Result

variable {key : ε → κ} {ask : ρ → κ} {make : ρ → ε} {same : ε → ρ → Bool}

section
variable {e : ε} {r : ρ} {es : List ε} {rs : List ρ}

theorem join_cons_eq (h : key e = ask r) :
    join key ask make same (e :: es) (r :: rs) =
      if same e r then (e :: (join key ask make same es rs).1, (join key ask make same es rs).2)
      else (make r :: (join key ask make same es rs).1, true) := by
  rw [join, if_neg h.not_lt, if_neg h.not_gt]

end

/-- The result is what was asked for, in that order. -/
theorem join_settled (hmake : ∀ r, key (make r) = ask r ∧ same (make r) r = true) (es : List ε)
    (rs : List ρ) :
    List.Forall₂ (fun e r => key e = ask r ∧ same e r = true)
      (join key ask make same es rs).1 rs := by
  fun_induction join key ask make same es rs with
  | case5 e _ r _ hle hge => simp_all [le_antisymm (not_lt.mp hge) (not_lt.mp hle)]
  | _ => simp_all

/-- Nothing is reported as changed exactly when the entries are what was asked for, in that
order. -/
theorem join_unchanged_iff (es : List ε) (rs : List ρ) :
    (join key ask make same es rs).2 = false ↔
      List.Forall₂ (fun e r => key e = ask r ∧ same e r = true) es rs := by
  fun_induction join key ask make same es rs with
  | case1 es => cases es <;> simp
  | case2 => simp
  | case3 _ _ _ _ hlt => simp [hlt.ne]
  | case4 _ _ _ _ _ hgt => simp [hgt.ne']
  | case5 e _ r _ hle hge => simp_all [le_antisymm (not_lt.mp hge) (not_lt.mp hle)]
  | case6 _ _ _ _ _ _ hsame => simp [hsame]

theorem join_of_unchanged {es : List ε} {rs : List ρ}
    (h : List.Forall₂ (fun e r => key e = ask r ∧ same e r = true) es rs) :
    (join key ask make same es rs).1 = es := by
  induction h with
  | nil => simp [join]
  | cons h _ ih => simp [join_cons_eq h.1, h.2, ih]

/-- An entry of the result is made for a request, or it is an old one that a request has met. -/
def Resolved (key : ε → κ) (ask : ρ → κ) (make : ρ → ε) (same : ε → ρ → Bool) (es : List ε)
    (rs : List ρ) (x : ε) : Prop :=
  ∃ r ∈ rs, x = make r ∨ key x = ask r ∧ same x r = true ∧ key x ∈ matched (es.map key) (rs.map ask)

theorem Resolved.mono {es es' : List ε} {rs rs' : List ρ} {x : ε}
    (h : Resolved key ask make same es rs x) (hrs : rs ⊆ rs')
    (hmatched : matched (es.map key) (rs.map ask) ⊆ matched (es'.map key) (rs'.map ask)) :
    Resolved key ask make same es' rs' x := by
  obtain ⟨r, hr, hx⟩ := h
  exact ⟨r, hrs hr, hx.imp_right fun ⟨hkey, hsame, hmet⟩ => ⟨hkey, hsame, hmatched hmet⟩⟩

theorem resolved_of_mem {es : List ε} {rs : List ρ} {x : ε}
    (hx : x ∈ (join key ask make same es rs).1) : Resolved key ask make same es rs x := by
  fun_induction join key ask make same es rs with
  | case1 => cases hx
  | case2 r rs ih =>
    rcases mem_cons.mp hx with rfl | hx
    · exact ⟨r, mem_cons_self, .inl rfl⟩
    · exact (ih hx).mono (subset_cons_self _ _) (by simp)
  | case3 e es r rs hlt ih =>
    refine (ih hx).mono (List.Subset.refl _) ?_
    simp only [map_cons, matched_cons_lt hlt, List.Subset.refl]
  | case4 e es r rs hle hgt ih =>
    rcases mem_cons.mp hx with rfl | hx
    · exact ⟨r, mem_cons_self, .inl rfl⟩
    · refine (ih hx).mono (subset_cons_self _ _) ?_
      simp only [map_cons, matched_cons_gt hgt, List.Subset.refl]
  | case5 e es r rs hle hge hsame ih =>
    have heq : key e = ask r := le_antisymm (not_lt.mp hge) (not_lt.mp hle)
    rcases mem_cons.mp hx with rfl | hx
    · exact ⟨r, mem_cons_self, .inr ⟨heq, hsame, by simp [heq, matched_cons_self]⟩⟩
    · refine (ih hx).mono (subset_cons_self _ _) ?_
      simp only [map_cons, heq, matched_cons_self, subset_cons_self]
  | case6 e es r rs hle hge hsame ih =>
    have heq : key e = ask r := le_antisymm (not_lt.mp hge) (not_lt.mp hle)
    rcases mem_cons.mp hx with rfl | hx
    · exact ⟨r, mem_cons_self, .inl rfl⟩
    · refine (ih hx).mono (subset_cons_self _ _) ?_
      simp only [map_cons, heq, matched_cons_self, subset_cons_self]

/-- Behind a common key, the others are met by the rest of the walk. -/
theorem met_behind {e x : ε} {r r' : ρ} {es : List ε} {rs : List ρ} (heq : key e = ask r')
    (hes : ((e :: es).map key).Nodup) (hx : x ∈ e :: es) (hne : x ≠ e) (hr : r ∈ r' :: rs)
    (hkey : key x = ask r) (hmet : key x ∈ matched ((e :: es).map key) ((r' :: rs).map ask)) :
    x ∈ es ∧ r ∈ rs ∧ key x ∈ matched (es.map key) (rs.map ask) := by
  rw [map_cons, nodup_cons] at hes
  have hx : x ∈ es := (mem_cons.mp hx).resolve_left hne
  have hkeys : key x ≠ ask r' := fun h => hes.1 (heq ▸ h ▸ mem_map_of_mem hx)
  rw [map_cons, map_cons, heq, matched_cons_self, mem_cons] at hmet
  refine ⟨hx, (mem_cons.mp hr).resolve_left ?_, hmet.resolve_left hkeys⟩
  rintro rfl
  exact hkeys hkey

/-- An entry that the cursors meet and that is still what was asked for stays. -/
theorem mem_join_of_matched {es : List ε} {rs : List ρ} {x : ε} {r : ρ}
    (hes : (es.map key).Nodup) (hrs : (rs.map ask).Nodup) (hx : x ∈ es) (hr : r ∈ rs)
    (hkey : key x = ask r) (hsame : same x r = true)
    (hmet : key x ∈ matched (es.map key) (rs.map ask)) :
    x ∈ (join key ask make same es rs).1 := by
  fun_induction join key ask make same es rs with
  | case1 es => cases hr
  | case2 r' rs ih => cases hx
  | case3 e es r' rs hlt ih =>
    rw [map_cons, nodup_cons] at hes
    rw [map_cons, map_cons, matched_cons_lt hlt] at hmet
    refine ih hes.2 hrs ?_ hr hmet
    refine (mem_cons.mp hx).resolve_left ?_
    rintro rfl
    exact hes.1 (mem_of_matched hmet).1
  | case4 e es r' rs hle hgt ih =>
    rw [map_cons, nodup_cons] at hrs
    rw [map_cons, map_cons, matched_cons_gt hgt] at hmet
    refine mem_cons_of_mem _ (ih hes hrs.2 hx ?_ hmet)
    refine (mem_cons.mp hr).resolve_left ?_
    rintro rfl
    exact hrs.1 (hkey ▸ (mem_of_matched hmet).2)
  | case5 e es r' rs hle hge hsame' ih =>
    have heq : key e = ask r' := le_antisymm (not_lt.mp hge) (not_lt.mp hle)
    rw [mem_cons]
    by_cases hne : x = e
    · exact .inl hne
    · obtain ⟨hx, hr, hmet⟩ := met_behind heq hes hx hne hr hkey hmet
      exact .inr (ih hes.of_cons hrs.of_cons hx hr hmet)
  | case6 e es r' rs hle hge hsame' ih =>
    have heq : key e = ask r' := le_antisymm (not_lt.mp hge) (not_lt.mp hle)
    rw [mem_cons]
    by_cases hne : x = e
    · subst hne
      rcases mem_cons.mp hr with rfl | hr
      · exact absurd hsame hsame'
      · rw [map_cons, nodup_cons, ← heq, hkey] at hrs
        exact absurd (mem_map_of_mem hr) hrs.1
    · obtain ⟨hx, hr, hmet⟩ := met_behind heq hes hx hne hr hkey hmet
      exact .inr (ih hes.of_cons hrs.of_cons hx hr hmet)

end Result

end MergeJoin
