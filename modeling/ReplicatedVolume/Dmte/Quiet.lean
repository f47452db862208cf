import ReplicatedVolume.Dmte.Outcomes

/-!
# Reconciliations that report no change

When `process` reports that nothing changed, every action on the way reported the same. A point that
some phase always asks is then asked, and what it is bound to do stays done.
-/

namespace ReplicatedVolume.Dmte.Respected
open Option

variable {G R : Type} {D : Domain G R} {I : Engine G → Prop} {T : Engine G → Engine G → Bool → Prop}
  {S : Engine G → Prop} {e0 e e' : Engine G} {point : G → Option (Decision G R)}

/-- A reconciliation without a change is one settling pass and one round of
the dispatchers. -/
theorem processLoop_parts {rounds : ℕ}
    (hrun : Dmte.processLoop D (rounds + 1) e = some (e', false)) :
    ∃ e1, Dmte.settleLoop D (settleFuel e) e = some (e1, false) ∧
      Dmte.runDispatchers D D.dispatchers e1 = some (e', false) := by
  simp only [Dmte.processLoop, bind_eq_bind, bind_eq_some_iff, Prod.exists] at hrun
  obtain ⟨e1, c1, h1, e2, c2, h2, hrun⟩ := hrun
  cases c2 with
  | true =>
    simp only [if_true, bind_eq_some_iff, some.injEq, Prod.mk.injEq,
      Bool.true_eq_false, and_false, exists_false] at hrun
  | false =>
    simp only [Bool.false_eq_true, if_false, some.injEq, Prod.mk.injEq] at hrun
    obtain ⟨rfl, rfl⟩ := hrun
    exact ⟨e1, h1, h2⟩

/-- However the reconciliation came to it, a quiet action finds `S` or brings it about. -/
def Binds (I : Engine G → Prop) (T : Engine G → Engine G → Bool → Prop) (e₀ : Engine G)
    (S : Engine G → Prop) (act : Engine G → Option (Engine G × Bool)) : Prop :=
  ∀ e e', I e → T e₀ e false → act e = some (e', false) → S e ∨ S e'

theorem binds_inRow (h : Respected D I T) (hkeep : ∀ e e', S e → T e e' false → S e') {α : Type}
    {act : α → Engine G → Option (Engine G × Bool)} {as : List α}
    (hact : ∀ a ∈ as, ∀ e e' c, I e → act a e = some (e', c) → I e' ∧ T e e' c) {a : α}
    (ha : a ∈ as) (hbinds : Binds I T e0 S (act a)) : Binds I T e0 S (Dmte.inRow act as) := by
  intro e e' hI h0 hrun
  induction as generalizing e with
  | nil => cases ha
  | cons a' as ih =>
    simp only [Dmte.inRow, bind_eq_bind, bind_eq_some_iff, some.injEq,
      Prod.mk.injEq, Prod.exists] at hrun
    obtain ⟨e1, c1, h1, e2, c2, h2, rfl, hc⟩ := hrun
    obtain ⟨rfl, rfl⟩ := Bool.or_eq_false_iff.mp hc
    have hrest := fun b hb => hact b (List.mem_cons_of_mem a' hb)
    obtain ⟨hI1, hT1⟩ := hact a' List.mem_cons_self e e1 false hI h1
    have hT2 := (h.inRow hrest hI1 h2).2
    rcases List.mem_cons.mp ha with rfl | ha
    · exact (hbinds e e1 hI h0 h1).imp_right fun hS => hkeep e1 e2 hS hT2
    · rcases ih hrest ha e1 hI1 (h.trans _ _ _ _ _ h0 hT1) h2 with hS | hS
      · exact .inr (hkeep e1 e2 hS hT2)
      · exact .inr hS

theorem process_binds (h : Respected D I T) (hkeep : ∀ e e', S e → T e e' false → S e')
    (hI : I e) (hbinds : Binds I T e S (Dmte.askPoint D point)) {dispatcher : Dispatcher G R}
    (hdispatcher : dispatcher ∈ D.dispatchers) {phase : G → List (G → Option (Decision G R))}
    (hphase : phase ∈ dispatcher) (hpoint : ∀ g, point ∈ phase g)
    (hrun : Dmte.process D e = some (e', false)) : S e' := by
  obtain ⟨e1, h1, h2⟩ := processLoop_parts hrun
  obtain ⟨hI1, hT1⟩ := h.settleLoop hI h1
  suffices hasked : S e1 ∨ S e' from
    hasked.elim (fun hS => hkeep e1 e' hS (h.runDispatchers hI1 h2).2) id
  rw [runDispatchers_inRow] at h2
  refine h.binds_inRow hkeep (fun _ hd _ _ _ => h.runDispatch hd) hdispatcher ?_ e1 e' hI1 hT1 h2
  intro e2 e3 hI2 h0 hrun
  beta_reduce at hrun
  rw [runDispatch_inRow] at hrun
  refine h.binds_inRow hkeep (fun _ hp _ _ _ => h.runPoints hdispatcher hp) hphase ?_ e2 e3 hI2 h0
    hrun
  intro e4 e5 hI4 h0 hrun
  have hrow := (runPoints_inRow (phase e4.global) e4).symm.trans hrun
  exact h.binds_inRow hkeep (fun p hp _ _ _ => h.askPoint fun _ _ hd =>
    ⟨dispatcher, hdispatcher, phase, hphase, e4.global, p, hp, hd⟩) (hpoint e4.global) hbinds
    e4 e5 hI4 h0 hrow

end ReplicatedVolume.Dmte.Respected
