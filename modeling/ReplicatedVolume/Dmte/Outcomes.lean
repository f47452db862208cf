import ReplicatedVolume.Dmte.Engine

/-!
# What the engine's functions can do

Each function of the engine is inverted once, into the list of its outcomes.
A relation between engines that is reflexive and transitive, holds for every
round of a settling pass and for every decision, holds for `process`.
-/

namespace ReplicatedVolume.Dmte
open List Option

variable {c : Bool} {cr : ConfirmResult} {changed progressed : Bool} {planID : PlanID}

section
variable {G R : Type} {D : Domain G R} {e e' : Engine G} {rctx : Option R} {k idx : ℕ} {mc : Bool}

theorem confirmAndReport_eq_some {p : Plan G R}
    (h : confirmAndReport D p e k rctx idx = some (e', cr, mc)) :
    ∃ step s raw composed, p.steps[idx]? = some step ∧ (e.heap k).steps[idx]? = some s ∧
      step.confirm e.global rctx s.datameshRevision = some cr ∧
      e' = setStatus p rctx composed step.details
        (e.store k ((e.heap k).setStep idx { s with message := raw })) := by
  simp only [confirmAndReport, confirmStep, bind_eq_bind, bind_eq_some_iff,
    some.injEq, Prod.mk.injEq, Prod.exists] at h
  obtain ⟨e1, cr1, composed, mc1, ⟨step, hstep, s, hs, cr2, hcr, rfl, rfl, -, -⟩, step', hstep',
    rfl, rfl, -⟩ := h
  rw [hstep] at hstep'
  cases hstep'
  exact ⟨step, s, _, composed, hstep, hs, hcr, rfl⟩

theorem applyStep_eq_some {p : Plan G R} (h : applyStep p e k rctx idx = some e') :
    ∃ step s g changed, p.steps[idx]? = some step ∧ (e.heap k).steps[idx]? = some s ∧
      step.apply e.global rctx = some (g, changed) ∧
      e' = { (e.store k ((e.heap k).setStep idx
          { s with datameshRevision := if changed then e.revision + 1 else e.revision })) with
        global := g, revision := if changed then e.revision + 1 else e.revision } := by
  simp only [applyStep, bind_eq_bind, bind_eq_some_iff, some.injEq, Prod.exists] at h
  obtain ⟨step, hstep, s, hs, g, changed, hg, rfl⟩ := h
  exact ⟨step, s, g, changed, hstep, hs, hg, rfl⟩

theorem completeTransition_eq_some {p : Plan G R} (h : completeTransition D p e k rctx = some e') :
    ∃ g, p.onComplete e.global rctx = some g ∧
      e' = deleteTransition D (setActive p rctx none { e with global := g }) k := by
  simp only [completeTransition, bind_eq_bind, bind_eq_some_iff, some.injEq] at h
  obtain ⟨g, hg, rfl⟩ := h
  exact ⟨g, hg, rfl⟩

def subject (D : Domain G R) (p : Plan G R) (e : Engine G) (k : ℕ) : Option R :=
  if p.scope = .replica then (e.heap k).replica.bind (D.replica e.global) else none

def ConfirmResult.Holds (cr : ConfirmResult) : Prop :=
  cr.confirmed ∩ cr.mustConfirm = cr.mustConfirm

theorem ConfirmResult.Holds.mem (h : cr.Holds) (id : ReplicaID)
    (hid : id ∈ cr.mustConfirm) : id ∈ cr.confirmed := by
  unfold ConfirmResult.Holds at h
  rw [← h] at hid
  exact (Finset.mem_inter.mp hid).1

/-- The outcomes of `settleOne`: no plan, all steps done, still waiting, the
next step applied, the last step confirmed. -/
inductive Settled (D : Domain G R) (e : Engine G) (k : ℕ) : Engine G → Bool → Bool → Prop
  | unknown (hget : D.get (e.heap k).type (e.heap k).planID = none) : Settled D e k e false false
  | finished {p e'} (hget : D.get (e.heap k).type (e.heap k).planID = some p)
      (hidx : findCurrentStepIdx (e.heap k) = none)
      (hdone : completeTransition D p e k (subject D p e k) = some e') :
      Settled D e k (e'.record e .completed (e.heap k)) true true
  | waiting {p idx e' cr mc} (hget : D.get (e.heap k).type (e.heap k).planID = some p)
      (hidx : findCurrentStepIdx (e.heap k) = some idx)
      (hconf : confirmAndReport D p e k (subject D p e k) idx = some (e', cr, mc)) :
      Settled D e k e' mc false
  | advanced {p idx e₁ cr mc step g e₃ e₄ cr' mc'}
      (hget : D.get (e.heap k).type (e.heap k).planID = some p)
      (hidx : findCurrentStepIdx (e.heap k) = some idx)
      (hconf : confirmAndReport D p e k (subject D p e k) idx = some (e₁, cr, mc))
      (hholds : cr.Holds) (hstep : p.steps[idx]? = some step)
      (hcomp : step.onComplete e₁.global (subject D p e k) = some g)
      (hlt : idx + 1 < (e.heap k).steps.length)
      (happly : applyStep p (({ e₁ with global := g } : Engine G).store k
        (advanceStep (e₁.heap k) idx)) k (subject D p e k) (idx + 1) = some e₃)
      (hreport : confirmAndReport D p e₃ k (subject D p e k) (idx + 1) = some (e₄, cr', mc')) :
      Settled D e k (e₄.record e .advanced (e.heap k)) true true
  | completed {p idx e₁ cr mc step g e₃}
      (hget : D.get (e.heap k).type (e.heap k).planID = some p)
      (hidx : findCurrentStepIdx (e.heap k) = some idx)
      (hconf : confirmAndReport D p e k (subject D p e k) idx = some (e₁, cr, mc))
      (hholds : cr.Holds) (hstep : p.steps[idx]? = some step)
      (hcomp : step.onComplete e₁.global (subject D p e k) = some g)
      (hlast : ¬idx + 1 < (e.heap k).steps.length)
      (hdone : completeTransition D p { e₁ with global := g } k (subject D p e k) = some e₃) :
      Settled D e k (e₃.record e .completed (e.heap k)) true true

theorem settleOne_eq_some (h : settleOne D e k = some (e', changed, progressed)) :
    Settled D e k e' changed progressed := by
  unfold settleOne at h
  cases hget : D.get (e.heap k).type (e.heap k).planID with
  | none =>
    simp only [hget, some.injEq, Prod.mk.injEq] at h
    obtain ⟨rfl, rfl, rfl⟩ := h
    exact .unknown hget
  | some p =>
    have hsub : (if p.scope = .replica then (e.heap k).replica.bind (D.replica e.global)
        else none) = subject D p e k := rfl
    simp only [hget, hsub] at h
    cases hidx : findCurrentStepIdx (e.heap k) with
    | none =>
      simp only [hidx, bind_eq_bind, bind_eq_some_iff, some.injEq, Prod.mk.injEq] at h
      obtain ⟨e1, he1, rfl, rfl, rfl⟩ := h
      exact .finished hget hidx he1
    | some idx =>
      simp only [hidx, bind_eq_bind, bind_eq_some_iff, Prod.exists] at h
      obtain ⟨e1, cr, mc, hconf, h⟩ := h
      split_ifs at h with hne hlt
      · simp only [some.injEq, Prod.mk.injEq] at h
        obtain ⟨rfl, rfl, rfl⟩ := h
        exact .waiting hget hidx hconf
      · simp only [bind_eq_some_iff, some.injEq, Prod.mk.injEq, Prod.exists] at h
        obtain ⟨step, hstep, g, hg, e3, he3, e4, cr', mc', hreport, rfl, rfl, rfl⟩ := h
        exact .advanced hget hidx hconf (not_not.mp hne) hstep hg hlt he3 hreport
      · simp only [bind_eq_some_iff, some.injEq, Prod.mk.injEq] at h
        obtain ⟨step, hstep, g, hg, e3, he3, rfl, rfl, rfl⟩ := h
        exact .completed hget hidx hconf (not_not.mp hne) hstep hg hlt he3

/-- The outcomes of `dispatchOne` after the slot was cleared: a conflict in the
slot, a blocking guard, a refusal, or a new transition. -/
inductive Dispatched (D : Domain G R) (p : Plan G R) (planID : PlanID) (rctx : Option R)
    (e : Engine G) : Engine G → Bool → Prop
  | conflict {ref} (hslot : rctx.bind (p.slot.getActiveTransition e.global) = some ref) :
      Dispatched D p planID rctx e (reportConflict D p rctx ref e) false
  | blocked {result g} (message : String) (details : Option String)
      (hguards : evaluateGuards rctx p.guards e.global = some (result, g)) :
      Dispatched D p planID rctx e (setStatus p rctx message details { e with global := g }) false
  | created {result g replica tempT t e₁ e₂ cr mc}
      (hslot : rctx.bind (p.slot.getActiveTransition e.global) = none)
      (hguards : evaluateGuards rctx p.guards e.global = some (result, g))
      (hpass : result.blocked = false)
      (hreplica : replica = if p.scope = .replica then rctx.bind (D.replicaName g) else none)
      (htemp : p.init g rctx (stubTransition p replica) = some tempT)
      (hallowed : (D.canAdmit g tempT).allowed = true)
      (hnamed : ¬(p.scope = .replica ∧ replica = none))
      (hinit : p.init g rctx (blankTransition p planID replica) = some t)
      (happly : applyStep p (insertTransition D p rctx t { e with global := g }) e.next rctx 0 =
        some e₁)
      (hreport : confirmAndReport D p e₁ e.next rctx 0 = some (e₂, cr, mc)) :
      Dispatched D p planID rctx e (e₂.record { e with global := g } .created (e₂.heap e.next)) true

theorem createTransition_eq_some {p : Plan G R}
    {replica : Option ReplicaID}
    (h : createTransition D p planID rctx replica e = some e') :
    ¬(p.scope = .replica ∧ replica = none) ∧ ∃ t e1 e2 cr mc,
      p.init e.global rctx (blankTransition p planID replica) = some t ∧
      applyStep p (insertTransition D p rctx t e) e.next rctx 0 = some e1 ∧
      confirmAndReport D p e1 e.next rctx 0 = some (e2, cr, mc) ∧
      e' = e2.record e .created (e2.heap e.next) := by
  unfold createTransition at h
  split at h
  · cases h
  · next hnamed =>
      simp only [bind_eq_bind, bind_eq_some_iff, some.injEq, Prod.exists] at h
      obtain ⟨t, hinit, e1, happly, e2, cr, mc, hreport, rfl⟩ := h
      exact ⟨hnamed, t, e1, e2, cr, mc, hinit, happly, hreport, rfl⟩

theorem dispatchOne_eq_some {p : Plan G R}
    {created : Bool} (h : dispatchOne D p planID rctx e = some (e', created)) :
    Dispatched D p planID rctx (cancelActive D p rctx e) e' created := by
  unfold dispatchOne at h
  generalize cancelActive D p rctx e = e at h ⊢
  cases hslot : rctx.bind (p.slot.getActiveTransition e.global) with
  | some ref =>
    simp only [hslot, some.injEq, Prod.mk.injEq] at h
    obtain ⟨rfl, rfl⟩ := h
    exact .conflict hslot
  | none =>
    simp only [hslot, bind_eq_bind, bind_eq_some_iff, Prod.exists] at h
    obtain ⟨result, g, hguards, h⟩ := h
    by_cases hblocked : result.blocked = true
    · simp only [hblocked, if_true, some.injEq, Prod.mk.injEq] at h
      obtain ⟨rfl, rfl⟩ := h
      exact .blocked _ _ hguards
    · simp only [hblocked, Bool.false_eq_true, if_false, bind_eq_some_iff] at h
      obtain ⟨tempT, htemp, h⟩ := h
      by_cases hallowed : (D.canAdmit g tempT).allowed = true
      · simp only [hallowed, if_true, bind_eq_some_iff, some.injEq, Prod.mk.injEq] at h
        obtain ⟨e3, h3, rfl, rfl⟩ := h
        obtain ⟨hnamed, t, e1, e2, cr, mc, hinit, happly, hreport, rfl⟩ :=
          createTransition_eq_some h3
        exact .created hslot hguards (Bool.eq_false_iff.mpr hblocked) rfl htemp hallowed hnamed
          hinit happly hreport
      · simp only [hallowed, Bool.false_eq_true, if_false, some.injEq, Prod.mk.injEq] at h
        obtain ⟨rfl, rfl⟩ := h
        exact .blocked _ _ hguards

@[simp]
theorem setStatus_transitions (p : Plan G R) (rctx : Option R) (message : String)
    (details : Option String) (e : Engine G) :
    (setStatus p rctx message details e).transitions = e.transitions := by
  cases rctx <;> rfl

@[simp]
theorem setActive_transitions (p : Plan G R) (rctx : Option R) (ref : Option ActiveRef)
    (e : Engine G) : (setActive p rctx ref e).transitions = e.transitions := by
  cases rctx <;> rfl

theorem confirmAndReport_transitions {p : Plan G R}
    (h : confirmAndReport D p e k rctx idx = some (e', cr, mc)) :
    e'.transitions = e.transitions := by
  obtain ⟨step, s, raw, composed, -, -, -, rfl⟩ := confirmAndReport_eq_some h
  simp [Engine.store]

theorem completeTransition_transitions {p : Plan G R}
    (h : completeTransition D p e k rctx = some e') :
    e'.transitions = e.transitions.erase k := by
  obtain ⟨g, -, rfl⟩ := completeTransition_eq_some h
  simp [deleteTransition]

theorem applyStep_transitions {p : Plan G R}
    (h : applyStep p e k rctx idx = some e') : e'.transitions = e.transitions := by
  obtain ⟨step, s, g, changed, -, -, -, rfl⟩ := applyStep_eq_some h
  rfl

theorem Settled.transitions_eq (h : Settled D e k e' changed progressed) :
    e'.transitions = e.transitions ∨ e'.transitions = e.transitions.erase k := by
  cases h with
  | unknown => exact .inl rfl
  | finished _ _ hdone =>
    right
    simp [Engine.record, completeTransition_transitions hdone]
  | waiting _ _ hconf => exact .inl (confirmAndReport_transitions hconf)
  | advanced _ _ hconf _ _ _ _ happly hreport =>
    left
    simp [Engine.record, Engine.store, confirmAndReport_transitions hreport,
      applyStep_transitions happly, confirmAndReport_transitions hconf]
  | completed _ _ hconf _ _ _ _ hdone =>
    right
    simp [Engine.record, completeTransition_transitions hdone, confirmAndReport_transitions hconf]

def Decided (D : Domain G R) (g : G) (d : Decision G R) : Prop :=
  ∃ dispatcher ∈ D.dispatchers, ∃ phase ∈ dispatcher, ∃ g₀, ∃ point ∈ phase g₀, point g = some d

/-- Actions in a row, with the flag that tells whether one of them did anything. -/
def inRow {α : Type} (act : α → Engine G → Option (Engine G × Bool)) :
    List α → Engine G → Option (Engine G × Bool)
  | [], e => some (e, false)
  | a :: as, e => do
    let (e, c) ← act a e
    let (e, c') ← inRow act as e
    some (e, c || c')

def askPoint (D : Domain G R) (point : G → Option (Decision G R)) (e : Engine G) :
    Option (Engine G × Bool) :=
  match point e.global with
  | none => some (e, false)
  | some d => runDecision D d e

theorem runPoints_inRow (points : List (G → Option (Decision G R))) (e : Engine G) :
    runPoints D points e = inRow (askPoint D) points e := by
  induction points generalizing e with
  | nil => rfl
  | cons point points ih =>
    cases hd : point e.global with
    | none =>
      simp only [runPoints, inRow, askPoint, hd, ih, bind_eq_bind, bind_some]
      cases inRow (askPoint D) points e <;> rfl
    | some d => simp only [runPoints, inRow, askPoint, hd, ih]

theorem runDispatch_inRow (phases : Dispatcher G R) (e : Engine G) :
    runDispatch D phases e = inRow (fun phase e => runPoints D (phase e.global) e) phases e := by
  induction phases generalizing e with
  | nil => rfl
  | cons phase phases ih => simp only [runDispatch, inRow, ih]

theorem runDispatchers_inRow (ds : List (Dispatcher G R)) (e : Engine G) :
    runDispatchers D ds e = inRow (runDispatch D) ds e := by
  induction ds generalizing e with
  | nil => rfl
  | cons d ds ih => simp only [runDispatchers, inRow, ih]

/-- An invariant `I` and a relation `T` between engines, with the flag that
tells whether anything changed, that every elementary action respects. -/
structure Respected (D : Domain G R) (I : Engine G → Prop)
    (T : Engine G → Engine G → Bool → Prop) : Prop where
  refl : ∀ e, T e e false
  trans : ∀ e₁ e₂ e₃ c c', T e₁ e₂ c → T e₂ e₃ c' → T e₁ e₃ (c || c')
  nodup : ∀ e, I e → e.transitions.Nodup
  settle : ∀ e k e' c p, I e → k ∈ e.transitions → Settled D e k e' c p → I e' ∧ T e e' c
  decision : ∀ e d e' c, I e → Decided D e.global d → runDecision D d e = some (e', c) →
    I e' ∧ T e e' c

namespace Respected
variable {I : Engine G → Prop} {T : Engine G → Engine G → Bool → Prop} {e e' : Engine G}

theorem settleList (h : Respected D I T) {ks : List ℕ} {p : Bool}
    (hI : I e) (hks : ks.Nodup) (hsub : ∀ k ∈ ks, k ∈ e.transitions)
    (hrun : settleList D ks e = some (e', c, p)) : I e' ∧ T e e' c := by
  induction ks generalizing e e' c p with
  | nil =>
    simp only [Dmte.settleList, some.injEq, Prod.mk.injEq] at hrun
    obtain ⟨rfl, rfl, -⟩ := hrun
    exact ⟨hI, h.refl e⟩
  | cons k ks ih =>
    simp only [Dmte.settleList, bind_eq_bind, bind_eq_some_iff, some.injEq,
      Prod.mk.injEq, Prod.exists] at hrun
    obtain ⟨e1, c1, p1, h1, e2, c2, p2, h2, rfl, rfl, -⟩ := hrun
    have hsettled := settleOne_eq_some h1
    obtain ⟨hI1, hT1⟩ := h.settle e k e1 c1 p1 hI (hsub k (by simp)) hsettled
    obtain ⟨hk, hks⟩ := nodup_cons.mp hks
    have hsub' : ∀ k' ∈ ks, k' ∈ e1.transitions := by
      intro k' hk'
      have hmem := hsub k' (mem_cons_of_mem k hk')
      have hne : k' ≠ k := fun heq => hk (heq ▸ hk')
      rcases hsettled.transitions_eq with heq | heq
      · rwa [heq]
      · rwa [heq, mem_erase_of_ne hne]
    obtain ⟨hI2, hT2⟩ := ih hI1 hks hsub' h2
    exact ⟨hI2, h.trans _ _ _ _ _ hT1 hT2⟩

theorem settleLoop (h : Respected D I T) {fuel : ℕ} (hI : I e)
    (hrun : settleLoop D fuel e = some (e', c)) : I e' ∧ T e e' c := by
  induction fuel generalizing e e' c with
  | zero =>
    simp only [Dmte.settleLoop, some.injEq, Prod.mk.injEq] at hrun
    obtain ⟨rfl, rfl⟩ := hrun
    exact ⟨hI, h.refl e⟩
  | succ fuel ih =>
    simp only [Dmte.settleLoop, settleTransitions, bind_eq_bind, bind_eq_some_iff,
      Prod.exists] at hrun
    obtain ⟨e1, c1, p1, h1, hrun⟩ := hrun
    obtain ⟨hI1, hT1⟩ := h.settleList hI (h.nodup e hI) (fun _ hk => hk) h1
    split at hrun
    · simp only [bind_eq_some_iff, some.injEq, Prod.mk.injEq, Prod.exists] at hrun
      obtain ⟨e2, c2, h2, rfl, rfl⟩ := hrun
      obtain ⟨hI2, hT2⟩ := ih hI1 h2
      exact ⟨hI2, h.trans _ _ _ _ _ hT1 hT2⟩
    · simp only [some.injEq, Prod.mk.injEq] at hrun
      obtain ⟨rfl, rfl⟩ := hrun
      exact ⟨hI1, hT1⟩

theorem inRow (h : Respected D I T) {α : Type} {act : α → Engine G → Option (Engine G × Bool)}
    {as : List α} (hact : ∀ a ∈ as, ∀ e e' c, I e → act a e = some (e', c) → I e' ∧ T e e' c)
    (hI : I e) (hrun : inRow act as e = some (e', c)) :
    I e' ∧ T e e' c := by
  induction as generalizing e e' c with
  | nil =>
    simp only [Dmte.inRow, some.injEq, Prod.mk.injEq] at hrun
    obtain ⟨rfl, rfl⟩ := hrun
    exact ⟨hI, h.refl e⟩
  | cons a as ih =>
    simp only [Dmte.inRow, bind_eq_bind, bind_eq_some_iff, some.injEq,
      Prod.mk.injEq, Prod.exists] at hrun
    obtain ⟨e1, c1, h1, e2, c2, h2, rfl, rfl⟩ := hrun
    obtain ⟨hI1, hT1⟩ := hact a mem_cons_self e e1 c1 hI h1
    obtain ⟨hI2, hT2⟩ := ih (fun a' ha' => hact a' (mem_cons_of_mem a ha')) hI1 h2
    exact ⟨hI2, h.trans _ _ _ _ _ hT1 hT2⟩

theorem askPoint (h : Respected D I T) {point : G → Option (Decision G R)}
    (hpoint : ∀ g d, point g = some d → Decided D g d) (hI : I e)
    (hrun : askPoint D point e = some (e', c)) : I e' ∧ T e e' c := by
  unfold Dmte.askPoint at hrun
  split at hrun
  · cases hrun
    exact ⟨hI, h.refl e⟩
  · next d hd => exact h.decision e d e' c hI (hpoint e.global d hd) hrun

variable {dispatcher : Dispatcher G R}

section
variable (h : Respected D I T)
include h

theorem runPoints (hdispatcher : dispatcher ∈ D.dispatchers)
    {phase : G → List (G → Option (Decision G R))}
    (hphase : phase ∈ dispatcher) (hI : I e)
    (hrun : runPoints D (phase e.global) e = some (e', c)) : I e' ∧ T e e' c := by
  rw [runPoints_inRow] at hrun
  exact h.inRow (fun point hpoint _ _ _ => h.askPoint fun _ _ hd =>
    ⟨dispatcher, hdispatcher, phase, hphase, e.global, point, hpoint, hd⟩) hI hrun

theorem runDispatch (hdispatcher : dispatcher ∈ D.dispatchers) (hI : I e)
    (hrun : runDispatch D dispatcher e = some (e', c)) : I e' ∧ T e e' c := by
  rw [runDispatch_inRow] at hrun
  exact h.inRow (fun _ hphase _ _ _ => h.runPoints hdispatcher hphase) hI hrun

theorem runDispatchers (hI : I e)
    (hrun : runDispatchers D D.dispatchers e = some (e', c)) : I e' ∧ T e e' c := by
  rw [runDispatchers_inRow] at hrun
  exact h.inRow (fun _ hd _ _ _ => h.runDispatch hd) hI hrun

theorem processLoop {rounds : ℕ} (hI : I e)
    (hrun : processLoop D rounds e = some (e', c)) : I e' ∧ T e e' c := by
  induction rounds generalizing e e' c with
  | zero =>
    simp only [Dmte.processLoop, some.injEq, Prod.mk.injEq] at hrun
    obtain ⟨rfl, rfl⟩ := hrun
    exact ⟨hI, h.refl e⟩
  | succ rounds ih =>
    simp only [Dmte.processLoop, bind_eq_bind, bind_eq_some_iff, Prod.exists] at hrun
    obtain ⟨e1, c1, h1, e2, c2, h2, hrun⟩ := hrun
    obtain ⟨hI1, hT1⟩ := h.settleLoop hI h1
    obtain ⟨hI2, hT2⟩ := h.runDispatchers hI1 h2
    have hT := h.trans _ _ _ _ _ hT1 hT2
    cases c2 with
    | true =>
      simp only [if_true, bind_eq_some_iff, some.injEq, Prod.mk.injEq, Prod.exists] at hrun
      obtain ⟨e3, c3, h3, rfl, rfl⟩ := hrun
      obtain ⟨hI3, hT3⟩ := ih hI2 h3
      exact ⟨hI3, by simpa using h.trans _ _ _ _ _ hT hT3⟩
    | false =>
      simp only [Bool.false_eq_true, if_false, some.injEq, Prod.mk.injEq] at hrun
      obtain ⟨rfl, rfl⟩ := hrun
      exact ⟨hI2, by simpa using hT⟩

/-- The invariant holds after a reconciliation, and the relation between the
engine before and after it. -/
theorem process (hI : I e) (hrun : process D e = some (e', c)) : I e' ∧ T e e' c :=
  h.processLoop hI hrun

end

end Respected

end

end ReplicatedVolume.Dmte
