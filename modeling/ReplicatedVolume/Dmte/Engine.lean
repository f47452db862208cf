import ReplicatedVolume.Dmte.Plan

/-!
# The transition engine

The shadow index is a list of pointers into a store of transitions, so that slot pointers and the
index share their targets. A settling pass walks the index once; dispatchers create transitions;
both repeat until nothing is dispatched. No function of the engine reads the event log.
-/

namespace ReplicatedVolume.Dmte

structure Snapshot (G : Type) where
  global : G
  revision : ℕ
  active : List Transition

inductive EventKind where
  | dispatched | advanced | completed | cancelled | created
  deriving DecidableEq

structure Event (G : Type) where
  kind : EventKind
  transition : Transition
  before : Snapshot G
  after : Snapshot G

structure Engine (G : Type) where
  global : G
  revision : ℕ
  heap : ℕ → Transition
  transitions : List ℕ
  next : ℕ
  log : List (Event G)

def TransitionStep.withStatus (status : StepStatus) (s : TransitionStep) : TransitionStep :=
  { s with status := status }

def advanceStep (t : Transition) (idx : ℕ) : Transition :=
  let completed := t.steps.modify idx (TransitionStep.withStatus .completed)
  { t with steps := completed.modify (idx + 1) (TransitionStep.withStatus .active) }

section
variable {G R : Type}

namespace Engine

def active (e : Engine G) : List Transition := e.transitions.map e.heap

def snapshot (e : Engine G) : Snapshot G := ⟨e.global, e.revision, e.active⟩

def store (e : Engine G) (k : ℕ) (t : Transition) : Engine G :=
  { e with heap := Function.update e.heap k t }

def record (e before : Engine G) (kind : EventKind) (t : Transition) : Engine G :=
  { e with log := ⟨kind, t, before.snapshot, e.snapshot⟩ :: e.log }

end Engine

def initSlot (D : Domain G R) (g : G) (k : ℕ) (t : Transition) : G :=
  match t.replica, D.get t.type t.planID with
  | some id, some p =>
    match p.scope, D.replica g id with
    | .replica, some r => p.slot.setActiveTransition g r (some ⟨k, t⟩)
    | _, _ => g
  | _, _ => g

def initTransitions (D : Domain G R) : ℕ → List Transition → G → G
  | _, [], g => g
  | k, t :: ts, g => initTransitions D (k + 1) ts (initSlot D (D.add g t) k t)

def newEngine (D : Domain G R) (g : G) (revision : ℕ) (ts : List Transition) : Engine G :=
  { global := initTransitions D 0 ts g
    revision := revision
    heap := fun k => ts.getD k default
    transitions := List.range ts.length
    next := ts.length
    log := [] }

def deleteTransition (D : Domain G R) (e : Engine G) (k : ℕ) : Engine G :=
  { e with
    global := D.remove e.global (e.heap k)
    transitions := e.transitions.erase k }

def setStatus (p : Plan G R) (rctx : Option R) (message : String) (details : Option String)
    (e : Engine G) : Engine G :=
  match rctx with
  | some r => { e with global := p.slot.setStatus e.global r message details }
  | none => e

def setActive (p : Plan G R) (rctx : Option R) (ref : Option ActiveRef) (e : Engine G) : Engine G :=
  match rctx with
  | some r => { e with global := p.slot.setActiveTransition e.global r ref }
  | none => e

def applyStep (p : Plan G R) (e : Engine G) (k : ℕ) (rctx : Option R) (idx : ℕ) :
    Option (Engine G) := do
  let step ← p.steps[idx]?
  let s ← (e.heap k).steps[idx]?
  let (g, changed) ← step.apply e.global rctx
  let revision := if changed then e.revision + 1 else e.revision
  some { (e.store k ((e.heap k).setStep idx { s with datameshRevision := revision })) with
    global := g, revision := revision }

/-- Run the confirm callback and store the progress message. The last
component tells whether the message changed. -/
def confirmStep (D : Domain G R) (p : Plan G R) (e : Engine G) (k : ℕ) (rctx : Option R)
    (idx : ℕ) : Option (Engine G × ConfirmResult × String × Bool) := do
  let step ← p.steps[idx]?
  let s ← (e.heap k).steps[idx]?
  let cr ← step.confirm e.global rctx s.datameshRevision
  let raw := generateProgressMessage D e.global s.datameshRevision cr
    step.diagnosticConditionTypes step.diagnosticSkipError
  some (e.store k ((e.heap k).setStep idx { s with message := raw }), cr,
    composeProgressMessage p.displayName step.name idx p.steps.length raw, s.message != raw)

def confirmAndReport (D : Domain G R) (p : Plan G R) (e : Engine G) (k : ℕ)
    (rctx : Option R) (idx : ℕ) : Option (Engine G × ConfirmResult × Bool) := do
  let (e, cr, composed, messageChanged) ← confirmStep D p e k rctx idx
  let step ← p.steps[idx]?
  some (setStatus p rctx composed step.details e, cr, messageChanged)

def completeTransition (D : Domain G R) (p : Plan G R) (e : Engine G) (k : ℕ)
    (rctx : Option R) : Option (Engine G) := do
  let g ← p.onComplete e.global rctx
  some (deleteTransition D (setActive p rctx none { e with global := g }) k)

/-- One round of a settling pass, for the transition at pointer `k`. The flags
tell whether transition storage changed and whether the transition moved. -/
def settleOne (D : Domain G R) (e : Engine G) (k : ℕ) : Option (Engine G × Bool × Bool) :=
  let t := e.heap k
  match D.get t.type t.planID with
  | none => some (e, false, false)
  | some p =>
    let rctx := if p.scope = .replica then t.replica.bind (D.replica e.global) else none
    match findCurrentStepIdx t with
    | none => do
        let e' ← completeTransition D p e k rctx
        some (e'.record e .completed t, true, true)
    | some idx => do
        let (e₁, cr, messageChanged) ← confirmAndReport D p e k rctx idx
        if cr.confirmed ∩ cr.mustConfirm ≠ cr.mustConfirm then some (e₁, messageChanged, false)
        else
          let step ← p.steps[idx]?
          let g ← step.onComplete e₁.global rctx
          let e₂ := { e₁ with global := g }
          if idx + 1 < t.steps.length then
            let e₃ ← applyStep p (e₂.store k (advanceStep (e₂.heap k) idx)) k rctx (idx + 1)
            let (e₄, _, _) ← confirmAndReport D p e₃ k rctx (idx + 1)
            some (e₄.record e .advanced t, true, true)
          else
            let e₃ ← completeTransition D p e₂ k rctx
            some (e₃.record e .completed t, true, true)

def settleList (D : Domain G R) : List ℕ → Engine G → Option (Engine G × Bool × Bool)
  | [], e => some (e, false, false)
  | k :: ks, e => do
      let (e, changed, progressed) ← settleOne D e k
      let (e, changed', progressed') ← settleList D ks e
      some (e, changed || changed', progressed || progressed')

def settleTransitions (D : Domain G R) (e : Engine G) : Option (Engine G × Bool × Bool) :=
  settleList D e.transitions e

def settleLoop (D : Domain G R) : ℕ → Engine G → Option (Engine G × Bool)
  | 0, e => some (e, false)
  | fuel + 1, e => do
      let (e, changed, progressed) ← settleTransitions D e
      if progressed then
        let (e, changed') ← settleLoop D fuel e
        some (e, changed || changed')
      else some (e, changed)

def settleFuel (e : Engine G) : ℕ := (e.active.map fun t => t.steps.length + 1).sum + 1

def cancelActive (D : Domain G R) (p : Plan G R) (rctx : Option R) (e : Engine G) : Engine G :=
  match p.cancelActiveOnCreate, rctx with
  | true, some r =>
    match p.slot.getActiveTransition e.global r with
    | none => e
    | some ref =>
      if ref.ptr ∈ e.transitions then
        (setActive p rctx none (deleteTransition D e ref.ptr)).record e .cancelled (e.heap ref.ptr)
      else setActive p rctx none e
  | _, _ => e

def blankTransition (p : Plan G R) (planID : PlanID) (replica : Option ReplicaID) : Transition where
  type := p.transitionType
  group := p.group
  planID := planID
  replica := replica
  replicaType := none
  fromReplicaType := none
  toReplicaType := none
  fromSystemNetworkNames := []
  toSystemNetworkNames := []
  steps := (p.steps.map fun s => (⟨s.name, .pending, 0, ""⟩ : TransitionStep)).modify 0
    (TransitionStep.withStatus .active)

def stubTransition (p : Plan G R) (replica : Option ReplicaID) : Transition :=
  { blankTransition p (.other "") replica with steps := [] }

/-- The status of a decision whose slot holds a transition of another type. -/
def reportConflict (D : Domain G R) (p : Plan G R) (rctx : Option R) (ref : ActiveRef)
    (e : Engine G) : Engine G :=
  let active := e.heap ref.ptr
  if active.type = p.transitionType then e
  else
    let activePlan := D.get active.type active.planID
    let details := do
      let plan ← activePlan
      let idx ← findCurrentStepIdx active
      let step ← plan.steps[idx]?
      step.details
    setStatus p rctx (composeBlockedByActive p.displayName
      ((activePlan.map (·.displayName)).getD "") active.currentStep) details e

/-- Put a new transition into the shadow index, its slot and the tracker. -/
def insertTransition (D : Domain G R) (p : Plan G R) (rctx : Option R) (t : Transition)
    (e : Engine G) : Engine G :=
  let e' := setActive p rctx (some ⟨e.next, t⟩)
    { e.store e.next t with transitions := e.transitions ++ [e.next], next := e.next + 1 }
  { e' with global := D.add e'.global t }

def createTransition (D : Domain G R) (p : Plan G R) (planID : PlanID) (rctx : Option R)
    (replica : Option ReplicaID) (e : Engine G) : Option (Engine G) :=
  if p.scope = .replica ∧ replica = none then none
  else do
    let t ← p.init e.global rctx (blankTransition p planID replica)
    let e₁ ← applyStep p (insertTransition D p rctx t e) e.next rctx 0
    let (e₂, _, _) ← confirmAndReport D p e₁ e.next rctx 0
    some (e₂.record e .created (e₂.heap e.next))

/-- The pipeline of one decision: cancel, slot conflict, guards, admission,
creation with step zero applied. The flag tells whether a transition was made. -/
def dispatchOne (D : Domain G R) (p : Plan G R) (planID : PlanID) (rctx : Option R)
    (e : Engine G) : Option (Engine G × Bool) :=
  let e := cancelActive D p rctx e
  match rctx.bind (p.slot.getActiveTransition e.global) with
  | some ref => some (reportConflict D p rctx ref e, false)
  | none => do
      let (result, g) ← evaluateGuards rctx p.guards e.global
      let e := { e with global := g }
      if result.blocked then
        some (setStatus p rctx (composeBlocked p.displayName result.message) result.details e, false)
      else
        let replica := if p.scope = .replica then rctx.bind (D.replicaName e.global) else none
        let tempT ← p.init e.global rctx (stubTransition p replica)
        let admission := D.canAdmit e.global tempT
        if admission.allowed then
          let e ← createTransition D p planID rctx replica e
          some (e, true)
        else
          some (setStatus p rctx (composeBlocked p.displayName admission.message)
            admission.details e, false)

def runDecision (D : Domain G R) (d : Decision G R) (e : Engine G) : Option (Engine G × Bool) :=
  match d with
  | .noDispatch r slot message details =>
    if message = "" then some (e, false)
    else some ({ e with global := slot.setStatus e.global r message details }, false)
  | .replica r type planID => do
      let p ← D.get type planID
      dispatchOne D p planID (if p.scope = .replica then some r else none)
        (e.record e .dispatched (stubTransition p (D.replicaName e.global r)))
  | .global type planID => do
      let p ← D.get type planID
      if p.scope = .replica then none
      else dispatchOne D p planID none (e.record e .dispatched (stubTransition p none))

def runPoints (D : Domain G R) :
    List (G → Option (Decision G R)) → Engine G → Option (Engine G × Bool)
  | [], e => some (e, false)
  | point :: points, e =>
    match point e.global with
    | none => runPoints D points e
    | some d => do
        let (e, created) ← runDecision D d e
        let (e, created') ← runPoints D points e
        some (e, created || created')

def runDispatch (D : Domain G R) : Dispatcher G R → Engine G → Option (Engine G × Bool)
  | [], e => some (e, false)
  | phase :: phases, e => do
      let (e, created) ← runPoints D (phase e.global) e
      let (e, created') ← runDispatch D phases e
      some (e, created || created')

def runDispatchers (D : Domain G R) : List (Dispatcher G R) → Engine G → Option (Engine G × Bool)
  | [], e => some (e, false)
  | d :: ds, e => do
      let (e, created) ← runDispatch D d e
      let (e, created') ← runDispatchers D ds e
      some (e, created || created')

def processLoop (D : Domain G R) : ℕ → Engine G → Option (Engine G × Bool)
  | 0, e => some (e, false)
  | rounds + 1, e => do
      let (e, changed) ← settleLoop D (settleFuel e) e
      let (e, dispatched) ← runDispatchers D D.dispatchers e
      if dispatched then
        let (e, _) ← processLoop D rounds e
        some (e, true)
      else some (e, changed)

def maxOuter : ℕ := 10

def process (D : Domain G R) (e : Engine G) : Option (Engine G × Bool) := processLoop D maxOuter e

def finalize (e : Engine G) : List Transition := e.active

end

end ReplicatedVolume.Dmte
