import ReplicatedVolume.Api

/-!
# Plans of the transition engine

A plan is a list of steps with an apply and a confirm callback each, behind
guards and an admission tracker. The engine is generic in the global context
`G` and in the handle `R` of a replica context inside it. A callback that
dereferences a missing context, as a Go callback panics on `nil`, is `none`.
-/

namespace ReplicatedVolume.Dmte

def idSetString (s : Finset ReplicaID) : String :=
  ", ".intercalate (((List.finRange 32).filter (· ∈ s)).map fun id => "#" ++ toString id.val)

structure GuardResult where
  blocked : Bool
  message : String
  details : Option String
  deriving DecidableEq

def GuardResult.pass : GuardResult := ⟨false, "", none⟩

def GuardResult.block (message : String) (details : Option String) : GuardResult :=
  ⟨true, message, details⟩

structure ConfirmResult where
  mustConfirm : Finset ReplicaID
  confirmed : Finset ReplicaID
  deriving DecidableEq

structure Admission where
  allowed : Bool
  message : String
  details : Option String
  deriving DecidableEq

/-- A pointer to a transition. Code outside the engine reads only fields that
creation fixes, which `header` carries; the engine follows `ptr`. -/
structure ActiveRef where
  ptr : ℕ
  header : Transition
  deriving DecidableEq

structure ReplicaSlotAccessor (G R : Type) where
  getActiveTransition : G → R → Option ActiveRef
  setActiveTransition : G → R → Option ActiveRef → G
  setStatus : G → R → String → Option String → G

inductive Scope where
  | global | replica
  deriving DecidableEq

structure Step (G R : Type) where
  name : String
  apply : G → Option R → Option (G × Bool)
  confirm : G → Option R → ℕ → Option ConfirmResult
  onComplete : G → Option R → Option G
  details : Option String
  diagnosticConditionTypes : List String
  diagnosticSkipError : Condition → Bool

structure Plan (G R : Type) where
  scope : Scope
  transitionType : TransitionType
  group : TransitionGroup
  displayName : String
  slot : ReplicaSlotAccessor G R
  cancelActiveOnCreate : Bool
  guards : List (G → Option R → Option (GuardResult × G))
  init : G → Option R → Transition → Option Transition
  steps : List (Step G R)
  onComplete : G → Option R → Option G

inductive Decision (G R : Type) where
  | noDispatch (rctx : R) (slot : ReplicaSlotAccessor G R) (message : String)
      (details : Option String)
  | replica (rctx : R) (type : TransitionType) (planID : PlanID)
  | global (type : TransitionType) (planID : PlanID)

/-- A dispatcher runs its phases in order. A phase fixes its list of decision
points when it starts; each point sees the context its predecessors left. -/
abbrev Dispatcher (G R : Type) := List (G → List (G → Option (Decision G R)))

/-- What the engine is given: the context provider, the plan registry, the
tracker and the dispatchers. -/
structure Domain (G R : Type) where
  replica : G → ReplicaID → Option R
  replicaName : G → R → Option ReplicaID
  observed : G → R → Option (ℕ × List Condition)
  get : TransitionType → PlanID → Option (Plan G R)
  add : G → Transition → G
  remove : G → Transition → G
  canAdmit : G → Transition → Admission
  dispatchers : List (Dispatcher G R)

section
variable {G R : Type}

def evaluateGuards (rctx : Option R) :
    List (G → Option R → Option (GuardResult × G)) → G → Option (GuardResult × G)
  | [], g => some (.pass, g)
  | guard :: guards, g => do
      let (result, g) ← guard g rctx
      if result.blocked then some (result, g) else evaluateGuards rctx guards g

def conditionError (skipError : Condition → Bool) (generation : ℕ)
    (conditions : List Condition) (condType : String) : Option String := do
  let cond ← conditions.find? (·.type = condType)
  if cond.status ≠ some false ∨ cond.observedGeneration ≠ generation ∨ skipError cond then
    none
  else
    some (condType ++ "/" ++ cond.reason ++
      if cond.message = "" then "" else ": " ++ cond.message)

def replicaError (D : Domain G R) (g : G) (condTypes : List String)
    (skipError : Condition → Bool) (id : ReplicaID) : Option String :=
  match (D.replica g id).bind (D.observed g) with
  | none => some ("#" ++ toString id.val ++ " replica not found")
  | some (generation, conditions) =>
    match condTypes.filterMap (conditionError skipError generation conditions) with
    | [] => none
    | errors => some ("#" ++ toString id.val ++ " " ++ ", ".intercalate errors)

def generateProgressMessage (D : Domain G R) (g : G) (stepRevision : ℕ) (cr : ConfirmResult)
    (condTypes : List String) (skipError : Condition → Bool) : String :=
  let waiting := cr.mustConfirm \ cr.confirmed
  let head := toString cr.confirmed.card ++ "/" ++ toString cr.mustConfirm.card ++
    " replicas confirmed revision " ++ toString stepRevision
  if waiting = ∅ then head
  else
    let head := head ++ ". Waiting: [" ++ idSetString waiting ++ "]"
    if condTypes = [] then head
    else
      match ((List.finRange 32).filter (· ∈ waiting)).filterMap
          (replicaError D g condTypes skipError) with
      | [] => head
      | errors => head ++ ". Errors: " ++ " | ".intercalate errors

def composeProgressMessage (planName stepName : String) (stepIdx totalSteps : ℕ)
    (rawProgress : String) : String :=
  if totalSteps ≤ 1 then planName ++ ": " ++ rawProgress
  else planName ++ " (step " ++ toString (stepIdx + 1) ++ "/" ++ toString totalSteps ++ ": " ++
    stepName ++ "): " ++ rawProgress

def composeBlocked (planName reason : String) : String :=
  planName ++ " is blocked: " ++ reason

def composeBlockedByActive (newPlanName activePlanName : String)
    (activeStep : Option TransitionStep) : String :=
  newPlanName ++ ": waiting for " ++ activePlanName ++ " to complete" ++
    match activeStep with
    | some step => if step.message = "" then "" else ". " ++ step.message
    | none => ""

end

end ReplicatedVolume.Dmte
