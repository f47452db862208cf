import ReplicatedVolume.Datamesh.Context

/-!
# The configuration of a volume and its rollout

In Manual mode the configuration comes from the volume itself, in Auto mode from its storage class.
When the class publishes a new one its volumes adopt it in batches: each counts those that are
mid-rollout, looks for its own place among those that wait, and decides for itself.
-/

namespace ReplicatedVolume.Volume
open Datamesh

inductive ConfigurationMode where
  | auto | manual
  deriving DecidableEq

structure RV where
  name : String
  generation : ℕ
  deleting : Bool
  configurationMode : ConfigurationMode
  replicatedStorageClassName : String
  manualConfiguration : Option Configuration
  configuration : Option Configuration
  configurationGeneration : ℕ
  configurationObservedGeneration : ℕ
  datameshRevision : ℕ
  datameshTransitions : List Transition
  conditions : List Condition
  deriving DecidableEq

inductive RolloutStrategyType where
  | rollingUpdate | newVolumesOnly
  deriving DecidableEq

structure RolloutStrategy where
  type : RolloutStrategyType
  maxParallel : Option ℤ
  deriving DecidableEq

structure RSC where
  name : String
  generation : ℕ
  configurationRolloutStrategy : Option RolloutStrategy
  configuration : Option Configuration
  configurationGeneration : ℕ
  deriving DecidableEq

def RSC.strategyType (rsc : RSC) : RolloutStrategyType :=
  (rsc.configurationRolloutStrategy.map (·.type)).getD .rollingUpdate

def RV.condition (rv : RV) (type : String) : Option Condition :=
  rv.conditions.find? (·.type = type)

/-- `obju.SetStatusCondition`: the condition is stamped with the generation of the
object; the flag tells whether the stored one changed. -/
def RV.setStatusCondition (rv : RV) (type : String) (status : Bool) (reason message : String) :
    RV × Bool :=
  let c : Condition := ⟨type, some status, rv.generation, reason, message⟩
  match rv.conditions.findIdx? (·.type = type) with
  | none => ({ rv with conditions := rv.conditions ++ [c] }, true)
  | some i => ({ rv with conditions := rv.conditions.set i c }, rv.conditions[i]? != some c)

/-- Whether formation is in progress, and the index of its first open step. -/
def isFormationInProgress (rv : RV) : Bool × ℕ :=
  if rv.datameshRevision = 0 then (true, 0)
  else match rv.datameshTransitions.find? (·.type = .formation) with
    | none => (false, 0)
    | some t => (true, (findCurrentStepIdx t).getD 0)

def defaultConfigurationRolloutMaxParallel : ℤ := 5

def computeIntendedRolloutMaxParallel (rsc : RSC) : ℤ :=
  match rsc.configurationRolloutStrategy.bind (·.maxParallel) with
  | none => defaultConfigurationRolloutMaxParallel
  | some n => if n ≤ 0 then defaultConfigurationRolloutMaxParallel else n

inductive RolloutRole where
  | excluded | active | converged | pending
  deriving DecidableEq

structure RolloutCohort where
  activeCount : ℕ
  pendingNames : List String
  deriving DecidableEq

/-- Whether the volume published a Converged verdict for its current spec. -/
def publishedConverged (rv : RV) : Bool :=
  (rv.condition "MembershipLayoutConverged").any fun c =>
    c.status = some true && c.reason = "Converged" && c.observedGeneration = rv.generation

def computeActualRolloutConvergence (rv : RV) : RolloutRole :=
  if publishedConverged rv then .converged else .active

def computeActualRolloutRole (rv : RV) (rscName : String) (intended : Configuration)
    (intendedGeneration : ℕ) : RolloutRole :=
  if rv.deleting then .excluded
  else if rv.configurationMode = .manual ∨ rv.replicatedStorageClassName ≠ rscName then .excluded
  else match rv.configuration with
    | none => .excluded
    | some configuration =>
      if (isFormationInProgress rv).1 then .excluded
      else if configuration ≠ intended then .pending
      else if rv.configurationGeneration ≠ intendedGeneration then .active
      else computeActualRolloutConvergence rv

/-- The listed volumes, with the volume itself in the place of its listed copy, or
after them if it is not listed. -/
def rolloutMembers (rv : RV) (classRVs : List RV) : List RV :=
  let members := classRVs.foldl (fun (acc : List RV × Bool) listed =>
    if listed.name ≠ rv.name then (acc.1 ++ [listed], acc.2)
    else if acc.2 then acc else (acc.1 ++ [rv], true)) ([], false)
  if members.2 then members.1 else members.1 ++ [rv]

def computeActualRolloutCohort (rv : RV) (classRVs : List RV) (intended : Configuration)
    (intendedGeneration : ℕ) : RolloutCohort :=
  let role (member : RV) : RolloutRole :=
    computeActualRolloutRole member rv.replicatedStorageClassName intended intendedGeneration
  let members := rolloutMembers rv classRVs
  ⟨members.countP (role · = .active),
    ((members.filter (role · = .pending)).map (·.name)).insertionSort (· ≤ ·)⟩

def computeTargetRolloutAdmission (rv : RV) (cohort : RolloutCohort) (maxParallel : ℤ) : Bool :=
  match cohort.pendingNames.idxOf? rv.name with
  | none => true
  | some position => (position : ℤ) < maxParallel - cohort.activeCount

inductive Outcome where
  | proceed (changed : Bool)
  | requeueAfter (seconds : ℕ) (changed : Bool)
  | fail (message : String)
  deriving DecidableEq

inductive PoolError where
  | notFound
  | failed (message : String)
  deriving DecidableEq

def isTransZonalZoneCountValid (ftt gmdr zoneCount : ℕ) : Bool :=
  match ftt, gmdr with
  | 0, 1 => zoneCount = 2
  | 1, 0 => zoneCount = 3
  | 1, 1 => zoneCount = 3
  | 1, 2 => zoneCount = 3 ∨ zoneCount = 5
  | 2, 1 => zoneCount = 4
  | 2, 2 => zoneCount = 3 ∨ zoneCount = 5
  | _, _ => false

def applyConfigurationReadyCondTrue (rv : RV) (reason message : String) : RV × Bool :=
  rv.setStatusCondition "ConfigurationReady" true reason message

def applyConfigurationReadyCondFalse (rv : RV) (reason message : String) : RV × Bool :=
  rv.setStatusCondition "ConfigurationReady" false reason message

structure Intent where
  intended : Configuration
  intendedGeneration : ℕ
  holdNewerConfiguration : Bool
  throttleRollout : Bool
  deriving DecidableEq

/-- `%q` of a name of the API, which has nothing to escape. -/
def quoted (s : String) : String := "\"" ++ s ++ "\""

/-- Where the configuration comes from; an error is the message of a volume that
waits for its storage class, `none` a Manual volume without a configuration. -/
def computeIntent (rv : RV) (rsc : Option RSC) : Option (Except String Intent) :=
  match rv.configurationMode, rsc with
  | .manual, _ => rv.manualConfiguration.map fun intended => .ok ⟨intended, 0, false, false⟩
  | .auto, none => some (.error ("ReplicatedStorageClass " ++ quoted rv.replicatedStorageClassName ++
      " not found"))
  | .auto, some rsc =>
    match rsc.configuration with
    | none => some (.error ("ReplicatedStorageClass " ++ quoted rsc.name ++
        " configuration not ready"))
    | some intended =>
      if rsc.configurationGeneration ≠ rsc.generation then
        some (.error ("ReplicatedStorageClass " ++ quoted rsc.name ++
          " has not published a configuration for generation " ++ toString rsc.generation ++
          " yet (published generation: " ++ toString rsc.configurationGeneration ++ ")"))
      else some (.ok ⟨intended, rsc.configurationGeneration,
        rsc.strategyType = .newVolumesOnly, true⟩)

/-- Record that a generation was seen; the flag tells whether that is new. -/
def RV.observe (rv : RV) (generation : ℕ) : RV × Bool :=
  ({ rv with configurationObservedGeneration := generation },
    rv.configurationObservedGeneration != generation)

def alignGenerations (rv : RV) (intent : Intent) : RV × Outcome :=
  let (rv', observed) := { rv with
    configurationGeneration := intent.intendedGeneration }.observe intent.intendedGeneration
  let (rv', ready) := applyConfigurationReadyCondTrue rv' "Ready" "Configuration is ready"
  (rv', .proceed (ready || observed || rv.configurationGeneration != intent.intendedGeneration))

def holdConfiguration (rv : RV) (rscName : String) (intent : Intent) : RV × Outcome :=
  let (rv', observed) := rv.observe intent.intendedGeneration
  let (rv', held) := applyConfigurationReadyCondFalse rv' "NewerConfigurationHeld"
    ("ReplicatedStorageClass " ++ quoted rscName ++ " has a newer configuration (generation " ++
      toString intent.intendedGeneration ++ "); the volume keeps its configuration (generation " ++
      toString rv.configurationGeneration ++ ") because the rollout strategy is NewVolumesOnly")
  (rv', .proceed (held || observed))

def queueConfiguration (rv : RV) (rscName : String) (intent : Intent) (maxParallel : ℤ) :
    RV × Outcome :=
  let (rv', observed) := rv.observe intent.intendedGeneration
  let (rv', queued) := applyConfigurationReadyCondFalse rv' "ConfigurationRolloutInProgress"
    ("ReplicatedStorageClass " ++ quoted rscName ++ " rolls its configuration (generation " ++
      toString intent.intendedGeneration ++ ") out to at most " ++ toString maxParallel ++
      " volume(s) at a time; the volume keeps its configuration (generation " ++
      toString rv.configurationGeneration ++ ") until a slot is free")
  (rv', .requeueAfter 5 (queued || observed))

def storeConfiguration (rv : RV) (intent : Intent) : RV × Outcome :=
  let rv := { rv with
    configuration := some intent.intended
    configurationGeneration := intent.intendedGeneration
    configurationObservedGeneration := intent.intendedGeneration }
  ((applyConfigurationReadyCondTrue rv "Ready" "Configuration is ready").1, .proceed true)

def invalidConfiguration (rv : RV) (message : String) : RV × Outcome :=
  let (rv', changed) := applyConfigurationReadyCondFalse rv "InvalidConfiguration" message
  (rv', .proceed changed)

/-- Whether the pool has the zones that the configuration needs; otherwise how the
pass ends. -/
def validateZones (zoneCount : String → Except PoolError ℕ) (rv : RV) (intended : Configuration) :
    Option (RV × Outcome) :=
  let pool := intended.replicatedStoragePoolName
  if intended.topology = .transZonal then
    match zoneCount pool with
    | .error .notFound =>
      some (invalidConfiguration rv ("ReplicatedStoragePool " ++ quoted pool ++ " not found"))
    | .error (.failed message) =>
      some (rv, .fail ("getting RSP zone count for " ++ pool ++ ": " ++ message))
    | .ok zones =>
      if isTransZonalZoneCountValid intended.failuresToTolerate
          intended.guaranteedMinimumDataRedundancy zones then none
      else some (invalidConfiguration rv
        ("TransZonal with FTT=" ++ toString intended.failuresToTolerate ++ ", GMDR=" ++
          toString intended.guaranteedMinimumDataRedundancy ++
          " requires a valid zone count, RSP has " ++ toString zones ++ " zones"))
  else none

/-- `none` stands for a panic. `classRVs` is the listing of the class, an error if it
could not be read. -/
def reconcileRVConfiguration (zoneCount : String → Except PoolError ℕ)
    (classRVs : Except String (List RV)) (rv : RV) (rsc : Option RSC) : Option (RV × Outcome) := do
  match ← computeIntent rv rsc with
  | .error message =>
    let (rv', changed) := applyConfigurationReadyCondFalse rv "WaitingForStorageClass" message
    some (rv', .proceed changed)
  | .ok intent =>
    let rscName := (rsc.map (·.name)).getD ""
    if rv.configuration = some intent.intended then some (alignGenerations rv intent)
    else if intent.holdNewerConfiguration ∧ rv.configuration.isSome then
      some (holdConfiguration rv rscName intent)
    else match validateZones zoneCount rv intent.intended with
      | some result => some result
      | none =>
        if intent.throttleRollout ∧ rv.configuration.isSome then
          match classRVs with
          | .error message =>
            some (rv, .fail ("listing ReplicatedVolumes of ReplicatedStorageClass " ++ rscName ++
              ": " ++ message))
          | .ok listed =>
            let maxParallel := (rsc.map computeIntendedRolloutMaxParallel).getD
              defaultConfigurationRolloutMaxParallel
            let cohort := computeActualRolloutCohort rv listed intent.intended
              intent.intendedGeneration
            if computeTargetRolloutAdmission rv cohort maxParallel then
              some (storeConfiguration rv intent)
            else some (queueConfiguration rv rscName intent maxParallel)
        else some (storeConfiguration rv intent)

def RV.frame (rv : RV) : RV :=
  { rv with
    configuration := none
    configurationGeneration := 0
    configurationObservedGeneration := 0
    conditions := [] }

section
variable {zoneCount : String → Except PoolError ℕ} {classRVs : Except String (List RV)}
  {rv rv' : RV} {intended : Configuration} {out : Outcome}

theorem setStatusCondition_frame (rv : RV) (type : String) (status : Bool)
    (reason message : String) :
    (rv.setStatusCondition type status reason message).1.frame = rv.frame ∧
      (rv.setStatusCondition type status reason message).1.configuration = rv.configuration ∧
      (rv.setStatusCondition type status reason message).1.configurationGeneration =
        rv.configurationGeneration := by
  unfold RV.setStatusCondition
  split <;> exact ⟨rfl, rfl, rfl⟩

theorem validateZones_same {result : RV × Outcome}
    (h : validateZones zoneCount rv intended = some result) :
    result.1.frame = rv.frame ∧ result.1.configuration = rv.configuration ∧
      result.1.configurationGeneration = rv.configurationGeneration := by
  unfold validateZones at h
  simp only at h
  split at h
  · split at h
    · cases h
      exact setStatusCondition_frame _ _ _ _ _
    · cases h
      exact ⟨rfl, rfl, rfl⟩
    · split at h
      · cases h
      · cases h
        exact setStatusCondition_frame _ _ _ _ _
  · cases h

theorem reconcileRVConfiguration_frame {rsc : Option RSC}
    (h : reconcileRVConfiguration zoneCount classRVs rv rsc = some (rv', out)) :
    rv'.frame = rv.frame := by
  unfold reconcileRVConfiguration at h
  obtain ⟨intent, -, h⟩ := Option.bind_eq_some_iff.mp h
  cases intent with
  | error message =>
    cases h
    exact (setStatusCondition_frame _ _ _ _ _).1
  | ok intent =>
    simp only at h
    split at h
    · cases h
      exact (setStatusCondition_frame _ _ _ _ _).1
    split at h
    · cases h
      exact (setStatusCondition_frame _ _ _ _ _).1
    split at h
    · rename_i hzones
      cases h
      exact (validateZones_same hzones).1
    split at h
    · split at h
      · cases h
        rfl
      · split at h
        all_goals
          cases h
          exact (setStatusCondition_frame _ _ _ _ _).1
    · cases h
      exact (setStatusCondition_frame _ _ _ _ _).1

end

end ReplicatedVolume.Volume
