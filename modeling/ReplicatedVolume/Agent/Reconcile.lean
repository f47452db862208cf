import ReplicatedVolume.Agent.Target
import ReplicatedVolume.Library.Interaction

/-!
# The reconciliation pass of the agent

One pass over a DRBDResource in nine phases, as a program that calls the Kubernetes API and
the DRBD tools. The object in memory is passed along explicitly: a successful patch replaces it
by the answer of the API server, as the client does. The caches below the queries are a model of
their own.
-/

namespace ReplicatedVolume.Agent
open Interaction

inductive ApiError where
  | notFound (message : String)
  | other (message : String)
  deriving DecidableEq

def ApiError.message : ApiError → String
  | .notFound message => message
  | .other message => message

def ApiError.isNotFound : ApiError → Bool
  | .notFound _ => true
  | .other _ => false

inductive CommandError where
  | localAddrInUse (message : String)
  | netConfigured
  | backingNotGrown
  | other (message : String)
  deriving DecidableEq

inductive RenameError where
  | unknownResource (message : String)
  | alreadyExists (message : String)
  | other (message : String)
  deriving DecidableEq

inductive Call where
  | status (resourceName : String)
  | showConfig (resourceName : String)
  | checkMD (minor : ℕ) (backingDev : Device)
  | readDevUUID (backingDev : Device)
  | readDiscardGranularity (dev : Device)
  | generateDeviceUUID
  | execute (action : Action)
  | rename (oldName newName : String)
  | getNode
  | allocatePort (ip : String)
  | getDRBDR (name : String)
  | getLLV (name : String)
  | getLVG (name : String)
  | listLVGs
  | listLLVs (lvgName : String)
  | patchLLV (obj base : LLV)
  | patchDRBDR (obj base : DRBDResource) (optimisticLock : Bool)
  | patchDRBDRStatus (obj base : DRBDResource) (optimisticLock : Bool)
  deriving DecidableEq

def Call.Answer : Call → Type
  | .status _ => Except String (Option StatusResource)
  | .showConfig _ => Except String (Option ShowResource)
  | .checkMD _ _ => Except String Bool
  | .readDevUUID _ => Except String String
  | .readDiscardGranularity _ => ℕ
  | .generateDeviceUUID => String
  | .execute _ => Except CommandError Unit
  | .rename _ _ => Except RenameError Unit
  | .getNode => Except String (List (String × String))
  | .allocatePort _ => Except String ℕ
  | .getDRBDR _ => Except String (Option DRBDResource)
  | .getLLV _ => Except String (Option LLV)
  | .getLVG _ => Except String (Option LVG)
  | .listLVGs => Except String (List LVG)
  | .listLLVs _ => Except String (List LLV)
  | .patchLLV _ _ => Except ApiError LLV
  | .patchDRBDR _ _ _ => Except ApiError DRBDResource
  | .patchDRBDRStatus _ _ _ => Except ApiError DRBDResource

abbrev agentInterface : Interface where
  Call := Call
  Answer := Call.Answer

abbrev Prog (α : Type) : Type := Program agentInterface α

def ask (c : Call) : Prog c.Answer := Program.ask (I := agentInterface) c

inductive Outcome where
  | done
  | doneAndRequeue
  | fail (err : Failures)
  deriving DecidableEq

/-- The running agent: its node and whether the kernel module has the Flant extensions. -/
structure Reconciler where
  nodeName : String
  flant : Bool
  deriving DecidableEq

def reconcileClearActualName (drbdr : DRBDResource) : Prog Outcome := do
  let obj := { drbdr with spec := { drbdr.spec with actualNameOnTheNode := "" } }
  match ← ask (.patchDRBDR obj drbdr false) with
  | .ok _ => return .done
  | .error err => return .fail (failure err.message)

def reconcileActualNameOnTheNode (drbdr : DRBDResource) : Prog Outcome := do
  let oldName := drbdr.spec.actualNameOnTheNode
  let newName := drbdNameFromK8SName drbdr.name
  match ← ask (.rename oldName newName) with
  | .ok _ => reconcileClearActualName drbdr
  | .error (.unknownResource _) =>
    -- Renamed before, or lost with a reboot: in both cases the old name is given up.
    match ← ask (.status newName) with
    | .error err => return .fail (failure ("executing drbdsetup status: " ++ err))
    | .ok _ => reconcileClearActualName drbdr
  | .error (.alreadyExists err) =>
    return .fail (failure ("both DRBD resource names exist: oldName=" ++ oldName ++
      ", newName=" ++ newName ++ ": " ++ err))
  | .error (.other err) => return .fail (failure err)

def ensureFinalizer (drbdr : DRBDResource) (adding upAndNotInCleanup : Bool) : List String :=
  if adding && upAndNotInCleanup && !drbdr.deleting then
    addFinalizer drbdr.finalizers agentFinalizer
  else if !adding && !upAndNotInCleanup then removeFinalizer drbdr.finalizers agentFinalizer
  else drbdr.finalizers

def reconcileFinalizer (drbdr : DRBDResource) (adding upAndNotInCleanup : Bool) :
    Prog (Except Outcome DRBDResource) := do
  let finalizers := ensureFinalizer drbdr adding upAndNotInCleanup
  if finalizers = drbdr.finalizers then return .ok drbdr
  else
    match ← ask (.patchDRBDR { drbdr with finalizers := finalizers } drbdr true) with
    | .ok obj => return .ok obj
    | .error (.notFound _) => return .error .done
    | .error (.other err) => return .error (.fail (failure err))

def observeActualDRBDState (resourceName : String) : Prog (Option ActualState × Failures) := do
  match ← ask (.status resourceName) with
  | .error err =>
    return (none, failure ("getting status data: executing drbdsetup status: " ++ err))
  | .ok none =>
    return (some { status := none, shown := none, hasMetadata := false, diskDeviceUUID := "" }, [])
  | .ok (some status) =>
    match ← ask (.showConfig resourceName) with
    | .error err => return (none, failure ("getting show data: executing drbdsetup show: " ++ err))
    | .ok sh =>
      return (some { status := some status, shown := sh, hasMetadata := false
                     diskDeviceUUID := "" }, [])

def observeActualDiskState (state : ActualState) (intendedBackingDev : Option Device)
    (statusDeviceUUID : String) : Prog (ActualState × Failures) := do
  match intendedBackingDev with
  | none => return (state, [])
  | some dev =>
    if (actualBackingDisk (some state)).isSome then
      let state := { state with hasMetadata := true }
      if statusDeviceUUID = "" then
        match ← ask (.readDevUUID dev) with
        | .error err => return (state, failure ("reading device-uuid from attached disk: " ++ err))
        | .ok uuid => return ({ state with diskDeviceUUID := uuid }, [])
      else return (state, [])
    else
      let checkMDMinor := (state.volumes.head?.map (·.minor)).getD 0
      match ← ask (.checkMD checkMDMinor dev) with
      | .error err => return (state, failure ("probing backing device metadata: " ++ err))
      | .ok hasMD =>
        let state := { state with hasMetadata := hasMD }
        if hasMD then
          match ← ask (.readDevUUID dev) with
          | .error err => return (state, failure ("reading device-uuid: " ++ err))
          | .ok uuid => return ({ state with diskDeviceUUID := uuid }, [])
        else return (state, [])

def existingPortsFromState (aState : Option ActualState) (ip : String) : ℕ :=
  let hosts := ((aState.bind (·.status)).map fun s =>
    s.connections.flatMap fun c => c.paths.map (·.thisHost)).getD []
  ((hosts.reverse.find? fun h => h.address = ip ∧ h.address ≠ "" ∧ h.port > 0).map (·.port)).getD 0

def systemNetworkToNodeAddressType (systemNetwork : String) : String :=
  if systemNetwork = "Internal" then "InternalIP"
  else if systemNetwork = "External" then "ExternalIP"
  else systemNetwork ++ "IP"

def computeIntendedIPs (drbdr : DRBDResource) (node : List (String × String)) :
    List (String × String) :=
  if drbdr.spec.state = .down then []
  else drbdr.spec.systemNetworks.filterMap fun snn =>
    (node.reverse.find? (·.1 = systemNetworkToNodeAddressType snn)).map fun addr => (snn, addr.2)

/-- Known addresses keep their ports, new ones get port zero, the rest is dropped. -/
def applyIPs (addresses : List Address) (intendedIPs : List (String × String)) : List Address :=
  intendedIPs.map fun (snn, ip) =>
    { systemNetworkName := snn
      ipv4 := ip
      port := ((addresses.reverse.find? fun a => a.systemNetworkName = snn ∧ a.ipv4 = ip).map
        (·.port)).getD 0 }

def computeIntendedPorts (existingPorts : String → ℕ) :
    List Address → Prog (List Address × Failures)
  | [] => return ([], [])
  | addr :: rest => do
    let known := if addr.port = 0 then existingPorts addr.ipv4 else addr.port
    if known = 0 then
      match ← ask (.allocatePort addr.ipv4) with
      | .error err => do
        let (ports, errs) ← computeIntendedPorts existingPorts rest
        return (ports, failure err ++ errs)
      | .ok port => do
        let (ports, errs) ← computeIntendedPorts existingPorts rest
        return ({ addr with port := port } :: ports, errs)
    else do
      let (ports, errs) ← computeIntendedPorts existingPorts rest
      return ({ addr with port := known } :: ports, errs)

def applyPorts (addresses intendedPorts : List Address) : List Address :=
  addresses.filterMap fun addr =>
    (intendedPorts.reverse.find? fun p =>
      p.systemNetworkName = addr.systemNetworkName ∧ p.ipv4 = addr.ipv4).map fun p =>
        { addr with port := p.port }

def reconcileAddresses (r : Reconciler) (drbdr : DRBDResource) (existingPorts : String → ℕ) :
    Prog (Except Outcome DRBDResource) := do
  match ← ask .getNode with
  | .error err => return .error (.fail (failure ("getting Node \"" ++ r.nodeName ++ "\": " ++ err)))
  | .ok node =>
    let ips := applyIPs drbdr.status.addresses (computeIntendedIPs drbdr node)
    let (ports, portErr) ← computeIntendedPorts existingPorts ips
    if portErr ≠ [] then return .error (.fail portErr)
    else
      let addresses := applyPorts ips ports
      if addresses = drbdr.status.addresses then return .ok drbdr
      else
        let obj := { drbdr with status := { drbdr.status with addresses := addresses } }
        match ← ask (.patchDRBDRStatus obj drbdr true) with
        | .ok obj => return .ok obj
        | .error err => return .error (.fail (failure err.message))

/-- The volume the pass is about to hold is recorded before anything is done to it. -/
def reconcileLLVFinalizersToRelease (drbdr : DRBDResource)
    (upAndNotInCleanup maintenanceMode : Bool) : Prog (Except Outcome (List String)) := do
  let list := drbdr.llvFinalizersToRelease
  if !maintenanceMode ∧ upAndNotInCleanup ∧ drbdr.spec.type = .diskful ∧
      drbdr.spec.lvmLogicalVolumeName ≠ "" ∧ drbdr.spec.lvmLogicalVolumeName ∉ list then
    let grown := list ++ [drbdr.spec.lvmLogicalVolumeName]
    let obj := { drbdr with status := { drbdr.status with
      activeConfiguration :=
        some { ensureActiveConfiguration drbdr with llvFinalizersToRelease := grown } } }
    match ← ask (.patchDRBDRStatus obj drbdr true) with
    | .ok _ => return .error .doneAndRequeue
    | .error err => return .error (.fail (failure err.message))
  else return .ok list

def getLVMLogicalVolume (name : String) : Prog (Except String (Option LLV)) := do
  if name = "" then return .ok none
  else
    match ← ask (.getLLV name) with
    | .error err => return .error ("getting LVMLogicalVolume \"" ++ name ++ "\": " ++ err)
    | .ok llv => return .ok llv

def getRequiredLVG (name : String) : Prog (Except String LVG) := do
  if name = "" then return .error ("LVMVolumeGroup \"" ++ name ++ "\" not found")
  else
    match ← ask (.getLVG name) with
    | .error err => return .error ("getting LVMVolumeGroup \"" ++ name ++ "\": " ++ err)
    | .ok none => return .error ("LVMVolumeGroup \"" ++ name ++ "\" not found")
    | .ok (some lvg) => return .ok lvg

def llvDevicePath (llv : LLV) : Prog (Option Device × Failures) := do
  match ← getRequiredLVG llv.lvmVolumeGroupName with
  | .error err => return (none, configuredReasonError (failure err) "BackingVolumeUnavailable")
  | .ok lvg =>
    return (some (formatLVMDevicePath lvg.actualVGNameOnTheNode llv.actualLVNameOnTheNode), [])

def reconcileLLVFinalizerAdd (llvName : String) (attachedDisk : Option Device) :
    Prog (Option Device × Failures) := do
  if llvName = "" then return (none, [])
  else
    match ← getLVMLogicalVolume llvName with
    | .error err => return (none, configuredReasonError (failure err) "BackingVolumeUnavailable")
    | .ok none =>
      return (none, configuredReasonError
        (failure ("LVMLogicalVolume \"" ++ llvName ++ "\" not found"))
        "BackingVolumeUnavailable")
    | .ok (some llv) =>
      if llv.deleting then
        -- A volume that is being deleted stays the intended disk while it is attached.
        if attachedDisk.isSome then return (attachedDisk, [])
        else return (none, configuredReasonError
          (failure ("LVMLogicalVolume \"" ++ llvName ++ "\" is being deleted"))
          "BackingVolumeDeleting")
      else if agentFinalizer ∈ llv.finalizers then llvDevicePath llv
      else
        let obj := { llv with finalizers := addFinalizer llv.finalizers agentFinalizer }
        match ← ask (.patchLLV obj llv) with
        | .error err =>
          return (none, failure ("adding finalizer on LLV \"" ++ llv.name ++ "\": " ++ err.message))
        | .ok llv => llvDevicePath llv

def releaseLLVFinalizer (llvName : String) : Prog Failures := do
  match ← getLVMLogicalVolume llvName with
  | .error err =>
    return failure ("getting LLV \"" ++ llvName ++ "\" for finalizer release: " ++ err)
  | .ok none => return []
  | .ok (some llv) =>
    if agentFinalizer ∈ llv.finalizers then
      let obj := { llv with finalizers := removeFinalizer llv.finalizers agentFinalizer }
      match ← ask (.patchLLV obj llv) with
      | .ok _ => return []
      | .error (.notFound _) => return []
      | .error (.other err) =>
        return failure ("releasing finalizer on LLV \"" ++ llvName ++ "\": " ++ err)
    else return []

def releaseLLVFinalizers (keep : String → Bool) : List String → Prog (List String × Failures)
  | [] => return ([], [])
  | llv :: rest => do
    if keep llv then do
      let (kept, errs) ← releaseLLVFinalizers keep rest
      return (llv :: kept, errs)
    else do
      let err ← releaseLLVFinalizer llv
      let (kept, errs) ← releaseLLVFinalizers keep rest
      return (if err = [] then kept else llv :: kept, err ++ errs)

def getLLVsForLVGs : List LVG → Prog (Option (List LLV))
  | [] => return some []
  | lvg :: rest => do
    match ← ask (.listLLVs lvg.name) with
    | .error _ => return none
    | .ok llvs => do
      match ← getLLVsForLVGs rest with
      | none => return none
      | some more => return some (llvs ++ more)

/-- The name of the attached volume; empty when nothing is attached and when it is not known. -/
def computeActualLLVName (aState : Option ActualState) : Prog String := do
  match actualBackingDisk aState with
  | none => return ""
  | some actualDisk =>
    match ← ask .listLVGs with
    | .error _ => return ""
    | .ok lvgs =>
      match ← getLLVsForLVGs lvgs with
      | none => return ""
      | some llvs => return computeLLVNameFromDiskPath actualDisk lvgs llvs

def actionError (action : Action) : Except CommandError Unit → Failures
  | .ok _ => []
  | .error err =>
    let wrap (message : String) (conflict : Option String) : Failures :=
      [{ message := message, reason := action.failureReason, portConflict := conflict }]
    match action, err with
    | .connect _ _, .netConfigured => []
    | .resize _ _, .backingNotGrown => []
    | .newPath _ _ localAddr _, .localAddrInUse message =>
      wrap ("local port conflict on " ++ localAddr.address ++ ": " ++ message)
        (some localAddr.address)
    | _, .localAddrInUse message => wrap message none
    | _, .netConfigured => wrap "connection already configured" none
    | _, .backingNotGrown => wrap "backing device not grown" none
    | _, .other message => wrap message none

def executeAction (action : Action) : Prog Failures := do
  match action with
  | .fail err => return err
  | action =>
    let answer ← ask (.execute action)
    return actionError action answer

def convergeDRBDState (maintenanceMode : Bool) : List Action → Prog (Bool × Failures)
  | [] => return (false, [])
  | action :: rest =>
    if maintenanceMode then convergeDRBDState maintenanceMode rest
    else do
      let err ← executeAction action
      if err ≠ [] then return (false, err)
      else do
        let (_, err) ← convergeDRBDState maintenanceMode rest
        return (true, err)

/-- The port of the first address on the conflicting IP is replaced in the status. -/
def ensureLocalPortConflictResolved (drbdr : DRBDResource) (drbdErr : Failures) :
    Prog (DRBDResource × Failures) := do
  match drbdErr.findSome? (·.portConflict) with
  | none => return (drbdr, drbdErr)
  | some ip =>
    match drbdr.status.addresses.findIdx? (·.ipv4 = ip) with
    | none => return (drbdr, drbdErr)
    | some idx =>
      let annotate (note : String) : Failures :=
        drbdErr.map fun f => { f with message := f.message ++ note }
      match ← ask (.allocatePort ip) with
      | .error err => return (drbdr, annotate (" (port re-allocation failed: " ++ err ++ ")"))
      | .ok newPort =>
        let oldPort := ((drbdr.status.addresses[idx]?).map (·.port)).getD 0
        let addresses := drbdr.status.addresses.modify idx fun a => { a with port := newPort }
        return ({ drbdr with status := { drbdr.status with addresses := addresses } },
          annotate (" (port re-allocated: " ++ toString oldPort ++ " -> " ++
            toString newPort ++ ")"))

/-- What convergence leaves: the object, the state observed last and the errors. -/
structure Converged where
  drbdr : DRBDResource
  aState : Option ActualState
  err : Failures
  deriving DecidableEq

def observeDisk (observed : Option ActualState × Failures) (intendedDisk : Option Device)
    (statusDeviceUUID : String) : Prog (Option ActualState × Failures) := do
  match observed with
  | (some a, []) =>
    let (a, diskErr) ← observeActualDiskState a intendedDisk statusDeviceUUID
    return (some a, configuredReasonError diskErr "StateQueryFailed")
  | _ => return observed

def readDiscardGranularity (intendedDisk : Option Device) : Prog ℕ := do
  match intendedDisk with
  | some dev => ask (.readDiscardGranularity dev)
  | none => return 0

def refreshState (drbdr : DRBDResource) (observed : Option ActualState × Failures)
    (intendedDisk : Option Device) (result : Bool × Failures) : Prog Converged := do
  let (drbdr, drbdErr) ← ensureLocalPortConflictResolved drbdr result.2
  if result.1 then
    let again ← observeActualDRBDState (drbdResourceNameOnTheNode drbdr)
    let again ← observeDisk again intendedDisk drbdr.status.deviceUUID
    return { drbdr := drbdr, aState := again.1
             err := observed.2 ++ configuredReasonError again.2 "StateQueryFailed" ++ drbdErr }
  else return { drbdr := drbdr, aState := observed.1, err := observed.2 ++ drbdErr }

/-- A failed probe of the disk is an error of the pass, but it does not keep the pass from
acting. -/
def reconcileDRBDState (r : Reconciler) (drbdr : DRBDResource)
    (observed : Option ActualState × Failures) (intendedDisk : Option Device)
    (upAndNotInCleanup maintenanceMode : Bool) : Prog Converged := do
  let observed ← observeDisk observed intendedDisk drbdr.status.deviceUUID
  let granularity ← readDiscardGranularity intendedDisk
  let fresh ← ask .generateDeviceUUID
  let iState := computeIntendedDRBDState drbdr intendedDisk upAndNotInCleanup granularity
  let result ← convergeDRBDState maintenanceMode
    (computeTargetDRBDActions r.flant fresh iState observed.1)
  refreshState drbdr observed intendedDisk result

/-- The status patch, with errors added to those of the pass. A missing object is tolerated
while it is being deleted. -/
def patchReportedStatus (drbdr statusBase : DRBDResource) (reconcileErr : Failures) :
    Prog (DRBDResource × Failures) := do
  if drbdr.status = statusBase.status then return (drbdr, reconcileErr)
  else
    match ← ask (.patchDRBDRStatus drbdr statusBase true) with
    | .ok obj => return (obj, reconcileErr)
    | .error err =>
      if !drbdr.deleting ∨ !err.isNotFound then return (drbdr, reconcileErr ++ failure err.message)
      else return (drbdr, reconcileErr)

def reportedObject (converged : Converged) (currentDiskLLV : String) (kept : List String)
    (reconcileErr : Failures) (maintenanceMode : Bool) : DRBDResource :=
  let drbdr := ensureReportState converged.aState converged.drbdr currentDiskLLV reconcileErr
    maintenanceMode
  { drbdr with status := { drbdr.status with
      activeConfiguration :=
        some { ensureActiveConfiguration drbdr with llvFinalizersToRelease := kept } } }

/-- A volume keeps its finalizer while the spec wants it or it is known to be attached. -/
def keepsFinalizer (upAndNotInCleanup : Bool) (specLLV currentDiskLLV llv : String) : Bool :=
  (upAndNotInCleanup && llv = specLLV) || llv = currentDiskLLV

def outcomeOf (reconcileErr : Failures) : Outcome :=
  if reconcileErr = [] then .done else .fail reconcileErr

/-- The finalizer on the DRBDResource goes once no release is owed and the resource is gone. -/
def dropFinalizer (drbdr : DRBDResource) (aState : Option ActualState) (kept : List String)
    (upAndNotInCleanup : Bool) (reconcileErr : Failures) : Prog Outcome := do
  if kept = [] ∧ aState.any (fun a => !a.resourceExists) then
    match ← reconcileFinalizer drbdr false upAndNotInCleanup with
    | .error (.fail err) => return outcomeOf (reconcileErr ++ err)
    | _ => return outcomeOf reconcileErr
  else return outcomeOf reconcileErr

def reportAndRelease (statusBase : DRBDResource) (converged : Converged) (list : List String)
    (llvErr : Failures) (upAndNotInCleanup maintenanceMode : Bool) : Prog Outcome := do
  let currentDiskLLV ← computeActualLLVName converged.aState
  let specLLV := converged.drbdr.spec.lvmLogicalVolumeName
  let (kept, releaseErr) ←
    releaseLLVFinalizers (keepsFinalizer upAndNotInCleanup specLLV currentDiskLLV) list
  let reconcileErr := llvErr ++ releaseErr ++ converged.err
  let drbdr := reportedObject converged currentDiskLLV kept reconcileErr maintenanceMode
  let (drbdr, reconcileErr) ← patchReportedStatus drbdr statusBase reconcileErr
  dropFinalizer drbdr converged.aState kept upAndNotInCleanup reconcileErr

def reconcileHeld (r : Reconciler) (drbdr : DRBDResource)
    (observed : Option ActualState × Failures) (list : List String)
    (upAndNotInCleanup maintenanceMode : Bool) : Prog Outcome := do
  let (intendedDisk, llvErr) ← (
    if !maintenanceMode ∧ drbdr.spec.type = .diskful ∧ upAndNotInCleanup then
      reconcileLLVFinalizerAdd drbdr.spec.lvmLogicalVolumeName (actualBackingDisk observed.1)
    else return (none, []))
  let converged ← reconcileDRBDState r drbdr observed intendedDisk upAndNotInCleanup maintenanceMode
  reportAndRelease drbdr converged list llvErr upAndNotInCleanup maintenanceMode

def reconcileFinalized (r : Reconciler) (drbdr : DRBDResource) (maintenanceMode : Bool) :
    Prog Outcome := do
  let upAndNotInCleanup := isUpAndNotInCleanup drbdr
  let (aState, aErr) ← observeActualDRBDState (drbdResourceNameOnTheNode drbdr)
  let aErr := configuredReasonError aErr "StateQueryFailed"
  match ← reconcileAddresses r drbdr (existingPortsFromState aState) with
  | .error outcome => return outcome
  | .ok drbdr =>
    match ← reconcileLLVFinalizersToRelease drbdr upAndNotInCleanup maintenanceMode with
    | .error outcome => return outcome
    | .ok list => reconcileHeld r drbdr (aState, aErr) list upAndNotInCleanup maintenanceMode

def reconcileDRBDR (r : Reconciler) (drbdr : DRBDResource) : Prog Outcome := do
  if drbdr.spec.actualNameOnTheNode ≠ "" ∧ !drbdr.spec.maintenance then
    reconcileActualNameOnTheNode drbdr
  else
    match ← reconcileFinalizer drbdr true (isUpAndNotInCleanup drbdr) with
    | .error outcome => return outcome
    | .ok obj => reconcileFinalized r obj drbdr.spec.maintenance

def reconcileOrphanDRBD (k8sName : String) : Prog Outcome := do
  let drbdName := drbdNameFromK8SName k8sName
  match ← ask (.status drbdName) with
  | .error err => return .fail (failure ("executing drbdsetup status: " ++ err))
  | .ok none => return .done
  | .ok (some _) =>
    let _ ← ask (.execute (.removeDeviceSymlink k8sName))
    let err ← executeAction (.down drbdName)
    return outcomeOf err

def reconcile (r : Reconciler) (name : String) : Prog Outcome := do
  match ← ask (.getDRBDR name) with
  | .error err => return .fail (failure err)
  | .ok none => reconcileOrphanDRBD name
  | .ok (some drbdr) =>
    if drbdr.spec.nodeName ≠ r.nodeName then return .done
    else reconcileDRBDR r drbdr

end ReplicatedVolume.Agent
