import ReplicatedVolume.Volume.Formation

/-!
# Formation by adoption

The plan `adopt/v1` makes a volume out of replicas that exist already: it takes them as they are
and never creates, deletes or restarts. `reconcileFormation` runs the current step of the plan
that the Formation transition records.
-/

namespace ReplicatedVolume.Volume
open Datamesh Dmte

def adoptable (rvrs : List Replica) : Finset ReplicaID :=
  activeOfType .diskful rvrs ∪ activeOfType .tieBreaker rvrs ∪ activeOfType .access rvrs

def isScheduled (rvr : Replica) : Bool :=
  if rvr.type = .access then rvr.nodeName != "" else rvr.isTrueCurrent "Scheduled"

def isInMaintenance (rvr : Replica) : Bool :=
  rvr.conditionReason "DRBDConfigured" "InMaintenance"

def prerequisitesWait (rv : VolumeObject) (rvrs : List Replica) : Option Wait :=
  let diskful := activeOfType .diskful rvrs
  let all := adoptable rvrs
  let scheduled := idsWith rvrs isScheduled
  let waitingScheduling := all \ scheduled
  let schedulingFailed := idsWith rvrs fun rvr =>
    rvr.id ∈ waitingScheduling && rvr.isFalse "Scheduled"
  let inMaintenance := idsWith rvrs fun rvr => rvr.id ∈ all && isInMaintenance rvr
  let networks := rv.datamesh.systemNetworkNames
  let missing := missingAddresses networks rvrs all
  let insufficient := insufficientSize rv.datamesh.size rvrs diskful
  if waitingScheduling ≠ ∅ then
    some ⟨"Waiting for " ++ toString waitingScheduling.card ++ "/" ++ toString all.card ++
        " replicas to be scheduled: " ++
        ", ".intercalate (named "pending scheduling" (waitingScheduling \ schedulingFailed) ++
          schedulingFailedPart rvrs schedulingFailed),
      [(scheduled ∩ all, "Datamesh is forming (adopt), waiting for other replicas to be scheduled")]⟩
  else if all \ inMaintenance ≠ ∅ then
    some ⟨"Waiting for " ++ toString (all \ inMaintenance).card ++ "/" ++ toString all.card ++
        " replicas to enter maintenance mode: [" ++ idSetString (all \ inMaintenance) ++ "]",
      [(inMaintenance,
        "Datamesh is forming (adopt), waiting for other replicas to enter maintenance mode")]⟩
  else if missing ≠ ∅ then
    some ⟨"Address configuration mismatch: replicas [" ++ idSetString missing ++
        "] do not have addresses for all required networks " ++ networksString networks,
      [(all \ missing,
        "Datamesh is forming (adopt), waiting for other replicas to report required addresses"),
       (missing, "Replica addresses do not match required network configuration, " ++
        "blocking datamesh formation")]⟩
  else if insufficient ≠ ∅ then
    some ⟨"Replicas [" ++ idSetString insufficient ++
        "] have insufficient backing volume size for the requested volume size (required: " ++
        toString rv.datamesh.size ++ ")",
      [(diskful \ insufficient, "Datamesh is forming (adopt), " ++
          "waiting for other replicas to resolve backing volume size issue"),
       (insufficient, "Replica backing volume size is insufficient for the requested volume size, " ++
        "blocking formation")]⟩
  else none

def adoptSharedSecretKey : String := "sds-replicated-volume.deckhouse.io/adopt-shared-secret"

def maxSharedSecretLen : ℕ := 64

def resolveAdoptSharedSecret (api : Answers) (rv : VolumeObject) : Except String String :=
  match rv.adoptSharedSecret with
  | none => api.sharedSecret
  | some secret =>
    if secret = "" then .error ("annotation " ++ adoptSharedSecretKey ++ " is set but empty")
    else if maxSharedSecretLen < secret.utf8ByteSize then
      .error ("annotation " ++ adoptSharedSecretKey ++ " value exceeds 64 characters")
    else .ok secret

def adoptedMember (rsp : Pool) (rvr : Replica) : DatameshMember :=
  { id := rvr.id, type := MemberType.ofReplica rvr.type, nodeName := rvr.nodeName
    zone := zoneOf rsp rvr.nodeName, addresses := rvr.addresses
    lvmVolumeGroupName := rvr.lvmVolumeGroupName
    lvmVolumeGroupThinPoolName := rvr.lvmVolumeGroupThinPoolName
    attached := rvr.attachment.isSome }

/-- Quorum counts the voters that are there, redundancy starts at its minimum. -/
def adoptReplicas (rv : VolumeObject) (rsp : Pool) (rvrs : List Replica) (secret : String) :
    VolumeObject :=
  let all := adoptable rvrs
  let added := (rvrs.filter (·.id ∈ all)).map (adoptedMember rsp)
  let members := added.foldl applyDatameshMember rv.datamesh.members
  let voters := ((members.filter (·.type.isVoter)).map (·.id)).toFinset
  let rv := { rv with
    baselineGMDR := 0
    datameshRevision := rv.datameshRevision + 1
    datamesh := { rv.datamesh with
      members
      multiattach := 1 < added.countP (·.attached)
      quorum := (voters.card / 2 + 1) % 256
      quorumMinimumRedundancy := 1
      sharedSecretAlg := if rv.datamesh.sharedSecret = "" then "SHA256"
        else rv.datamesh.sharedSecretAlg
      sharedSecret := if rv.datamesh.sharedSecret = "" then secret
        else rv.datamesh.sharedSecret } }
  let rv := (applyDatameshReplicaRequestMessages rv all
    "Datamesh is forming (adopt), waiting for replica to apply new configuration").1
  rv.modifyFormationStep 1 fun s =>
    { s with
      datameshRevision := rv.datameshRevision
      message := "Replicas [" ++ idSetString all ++
        "] added to datamesh. Verifying configuration consistency" }

def syncedAddresses (rvrs : List Replica) (m : DatameshMember) : List Address :=
  match rvrs.find? (·.id = m.id) with
  | some rvr => if rvr.addresses = [] then m.addresses else rvr.addresses
  | none => m.addresses

def ensureDatameshMemberAddresses (rv : VolumeObject) (rvrs : List Replica) :
    VolumeObject × Bool :=
  if rv.datamesh.members.any fun m => m.addresses != syncedAddresses rvrs m then
    ({ rv with
        datameshRevision := rv.datameshRevision + 1
        datamesh := { rv.datamesh with
          members := rv.datamesh.members.map fun m =>
            { m with addresses := syncedAddresses rvrs m } } }, true)
  else (rv, false)

def isAdopted (type : MemberType) : Bool :=
  type = .diskful || type = .tieBreaker || type = .access

def populateWait (rv : VolumeObject) (rvrs : List Replica) : Option Wait :=
  let all := adoptable rvrs
  let observed := idsWith rvrs fun rvr =>
    rvr.id ∈ all && rv.datameshRevision ≤ rvr.datameshRevisionObservedByAgent
  let dmAll := memberIDs rv isAdopted
  if observed ≠ all then
    some ⟨"Waiting for replicas [" ++ idSetString (all \ observed) ++
        "] to observe datamesh revision " ++ toString rv.datameshRevision,
      [(all \ observed,
        "Datamesh is forming (adopt), waiting for agent to process new configuration")]⟩
  else if dmAll ≠ all then
    some ⟨"Datamesh members mismatch: datamesh has [" ++ idSetString dmAll ++
        "], but active RVRs are [" ++ idSetString all ++ "]",
      [(all, "Datamesh members mismatch, blocking formation")]⟩
  else none

def waitAndRequeue (rv : VolumeObject) (rvrs : List Replica) (idx : ℕ) (changed : Bool)
    (wait : Wait) : Pass :=
  let (rv, noted) := applyWait rv idx wait
  ⟨rv, rvrs, .proceed (some 0), changed || noted⟩

def reconcileAdoptStepExitMaintenance (rv : VolumeObject) (rvrs : List Replica) : Pass :=
  let stillInMaintenance := idsWith rvrs fun rvr =>
    rvr.id ∈ memberIDs rv isAdopted && isInMaintenance rvr
  if stillInMaintenance ≠ ∅ then
    waitAndRequeue rv rvrs 2 false
      ⟨"Waiting for replicas [" ++ idSetString stillInMaintenance ++ "] to exit maintenance mode", []⟩
  else
    let (rv, changed) := rv.applyFormationTransitionAbsent
    ⟨rv, rvrs, .proceed (some 0), changed⟩

def reconcileAdoptStepPopulateAndVerifyDatamesh (api : Answers) (rv : VolumeObject)
    (rvrs : List Replica) (rsp : Pool) : Pass :=
  if rv.datamesh.members = [] then
    match if rv.datamesh.sharedSecret = "" then resolveAdoptSharedSecret api rv else .ok "" with
    | .error message => ⟨rv, rvrs, .fail message, false⟩
    | .ok secret => ⟨adoptReplicas rv rsp rvrs secret, rvrs, .proceed none, true⟩
  else
    let (rv, synced) := ensureDatameshMemberAddresses rv rvrs
    if synced then ⟨rv, rvrs, .proceed none, true⟩
    else match populateWait rv rvrs with
      | some wait => waitAndRequeue rv rvrs 1 false wait
      | none => reconcileAdoptStepExitMaintenance (rv.advanceFormationStep 1) rvrs

def reconcileAdoptStepVerifyPrerequisites (api : Answers) (rv : VolumeObject)
    (rvrs : List Replica) (rsp : Pool) (created : Bool) : Pass :=
  let rv := if created then
      initDatamesh rv rsp "Starting adopt: waiting for pre-existing replicas" else rv
  match prerequisitesWait rv rvrs with
  | some wait => waitAndRequeue rv rvrs 0 created wait
  | none =>
    reconcileAdoptStepPopulateAndVerifyDatamesh api (rv.advanceFormationStep 0) rvrs rsp

def planIDString : PlanID → String
  | .other id => id
  | _ => ""

def reconcileFormation (api : Answers) (rv : VolumeObject) (rvrs : List Replica)
    (c : Configuration) (rsp : Pool) (stepIdx : ℕ) : Option Pass :=
  let (rv, created) := rv.ensureFormationTransition (if rv.adoptRVR then .adopt else .create)
  match (rv.formation.map (·.planID)).getD .create with
  | .adopt =>
    match stepIdx with
    | 0 => some (reconcileAdoptStepVerifyPrerequisites api rv rvrs rsp created)
    | 1 => some (reconcileAdoptStepPopulateAndVerifyDatamesh api rv rvrs rsp)
    | 2 => some (reconcileAdoptStepExitMaintenance rv rvrs)
    | _ => some ⟨rv, rvrs, .fail ("invalid adopt formation step index: " ++ toString stepIdx), false⟩
  | .create | .other "" =>
    match stepIdx with
    | 0 => reconcileFormationStepPreconfigure api rv rvrs c rsp created
    | 1 => reconcileFormationStepEstablishConnectivity api rv rvrs c rsp
    | 2 => reconcileFormationStepBootstrapData api rv rvrs rsp
    | _ => some ⟨rv, rvrs, .fail ("invalid formation step index: " ++ toString stepIdx), false⟩
  | plan => some ⟨rv, rvrs, .fail ("unknown formation plan: " ++ planIDString plan), false⟩

/-- The part of `Reconcile` that forms a volume with a configuration, up to the patch of its
status. The pool was read for the pass. -/
def formationPass (api : Answers) (rv : VolumeObject) (rvrs : List Replica) (c : Configuration)
    (rsp : Pool) : Option Pass :=
  let (rv, requested) := ensureDatameshReplicaRequests rv rvrs
  (reconcileFormation api rv rvrs c rsp (isFormationInProgress rv.toRV).2).map
    (·.reportChangedIf requested)

end ReplicatedVolume.Volume
