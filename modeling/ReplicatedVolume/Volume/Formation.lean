import ReplicatedVolume.Volume.Objects

/-!
# Formation of a new volume

The plan `create/v1`: create the replicas of the intended layout, make them members, start the
initial synchronisation. Almost every wait restarts formation once it takes too long. What the API
answers to the calls of a pass and the time since formation began are inputs.
-/

namespace ReplicatedVolume.Volume
open Datamesh Dmte

inductive CreateReply where
  | created
  | alreadyExists
  | failed (message : String)
  deriving DecidableEq

inductive OperationPhase where
  | none | pending | running | succeeded | failed
  deriving DecidableEq

/-- The DRBDResourceOperation of a formation. `stale` tells that it was created before formation
started, `parameters` are `clearBitmap` and `forceResync`. -/
structure DRBDROp where
  stale : Bool
  isCreateNewUUID : Bool
  drbdResourceName : String
  parameters : Option (Bool × Bool)
  phase : OperationPhase
  deriving DecidableEq

/-- The answers to the calls of one pass. A deletion stands for the removal of the finalizer
together with the deletion. -/
structure Answers where
  createRVR : ReplicaID → CreateReply
  deleteRVR : ReplicaID → Except String Unit
  getDRBDROp : Except String (Option DRBDROp)
  createDRBDROp : CreateReply
  deleteDRBDROp : Except String Unit
  sharedSecret : Except String String
  /-- Seconds since formation started. -/
  elapsed : ℕ
  rsc : Option RSC
  zoneCount : String → Except PoolError ℕ
  classRVs : Except String (List RV)

/-- How a step ends: the pass goes on, with a requeue after some seconds, or it returns. -/
inductive Flow where
  | proceed (requeueAfter : Option ℕ)
  | done
  | fail (message : String)
  deriving DecidableEq

def Flow.shouldReturn : Flow → Bool
  | .proceed _ => false
  | _ => true

structure Pass where
  rv : VolumeObject
  rvrs : List Replica
  flow : Flow
  changed : Bool

def Pass.reportChangedIf (p : Pass) (changed : Bool) : Pass :=
  { p with changed := p.changed || changed }

def formationStepNames : List String := ["Preconfigure", "Establish connectivity", "Bootstrap data"]

def adoptStepNames : List String :=
  ["Verify prerequisites", "Populate and verify datamesh", "Exit maintenance"]

def newFormation (planID : PlanID) : Transition :=
  { type := .formation, group := .formation, planID, replica := none, replicaType := none
    fromReplicaType := none, toReplicaType := none, fromSystemNetworkNames := []
    toSystemNetworkNames := []
    steps := (if planID = .adopt then adoptStepNames else formationStepNames).mapIdx fun i name =>
      ⟨name, if i = 0 then .active else .pending, 0, ""⟩ }

namespace VolumeObject

def formation (rv : VolumeObject) : Option Transition :=
  rv.datameshTransitions.find? (·.type = .formation)

def ensureFormationTransition (rv : VolumeObject) (planID : PlanID) : VolumeObject × Bool :=
  match rv.formation with
  | some _ => (rv, false)
  | none =>
    ({ rv with datameshTransitions := rv.datameshTransitions ++ [newFormation planID] }, true)

def modifyFormation (rv : VolumeObject) (f : Transition → Transition) : VolumeObject :=
  match rv.datameshTransitions.findIdx? (·.type = .formation) with
  | some i => { rv with datameshTransitions := rv.datameshTransitions.modify i f }
  | none => rv

def modifyFormationStep (rv : VolumeObject) (idx : ℕ) (f : TransitionStep → TransitionStep) :
    VolumeObject :=
  rv.modifyFormation fun t => { t with steps := t.steps.modify idx f }

def formationStep (rv : VolumeObject) (idx : ℕ) : Option TransitionStep :=
  rv.formation.bind (·.steps[idx]?)

def applyStepMessage (rv : VolumeObject) (idx : ℕ) (message : String) : VolumeObject × Bool :=
  (rv.modifyFormationStep idx fun s => { s with message },
    (rv.formationStep idx).any (·.message != message))

def advanceFormationStep (rv : VolumeObject) (fromIdx : ℕ) : VolumeObject :=
  (rv.modifyFormationStep fromIdx fun s => { s with status := .completed, message := "" })
    |>.modifyFormationStep (fromIdx + 1) fun s => { s with status := .active }

def applyFormationTransitionAbsent (rv : VolumeObject) : VolumeObject × Bool :=
  match rv.datameshTransitions.findIdx? (·.type = .formation) with
  | some i => ({ rv with datameshTransitions := rv.datameshTransitions.eraseIdx i }, true)
  | none => (rv, false)

end VolumeObject

/-- Delete the replicas one by one until a call fails; the replicas whose deletion went through
are marked. A call is only made for an object that is not marked or still has the finalizer. -/
def deleteRVRs (api : Answers) (which : Replica → Bool) :
    List Replica → List Replica × Option (ReplicaID × String)
  | [] => ([], none)
  | rvr :: rvrs =>
    if which rvr then
      let answer := if rvr.finalizer || !rvr.deleting then api.deleteRVR rvr.id else .ok ()
      match answer with
      | .error message => (rvr :: rvrs, some (rvr.id, message))
      | .ok () =>
        let (rest, failure) := deleteRVRs api which rvrs
        ({ rvr with finalizer := false, deleting := true } :: rest, failure)
    else
      let (rest, failure) := deleteRVRs api which rvrs
      (rvr :: rest, failure)

def drbdrOpName (rv : VolumeObject) : String := rv.name ++ "-formation"

def resetDatamesh (rv : VolumeObject) : VolumeObject :=
  { rv with
    datameshRevision := 0
    datamesh := .zero
    baselineGMDR := 0
    datameshTransitions := []
    datameshReplicaRequests := [] }

def Flow.ofOutcome : Outcome → Flow × Bool
  | .proceed changed => (.proceed none, changed)
  | .requeueAfter seconds changed => (.proceed (some seconds), changed)
  | .fail message => (.fail message, false)

def reconcileFormationRestartIfTimeoutPassed (api : Answers) (rv : VolumeObject)
    (rvrs : List Replica) (timeout : ℕ) : Option Pass :=
  if api.elapsed < timeout then some ⟨rv, rvrs, .proceed (some (timeout - api.elapsed)), false⟩
  else match api.getDRBDROp with
    | .error message =>
      some ⟨rv, rvrs, .fail ("getting DRBDResourceOperation " ++ drbdrOpName rv ++ ": " ++
        message), false⟩
    | .ok op =>
      match op, api.deleteDRBDROp with
      | some _, .error message =>
        some ⟨rv, rvrs, .fail ("deleting DRBDResourceOperation " ++ drbdrOpName rv ++ ": " ++
          message), false⟩
      | _, _ =>
        match deleteRVRs api (fun _ => true) rvrs with
        | (rvrs, some (id, message)) =>
          some ⟨rv, rvrs, .fail ("deleting RVR " ++ replicaName rv.name id ++ ": " ++ message),
            false⟩
        | (rvrs, none) => do
            let rv := resetDatamesh rv
            let (configured, outcome) ←
              reconcileRVConfiguration api.zoneCount api.classRVs rv.toRV api.rsc
            let rv := { rv with toRV := configured }
            if (Flow.ofOutcome outcome).1.shouldReturn then
              some ⟨rv, rvrs, (Flow.ofOutcome outcome).1, (Flow.ofOutcome outcome).2⟩
            else some ⟨rv, rvrs, .proceed (some 0), true⟩

structure Wait where
  message : String
  requests : List (Finset ReplicaID × String)

def applyWait (rv : VolumeObject) (idx : ℕ) (wait : Wait) : VolumeObject × Bool :=
  wait.requests.foldl (fun acc request =>
      let (rv, changed) := applyDatameshReplicaRequestMessages acc.1 request.1 request.2
      (rv, acc.2 || changed))
    (rv.applyStepMessage idx wait.message)

def waitOrRestart (api : Answers) (rv : VolumeObject) (rvrs : List Replica) (idx : ℕ)
    (changed : Bool) (timeout : ℕ) (wait : Wait) : Option Pass :=
  let (rv, noted) := applyWait rv idx wait
  (reconcileFormationRestartIfTimeoutPassed api rv rvrs timeout).map
    (·.reportChangedIf (changed || noted))

structure Preconfigured where
  diskful : Finset ReplicaID
  tiebreakers : Finset ReplicaID
  scheduled : Finset ReplicaID
  preconfigured : Finset ReplicaID

def Preconfigured.all (f : Preconfigured) : Finset ReplicaID := f.diskful ∪ f.tiebreakers

def misplaced (rvrs : List Replica) : Finset ReplicaID :=
  idsWith rvrs fun rvr => !rvr.deleting && rvr.isFalseCurrent "SatisfyEligibleNodes"

def deletingIDs (rvrs : List Replica) : Finset ReplicaID := idsWith rvrs (·.deleting)

def createMissing (api : Answers) (type : ReplicaType) (what : String) :
    ℕ → List Replica → Finset ReplicaID → List Replica × Except Flow (Finset ReplicaID)
  | 0, rvrs, ids => (rvrs, .ok ids)
  | missing + 1, rvrs, ids =>
    match newRVR rvrs type "" with
    | none => (rvrs, .error (.fail ("creating " ++ what ++ " RVR: no available ID for new RVR")))
    | some rvr =>
      match api.createRVR rvr.id with
      | .alreadyExists => (rvrs, .error .done)
      | .failed message => (rvrs, .error (.fail ("creating " ++ what ++ " RVR: " ++ message)))
      | .created =>
        createMissing api type what missing (insertRVRSorted rvrs rvr) (insert rvr.id ids)

def maxID (ids : Finset ReplicaID) : Option ReplicaID :=
  (List.finRange 32).reverse.find? (· ∈ ids)

/-- Drop the given number of ids, the least progressed and highest ones first. -/
def trimExcess (scheduled preconfigured : Finset ReplicaID) : ℕ → Finset ReplicaID → Finset ReplicaID
  | 0, ids => ids
  | excess + 1, ids =>
    let candidates := if ids \ scheduled ≠ ∅ then ids \ scheduled
      else if ids \ preconfigured ≠ ∅ then ids \ preconfigured else ids
    trimExcess scheduled preconfigured excess ((maxID candidates).elim ids ids.erase)

def isPreconfigured (rvr : Replica) : Bool :=
  rvr.datameshRequest.any (·.operation = .join) &&
    (rvr.condition "DRBDConfigured").any fun c =>
      c.reason = "PendingDatameshJoin" && c.observedGeneration = rvr.generation

def schedulingFailureMessages (rvrs : List Replica) (ids : Finset ReplicaID) : List String :=
  ((rvrs.filterMap fun rvr =>
      if rvr.id ∈ ids then
        (rvr.condition "Scheduled").bind fun c =>
          if c.status = some false ∧ c.message ≠ "" then some c.message else none
      else none).foldl (fun msgs message => if message ∈ msgs then msgs else msgs ++ [message]) [])
    |>.insertionSort (· ≤ ·)

def named (label : String) (ids : Finset ReplicaID) : List String :=
  if ids = ∅ then [] else [label ++ " [" ++ idSetString ids ++ "]"]

def schedulingFailedPart (rvrs : List Replica) (ids : Finset ReplicaID) : List String :=
  (named "scheduling failed" ids).map fun part =>
    match schedulingFailureMessages rvrs ids with
    | [] => part
    | messages => part ++ " (" ++ " | ".intercalate messages ++ ")"

def computeFormationPreconfigureWaitMessage (rvrs : List Replica) (target : ℕ)
    (pendingScheduling schedulingFailed waitingPreconfiguration : Finset ReplicaID) : String :=
  "Waiting for " ++ toString (pendingScheduling.card + schedulingFailed.card +
    waitingPreconfiguration.card) ++ "/" ++ toString target ++ " replicas: " ++
    ", ".intercalate (named "pending scheduling" pendingScheduling ++
      schedulingFailedPart rvrs schedulingFailed ++
      named "preconfiguring" waitingPreconfiguration)

def matchCount (networks : List String) (rvr : Replica) : ℕ :=
  rvr.addresses.countP fun a => networks.contains a.systemNetworkName

def networksString (networks : List String) : String := "[" ++ " ".intercalate networks ++ "]"

def missingAddresses (networks : List String) (rvrs : List Replica) (ids : Finset ReplicaID) :
    Finset ReplicaID :=
  idsWith rvrs fun rvr => rvr.id ∈ ids && matchCount networks rvr != networks.length

def insufficientSize (size : ℤ) (rvrs : List Replica) (diskful : Finset ReplicaID) :
    Finset ReplicaID :=
  idsWith rvrs fun rvr => rvr.id ∈ diskful &&
    (rvr.backingVolume.bind (·.size)).any fun backing => usableSize backing < size

def specMismatch (rvrs : List Replica) (ids : Finset ReplicaID) : Finset ReplicaID :=
  idsWith rvrs fun rvr => rvr.id ∈ ids && rvr.datameshRequest.any fun req =>
    some rvr.type != req.type || rvr.lvmVolumeGroupName != req.lvmVolumeGroupName ||
      rvr.lvmVolumeGroupThinPoolName != req.thinPoolName

def preconfigureWait (rv : VolumeObject) (rvrs : List Replica) (rsp : Pool) (target : ℕ)
    (f : Preconfigured) : Option Wait :=
  let waitingScheduling := f.all \ f.scheduled
  let schedulingFailed := idsWith rvrs fun rvr =>
    rvr.id ∈ waitingScheduling && rvr.isFalse "Scheduled"
  let waitingPreconfiguration := (f.scheduled ∩ f.all) \ f.preconfigured
  let networks := rv.datamesh.systemNetworkNames
  let missing := missingAddresses networks rvrs f.all
  let notEligible := idsWith rvrs fun rvr =>
    rvr.id ∈ f.all && (rsp.findEligibleNode rvr.nodeName).isNone
  let mismatch := specMismatch rvrs f.all
  let insufficient := insufficientSize rv.datamesh.size rvrs f.diskful
  if waitingScheduling ≠ ∅ ∨ waitingPreconfiguration ≠ ∅ then
    some ⟨computeFormationPreconfigureWaitMessage rvrs target (waitingScheduling \ schedulingFailed)
        schedulingFailed waitingPreconfiguration,
      [(f.preconfigured,
        "Datamesh is forming, waiting for other replicas to become preconfigured")]⟩
  else if missing ≠ ∅ then
    some ⟨"Address configuration mismatch: replicas [" ++ idSetString missing ++
        "] do not have addresses for all required networks " ++ networksString networks ++
        ". This should not happen during normal formation. " ++
        "If not resolved automatically, formation will be restarted",
      [(f.all \ missing,
        "Datamesh is forming, waiting for other replicas to report required addresses"),
       (missing, "Replica addresses do not match required network configuration, " ++
        "blocking datamesh formation")]⟩
  else if notEligible ≠ ∅ then
    some ⟨"Replicas [" ++ idSetString notEligible ++
        "] are placed on nodes not in eligible nodes list. " ++
        "This should not happen during normal formation. " ++
        "If not resolved automatically, formation will be restarted",
      [(f.all \ notEligible, "Datamesh is forming, waiting for other replicas to be on eligible nodes"),
       (notEligible, "Replica is placed on a node not in the eligible nodes list, " ++
        "blocking datamesh formation")]⟩
  else if mismatch ≠ ∅ then
    some ⟨"Replicas [" ++ idSetString mismatch ++
        "] have spec changes that don't match pending transition. " ++
        "This may indicate spec changed during formation. " ++
        "If not resolved automatically, formation will be restarted",
      [(f.all \ mismatch, "Datamesh is forming, waiting for other replicas to resolve spec mismatch"),
       (mismatch, "Replica spec does not match pending transition, blocking datamesh formation")]⟩
  else if insufficient ≠ ∅ then
    some ⟨"Replicas [" ++ idSetString insufficient ++
        -- The source prints a size with a suffix.
        "] have insufficient backing volume size for datamesh (required: " ++
        toString rv.datamesh.size ++ "). This should not happen during normal formation. " ++
        "If not resolved automatically, formation will be restarted",
      [(f.diskful \ insufficient,
        "Datamesh is forming, waiting for other replicas to resolve backing volume size issue"),
       (insufficient, "Replica backing volume size is insufficient for datamesh, blocking formation")]⟩
  else none

def intendedLayout (c : Configuration) : ℕ × ℕ :=
  let diskful := intendedDiskfulCount c.failuresToTolerate c.guaranteedMinimumDataRedundancy
  (diskful, tieBreakersForDiskful diskful c.failuresToTolerate)

def initDatamesh (rv : VolumeObject) (rsp : Pool) (message : String) : VolumeObject :=
  let rv := { rv with
    datameshRevision := 1
    datamesh := { rv.datamesh with
      systemNetworkNames := rsp.systemNetworkNames
      size := alignTo4Ki rv.size } }
  rv.modifyFormationStep 0 fun s => { s with datameshRevision := 1, message }

def activeOfType (type : ReplicaType) (rvrs : List Replica) : Finset ReplicaID :=
  idsWith rvrs fun rvr => rvr.type = type && !rvr.deleting

def MemberType.ofReplica : ReplicaType → MemberType
  | .diskful => .diskful
  | .shadowDiskful => .shadowDiskful
  | .tieBreaker => .tieBreaker
  | .access => .access

def applyDatameshMember (members : List DatameshMember) (m : DatameshMember) :
    List DatameshMember :=
  match members.findIdx? (·.id = m.id) with
  | some i => members.set i m
  | none => members ++ [m]

def zoneOf (rsp : Pool) (nodeName : String) : String :=
  ((rsp.findEligibleNode nodeName).map (·.zoneName)).getD ""

/-- The member from the request of the replica. A request without a type would give a member that
the API rejects. -/
def requestedMember (rsp : Pool) (rvr : Replica) : Option DatameshMember := do
  let req ← rvr.datameshRequest
  let type ← req.type
  some { id := rvr.id, type := MemberType.ofReplica type, nodeName := rvr.nodeName
         zone := zoneOf rsp rvr.nodeName, addresses := rvr.addresses
         lvmVolumeGroupName := req.lvmVolumeGroupName
         lvmVolumeGroupThinPoolName := req.thinPoolName, attached := false }

def computeTargetQuorum (c : Configuration) (members : List DatameshMember) : ℕ × ℕ :=
  let minD := (intendedLayout c).1 % 256
  let voters := ((members.filter (·.type.isVoter)).map (·.id)).toFinset
  (max ((voters.card / 2 + 1) % 256) (minD / 2 + 1), c.quorumMinimumRedundancy)

def populateDatamesh (rv : VolumeObject) (c : Configuration) (rsp : Pool) (rvrs : List Replica)
    (ids : Finset ReplicaID) (secret : String) : Option VolumeObject := do
  let added ← (rvrs.filter (·.id ∈ ids)).mapM (requestedMember rsp)
  let members := added.foldl applyDatameshMember rv.datamesh.members
  let (quorum, quorumMinimumRedundancy) := computeTargetQuorum c members
  let rv := { rv with
    baselineGMDR := c.guaranteedMinimumDataRedundancy
    datameshRevision := rv.datameshRevision + 1
    datamesh := { rv.datamesh with
      members, quorum, quorumMinimumRedundancy, sharedSecretAlg := "SHA256", sharedSecret := secret } }
  let rv := (applyDatameshReplicaRequestMessages rv ids
    "Datamesh is forming, waiting for replica to apply new configuration").1
  some (rv.modifyFormationStep 1 fun s =>
    { s with
      datameshRevision := rv.datameshRevision
      message := "Replicas [" ++ idSetString ids ++
        "] preconfigured and added to datamesh. Waiting for them to establish connections" })

def peersOfType (type : ReplicaType) (p : PeerStatus → Bool) (rvr : Replica) : Finset ReplicaID :=
  ((rvr.peers.filter fun peer => rvr.peerType peer.id = type && p peer).map (·.id)).toFinset

def computeActualTieBreakerReadiness (rv : VolumeObject) (rvrs : List Replica) :
    Option (Finset ReplicaID × String) :=
  let active := activeOfType .tieBreaker rvrs
  let members := memberIDs rv (· = .tieBreaker)
  let peers := (rv.datamesh.members.filter (·.type.connectsToAllPeers)).map fun m =>
    (m.id, (rvrs.find? (·.id = m.id)).map (·.toRVR))
  let defects := rvrs.filterMap fun rvr =>
    if rvr.id ∈ active then
      (tieBreakerDefect (replicaName rv.name) (some rvr.toRVR) peers rv.datameshRevision).map
        fun why => (rvr.id, replicaName rv.name rvr.id ++ ": " ++ why)
    else none
  let notReady := (defects.map (·.1)).toFinset
  if members ≠ active then
    some (members ∪ active, "Datamesh tie-breaker members mismatch: datamesh has [" ++
      idSetString members ++ "], but active tie-breaker replicas are [" ++ idSetString active ++ "]")
  else if notReady = ∅ then none
  else some (notReady, "Waiting for tie-breakers [" ++ idSetString notReady ++
    "] to become operational: " ++
    "; ".intercalate ((defects.map (·.2)).insertionSort (· ≤ ·)))

def establishWait (rv : VolumeObject) (rvrs : List Replica) : Option Wait :=
  let diskful := activeOfType .diskful rvrs
  let all := diskful ∪ activeOfType .tieBreaker rvrs
  let dmDiskful := memberIDs rv (· = .diskful)
  let configured := idsWith rvrs fun rvr => rvr.id ∈ diskful &&
    rvr.datameshRevision = rv.datameshRevision && rvr.isTrueCurrent "DRBDConfigured"
  let connected := idsWith rvrs fun rvr => rvr.id ∈ diskful &&
    peersOfType .diskful (·.connectionState = .connected) rvr = diskful \ {rvr.id}
  let ready := idsWith rvrs fun rvr => rvr.id ∈ diskful &&
    rvr.backingVolume.any (·.state = .inconsistent) &&
    peersOfType .diskful (·.replicationState = .established) rvr = diskful \ {rvr.id}
  if dmDiskful ≠ diskful then
    let message := "Datamesh members mismatch: datamesh has [" ++ idSetString dmDiskful ++
      "], but active RVRs are [" ++ idSetString diskful ++ "]. " ++
      "This may be caused by manual intervention during formation. " ++
      "If not resolved automatically, formation will be restarted"
    some ⟨message, [(diskful, message)]⟩
  else if configured ≠ diskful then
    some ⟨"Waiting for replicas [" ++ idSetString (diskful \ configured) ++
        "] to be fully configured for datamesh revision " ++ toString rv.datameshRevision,
      [(diskful \ configured, "Datamesh is forming, waiting for DRBD configuration to continue"),
       (configured, "Datamesh is forming, DRBD configured, waiting for other replicas")]⟩
  else if connected ≠ diskful then
    some ⟨"Waiting for replicas [" ++ idSetString (diskful \ connected) ++
        "] to establish connections with all peers",
      [(diskful, "Datamesh is forming, waiting for all replicas to connect to each other")]⟩
  else match computeActualTieBreakerReadiness rv rvrs with
    | some (notReady, message) =>
      some ⟨message,
        [(notReady, "Tie-breaker is not operational yet, blocking datamesh formation"),
         (all \ notReady,
          "Datamesh is forming, waiting for the tie-breaker to become operational")]⟩
    | none =>
      if ready ≠ diskful then
        some ⟨"Waiting for replicas [" ++ idSetString (diskful \ ready) ++
            "] to be ready for data bootstrap " ++
            "(backing volume Inconsistent + Established replication with all peers)",
          [(diskful \ ready, "Datamesh is forming, waiting for data bootstrap readiness " ++
            "(requires backing volume Inconsistent and replication Established with all peers)"),
           (ready, "Datamesh is forming, ready for data bootstrap, waiting for other replicas")]⟩
      else none

def ensureDRBDROp (api : Answers) (rv : VolumeObject) (rvrs : List Replica)
    (dmDiskful : Finset ReplicaID) (parameters : Bool × Bool) : Except Flow DRBDROp :=
  match api.getDRBDROp with
  | .error message =>
    .error (.fail ("getting DRBDResourceOperation " ++ drbdrOpName rv ++ ": " ++ message))
  | .ok op =>
    let deleted : Except Flow (Option DRBDROp) :=
      if op.any (·.stale) then
        match api.deleteDRBDROp with
        | .error message => .error (.fail ("deleting stale DRBDResourceOperation " ++
            drbdrOpName rv ++ ": " ++ message))
        | .ok () => .ok none
      else .ok op
    match deleted with
    | .error flow => .error flow
    | .ok (some op) => .ok op
    | .ok none =>
      match (List.finRange 32).find? (· ∈ dmDiskful) with
      | none => .error (.fail ("resolving source replica for DRBDResourceOperation " ++
          drbdrOpName rv ++ ": RVR for diskful member id=32 not found"))
      | some sourceID =>
        if rvrs.any (·.id = sourceID) then
          match api.createDRBDROp with
          | .alreadyExists => .error .done
          | .failed message => .error (.fail ("creating DRBDResourceOperation " ++
              drbdrOpName rv ++ ": " ++ message))
          | .created =>
            .ok ⟨false, true, replicaName rv.name sourceID, some parameters, .none⟩
        else .error (.fail ("resolving source replica for DRBDResourceOperation " ++
          drbdrOpName rv ++ ": RVR for diskful member id=" ++ toString sourceID.val ++
          " not found"))

/-- The operation was made for this formation: for one of its diskful replicas, with the parameters
of the pool. -/
def opMatches (rv : VolumeObject) (dmDiskful : Finset ReplicaID) (parameters : Bool × Bool)
    (op : DRBDROp) : Bool :=
  op.isCreateNewUUID &&
    ((List.finRange 32).any fun id => id ∈ dmDiskful && op.drbdResourceName = replicaName rv.name id) &&
    op.parameters = some parameters

def durationString (seconds : ℕ) : String :=
  let ofSeconds := toString (seconds % 60) ++ "s"
  let ofMinutes := toString (seconds / 60 % 60) ++ "m" ++ ofSeconds
  if seconds < 60 then ofSeconds
  else if seconds < 3600 then ofMinutes
  else toString (seconds / 3600) ++ "h" ++ ofMinutes

/-- Why the third step waits, how long before it restarts and, for the tie-breakers, that it
never does. -/
def bootstrapWait (rv : VolumeObject) (rvrs : List Replica) (rsp : Pool) (op : DRBDROp) :
    Option (Wait × Option ℕ) :=
  let dmDiskful := memberIDs rv (· = .diskful)
  let singleReplica := dmDiskful.card = 1
  let parameters : Bool × Bool :=
    (singleReplica || rsp.type = .lvmThin, !singleReplica && rsp.type = .lvm)
  let fullSync : Bool := !singleReplica && rsp.type = .lvm
  let timeout := 60 + if fullSync then (rv.datamesh.size / 12500000).toNat else 0
  let mode := if fullSync then "Full data synchronization from source replica " ++
      op.drbdResourceName ++ ". Timeout: " ++ durationString timeout
    else "Fast mode: data is assumed identical, no synchronization required"
  let upToDate := idsWith rvrs fun rvr => rvr.id ∈ dmDiskful &&
    rvr.backingVolume.any (·.state = .upToDate)
  if !opMatches rv dmDiskful parameters op then
    some (⟨"Existing DRBDResourceOperation has unexpected parameters, restarting formation",
      [(dmDiskful, "Datamesh is forming, restarting due to data bootstrap operation " ++
        "parameter mismatch")]⟩, some 30)
  else if op.phase = .failed then
    some (⟨"Data bootstrap operation failed, restarting formation",
      [(dmDiskful, "Datamesh is forming, restarting due to failed data bootstrap operation")]⟩,
      some 30)
  else if op.phase ≠ .succeeded then
    some (⟨"Data bootstrap initiated, waiting for operation to complete. " ++ mode,
      [(dmDiskful, "Datamesh is forming, waiting for data bootstrap to complete")]⟩, some timeout)
  else if upToDate ≠ dmDiskful then
    some (⟨"Data bootstrap in progress, waiting for replicas [" ++
        idSetString (dmDiskful \ upToDate) ++ "] to reach UpToDate state. " ++ mode,
      [(dmDiskful \ upToDate, "Datamesh is forming, data bootstrap in progress, " ++
          "waiting for backing volume to become UpToDate"),
       (upToDate, "Datamesh is forming, data bootstrap in progress, replica is UpToDate, " ++
          "waiting for remaining replicas")]⟩, some timeout)
  else (computeActualTieBreakerReadiness rv rvrs).map fun (notReady, message) =>
    (⟨message,
      [(notReady, "Tie-breaker is not operational, blocking datamesh formation completion"),
       (dmDiskful, "Datamesh is forming, waiting for the tie-breaker to become operational")]⟩, none)

def reconcileFormationStepBootstrapData (api : Answers) (rv : VolumeObject) (rvrs : List Replica)
    (rsp : Pool) : Option Pass :=
  let dmDiskful := memberIDs rv (· = .diskful)
  let singleReplica := dmDiskful.card = 1
  let parameters : Bool × Bool :=
    (singleReplica || rsp.type = .lvmThin, !singleReplica && rsp.type = .lvm)
  match ensureDRBDROp api rv rvrs dmDiskful parameters with
  | .error flow => some ⟨rv, rvrs, flow, false⟩
  | .ok op =>
    match bootstrapWait rv rvrs rsp op with
    | some (wait, some timeout) => waitOrRestart api rv rvrs 2 false timeout wait
    | some (wait, none) =>
      let (rv, changed) := applyWait rv 2 wait
      some ⟨rv, rvrs, .proceed (some 0), changed⟩
    | none =>
      let (rv, changed) := rv.applyFormationTransitionAbsent
      some ⟨rv, rvrs, .proceed (some 0), changed⟩

def reconcileFormationStepEstablishConnectivity (api : Answers) (rv : VolumeObject)
    (rvrs : List Replica) (c : Configuration) (rsp : Pool) : Option Pass :=
  let all := activeOfType .diskful rvrs ∪ activeOfType .tieBreaker rvrs
  if rv.datamesh.members = [] then
    let missingRequest := idsWith rvrs fun rvr => rvr.id ∈ all && rvr.datameshRequest.isNone
    if missingRequest ≠ ∅ then
      waitOrRestart api rv rvrs 1 false 30
        ⟨"Waiting for replicas [" ++ idSetString missingRequest ++
          "] to report a datamesh membership request before joining the datamesh. " ++
          "If not resolved automatically, formation will be restarted", []⟩
    else match api.sharedSecret with
      | .error message => some ⟨rv, rvrs, .fail message, false⟩
      | .ok secret =>
        (populateDatamesh rv c rsp rvrs all secret).map fun rv => ⟨rv, rvrs, .proceed none, true⟩
  else match establishWait rv rvrs with
    | some wait => waitOrRestart api rv rvrs 1 false 30 wait
    | none => reconcileFormationStepBootstrapData api (rv.advanceFormationStep 1) rvrs rsp

/-- The replicas that the layout lacks are created unless some are still to go. -/
def createLayout (api : Answers) (rvrs : List Replica) (targetD targetTB : ℕ) :
    List Replica × Except Flow (Finset ReplicaID × Finset ReplicaID) :=
  let gone := misplaced rvrs ∪ deletingIDs rvrs
  let diskful := idsWith rvrs (·.type = .diskful) \ gone
  let tiebreakers := idsWith rvrs (·.type = .tieBreaker) \ gone
  if gone = ∅ then
    match createMissing api .diskful "diskful" (targetD - diskful.card) rvrs diskful with
    | (rvrs, .error flow) => (rvrs, .error flow)
    | (rvrs, .ok diskful) =>
      match createMissing api .tieBreaker "tie-breaker" (targetTB - tiebreakers.card) rvrs
          tiebreakers with
      | (rvrs, .error flow) => (rvrs, .error flow)
      | (rvrs, .ok tiebreakers) => (rvrs, .ok (diskful, tiebreakers))
  else (rvrs, .ok (diskful, tiebreakers))

def selectReplicas (rvrs : List Replica) (diskful tiebreakers : Finset ReplicaID)
    (targetD targetTB : ℕ) : Preconfigured :=
  let scheduled := idsWith rvrs (·.isTrueCurrent "Scheduled")
  let preconfigured := idsWith rvrs isPreconfigured
  { diskful := trimExcess scheduled preconfigured (diskful.card - targetD) diskful
    tiebreakers := trimExcess scheduled preconfigured (tiebreakers.card - targetTB) tiebreakers
    scheduled, preconfigured }

def reconcileFormationStepPreconfigure (api : Answers) (rv : VolumeObject) (rvrs : List Replica)
    (c : Configuration) (rsp : Pool) (created : Bool) : Option Pass :=
  let rv := if created then initDatamesh rv rsp "Starting preconfigure" else rv
  let targetD := (intendedLayout c).1 % 256
  let targetTB := (intendedLayout c).2 % 256
  match createLayout api rvrs targetD targetTB with
  | (rvrs, .error flow) => some ⟨rv, rvrs, flow, false⟩
  | (rvrs, .ok (diskful, tiebreakers)) =>
    let f := selectReplicas rvrs diskful tiebreakers targetD targetTB
    match deleteRVRs api (fun rvr => rvr.id ∉ f.all) rvrs with
    | (rvrs, some (id, message)) =>
      some ⟨rv, rvrs, .fail ("deleting RVR " ++ replicaName rv.name id ++ ": " ++ message), false⟩
    | (rvrs, none) =>
      let deleting := deletingIDs rvrs
      if deleting ≠ ∅ then
        waitOrRestart api rv rvrs 0 created 30
          ⟨"Waiting for " ++ toString deleting.card ++ " deleting replicas [" ++
            idSetString deleting ++
            "] to be fully removed before proceeding with formation",
            [(f.diskful, "Datamesh is forming, waiting for replica cleanup to complete")]⟩
      else match preconfigureWait rv rvrs rsp ((targetD + targetTB) % 256) f with
        | some wait => waitOrRestart api rv rvrs 0 created 30 wait
        | none => reconcileFormationStepEstablishConnectivity api (rv.advanceFormationStep 0)
            rvrs c rsp

end ReplicatedVolume.Volume
