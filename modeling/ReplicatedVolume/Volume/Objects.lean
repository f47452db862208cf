import ReplicatedVolume.Volume.Configuration
import ReplicatedVolume.Datamesh.Guards

/-!
# The volume and its replicas as a pass sees them

A pass of the volume controller works on the whole ReplicatedVolume and the list of its replicas; a
cycle of the datamesh reads a part of both.
-/

namespace ReplicatedVolume.Volume
open Datamesh Dmte

structure MembershipRequest where
  operation : RequestOperation
  type : Option ReplicaType
  lvmVolumeGroupName : String
  thinPoolName : String
  deriving DecidableEq

/-- The replica object with the fields that formation and the layout read besides those of a
cycle. Peers are keyed by their name, so that `peerType` is a function of the id. -/
structure Replica extends RVR where
  finalizer : Bool
  lvmVolumeGroupName : String
  lvmVolumeGroupThinPoolName : String
  datameshRequest : Option MembershipRequest
  datameshRevisionObservedByAgent : ℕ
  peerType : ReplicaID → ReplicaType
  deriving DecidableEq

structure DatameshStatus where
  systemNetworkNames : List String
  size : ℤ
  sharedSecretAlg : String
  sharedSecret : String
  members : List DatameshMember
  quorum : ℕ
  quorumMinimumRedundancy : ℕ
  multiattach : Bool
  deriving DecidableEq

def DatameshStatus.zero : DatameshStatus := ⟨[], 0, "", "", [], 0, 0, false⟩

/-- The ReplicatedVolume. `adoptRVR` tells whether its annotation is there, `adoptSharedSecret` is
the value of the other one. -/
structure VolumeObject extends RV where
  size : ℕ
  adoptRVR : Bool
  adoptSharedSecret : Option String
  datamesh : DatameshStatus
  baselineGMDR : ℕ
  datameshReplicaRequests : List ReplicaRequest
  deriving DecidableEq

def VolumeObject.status (rv : VolumeObject) : Status :=
  { members := rv.datamesh.members
    quorum := rv.datamesh.quorum
    quorumMinimumRedundancy := rv.datamesh.quorumMinimumRedundancy
    multiattach := rv.datamesh.multiattach
    systemNetworkNames := rv.datamesh.systemNetworkNames
    size := rv.datamesh.size
    datameshRevision := rv.datameshRevision
    baselineGMDR := rv.baselineGMDR
    transitions := rv.datameshTransitions }

inductive PoolType where
  | lvm | lvmThin
  deriving DecidableEq

structure Pool extends RSP where
  type : PoolType
  deriving DecidableEq

def replicaName (volume : String) (id : ReplicaID) : String := volume ++ "-" ++ toString id.val

def idsWith (rvrs : List Replica) (p : Replica → Bool) : Finset ReplicaID :=
  ((rvrs.filter p).map (·.id)).toFinset

def memberIDs (rv : VolumeObject) (p : MemberType → Bool) : Finset ReplicaID :=
  ((rv.datamesh.members.filter (p ·.type)).map (·.id)).toFinset

def Replica.isTrueCurrent (rvr : Replica) (type : String) : Bool :=
  (rvr.condition type).any fun c => c.status = some true && c.observedGeneration = rvr.generation

def Replica.isFalseCurrent (rvr : Replica) (type : String) : Bool :=
  (rvr.condition type).any fun c => c.status = some false && c.observedGeneration = rvr.generation

def Replica.isFalse (rvr : Replica) (type : String) : Bool :=
  (rvr.condition type).any (·.status = some false)

/-- `slices.BinarySearchFunc` between two positions; `before` compares an element with the
target. -/
def binarySearch {α : Type} (before : α → Bool) (xs : List α) : ℕ → ℕ → ℕ → ℕ
  | 0, i, _ => i
  | fuel + 1, i, j =>
    if i < j then
      if (xs[(i + j) / 2]?).any before then binarySearch before xs fuel ((i + j) / 2 + 1) j
      else binarySearch before xs fuel i ((i + j) / 2)
    else i

def insertRVRSorted (rvrs : List Replica) (rvr : Replica) : List Replica :=
  let idx := binarySearch (fun r : Replica => r.id < rvr.id) rvrs (rvrs.length + 1) 0 rvrs.length
  rvrs.take idx ++ rvr :: rvrs.drop idx

def chooseNewName (rvrs : List Replica) : Option ReplicaID :=
  (List.finRange 32).find? fun id => !(rvrs.map (·.id)).contains id

def newRVR (rvrs : List Replica) (type : ReplicaType) (nodeName : String) : Option Replica :=
  (chooseNewName rvrs).map fun id =>
    { id, deleting := false, generation := 1, nodeName, type, conditions := [], addresses := []
      backingVolume := none, datameshRevision := 0, attachment := none, quorum := none, peers := []
      finalizer := true, lvmVolumeGroupName := "", lvmVolumeGroupThinPoolName := ""
      datameshRequest := none, datameshRevisionObservedByAgent := 0, peerType := fun _ => .diskful }

def ReplicaRequest.ofMembership (id : ReplicaID) (req : MembershipRequest) : ReplicaRequest :=
  ⟨id, "", req.operation, req.type, req.lvmVolumeGroupName, req.thinPoolName⟩

def ReplicaRequest.same (entry : ReplicaRequest) (req : MembershipRequest) : Bool :=
  entry.operation = req.operation && entry.type = req.type &&
    entry.lvmVolumeGroupName = req.lvmVolumeGroupName && entry.thinPoolName = req.thinPoolName

/-- The merge of `ensureDatameshReplicaRequests`: both lists are walked in their order, names are
compared as strings. The flag tells whether an entry was added, updated or removed. -/
def mergeRequests (volume : String) :
    List ReplicaRequest → List Replica → List ReplicaRequest × Bool
  | existing, [] => ([], !existing.isEmpty)
  | existing, rvr :: rvrs =>
    match rvr.datameshRequest with
    | none => mergeRequests volume existing rvrs
    | some req =>
      let name := replicaName volume rvr.id
      let left := existing.dropWhile fun entry => replicaName volume entry.id < name
      let removed : Bool := left.length != existing.length
      match left with
      | [] =>
        let (result, _) := mergeRequests volume [] rvrs
        (ReplicaRequest.ofMembership rvr.id req :: result, true)
      | entry :: entries =>
        if replicaName volume entry.id = name then
          let (result, changed) := mergeRequests volume entries rvrs
          if ReplicaRequest.same entry req then (entry :: result, removed || changed)
          else (ReplicaRequest.ofMembership rvr.id req :: result, true)
        else
          let (result, _) := mergeRequests volume (entry :: entries) rvrs
          (ReplicaRequest.ofMembership rvr.id req :: result, true)

def ensureDatameshReplicaRequests (rv : VolumeObject) (rvrs : List Replica) : VolumeObject × Bool :=
  let existing := rv.datameshReplicaRequests.insertionSort (·.id ≤ ·.id)
  let (result, changed) := mergeRequests rv.name existing rvrs
  ({ rv with datameshReplicaRequests := if changed then result else existing }, changed)

def applyDatameshReplicaRequestMessages (rv : VolumeObject) (ids : Finset ReplicaID) (message : String) :
    VolumeObject × Bool :=
  ({ rv with
      datameshReplicaRequests := rv.datameshReplicaRequests.map fun entry =>
        if entry.id ∈ ids then { entry with message := message } else entry },
    rv.datameshReplicaRequests.any fun entry => entry.id ∈ ids && entry.message != message)

end ReplicatedVolume.Volume
