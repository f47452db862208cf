import ReplicatedVolume.Api

/-!
# Objects the node agent reads and writes

The agent runs on every node and turns a DRBDResource into kernel state. It reads the
DRBDResource, the LVMLogicalVolume that backs it and the LVMVolumeGroups of its node, and it
writes back finalizers and the status of the DRBDResource.
-/

namespace ReplicatedVolume.Agent

/-- One error of a reconciliation: its text, the condition reason a `ConfiguredReasonError` gave
it, and the local address of a `localPortConflictError`. -/
structure Failure where
  message : String
  reason : Option String
  portConflict : Option String
  deriving DecidableEq

abbrev Failures := List Failure

def failure (message : String) : Failures :=
  [{ message := message, reason := none, portConflict := none }]

def configuredReasonError (err : Failures) (reason : String) : Failures :=
  err.map fun f => { f with reason := some reason }

def Failures.text (err : Failures) : String :=
  "\n".intercalate (err.map (·.message))

def agentFinalizer : String := "sds-replicated-volume.deckhouse.io/agent"

def addFinalizer (finalizers : List String) (finalizer : String) : List String :=
  if finalizer ∈ finalizers then finalizers else finalizers ++ [finalizer]

def removeFinalizer (finalizers : List String) (finalizer : String) : List String :=
  finalizers.erase finalizer

def hasFinalizersOtherThan (finalizers : List String) (allowed : String) : Bool :=
  finalizers.any (· ≠ allowed)

inductive ResourceState where
  | up | down
  deriving DecidableEq

inductive ResourceType where
  | diskful | diskless
  deriving DecidableEq

inductive Role where
  | primary | secondary
  deriving DecidableEq

structure Peer where
  name : String
  nodeID : ℕ
  type : ResourceType
  protocol : String
  sharedSecret : String
  sharedSecretAlg : String
  allowRemoteRead : Bool
  paths : List Address
  deriving DecidableEq

/-- `maintenance` stands for NoResourceReconciliation; `size` is in bytes; an absent `role` is
the empty string. -/
structure DRBDResourceSpec where
  nodeName : String
  actualNameOnTheNode : String
  state : ResourceState
  maintenance : Bool
  systemNetworks : List String
  type : ResourceType
  lvmLogicalVolumeName : String
  nodeID : ℕ
  size : Option ℕ
  quorum : ℕ
  quorumMinimumRedundancy : ℕ
  allowTwoPrimaries : Bool
  nonVoting : Bool
  role : Option Role
  peers : List Peer
  deriving DecidableEq

structure ActiveConfiguration where
  state : Option ResourceState
  role : String
  quorum : Option ℕ
  quorumMinimumRedundancy : Option ℕ
  allowTwoPrimaries : Option Bool
  nonVoting : Option Bool
  type : Option ResourceType
  lvmLogicalVolumeName : String
  llvFinalizersToRelease : List String
  deriving DecidableEq

def ActiveConfiguration.empty : ActiveConfiguration where
  state := none
  role := ""
  quorum := none
  quorumMinimumRedundancy := none
  allowTwoPrimaries := none
  nonVoting := none
  type := none
  lvmLogicalVolumeName := ""
  llvFinalizersToRelease := []

structure PathStatus where
  systemNetworkName : String
  ipv4 : String
  port : ℕ
  established : Bool
  deriving DecidableEq

structure PeerStatus where
  name : String
  nodeID : ℕ
  type : Option ResourceType
  connectionState : String
  diskState : String
  replicationState : String
  paths : List PathStatus
  deriving DecidableEq

structure DRBDResourceStatus where
  device : String
  deviceIOSuspended : Option Bool
  deviceOpen : Option Bool
  size : Option ℕ
  addresses : List Address
  activeConfiguration : Option ActiveConfiguration
  peers : List PeerStatus
  diskState : String
  quorum : Option Bool
  deviceUUID : String
  conditions : List Condition
  deriving DecidableEq

structure DRBDResource where
  name : String
  generation : ℕ
  resourceVersion : ℕ
  deleting : Bool
  finalizers : List String
  spec : DRBDResourceSpec
  status : DRBDResourceStatus
  deriving DecidableEq

def isInCleanup (drbdr : DRBDResource) : Bool :=
  drbdr.deleting && !hasFinalizersOtherThan drbdr.finalizers agentFinalizer

def isUpAndNotInCleanup (drbdr : DRBDResource) : Bool :=
  !isInCleanup drbdr && drbdr.spec.state ≠ .down

def drbdNameFromK8SName (k8sName : String) : String := "sdsrv-" ++ k8sName

def drbdResourceNameOnTheNode (drbdr : DRBDResource) : String :=
  if drbdr.spec.actualNameOnTheNode ≠ "" then drbdr.spec.actualNameOnTheNode
  else drbdNameFromK8SName drbdr.name

def deviceSymlinkPath (k8sName : String) : String := "/dev/sdsrv/" ++ k8sName

def ensureActiveConfiguration (drbdr : DRBDResource) : ActiveConfiguration :=
  drbdr.status.activeConfiguration.getD .empty

def DRBDResource.llvFinalizersToRelease (drbdr : DRBDResource) : List String :=
  (drbdr.status.activeConfiguration.map (·.llvFinalizersToRelease)).getD []

/-- Replaces the condition of the same type or adds it, with the object's generation. -/
def setStatusCondition (drbdr : DRBDResource) (cond : Condition) : DRBDResource :=
  let cond := { cond with observedGeneration := drbdr.generation }
  let conditions :=
    if drbdr.status.conditions.any (·.type = cond.type) then
      drbdr.status.conditions.map fun c => if c.type = cond.type then cond else c
    else drbdr.status.conditions ++ [cond]
  { drbdr with status := { drbdr.status with conditions := conditions } }

inductive Device where
  | lvm (vg lv : String)
  | other (path : String)
  deriving DecidableEq

def formatLVMDevicePath (vgName lvName : String) : Device := .lvm vgName lvName

def Device.path : Device → String
  | .lvm vg lv => "/dev/" ++ vg ++ "/" ++ lv
  | .other path => path

structure LLV where
  name : String
  resourceVersion : ℕ
  deleting : Bool
  finalizers : List String
  lvmVolumeGroupName : String
  actualLVNameOnTheNode : String
  deriving DecidableEq

structure LVG where
  name : String
  actualVGNameOnTheNode : String
  deriving DecidableEq

/-- The volume group is found by the first part of the path, then the volume by the second. -/
def computeLLVNameFromDiskPath (diskPath : Device) (lvgs : List LVG) (llvs : List LLV) :
    String :=
  match diskPath with
  | .other _ => ""
  | .lvm vgName lvName =>
    match lvgs.find? (·.actualVGNameOnTheNode = vgName) with
    | none => ""
    | some lvg =>
      ((llvs.find? fun llv => llv.lvmVolumeGroupName = lvg.name ∧
        llv.actualLVNameOnTheNode = lvName).map (·.name)).getD ""

end ReplicatedVolume.Agent
