import ReplicatedVolume.Dmte.Engine

/-!
# The contexts of one datamesh cycle

`ProcessTransitions` gathers the persisted status, the observed replicas and
attachments and the storage pool into one global context with a replica
context for each id. Contexts of unknown ids are empty; attachments on nodes
without a replica get contexts of their own, which bear no id.
-/

namespace ReplicatedVolume.Datamesh
open Dmte

inductive Topology where
  | transZonal | zonal | ignored
  deriving DecidableEq

inductive VolumeAccess where
  | localAccess | preferablyLocal | eventuallyLocal | any
  deriving DecidableEq

structure Configuration where
  replicatedStoragePoolName : String
  topology : Topology
  failuresToTolerate : ℕ
  guaranteedMinimumDataRedundancy : ℕ
  volumeAccess : VolumeAccess
  deriving DecidableEq

def intendedDiskfulCount (ftt gmdr : ℕ) : ℕ := ftt + gmdr + 1

def tieBreakersForDiskful (diskful ftt : ℕ) : ℕ :=
  if 0 < diskful ∧ diskful % 2 = 0 ∧ ftt = diskful / 2 then 1 else 0

def Configuration.quorumMinimumRedundancy (c : Configuration) : ℕ :=
  (c.guaranteedMinimumDataRedundancy + 1) % 256

inductive DiskState where
  | diskless | attaching | detaching | failed | negotiating | inconsistent | outdated
  | unknown | consistent | upToDate
  deriving DecidableEq

inductive ConnectionState where
  | standAlone | disconnecting | unconnected | timeout | brokenPipe | networkFailure
  | protocolError | connecting | tearDown | connected | unknown
  deriving DecidableEq

inductive ReplicationState where
  | off | established | startingSyncSource | startingSyncTarget | wfBitMapSource
  | wfBitMapTarget | wfSyncUUID | syncSource | syncTarget | pausedSyncSource
  | pausedSyncTarget | verifySource | verifyTarget | ahead | behind | unknown
  deriving DecidableEq

structure BackingVolume where
  size : Option ℕ
  state : DiskState
  deriving DecidableEq

structure PeerStatus where
  id : ReplicaID
  connectionEstablishedOn : List String
  connectionState : ConnectionState
  replicationState : ReplicationState
  backingVolumeState : DiskState
  deriving DecidableEq

/-- The observed replica object. `attachment` is its `inUse` flag, if reported. -/
structure RVR where
  id : ReplicaID
  deleting : Bool
  generation : ℕ
  nodeName : String
  type : ReplicaType
  conditions : List Condition
  addresses : List Address
  backingVolume : Option BackingVolume
  datameshRevision : ℕ
  attachment : Option Bool
  quorum : Option Bool
  peers : List PeerStatus
  deriving DecidableEq

structure RVA where
  nodeName : String
  deleting : Bool
  creationTimestamp : ℕ
  deriving DecidableEq

structure EligibleNode where
  nodeName : String
  zoneName : String
  nodeReady : Bool
  agentReady : Bool
  deriving DecidableEq

structure RSP where
  eligibleNodes : List EligibleNode
  systemNetworkNames : List String
  deriving DecidableEq

def RSP.findEligibleNode (rsp : RSP) (nodeName : String) : Option EligibleNode :=
  rsp.eligibleNodes.find? (·.nodeName = nodeName)

structure FeatureFlags where
  shadowDiskful : Bool
  deriving DecidableEq

def RVR.condition (rvr : RVR) (type : String) : Option Condition :=
  rvr.conditions.find? (·.type = type)

def RVR.conditionReason (rvr : RVR) (type reason : String) : Bool :=
  (rvr.condition type).any (·.reason = reason)

def isAgentReady (rvr : RVR) : Bool := !rvr.conditionReason "DRBDConfigured" "AgentNotReady"

/-- `memberIdx` is the address of `member` in the persisted list, absent for
a member created in this cycle. -/
structure ReplicaContext where
  id : ReplicaID
  named : Bool
  nodeName : String
  rvr : Option RVR
  member : Option DatameshMember
  memberIdx : Option ℕ
  rvas : List RVA
  membershipRequest : Option ReplicaRequest
  membershipTransition : Option ActiveRef
  attachmentTransition : Option ActiveRef
  membershipMessage : String
  attachmentConditionMessage : String
  attachmentConditionReason : String

def ReplicaContext.empty (id : ReplicaID) : ReplicaContext :=
  ⟨id, false, "", none, none, none, [], none, none, none, "", "", ""⟩

inductive Ref where
  | replica (id : ReplicaID)
  | orphan (n : ℕ)
  deriving DecidableEq

structure GlobalContext where
  volumeName : String
  deleting : Bool
  configuration : Configuration
  quorum : ℕ
  quorumMinimumRedundancy : ℕ
  multiattach : Bool
  systemNetworkNames : List String
  datameshSize : ℤ
  datameshRevision : ℕ
  baselineGMDR : ℕ
  size : ℕ
  maxAttachments : ℕ
  replicatedStorageClassName : String
  rsp : Option RSP
  features : FeatureFlags
  changeSystemNetworksTransition : Option Transition
  replicas : ReplicaID → ReplicaContext
  indexed : ReplicaID → Bool
  orphans : List ReplicaContext
  quorumCheck : Option (Bool × String)
  hasFormationTransition : Bool
  hasQuorumTransition : Bool
  hasMultiattachTransition : Bool
  hasNetworkTransition : Bool
  hasResizeTransition : Bool
  diskGainingMembershipTransitions : Finset ReplicaID
  votingMembershipTransitions : Finset ReplicaID
  nonVotingMembershipTransitions : Finset ReplicaID
  attachmentTransitions : Finset ReplicaID
  emergencyTransitions : Finset ReplicaID
  potentiallyAttached : Finset ReplicaID

structure Status where
  members : List DatameshMember
  quorum : ℕ
  quorumMinimumRedundancy : ℕ
  multiattach : Bool
  systemNetworkNames : List String
  size : ℤ
  datameshRevision : ℕ
  baselineGMDR : ℕ
  transitions : List Transition
  deriving DecidableEq

structure Observation where
  volumeName : String
  deleting : Bool
  configuration : Configuration
  size : ℕ
  maxAttachments : Option ℕ
  replicatedStorageClassName : String
  rsp : Option RSP
  rvrs : List RVR
  rvas : List RVA
  requests : List ReplicaRequest
  features : FeatureFlags
  deriving DecidableEq

def knownIDs (st : Status) (obs : Observation) : Finset ReplicaID :=
  ((obs.rvrs.map (·.id)) ++ (st.members.map (·.id)) ++ (obs.requests.map (·.id)) ++
    st.transitions.filterMap (·.replica)).toFinset

def orphanContext (nodeName : String) (rvas : List RVA) : ReplicaContext :=
  { ReplicaContext.empty 0 with nodeName := nodeName, rvas := rvas }

/-- The context of one id before attachments are assigned. Each list is read
in order, so that its last entry for the id wins. -/
def baseContext (st : Status) (obs : Observation) (id : ReplicaID) : ReplicaContext :=
  let rvr := obs.rvrs.reverse.find? (·.id = id)
  let member := st.members.zipIdx.reverse.find? (·.1.id = id)
  let request := obs.requests.reverse.find? (·.id = id)
  let memberNodes := (st.members.filter (·.id = id)).map (·.nodeName)
  let nodeNames := (rvr.map (·.nodeName)).toList ++ memberNodes
  { ReplicaContext.empty id with
    named := rvr.isSome || member.isSome || request.isSome
    nodeName := (nodeNames.find? (· ≠ "")).getD ""
    rvr := rvr
    member := member.map (·.1)
    memberIdx := member.map (·.2)
    membershipRequest := request }

/-- Assign one group of attachments on the same node: to the first context on
the node, else to a new orphan. -/
def assignRVAs (nodeOf : ReplicaID → String) (known : List ReplicaID)
    (acc : (ReplicaID → List RVA) × List ReplicaContext) (group : List RVA) :
    (ReplicaID → List RVA) × List ReplicaContext :=
  match group with
  | [] => acc
  | rva :: _ =>
    match known.find? (nodeOf · = rva.nodeName) with
    | some id => (Function.update acc.1 id group, acc.2)
    | none =>
      match acc.2.findIdx? (·.nodeName = rva.nodeName) with
      | some n => (acc.1, acc.2.modify n fun rc => { rc with rvas := group })
      | none => (acc.1, acc.2 ++ [orphanContext rva.nodeName group])

/-- The backing array has room for one orphan; a second one reallocates it and
the index is rebuilt from the named contexts only. -/
def buildContexts (st : Status) (obs : Observation) : GlobalContext :=
  let base := baseContext st obs
  let known := (List.finRange 32).filter (· ∈ knownIDs st obs)
  let groups := obs.rvas.splitBy fun a b => a.nodeName = b.nodeName
  let assigned := groups.foldl (assignRVAs (fun id => (base id).nodeName) known) (fun _ => [], [])
  { volumeName := obs.volumeName
    deleting := obs.deleting
    configuration := obs.configuration
    quorum := st.quorum
    quorumMinimumRedundancy := st.quorumMinimumRedundancy
    multiattach := st.multiattach
    systemNetworkNames := st.systemNetworkNames
    datameshSize := st.size
    datameshRevision := st.datameshRevision
    baselineGMDR := st.baselineGMDR
    size := obs.size
    maxAttachments := obs.maxAttachments.getD 1
    replicatedStorageClassName := obs.replicatedStorageClassName
    rsp := obs.rsp
    features := obs.features
    changeSystemNetworksTransition := none
    replicas := fun id => { base id with rvas := assigned.1 id }
    indexed := fun id => id ∈ known && (assigned.2.length ≤ 1 || (base id).named)
    orphans := assigned.2
    quorumCheck := none
    hasFormationTransition := false
    hasQuorumTransition := false
    hasMultiattachTransition := false
    hasNetworkTransition := false
    hasResizeTransition := false
    diskGainingMembershipTransitions := ∅
    votingMembershipTransitions := ∅
    nonVotingMembershipTransitions := ∅
    attachmentTransitions := ∅
    emergencyTransitions := ∅
    potentiallyAttached := ∅ }

namespace GlobalContext

def ctx (g : GlobalContext) : Ref → ReplicaContext
  | .replica id => g.replicas id
  | .orphan n => g.orphans.getD n (ReplicaContext.empty 0)

def modifyReplica (g : GlobalContext) (id : ReplicaID) (f : ReplicaContext → ReplicaContext) :
    GlobalContext :=
  { g with replicas := Function.update g.replicas id (f (g.replicas id)) }

def modify (g : GlobalContext) (r : Ref) (f : ReplicaContext → ReplicaContext) : GlobalContext :=
  match r with
  | .replica id => g.modifyReplica id f
  | .orphan n => { g with orphans := g.orphans.modify n f }

def replica (g : GlobalContext) (id : ReplicaID) : Option Ref :=
  if g.indexed id then some (.replica id) else none

def allRefs (g : GlobalContext) : List Ref :=
  (List.finRange 32).map .replica ++ (List.range g.orphans.length).map .orphan

def replicaName (g : GlobalContext) (r : Ref) : Option ReplicaID :=
  if (g.ctx r).named then some (g.ctx r).id else none

def displayName (g : GlobalContext) (id : ReplicaID) : String :=
  g.volumeName ++ "-" ++ toString id.val

def member (g : GlobalContext) (id : ReplicaID) : Option DatameshMember := (g.replicas id).member

def rvr (g : GlobalContext) (id : ReplicaID) : Option RVR := (g.replicas id).rvr

end GlobalContext

def membershipSlot : ReplicaSlotAccessor GlobalContext Ref where
  getActiveTransition g r := (g.ctx r).membershipTransition
  setActiveTransition g r t := g.modify r fun rc => { rc with membershipTransition := t }
  setStatus g r message _ := g.modify r fun rc => { rc with membershipMessage := message }

def attachmentSlot : ReplicaSlotAccessor GlobalContext Ref where
  getActiveTransition g r := (g.ctx r).attachmentTransition
  setActiveTransition g r t := g.modify r fun rc => { rc with attachmentTransition := t }
  setStatus g r message details := g.modify r fun rc =>
    { rc with
      attachmentConditionMessage := message
      attachmentConditionReason := details.getD rc.attachmentConditionReason }

end ReplicatedVolume.Datamesh
