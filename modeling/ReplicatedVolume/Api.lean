import Mathlib

/-!
# The API types of a replicated volume

The part of the `v1alpha1` objects that the datamesh code reads or writes.
Replica names are `<volume>-<id>` with an id below 32, so objects are keyed
by the id and the name is rendered from it. Times that no modelled function
reads are left out; quantities are numbers of bytes.
-/

namespace ReplicatedVolume

abbrev ReplicaID := Fin 32

instance ReplicaID.neZero : NeZero 32 := ⟨by decide⟩

instance ReplicaID.lawful : LawfulBEq ReplicaID := inferInstance

inductive ReplicaType where
  | diskful | shadowDiskful | tieBreaker | access
  deriving DecidableEq, Inhabited

inductive MemberType where
  | diskful | liminalDiskful | shadowDiskful | liminalShadowDiskful | tieBreaker | access
  deriving DecidableEq

def MemberType.isVoter : MemberType → Bool
  | .diskful | .liminalDiskful => true
  | _ => false

def MemberType.hasBackingVolume : MemberType → Bool
  | .diskful | .shadowDiskful => true
  | _ => false

def MemberType.needsBackingVolume : MemberType → Bool
  | .diskful | .liminalDiskful | .shadowDiskful | .liminalShadowDiskful => true
  | _ => false

def MemberType.connectsToAllPeers : MemberType → Bool
  | .diskful | .liminalDiskful | .shadowDiskful | .liminalShadowDiskful => true
  | _ => false

inductive TransitionType where
  | formation | addReplica | attach | changeQuorum | changeReplicaType | changeSystemNetworks
  | detach | disableMultiattach | enableMultiattach | forceDetach | forceRemoveReplica
  | removeReplica | repairNetworkAddresses | resizeVolume
  deriving DecidableEq, Inhabited

inductive TransitionGroup where
  | formation | votingMembership | nonVotingMembership | quorum | attachment | multiattach
  | network | resize | emergency
  deriving DecidableEq, Inhabited

/-- The plan ids known to this version of the controller, each the lower-case
words of its constructor joined by dashes with the suffix `/v1`. A persisted
id of another version is `other`. -/
inductive PlanID where
  | create | adopt
  | access | tiebreaker | shadowDiskful
  | diskful | diskfulQmrUp | diskfulQUp | diskfulQUpQmrUp
  | diskfulViaSd | diskfulViaSdQmrUp | diskfulViaSdQUp | diskfulViaSdQUpQmrUp
  | removeDiskful | removeDiskfulQmrDown | removeDiskfulQDown | removeDiskfulQmrDownQDown
  | aToTb | tbToA | aToSd | sdToA | tbToSd | sdToTb
  | sdToD | sdToDQUp | dToSd | dToSdQDown
  | aToD | aToDQUp | aToDViaSd | aToDViaSdQUp | dToA | dToAQDown
  | tbToD | tbToDQUp | tbToDViaSd | tbToDViaSdQUp | dToTb | dToTbQDown
  | diskfulQDown
  | lower | raise | lowerQRaiseQmr | raiseQLowerQmr
  | attach | detach | forceDetach | enableMultiattach | disableMultiattach
  | repair | add | remove | update | migrate
  | resize
  | other (id : String)
  deriving DecidableEq, Inhabited

inductive StepStatus where
  | pending | active | completed
  deriving DecidableEq, Inhabited

structure TransitionStep where
  name : String
  status : StepStatus
  datameshRevision : ℕ
  message : String
  deriving DecidableEq, Inhabited

/-- A persisted transition. `replica` is the subject of a replica-scoped
transition, `none` the empty `replicaName` of a global one. -/
structure Transition where
  type : TransitionType
  group : TransitionGroup
  planID : PlanID
  replica : Option ReplicaID
  replicaType : Option ReplicaType
  fromReplicaType : Option ReplicaType
  toReplicaType : Option ReplicaType
  fromSystemNetworkNames : List String
  toSystemNetworkNames : List String
  steps : List TransitionStep
  deriving DecidableEq, Inhabited

def findCurrentStepIdx (t : Transition) : Option ℕ :=
  t.steps.findIdx? (fun s => s.status != .completed)

def Transition.currentStep (t : Transition) : Option TransitionStep :=
  t.steps.find? (fun s => s.status != .completed)

def Transition.setStep (t : Transition) (idx : ℕ) (s : TransitionStep) : Transition :=
  { t with steps := t.steps.set idx s }

structure Address where
  systemNetworkName : String
  ipv4 : String
  port : ℕ
  deriving DecidableEq

structure DatameshMember where
  id : ReplicaID
  type : MemberType
  nodeName : String
  zone : String
  addresses : List Address
  lvmVolumeGroupName : String
  lvmVolumeGroupThinPoolName : String
  attached : Bool
  deriving DecidableEq

inductive RequestOperation where
  | join | leave | forceLeave | forceDetach | changeRole | changeBackingVolume
  deriving DecidableEq

structure Condition where
  type : String
  status : Option Bool
  observedGeneration : ℕ
  reason : String
  message : String
  deriving DecidableEq

structure ReplicaRequest where
  id : ReplicaID
  message : String
  operation : RequestOperation
  type : Option ReplicaType
  lvmVolumeGroupName : String
  thinPoolName : String
  deriving DecidableEq

end ReplicatedVolume
