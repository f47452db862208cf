import ReplicatedVolume.Datamesh.Guards

/-!
# The plan registry

Plans are first-order data: every callback is named by a constructor and given
its meaning by an interpreter, so that a fact about all registered plans can
be checked by going through the registry. `PlanSpec.plan` turns an entry into
the plan the engine runs.
-/

namespace ReplicatedVolume.Datamesh
open Dmte

inductive Apply where
  | createMember (type : MemberType)
  | setType (type : MemberType)
  | setBackingVolumeFromRequest
  | clearBackingVolume
  | removeMember
  | raiseQ | lowerQ | raiseQMR | lowerQMR
  | setCorrectQ | setCorrectQMR
  | updateBaselineGMDR
  | applyAttach | applyDetach
  | applyEnableMultiattach | applyDisableMultiattach
  | repairAddresses | addNewNetworks | removeOldNetworksAndAddresses | addNewAddresses
  | applyResizeVolume
  deriving DecidableEq

def Apply.run : Apply → GlobalContext → Option Ref → ApplyResult
  | .createMember type, g, rctx => Datamesh.createMember type g rctx
  | .setType type, g, rctx => Datamesh.setType type g rctx
  | .setBackingVolumeFromRequest, g, rctx => Datamesh.setBackingVolumeFromRequest g rctx
  | .clearBackingVolume, g, rctx => Datamesh.clearBackingVolume g rctx
  | .removeMember, g, rctx => Datamesh.removeMember g rctx
  | .raiseQ, g, _ => some (Datamesh.raiseQ g)
  | .lowerQ, g, _ => some (Datamesh.lowerQ g)
  | .raiseQMR, g, _ => some (Datamesh.raiseQMR g)
  | .lowerQMR, g, _ => some (Datamesh.lowerQMR g)
  | .setCorrectQ, g, _ => some (Datamesh.setCorrectQ g)
  | .setCorrectQMR, g, _ => some (Datamesh.setCorrectQMR g)
  | .updateBaselineGMDR, g, _ => some (Datamesh.updateBaselineGMDR g)
  | .applyAttach, g, rctx => Datamesh.applyAttach g rctx
  | .applyDetach, g, rctx => Datamesh.applyDetach g rctx
  | .applyEnableMultiattach, g, _ => some (Datamesh.applyEnableMultiattach g)
  | .applyDisableMultiattach, g, _ => some (Datamesh.applyDisableMultiattach g)
  | .repairAddresses, g, _ => some (Datamesh.repairAddresses g)
  | .addNewNetworks, g, _ => some (Datamesh.addNewNetworks g)
  | .removeOldNetworksAndAddresses, g, _ => some (Datamesh.removeOldNetworksAndAddresses g)
  | .addNewAddresses, g, _ => some (Datamesh.addNewAddresses g)
  | .applyResizeVolume, g, _ => some (Datamesh.applyResizeVolume g)

def runApplies : List Apply → GlobalContext → Option Ref → ApplyResult
  | [], g, _ => some (g, false)
  | a :: as, g, rctx => do
      let (g, changed) ← a.run g rctx
      let (g, changed') ← runApplies as g rctx
      some (g, changed || changed')

inductive Confirm where
  | confirmSubjectOnly | confirmSubjectOnlyLeavingOrGone
  | confirmFMPlusSubject | confirmFMPlusSubjectLeaving
  | confirmAllMembers | confirmAllMembersLeaving
  | confirmImmediate | confirmMultiattach
  | confirmAllConnected | confirmAddedAddressesAvailable | confirmAllConnectedOnAddedNetworks
  deriving DecidableEq

def Confirm.run : Confirm → GlobalContext → Option Ref → ℕ → Option ConfirmResult
  | .confirmSubjectOnly, g, rctx, rev => Datamesh.confirmSubjectOnly g rctx rev
  | .confirmSubjectOnlyLeavingOrGone, g, rctx, rev =>
    Datamesh.confirmSubjectOnlyLeavingOrGone g rctx rev
  | .confirmFMPlusSubject, g, rctx, rev => Datamesh.confirmFMPlusSubject g rctx rev
  | .confirmFMPlusSubjectLeaving, g, rctx, rev => Datamesh.confirmFMPlusSubjectLeaving g rctx rev
  | .confirmAllMembers, g, _, rev => some (Datamesh.confirmAllMembers g rev)
  | .confirmAllMembersLeaving, g, rctx, rev => Datamesh.confirmAllMembersLeaving g rctx rev
  | .confirmImmediate, _, _, _ => some Datamesh.confirmImmediate
  | .confirmMultiattach, g, _, rev => some (Datamesh.confirmMultiattach g rev)
  | .confirmAllConnected, g, _, rev => some (Datamesh.confirmAllConnected g rev)
  | .confirmAddedAddressesAvailable, g, _, rev =>
    some (Datamesh.confirmAddedAddressesAvailable g rev)
  | .confirmAllConnectedOnAddedNetworks, g, _, rev =>
    some (Datamesh.confirmAllConnectedOnAddedNetworks g rev)

inductive Guard where
  | guardMaxDiskMembers | guardRVNotDeleting | guardAddressesPopulated | guardNoMemberOnSameNode
  | guardRSPAvailable | guardNodeEligible | guardNodeHasAllSystemNetworks
  | guardShadowDiskfulSupported | guardVolumeAccessNotLocal
  | guardNotAttached | guardVolumeAccessLocalForDemotion | guardGMDRPreserved | guardFTTPreserved
  | guardZoneGMDRPreserved | guardZoneFTTPreserved | guardZoneFTTPreservedForRetypeToTieBreaker
  | guardTBSufficient | guardZoneTBSufficient | guardMemberUnreachable
  | guardZonalSameZone | guardTransZonalVoterPlacement | guardTransZonalTBPlacement
  | guardVotersEven | guardVotersOdd | guardQMRRaiseNeeded | guardQMRLowerNeeded
  | guardAttachNotDeleting | guardSlotAvailable | guardNodeOperational | guardRVRReady
  | guardVolumeAccessLocalForAttach | guardMemberExists | guardNoActiveMembershipTransition
  | guardDeviceNotInUse | guardQuorumSatisfied
  | guardMaxAttachmentsAllowsMultiattach | guardCanDisableMultiattach
  | guardHasReadyDiskfulMember | guardNoActiveResync | guardBackingVolumesGrown
  | guardNodesHaveAddedNetworks | guardRemainingNetworksConnected
  | guardReplicasMatchTargetNetworks
  deriving DecidableEq

def Guard.replicaGuard : Guard → Option ReplicaGuard
  | .guardMaxDiskMembers => some Datamesh.guardMaxDiskMembers
  | .guardRVNotDeleting => some Datamesh.guardRVNotDeleting
  | .guardAddressesPopulated => some Datamesh.guardAddressesPopulated
  | .guardNoMemberOnSameNode => some Datamesh.guardNoMemberOnSameNode
  | .guardRSPAvailable => some Datamesh.guardRSPAvailable
  | .guardNodeEligible => some Datamesh.guardNodeEligible
  | .guardNodeHasAllSystemNetworks => some Datamesh.guardNodeHasAllSystemNetworks
  | .guardShadowDiskfulSupported => some Datamesh.guardShadowDiskfulSupported
  | .guardVolumeAccessNotLocal => some Datamesh.guardVolumeAccessNotLocal
  | .guardNotAttached => some Datamesh.guardNotAttached
  | .guardVolumeAccessLocalForDemotion => some Datamesh.guardVolumeAccessLocalForDemotion
  | .guardGMDRPreserved => some Datamesh.guardGMDRPreserved
  | .guardFTTPreserved => some Datamesh.guardFTTPreserved
  | .guardZoneGMDRPreserved => some Datamesh.guardZoneGMDRPreserved
  | .guardZoneFTTPreserved => some Datamesh.guardZoneFTTPreserved
  | .guardZoneFTTPreservedForRetypeToTieBreaker => some Datamesh.guardZoneFTTPreservedForRetypeToTieBreaker
  | .guardTBSufficient => some Datamesh.guardTBSufficient
  | .guardZoneTBSufficient => some Datamesh.guardZoneTBSufficient
  | .guardMemberUnreachable => some Datamesh.guardMemberUnreachable
  | .guardZonalSameZone => some Datamesh.guardZonalSameZone
  | .guardTransZonalVoterPlacement => some Datamesh.guardTransZonalVoterPlacement
  | .guardTransZonalTBPlacement => some Datamesh.guardTransZonalTBPlacement
  | .guardVotersEven => some Datamesh.guardVotersEven
  | .guardVotersOdd => some Datamesh.guardVotersOdd
  | .guardQMRRaiseNeeded => some Datamesh.guardQMRRaiseNeeded
  | .guardQMRLowerNeeded => some Datamesh.guardQMRLowerNeeded
  | .guardAttachNotDeleting => some Datamesh.guardAttachNotDeleting
  | .guardSlotAvailable => some Datamesh.guardSlotAvailable
  | .guardNodeOperational => some Datamesh.guardNodeOperational
  | .guardRVRReady => some Datamesh.guardRVRReady
  | .guardVolumeAccessLocalForAttach => some Datamesh.guardVolumeAccessLocalForAttach
  | .guardMemberExists => some Datamesh.guardMemberExists
  | .guardNoActiveMembershipTransition => some Datamesh.guardNoActiveMembershipTransition
  | .guardDeviceNotInUse => some Datamesh.guardDeviceNotInUse
  | _ => none

def Guard.globalGuard : Guard → Option (GlobalContext → GuardResult)
  | .guardMaxAttachmentsAllowsMultiattach => some Datamesh.guardMaxAttachmentsAllowsMultiattach
  | .guardCanDisableMultiattach => some Datamesh.guardCanDisableMultiattach
  | .guardHasReadyDiskfulMember => some Datamesh.guardHasReadyDiskfulMember
  | .guardNoActiveResync => some Datamesh.guardNoActiveResync
  | .guardNodesHaveAddedNetworks => some Datamesh.guardNodesHaveAddedNetworks
  | .guardRemainingNetworksConnected => some Datamesh.guardRemainingNetworksConnected
  | .guardReplicasMatchTargetNetworks => some Datamesh.guardReplicasMatchTargetNetworks
  | _ => none

def Guard.run (guard : Guard) (g : GlobalContext) (rctx : Option Ref) :
    Option (GuardResult × GlobalContext) :=
  match guard with
  | .guardQuorumSatisfied => some (Datamesh.guardQuorumSatisfied g)
  | .guardBackingVolumesGrown => (Datamesh.guardBackingVolumesGrown g).map (·, g)
  | guard =>
    match guard.replicaGuard, rctx with
    | some check, some r => some (check g (g.ctx r), g)
    | some _, none => none
    | none, _ => guard.globalGuard.map fun check => (check g, g)

inductive Init where
  | nothing
  | setReplicaType (type : ReplicaType)
  | setReplicaFromToType (source target : ReplicaType)
  | setSystemNetworks
  deriving DecidableEq

def Init.run : Init → GlobalContext → Transition → Option Transition
  | .nothing, _, t => some t
  | .setReplicaType type, _, t => some { t with replicaType := some type }
  | .setReplicaFromToType source target, _, t =>
    some { t with fromReplicaType := some source, toReplicaType := some target }
  | .setSystemNetworks, g, t => Datamesh.setSystemNetworks g t

inductive OnComplete where
  | nothing | onJoinComplete | onLeaveComplete | onForceRemoveComplete | onChangeTypeComplete
  deriving DecidableEq

def setMembershipMessage (message : String) (g : GlobalContext) (r : Ref) : GlobalContext :=
  g.modify r fun rc => { rc with membershipMessage := message }

/-- Joining and retyping dereference the subject; the two removals do not. -/
def OnComplete.run : OnComplete → GlobalContext → Option Ref → Option GlobalContext
  | .nothing, g, _ => some g
  | .onJoinComplete, g, rctx => rctx.map (setMembershipMessage "Joined datamesh successfully" g)
  | .onChangeTypeComplete, g, rctx =>
    rctx.map (setMembershipMessage "Replica type changed successfully" g)
  | .onLeaveComplete, g, rctx =>
    some (rctx.elim g (setMembershipMessage "Left datamesh successfully" g))
  | .onForceRemoveComplete, g, rctx =>
    some (rctx.elim g (setMembershipMessage "Force-removed from datamesh" g))

structure StepSpec where
  name : String
  apply : List Apply
  confirm : Confirm
  onComplete : List Apply
  details : Option String
  skipPendingDatameshJoin : Bool
  deriving DecidableEq

def StepSpec.step (s : StepSpec) : Step GlobalContext Ref where
  name := s.name
  apply := runApplies s.apply
  confirm := s.confirm.run
  onComplete g rctx := (runApplies s.onComplete g rctx).map (·.1)
  details := s.details
  diagnosticConditionTypes := ["DRBDConfigured"]
  diagnosticSkipError cond := s.skipPendingDatameshJoin && cond.reason = "PendingDatameshJoin"

inductive SlotID where
  | membershipSlot | attachmentSlot
  deriving DecidableEq

def SlotID.accessor : SlotID → ReplicaSlotAccessor GlobalContext Ref
  | .membershipSlot => Datamesh.membershipSlot
  | .attachmentSlot => Datamesh.attachmentSlot

structure PlanSpec where
  transitionType : TransitionType
  planID : PlanID
  scope : Scope
  group : TransitionGroup
  displayName : String
  slot : SlotID
  cancelActiveOnCreate : Bool
  guards : List Guard
  init : Init
  steps : List StepSpec
  onComplete : OnComplete
  deriving DecidableEq

def PlanSpec.plan (s : PlanSpec) : Plan GlobalContext Ref where
  scope := s.scope
  transitionType := s.transitionType
  group := s.group
  displayName := s.displayName
  slot := s.slot.accessor
  cancelActiveOnCreate := s.cancelActiveOnCreate
  guards := s.guards.map Guard.run
  init g _ t := s.init.run g t
  steps := s.steps.map StepSpec.step
  onComplete := s.onComplete.run

end ReplicatedVolume.Datamesh
