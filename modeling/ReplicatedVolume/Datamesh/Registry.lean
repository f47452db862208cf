import ReplicatedVolume.Datamesh.Plans

/-!
# Registered plans

Every plan that `BuildRegistry` registers. Arrows name the member type before
and after a step: D diskful, sD shadow diskful, A access, TB tie-breaker, with
∅ for the liminal variants, ✦ for a new member and ✕ for a removed one.
-/

namespace ReplicatedVolume.Datamesh
open Dmte

def mkStep (name : String) (apply : List Apply) (confirm : Confirm) : StepSpec :=
  ⟨name, apply, confirm, [], none, false⟩

def StepSpec.withOnComplete (s : StepSpec) (callbacks : List Apply) : StepSpec :=
  { s with onComplete := callbacks }

def StepSpec.withDetails (s : StepSpec) (details : String) : StepSpec :=
  { s with details := some details }

def commonAddGuards : List Guard :=
  [.guardRVNotDeleting, .guardRSPAvailable, .guardNodeEligible, .guardNodeHasAllSystemNetworks,
    .guardNoMemberOnSameNode, .guardAddressesPopulated]

def commonRemoveGuards : List Guard := [.guardNotAttached]

def loseVoterGuardsCommon : List Guard :=
  [.guardVolumeAccessLocalForDemotion, .guardGMDRPreserved, .guardFTTPreserved,
    .guardZoneGMDRPreserved]

def loseVoterGuards : List Guard := loseVoterGuardsCommon ++ [.guardZoneFTTPreserved]

def loseVoterToTieBreakerGuards : List Guard :=
  loseVoterGuardsCommon ++ [.guardZoneFTTPreservedForRetypeToTieBreaker]

def loseTBGuards : List Guard := [.guardTBSufficient, .guardZoneTBSufficient]

def gainVoterGuards : List Guard := [.guardZonalSameZone, .guardTransZonalVoterPlacement]

def gainTBGuards : List Guard := [.guardZonalSameZone, .guardTransZonalTBPlacement]

def forceRemoveGuards : List Guard := [.guardNotAttached, .guardMemberUnreachable]

def addPlan (planID : PlanID) (group : TransitionGroup) (displayName : String)
    (type : ReplicaType) (guards : List Guard) (steps : List StepSpec) : PlanSpec :=
  ⟨.addReplica, planID, .replica, group, displayName, .membershipSlot, false,
    commonAddGuards ++ guards, .setReplicaType type, steps, .onJoinComplete⟩

def removePlan (planID : PlanID) (group : TransitionGroup) (displayName : String)
    (type : ReplicaType) (guards : List Guard) (steps : List StepSpec) : PlanSpec :=
  ⟨.removeReplica, planID, .replica, group, displayName, .membershipSlot, false,
    commonRemoveGuards ++ guards, .setReplicaType type, steps, .onLeaveComplete⟩

def changeTypePlan (planID : PlanID) (group : TransitionGroup) (source target : ReplicaType)
    (guards extra : List Guard) (steps : List StepSpec) : PlanSpec :=
  ⟨.changeReplicaType, planID, .replica, group, "Changing replica type", .membershipSlot, false,
    guards ++ extra, .setReplicaFromToType source target, steps, .onChangeTypeComplete⟩

def forceRemovePlan (planID : PlanID) (type : ReplicaType) (guards : List Guard)
    (apply : List Apply) : PlanSpec :=
  ⟨.forceRemoveReplica, planID, .replica, .emergency, "Force-removing replica", .membershipSlot,
    true, forceRemoveGuards ++ guards, .setReplicaType type,
    [mkStep "Force remove" apply .confirmAllMembers], .onForceRemoveComplete⟩

def createLiminalDiskful : StepSpec :=
  mkStep "✦ → D∅" [.createMember .liminalDiskful, .setBackingVolumeFromRequest] .confirmAllMembers

def createAccess : StepSpec := mkStep "✦ → A" [.createMember .access] .confirmFMPlusSubject

def createLiminalShadow : StepSpec :=
  mkStep "✦ → sD∅" [.createMember .liminalShadowDiskful, .setBackingVolumeFromRequest]
    .confirmAllMembers

def liminalToDiskful : StepSpec := mkStep "D∅ → D" [.setType .diskful] .confirmSubjectOnly

def diskfulToLiminal : StepSpec := mkStep "D → D∅" [.setType .liminalDiskful] .confirmSubjectOnly

def liminalToShadow : StepSpec := mkStep "sD∅ → sD" [.setType .shadowDiskful] .confirmSubjectOnly

def shadowToLiminal : StepSpec :=
  mkStep "sD → sD∅" [.setType .liminalShadowDiskful] .confirmSubjectOnly

def shadowToDiskful : StepSpec := mkStep "sD → D" [.setType .diskful] .confirmAllMembers

def accessToDiskfulQUp (name : String) : StepSpec :=
  mkStep name [.setType .liminalDiskful, .setBackingVolumeFromRequest, .raiseQ] .confirmAllMembers

def liminalShadowToDiskfulQUp : StepSpec :=
  mkStep "sD∅ → D∅ + q↑" [.setType .liminalDiskful, .raiseQ] .confirmAllMembers

def toLiminalShadow (name : String) : StepSpec :=
  mkStep name [.setType .liminalShadowDiskful, .setBackingVolumeFromRequest] .confirmAllMembers

def toLiminalDiskful (name : String) : StepSpec :=
  mkStep name [.setType .liminalDiskful, .setBackingVolumeFromRequest] .confirmAllMembers

def dropDisk (name : String) (type : MemberType) : StepSpec :=
  mkStep name [.setType type, .clearBackingVolume] .confirmAllMembers

def dropDiskQDown (name : String) (type : MemberType) : StepSpec :=
  mkStep name [.setType type, .clearBackingVolume, .lowerQ] .confirmAllMembers

def qmrUp : StepSpec :=
  (mkStep "qmr↑" [.raiseQMR] .confirmAllMembers).withOnComplete [.updateBaselineGMDR]

def qmrDown : StepSpec := mkStep "qmr↓" [.lowerQMR, .updateBaselineGMDR] .confirmAllMembers

def removeLiminal : StepSpec := mkStep "D∅ → ✕" [.removeMember] .confirmAllMembersLeaving

def removeAccess : StepSpec := mkStep "A → ✕" [.removeMember] .confirmFMPlusSubjectLeaving

def accessPlans : List PlanSpec :=
  [ addPlan .access .nonVotingMembership "Joining datamesh" .access [.guardVolumeAccessNotLocal]
      [{ createAccess with skipPendingDatameshJoin := true }],
    removePlan .access .nonVotingMembership "Leaving datamesh" .access [] [removeAccess] ]

def tieBreakerPlans : List PlanSpec :=
  [ addPlan .tiebreaker .nonVotingMembership "Joining datamesh" .tieBreaker gainTBGuards
      [mkStep "✦ → TB" [.createMember .tieBreaker] .confirmFMPlusSubject],
    removePlan .tiebreaker .nonVotingMembership "Leaving datamesh" .tieBreaker loseTBGuards
      [mkStep "TB → ✕" [.removeMember] .confirmFMPlusSubjectLeaving] ]

def shadowDiskfulPlans : List PlanSpec :=
  [ addPlan .shadowDiskful .nonVotingMembership "Joining datamesh" .shadowDiskful
      [.guardShadowDiskfulSupported, .guardMaxDiskMembers] [createLiminalShadow, liminalToShadow],
    removePlan .shadowDiskful .nonVotingMembership "Leaving datamesh" .shadowDiskful []
      [mkStep "sD → ✕" [.removeMember] .confirmAllMembersLeaving] ]

def addDiskfulPlan (planID : PlanID) (guards : List Guard) (steps : List StepSpec) : PlanSpec :=
  addPlan planID .votingMembership "Adding diskful replica" .diskful
    (gainVoterGuards ++ guards ++ [.guardMaxDiskMembers]) steps

def removeDiskfulPlan (planID : PlanID) (guards : List Guard) (steps : List StepSpec) :
    PlanSpec :=
  removePlan planID .votingMembership "Removing diskful replica" .diskful
    (loseVoterGuards ++ guards) steps

def diskfulPlans : List PlanSpec :=
  [ addDiskfulPlan .diskful [.guardVotersEven] [createLiminalDiskful, liminalToDiskful],
    addDiskfulPlan .diskfulQmrUp [.guardVotersEven, .guardQMRRaiseNeeded]
      [createLiminalDiskful, liminalToDiskful, qmrUp],
    addDiskfulPlan .diskfulQUp [.guardVotersOdd]
      [createAccess, accessToDiskfulQUp "A → D∅ + q↑", liminalToDiskful],
    addDiskfulPlan .diskfulQUpQmrUp [.guardVotersOdd, .guardQMRRaiseNeeded]
      [createAccess, accessToDiskfulQUp "A → D∅ + q↑", liminalToDiskful, qmrUp],
    addDiskfulPlan .diskfulViaSd [.guardVotersEven, .guardShadowDiskfulSupported]
      [createLiminalShadow, liminalToShadow, shadowToDiskful],
    addDiskfulPlan .diskfulViaSdQmrUp
      [.guardVotersEven, .guardQMRRaiseNeeded, .guardShadowDiskfulSupported]
      [createLiminalShadow, liminalToShadow, shadowToDiskful, qmrUp],
    addDiskfulPlan .diskfulViaSdQUp [.guardVotersOdd, .guardShadowDiskfulSupported]
      [createLiminalShadow, liminalToShadow, shadowToLiminal, accessToDiskfulQUp "sD∅ → D∅ + q↑",
        liminalToDiskful],
    addDiskfulPlan .diskfulViaSdQUpQmrUp
      [.guardVotersOdd, .guardQMRRaiseNeeded, .guardShadowDiskfulSupported]
      [createLiminalShadow, liminalToShadow, shadowToLiminal, accessToDiskfulQUp "sD∅ → D∅ + q↑",
        liminalToDiskful, qmrUp],
    removeDiskfulPlan .removeDiskful [.guardVotersOdd] [diskfulToLiminal, removeLiminal],
    removeDiskfulPlan .removeDiskfulQmrDown [.guardVotersOdd, .guardQMRLowerNeeded]
      [qmrDown, diskfulToLiminal, removeLiminal],
    removeDiskfulPlan .removeDiskfulQDown [.guardVotersEven]
      [diskfulToLiminal, dropDiskQDown "D∅ → A + q↓" .access, removeAccess],
    removeDiskfulPlan .removeDiskfulQmrDownQDown [.guardVotersEven, .guardQMRLowerNeeded]
      [qmrDown, diskfulToLiminal, dropDiskQDown "D∅ → A + q↓" .access, removeAccess] ]

def changeNonVoterPlans : List PlanSpec :=
  [ changeTypePlan .aToTb .nonVotingMembership .access .tieBreaker gainTBGuards []
      [mkStep "A → TB" [.setType .tieBreaker] .confirmFMPlusSubject],
    changeTypePlan .tbToA .nonVotingMembership .tieBreaker .access
      [.guardVolumeAccessNotLocal] loseTBGuards
      [mkStep "TB → A" [.setType .access] .confirmFMPlusSubject],
    changeTypePlan .aToSd .nonVotingMembership .access .shadowDiskful
      [.guardShadowDiskfulSupported, .guardMaxDiskMembers] []
      [toLiminalShadow "A → sD∅", liminalToShadow],
    changeTypePlan .sdToA .nonVotingMembership .shadowDiskful .access
      [.guardVolumeAccessNotLocal] [] [shadowToLiminal, dropDisk "sD∅ → A" .access],
    changeTypePlan .tbToSd .nonVotingMembership .tieBreaker .shadowDiskful
      [.guardShadowDiskfulSupported, .guardMaxDiskMembers] loseTBGuards
      [toLiminalShadow "TB → sD∅", liminalToShadow],
    changeTypePlan .sdToTb .nonVotingMembership .shadowDiskful .tieBreaker
      [.guardVolumeAccessNotLocal] gainTBGuards
      [shadowToLiminal, dropDisk "sD∅ → TB" .tieBreaker] ]

def changeShadowPlans : List PlanSpec :=
  [ changeTypePlan .sdToD .votingMembership .shadowDiskful .diskful
      gainVoterGuards [.guardShadowDiskfulSupported, .guardVotersEven] [shadowToDiskful],
    changeTypePlan .sdToDQUp .votingMembership .shadowDiskful .diskful
      gainVoterGuards [.guardShadowDiskfulSupported, .guardVotersOdd]
      [shadowToLiminal, liminalShadowToDiskfulQUp, liminalToDiskful],
    changeTypePlan .dToSd .votingMembership .diskful .shadowDiskful
      loseVoterGuards [.guardShadowDiskfulSupported, .guardVotersOdd]
      [mkStep "D → sD" [.setType .shadowDiskful] .confirmAllMembers],
    changeTypePlan .dToSdQDown .votingMembership .diskful .shadowDiskful
      loseVoterGuards [.guardShadowDiskfulSupported, .guardVotersEven]
      [diskfulToLiminal,
        mkStep "D∅ → sD∅ + q↓" [.setType .liminalShadowDiskful, .lowerQ] .confirmAllMembers,
        liminalToShadow] ]

def changeAccessPlans : List PlanSpec :=
  [ changeTypePlan .aToD .votingMembership .access .diskful
      gainVoterGuards [.guardVotersEven, .guardMaxDiskMembers]
      [toLiminalDiskful "A → D∅", liminalToDiskful],
    changeTypePlan .aToDQUp .votingMembership .access .diskful
      gainVoterGuards [.guardVotersOdd, .guardMaxDiskMembers]
      [accessToDiskfulQUp "A → D∅ + q↑", liminalToDiskful],
    changeTypePlan .aToDViaSd .votingMembership .access .diskful
      gainVoterGuards [.guardVotersEven, .guardShadowDiskfulSupported, .guardMaxDiskMembers]
      [toLiminalShadow "A → sD∅", liminalToShadow, shadowToDiskful],
    changeTypePlan .aToDViaSdQUp .votingMembership .access .diskful
      gainVoterGuards [.guardVotersOdd, .guardShadowDiskfulSupported, .guardMaxDiskMembers]
      [toLiminalShadow "A → sD∅", liminalToShadow, shadowToLiminal, liminalShadowToDiskfulQUp,
        liminalToDiskful],
    changeTypePlan .dToA .votingMembership .diskful .access
      loseVoterGuards [.guardVolumeAccessNotLocal, .guardVotersOdd]
      [diskfulToLiminal, dropDisk "D∅ → A" .access],
    changeTypePlan .dToAQDown .votingMembership .diskful .access
      loseVoterGuards [.guardVolumeAccessNotLocal, .guardVotersEven]
      [diskfulToLiminal, dropDiskQDown "D∅ → A + q↓" .access] ]

def changeTieBreakerPlans : List PlanSpec :=
  [ changeTypePlan .tbToD .votingMembership .tieBreaker .diskful
      (loseTBGuards ++ gainVoterGuards) [.guardVotersEven, .guardMaxDiskMembers]
      [toLiminalDiskful "TB → D∅", liminalToDiskful],
    changeTypePlan .tbToDQUp .votingMembership .tieBreaker .diskful
      (loseTBGuards ++ gainVoterGuards) [.guardVotersOdd, .guardMaxDiskMembers]
      [accessToDiskfulQUp "TB → D∅ + q↑", liminalToDiskful],
    changeTypePlan .tbToDViaSd .votingMembership .tieBreaker .diskful
      (loseTBGuards ++ gainVoterGuards)
      [.guardVotersEven, .guardShadowDiskfulSupported, .guardMaxDiskMembers]
      [toLiminalShadow "TB → sD∅", liminalToShadow, shadowToDiskful],
    changeTypePlan .tbToDViaSdQUp .votingMembership .tieBreaker .diskful
      (loseTBGuards ++ gainVoterGuards)
      [.guardVotersOdd, .guardShadowDiskfulSupported, .guardMaxDiskMembers]
      [toLiminalShadow "TB → sD∅", liminalToShadow, shadowToLiminal, liminalShadowToDiskfulQUp,
        liminalToDiskful],
    changeTypePlan .dToTb .votingMembership .diskful .tieBreaker
      loseVoterToTieBreakerGuards [.guardVotersOdd]
      [diskfulToLiminal, dropDisk "D∅ → TB" .tieBreaker],
    changeTypePlan .dToTbQDown .votingMembership .diskful .tieBreaker
      loseVoterToTieBreakerGuards [.guardVotersEven]
      [diskfulToLiminal, dropDiskQDown "D∅ → TB + q↓" .tieBreaker] ]

def changeTypePlans : List PlanSpec :=
  changeNonVoterPlans ++ changeShadowPlans ++ changeAccessPlans ++ changeTieBreakerPlans

def forceRemovePlans : List PlanSpec :=
  [ forceRemovePlan .access .access [] [.removeMember],
    forceRemovePlan .tiebreaker .tieBreaker [] [.removeMember],
    forceRemovePlan .shadowDiskful .shadowDiskful [] [.removeMember],
    forceRemovePlan .diskful .diskful [.guardVotersOdd] [.removeMember],
    forceRemovePlan .diskfulQDown .diskful [.guardVotersEven] [.removeMember, .lowerQ] ]

def globalPlan (type : TransitionType) (planID : PlanID) (group : TransitionGroup)
    (displayName : String) (guards : List Guard) (init : Init) (steps : List StepSpec) : PlanSpec :=
  ⟨type, planID, .global, group, displayName, .membershipSlot, false, guards, init, steps, .nothing⟩

def setQ (name : String) : StepSpec := mkStep name [.setCorrectQ] .confirmAllMembers

def setQMRUp : StepSpec :=
  (mkStep "qmr↑" [.setCorrectQMR] .confirmAllMembers).withOnComplete [.updateBaselineGMDR]

def setQMRDown : StepSpec := mkStep "qmr↓" [.setCorrectQMR, .updateBaselineGMDR] .confirmAllMembers

def quorumPlan (planID : PlanID) (steps : List StepSpec) : PlanSpec :=
  globalPlan .changeQuorum planID .quorum "Adjusting quorum" [] .nothing steps

def quorumPlans : List PlanSpec :=
  [ quorumPlan .lower [setQMRDown, setQ "q↓"],
    quorumPlan .raise [setQ "q↑", setQMRUp],
    quorumPlan .lowerQRaiseQmr [setQ "q↓", setQMRUp],
    quorumPlan .raiseQLowerQmr [setQ "q↑", setQMRDown] ]

def attachmentPlan (type : TransitionType) (planID : PlanID) (group : TransitionGroup)
    (displayName : String) (cancel : Bool) (guards : List Guard) (step : StepSpec) : PlanSpec :=
  ⟨type, planID, .replica, group, displayName, .attachmentSlot, cancel, guards, .nothing, [step],
    .nothing⟩

def attachmentPlans : List PlanSpec :=
  [ attachmentPlan .attach .attach .attachment "Attaching volume" false
      [.guardAttachNotDeleting, .guardNodeOperational, .guardRVRReady, .guardMemberExists,
        .guardNoActiveMembershipTransition, .guardQuorumSatisfied, .guardSlotAvailable,
        .guardVolumeAccessLocalForAttach]
      ((mkStep "Attach" [.applyAttach] .confirmSubjectOnly).withDetails "Attaching"),
    attachmentPlan .detach .detach .attachment "Detaching volume" false [.guardDeviceNotInUse]
      ((mkStep "Detach" [.applyDetach] .confirmSubjectOnlyLeavingOrGone).withDetails "Detaching"),
    attachmentPlan .forceDetach .forceDetach .emergency "Force-detaching volume" true
      [.guardMemberUnreachable] (mkStep "Force detach" [.applyDetach] .confirmImmediate),
    globalPlan .enableMultiattach .enableMultiattach .multiattach "Enabling multiattach"
      [.guardMaxAttachmentsAllowsMultiattach] .nothing
      [mkStep "Enable multiattach" [.applyEnableMultiattach] .confirmMultiattach],
    globalPlan .disableMultiattach .disableMultiattach .multiattach "Disabling multiattach"
      [.guardCanDisableMultiattach] .nothing
      [mkStep "Disable multiattach" [.applyDisableMultiattach] .confirmMultiattach] ]

def changeNetworksPlan (planID : PlanID) (displayName : String) (guards : List Guard)
    (steps : List StepSpec) : PlanSpec :=
  globalPlan .changeSystemNetworks planID .network displayName guards .setSystemNetworks steps

def connectNew (name : String) : StepSpec :=
  mkStep name [.addNewAddresses] .confirmAllConnectedOnAddedNetworks

def listenNew (name : String) : StepSpec :=
  mkStep name [.addNewNetworks] .confirmAddedAddressesAvailable

def disconnectOld (name : String) : StepSpec :=
  mkStep name [.removeOldNetworksAndAddresses] .confirmAllMembers

def networkPlans : List PlanSpec :=
  [ globalPlan .repairNetworkAddresses .repair .network "Repairing connectivity"
      [.guardReplicasMatchTargetNetworks] .nothing
      [mkStep "Repair" [.repairAddresses] .confirmAllConnected],
    changeNetworksPlan .add "Adding system networks" [.guardNodesHaveAddedNetworks]
      [listenNew "Listen", connectNew "Connect"],
    changeNetworksPlan .remove "Removing system networks" [.guardRemainingNetworksConnected]
      [disconnectOld "Disconnect"],
    changeNetworksPlan .update "Updating system networks"
      [.guardRemainingNetworksConnected, .guardNodesHaveAddedNetworks]
      [mkStep "Listen new & Disconnect old" [.removeOldNetworksAndAddresses, .addNewNetworks]
        .confirmAddedAddressesAvailable, connectNew "Connect"],
    changeNetworksPlan .migrate "Migrating system networks" [.guardNodesHaveAddedNetworks]
      [listenNew "Listen new", connectNew "Connect new", disconnectOld "Disconnect old"] ]

def resizePlans : List PlanSpec :=
  [ globalPlan .resizeVolume .resize .resize "Resizing volume"
      [.guardHasReadyDiskfulMember, .guardNoActiveResync, .guardBackingVolumesGrown] .nothing
      [mkStep "resize" [.applyResizeVolume] .confirmAllMembers] ]

def registry : List PlanSpec :=
  accessPlans ++ tieBreakerPlans ++ shadowDiskfulPlans ++ diskfulPlans ++ changeTypePlans ++
    forceRemovePlans ++ quorumPlans ++ attachmentPlans ++ networkPlans ++ resizePlans

def lookup (type : TransitionType) (planID : PlanID) : Option PlanSpec :=
  registry.find? fun s => s.transitionType = type && s.planID = planID

end ReplicatedVolume.Datamesh
