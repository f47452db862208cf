import ReplicatedVolume.Datamesh.Registry

/-!
# Dispatchers

The decision points of the five dispatchers, in the order in which the engine
runs them: network, quorum, membership, attachment, resize.
-/

namespace ReplicatedVolume.Datamesh
open Dmte

abbrev Choice := Option (Decision GlobalContext Ref)

def decideNetwork (g : GlobalContext) : Choice :=
  if needsAddressRepair g then some (.global .repairNetworkAddresses .repair)
  else do
    let rsp ← g.rsp
    let current := g.systemNetworkNames
    let target := rsp.systemNetworkNames
    let hasAdded := target.any (· ∉ current)
    let hasRemoved := current.any (· ∉ target)
    let hasRemaining := current.any (· ∈ target)
    if !hasAdded && !hasRemoved then none
    else some (.global .changeSystemNetworks
      (if hasAdded && hasRemoved && !hasRemaining then .migrate
      else if hasAdded && hasRemoved then .update
      else if hasAdded then .add
      else .remove))

def hasPendingJoinD (g : GlobalContext) : Bool :=
  (List.finRange 32).any fun id =>
    (g.member id).isNone && (g.replicas id).membershipRequest.any fun req =>
      req.operation = .join && req.type = some .diskful

def hasPendingLeaveD (g : GlobalContext) : Bool :=
  (List.finRange 32).any fun id =>
    (g.member id).any (·.type.isVoter) &&
      (g.replicas id).membershipRequest.any (·.operation = .leave)

/-- A step of one in `qmr` is left to a waiting join or leave of a diskful replica. -/
def canMembershipHandleQMR (g : GlobalContext) (expectedQMR currentQMR : ℕ) : Bool :=
  if expectedQMR = (currentQMR + 1) % 256 then hasPendingJoinD g
  else if (expectedQMR + 1) % 256 = currentQMR then hasPendingLeaveD g
  else false

def selectQuorumPlan (expectedQ currentQ expectedQMR currentQMR : ℕ) : PlanID :=
  if expectedQ < currentQ ∧ currentQMR < expectedQMR then .lowerQRaiseQmr
  else if currentQ < expectedQ ∧ expectedQMR < currentQMR then .raiseQLowerQmr
  else if currentQ < expectedQ ∨ currentQMR < expectedQMR then .raise
  else .lower

def decideQuorum (g : GlobalContext) : Choice :=
  let expected := computeCorrectQuorum g
  let qWrong := expected.1 ≠ g.quorum
  let qmrWrong := expected.2 ≠ g.quorumMinimumRedundancy
  if g.votingMembershipTransitions ≠ ∅ then none
  else if ¬qWrong ∧ ¬qmrWrong then none
  else if ¬qWrong ∧ qmrWrong ∧
      canMembershipHandleQMR g expected.2 g.quorumMinimumRedundancy = true then none
  else some (.global .changeQuorum
    (selectQuorumPlan expected.1 g.quorum expected.2 g.quorumMinimumRedundancy))

def decideResize (g : GlobalContext) : Choice :=
  if alignTo4Ki g.size ≤ g.datameshSize then none else some (.global .resizeVolume .resize)

inductive PlanChoice where
  | skip
  | blocked (message : String)
  | plan (id : PlanID)
  deriving DecidableEq

def notImplemented : PlanChoice := .blocked "Not implemented"

def memberType (rc : ReplicaContext) : Option MemberType := rc.member.map (·.type)

def planForceRemoveReplica (g : GlobalContext) (rc : ReplicaContext) : PlanChoice :=
  match memberType rc with
  | none => .skip
  | some .access => .plan .access
  | some .tieBreaker => .plan .tiebreaker
  | some .shadowDiskful | some .liminalShadowDiskful => .plan .shadowDiskful
  | some .diskful | some .liminalDiskful =>
    .plan (if voterCount g % 2 ≠ 0 then .diskful else .diskfulQDown)

def planAddDiskful (g : GlobalContext) : PlanID :=
  let needsQUp : Bool := voterCount g % 2 ≠ 0
  let needsQMRUp : Bool := g.quorumMinimumRedundancy < g.configuration.quorumMinimumRedundancy
  match g.features.shadowDiskful, needsQUp, needsQMRUp with
  | false, false, false => .diskful
  | false, false, true => .diskfulQmrUp
  | false, true, false => .diskfulQUp
  | false, true, true => .diskfulQUpQmrUp
  | true, false, false => .diskfulViaSd
  | true, false, true => .diskfulViaSdQmrUp
  | true, true, false => .diskfulViaSdQUp
  | true, true, true => .diskfulViaSdQUpQmrUp

def planAddReplica (g : GlobalContext) (rc : ReplicaContext) (req : ReplicaRequest) : PlanChoice :=
  if rc.member.isSome then .skip
  else
    match req.type with
    | some .access => .plan .access
    | some .tieBreaker => .plan .tiebreaker
    | some .shadowDiskful => .plan .shadowDiskful
    | some .diskful => .plan (planAddDiskful g)
    | none => notImplemented

def planRemoveDiskful (g : GlobalContext) : PlanID :=
  let needsQDown : Bool := voterCount g % 2 = 0
  let needsQMRDown : Bool := g.configuration.quorumMinimumRedundancy < g.quorumMinimumRedundancy
  match needsQDown, needsQMRDown with
  | false, false => .removeDiskful
  | false, true => .removeDiskfulQmrDown
  | true, false => .removeDiskfulQDown
  | true, true => .removeDiskfulQmrDownQDown

def planRemoveReplica (g : GlobalContext) (rc : ReplicaContext) : PlanChoice :=
  match memberType rc with
  | none => .skip
  | some .access => .plan .access
  | some .tieBreaker => .plan .tiebreaker
  | some .shadowDiskful | some .liminalShadowDiskful => .plan .shadowDiskful
  | some .diskful | some .liminalDiskful => .plan (planRemoveDiskful g)

def planGainDisk (g : GlobalContext) (direct directQUp viaSd viaSdQUp : PlanID) : PlanID :=
  match g.features.shadowDiskful, voterCount g % 2 with
  | false, 0 => direct
  | false, _ => directQUp
  | true, 0 => viaSd
  | true, _ => viaSdQUp

def planByParity (g : GlobalContext) (odd even : PlanID) : PlanID :=
  if voterCount g % 2 ≠ 0 then odd else even

def planRetype (g : GlobalContext) : MemberType → ReplicaType → PlanChoice
  | .access, .tieBreaker => .plan .aToTb
  | .tieBreaker, .access => .plan .tbToA
  | .access, .shadowDiskful => .plan .aToSd
  | .shadowDiskful, .access | .liminalShadowDiskful, .access => .plan .sdToA
  | .tieBreaker, .shadowDiskful => .plan .tbToSd
  | .shadowDiskful, .tieBreaker | .liminalShadowDiskful, .tieBreaker => .plan .sdToTb
  | .access, .diskful => .plan (planGainDisk g .aToD .aToDQUp .aToDViaSd .aToDViaSdQUp)
  | .diskful, .access | .liminalDiskful, .access => .plan (planByParity g .dToA .dToAQDown)
  | .shadowDiskful, .diskful | .liminalShadowDiskful, .diskful =>
    .plan (planByParity g .sdToDQUp .sdToD)
  | .diskful, .shadowDiskful | .liminalDiskful, .shadowDiskful =>
    .plan (planByParity g .dToSd .dToSdQDown)
  | .tieBreaker, .diskful => .plan (planGainDisk g .tbToD .tbToDQUp .tbToDViaSd .tbToDViaSdQUp)
  | .diskful, .tieBreaker | .liminalDiskful, .tieBreaker =>
    .plan (planByParity g .dToTb .dToTbQDown)
  | .diskful, .diskful | .shadowDiskful, .shadowDiskful | .tieBreaker, .tieBreaker
  | .access, .access => .skip
  | .liminalDiskful, .diskful | .liminalShadowDiskful, .shadowDiskful => .skip

def planChangeReplicaType (g : GlobalContext) (rc : ReplicaContext) (req : ReplicaRequest) :
    PlanChoice :=
  match rc.member with
  | none => .skip
  | some m =>
    if rc.membershipTransition.any (·.header.type = .addReplica) then .skip
    else
      match req.type with
      | none => notImplemented
      | some target => planRetype g m.type target

/-- The transition a request asks for; a member without object and request is
removed by force. -/
def chooseMembership (g : GlobalContext) (rc : ReplicaContext) :
    Option (TransitionType × PlanChoice) :=
  match rc.membershipRequest with
  | some req =>
    match req.operation with
    | .join => some (.addReplica, planAddReplica g rc req)
    | .leave => some (.removeReplica, planRemoveReplica g rc)
    | .changeRole => some (.changeReplicaType, planChangeReplicaType g rc req)
    | .forceLeave => some (.forceRemoveReplica, planForceRemoveReplica g rc)
    | .forceDetach | .changeBackingVolume => none
  | none =>
    if rc.member.isSome && rc.rvr.isNone then
      some (.forceRemoveReplica, planForceRemoveReplica g rc)
    else none

def decideMembership (r : Ref) (g : GlobalContext) : Choice :=
  let rc := g.ctx r
  if !rc.named then none
  else
    match chooseMembership g rc with
    | some (type, .plan id) => some (.replica r type id)
    | some (_, .blocked message) => some (.noDispatch r membershipSlot message none)
    | _ => none

def hasActiveRVA (rc : ReplicaContext) : Bool := rc.rvas.any (!·.deleting)

/-- The creation time of the first attachment that is not being deleted, zero
when there is none. -/
def earliestActiveRVATimestamp (rc : ReplicaContext) : ℕ :=
  ((rc.rvas.find? (!·.deleting)).map (·.creationTimestamp)).getD 0

def isAttached (rc : ReplicaContext) : Bool := rc.member.any (·.attached)

def decideForceDetach (r : Ref) (g : GlobalContext) : Choice :=
  let rc := g.ctx r
  if rc.membershipRequest.any (·.operation = .forceDetach) && isAttached rc then
    some (.replica r .forceDetach .forceDetach)
  else none

def decideMultiattachToggle (g : GlobalContext) : Choice :=
  let intendedCount := (idsWhere fun id =>
    (g.member id).isSome && hasActiveRVA (g.replicas id)).card
  let needMultiattach : Bool := 1 < intendedCount && 1 < g.maxAttachments
  if needMultiattach && !g.multiattach && !g.hasMultiattachTransition then
    some (.global .enableMultiattach .enableMultiattach)
  else if !needMultiattach && g.multiattach && !g.hasMultiattachTransition &&
      g.potentiallyAttached.card ≤ 1 then
    some (.global .disableMultiattach .disableMultiattach)
  else none

def candidateLE (g : GlobalContext) (a b : Ref) : Prop :=
  earliestActiveRVATimestamp (g.ctx a) < earliestActiveRVATimestamp (g.ctx b) ∨
    (earliestActiveRVATimestamp (g.ctx a) = earliestActiveRVATimestamp (g.ctx b) ∧
      (g.ctx a).nodeName ≤ (g.ctx b).nodeName)

instance (g : GlobalContext) : DecidableRel (candidateLE g) := fun _ _ =>
  inferInstanceAs (Decidable (_ ∨ _))

def collectAndSortCandidates (g : GlobalContext) : List Ref :=
  (g.allRefs.filter fun r => (g.ctx r).rvas ≠ [] || isAttached (g.ctx r)).insertionSort
    (candidateLE g)

def decideAttachmentForReplica (r : Ref) (g : GlobalContext) : Choice :=
  let rc := g.ctx r
  if isAttached rc && hasActiveRVA rc && rc.attachmentTransition.isNone then
    some (.noDispatch r attachmentSlot ("Volume is attached and ready to serve I/O on the node" ++
      if g.deleting then " (volume is pending deletion)" else "") (some "Attached"))
  else if hasActiveRVA rc then some (.replica r .attach .attach)
  else if isAttached rc then some (.replica r .detach .detach)
  else if rc.attachmentTransition.isSome then none
  else if rc.rvas ≠ [] then
    some (.noDispatch r attachmentSlot "Volume has been detached from the node" (some "Detached"))
  else none

def networkDispatcher : Dispatcher GlobalContext Ref := [fun _ => [decideNetwork]]

def quorumDispatcher : Dispatcher GlobalContext Ref := [fun _ => [decideQuorum]]

def membershipDispatcher : Dispatcher GlobalContext Ref := [fun g => g.allRefs.map decideMembership]

def attachmentDispatcher : Dispatcher GlobalContext Ref :=
  [ fun g => g.allRefs.map decideForceDetach,
    fun _ => [decideMultiattachToggle],
    fun g => (collectAndSortCandidates g).map decideAttachmentForReplica ]

def resizeDispatcher : Dispatcher GlobalContext Ref := [fun _ => [decideResize]]

def domain : Domain GlobalContext Ref where
  replica := GlobalContext.replica
  replicaName := GlobalContext.replicaName
  observed g r := (g.ctx r).rvr.map fun rvr => (rvr.generation, rvr.conditions)
  get type planID := (lookup type planID).map PlanSpec.plan
  add := trackerAdd
  remove := trackerRemove
  canAdmit := canAdmit
  dispatchers :=
    [networkDispatcher, quorumDispatcher, membershipDispatcher, attachmentDispatcher,
      resizeDispatcher]

end ReplicatedVolume.Datamesh
