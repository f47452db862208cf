import ReplicatedVolume.Datamesh.Tracker

/-!
# Apply and confirm callbacks

An apply callback returns the new context and whether it changed anything; a `nil` that it
dereferences is `none`. Redundancy and quorum numbers are bytes.
-/

namespace ReplicatedVolume.Datamesh
open Dmte

abbrev ApplyResult := Option (GlobalContext × Bool)

def idsWhere (p : ReplicaID → Bool) : Finset ReplicaID := Finset.univ.filter fun id => p id = true

def memberWhere (g : GlobalContext) (p : DatameshMember → Bool) : Finset ReplicaID :=
  idsWhere fun id => (g.member id).any p

def voters (g : GlobalContext) : Finset ReplicaID := memberWhere g (·.type.isVoter)

def voterCount (g : GlobalContext) : ℕ := (voters g).card

def isUpToDateDiskful (rc : ReplicaContext) : Bool :=
  rc.member.any (fun m => m.type.isVoter && m.type.hasBackingVolume) &&
    rc.rvr.any fun rvr => rvr.backingVolume.any (·.state = .upToDate)

def upToDateDiskfulCount (g : GlobalContext) : ℕ :=
  (idsWhere fun id => isUpToDateDiskful (g.replicas id)).card

def tbCount (g : GlobalContext) : ℕ := (memberWhere g (·.type = .tieBreaker)).card

def computeTargetQ (voters : ℕ) : ℕ := voters / 2 + 1

def allMemberIDs (g : GlobalContext) : Finset ReplicaID := memberWhere g fun _ => true

def fullMeshMemberIDs (g : GlobalContext) : Finset ReplicaID :=
  memberWhere g (·.type.connectsToAllPeers)

def confirmedReplicas (g : GlobalContext) (stepRevision : ℕ) : Finset ReplicaID :=
  idsWhere fun id => (g.rvr id).any (stepRevision ≤ ·.datameshRevision)

def getEligibleNode (g : GlobalContext) (rc : ReplicaContext) : Option EligibleNode :=
  if rc.nodeName = "" then none else g.rsp.bind (·.findEligibleNode rc.nodeName)

def createMember (type : MemberType) (g : GlobalContext) (rctx : Option Ref) : ApplyResult := do
  let r ← rctx
  let rc := g.ctx r
  let rvr ← rc.rvr
  let member : DatameshMember :=
    { id := rc.id
      type := type
      nodeName := rc.nodeName
      zone := ((getEligibleNode g rc).map (·.zoneName)).getD ""
      addresses := rvr.addresses
      lvmVolumeGroupName := ""
      lvmVolumeGroupThinPoolName := ""
      attached := false }
  some (g.modify r fun rc => { rc with member := some member, memberIdx := none }, true)

/-- Assign fields of the subject's member; the flag is that of `SetChanged`. -/
def setMember (f : DatameshMember → DatameshMember) (g : GlobalContext) (rctx : Option Ref) :
    ApplyResult := do
  let r ← rctx
  let m ← (g.ctx r).member
  some (g.modify r fun rc => { rc with member := some (f m) }, f m != m)

def setType (type : MemberType) : GlobalContext → Option Ref → ApplyResult :=
  setMember fun m => { m with type := type }

def setBackingVolumeFromRequest (g : GlobalContext) (rctx : Option Ref) : ApplyResult := do
  let r ← rctx
  let request ← (g.ctx r).membershipRequest
  setMember (fun m => { m with
    lvmVolumeGroupName := request.lvmVolumeGroupName
    lvmVolumeGroupThinPoolName := request.thinPoolName }) g rctx

def clearBackingVolume : GlobalContext → Option Ref → ApplyResult :=
  setMember fun m => { m with lvmVolumeGroupName := "", lvmVolumeGroupThinPoolName := "" }

def removeMember (g : GlobalContext) (rctx : Option Ref) : ApplyResult := do
  let r ← rctx
  let rc := g.ctx r
  let g := g.modify r fun rc => { rc with member := none, memberIdx := none }
  some (if rc.rvr = none then { g with indexed := Function.update g.indexed rc.id false } else g,
    true)

def raiseQ (g : GlobalContext) : GlobalContext × Bool :=
  ({ g with quorum := (g.quorum + 1) % 256 }, true)

def lowerQ (g : GlobalContext) : GlobalContext × Bool :=
  ({ g with quorum := (g.quorum + 255) % 256 }, true)

def raiseQMR (g : GlobalContext) : GlobalContext × Bool :=
  ({ g with quorumMinimumRedundancy := (g.quorumMinimumRedundancy + 1) % 256 }, true)

def lowerQMR (g : GlobalContext) : GlobalContext × Bool :=
  ({ g with quorumMinimumRedundancy := (g.quorumMinimumRedundancy + 255) % 256 }, true)

def computeCorrectQuorum (g : GlobalContext) : ℕ × ℕ :=
  let targetQMR := g.configuration.quorumMinimumRedundancy
  let currentQMR := g.quorumMinimumRedundancy
  (voterCount g / 2 + 1,
    if targetQMR ≤ currentQMR then targetQMR
    else max currentQMR (min targetQMR (upToDateDiskfulCount g)))

def setCorrectQ (g : GlobalContext) : GlobalContext × Bool :=
  let q := (computeCorrectQuorum g).1
  ({ g with quorum := q }, g.quorum != q)

def setCorrectQMR (g : GlobalContext) : GlobalContext × Bool :=
  let qmr := (computeCorrectQuorum g).2
  ({ g with quorumMinimumRedundancy := qmr }, g.quorumMinimumRedundancy != qmr)

def baselineFor (g : GlobalContext) : ℕ :=
  min (g.quorumMinimumRedundancy - 1) g.configuration.guaranteedMinimumDataRedundancy

def updateBaselineGMDR (g : GlobalContext) : GlobalContext × Bool :=
  ({ g with baselineGMDR := baselineFor g }, g.baselineGMDR != baselineFor g)

def applyAttach : GlobalContext → Option Ref → ApplyResult :=
  setMember fun m => { m with attached := true }

def applyDetach : GlobalContext → Option Ref → ApplyResult :=
  setMember fun m => { m with attached := false }

def setMultiattach (enabled : Bool) (g : GlobalContext) : GlobalContext × Bool :=
  ({ g with multiattach := enabled }, g.multiattach != enabled)

def applyEnableMultiattach : GlobalContext → GlobalContext × Bool := setMultiattach true

def applyDisableMultiattach : GlobalContext → GlobalContext × Bool := setMultiattach false

def alignTo (x a : ℕ) : ℕ := (x + a - 1) / a * a

/-- The result is converted to a signed 64-bit number. A size is below `2 ^ 63`, and beyond the
last multiple of 4096 below it the conversion gives the least negative number. -/
def alignTo4Ki (size : ℕ) : ℤ :=
  if size ≤ 2 ^ 63 - 4096 then alignTo size 4096 else -2 ^ 63

def applyResizeVolume (g : GlobalContext) : GlobalContext × Bool :=
  ({ g with datameshSize := alignTo4Ki g.size }, g.datameshSize != alignTo4Ki g.size)

def confirmSubject (ok : Option RVR → Bool) (g : GlobalContext) (rctx : Option Ref) :
    Option ConfirmResult := do
  let r ← rctx
  let rc := g.ctx r
  some ⟨{rc.id}, if ok rc.rvr then {rc.id} else ∅⟩

def confirmSubjectOnly (g : GlobalContext) (rctx : Option Ref) (stepRevision : ℕ) :
    Option ConfirmResult :=
  confirmSubject (·.any (stepRevision ≤ ·.datameshRevision)) g rctx

def confirmSubjectOnlyLeavingOrGone (g : GlobalContext) (rctx : Option Ref)
    (stepRevision : ℕ) : Option ConfirmResult :=
  confirmSubject (·.all fun rvr =>
    rvr.datameshRevision = 0 || stepRevision ≤ rvr.datameshRevision) g rctx

def confirmIDs (g : GlobalContext) (mustConfirm : Finset ReplicaID) (stepRevision : ℕ) :
    ConfirmResult :=
  ⟨mustConfirm, confirmedReplicas g stepRevision ∩ mustConfirm⟩

def confirmLeaving (g : GlobalContext) (rctx : Option Ref) (members : Finset ReplicaID)
    (stepRevision : ℕ) : Option ConfirmResult := do
  let r ← rctx
  let rc := g.ctx r
  let cr := confirmIDs g (members ∪ {rc.id}) stepRevision
  some (if rc.rvr.any (·.datameshRevision = 0) then
    { cr with confirmed := cr.confirmed ∪ {rc.id} } else cr)

def confirmFMPlusSubject (g : GlobalContext) (rctx : Option Ref) (stepRevision : ℕ) :
    Option ConfirmResult := do
  let r ← rctx
  some (confirmIDs g (fullMeshMemberIDs g ∪ {(g.ctx r).id}) stepRevision)

def confirmFMPlusSubjectLeaving (g : GlobalContext) (rctx : Option Ref) (stepRevision : ℕ) :
    Option ConfirmResult :=
  confirmLeaving g rctx (fullMeshMemberIDs g) stepRevision

def confirmAllMembers (g : GlobalContext) (stepRevision : ℕ) : ConfirmResult :=
  confirmIDs g (allMemberIDs g) stepRevision

def confirmAllMembersLeaving (g : GlobalContext) (rctx : Option Ref) (stepRevision : ℕ) :
    Option ConfirmResult :=
  confirmLeaving g rctx (allMemberIDs g) stepRevision

def confirmImmediate : ConfirmResult := ⟨∅, ∅⟩

def confirmMultiattach (g : GlobalContext) (stepRevision : ℕ) : ConfirmResult :=
  confirmIDs g (memberWhere g fun m => m.type.hasBackingVolume || m.attached) stepRevision

end ReplicatedVolume.Datamesh
