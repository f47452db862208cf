import ReplicatedVolume.Datamesh.Cycle

/-!
# The abstract datamesh

What the safety of the datamesh is about, without contexts, messages, heaps or slots. The effect of
a callback and the meaning of a confirmation, a guard and an admission are given on this state
alone.
-/

namespace ReplicatedVolume.Datamesh
open Dmte

structure Seat where
  type : MemberType
  attached : Bool
  deriving DecidableEq

structure Content where
  seats : ReplicaID → Option Seat
  quorum : ℕ
  quorumMinimumRedundancy : ℕ
  multiattach : Bool
  baselineGMDR : ℕ
  deriving DecidableEq

/-- A live transition: its plan, its subject, the step it is at and the
revision of that step. -/
structure Active where
  type : TransitionType
  planID : PlanID
  group : TransitionGroup
  replica : Option ReplicaID
  idx : ℕ
  revision : ℕ
  deriving DecidableEq

structure Mesh where
  content : Content
  revision : ℕ
  active : List Active
  potentiallyAttached : Finset ReplicaID

structure Env where
  reported : ReplicaID → Option ℕ
  upToDate : ReplicaID → Bool
  guaranteedMinimumDataRedundancy : ℕ
  maxAttachments : ℕ

namespace Content

def voters (c : Content) : Finset ReplicaID :=
  idsWhere fun id => (c.seats id).any (·.type.isVoter)

def attached (c : Content) : Finset ReplicaID :=
  idsWhere fun id => (c.seats id).any (·.attached)

def setSeat (c : Content) (x : Option ReplicaID) (f : Option Seat → Option Seat) : Content :=
  match x with
  | some id => { c with seats := Function.update c.seats id (f (c.seats id)) }
  | none => c

def upToDateDiskfulCount (c : Content) (env : Env) : ℕ :=
  (idsWhere fun id => (c.seats id).any (fun s => s.type.isVoter && s.type.hasBackingVolume) &&
    env.upToDate id).card

end Content

def Env.targetQMR (env : Env) : ℕ := (env.guaranteedMinimumDataRedundancy + 1) % 256

def Content.correctQMR (c : Content) (env : Env) : ℕ :=
  if env.targetQMR ≤ c.quorumMinimumRedundancy then env.targetQMR
  else max c.quorumMinimumRedundancy (min env.targetQMR (c.upToDateDiskfulCount env))

def Content.exactBaseline (c : Content) (env : Env) : ℕ :=
  min (c.quorumMinimumRedundancy - 1) env.guaranteedMinimumDataRedundancy

/-- The effect of a callback with subject `x`. Callbacks on addresses, networks,
backing volume names and the size leave the content alone. -/
def Apply.effect (env : Env) (x : Option ReplicaID) (c : Content) : Apply → Content
  | .createMember type => c.setSeat x fun _ => some ⟨type, false⟩
  | .setType type => c.setSeat x (Option.map fun s => { s with type := type })
  | .removeMember => c.setSeat x fun _ => none
  | .raiseQ => { c with quorum := (c.quorum + 1) % 256 }
  | .lowerQ => { c with quorum := (c.quorum + 255) % 256 }
  | .raiseQMR => { c with quorumMinimumRedundancy := (c.quorumMinimumRedundancy + 1) % 256 }
  | .lowerQMR => { c with quorumMinimumRedundancy := (c.quorumMinimumRedundancy + 255) % 256 }
  | .setCorrectQ => { c with quorum := c.voters.card / 2 + 1 }
  | .setCorrectQMR => { c with quorumMinimumRedundancy := c.correctQMR env }
  | .updateBaselineGMDR => { c with baselineGMDR := c.exactBaseline env }
  | .applyAttach => c.setSeat x (Option.map fun s => { s with attached := true })
  | .applyDetach => c.setSeat x (Option.map fun s => { s with attached := false })
  | .applyEnableMultiattach => { c with multiattach := true }
  | .applyDisableMultiattach => { c with multiattach := false }
  | .setBackingVolumeFromRequest | .clearBackingVolume | .repairAddresses | .addNewNetworks
  | .removeOldNetworksAndAddresses | .addNewAddresses | .applyResizeVolume => c

def applyAll (env : Env) (x : Option ReplicaID) (callbacks : List Apply) (c : Content) : Content :=
  callbacks.foldl (Apply.effect env x) c

def Env.Confirmed (env : Env) (revision : ℕ) (id : ReplicaID) : Prop :=
  ∃ r, env.reported id = some r ∧ revision ≤ r

def Confirm.Holds (env : Env) (c : Content) (x : Option ReplicaID) (revision : ℕ) :
    Confirm → Prop
  | .confirmSubjectOnly => ∀ id, x = some id → env.Confirmed revision id
  | .confirmSubjectOnlyLeavingOrGone =>
    ∀ id r, x = some id → env.reported id = some r → r = 0 ∨ revision ≤ r
  | .confirmFMPlusSubject =>
    (∀ id s, c.seats id = some s → s.type.connectsToAllPeers = true →
      env.Confirmed revision id) ∧ ∀ id, x = some id → env.Confirmed revision id
  | .confirmFMPlusSubjectLeaving =>
    (∀ id s, c.seats id = some s → s.type.connectsToAllPeers = true → x ≠ some id →
      env.Confirmed revision id) ∧
    ∀ id, x = some id → env.Confirmed revision id ∨ env.reported id = some 0
  | .confirmAllMembersLeaving =>
    (∀ id s, c.seats id = some s → x ≠ some id → env.Confirmed revision id) ∧
    ∀ id, x = some id → env.Confirmed revision id ∨ env.reported id = some 0
  | .confirmImmediate => True
  | .confirmMultiattach =>
    ∀ id s, c.seats id = some s → s.type.hasBackingVolume = true ∨ s.attached = true →
      env.Confirmed revision id
  | .confirmAllMembers | .confirmAllConnected | .confirmAddedAddressesAvailable
  | .confirmAllConnectedOnAddedNetworks =>
    ∀ id s, c.seats id = some s → env.Confirmed revision id

def Active.spec (a : Active) : Option PlanSpec := lookup a.type a.planID

def Active.slot (a : Active) : Option (SlotID × ReplicaID) :=
  match a.spec, a.replica with
  | some spec, some id => if spec.scope = .replica then some (spec.slot, id) else none
  | _, _ => none

namespace Mesh

def Free (m : Mesh) (slot : SlotID) (id : ReplicaID) : Prop :=
  ∀ a ∈ m.active, a.slot ≠ some (slot, id)

def Idle (m : Mesh) (group : TransitionGroup) : Prop := ∀ a ∈ m.active, a.group ≠ group

def occupied (m : Mesh) : Finset ReplicaID :=
  m.content.attached ∪ idsWhere fun id =>
    m.active.any fun a => a.group = .attachment && a.replica = some id

end Mesh

/-- What a guard that passes says about the mesh. Guards about nodes, zones,
networks and sizes say nothing about it. -/
def Guard.Holds (env : Env) (m : Mesh) (x : Option ReplicaID) : Guard → Prop
  | .guardVotersEven => m.content.voters.card % 2 = 0
  | .guardVotersOdd => m.content.voters.card % 2 = 1
  | .guardQMRRaiseNeeded => m.content.quorumMinimumRedundancy < env.targetQMR
  | .guardQMRLowerNeeded => env.targetQMR < m.content.quorumMinimumRedundancy
  | .guardNotAttached => ∀ id, x = some id → id ∉ m.content.attached ∧ m.Free .attachmentSlot id
  | .guardMemberExists => ∀ id, x = some id → (m.content.seats id).isSome = true
  | .guardNoActiveMembershipTransition => ∀ id, x = some id → m.Free .membershipSlot id
  | .guardSlotAvailable => m.potentiallyAttached.card < env.maxAttachments
  | .guardCanDisableMultiattach => m.potentiallyAttached.card ≤ 1
  | .guardMaxAttachmentsAllowsMultiattach => 1 < env.maxAttachments
  | _ => True

def Admitted (m : Mesh) (group : TransitionGroup) (x : Option ReplicaID) : Prop :=
  (group ≠ .network → m.Idle .formation) ∧
  match group with
  | .votingMembership | .quorum => m.Idle .votingMembership ∧ m.Idle .quorum ∧ m.Idle .network
  | .attachment =>
    (m.potentiallyAttached \ x.toFinset).Nonempty →
      m.content.multiattach = true ∧ m.Idle .multiattach
  | .multiattach => m.Idle .multiattach
  | .network => m.Idle .network
  | .resize => m.Idle .resize
  | .formation | .nonVotingMembership | .emergency => True

end ReplicatedVolume.Datamesh
