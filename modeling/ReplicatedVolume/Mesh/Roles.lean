import ReplicatedVolume.Mesh.Readings

/-!
# Where plans leave their subjects

The role of a replica is whether it is a member and whether it votes; its base
is the replica type behind its member type. Plans are interpreted on either
alone.
-/

namespace ReplicatedVolume.Datamesh
open Dmte

variable {id : ReplicaID} {m m' : Mesh} {s : StepSpec} {spec : PlanSpec} {before : List MeshEvent}
  {ev : MeshEvent}

inductive Role where
  | absent | nonVoter | voter
  deriving DecidableEq

def memberRole (type : MemberType) : Role := if type.isVoter then .voter else .nonVoter

def Content.role (c : Content) (id : ReplicaID) : Role :=
  match c.seats id with
  | none => .absent
  | some s => memberRole s.type

def Apply.role (role : Role) : Apply → Role
  | .createMember type => memberRole type
  | .setType type => if role = .absent then .absent else memberRole type
  | .removeMember => .absent
  | _ => role

theorem mem_voters {c : Content} : id ∈ c.voters ↔ c.role id = .voter := by
  rw [Content.voters, mem_idsWhere, Content.role]
  cases c.seats id with
  | none => simp
  | some s => simp [memberRole]

theorem role_congr {c c' : Content} (h : c'.seats id = c.seats id) : c'.role id = c.role id := by
  rw [Content.role, Content.role, h]

def PlanSpec.startRole (spec : PlanSpec) : Role :=
  match spec.transitionType, spec.init with
  | .addReplica, _ => .absent
  | _, .setReplicaType source => if source = .diskful then .voter else .nonVoter
  | _, .setReplicaFromToType source _ => if source = .diskful then .voter else .nonVoter
  | _, _ => .nonVoter

theorem memberRole_eq (type : MemberType) :
    memberRole type = if baseType type = .diskful then .voter else .nonVoter := by
  cases type <;> rfl

def PlanSpec.startBase (spec : PlanSpec) : Option ReplicaType :=
  match spec.transitionType, spec.init with
  | .addReplica, _ => none
  | _, .setReplicaType source => some source
  | _, .setReplicaFromToType source _ => some source
  | _, _ => none

theorem startBase_of_startsAt {type : MemberType}
    (hadd : spec.transitionType ≠ .addReplica) (h : spec.startsAt type = true) :
    spec.startBase = some (baseType type) := by
  unfold PlanSpec.startsAt at h
  unfold PlanSpec.startBase
  cases hinit : spec.init with
  | nothing => simp [hinit] at h
  | setSystemNetworks => simp [hinit] at h
  | setReplicaType source | setReplicaFromToType source target =>
    simp only [hinit, decide_eq_true_eq] at h
    subst h
    cases htype : spec.transitionType <;> first | rfl | exact absurd htype hadd

theorem startRole_of_startBase {base : ReplicaType} (h : spec.startBase = some base) :
    spec.startRole = if base = .diskful then .voter else .nonVoter := by
  unfold PlanSpec.startBase at h
  unfold PlanSpec.startRole
  split at h <;> cases h <;> simp_all

section
variable {env : Env} (hspec : spec ∈ registry)
  (hslot : spec.scope = .replica ∧ spec.slot = .membershipSlot) (h : Chosen env m spec (some id))
include hspec hslot h

/-- A membership plan is decided on for a replica without a seat, if it adds it,
and for one with a seat that the plan leaves, otherwise. -/
theorem Chosen.seat :
    (spec.transitionType = .addReplica ∧ m.content.seats id = none) ∨
      (spec.transitionType ≠ .addReplica ∧ ∃ s, m.content.seats id = some s ∧
        spec.startsAt s.type = true) := by
  rcases registry_membership spec hspec hslot with htype | htype | htype | htype
  · simp only [Chosen, htype] at h
    obtain ⟨id', hid, hnone⟩ := h
    cases hid
    exact .inl ⟨htype, hnone⟩
  all_goals
    simp only [Chosen, htype] at h
    obtain ⟨id', s, hid, hs, hstart⟩ := h
    cases hid
    exact .inr ⟨by simp [htype], s, hs, hstart⟩

theorem Chosen.startRole : m.content.role id = spec.startRole := by
  rcases h.seat hspec hslot with ⟨htype, hnone⟩ | ⟨hadd, s, hs, hstart⟩
  · rw [Content.role, hnone, PlanSpec.startRole, htype]
  · rw [startRole_of_startBase (startBase_of_startsAt hadd hstart), Content.role, hs, ← memberRole_eq]

end

def roleReading : Reading Role where
  read seat := match seat with
    | none => .absent
    | some s => memberRole s.type
  step := Apply.role
  start := PlanSpec.startRole
  seat s a := by
    cases s with
    | none => cases a <;> rfl
    | some s =>
      cases a with
      | setType type =>
        by_cases hv : s.type.isVoter = true <;>
          simp [Apply.seat, Apply.role, memberRole, hv]
      | _ => rfl
  keep k a h := by cases a <;> first | rfl | cases h
  chosen _ _ _ _ hspec hslot h := h.startRole hspec hslot

def PlanSpec.roleAfter (spec : PlanSpec) (n : ℕ) : Role :=
  ((spec.steps.take n).flatMap (·.apply)).foldl Apply.role spec.startRole

theorem roleAfter_succ {n : ℕ} (h : spec.steps[n]? = some s) :
    spec.roleAfter (n + 1) = s.apply.foldl Apply.role (spec.roleAfter n) :=
  Reading.after_succ (R := roleReading) h

def Mesh.Placed (m : Mesh) : Prop :=
  ∀ a ∈ m.active, ∀ spec id, a.spec = some spec → a.slot = some (.membershipSlot, id) →
    m.content.role id = spec.roleAfter (a.idx + 1)

section
variable {env : Env} {c : Content} {id : ReplicaID} {x : Option ReplicaID}

theorem applyAll_role_self (callbacks : List Apply) :
    (applyAll env (some id) callbacks c).role id = callbacks.foldl Apply.role (c.role id) :=
  applyAll_read_self roleReading callbacks

theorem applyAll_role_keeps {callbacks : List Apply} (h : callbacks.all Apply.keepsRole = true) :
    (applyAll env x callbacks c).role id = c.role id :=
  applyAll_read_keeps roleReading h

theorem role_frame {a : Active} (hspec : a.spec = some spec)
    (hs : s ∈ spec.steps) (hslot : a.slot ≠ some (.membershipSlot, id)) :
    (applyAll env a.replica s.apply c).role id = c.role id :=
  read_frame roleReading hspec hs hslot

theorem MeshStep.placed
    (hstep : MeshStep env before m ev m') (hcoherent : m.Coherent) (h : m.Placed) : m'.Placed :=
  MeshStep.read (R := roleReading) hstep hcoherent h

end

def Content.base (c : Content) (id : ReplicaID) : Option ReplicaType :=
  (c.seats id).map fun s => baseType s.type

def Apply.base (base : Option ReplicaType) : Apply → Option ReplicaType
  | .createMember type => some (baseType type)
  | .setType type => base.map fun _ => baseType type
  | .removeMember => none
  | _ => base

theorem Chosen.startBase {env : Env} (hspec : spec ∈ registry)
    (hslot : spec.scope = .replica ∧ spec.slot = .membershipSlot)
    (h : Chosen env m spec (some id)) : m.content.base id = spec.startBase := by
  rcases h.seat hspec hslot with ⟨htype, hnone⟩ | ⟨hadd, s, hs, hstart⟩
  · rw [Content.base, hnone, PlanSpec.startBase, htype]
    rfl
  · rw [startBase_of_startsAt hadd hstart, Content.base, hs]
    rfl

def baseReading : Reading (Option ReplicaType) where
  read seat := seat.map fun s : Seat => baseType s.type
  step := Apply.base
  start := PlanSpec.startBase
  seat s a := by cases s <;> cases a <;> rfl
  keep k a h := by cases a <;> first | rfl | cases h
  chosen _ _ _ _ hspec hslot h := h.startBase hspec hslot

def PlanSpec.baseAfter (spec : PlanSpec) (n : ℕ) : Option ReplicaType :=
  ((spec.steps.take n).flatMap (·.apply)).foldl Apply.base spec.startBase

def Mesh.Based (m : Mesh) : Prop :=
  ∀ a ∈ m.active, ∀ spec id, a.spec = some spec → a.slot = some (.membershipSlot, id) →
    m.content.base id = spec.baseAfter (a.idx + 1)

theorem MeshStep.based {env : Env}
    (hstep : MeshStep env before m ev m') (hcoherent : m.Coherent) (h : m.Based) : m'.Based :=
  MeshStep.read (R := baseReading) hstep hcoherent h

end ReplicatedVolume.Datamesh
