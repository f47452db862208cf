import ReplicatedVolume.Datamesh.Layout
import ReplicatedVolume.Replica.Membership

/-!
# The backing volume of a replica

A member that needs a backing volume has it where the datamesh says, a replica that is no member
where its spec says, if the pool accepts that. A diskless member that is to become diskful takes the
storage of its spec as it is.
-/

namespace ReplicatedVolume.Replica
open Datamesh (alignTo4Ki lowerVolumeSize)

structure BackingVolume where
  llvName : String
  lvmVolumeGroupName : String
  thinPoolName : String
  size : ℤ

inductive BackingVolumeReason where
  | notApplicable | pendingScheduling | waitingForReplicatedVolume

/-- What `computeIntendedBackingVolume` reads of the volume: its member for the replica, the size
of the spec and that of the datamesh. -/
structure VolumeState where
  member : Option DatameshMember
  size : ℕ
  datameshSize : ℕ
  datameshRevision : ℕ

def specNeedsBV : ReplicaType → Bool
  | .diskful | .shadowDiskful => true
  | _ => false

section
variable (checksum : String → String → String) (name : String) (rvr : ReplicaObject)
  (rv : VolumeState) (actual : Option BackingVolume) (rspView : Option RspEligibilityView)

/-- The volume group and thin pool, or the reason and message why there is none. -/
def intendedStorage : Except (BackingVolumeReason × String) (String × String) :=
  match rv.member with
  | some member =>
    if !member.type.needsBackingVolume then
      if !specNeedsBV rvr.type then
        .error (.notApplicable, "Backing volume is not applicable for diskless replica type")
      else .ok (rvr.lvmVolumeGroupName, rvr.lvmVolumeGroupThinPoolName)
    else if member.lvmVolumeGroupName = "" then
      .error (.pendingScheduling, "Waiting for storage assignment")
    else .ok (member.lvmVolumeGroupName, member.lvmVolumeGroupThinPoolName)
  | none =>
    if rvr.deleting then
      .error (.notApplicable, "Backing volume is not applicable for deleting replica")
    else if rvr.type ≠ .diskful then
      .error (.notApplicable, "Backing volume is not applicable for diskless replica type")
    else if rvr.nodeName = "" then .error (.pendingScheduling, "Waiting for node assignment")
    else if rvr.lvmVolumeGroupName = "" then
      .error (.pendingScheduling, "Waiting for storage assignment")
    else
      match isStorageEligible rspView rvr.lvmVolumeGroupName rvr.lvmVolumeGroupThinPoolName with
      | (.ok, _) => .ok (rvr.lvmVolumeGroupName, rvr.lvmVolumeGroupThinPoolName)
      | (.rspNotAvailable, msg) => .error (.waitingForReplicatedVolume, msg)
      | (_, msg) => .error (.pendingScheduling, msg)

/-- There is no result when the size has no lower volume. -/
def computeIntendedBackingVolume : Option (Except (BackingVolumeReason × String) BackingVolume) :=
  match intendedStorage rvr rv rspView with
  | .error e => some (.error e)
  | .ok (lvg, thin) => do
    let size ← lowerVolumeSize (max (alignTo4Ki rv.datameshSize) (alignTo4Ki rv.size))
    let same := actual.filter fun a => a.lvmVolumeGroupName = lvg ∧ a.thinPoolName = thin
    some (.ok ⟨(same.map (·.llvName)).getD (name ++ "-" ++ checksum lvg thin), lvg, thin, size⟩)

/-- The volume that a pass of `reconcileBackingVolume` creates, given the names of those there. -/
def createdLLV (shouldNotExist : Bool) (llvs : List String) : Option BackingVolume :=
  if shouldNotExist ∨ rv.datameshRevision = 0 then none
  else
    match computeIntendedBackingVolume checksum name rvr rv actual rspView with
    | some (.ok intended) => if intended.llvName ∈ llvs then none else some intended
    | _ => none

/-- What the API demands of a spec. -/
def SpecValid : Prop :=
  (rvr.type = .access → rvr.nodeName ≠ "") ∧
    (rvr.lvmVolumeGroupName ≠ "" → rvr.nodeName ≠ "" ∧ rvr.type = .diskful) ∧
    (rvr.lvmVolumeGroupThinPoolName ≠ "" → rvr.lvmVolumeGroupName ≠ "")

/-- A volume group is given, as the datamesh has it or accepted by the pool. -/
def Assigned (lvg thin : String) : Prop :=
  lvg ≠ "" ∧ ((∃ m ∈ rv.member, lvg = m.lvmVolumeGroupName ∧ thin = m.lvmVolumeGroupThinPoolName) ∨
    (isStorageEligible rspView lvg thin).1 = .ok)

/-- The member is diskless, the spec is not. -/
def Vestibule : Prop :=
  (∃ m ∈ rv.member, m.type.needsBackingVolume = false) ∧ specNeedsBV rvr.type

theorem intendedStorage_assigned {lvg thin : String}
    (h : intendedStorage rvr rv rspView = .ok (lvg, thin)) :
    Vestibule rvr rv ∧ lvg = rvr.lvmVolumeGroupName ∧ thin = rvr.lvmVolumeGroupThinPoolName ∨
      ¬Vestibule rvr rv ∧ Assigned rv rspView lvg thin := by
  unfold intendedStorage at h
  unfold Vestibule Assigned
  cases hm : rv.member with
  | some m => cases htype : m.type.needsBackingVolume <;> grind
  | none =>
    cases heligible : isStorageEligible rspView rvr.lvmVolumeGroupName
      rvr.lvmVolumeGroupThinPoolName
    grind

/-- A backing volume is intended only on assigned storage, and created only where intended, exactly
when a replica on its way to a disk already has storage that the pool accepts. -/
theorem storage_assigned_iff :
    ((∀ bv, computeIntendedBackingVolume checksum name rvr rv actual rspView = some (.ok bv) →
        Assigned rv rspView bv.lvmVolumeGroupName bv.thinPoolName) ↔
      (Vestibule rvr rv →
        (lowerVolumeSize (max (alignTo4Ki rv.datameshSize) (alignTo4Ki rv.size))).isSome →
        Assigned rv rspView rvr.lvmVolumeGroupName rvr.lvmVolumeGroupThinPoolName)) ∧
    ∀ shouldNotExist llvs bv,
      createdLLV checksum name rvr rv actual rspView shouldNotExist llvs = some bv →
      computeIntendedBackingVolume checksum name rvr rv actual rspView = some (.ok bv) := by
  refine ⟨⟨fun h hv hsize => ?_, fun h bv hbv => ?_⟩, fun shouldNotExist llvs bv hbv => ?_⟩
  · obtain ⟨size, hsize⟩ := Option.isSome_iff_exists.mp hsize
    obtain ⟨⟨m, hm, htype⟩, hspec⟩ := hv
    have hstorage : intendedStorage rvr rv rspView =
        .ok (rvr.lvmVolumeGroupName, rvr.lvmVolumeGroupThinPoolName) := by
      rw [Option.mem_def] at hm
      simp [intendedStorage, hm, htype, hspec]
    exact h ⟨_, _, _, size⟩ (by rw [computeIntendedBackingVolume, hstorage, hsize]; rfl)
  · unfold computeIntendedBackingVolume at hbv
    cases hstorage : intendedStorage rvr rv rspView with
    | error e => simp [hstorage] at hbv
    | ok storage =>
      simp only [hstorage, Option.bind_eq_bind, Option.bind_eq_some_iff, Option.some.injEq,
        Except.ok.injEq] at hbv
      obtain ⟨size, hsize, rfl⟩ := hbv
      rcases intendedStorage_assigned rvr rv rspView hstorage with ⟨hv, hlvg, hthin⟩ | ⟨-, h⟩
      · rw [hlvg, hthin]
        exact h hv (by simp [hsize])
      · exact h
  · unfold createdLLV at hbv
    grind

end

/-- A tie-breaker of the datamesh is retyped before it has storage. -/
theorem retyped_before_scheduling :
    let tieBreaker : ReplicaObject := ⟨0, false, "node-a", .tieBreaker, "", "", 1, none, none⟩
    let diskful : ReplicaObject := { tieBreaker with type := .diskful }
    let rv : VolumeState := ⟨some ⟨0, .tieBreaker, "node-a", "", [], "", "", false⟩, 4096, 4096, 1⟩
    SpecValid tieBreaker ∧ SpecValid diskful ∧
      (createdLLV (fun _ _ => "0") "rv-0" diskful rv none none false []).map
        (·.lvmVolumeGroupName) = some "" := by
  refine ⟨by simp [SpecValid], by simp [SpecValid], by decide +kernel⟩

end ReplicatedVolume.Replica
