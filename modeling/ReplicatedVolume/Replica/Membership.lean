import ReplicatedVolume.Agent.Objects
import ReplicatedVolume.Scheduling.Candidates
import ReplicatedVolume.Volume.Objects

/-!
# What a replica asks of its datamesh

The replica controller checks the storage of a replica against the pool and derives the request
to the datamesh from the spec and from what DRBD reports. It finds the thin pool of a volume group
only in the first entry of that group, and it cannot tell apart members that look the same to DRBD.
-/

namespace ReplicatedVolume.Replica
open List
open Agent (ResourceType)
open Scheduling (PoolType EligibleLVG EligibleNode takeLVGsFromEligibleNodes)
open Volume (MembershipRequest quoted)

structure RspEligibilityView where
  type : PoolType
  eligibleNode : Option EligibleNode
  deriving DecidableEq

inductive StorageEligibilityCode where
  | ok | rspNotAvailable | nodeNotEligible | typeMismatch | lvgNotEligible | thinPoolNotEligible
  deriving DecidableEq

def findLVG (type : PoolType) (lvgName thinPool : String) :
    List EligibleLVG → Option (StorageEligibilityCode × String)
  | [] => none
  | lvg :: lvgs =>
    if lvg.name = lvgName then
      if type = .lvm then some (.ok, "")
      else if lvg.thinPoolName = thinPool then some (.ok, "")
      else some (.thinPoolNotEligible, "LVG " ++ quoted lvgName ++ " found but ThinPool " ++
        quoted thinPool ++ " is not eligible on node")
    else findLVG type lvgName thinPool lvgs

def isStorageEligible (v : Option RspEligibilityView) (lvgName thinPool : String) :
    StorageEligibilityCode × String :=
  match v with
  | none => (.rspNotAvailable, "ReplicatedStoragePool not found; waiting for it to be present")
  | some v =>
    match v.eligibleNode with
    | none => (.nodeNotEligible, "Node is not eligible in RSP")
    | some node =>
      if v.type = .lvm ∧ thinPool ≠ "" then
        (.typeMismatch, "ThinPool " ++ quoted thinPool ++
          " specified but RSP type is LVM (thick); waiting for correct storage assignment")
      else if v.type = .lvmThin ∧ thinPool = "" then
        (.typeMismatch, "ThinPool not specified but RSP type is LVMThin; " ++
          "waiting for correct storage assignment")
      else
        (findLVG v.type lvgName thinPool node.lvmVolumeGroups).getD
          (.lvgNotEligible, if v.type = .lvmThin then
            "LVG " ++ quoted lvgName ++ " with ThinPool " ++ quoted thinPool ++
              " is not eligible on node"
          else "LVG " ++ quoted lvgName ++ " is not eligible on node")

def Listed (type : PoolType) (lvgs : List EligibleLVG) (lvgName thinPool : String) : Prop :=
  ∃ lvg ∈ lvgs, lvg.name = lvgName ∧ (type = .lvmThin → lvg.thinPoolName = thinPool)

def FirstListed (lvgs : List EligibleLVG) (lvgName thinPool : String) : Prop :=
  ∀ lvg, lvgs.find? (·.name = lvgName) = some lvg → lvg.thinPoolName = thinPool

section
variable {type : PoolType} {lvgs : List EligibleLVG} {lvgName thinPool : String}

theorem findLVG_eq : findLVG type lvgName thinPool lvgs =
    (lvgs.find? (·.name = lvgName)).map fun lvg =>
      if type = .lvm ∨ lvg.thinPoolName = thinPool then (.ok, "")
      else (.thinPoolNotEligible, "LVG " ++ quoted lvgName ++ " found but ThinPool " ++
        quoted thinPool ++ " is not eligible on node") := by
  induction lvgs with
  | nil => rfl
  | cons lvg lvgs ih =>
    by_cases hname : lvg.name = lvgName
    · simp only [findLVG, hname, List.find?_cons, decide_true, Option.map_some]
      split_ifs <;> simp_all
    · simp only [findLVG, hname, List.find?_cons, decide_false, if_false, ih]

theorem listed_iff_find (h : type = .lvm ∨ FirstListed lvgs lvgName thinPool) :
    Listed type lvgs lvgName thinPool ↔ (lvgs.find? (·.name = lvgName)).isSome = true := by
  constructor
  · rintro ⟨lvg, hmem, hname, -⟩
    rw [List.find?_isSome]
    exact ⟨lvg, hmem, by simpa using hname⟩
  · intro hfound
    obtain ⟨lvg, hlvg⟩ := Option.isSome_iff_exists.mp hfound
    refine ⟨lvg, mem_of_find?_eq_some hlvg, by simpa using List.find?_some hlvg, ?_⟩
    rintro rfl
    exact (h.resolve_left (by simp)) lvg hlvg

theorem isStorageEligible_ok {node : EligibleNode} :
    (isStorageEligible (some ⟨type, some node⟩) lvgName thinPool).1 = .ok ↔
      (thinPool = "" ↔ type = .lvm) ∧ Listed type node.lvmVolumeGroups lvgName thinPool ∧
        (type = .lvmThin → FirstListed node.lvmVolumeGroups lvgName thinPool) := by
  simp only [isStorageEligible, findLVG_eq]
  cases type with
  | lvm =>
    by_cases hthin : thinPool = ""
    · have hlisted : Listed .lvm node.lvmVolumeGroups lvgName thinPool ↔ _ :=
        listed_iff_find (.inl rfl)
      cases hfind : node.lvmVolumeGroups.find? (·.name = lvgName) <;>
        simp [hthin, hfind] at hlisted ⊢ <;> exact hlisted
    · simp [hthin]
  | lvmThin =>
    by_cases hthin : thinPool = ""
    · simp [hthin]
    · by_cases hfirst : FirstListed node.lvmVolumeGroups lvgName thinPool
      · have hlisted : Listed .lvmThin node.lvmVolumeGroups lvgName thinPool ↔ _ :=
          listed_iff_find (.inr hfirst)
        cases hfind : node.lvmVolumeGroups.find? (·.name = lvgName) with
        | none => simp [hthin, hfind] at hlisted ⊢; tauto
        | some lvg =>
          have := hfirst lvg hfind
          simp [hthin, hfind, this] at hlisted ⊢
          exact ⟨hlisted, hfirst⟩
      · simp only [hthin, hfirst]
        unfold FirstListed at hfirst
        push Not at hfirst
        obtain ⟨lvg, hfind, hne⟩ := hfirst
        simp [hfind, hne]

end

/-- The replica object; `statusType` is empty while DRBD has not reported, `backingVolume` is the
volume group and thin pool that it reports. -/
structure ReplicaObject where
  id : ReplicaID
  deleting : Bool
  nodeName : String
  type : ReplicaType
  lvmVolumeGroupName : String
  lvmVolumeGroupThinPoolName : String
  datameshRevision : ℕ
  statusType : Option ResourceType
  backingVolume : Option (String × String)
  deriving DecidableEq

structure VolumeView where
  datameshRevision : ℕ
  hasConfiguration : Bool
  deriving DecidableEq

def typeName : ReplicaType → String
  | .diskful => "Diskful"
  | .shadowDiskful => "ShadowDiskful"
  | .tieBreaker => "TieBreaker"
  | .access => "Access"

def requestFor (operation : RequestOperation) (rvr : ReplicaObject) : MembershipRequest :=
  if rvr.type = .diskful then
    ⟨operation, some rvr.type, rvr.lvmVolumeGroupName, rvr.lvmVolumeGroupThinPoolName⟩
  else ⟨operation, some rvr.type, "", ""⟩

def typeInSync (rvr : ReplicaObject) : Bool :=
  match rvr.type with
  | .diskful => rvr.statusType = some .diskful
  | .access | .tieBreaker => rvr.statusType = some .diskless
  | .shadowDiskful => false

/-- The request once nothing is waited for: to join, to change what is not as in the spec, or
none. -/
def requestOfEligible (rvr : ReplicaObject) : Option MembershipRequest × String × String :=
  if rvr.datameshRevision = 0 then
    (some (requestFor .join rvr), "PendingJoin",
      "Waiting to join datamesh as " ++ typeName rvr.type)
  else if !typeInSync rvr then
    (some (requestFor .changeRole rvr), "PendingRoleChange",
      "Waiting to change role to " ++ typeName rvr.type)
  else if rvr.type = .diskful ∧ rvr.backingVolume ≠
      some (rvr.lvmVolumeGroupName, rvr.lvmVolumeGroupThinPoolName) then
    (some ⟨.changeBackingVolume, none, rvr.lvmVolumeGroupName, rvr.lvmVolumeGroupThinPoolName⟩,
      "PendingBackingVolumeChange",
      "Waiting to change backing volume to " ++ rvr.lvmVolumeGroupName ++
        if rvr.lvmVolumeGroupThinPoolName ≠ "" then "/" ++ rvr.lvmVolumeGroupThinPoolName else "")
  else (none, "Configured", "Replica is configured as intended")

def computeTargetDatameshRequest (rvr : ReplicaObject) (rv : Option VolumeView)
    (rspView : Option RspEligibilityView) : Option MembershipRequest × String × String :=
  if rvr.deleting then
    if rvr.datameshRevision ≠ 0 then
      (some ⟨.leave, none, "", ""⟩, "PendingLeave",
        "Deletion in progress, waiting to leave datamesh")
    else (none, "", "")
  else
    match rv, rspView with
    | none, _ => (none, "WaitingForReplicatedVolume",
        "ReplicatedVolume not found; waiting for it to be present")
    | some rv, rspView =>
      if rv.datameshRevision = 0 then
        (none, "WaitingForReplicatedVolume",
          "Datamesh is not initialized yet; waiting for ReplicatedVolume to initialize it")
      else if !rv.hasConfiguration then
        (none, "WaitingForReplicatedVolume",
          "ReplicatedVolume has no configuration yet; waiting for it to appear")
      else if rvr.nodeName = "" then (none, "PendingScheduling", "Waiting for node assignment")
      else if rvr.type = .diskful ∧ rvr.lvmVolumeGroupName = "" then
        (none, "PendingScheduling", "Waiting for storage assignment")
      else
        match rspView with
        | none => (none, "WaitingForReplicatedVolume",
            "ReplicatedStoragePool not found; waiting for it to be present")
        | some view =>
          if view.eligibleNode = none then
            (none, "NodeNotEligible",
              "Node " ++ quoted rvr.nodeName ++ " is not eligible in storage pool")
          else
            let storage := if rvr.type = .diskful then
                isStorageEligible (some view) rvr.lvmVolumeGroupName rvr.lvmVolumeGroupThinPoolName
              else (.ok, "")
            match storage with
            | (.ok, _) => requestOfEligible rvr
            | (.rspNotAvailable, message) => (none, "WaitingForReplicatedVolume", message)
            | (.nodeNotEligible, message) => (none, "NodeNotEligible", message)
            | (_, message) => (none, "StorageNotEligible", message)

structure Placed (rvr : ReplicaObject) (rv : VolumeView) : Prop where
  alive : rvr.deleting = false
  initialized : rv.datameshRevision ≠ 0
  configuration : rv.hasConfiguration = true
  node : rvr.nodeName ≠ ""
  group : rvr.type = .diskful → rvr.lvmVolumeGroupName ≠ ""

/-- A placed replica gets what its status asks for, or nothing if its storage is not accepted. -/
theorem request_of_placed {rvr : ReplicaObject} {rv : VolumeView} {view : RspEligibilityView}
    (h : Placed rvr rv) (heligible : view.eligibleNode ≠ none) :
    ((rvr.type = .diskful → (isStorageEligible (some view) rvr.lvmVolumeGroupName
        rvr.lvmVolumeGroupThinPoolName).1 = .ok) →
      computeTargetDatameshRequest rvr (some rv) (some view) = requestOfEligible rvr) ∧
    (rvr.type = .diskful → (isStorageEligible (some view) rvr.lvmVolumeGroupName
        rvr.lvmVolumeGroupThinPoolName).1 ≠ .ok →
      (computeTargetDatameshRequest rvr (some rv) (some view)).1 = none) := by
  unfold computeTargetDatameshRequest
  have hgroup : ¬(rvr.type = .diskful ∧ rvr.lvmVolumeGroupName = "") :=
    fun hmissing => h.group hmissing.1 hmissing.2
  simp only [h.alive, Bool.false_eq_true, if_false, h.initialized, h.configuration, Bool.not_true,
    h.node, hgroup, heligible]
  by_cases hdiskful : rvr.type = .diskful
  · simp only [hdiskful, if_true, true_imp_iff]
    obtain ⟨code, message⟩ := isStorageEligible (some view) rvr.lvmVolumeGroupName
      rvr.lvmVolumeGroupThinPoolName
    cases code <;> simp
  · simp [hdiskful]

/-- The answer is right for a volume group and thin pool unless the pair is listed and either the
thin pool does not fit the type of the pool or an earlier entry has the name with another thin
pool. Every candidate of a node is accepted exactly if this happens to none of its entries, and a
new replica that is placed there asks to join exactly if it is accepted. -/
theorem storage_eligibility (type : PoolType) (node : EligibleNode) :
    (∀ lvgName thinPool,
      ((isStorageEligible (some ⟨type, some node⟩) lvgName thinPool).1 = .ok ↔
          Listed type node.lvmVolumeGroups lvgName thinPool) ↔
        (Listed type node.lvmVolumeGroups lvgName thinPool →
          (thinPool = "" ↔ type = .lvm) ∧
          (type = .lvmThin → FirstListed node.lvmVolumeGroups lvgName thinPool))) ∧
    ((∀ c ∈ takeLVGsFromEligibleNodes [node],
        (isStorageEligible (some ⟨type, some c.node⟩) c.lvgName c.thinPoolName).1 = .ok) ↔
      ∀ lvg ∈ node.lvmVolumeGroups, (lvg.thinPoolName = "" ↔ type = .lvm) ∧
        (type = .lvmThin → FirstListed node.lvmVolumeGroups lvg.name lvg.thinPoolName)) ∧
    ∀ rvr rv, Placed rvr rv → rvr.type = .diskful → rvr.datameshRevision = 0 →
      ((computeTargetDatameshRequest rvr (some rv) (some ⟨type, some node⟩)).1 =
          some (requestFor .join rvr) ↔
        (isStorageEligible (some ⟨type, some node⟩) rvr.lvmVolumeGroupName
          rvr.lvmVolumeGroupThinPoolName).1 = .ok) := by
  refine ⟨?_, ?_, fun rvr rv hplaced hdiskful hnew => ?_⟩
  · intro lvgName thinPool
    rw [isStorageEligible_ok]
    tauto
  · simp only [takeLVGsFromEligibleNodes, flatMap_cons, flatMap_nil, append_nil,
      forall_mem_map]
    refine forall₂_congr fun lvg hlvg => ?_
    have hlisted : Listed type node.lvmVolumeGroups lvg.name lvg.thinPoolName :=
      ⟨lvg, hlvg, rfl, fun _ => rfl⟩
    change (isStorageEligible (some ⟨type, some node⟩) lvg.name lvg.thinPoolName).1 = .ok ↔ _
    rw [isStorageEligible_ok]
    tauto
  · obtain ⟨hasks, hwaits⟩ := request_of_placed hplaced
      (nofun : (⟨type, some node⟩ : RspEligibilityView).eligibleNode ≠ none)
    refine ⟨fun hjoin => by_contra fun hno => ?_, fun hok => ?_⟩
    · cases hjoin.symm.trans (hwaits hdiskful hno)
    · rw [hasks fun _ => hok, requestOfEligible, if_pos hnew]

/-- Two thin pools in one volume group: the scheduler may choose the second one, whose replica
then waits for its storage. -/
def twoThinPools : EligibleNode where
  nodeName := "a"
  zoneName := ""
  lvmVolumeGroups := [⟨"vg", "one", false, true⟩, ⟨"vg", "two", false, true⟩]
  unschedulable := false
  nodeReady := true
  agentReady := true

theorem second_thin_pool_refused :
    (∃ c ∈ takeLVGsFromEligibleNodes [twoThinPools], c.lvgName = "vg" ∧ c.thinPoolName = "two") ∧
    Listed .lvmThin twoThinPools.lvmVolumeGroups "vg" "two" ∧
    computeTargetDatameshRequest ⟨0, false, "a", .diskful, "vg", "two", 0, none, none⟩
        (some ⟨1, true⟩) (some ⟨.lvmThin, some twoThinPools⟩) =
      (none, "StorageNotEligible",
        "LVG \"vg\" found but ThinPool \"two\" is not eligible on node") :=
  ⟨⟨_, mem_cons_of_mem _ mem_cons_self, rfl, rfl⟩,
    ⟨_, mem_cons_of_mem _ mem_cons_self, rfl, fun _ => rfl⟩, by decide⟩

structure Prerequisites (rvr : ReplicaObject) (rv : VolumeView) (view : RspEligibilityView) : Prop
    extends Placed rvr rv where
  member : rvr.datameshRevision ≠ 0
  eligible : view.eligibleNode ≠ none
  storage : rvr.type = .diskful → (isStorageEligible (some view) rvr.lvmVolumeGroupName
    rvr.lvmVolumeGroupThinPoolName).1 = .ok

def computeDRBDRType (type : MemberType) : ResourceType :=
  if type.hasBackingVolume then .diskful else .diskless

def memberTypeOf : ReplicaType → MemberType
  | .diskful => .diskful
  | .shadowDiskful => .shadowDiskful
  | .tieBreaker => .tieBreaker
  | .access => .access

/-- DRBD runs with the type and the volume of the member, and the status tells so. -/
structure Settled (rvr : ReplicaObject) (m : DatameshMember) : Prop where
  type : rvr.statusType = some (computeDRBDRType m.type)
  volume : m.type.hasBackingVolume = true →
    rvr.backingVolume = some (m.lvmVolumeGroupName, m.lvmVolumeGroupThinPoolName)

def AsIntended (rvr : ReplicaObject) (m : DatameshMember) : Prop :=
  m.type = memberTypeOf rvr.type ∧ (rvr.type = .diskful →
    m.lvmVolumeGroupName = rvr.lvmVolumeGroupName ∧
      m.lvmVolumeGroupThinPoolName = rvr.lvmVolumeGroupThinPoolName)

section
variable {rvr : ReplicaObject} {rv : VolumeView} {view : RspEligibilityView}

theorem typeInSync_iff (hspec : rvr.type ≠ .shadowDiskful) : typeInSync rvr = true ↔
    rvr.statusType = some (computeDRBDRType (memberTypeOf rvr.type)) := by
  unfold typeInSync
  cases htype : rvr.type <;> simp_all [memberTypeOf, computeDRBDRType, MemberType.hasBackingVolume]

/-- A settled member other than the spec wants gets its request, and the replica is configured
only as intended, unless DRBD runs the member as it would run the one of the spec. Whether it is
listed at all is not asked: DRBD as the spec wants it is configured. -/
theorem requests_converge (h : Prerequisites rvr rv view) (hspec : rvr.type ≠ .shadowDiskful) :
    (∀ m, Settled rvr m →
      ((m.type ≠ memberTypeOf rvr.type →
          (computeTargetDatameshRequest rvr (some rv) (some view)).1 =
            some (requestFor .changeRole rvr)) ↔
        (m.type ≠ memberTypeOf rvr.type →
          computeDRBDRType m.type ≠ computeDRBDRType (memberTypeOf rvr.type))) ∧
      (((computeTargetDatameshRequest rvr (some rv) (some view)).2.1 = "Configured" →
          AsIntended rvr m) ↔
        (computeDRBDRType m.type = computeDRBDRType (memberTypeOf rvr.type) →
          m.type = memberTypeOf rvr.type ∨ (rvr.type = .diskful ∧ rvr.backingVolume ≠
            some (rvr.lvmVolumeGroupName, rvr.lvmVolumeGroupThinPoolName))))) ∧
    ((computeTargetDatameshRequest rvr (some rv) (some view)).2.1 = "Configured" ↔
      rvr.statusType = some (computeDRBDRType (memberTypeOf rvr.type)) ∧
        (rvr.type = .diskful → rvr.backingVolume =
          some (rvr.lvmVolumeGroupName, rvr.lvmVolumeGroupThinPoolName))) := by
  rw [(request_of_placed h.toPlaced h.eligible).1 h.storage, ← typeInSync_iff hspec]
  unfold requestOfEligible
  rw [if_neg h.member]
  have hsettled {m : DatameshMember} (hset : Settled rvr m) : typeInSync rvr = true ↔
      computeDRBDRType m.type = computeDRBDRType (memberTypeOf rvr.type) := by
    rw [typeInSync_iff hspec, hset.type, Option.some.injEq]
  cases htype : typeInSync rvr with
  | false =>
    simp only [htype] at hsettled
    simp only [Bool.not_false, if_true]
    refine ⟨fun m hset => ?_, by simp⟩
    have hsync := hsettled hset
    exact ⟨by tauto, by simp; tauto⟩
  | true =>
    simp only [Bool.not_true, Bool.false_eq_true, if_false]
    split
    · next hother =>
        refine ⟨fun m hset => ⟨?_, fun _ _ => .inr hother, by simp⟩, by simpa using hother⟩
        have hsame := (hsettled hset).mp htype
        have hrequest : (requestFor .changeRole rvr).operation = .changeRole := by
          unfold requestFor
          split <;> rfl
        have hne : some (⟨.changeBackingVolume, none, rvr.lvmVolumeGroupName,
            rvr.lvmVolumeGroupThinPoolName⟩ : MembershipRequest) ≠
              some (requestFor .changeRole rvr) := by
          intro heq
          rw [← Option.some.inj heq] at hrequest
          cases hrequest
        tauto
    · next hvolume =>
        refine ⟨fun m hset => ?_, by simpa using hvolume⟩
        have hsame := (hsettled hset).mp htype
        have hintended : AsIntended rvr m ↔ m.type = memberTypeOf rvr.type := by
          refine ⟨And.left, fun hmember => ⟨hmember, fun hdiskful => ?_⟩⟩
          rw [hdiskful] at hmember
          have hreported := hset.volume (by rw [hmember]; rfl)
          rw [not_and, not_not] at hvolume
          rw [hvolume hdiskful] at hreported
          simp only [Option.some.injEq, Prod.mk.injEq] at hreported
          exact ⟨hreported.1.symm, hreported.2.symm⟩
        simp only [hintended, hsame, hvolume]
        exact ⟨by simp, by simp⟩

end

def settledReplica (type : ReplicaType) (statusType : ResourceType) : ReplicaObject :=
  ⟨0, false, "a", type, "vg", "one", 1, some statusType, some ("vg", "one")⟩

theorem settledReplica_prerequisites (type : ReplicaType) (statusType : ResourceType) :
    Prerequisites (settledReplica type statusType) ⟨1, true⟩ ⟨.lvmThin, some twoThinPools⟩ :=
  ⟨⟨rfl, by simp, rfl, by simp [settledReplica], by simp [settledReplica]⟩,
    by simp [settledReplica], by simp, fun _ => by simp only [settledReplica]; decide⟩

theorem requests_converge_retyped :
    (computeTargetDatameshRequest (settledReplica .diskful .diskless) (some ⟨1, true⟩)
      (some ⟨.lvmThin, some twoThinPools⟩)).1 =
        some (requestFor .changeRole (settledReplica .diskful .diskless)) :=
  ((requests_converge (settledReplica_prerequisites .diskful .diskless) (by decide)).1
    ⟨0, .tieBreaker, "a", "", [], "", "", false⟩ ⟨rfl, nofun⟩).1.mpr (by decide) (by decide)

/-- A tie-breaker that is to be an Access replica is told that it is configured. -/
theorem retyped_diskless_member_kept :
    Settled (settledReplica .access .diskless) ⟨0, .tieBreaker, "a", "", [], "", "", false⟩ ∧
      computeTargetDatameshRequest (settledReplica .access .diskless) (some ⟨1, true⟩)
          (some ⟨.lvmThin, some twoThinPools⟩) =
        (none, "Configured", "Replica is configured as intended") :=
  ⟨⟨rfl, nofun⟩, by decide⟩

end ReplicatedVolume.Replica
