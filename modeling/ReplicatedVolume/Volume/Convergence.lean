import ReplicatedVolume.Volume.Formation

/-!
# Layout convergence

A formed volume whose members differ from the intended layout in one of two ways is led there: with
too many Diskful members one of them is retyped, with a tie-breaker missing or leaving one is
created. The decision comes with a report for the condition `MembershipLayoutConverged`.
-/

namespace ReplicatedVolume.Volume
open Datamesh Dmte List

def isLayoutDiskful (type : MemberType) : Bool := type = .diskful || type = .liminalDiskful

def computeActualLayout (rv : VolumeObject) : ℕ × ℕ :=
  (rv.datamesh.members.countP (isLayoutDiskful ·.type),
    rv.datamesh.members.countP (·.type = .tieBreaker))

def formatLayout (diskful tiebreakers : ℕ) : String :=
  if tiebreakers = 0 then toString diskful ++ "D"
  else toString diskful ++ "D+" ++ toString tiebreakers ++ "TB"

def isLayoutReplicaType : Option ReplicaType → Bool
  | some .diskful | some .tieBreaker => true
  | _ => false

def hasLayoutChangingTransition (rv : VolumeObject) : Bool :=
  rv.datameshTransitions.any fun t =>
    match t.type with
    | .addReplica | .removeReplica | .forceRemoveReplica => isLayoutReplicaType t.replicaType
    | .changeReplicaType =>
      isLayoutReplicaType t.fromReplicaType || isLayoutReplicaType t.toReplicaType
    | _ => false

def findRVRByName (rvrs : List Replica) (id : ReplicaID) : Option Replica := rvrs.find? (·.id = id)

def findMemberByName (rv : VolumeObject) (id : ReplicaID) : Option DatameshMember :=
  rv.datamesh.members.find? (·.id = id)

def sortedNames (rv : VolumeObject) (members : List DatameshMember) : List String :=
  (members.map fun m => replicaName rv.name m.id).insertionSort (· ≤ ·)

def isRetypePending (rvrs : List Replica) (m : DatameshMember) : Bool :=
  isLayoutDiskful m.type && (findRVRByName rvrs m.id).any (·.type = .tieBreaker)

def pendingRetypeToTieBreakerMemberNames (rv : VolumeObject) (rvrs : List Replica) : List String :=
  sortedNames rv (rv.datamesh.members.filter (isRetypePending rvrs))

def isTieBreakerLeaving (rvrs : List Replica) (m : DatameshMember) : Bool :=
  m.type = .tieBreaker && (findRVRByName rvrs m.id).any (·.deleting)

def deletingTieBreakerMemberNames (rv : VolumeObject) (rvrs : List Replica) : List String :=
  sortedNames rv (rv.datamesh.members.filter (isTieBreakerLeaving rvrs))

def isPendingTieBreaker (rv : VolumeObject) (rvr : Replica) : Bool :=
  rvr.type = .tieBreaker && !rvr.deleting && (findMemberByName rv rvr.id).isNone

def countPendingTieBreakerCreations (rv : VolumeObject) (rvrs : List Replica) : ℕ :=
  rvrs.countP (isPendingTieBreaker rv)

/-- What the scheduler says for their current spec about pending tie-breakers; empty if it did not
refuse one. -/
def computeActualPendingTieBreakerSchedulingFailure (rv : VolumeObject) (rvrs : List Replica) :
    String :=
  let messages := rvrs.filterMap fun rvr =>
    if isPendingTieBreaker rv rvr && rvr.isFalseCurrent "Scheduled" then
      (rvr.condition "Scheduled").map fun c =>
        replicaName rv.name rvr.id ++ ": " ++ if c.message = "" then c.reason else c.message
    else none
  " | ".intercalate ((messages.foldl (fun acc message =>
    if message ∈ acc then acc else acc ++ [message]) []).insertionSort (· ≤ ·))

def isMemberAttached (m : DatameshMember) (rvas : List RVA) : Bool :=
  m.attached || rvas.any fun rva => !rva.deleting && rva.nodeName = m.nodeName

def votersInZone (members : List DatameshMember) (zone : String) : ℕ :=
  members.countP fun m => m.type.isVoter && m.zone = zone

def tieBreakersInZone (members : List DatameshMember) (zone : String) : ℕ :=
  members.countP fun m => m.type = .tieBreaker && m.zone = zone

def voterZones (members : List DatameshMember) : List String :=
  ((members.filter (·.type.isVoter)).map (·.zone)).dedup

/-- With a voter of the zone retyped, the loss of any zone leaves a quorum. -/
def isRetypeToTieBreakerZoneQuorumSafe (subjectZone : String) (members : List DatameshMember) :
    Bool :=
  let voters : ℤ := members.countP (·.type.isVoter)
  let totalTB : ℤ := members.countP (·.type = .tieBreaker)
  let votersAfter := voters - 1
  let qAfter := votersAfter / 2 + 1
  voters = 0 || (voterZones members).all fun zone =>
    let zoneVoters : ℤ := votersInZone members zone
    let adjustedZoneVoters := if zone = subjectZone ∧ 0 < zoneVoters then zoneVoters - 1
      else zoneVoters
    let dSurviving := votersAfter - adjustedZoneVoters
    let tbSurviving := totalTB - tieBreakersInZone members zone +
      if zone = subjectZone then 0 else 1
    qAfter ≤ dSurviving || (dSurviving = qAfter - 1 && 0 < tbSurviving)

def isZonePlacementOK (c : Configuration) (members : List DatameshMember) (m : DatameshMember) :
    Bool :=
  let maxZoneVoters := ((voterZones members).map (votersInZone members)).foldl max 0
  match c.topology with
  | .transZonal => votersInZone members m.zone ≤ 1
  | .zonal => maxZoneVoters = 0 || votersInZone members m.zone = maxZoneVoters
  | .ignored => true

/-- The Diskful member with the last name among those that may be retyped, or why there is none.
Each list holds the members that pass one more test. -/
def selectRetypeCandidate (rv : VolumeObject) (c : Configuration) (rvrs : List Replica)
    (rvas : List RVA) : Except String ReplicaID :=
  let members := rv.datamesh.members
  let diskful := members.filter (·.type = .diskful)
  let specDiskful := diskful.filter fun m => (findRVRByName rvrs m.id).any (·.type = .diskful)
  let unattached := specDiskful.filter fun m => !isMemberAttached m rvas
  let placed := unattached.filter (isZonePlacementOK c members)
  let admissible := placed.filter fun m =>
    c.topology ≠ .transZonal || isRetypeToTieBreakerZoneQuorumSafe m.zone members
  let chosen := admissible.foldl (fun (chosen : Option ReplicaID) m =>
    if chosen.all fun id => replicaName rv.name id < replicaName rv.name m.id then some m.id
    else chosen) none
  match chosen with
  | some id => .ok id
  | none =>
    .error <|
      if diskful = [] then "no diskful replicas found"
      else if specDiskful = [] then "all diskful replicas are already being retyped"
      else if unattached = [] then "all diskful replicas are attached"
      else if placed = [] then
        "no diskful replica can become a tie-breaker without violating zone placement"
      else "no diskful replica can become a tie-breaker: " ++
        "after the retype, losing a zone would lose quorum"

theorem foldl_choose_mem {α β : Type} (f : α → β) (prefer : Option β → α → Bool) (xs : List α)
    (start : Option β) {b : β}
    (h : xs.foldl (fun chosen x => if prefer chosen x then some (f x) else chosen) start = some b) :
    start = some b ∨ ∃ x ∈ xs, f x = b := by
  induction xs generalizing start with
  | nil => exact .inl h
  | cons x xs ih =>
    obtain hstart | ⟨y, hy, hb⟩ := ih _ h
    · simp only at hstart
      split at hstart
      · exact .inr ⟨x, mem_cons_self, Option.some.inj hstart⟩
      · exact .inl hstart
    · exact .inr ⟨y, mem_cons_of_mem x hy, hb⟩

theorem selectRetypeCandidate_ok {rv : VolumeObject} {c : Configuration} {rvrs : List Replica}
    {rvas : List RVA} {id : ReplicaID} (h : selectRetypeCandidate rv c rvrs rvas = .ok id) :
    ∃ m ∈ rv.datamesh.members, m.id = id ∧ m.type = .diskful ∧ (c.topology = .transZonal →
      isRetypeToTieBreakerZoneQuorumSafe m.zone rv.datamesh.members = true) := by
  simp only [selectRetypeCandidate] at h
  split at h
  · rename_i hchosen
    cases h
    obtain hstart | ⟨m, hm, hid⟩ := foldl_choose_mem _ _ _ _ hchosen
    · cases hstart
    · simp only [mem_filter, decide_eq_true_eq, Bool.or_eq_true] at hm
      refine ⟨m, hm.1.1.1.1.1, hid, hm.1.1.1.1.2, fun htopology => ?_⟩
      exact hm.2.resolve_left fun hne => hne htopology
  · cases h

inductive LayoutAction where
  | none
  | retypeToTieBreaker (id : ReplicaID)
  | createTieBreaker
  deriving DecidableEq

structure ConvergedReport where
  status : Option Bool
  reason : String
  message : String
  deriving DecidableEq

def converging (message : String) : ConvergedReport := ⟨some false, "Converging", message⟩

def cannotConverge (message : String) : ConvergedReport := ⟨some false, "CannotConverge", message⟩

def layouts (rv : VolumeObject) (c : Configuration) : String :=
  "have " ++ formatLayout (computeActualLayout rv).1 (computeActualLayout rv).2 ++
    ", want " ++ formatLayout (intendedLayout c).1 (intendedLayout c).2

/-- What is done about tie-breakers whose objects are being deleted; `none` leaves the decision to
the comparison of the layouts. -/
def computeTargetTieBreakerReplacement (rv : VolumeObject) (c : Configuration)
    (rvrs : List Replica) : Option (LayoutAction × ConvergedReport) :=
  let (actualD, actualTB) := computeActualLayout rv
  let (intendedD, intendedTB) := intendedLayout c
  let leaving := deletingTieBreakerMemberNames rv rvrs
  let availableTB := actualTB - leaving.length
  if leaving = [] ∨ actualD ≠ intendedD ∨ intendedTB < availableTB then none
  else
    let subject := if 1 < leaving.length then
        "tie-breakers " ++ ", ".intercalate leaving ++ " are terminating"
      else "tie-breaker " ++ ", ".intercalate leaving ++ " is terminating"
    if availableTB = intendedTB then
      let waiting := if 1 < leaving.length then "waiting for them to leave the datamesh"
        else if 0 < intendedTB then "its replacement joined the datamesh, waiting for it to leave"
        else "waiting for it to leave the datamesh"
      some (.none, converging (subject ++ ": " ++ waiting ++ " (" ++ layouts rv c ++ ")"))
    else if intendedTB - availableTB ≤ countPendingTieBreakerCreations rv rvrs then
      match computeActualPendingTieBreakerSchedulingFailure rv rvrs with
      | "" => some (.none, converging (subject ++ ": replacement tie-breaker creation pending (" ++
          layouts rv c ++ ")"))
      | failure => some (.none, cannotConverge (subject ++ ": cannot place a replacement (" ++
          layouts rv c ++ "): " ++ failure))
    else some (.createTieBreaker,
      converging (subject ++ ": creating a replacement (" ++ layouts rv c ++ ")"))

def pendingRetypeMessage (rv : VolumeObject) (c : Configuration) (pending : List String) : String :=
  let (actualD, actualTB) := computeActualLayout rv
  let (intendedD, intendedTB) := intendedLayout c
  if actualTB < intendedTB then "retype to tie-breaker requested: " ++ layouts rv c
  else if actualD = intendedD ∧ actualTB = intendedTB then
    "retype to tie-breaker pending on " ++ ", ".intercalate pending ++
      ": the layout already matches the intended one (" ++ formatLayout actualD actualTB ++ "); " ++
      "likely a reverted configuration change, and the retype is not rolled back automatically"
  else "retype to tie-breaker pending on " ++ ", ".intercalate pending ++ ": " ++ layouts rv c

/-- The comparison of the layouts and the two mismatches that are acted upon. -/
def compareLayouts (rv : VolumeObject) (c : Configuration) (rvrs : List Replica)
    (rvas : List RVA) : LayoutAction × ConvergedReport :=
  let (actualD, actualTB) := computeActualLayout rv
  let (intendedD, intendedTB) := intendedLayout c
  if actualD = intendedD ∧ actualTB = intendedTB then
    (.none, ⟨some true, "Converged", "layout converged: " ++ formatLayout actualD actualTB⟩)
  else if intendedD < actualD ∧ actualTB < intendedTB then
    match selectRetypeCandidate rv c rvrs rvas with
    | .error reason => (.none, cannotConverge ("cannot retype Diskful replica to tie-breaker (" ++
        layouts rv c ++ "): " ++ reason))
    | .ok id => (.retypeToTieBreaker id, converging ("retyping Diskful replica " ++
        replicaName rv.name id ++ " to tie-breaker: " ++ layouts rv c))
  else if actualD = intendedD ∧ actualTB < intendedTB then
    if intendedTB - actualTB ≤ countPendingTieBreakerCreations rv rvrs then
      match computeActualPendingTieBreakerSchedulingFailure rv rvrs with
      | "" => (.none, converging ("tie-breaker creation pending: " ++ layouts rv c))
      | failure => (.none, cannotConverge ("cannot place tie-breaker replica (" ++ layouts rv c ++
          "): " ++ failure))
    else (.createTieBreaker, converging ("creating tie-breaker replica: " ++ layouts rv c))
  else (.none, ⟨some false, "TransitionUnsupported", "layout mismatch: " ++ layouts rv c ++
    "; automatic transition is not supported, manual intervention required"⟩)

def computeTargetLayoutAction (rv : VolumeObject) (c : Configuration) (rvrs : List Replica)
    (rvas : List RVA) : LayoutAction × ConvergedReport :=
  if rv.deleting then
    (.none, ⟨none, "VolumeDeleting", "volume is being deleted; layout convergence suspended"⟩)
  else if hasLayoutChangingTransition rv then
    (.none, converging ("layout transition in progress: " ++ layouts rv c))
  else match pendingRetypeToTieBreakerMemberNames rv rvrs with
    | [] => (computeTargetTieBreakerReplacement rv c rvrs).getD (compareLayouts rv c rvrs rvas)
    | pending => (.none, converging (pendingRetypeMessage rv c pending))

def applyRVRRetypeToTieBreaker (rvr : Replica) : Replica :=
  { rvr with type := .tieBreaker, lvmVolumeGroupName := "", lvmVolumeGroupThinPoolName := "" }

structure Stored where
  replica : Replica
  resourceVersion : ℕ
  deriving DecidableEq

/-- The current volume and all versions of the list of its replicas, the current one last. `read`
is the version that the last pass saw. -/
structure LayoutWorld where
  rv : VolumeObject
  earlier : List (List Stored)
  store : List Stored
  resourceVersion : ℕ
  read : ℕ
  memberIDs : (rv.datamesh.members.map (·.id)).Nodup
  ids : (store.map (·.replica.id)).Nodup

namespace LayoutWorld

def versions (w : LayoutWorld) : List (List Stored) := w.earlier ++ [w.store]

def replicas (w : LayoutWorld) : List Replica := w.store.map (·.replica)

def retyped (store : List Stored) (base : Stored) (version : ℕ) : List Stored :=
  store.map fun s =>
    if s.replica.id = base.replica.id then ⟨applyRVRRetypeToTieBreaker s.replica, version⟩ else s

theorem retyped_ids (store : List Stored) (base : Stored) (version : ℕ) :
    (retyped store base version).map (·.replica.id) = store.map (·.replica.id) := by
  rw [retyped, map_map]
  refine map_congr_left fun s _ => ?_
  rw [Function.comp_apply]
  split <;> rfl

/-- `patchRVR`: the patch carries the version of the object it was made from, and a conflict ends
the pass. -/
def patchRVR (w : LayoutWorld) (base : Stored) : LayoutWorld :=
  if w.store.any fun s =>
      s.replica.id = base.replica.id && s.resourceVersion = base.resourceVersion then
    { w with
      earlier := w.versions
      store := retyped w.store base w.resourceVersion
      resourceVersion := w.resourceVersion + 1
      ids := (retyped_ids w.store base w.resourceVersion).symm ▸ w.ids }
  else w

def createRVR (w : LayoutWorld) (rvr : Replica) : LayoutWorld :=
  if h : rvr.id ∈ w.store.map (·.replica.id) then w
  else
    { w with
      earlier := w.versions
      store := w.store ++ [⟨rvr, w.resourceVersion⟩]
      resourceVersion := w.resourceVersion + 1
      ids := by
        rw [map_append, nodup_append]
        refine ⟨w.ids, by simp, fun id hid id' hid' heq => h ?_⟩
        rw [map_singleton, mem_singleton] at hid'
        exact hid' ▸ heq ▸ hid }

/-- `reconcileLayoutConvergence` of a pass that has read a list of replicas and of attachments. -/
def reconcileLayoutConvergence (w : LayoutWorld) (view : List Stored) (rvas : List RVA) :
    LayoutWorld :=
  match w.rv.configuration with
  | none => w
  | some c =>
    if w.rv.deleting then w
    else match (computeTargetLayoutAction w.rv c (view.map (·.replica)) rvas).1 with
      | .retypeToTieBreaker id =>
        match view.find? (·.replica.id = id) with
        | none => w
        | some base => w.patchRVR base
      | .createTieBreaker =>
        match newRVR (view.map (·.replica)) .tieBreaker "" with
        | none => w
        | some rvr => w.createRVR rvr
      | .none => w

end LayoutWorld

/-- A pass reads some version of the list of replicas; anything else changes the volume, with its
configuration fixed, or its replicas. -/
inductive LayoutEvent where
  | pass (version : ℕ) (rvas : List RVA)
  | outside (rv : VolumeObject) (store : List Stored)

namespace LayoutWorld

/-- An object keeps its version or has a new one; a list of members or of objects has unique
names. -/
def allows (w : LayoutWorld) (rv : VolumeObject) (store : List Stored) : Prop :=
  rv.configuration = w.rv.configuration ∧ (rv.datamesh.members.map (·.id)).Nodup ∧
    (store.map (·.replica.id)).Nodup ∧
    ∀ s ∈ store, s ∈ w.store ∨ s.resourceVersion = w.resourceVersion

instance (w : LayoutWorld) (rv : VolumeObject) (store : List Stored) :
    Decidable (w.allows rv store) :=
  inferInstanceAs (Decidable (_ ∧ _ ∧ _ ∧ _))

def step (w : LayoutWorld) : LayoutEvent → Option LayoutWorld
  | .pass version rvas => do
      let view ← w.versions[version]?
      if w.read ≤ version then some { w.reconcileLayoutConvergence view rvas with read := version }
      else none
  | .outside rv store =>
    if h : w.allows rv store then
      some { w with
        rv
        earlier := w.versions
        store
        resourceVersion := w.resourceVersion + 1
        memberIDs := h.2.1
        ids := h.2.2.1 }
    else none

def run (w : LayoutWorld) : List LayoutEvent → Option LayoutWorld
  | [] => some w
  | event :: events => (w.step event).bind fun w => w.run events

end LayoutWorld

end ReplicatedVolume.Volume
