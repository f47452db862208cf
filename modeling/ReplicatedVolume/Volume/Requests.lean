import ReplicatedVolume.Volume.Objects
import ReplicatedVolume.Library.MergeJoin

/-!
# The requests of the replicas and when they were first seen

The status keeps the requests of the replicas, each with the time at which it was first observed.
`ensureDatameshReplicaRequests` merges them with the replicas: the entries are sorted by id, the
replicas come by node name, and the cursors compare names.
-/

namespace ReplicatedVolume.Volume
open Datamesh List

structure ObservedRequest extends ReplicaRequest where
  firstObservedAt : ℕ
  deriving DecidableEq

def getRVRsSorted (rvrs : List Replica) : List Replica :=
  rvrs.insertionSort fun a b => a.nodeName < b.nodeName ∨ a.nodeName = b.nodeName ∧ a.id ≤ b.id

def ObservedRequest.ofMembership (now : ReplicaID → ℕ) (id : ReplicaID) (req : MembershipRequest) :
    ObservedRequest :=
  { ReplicaRequest.ofMembership id req with firstObservedAt := now id }

/-- The loops of `ensureDatameshReplicaRequests`; `now` is the clock when an entry is made. -/
def mergeObservedRequests (volume : String) (now : ReplicaID → ℕ) :
    List ObservedRequest → List Replica → List ObservedRequest × Bool
  | existing, [] => ([], !existing.isEmpty)
  | [], rvr :: rvrs =>
    match rvr.datameshRequest with
    | none => mergeObservedRequests volume now [] rvrs
    | some req =>
      (.ofMembership now rvr.id req :: (mergeObservedRequests volume now [] rvrs).1, true)
  | entry :: existing, rvr :: rvrs =>
    match rvr.datameshRequest with
    | none => mergeObservedRequests volume now (entry :: existing) rvrs
    | some req =>
      if replicaName volume entry.id < replicaName volume rvr.id then
        ((mergeObservedRequests volume now existing (rvr :: rvrs)).1, true)
      else if replicaName volume rvr.id < replicaName volume entry.id then
        (.ofMembership now rvr.id req ::
          (mergeObservedRequests volume now (entry :: existing) rvrs).1, true)
      else if ReplicaRequest.same entry.toReplicaRequest req then
        (entry :: (mergeObservedRequests volume now existing rvrs).1,
          (mergeObservedRequests volume now existing rvrs).2)
      else
        (.ofMembership now rvr.id req :: (mergeObservedRequests volume now existing rvrs).1, true)
termination_by existing rvrs => existing.length + rvrs.length

/-- `ensureDatameshReplicaRequests` on the list of the status. The entries are sorted in place, so
that they stay sorted when nothing else changes. -/
def ensureObservedRequests (volume : String) (now : ReplicaID → ℕ)
    (requests : List ObservedRequest) (rvrs : List Replica) : List ObservedRequest × Bool :=
  let existing := requests.insertionSort (·.id ≤ ·.id)
  let (result, changed) := mergeObservedRequests volume now existing rvrs
  (if changed then result else existing, changed)

def requested (rvrs : List Replica) : List (ReplicaID × MembershipRequest) :=
  rvrs.filterMap fun rvr => rvr.datameshRequest.map fun req => (rvr.id, req)

abbrev requestJoin (volume : String) (now : ReplicaID → ℕ) :
    List ObservedRequest → List (ReplicaID × MembershipRequest) → List ObservedRequest × Bool :=
  MergeJoin.join (fun entry : ObservedRequest => replicaName volume entry.id)
    (fun r => replicaName volume r.1) (fun r => .ofMembership now r.1 r.2)
    (fun entry r => ReplicaRequest.same entry.toReplicaRequest r.2)

theorem requested_cons_none {rvr : Replica} (h : rvr.datameshRequest = none)
    (rvrs : List Replica) : requested (rvr :: rvrs) = requested rvrs := by
  simp [requested, h]

theorem requested_cons_some {rvr : Replica} {req : MembershipRequest}
    (h : rvr.datameshRequest = some req) (rvrs : List Replica) :
    requested (rvr :: rvrs) = (rvr.id, req) :: requested rvrs := by
  simp [requested, h]

theorem mergeObservedRequests_eq (volume : String) (now : ReplicaID → ℕ)
    (existing : List ObservedRequest) (rvrs : List Replica) :
    mergeObservedRequests volume now existing rvrs =
      requestJoin volume now existing (requested rvrs) := by
  unfold requestJoin
  fun_induction mergeObservedRequests volume now existing rvrs with
  | case1 => simp [requested, MergeJoin.join]
  | case2 _ _ hnone ih | case4 _ _ _ _ hnone ih => rw [requested_cons_none hnone, ih]
  | case3 _ _ _ hsome => simp_all [requested_cons_some hsome, MergeJoin.join]
  | _ => simp_all [requested_cons_some ‹_›, MergeJoin.join]

section
variable {volume : String} {rvr : Replica} {req : MembershipRequest} {entry : ReplicaRequest}
  {existing : List ReplicaRequest} {rvrs : List Replica}

theorem mergeRequests_cons_lt (hsome : rvr.datameshRequest = some req)
    (hlt : replicaName volume entry.id < replicaName volume rvr.id) :
    mergeRequests volume (entry :: existing) (rvr :: rvrs) =
      ((mergeRequests volume existing (rvr :: rvrs)).1, true) := by
  have hremoved : ((existing.dropWhile fun e : ReplicaRequest =>
      decide (replicaName volume e.id < replicaName volume rvr.id)).length !=
        (entry :: existing).length) = true := by
    have hlength := (dropWhile_sublist (l := existing) fun e : ReplicaRequest =>
      decide (replicaName volume e.id < replicaName volume rvr.id)).length_le
    rw [bne_iff_ne, length_cons]
    omega
  simp only [mergeRequests, hsome, dropWhile_cons, hlt, decide_true, if_true, hremoved,
    Bool.true_or]
  split
  · rfl
  · split
    · split <;> rfl
    · rfl

theorem mergeRequests_cons_ge (hsome : rvr.datameshRequest = some req)
    (hge : ¬replicaName volume entry.id < replicaName volume rvr.id) :
    mergeRequests volume (entry :: existing) (rvr :: rvrs) =
      if replicaName volume entry.id = replicaName volume rvr.id then
        if ReplicaRequest.same entry req then
          (entry :: (mergeRequests volume existing rvrs).1, (mergeRequests volume existing rvrs).2)
        else
          (ReplicaRequest.ofMembership rvr.id req :: (mergeRequests volume existing rvrs).1, true)
      else
        (ReplicaRequest.ofMembership rvr.id req ::
          (mergeRequests volume (entry :: existing) rvrs).1, true) := by
  simp only [mergeRequests, hsome, dropWhile_cons, hge, decide_false, Bool.false_eq_true,
    if_false, bne_self_eq_false, Bool.false_or]

end

theorem mergeObservedRequests_forget (volume : String) (now : ReplicaID → ℕ)
    (existing : List ObservedRequest) (rvrs : List Replica) :
    mergeRequests volume (existing.map (·.toReplicaRequest)) rvrs =
      ((mergeObservedRequests volume now existing rvrs).1.map (·.toReplicaRequest),
        (mergeObservedRequests volume now existing rvrs).2) := by
  fun_induction mergeObservedRequests volume now existing rvrs with
  | case1 | case2 | case4 => simp_all [mergeRequests]
  | case3 => simp_all [mergeRequests, ObservedRequest.ofMembership]
  | case5 _ _ _ _ _ hsome hlt ih => rw [map_cons, mergeRequests_cons_lt hsome hlt, ih]
  | case6 _ _ _ _ _ hsome hle hgt ih =>
    rw [map_cons] at ih ⊢
    rw [mergeRequests_cons_ge hsome hle, if_neg hgt.ne', ih]
    rfl
  | case7 _ _ _ _ _ hsome hle hge hsame ih =>
    have heq := le_antisymm (not_lt.mp hge) (not_lt.mp hle)
    rw [map_cons, mergeRequests_cons_ge hsome hle, if_pos heq, if_pos hsame, ih, map_cons]
  | case8 _ _ _ _ _ hsome hle hge hsame ih =>
    have heq := le_antisymm (not_lt.mp hge) (not_lt.mp hle)
    rw [map_cons, mergeRequests_cons_ge hsome hle, if_pos heq, if_neg hsame, ih]
    rfl

theorem ensureObservedRequests_forget (rv : VolumeObject) (now : ReplicaID → ℕ)
    (requests : List ObservedRequest) (rvrs : List Replica) :
    ensureDatameshReplicaRequests
        { rv with datameshReplicaRequests := requests.map (·.toReplicaRequest) } rvrs =
      ({ rv with datameshReplicaRequests :=
          (ensureObservedRequests rv.name now requests rvrs).1.map (·.toReplicaRequest) },
        (ensureObservedRequests rv.name now requests rvrs).2) := by
  have hsort : (requests.map (·.toReplicaRequest)).insertionSort (·.id ≤ ·.id) =
      (requests.insertionSort (·.id ≤ ·.id)).map (·.toReplicaRequest) := by
    symm
    apply map_insertionSort
    intro a _ b _
    rfl
  simp only [ensureDatameshReplicaRequests, ensureObservedRequests, hsort,
    mergeObservedRequests_forget rv.name now]
  split <;> rfl

end ReplicatedVolume.Volume
