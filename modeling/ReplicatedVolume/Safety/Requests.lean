import ReplicatedVolume.Volume.Requests
import Mathlib.Data.String.Basic
import Mathlib.Data.List.Sort

/-!
# Keeping the requests of the replicas

An entry that is still asked for should keep its time and message, and a second call should find
nothing to do. Both need the replicas in the order of their ids, though they are listed by node
name, and entries of two-digit ids are met only where names and ids agree on the order. A new
replica is put in by its id too, though it is listed by node name.
-/

namespace ReplicatedVolume.Volume
open Datamesh List

variable {entry : ObservedRequest} {ids : List ReplicaID}

def StillAsked (entry : ObservedRequest) (rvrs : List Replica) : Prop :=
  ∃ rvr ∈ rvrs, rvr.id = entry.id ∧
    rvr.datameshRequest.any (ReplicaRequest.same entry.toReplicaRequest) = true

structure Faithful (volume : String) (requests : List ObservedRequest) (rvrs : List Replica) :
    Prop where
  once : ∀ now, ((ensureObservedRequests volume now requests rvrs).1.map (·.id)).Nodup
  every : ∀ now id, id ∈ (ensureObservedRequests volume now requests rvrs).1.map (·.id) ↔
    ∃ rvr ∈ rvrs, rvr.id = id ∧ rvr.datameshRequest.isSome = true
  current : ∀ now, ∀ entry ∈ (ensureObservedRequests volume now requests rvrs).1,
    StillAsked entry rvrs
  kept : ∀ now, ∀ entry ∈ requests, StillAsked entry rvrs →
    entry ∈ (ensureObservedRequests volume now requests rvrs).1
  settled : ∀ now later, (ensureObservedRequests volume later
    (ensureObservedRequests volume now requests rvrs).1 rvrs).2 = false

def InOrder (rvrs : List Replica) : Prop := ((requested rvrs).map (·.1)).Pairwise (· < ·)

/-- No one-digit id comes between an entry with a two-digit id and its request: where one has an
entry or a request and sorts behind by name, some one-digit id from there on has both. -/
def Passable (volume : String) (requests : List ObservedRequest) (rvrs : List Replica) : Prop :=
  ∀ entry ∈ requests, 10 ≤ entry.id → StillAsked entry rvrs →
    ∀ d < 10, d ∈ requests.map (·.id) ∨ d ∈ (requested rvrs).map (·.1) →
      replicaName volume entry.id < replicaName volume d →
        ∃ d' < 10, d ≤ d' ∧ d' ∈ requests.map (·.id) ∧ d' ∈ (requested rvrs).map (·.1)

theorem append_lt_append_iff (a b c : List Char) : a ++ b < a ++ c ↔ b < c := by
  induction a with
  | nil => rfl
  | cons x a ih => simp [ih]

theorem replicaName_lt_iff (volume : String) (a b : ReplicaID) :
    replicaName volume a < replicaName volume b ↔ toString a.val < toString b.val := by
  simp only [String.lt_iff_toList_lt, replicaName, String.toList_append]
  exact append_lt_append_iff _ _ _

theorem replicaName_injective (volume : String) : Function.Injective (replicaName volume) := by
  have hdigits : ∀ a b : ReplicaID, toString a.val = toString b.val → a = b := by decide +kernel
  intro a b h
  refine hdigits a b (String.toList_inj.mp ?_)
  simpa only [replicaName, String.toList_append, append_cancel_left_eq] using
    congrArg String.toList h

theorem replicaName_lt_iff_lt (volume : String) {a b : ReplicaID} (h : a < 10 ↔ b < 10) :
    replicaName volume a < replicaName volume b ↔ a < b := by
  have hdigits : ∀ a b : ReplicaID, (a < 10 ↔ b < 10) →
      (toString a.val < toString b.val ↔ a < b) := by decide +kernel
  rw [replicaName_lt_iff, hdigits a b h]

section
variable {volume : String} {requests : List ObservedRequest} {rvrs : List Replica}

abbrev byID (requests : List ObservedRequest) : List ObservedRequest :=
  requests.insertionSort (·.id ≤ ·.id)

variable (hrequests : (requests.map (·.id)).Nodup) (hrvrs : (rvrs.map (·.id)).Nodup)
  (now : ReplicaID → ℕ)

include hrequests in
theorem byID_pairwise : ((byID requests).map (·.id)).Pairwise (· < ·) := by
  have hsorted : ((byID requests).map (·.id)).Pairwise (· ≤ ·) :=
    pairwise_map.mpr (pairwise_insertionSort _ _)
  have hnodup : ((byID requests).map (·.id)).Nodup :=
    ((perm_insertionSort _ requests).map _).nodup_iff.mpr hrequests
  exact hsorted.imp₂ (fun _ _ hle hne => lt_of_le_of_ne hle hne) hnodup

def Fulfils (entry : ObservedRequest) (r : ReplicaID × MembershipRequest) : Prop :=
  entry.id = r.1 ∧ ReplicaRequest.same entry.toReplicaRequest r.2 = true

variable {id : ReplicaID}

theorem mem_requested {req : MembershipRequest} :
    (id, req) ∈ requested rvrs ↔ ∃ rvr ∈ rvrs, rvr.id = id ∧ rvr.datameshRequest = some req := by
  simp only [requested, mem_filterMap, Option.map_eq_some_iff, Prod.mk.injEq]
  constructor
  · rintro ⟨rvr, hmem, req', hsome, rfl, rfl⟩
    exact ⟨rvr, hmem, rfl, hsome⟩
  · rintro ⟨rvr, hmem, rfl, hsome⟩
    exact ⟨rvr, hmem, req, hsome, rfl, rfl⟩

theorem mem_requested_ids : id ∈ (requested rvrs).map (·.1) ↔
    ∃ rvr ∈ rvrs, rvr.id = id ∧ rvr.datameshRequest.isSome = true := by
  simp only [mem_map, Prod.exists, mem_requested, Option.isSome_iff_exists]
  constructor
  · rintro ⟨_, req, ⟨rvr, hmem, hid, hsome⟩, rfl⟩
    exact ⟨rvr, hmem, hid, req, hsome⟩
  · rintro ⟨rvr, hmem, hid, req, hsome⟩
    exact ⟨id, req, ⟨rvr, hmem, hid, hsome⟩, rfl⟩

theorem stillAsked_iff : StillAsked entry rvrs ↔ ∃ r ∈ requested rvrs, Fulfils entry r := by
  simp only [StillAsked, Fulfils, Prod.exists, mem_requested, Option.any_eq_true]
  constructor
  · rintro ⟨rvr, hmem, hid, req, hsome, hsame⟩
    exact ⟨_, req, ⟨rvr, hmem, rfl, hsome⟩, hid.symm, hsame⟩
  · rintro ⟨id, req, ⟨rvr, hmem, rfl, hsome⟩, hid, hsame⟩
    exact ⟨rvr, hmem, hid.symm, req, hsome, hsame⟩

include hrvrs in
theorem requested_nodup : ((requested rvrs).map (·.1)).Nodup := by
  have hids : (requested rvrs).map (·.1) = (rvrs.filter (·.datameshRequest.isSome)).map (·.id) := by
    induction rvrs with
    | nil => rfl
    | cons rvr rvrs ih =>
      have ih := ih hrvrs.of_cons
      cases hreq : rvr.datameshRequest with
      | none => rw [requested_cons_none hreq, ih, filter_cons_of_neg (by simp [hreq])]
      | some req =>
        rw [requested_cons_some hreq, filter_cons_of_pos (by simp [hreq]), map_cons, map_cons, ih]
  rw [hids]
  exact hrvrs.sublist (filter_sublist.map _)

theorem same_ofMembership (id : ReplicaID) (req : MembershipRequest) :
    ReplicaRequest.same (ObservedRequest.ofMembership now id req).toReplicaRequest req = true := by
  simp [ReplicaRequest.same, ObservedRequest.ofMembership, ReplicaRequest.ofMembership]

theorem ensureObservedRequests_fst : (ensureObservedRequests volume now requests rvrs).1 =
      (requestJoin volume now (byID requests) (requested rvrs)).1 := by
  simp only [ensureObservedRequests, mergeObservedRequests_eq]
  cases hchanged : (requestJoin volume now (byID requests) (requested rvrs)).2 with
  | false =>
    exact (MergeJoin.join_of_unchanged ((MergeJoin.join_unchanged_iff _ _).mp hchanged)).symm
  | true => rfl

theorem ensureObservedRequests_unchanged_iff :
    (ensureObservedRequests volume now requests rvrs).2 = false ↔
      List.Forall₂ Fulfils (byID requests) (requested rvrs) := by
  simp only [ensureObservedRequests, mergeObservedRequests_eq]
  rw [requestJoin, MergeJoin.join_unchanged_iff]
  simp only [(replicaName_injective volume).eq_iff]
  rfl

theorem ensureObservedRequests_settled (volume : String) (requests : List ObservedRequest)
    (rvrs : List Replica) (now : ReplicaID → ℕ) :
    List.Forall₂ Fulfils (ensureObservedRequests volume now requests rvrs).1 (requested rvrs) := by
  rw [ensureObservedRequests_fst]
  refine (MergeJoin.join_settled ?_ _ _).imp ?_
  · exact fun r => ⟨rfl, same_ofMembership now r.1 r.2⟩
  · exact fun entry r h => ⟨replicaName_injective volume h.1, h.2⟩

section
variable {entries : List ObservedRequest} {asks : List (ReplicaID × MembershipRequest)}
  (h : List.Forall₂ Fulfils entries asks)
include h

theorem ids_of_settled : entries.map (·.id) = asks.map (·.1) := by
  induction h with
  | nil => rfl
  | cons h _ ih => rw [map_cons, map_cons, h.1, ih]

theorem asked_of_settled (hentry : entry ∈ entries) : ∃ r ∈ asks, Fulfils entry r := by
  induction h with
  | nil => cases hentry
  | @cons _ r _ _ h _ ih =>
    rcases mem_cons.mp hentry with rfl | hentry
    · exact ⟨r, mem_cons_self, h⟩
    · obtain ⟨r', hr', hasked⟩ := ih hentry
      exact ⟨r', mem_cons_of_mem _ hr', hasked⟩

end

include hrvrs in
theorem settled_iff_inOrder (later : ReplicaID → ℕ) : (ensureObservedRequests volume later
      (ensureObservedRequests volume now requests rvrs).1 rvrs).2 = false ↔ InOrder rvrs := by
  have hsettled := ensureObservedRequests_settled volume requests rvrs now
  have hids := ids_of_settled hsettled
  rw [ensureObservedRequests_unchanged_iff, InOrder]
  constructor
  · intro h
    rw [← ids_of_settled h]
    exact byID_pairwise (hids ▸ requested_nodup hrvrs)
  · intro horder
    rw [← hids, pairwise_map] at horder
    rwa [byID, (horder.imp le_of_lt).insertionSort_eq]

include hrequests hrvrs in
theorem kept_iff_matched (hentry : entry ∈ requests) (hasked : StillAsked entry rvrs) :
    (∀ now, entry ∈ (ensureObservedRequests volume now requests rvrs).1) ↔
      replicaName volume entry.id ∈ MergeJoin.matched
        (((byID requests).map (·.id)).map (replicaName volume))
        (((requested rvrs).map (·.1)).map (replicaName volume)) := by
  simp only [ensureObservedRequests_fst]
  constructor
  · intro hkept
    -- At a time other than its own the entry cannot have been made anew.
    obtain ⟨r, hr, hmade | ⟨-, -, hmet⟩⟩ :=
      MergeJoin.resolved_of_mem (hkept fun _ => entry.firstObservedAt + 1)
    · have htime := congrArg ObservedRequest.firstObservedAt hmade
      simp only [ObservedRequest.ofMembership] at htime
      omega
    · rwa [map_map, map_map]
  · intro hmet now
    obtain ⟨r, hr, hid, hsame⟩ := stillAsked_iff.mp hasked
    have hnames : ∀ {ids : List ReplicaID}, ids.Nodup → (ids.map (replicaName volume)).Nodup :=
      fun h => h.map (replicaName_injective volume)
    refine MergeJoin.mem_join_of_matched ?_ ?_ ((mem_insertionSort _).mpr hentry) hr
      (congrArg _ hid) hsame ?_
    · have h := hnames ((byID_pairwise hrequests).imp ne_of_lt)
      rwa [map_map] at h
    · have h := hnames (requested_nodup hrvrs)
      rwa [map_map] at h
    · rw [map_map, map_map] at hmet
      exact hmet

theorem ids_split (h : ids.Pairwise (· < ·)) :
    ids = ids.filter (· < 10) ++ ids.filter (fun id => ¬id < 10) := by
  induction ids with
  | nil => rfl
  | cons id ids ih =>
    rw [pairwise_cons] at h
    by_cases hid : id < 10
    · rw [filter_cons_of_pos (by simpa using hid),
        filter_cons_of_neg (by simpa using hid), cons_append, ← ih h.2]
    · have hnone : ids.filter (· < 10) = [] := by
        rw [filter_eq_nil_iff]
        intro b hb
        simpa using (not_lt.mp hid).trans (h.1 b hb).le
      have hall : ids.filter (fun id => ¬id < 10) = ids := by
        have := ih h.2
        rwa [hnone, nil_append, eq_comm] at this
      rw [filter_cons_of_neg (by simpa using hid),
        filter_cons_of_pos (by simpa using hid), hnone, hall, nil_append]

theorem names_pairwise (h : ids.Pairwise (· < ·)) (p : ReplicaID → Bool)
    (hp : ∀ a b, p a = true → p b = true → (a < 10 ↔ b < 10)) :
    ((ids.filter p).map (replicaName volume)).Pairwise (· < ·) := by
  rw [pairwise_map, pairwise_filter]
  exact h.imp fun hlt ha hb => (replicaName_lt_iff_lt volume (hp _ _ ha hb)).mpr hlt

theorem mem_names {p : ReplicaID → Bool} :
    replicaName volume id ∈ (ids.filter p).map (replicaName volume) ↔ id ∈ ids ∧ p id = true := by
  rw [mem_map_of_injective (replicaName_injective volume), mem_filter]

variable {as bs : List ReplicaID}

theorem clear_iff :
    MergeJoin.Clear ((as.filter (· < 10)).map (replicaName volume))
        ((bs.filter (· < 10)).map (replicaName volume)) (replicaName volume id) ↔
      ∀ d < 10, d ∈ as ∨ d ∈ bs → replicaName volume id < replicaName volume d →
        ∃ d' < 10, d ≤ d' ∧ d' ∈ as ∧ d' ∈ bs := by
  have hle : ∀ {d d' : ReplicaID}, d < 10 → d' < 10 →
      (replicaName volume d ≤ replicaName volume d' ↔ d ≤ d') := by
    intro d d' hd hd'
    rw [← not_lt, replicaName_lt_iff_lt volume (iff_of_true hd' hd), not_lt]
  constructor
  · intro hclear d hd hmem hlt
    obtain ⟨name, hna, hnb, hname⟩ := hclear (replicaName volume d)
      (hmem.imp (fun h => mem_names.mpr ⟨h, by simpa using hd⟩)
        fun h => mem_names.mpr ⟨h, by simpa using hd⟩) hlt
    obtain ⟨d', hd', rfl⟩ := mem_map.mp hna
    have hsmall : d' < 10 := by simpa using (mem_filter.mp hd').2
    exact ⟨d', hsmall, (hle hd hsmall).mp hname, (mem_filter.mp hd').1, (mem_names.mp hnb).1⟩
  · intro hpass name hmem hlt
    have hd : ∃ d < 10, (d ∈ as ∨ d ∈ bs) ∧ replicaName volume d = name := by
      rcases hmem with hmem | hmem <;> obtain ⟨d, hd, rfl⟩ := mem_map.mp hmem <;>
        rw [mem_filter, decide_eq_true_eq] at hd
      · exact ⟨d, hd.2, .inl hd.1, rfl⟩
      · exact ⟨d, hd.2, .inr hd.1, rfl⟩
    obtain ⟨d, hd, hids, rfl⟩ := hd
    obtain ⟨d', hd', hge, hda, hdb⟩ := hpass d hd hids hlt
    exact ⟨replicaName volume d', mem_names.mpr ⟨hda, by simpa using hd'⟩,
      mem_names.mpr ⟨hdb, by simpa using hd'⟩, (hle hd hd').mpr hge⟩

theorem matched_iff (ha : as.Pairwise (· < ·)) (hb : bs.Pairwise (· < ·))
    (hida : id ∈ as) (hidb : id ∈ bs) :
    replicaName volume id ∈ MergeJoin.matched (as.map (replicaName volume))
        (bs.map (replicaName volume)) ↔
      (10 ≤ id → ∀ d < 10, d ∈ as ∨ d ∈ bs → replicaName volume id < replicaName volume d →
        ∃ d' < 10, d ≤ d' ∧ d' ∈ as ∧ d' ∈ bs) := by
  have hone : ∀ {ids : List ReplicaID}, ids.Pairwise (· < ·) →
      ((ids.filter (· < 10)).map (replicaName volume)).Pairwise (· < ·) :=
    fun h => names_pairwise h _ (by simp +contextual)
  have htwo : ∀ {ids : List ReplicaID}, ids.Pairwise (· < ·) →
      ((ids.filter (fun id => ¬id < 10)).map (replicaName volume)).Pairwise (· < ·) :=
    fun h => names_pairwise h _ (by simp +contextual [not_lt_of_ge])
  have hapart : ∀ (xs ys : List ReplicaID), ∀ d ∈ (xs.filter (· < 10)).map (replicaName volume),
      d ∉ (ys.filter (fun id => ¬id < 10)).map (replicaName volume) := by
    intro xs ys d hd hd'
    obtain ⟨id, hid, rfl⟩ := mem_map.mp hd
    have hbelow := (mem_filter.mp hid).2
    have habove := (mem_names.mp hd').2
    simp at hbelow habove
    exact absurd hbelow (not_lt.mpr habove)
  have hsplit : ∀ {ids : List ReplicaID}, ids.Pairwise (· < ·) → ids.map (replicaName volume) =
      (ids.filter (· < 10)).map (replicaName volume) ++
        (ids.filter (fun id => ¬id < 10)).map (replicaName volume) := by
    intro ids h
    rw [← map_append, ← ids_split h]
  rw [hsplit ha, hsplit hb]
  by_cases hid : id < 10
  · refine iff_of_true ?_ fun hten => absurd hid (not_lt.mpr hten)
    exact MergeJoin.mem_matched_first (hone ha) (hone hb) (mem_names.mpr ⟨hida, by simpa using hid⟩)
      (mem_names.mpr ⟨hidb, by simpa using hid⟩)
  · rw [MergeJoin.mem_matched_second_iff (hone ha) (htwo ha) (hone hb) (htwo hb) (hapart as bs)
      (hapart bs as) (mem_names.mpr ⟨hida, by simpa using hid⟩)
      (mem_names.mpr ⟨hidb, by simpa using hid⟩), clear_iff]
    simp only [not_lt.mp hid, true_imp_iff]

include hrequests hrvrs in
theorem kept_iff_passable (horder : InOrder rvrs) :
    (∀ now, ∀ entry ∈ requests, StillAsked entry rvrs →
      entry ∈ (ensureObservedRequests volume now requests rvrs).1) ↔
        Passable volume requests rvrs := by
  have hmem : ∀ d, d ∈ (byID requests).map (·.id) ↔ d ∈ requests.map (·.id) :=
    fun _ => ((perm_insertionSort _ requests).map _).mem_iff
  have hentry : ∀ entry ∈ requests, StillAsked entry rvrs →
      ((∀ now, entry ∈ (ensureObservedRequests volume now requests rvrs).1) ↔
        (10 ≤ entry.id → ∀ d < 10, d ∈ requests.map (·.id) ∨ d ∈ (requested rvrs).map (·.1) →
          replicaName volume entry.id < replicaName volume d →
            ∃ d' < 10, d ≤ d' ∧ d' ∈ requests.map (·.id) ∧ d' ∈ (requested rvrs).map (·.1))) := by
    intro entry hentry hasked
    obtain ⟨r, hr, hid, -⟩ := stillAsked_iff.mp hasked
    rw [kept_iff_matched hrequests hrvrs hentry hasked,
      matched_iff (byID_pairwise hrequests) horder ((hmem _).mpr (mem_map_of_mem hentry))
        (hid ▸ mem_map_of_mem hr)]
    simp only [hmem]
  constructor
  · intro hkept entry hmem hten hasked
    exact (hentry entry hmem hasked).mp (fun now => hkept now entry hmem hasked) hten
  · intro hpass now entry hmem hasked
    exact (hentry entry hmem hasked).mpr (fun hten => hpass entry hmem hten hasked) now

end

/-- Over replicas with distinct ids, listed by node name, a call is faithful exactly when the
replicas with a request come by their ids and no entry with a two-digit id is passed over. -/
theorem requests_faithful_iff (volume : String) (requests : List ObservedRequest)
    (listed : List Replica) (hrequests : (requests.map (·.id)).Nodup)
    (hlisted : (listed.map (·.id)).Nodup) :
    Faithful volume requests (getRVRsSorted listed) ↔
      InOrder (getRVRsSorted listed) ∧ Passable volume requests (getRVRsSorted listed) := by
  have hrvrs : ((getRVRsSorted listed).map (·.id)).Nodup :=
    ((perm_insertionSort _ listed).map _).nodup_iff.mpr hlisted
  constructor
  · intro h
    have horder := (settled_iff_inOrder hrvrs _ _).mp (h.settled (fun _ => 0) fun _ => 0)
    exact ⟨horder, (kept_iff_passable hrequests hrvrs horder).mp h.kept⟩
  · intro ⟨horder, hpass⟩
    have hsettled := ensureObservedRequests_settled volume requests (getRVRsSorted listed)
    refine ⟨fun now => ?_, fun now id => ?_, fun now entry hentry => ?_,
      (kept_iff_passable hrequests hrvrs horder).mpr hpass,
      fun now later => (settled_iff_inOrder hrvrs now later).mpr horder⟩
    · rw [ids_of_settled (hsettled now)]
      exact requested_nodup hrvrs
    · rw [ids_of_settled (hsettled now), mem_requested_ids]
    · exact stillAsked_iff.mpr (asked_of_settled (hsettled now) hentry)

def joiningReplica (id : ReplicaID) (nodeName : String) : Replica :=
  { id, deleting := false, generation := 1, nodeName, type := .diskful, conditions := []
    addresses := [], backingVolume := none, datameshRevision := 0, attachment := none
    quorum := none, peers := [], finalizer := true, lvmVolumeGroupName := "vg"
    lvmVolumeGroupThinPoolName := "", datameshRequest := some ⟨.join, some .diskful, "vg", ""⟩
    datameshRevisionObservedByAgent := 0, peerType := fun _ => .diskful }

def observed (at_ : ℕ) (id : ReplicaID) : ObservedRequest :=
  .ofMembership (fun _ => at_) id ⟨.join, some .diskful, "vg", ""⟩

/-- Node names in the order of the ids: the entries of the first call stay. -/
theorem requests_faithful_two :
    (ensureObservedRequests "rv" (fun _ => 1) []
        (getRVRsSorted [joiningReplica 0 "a", joiningReplica 1 "b"])).1 =
      [observed 1 0, observed 1 1] ∧
    Faithful "rv" [observed 1 0, observed 1 1]
      (getRVRsSorted [joiningReplica 0 "a", joiningReplica 1 "b"]) := by
  refine ⟨by decide +kernel, (requests_faithful_iff _ _ _ (by decide) (by decide)).mpr ⟨?_, ?_⟩⟩
  · unfold InOrder
    decide +kernel
  · intro entry hentry hten
    simp only [mem_cons, not_mem_nil, or_false] at hentry
    rcases hentry with rfl | rfl <;> exact absurd hten (by decide)

/-- Node names in the other order: a second call with the same replicas reports a change and takes
the request of replica 0 for a new one. -/
theorem requests_flap :
    (ensureObservedRequests "rv" (fun _ => 1) []
        (getRVRsSorted [joiningReplica 0 "b", joiningReplica 1 "a"])).1 =
      [observed 1 1, observed 1 0] ∧
    ensureObservedRequests "rv" (fun _ => 2) [observed 1 1, observed 1 0]
        (getRVRsSorted [joiningReplica 0 "b", joiningReplica 1 "a"]) =
      ([observed 1 1, observed 2 0], true) := by
  decide +kernel

-- Replicas 9 and 10 in order; without replica 9 its entry hides the next one, since "rv-9" sorts
-- behind "rv-10".
example : ensureObservedRequests "rv" (fun _ => 2) [observed 1 9, observed 1 10]
    (getRVRsSorted [joiningReplica 10 "b"]) = ([observed 2 10], true) := by
  decide +kernel

/-- Where a replica stands among those of `getRVRsSorted`: by node name, then by id. -/
def Replica.place (rvr : Replica) : String ×ₗ ReplicaID := toLex (rvr.nodeName, rvr.id)

theorem getRVRsSorted_pairwise (listed : List Replica) :
    (getRVRsSorted listed).Pairwise (·.place ≤ ·.place) := by
  have hplace : (fun a b : Replica => a.nodeName < b.nodeName ∨
      a.nodeName = b.nodeName ∧ a.id ≤ b.id) = (·.place ≤ ·.place) := by
    funext a b
    rw [Replica.place, Replica.place, Prod.Lex.toLex_le_toLex]
  have : Std.Total fun a b : Replica => a.place ≤ b.place := ⟨fun a b => le_total a.place b.place⟩
  have : IsTrans Replica fun a b => a.place ≤ b.place := ⟨fun _ _ _ => le_trans⟩
  unfold getRVRsSorted
  simp only [hplace]
  exact pairwise_insertionSort _ _

section Search
variable {α : Type} (before : α → Bool) (xs : List α) (fuel : ℕ) {i j : ℕ}

theorem binarySearch_mem_Icc (h : i ≤ j) : binarySearch before xs fuel i j ∈ Set.Icc i j := by
  induction fuel generalizing i j with
  | zero => exact ⟨le_rfl, h⟩
  | succ fuel ih =>
    unfold binarySearch
    split_ifs
    · exact Set.Icc_subset_Icc_left (by omega) (ih (by omega))
    · exact Set.Icc_subset_Icc_right (by omega) (ih (by omega))
    · exact ⟨le_rfl, h⟩

/-- The positions that a search which ends at `k` looks at. -/
def probes (k : ℕ) : ℕ → ℕ → ℕ → List ℕ
  | 0, _, _ => []
  | fuel + 1, i, j =>
    if i < j then
      (i + j) / 2 :: if (i + j) / 2 < k then probes k fuel ((i + j) / 2 + 1) j
        else probes k fuel i ((i + j) / 2)
    else []

variable {before} {xs} {fuel}

/-- The search ends at one of the places from `k` to `k'` exactly when each answer on the way to `k`
is the right one: a wrong one leads away from them for good. -/
theorem binarySearch_mem_Icc_iff {k k' : ℕ} (hik : i ≤ k) (hkj : k ≤ j) (hkk' : k ≤ k')
    (hfuel : j - i ≤ fuel) (hties : ∀ h, k ≤ h → h < k' → (xs[h]?).any before = false) :
    binarySearch before xs fuel i j ∈ Set.Icc k k' ↔
      ∀ h ∈ probes k fuel i j, (xs[h]?).any before = decide (h < k) := by
  induction fuel generalizing i j with
  | zero =>
    obtain rfl : i = k := by omega
    simpa [binarySearch, probes] using hkk'
  | succ fuel ih =>
    unfold binarySearch probes
    by_cases hij : i < j
    · simp only [if_pos hij, forall_mem_cons]
      by_cases hlt : (i + j) / 2 < k <;>
        cases hb : (xs[(i + j) / 2]?).any before <;>
        simp only [hlt, if_true, if_false, decide_true, decide_false, true_and, false_and,
          iff_false, reduceCtorEq, Bool.false_eq_true]
      · have := (binarySearch_mem_Icc before xs fuel (by omega : i ≤ (i + j) / 2)).2
        exact fun h => absurd h.1 (by omega)
      · exact ih (by omega) hkj (by omega)
      · exact ih hik (by omega) (by omega)
      · have := (binarySearch_mem_Icc before xs fuel (by omega : (i + j) / 2 + 1 ≤ j)).1
        have hk' : ¬(i + j) / 2 < k' := fun h => by simp [hties _ (by omega) h] at hb
        exact fun h => absurd h.2 (by omega)
    · obtain rfl : i = k := by omega
      simpa [hij] using hkk'

variable {p : α → Bool} (hp : xs.Pairwise fun a b => p b → p a)
include hp

/-- Where `p` holds of a first part of the list only, counting it tells what it holds of. -/
theorem split_iff_countP (hi : i ≤ xs.length) :
    ((∀ x ∈ xs.take i, p x) ↔ i ≤ xs.countP p) ∧
      ((∀ x ∈ xs.drop i, ¬p x) ↔ xs.countP p ≤ i) := by
  induction xs generalizing i with
  | nil => simp_all
  | cons x xs ih =>
    obtain ⟨hx, hxs⟩ := pairwise_cons.mp hp
    cases i with
    | zero => simp
    | succ i =>
      obtain ⟨htake, hdrop⟩ := ih hxs (Nat.le_of_succ_le_succ hi)
      by_cases hpx : p x = true
      · simpa [hpx, htake] using hdrop
      · have hnone : ∀ y ∈ xs, ¬p y := fun y hy hpy => hpx (hx y hy hpy)
        have hzero : xs.countP p = 0 := countP_eq_zero.mpr hnone
        simp only [take_succ_cons, forall_mem_cons, hpx, drop_succ_cons,
          countP_cons_of_neg hpx, hzero]
        exact ⟨by simp, by simpa using fun y hy => hnone y (mem_of_mem_drop hy)⟩

theorem lt_countP_iff {x : α} (hx : xs[i]? = some x) : i < xs.countP p ↔ p x := by
  obtain ⟨hi, rfl⟩ := List.getElem?_eq_some_iff.mp hx
  refine ⟨fun h => (split_iff_countP hp hi).1.mpr h _ ?_, fun hpx => not_le.mp fun h => ?_⟩
  · exact mem_take_iff_getElem.mpr ⟨i, by omega, rfl⟩
  · exact (split_iff_countP hp hi.le).2.mpr h _ (mem_drop_iff_getElem.mpr ⟨0, by omega, rfl⟩) hpx

end Search

section Insertion
variable {rvrs : List Replica} (hsorted : rvrs.Pairwise (·.place ≤ ·.place)) (rvr : Replica)
include hsorted

theorem place_lt_imp :
    rvrs.Pairwise fun a b => decide (b.place < rvr.place) → decide (a.place < rvr.place) :=
  hsorted.imp fun h hb => decide_eq_true (h.trans_lt (of_decide_eq_true hb))

theorem place_le_imp :
    rvrs.Pairwise fun a b => decide (b.place ≤ rvr.place) → decide (a.place ≤ rvr.place) :=
  hsorted.imp fun h hb => decide_eq_true (h.trans (of_decide_eq_true hb))

theorem pairwise_insert_iff {i : ℕ} (hi : i ≤ rvrs.length) :
    (rvrs.take i ++ rvr :: rvrs.drop i).Pairwise (·.place ≤ ·.place) ↔
      i ∈ Set.Icc (rvrs.countP (·.place < rvr.place)) (rvrs.countP (·.place ≤ rvr.place)) := by
  rw [Set.mem_Icc, ← (split_iff_countP (place_lt_imp hsorted rvr) hi).2,
    ← (split_iff_countP (place_le_imp hsorted rvr) hi).1]
  rw [← take_append_drop i rvrs, pairwise_append] at hsorted
  obtain ⟨htake, hdrop, hcross⟩ := hsorted
  simp only [pairwise_append, pairwise_cons, forall_mem_cons, decide_eq_true_eq, not_lt, htake,
    hdrop]
  constructor
  · rintro ⟨-, ⟨hafter, -⟩, hbefore⟩
    exact ⟨hafter, fun a ha => (hbefore a ha).1⟩
  · rintro ⟨hafter, hbefore⟩
    exact ⟨trivial, ⟨hafter, trivial⟩, fun a ha => ⟨hbefore a ha, hcross a ha⟩⟩

theorem not_id_lt_of_tie {h : ℕ} (hge : rvrs.countP (·.place < rvr.place) ≤ h)
    (hlt : h < rvrs.countP (·.place ≤ rvr.place)) :
    (rvrs[h]?).any (fun r => r.id < rvr.id) = false := by
  cases hold : rvrs[h]? with
  | none => rfl
  | some old =>
    have hnot := mt (lt_countP_iff (place_lt_imp hsorted rvr) hold).mpr (not_lt.mpr hge)
    have hle := (lt_countP_iff (place_le_imp hsorted rvr) hold).mp hlt
    have hplace : old.place = rvr.place :=
      le_antisymm (of_decide_eq_true hle) (not_lt.mp (mt decide_eq_true hnot))
    have hid : old.id = rvr.id := congrArg (·.2) (toLex.injective hplace)
    simp [hid]

theorem answer_iff {h : ℕ} :
    (rvrs[h]?).any (fun r => r.id < rvr.id) =
        decide (h < rvrs.countP (·.place < rvr.place)) ↔
      ∀ old, rvrs[h]? = some old → old.nodeName ≠ rvr.nodeName →
        (old.id < rvr.id ↔ old.nodeName < rvr.nodeName) := by
  cases hold : rvrs[h]? with
  | none =>
    have := (rvrs.countP_le_length : rvrs.countP (·.place < rvr.place) ≤ _)
    have := List.getElem?_eq_none_iff.mp hold
    simpa using by omega
  | some old =>
    have hplace : old.place < rvr.place ↔ old.nodeName < rvr.nodeName ∨
      old.nodeName = rvr.nodeName ∧ old.id < rvr.id := Prod.Lex.toLex_lt_toLex
    have hcount := lt_countP_iff (place_lt_imp hsorted rvr) hold
    rw [decide_eq_true_eq, hplace] at hcount
    simp only [Option.any_some, decide_eq_decide, hcount, Option.some.injEq, forall_eq']
    by_cases hsame : old.nodeName = rvr.nodeName <;> grind

end Insertion

/-- The new replica and those that were there. They are in order exactly when the ids and the node
names agree about the new replica wherever the search for its place looks at another node. -/
theorem insertion_in_order_iff (listed : List Replica) (rvr : Replica) :
    (insertRVRSorted (getRVRsSorted listed) rvr).Perm (rvr :: getRVRsSorted listed) ∧
      ((insertRVRSorted (getRVRsSorted listed) rvr).Pairwise (·.place ≤ ·.place) ↔
        ∀ h ∈ probes (listed.countP (·.place < rvr.place)) (listed.length + 1) 0 listed.length,
          ∀ old, (getRVRsSorted listed)[h]? = some old → old.nodeName ≠ rvr.nodeName →
            (old.id < rvr.id ↔ old.nodeName < rvr.nodeName)) := by
  have hperm : (getRVRsSorted listed).Perm listed := perm_insertionSort _ listed
  have hsorted := getRVRsSorted_pairwise listed
  rw [← hperm.countP_eq, ← hperm.length_eq]
  clear hperm
  generalize getRVRsSorted listed = rvrs at *
  constructor
  · unfold insertRVRSorted
    exact perm_middle.trans (by rw [take_append_drop])
  · have hle : rvrs.countP (·.place < rvr.place) ≤ rvrs.countP (·.place ≤ rvr.place) :=
      countP_mono_left fun r _ hr => decide_eq_true (of_decide_eq_true hr).le
    rw [insertRVRSorted, pairwise_insert_iff hsorted rvr
        (binarySearch_mem_Icc _ rvrs _ (Nat.zero_le _)).2,
      binarySearch_mem_Icc_iff (Nat.zero_le _) countP_le_length hle (by omega)
        fun _ => not_id_lt_of_tie hsorted rvr]
    exact forall₂_congr fun _ _ => answer_iff hsorted rvr

/-- A new replica without a node is listed first, and its id puts it last. -/
theorem new_replica_misplaced :
    insertRVRSorted (getRVRsSorted [joiningReplica 0 "a"]) (joiningReplica 1 "") =
      [joiningReplica 0 "a", joiningReplica 1 ""] ∧
    getRVRsSorted [joiningReplica 0 "a", joiningReplica 1 ""] =
      [joiningReplica 1 "", joiningReplica 0 "a"] := by
  decide +kernel

end ReplicatedVolume.Volume
