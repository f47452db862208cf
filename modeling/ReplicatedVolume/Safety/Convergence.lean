import ReplicatedVolume.Volume.Convergence
import ReplicatedVolume.Safety.Formation

/-!
# Convergence and the number of tie-breakers

Tie-breakers that stay, replicas that are to join as one and Diskful members about to become one
are the tie-breakers a volume is heading for. A convergence action adds one, by the list that its
pass has read, and a retype does not look for replicas that are still to join.
-/

namespace ReplicatedVolume.Volume
open Datamesh Dmte Option

variable {id : ReplicaID} {m : DatameshMember} {report : ConvergedReport} {rvr : Replica}

def stayingTieBreakers (rv : VolumeObject) (rvrs : List Replica) : ℕ :=
  rv.datamesh.members.countP fun m => m.type = .tieBreaker && !isTieBreakerLeaving rvrs m

def retypedMembers (rv : VolumeObject) (rvrs : List Replica) : ℕ :=
  rv.datamesh.members.countP (isRetypePending rvrs)

def tieBreakerSum (rv : VolumeObject) (rvrs : List Replica) : ℕ :=
  stayingTieBreakers rv rvrs + countPendingTieBreakerCreations rv rvrs + retypedMembers rv rvrs

/-- The list of the pass shows every object that exists, with its type and its deletion mark, and
tie-breakers that it shows as leaving are not gone yet. -/
structure Shows (rv : VolumeObject) (view current : List Replica) : Prop where
  shown : ∀ rvr ∈ current, ∃ v, findRVRByName view rvr.id = some v ∧ v.type = rvr.type ∧
    v.deleting = rvr.deleting
  kept : ∀ m ∈ rv.datamesh.members, isTieBreakerLeaving view m = true →
    (findRVRByName current m.id).isSome = true

variable {rv : VolumeObject} {c : Configuration} {view current rvrs : List Replica}
  {rvas : List RVA}

theorem findRVRByName_mem (h : findRVRByName rvrs id = some rvr) : rvr ∈ rvrs ∧ rvr.id = id :=
  ⟨List.mem_of_find?_eq_some h, by simpa using List.find?_some h⟩

theorem Shows.found (h : Shows rv view current) (hfind : findRVRByName current id = some rvr) :
    ∃ v, findRVRByName view id = some v ∧ v.type = rvr.type ∧ v.deleting = rvr.deleting := by
  obtain ⟨hmem, rfl⟩ := findRVRByName_mem hfind
  exact h.shown rvr hmem

theorem Shows.retyped_le (h : Shows rv view current) :
    retypedMembers rv current ≤ retypedMembers rv view := by
  refine List.countP_mono_left fun m _ hm => ?_
  simp only [isRetypePending, Bool.and_eq_true, any_eq_true, decide_eq_true_eq] at hm ⊢
  obtain ⟨htype, rvr, hfind, hrvr⟩ := hm
  obtain ⟨v, hv, hsame, -⟩ := h.found hfind
  exact ⟨htype, v, hv, hsame.trans hrvr⟩

theorem Shows.staying_le (h : Shows rv view current) :
    stayingTieBreakers rv current ≤ stayingTieBreakers rv view := by
  refine List.countP_mono_left fun m hmem hm => ?_
  simp only [Bool.and_eq_true, decide_eq_true_eq, Bool.not_eq_true'] at hm ⊢
  refine ⟨hm.1, ?_⟩
  by_contra hleaving
  rw [Bool.not_eq_false] at hleaving
  obtain ⟨rvr, hfind⟩ := isSome_iff_exists.mp (h.kept m hmem hleaving)
  obtain ⟨v, hv, -, hdeleting⟩ := h.found hfind
  simp only [isTieBreakerLeaving, hm.1, hv, hfind, decide_true, Bool.true_and, any_some]
    at hleaving hm
  rw [hdeleting, hm.2] at hleaving
  cases hleaving

theorem findRVRByName_of_mem (hids : (rvrs.map (·.id)).Nodup) (h : rvr ∈ rvrs) :
    findRVRByName rvrs rvr.id = some rvr := by
  cases hfind : findRVRByName rvrs rvr.id with
  | none => exact absurd h (by simpa using List.find?_eq_none.mp hfind rvr)
  | some found =>
    obtain ⟨hmem, hid⟩ := findRVRByName_mem hfind
    rw [List.inj_on_of_nodup_map hids hmem h hid]

theorem Shows.refl (rv : VolumeObject) (hids : (rvrs.map (·.id)).Nodup) : Shows rv rvrs rvrs := by
  refine ⟨fun rvr h => ⟨rvr, findRVRByName_of_mem hids h, rfl, rfl⟩, fun m _ hleaving => ?_⟩
  rw [isTieBreakerLeaving, Bool.and_eq_true, any_eq_true] at hleaving
  obtain ⟨-, rvr, hfind, -⟩ := hleaving
  rw [hfind, isSome_some]

theorem staying_add_leaving (rv : VolumeObject) (rvrs : List Replica) :
    stayingTieBreakers rv rvrs + (deletingTieBreakerMemberNames rv rvrs).length =
      (computeActualLayout rv).2 := by
  have hleaving : (deletingTieBreakerMemberNames rv rvrs).length =
      rv.datamesh.members.countP fun m => m.type = .tieBreaker && isTieBreakerLeaving rvrs m := by
    rw [deletingTieBreakerMemberNames, sortedNames, List.length_insertionSort, List.length_map,
      List.countP_eq_length_filter]
    congr 1
    refine List.filter_congr fun m _ => ?_
    by_cases htype : m.type = .tieBreaker <;> simp [isTieBreakerLeaving, htype]
  have hsplit := List.countP_eq_countP_filter_add rv.datamesh.members (·.type = .tieBreaker)
    (isTieBreakerLeaving rvrs)
  rw [List.countP_filter, List.countP_filter] at hsplit
  rw [hleaving, computeActualLayout, stayingTieBreakers]
  simp only at hsplit ⊢
  omega

theorem Shows.pending_le (h : Shows rv view current) (hids : (current.map (·.id)).Nodup) :
    countPendingTieBreakerCreations rv current ≤ countPendingTieBreakerCreations rv view := by
  have hsubset :
      idsWith current (isPendingTieBreaker rv) ⊆ idsWith view (isPendingTieBreaker rv) := by
    intro id hid
    obtain ⟨rvr, hrvr, hp, rfl⟩ := mem_idsWith.mp hid
    obtain ⟨v, hv, htype, hdeleting⟩ := h.shown rvr hrvr
    obtain ⟨hmem, hvid⟩ := findRVRByName_mem hv
    refine mem_idsWith.mpr ⟨v, hmem, ?_, hvid⟩
    simpa only [isPendingTieBreaker, htype, hdeleting, hvid] using hp
  calc countPendingTieBreakerCreations rv current
      = (idsWith current (isPendingTieBreaker rv)).card := (card_idsWith hids _).symm
    _ ≤ (idsWith view (isPendingTieBreaker rv)).card := Finset.card_le_card hsubset
    _ ≤ countPendingTieBreakerCreations rv view := by
        refine (List.toFinset_card_le _).trans (Nat.le_of_eq ?_)
        rw [List.length_map, countPendingTieBreakerCreations, List.countP_eq_length_filter]

theorem retypedMembers_eq_zero (h : pendingRetypeToTieBreakerMemberNames rv view = []) :
    retypedMembers rv view = 0 := by
  have hlength := congrArg List.length h
  rwa [pendingRetypeToTieBreakerMemberNames, sortedNames, List.length_insertionSort,
    List.length_map, ← List.countP_eq_length_filter] at hlength

theorem replacement_decided {action : LayoutAction}
    (h : computeTargetTieBreakerReplacement rv c view = some (action, report))
    (hnone : action ≠ .none) : action = .createTieBreaker ∧
      stayingTieBreakers rv view + countPendingTieBreakerCreations rv view <
        (intendedLayout c).2 := by
  have hcount := staying_add_leaving rv view
  simp only [computeTargetTieBreakerReplacement] at h
  split at h
  · cases h
  · split at h
    · cases h
      exact absurd rfl hnone
    · split at h
      · split at h <;> cases h <;> exact absurd rfl hnone
      · cases h
        exact ⟨rfl, by omega⟩

theorem compareLayouts_decided {action : LayoutAction}
    (h : compareLayouts rv c view rvas = (action, report)) (hnone : action ≠ .none) :
    (∃ m ∈ rv.datamesh.members, m.type = .diskful ∧ action = .retypeToTieBreaker m.id ∧
      (intendedLayout c).1 < (computeActualLayout rv).1 ∧
      (computeActualLayout rv).2 < (intendedLayout c).2) ∨
    (action = .createTieBreaker ∧
      (computeActualLayout rv).2 + countPendingTieBreakerCreations rv view <
        (intendedLayout c).2) := by
  simp only [compareLayouts] at h
  split at h
  · cases h
    exact absurd rfl hnone
  · split at h
    · next hmismatch =>
      split at h <;> cases h
      · exact absurd rfl hnone
      · next hcandidate =>
        obtain ⟨m, hm, rfl, htype, -⟩ := selectRetypeCandidate_ok hcandidate
        exact .inl ⟨m, hm, htype, rfl, hmismatch⟩
    · split at h
      · split at h
        · split at h <;> cases h <;> exact absurd rfl hnone
        · cases h
          exact .inr ⟨rfl, by omega⟩
      · cases h
        exact absurd rfl hnone

/-- A tie-breaker is made only when none is on its way, by the replacement or by the comparison
of the layouts. -/
theorem decided_cases {action : LayoutAction}
    (h : (computeTargetLayoutAction rv c view rvas).1 = action) (hnone : action ≠ .none) :
    retypedMembers rv view = 0 ∧ ∃ report,
      compareLayouts rv c view rvas = (action, report) ∨
        computeTargetTieBreakerReplacement rv c view = some (action, report) := by
  unfold computeTargetLayoutAction at h
  split at h
  · exact absurd h.symm hnone
  · split at h
    · exact absurd h.symm hnone
    · split at h
      · rename_i hretyped
        refine ⟨retypedMembers_eq_zero hretyped, ?_⟩
        cases hreplacement : computeTargetTieBreakerReplacement rv c view with
        | none =>
          rw [hreplacement, getD_none] at h
          exact ⟨_, .inl (Prod.ext h rfl)⟩
        | some decided =>
          rw [hreplacement, getD_some] at h
          exact ⟨_, .inr (congrArg some (Prod.ext h rfl))⟩
      · exact absurd h.symm hnone

theorem retype_decided (h : (computeTargetLayoutAction rv c view rvas).1 = .retypeToTieBreaker id) :
    retypedMembers rv view = 0 ∧ (intendedLayout c).1 < (computeActualLayout rv).1 ∧
      (computeActualLayout rv).2 < (intendedLayout c).2 ∧
      ∃ m ∈ rv.datamesh.members, m.id = id ∧ m.type = .diskful := by
  obtain ⟨hretyped, report, hcompared | hreplacement⟩ := decided_cases h nofun
  · obtain ⟨m, hm, htype, hid, hmismatch⟩ | ⟨hcreate, -⟩ := compareLayouts_decided hcompared nofun
    · cases hid
      exact ⟨hretyped, hmismatch.1, hmismatch.2, m, hm, rfl, htype⟩
    · cases hcreate
  · cases (replacement_decided hreplacement nofun).1

theorem create_decided (h : (computeTargetLayoutAction rv c view rvas).1 = .createTieBreaker) :
    retypedMembers rv view = 0 ∧
      stayingTieBreakers rv view + countPendingTieBreakerCreations rv view <
        (intendedLayout c).2 := by
  obtain ⟨hretyped, report, hcompared | hreplacement⟩ := decided_cases h nofun
  · obtain ⟨m, -, -, hid, -⟩ | ⟨-, hdeficit⟩ := compareLayouts_decided hcompared nofun
    · cases hid
    · have hcount := staying_add_leaving rv view
      omega
  · exact ⟨hretyped, (replacement_decided hreplacement nofun).2⟩

theorem findRVRByName_map {f : Replica → Replica} (hid : ∀ rvr, (f rvr).id = rvr.id)
    (rvrs : List Replica) (id : ReplicaID) :
    findRVRByName (rvrs.map f) id = (findRVRByName rvrs id).map f := by
  rw [findRVRByName, findRVRByName, List.find?_map]
  simp only [Function.comp_def, hid]

theorem findRVRByName_append (rvrs : List Replica) (rvr : Replica) (id : ReplicaID) :
    findRVRByName (rvrs ++ [rvr]) id =
      (findRVRByName rvrs id).or (if rvr.id = id then some rvr else none) := by
  rw [findRVRByName, findRVRByName, List.find?_append]
  by_cases h : rvr.id = id <;> simp [h]

theorem countP_le_add {α : Type} {p p' q : α → Bool} {xs : List α}
    (h : ∀ x ∈ xs, p' x = true → p x = true ∨ q x = true) :
    xs.countP p' ≤ xs.countP p + xs.countP q := by
  induction xs with
  | nil => simp
  | cons x xs ih =>
    have hxs := ih fun y hy => h y (List.mem_cons_of_mem x hy)
    have hx := h x List.mem_cons_self
    simp only [List.countP_cons]
    split
    · obtain hp | hq := hx ‹_›
      · simp only [hp, if_true]; omega
      · simp only [hq, if_true]; omega
    · omega

theorem countP_id_le_one (hids : (rv.datamesh.members.map (·.id)).Nodup) (id : ReplicaID) :
    rv.datamesh.members.countP (·.id = id) ≤ 1 := by
  have hcount := List.nodup_iff_count_le_one.mp hids id
  rw [List.count, List.countP_map] at hcount
  simpa only [Function.comp_def, beq_iff_eq, Bool.decide_eq_true, beq_eq_decide] using hcount

def retypedWithin (rvrs : List Replica) (id : ReplicaID) : List Replica :=
  rvrs.map fun rvr => if rvr.id = id then applyRVRRetypeToTieBreaker rvr else rvr

theorem retyped_within_id (id : ReplicaID) (rvr : Replica) :
    (if rvr.id = id then applyRVRRetypeToTieBreaker rvr else rvr).id = rvr.id := by
  split <;> rfl

theorem sum_retyped_le (rvrs : List Replica) (hids : (rv.datamesh.members.map (·.id)).Nodup)
    (hm : m ∈ rv.datamesh.members) :
    tieBreakerSum rv (retypedWithin rvrs m.id) ≤ tieBreakerSum rv rvrs + 1 := by
  have hstaying : stayingTieBreakers rv (retypedWithin rvrs m.id) = stayingTieBreakers rv rvrs := by
    refine List.countP_congr fun n _ => ?_
    simp only [isTieBreakerLeaving, retypedWithin, findRVRByName_map (retyped_within_id m.id),
      any_map]
    have hdeleting : ∀ rvr : Replica,
        (if rvr.id = m.id then applyRVRRetypeToTieBreaker rvr else rvr).deleting =
          rvr.deleting := by
      intro rvr
      split <;> rfl
    simp only [hdeleting]
  have hpending : countPendingTieBreakerCreations rv (retypedWithin rvrs m.id) =
      countPendingTieBreakerCreations rv rvrs := by
    rw [countPendingTieBreakerCreations, retypedWithin, List.countP_map]
    refine List.countP_congr fun rvr _ => ?_
    rw [Function.comp_apply]
    split
    · have hmember : (findMemberByName rv rvr.id).isSome = true := by
        rw [findMemberByName, List.find?_isSome]
        exact ⟨m, hm, by simp [*]⟩
      have hnot : (findMemberByName rv rvr.id).isNone = false := by
        rw [isNone_eq_false_iff]; exact hmember
      simp [isPendingTieBreaker, applyRVRRetypeToTieBreaker, hnot]
    · rfl
  have hretyped : retypedMembers rv (retypedWithin rvrs m.id) ≤ retypedMembers rv rvrs + 1 := by
    refine (countP_le_add (q := fun n => n.id = m.id) fun n _ hn => ?_).trans
      (Nat.add_le_add_left (countP_id_le_one hids m.id) _)
    by_cases hsame : n.id = m.id
    · exact .inr (by simp [hsame])
    · refine .inl ?_
      simp only [isRetypePending, retypedWithin, findRVRByName_map (retyped_within_id m.id),
        Bool.and_eq_true, any_eq_true, map_eq_some_iff, decide_eq_true_eq] at hn ⊢
      obtain ⟨htype, _, ⟨rvr, hfind, rfl⟩, hrvr⟩ := hn
      rw [if_neg ((findRVRByName_mem hfind).2 ▸ hsame)] at hrvr
      exact ⟨htype, rvr, hfind, hrvr⟩
  unfold tieBreakerSum
  omega

theorem isRetypePending_append (h : isRetypePending (rvrs ++ [rvr]) m = true) :
    isRetypePending rvrs m = true ∨ decide (m.id = rvr.id) = true := by
  simp only [isRetypePending, findRVRByName_append, Bool.and_eq_true] at h ⊢
  cases hfind : findRVRByName rvrs m.id with
  | some found =>
    rw [hfind, some_or] at h
    exact .inl h
  | none =>
    rw [hfind, none_or] at h
    split at h
    · exact .inr (by simp [*])
    · cases h.2

/-- A new object is a replica that is still to join, or it stands for a member that has lost its
own. -/
theorem sum_created_le (rvrs : List Replica) (hids : (rv.datamesh.members.map (·.id)).Nodup)
    (rvr : Replica) :
    tieBreakerSum rv (rvrs ++ [rvr]) ≤ tieBreakerSum rv rvrs + 1 := by
  have hstaying : stayingTieBreakers rv (rvrs ++ [rvr]) ≤ stayingTieBreakers rv rvrs := by
    refine List.countP_mono_left fun m _ hm => ?_
    simp only [Bool.and_eq_true, decide_eq_true_eq, Bool.not_eq_true', isTieBreakerLeaving,
      findRVRByName_append] at hm ⊢
    refine ⟨hm.1, ?_⟩
    cases hfind : findRVRByName rvrs m.id with
    | some found => simpa only [hfind, some_or] using hm.2
    | none => simp
  have hpending : countPendingTieBreakerCreations rv (rvrs ++ [rvr]) =
      countPendingTieBreakerCreations rv rvrs + if isPendingTieBreaker rv rvr then 1 else 0 := by
    rw [countPendingTieBreakerCreations, List.countP_append, List.countP_singleton]
    rfl
  by_cases hmember : ∃ m ∈ rv.datamesh.members, m.id = rvr.id
  · have hnot : isPendingTieBreaker rv rvr = false := by
      have hsome : (findMemberByName rv rvr.id).isSome = true := by
        simpa [findMemberByName, List.find?_isSome] using hmember
      simp [isPendingTieBreaker, isNone_eq_false_iff.mpr hsome]
    have hretyped : retypedMembers rv (rvrs ++ [rvr]) ≤ retypedMembers rv rvrs + 1 :=
      (countP_le_add fun m _ hm => isRetypePending_append hm).trans
        (Nat.add_le_add_left (countP_id_le_one hids rvr.id) _)
    rw [hnot] at hpending
    unfold tieBreakerSum
    simp only [Bool.false_eq_true, if_false] at hpending
    omega
  · have hretyped : retypedMembers rv (rvrs ++ [rvr]) ≤ retypedMembers rv rvrs := by
      refine List.countP_mono_left fun m hm hpending => ?_
      obtain h | h := isRetypePending_append hpending
      · exact h
      · exact absurd ⟨m, hm, of_decide_eq_true h⟩ hmember
    unfold tieBreakerSum
    split at hpending <;> omega

namespace LayoutWorld

def Within (c : Configuration) (w : LayoutWorld) : Prop :=
  tieBreakerSum w.rv w.replicas ≤ (intendedLayout c).2

instance (c : Configuration) (w : LayoutWorld) : Decidable (w.Within c) :=
  inferInstanceAs (Decidable (_ ≤ _))

/-- The pass has read a list that shows the objects as they are, and with a surplus of Diskful
members no tie-breaker replica is on its way to membership. -/
structure Informed (c : Configuration) (w : LayoutWorld) (view : List Stored) : Prop where
  shows : Shows w.rv (view.map (·.replica)) w.replicas
  settled : (intendedLayout c).1 < (computeActualLayout w.rv).1 →
    ∀ s ∈ w.store, isPendingTieBreaker w.rv s.replica = false

variable {w : LayoutWorld} {store : List Stored}

theorem replicas_ids (w : LayoutWorld) : (w.replicas.map (·.id)).Nodup := by
  rw [replicas, List.map_map]
  exact w.ids

theorem pending_eq_zero (h : ∀ s ∈ w.store, isPendingTieBreaker w.rv s.replica = false) :
    countPendingTieBreakerCreations w.rv w.replicas = 0 := by
  rw [countPendingTieBreakerCreations, replicas, List.countP_map, List.countP_eq_zero]
  intro s hs
  simp [h s hs]

theorem patchRVR_replicas (w : LayoutWorld) (base : Stored) :
    (w.patchRVR base).rv = w.rv ∧ ((w.patchRVR base).replicas = w.replicas ∨
      (w.patchRVR base).replicas = retypedWithin w.replicas base.replica.id) := by
  unfold patchRVR
  split
  · refine ⟨rfl, .inr ?_⟩
    simp only [replicas, retyped, retypedWithin, List.map_map, List.map_inj_left,
      Function.comp_apply]
    intro s _
    split <;> rfl
  · exact ⟨rfl, .inl rfl⟩

theorem createRVR_replicas (w : LayoutWorld) (rvr : Replica) :
    (w.createRVR rvr).rv = w.rv ∧ ((w.createRVR rvr).replicas = w.replicas ∨
      (w.createRVR rvr).replicas = w.replicas ++ [rvr]) := by
  unfold createRVR
  split
  · exact ⟨rfl, .inl rfl⟩
  · exact ⟨rfl, .inr (by simp [replicas])⟩

theorem patchRVR_within {base : Stored} (hm : m ∈ w.rv.datamesh.members)
    (hid : m.id = base.replica.id) (hsum : tieBreakerSum w.rv w.replicas < (intendedLayout c).2) :
    (w.patchRVR base).Within c := by
  obtain ⟨hrv, hreplicas⟩ := patchRVR_replicas w base
  have hadded := sum_retyped_le w.replicas w.memberIDs hm
  rw [Within, hrv]
  obtain hsame | hretyped := hreplicas
  · rw [hsame]
    omega
  · rw [hretyped, ← hid]
    omega

theorem createRVR_within
    (hsum : tieBreakerSum w.rv w.replicas < (intendedLayout c).2) : (w.createRVR rvr).Within c := by
  obtain ⟨hrv, hreplicas⟩ := createRVR_replicas w rvr
  have hadded := sum_created_le w.replicas w.memberIDs rvr
  rw [Within, hrv]
  obtain hsame | hcreated := hreplicas
  · rw [hsame]
    omega
  · rw [hcreated]
    omega

theorem Informed.sum_lt {view : List Stored} (h : w.Informed c view)
    (haction : (computeTargetLayoutAction w.rv c (view.map (·.replica)) rvas).1 ≠ .none) :
    tieBreakerSum w.rv w.replicas < (intendedLayout c).2 := by
  have hstaying := h.shows.staying_le
  have hretyped := h.shows.retyped_le
  have hpending := h.shows.pending_le w.replicas_ids
  unfold tieBreakerSum
  cases hdecided : (computeTargetLayoutAction w.rv c (view.map (·.replica)) rvas).1 with
  | none => exact absurd hdecided haction
  | retypeToTieBreaker id =>
    obtain ⟨hnone, hsurplus, hdeficit, -⟩ := retype_decided hdecided
    have hpending := pending_eq_zero (h.settled hsurplus)
    have hcount := staying_add_leaving w.rv (view.map (·.replica))
    omega
  | createTieBreaker =>
    obtain ⟨hnone, hdeficit⟩ := create_decided hdecided
    omega

theorem reconcileLayoutConvergence_within {view : List Stored}
    (hc : w.rv.configuration = some c) (h : w.Informed c view) (hsum : w.Within c) :
    (w.reconcileLayoutConvergence view rvas).Within c := by
  unfold reconcileLayoutConvergence
  rw [hc]
  simp only
  split
  · exact hsum
  · split
    · rename_i id hdecided
      split
      · exact hsum
      · rename_i base hbase
        obtain ⟨m, hm, hid, -⟩ := (retype_decided hdecided).2.2.2
        have hname : base.replica.id = id := by simpa using List.find?_some hbase
        exact patchRVR_within hm (hid.trans hname.symm)
          (h.sum_lt (by rw [hdecided]; exact LayoutAction.noConfusion))
    · rename_i hdecided
      split
      · exact hsum
      · exact createRVR_within (h.sum_lt (by rw [hdecided]; exact LayoutAction.noConfusion))
    · exact hsum

theorem reconcileLayoutConvergence_rv (w : LayoutWorld) (view : List Stored) (rvas : List RVA) :
    (w.reconcileLayoutConvergence view rvas).rv = w.rv := by
  fun_cases reconcileLayoutConvergence w view rvas with
  | case4 => exact (patchRVR_replicas w _).1
  | case6 => exact (createRVR_replicas w _).1
  | _ => rfl

variable {start u w' : LayoutWorld} {events : List LayoutEvent}

theorem step_configuration {event : LayoutEvent} (h : w.step event = some w') :
    w'.rv.configuration = w.rv.configuration := by
  cases event with
  | pass version rvas =>
    obtain ⟨view, -, hstep⟩ := bind_eq_some_iff.mp h
    split at hstep
    · cases hstep
      exact congrArg (·.configuration) (reconcileLayoutConvergence_rv w view rvas)
    · cases hstep
  | outside rv store =>
    simp only [step] at h
    split at h
    · rename_i hallows
      cases h
      exact hallows.1
    · cases h

theorem run_append (w : LayoutWorld) (before after : List LayoutEvent) :
    w.run (before ++ after) = (w.run before).bind fun u => u.run after := by
  induction before generalizing w with
  | nil => rfl
  | cons event before ih => simp only [List.cons_append, run, ih, bind_assoc]

theorem run_configuration (h : start.run events = some w) :
    w.rv.configuration = start.rv.configuration := by
  induction events generalizing start with
  | nil =>
    cases h
    rfl
  | cons event events ih =>
    obtain ⟨u, hstep, hrun⟩ := bind_eq_some_iff.mp h
    exact (ih hrun).trans (step_configuration hstep)

/-- Only a write that goes through needs an informed pass: an object whose name is taken is not
created, and an outdated one is not patched. -/
def PassesInformed (c : Configuration) (start : LayoutWorld) (events : List LayoutEvent) : Prop :=
  ∀ before version rvas after, events = before ++ .pass version rvas :: after →
    ∀ u view, start.run before = some u → u.versions[version]? = some view →
      (u.reconcileLayoutConvergence view rvas).replicas ≠ u.replicas → u.Informed c view

def OverrunFromOutside (c : Configuration) (start : LayoutWorld) (events : List LayoutEvent) :
    Prop :=
  ∃ before rv store after u u', events = before ++ .outside rv store :: after ∧
    start.run before = some u ∧ u.step (.outside rv store) = some u' ∧ u.Within c ∧
    ∀ early v, early <+: after → u'.run early = some v → ¬ v.Within c

theorem OverrunFromOutside.later {event : LayoutEvent} (h : OverrunFromOutside c start events)
    (hrun : start.run (events ++ [event]) = some w) (hover : ¬ w.Within c) :
    OverrunFromOutside c start (events ++ [event]) := by
  obtain ⟨before, rv, store, after, u, u', rfl, hbefore, hstep, hwithin, hafter⟩ := h
  refine ⟨before, rv, store, after ++ [event], u, u', by simp, hbefore, hstep, hwithin, ?_⟩
  intro early v hearly hv
  obtain rfl | hearly := List.prefix_concat_iff.mp hearly
  · rw [List.append_assoc, run_append, hbefore, bind_some, List.cons_append, run, hstep,
      bind_some, hv] at hrun
    cases hrun
    exact hover
  · exact hafter early v hearly hv

theorem pass_within {version : ℕ} (hstep : u.step (.pass version rvas) = some w)
    (hc : u.rv.configuration = some c)
    (hinformed : ∀ view, u.versions[version]? = some view →
      (u.reconcileLayoutConvergence view rvas).replicas ≠ u.replicas → u.Informed c view)
    (hsum : u.Within c) : w.Within c := by
  obtain ⟨view, hview, hstep⟩ := bind_eq_some_iff.mp hstep
  split at hstep
  · cases hstep
    by_cases hsame : (u.reconcileLayoutConvergence view rvas).replicas = u.replicas
    · change (u.reconcileLayoutConvergence view rvas).Within c
      rwa [Within, reconcileLayoutConvergence_rv, hsame]
    · exact reconcileLayoutConvergence_within hc (hinformed view hview hsame) hsum
  · cases hstep

/-- While every pass that writes is informed, the last step that took a volume over its intended
number of tie-breakers is not a convergence action. -/
theorem convergence_keeps_tieBreakers_intended (hrun : start.run events = some w)
    (hc : start.rv.configuration = some c) (hstart : start.Within c)
    (hpasses : PassesInformed c start events) :
    w.Within c ∨ OverrunFromOutside c start events := by
  -- On the last step of the run: only it can have crossed the bound if the state before is within.
  induction events using List.reverseRecOn generalizing w with
  | nil =>
    cases hrun
    exact .inl hstart
  | append_singleton events event ih =>
    have hlast := hrun
    rw [run_append] at hlast
    obtain ⟨u, hbefore, hstep⟩ := bind_eq_some_iff.mp hlast
    have hstep : u.step event = some w := by simpa [run] using hstep
    by_cases hover : w.Within c
    · exact .inl hover
    right
    have hearlier : PassesInformed c start events := fun before version rvas after heq =>
      hpasses before version rvas (after ++ [event]) (by simp [heq])
    obtain hu | houtside := ih hbefore hearlier
    · cases event with
      | pass version rvas =>
        refine absurd (pass_within hstep ((run_configuration hbefore).trans hc) ?_ hu) hover
        intro view hview
        exact hpasses events version rvas [] rfl u view hbefore hview
      | outside rv store =>
        refine ⟨events, rv, store, [], u, w, rfl, hbefore, hstep, hu, ?_⟩
        intro early v hearly hv
        rw [List.prefix_nil.mp hearly] at hv
        cases hv
        exact hover
    · exact houtside.later hrun hover

end LayoutWorld

def surplusMember (id : ReplicaID) (nodeName : String) : DatameshMember :=
  ⟨id, .diskful, nodeName, "", [⟨"net", "10.0.0.1", 7000⟩], "vg", "", false⟩

def surplusVolume : VolumeObject :=
  { newVolume with
    datameshRevision := 9
    datamesh := { DatameshStatus.zero with
      members := [surplusMember 0 "a", surplusMember 1 "b", surplusMember 2 "c"] } }

def surplusReplica (id : ReplicaID) (type : ReplicaType) (nodeName : String) : Stored :=
  { replica :=
      { id, deleting := false, generation := 1, nodeName, type, conditions := [], addresses := []
        backingVolume := none, datameshRevision := 9, attachment := none, quorum := some true
        peers := [], finalizer := true, lvmVolumeGroupName := "", lvmVolumeGroupThinPoolName := ""
        datameshRequest := none, datameshRevisionObservedByAgent := 9
        peerType := fun _ => .diskful }
    resourceVersion := 0 }

def surplusReplicas : List Stored :=
  [surplusReplica 0 .diskful "a", surplusReplica 1 .diskful "b", surplusReplica 2 .diskful "c"]

def surplusWorld : LayoutWorld :=
  { rv := surplusVolume, earlier := [], store := surplusReplicas, resourceVersion := 1, read := 0
    memberIDs := by decide, ids := by decide }

theorem surplusWorld_informed : surplusWorld.Informed oneFailure surplusReplicas :=
  ⟨Shows.refl surplusVolume surplusWorld.replicas_ids, fun _ => by decide⟩

theorem convergence_keeps_tieBreakers_surplus :
    surplusWorld.Within oneFailure ∧ ∃ w, surplusWorld.run [.pass 0 []] = some w ∧
      (w.Within oneFailure ∨
        LayoutWorld.OverrunFromOutside oneFailure surplusWorld [.pass 0 []]) := by
  have hstart : surplusWorld.Within oneFailure := by decide +kernel
  obtain ⟨w, hrun⟩ := isSome_iff_exists.mp
    (show (surplusWorld.run [.pass 0 []]).isSome = true by decide +kernel)
  refine ⟨hstart, w, hrun, LayoutWorld.convergence_keeps_tieBreakers_intended hrun rfl hstart ?_⟩
  intro before version rvas after hevents u view hu hview _
  cases before with
  | nil =>
    cases hevents
    cases hu
    cases hview
    exact surplusWorld_informed
  | cons event before => simp at hevents

def crowdedWorld : LayoutWorld :=
  { surplusWorld with
    store := surplusReplicas ++ [surplusReplica 3 .tieBreaker "d"]
    ids := by decide }

/-- A pass that sees everything retypes a Diskful replica next to a tie-breaker that is still to
join. A pass that has not seen the last retype picks another replica once the one it would have
picked is attached. -/
theorem convergence_overshoots :
    (crowdedWorld.Within oneFailure ∧
      (crowdedWorld.run [.pass 0 []]).any (fun w => decide (¬ w.Within oneFailure)) = true) ∧
    surplusWorld.Within oneFailure ∧
      (surplusWorld.run [.pass 0 []]).any (fun w => decide (w.Within oneFailure)) = true ∧
      (surplusWorld.run [.pass 0 [], .pass 0 [⟨"c", false, 0⟩]]).any
        (fun w => decide (¬ w.Within oneFailure)) = true := by
  decide +kernel

end ReplicatedVolume.Volume
