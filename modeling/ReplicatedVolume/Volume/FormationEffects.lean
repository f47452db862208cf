import ReplicatedVolume.Volume.Adoption

/-!
# What a formation pass does

The first step lets a volume go on only with the replicas of its layout, and with none that the
pass itself created. The other steps keep the datamesh as it is while they wait, reset it, fill it
once with the replicas that are there, or end formation.
-/

namespace ReplicatedVolume.Volume
open Datamesh Dmte List

variable {p : Pass} {ids diskful tiebreakers : Finset ReplicaID} {type : ReplicaType}
  {new : Replica} {targetD targetTB : ℕ} {s s' : Status} {flow : Flow} {api : Answers}
  {rv : VolumeObject} {rvrs rvrs' : List Replica} {c : Configuration} {rsp : Pool}
  {m : DatameshMember} {rvr : Replica} {what : String}

theorem mem_idsWith {p : Replica → Bool} {id : ReplicaID} :
    id ∈ idsWith rvrs p ↔ ∃ rvr ∈ rvrs, p rvr = true ∧ rvr.id = id := by
  simp only [idsWith, mem_toFinset, mem_map, mem_filter, and_assoc]

def Listed (rvrs : List Replica) : Prop := (rvrs.map (·.id)).Nodup

theorem Listed.eq_of_id (h : Listed rvrs) {a b : Replica} (ha : a ∈ rvrs) (hb : b ∈ rvrs)
    (hid : a.id = b.id) : a = b := inj_on_of_nodup_map h ha hb hid

theorem Listed.mem_idsWith_id (h : Listed rvrs) {p : Replica → Bool}
    (hrvr : rvr ∈ rvrs) : rvr.id ∈ idsWith rvrs p ↔ p rvr = true := by
  rw [mem_idsWith]
  constructor
  · rintro ⟨other, hother, hp, hid⟩
    exact h.eq_of_id hother hrvr hid ▸ hp
  · exact fun hp => ⟨rvr, hrvr, hp, rfl⟩

theorem card_idsWith (h : Listed rvrs) (p : Replica → Bool) :
    (idsWith rvrs p).card = rvrs.countP p := by
  rw [idsWith, toFinset_card_of_nodup (h.sublist (filter_sublist.map _)), length_map,
    countP_eq_length_filter]

theorem deleteRVRs_idle {which : Replica → Bool}
    (h : deleteRVRs api which rvrs = (rvrs', none)) (hnone : ∀ rvr ∈ rvrs', rvr.deleting = false) :
    rvrs' = rvrs ∧ ∀ rvr ∈ rvrs, which rvr = false := by
  induction rvrs generalizing rvrs' with
  | nil =>
    obtain rfl : [] = rvrs' := congrArg Prod.fst h
    simp
  | cons rvr rest ih =>
    simp only [deleteRVRs] at h
    split at h
    · split at h
      · cases h
      · obtain rfl : _ = rvrs' := congrArg Prod.fst h
        exact absurd (hnone _ mem_cons_self) (by simp)
    · rename_i hkeep
      obtain rfl : _ = rvrs' := congrArg Prod.fst h
      have hrest : (deleteRVRs api which rest).2 = none := congrArg Prod.snd h
      obtain ⟨heq, hall⟩ := ih (Prod.ext rfl hrest) fun r hr => hnone r (mem_cons_of_mem _ hr)
      refine ⟨congrArg (rvr :: ·) heq, ?_⟩
      intro r hr
      rcases mem_cons.mp hr with rfl | hr
      · simpa using hkeep
      · exact hall r hr

theorem maxID_mem {id : ReplicaID} (h : maxID ids = some id) : id ∈ ids := by
  simpa using List.find?_some h

theorem maxID_isSome (h : ids ≠ ∅) : ∃ id ∈ ids, maxID ids = some id := by
  obtain ⟨x, hx⟩ := Finset.nonempty_iff_ne_empty.mpr h
  cases hmax : maxID ids with
  | none =>
    have := List.find?_eq_none.mp hmax x (by simp)
    exact absurd hx (by simpa using this)
  | some id => exact ⟨id, maxID_mem hmax, rfl⟩

theorem trimExcess_spec (scheduled preconfigured : Finset ReplicaID) (excess : ℕ)
    (ids : Finset ReplicaID) (h : excess ≤ ids.card) :
    trimExcess scheduled preconfigured excess ids ⊆ ids ∧
      (trimExcess scheduled preconfigured excess ids).card = ids.card - excess := by
  induction excess generalizing ids with
  | zero => simp [trimExcess]
  | succ excess ih =>
    have hne : ids ≠ ∅ := by
      rintro rfl
      simp at h
    -- the candidates are a part of the ids and there is one
    have hcandidate : ∃ id ∈ ids, maxID (if ids \ scheduled ≠ ∅ then ids \ scheduled
        else if ids \ preconfigured ≠ ∅ then ids \ preconfigured else ids) = some id := by
      split_ifs with h1 h2
      · obtain ⟨id, hid, hmax⟩ := maxID_isSome h1
        exact ⟨id, (Finset.mem_sdiff.mp hid).1, hmax⟩
      · obtain ⟨id, hid, hmax⟩ := maxID_isSome h2
        exact ⟨id, (Finset.mem_sdiff.mp hid).1, hmax⟩
      · exact maxID_isSome hne
    obtain ⟨id, hid, hmax⟩ := hcandidate
    have hcard := Finset.card_erase_of_mem hid
    obtain ⟨hsub, hrest⟩ := ih (ids.erase id) (by omega)
    simp only [trimExcess, hmax, Option.elim]
    exact ⟨hsub.trans (Finset.erase_subset _ _), by omega⟩

theorem newRVR_spec {node : String} (h : newRVR rvrs type node = some new) :
    new.conditions = [] ∧ ∀ rvr ∈ rvrs, rvr.id ≠ new.id := by
  obtain ⟨id, hid, rfl⟩ := Option.map_eq_some_iff.mp h
  refine ⟨rfl, fun rvr hrvr heq => ?_⟩
  have hfree := List.find?_some hid
  simp only [Bool.not_eq_eq_eq_not, Bool.not_true, contains_eq_mem, mem_map,
    decide_eq_false_iff_not, not_exists, not_and] at hfree
  exact hfree rvr hrvr heq

theorem mem_insertRVRSorted : rvr ∈ insertRVRSorted rvrs new ↔ rvr = new ∨ rvr ∈ rvrs := by
  simp only [insertRVRSorted, mem_append, mem_cons]
  conv_rhs => rw [← take_append_drop (binarySearch (fun r : Replica => r.id < new.id) rvrs
    (rvrs.length + 1) 0 rvrs.length) rvrs, mem_append]
  tauto

theorem Listed.insert (h : Listed rvrs) (hnew : ∀ rvr ∈ rvrs, rvr.id ≠ new.id) :
    Listed (insertRVRSorted rvrs new) := by
  have hperm : (insertRVRSorted rvrs new).Perm (new :: rvrs) := by
    conv_rhs => rw [← take_append_drop (binarySearch (fun r : Replica => r.id < new.id) rvrs
      (rvrs.length + 1) 0 rvrs.length) rvrs]
    exact perm_middle
  refine (hperm.map fun rvr : Replica => rvr.id).nodup_iff.mpr (nodup_cons.mpr ⟨?_, h⟩)
  simpa using hnew

theorem createMissing_spec {missing : ℕ} {ids' : Finset ReplicaID}
    (hlisted : Listed rvrs) (h : createMissing api type what missing rvrs ids = (rvrs', .ok ids')) :
    Listed rvrs' ∧ (∀ rvr ∈ rvrs, rvr ∈ rvrs') ∧
      (missing = 0 → rvrs' = rvrs ∧ ids' = ids) ∧
      (missing ≠ 0 → ∃ new ∈ rvrs', new.conditions = []) := by
  induction missing generalizing rvrs ids with
  | zero =>
    obtain ⟨rfl, hok⟩ := Prod.mk.inj h
    obtain rfl := Except.ok.inj hok
    simp [hlisted]
  | succ missing ih =>
    simp only [createMissing] at h
    split at h
    · cases (Prod.mk.inj h).2
    · rename_i new hnew
      split at h
      · cases (Prod.mk.inj h).2
      · cases (Prod.mk.inj h).2
      · obtain ⟨hconditions, hfree⟩ := newRVR_spec hnew
        obtain ⟨hlisted', hmem, -, -⟩ := ih (hlisted.insert hfree) h
        refine ⟨hlisted', fun rvr hrvr => hmem _ (mem_insertRVRSorted.mpr (.inr hrvr)), by simp,
          fun _ => ⟨new, hmem _ (mem_insertRVRSorted.mpr (.inl rfl)), hconditions⟩⟩

theorem createLayout_spec (hlisted : Listed rvrs)
    (h : createLayout api rvrs targetD targetTB = (rvrs', .ok (diskful, tiebreakers))) :
    Listed rvrs' ∧
      ((rvrs' = rvrs ∧ diskful = idsWith rvrs (·.type = .diskful) \
          (misplaced rvrs ∪ deletingIDs rvrs) ∧
        tiebreakers = idsWith rvrs (·.type = .tieBreaker) \ (misplaced rvrs ∪ deletingIDs rvrs) ∧
        (misplaced rvrs ∪ deletingIDs rvrs = ∅ →
          targetD ≤ diskful.card ∧ targetTB ≤ tiebreakers.card)) ∨
      ∃ new ∈ rvrs', new.conditions = []) := by
  simp only [createLayout] at h
  generalize idsWith rvrs (fun r => decide (r.type = .diskful)) \
    (misplaced rvrs ∪ deletingIDs rvrs) = d at h ⊢
  generalize idsWith rvrs (fun r => decide (r.type = .tieBreaker)) \
    (misplaced rvrs ∪ deletingIDs rvrs) = tb at h ⊢
  split at h
  · split at h
    · cases (Prod.mk.inj h).2
    · rename_i rvrs1 d1 hD
      split at h
      · cases (Prod.mk.inj h).2
      · rename_i rvrs2 tb1 hTB
        obtain ⟨rfl, hok⟩ := Prod.mk.inj h
        obtain ⟨rfl, rfl⟩ := Prod.mk.inj (Except.ok.inj hok)
        obtain ⟨hlisted1, -, hsameD, hnewD⟩ := createMissing_spec hlisted hD
        obtain ⟨hlisted2, hmem2, hsameTB, hnewTB⟩ := createMissing_spec hlisted1 hTB
        refine ⟨hlisted2, ?_⟩
        by_cases hmissD : targetD - d.card = 0
        · obtain ⟨rfl, rfl⟩ := hsameD hmissD
          by_cases hmissTB : targetTB - tb.card = 0
          · obtain ⟨rfl, rfl⟩ := hsameTB hmissTB
            exact .inl ⟨rfl, rfl, rfl, fun _ => ⟨by omega, by omega⟩⟩
          · obtain ⟨new, hnew, hconditions⟩ := hnewTB hmissTB
            exact .inr ⟨new, hnew, hconditions⟩
        · obtain ⟨new, hnew, hconditions⟩ := hnewD hmissD
          exact .inr ⟨new, hmem2 new hnew, hconditions⟩
  · rename_i hgone
    obtain ⟨rfl, hok⟩ := Prod.mk.inj h
    obtain ⟨rfl, rfl⟩ := Prod.mk.inj (Except.ok.inj hok)
    exact ⟨hlisted, .inl ⟨rfl, rfl, rfl, fun hempty => absurd hempty hgone⟩⟩

/-- The replicas with which formation leaves its first step: those of the intended layout and no
others, each with a request for its own type. -/
structure Gathered (rvrs : List Replica) (targetD targetTB : ℕ) : Prop where
  listed : Listed rvrs
  active : ∀ rvr ∈ rvrs, rvr.deleting = false
  typed : ∀ rvr ∈ rvrs, rvr.type = .diskful ∨ rvr.type = .tieBreaker
  diskful : (idsWith rvrs (·.type = .diskful)).card = targetD
  tiebreakers : (idsWith rvrs (·.type = .tieBreaker)).card = targetTB
  requested : ∀ rvr ∈ rvrs, ∃ req, rvr.datameshRequest = some req ∧ req.type = some rvr.type

theorem preconfigureWait_eq_none {target : ℕ} {f : Preconfigured}
    (h : preconfigureWait rv rvrs rsp target f = none) :
    f.all ⊆ f.scheduled ∧ f.all ⊆ f.preconfigured ∧ specMismatch rvrs f.all = ∅ := by
  simp only [preconfigureWait] at h
  split at h
  · cases h
  · rename_i hready
    split at h
    · cases h
    · split at h
      · cases h
      · split at h
        · cases h
        · rename_i hmismatch
          simp only [ne_eq, not_or, not_not, Finset.sdiff_eq_empty_iff_subset] at hready hmismatch
          refine ⟨hready.1, fun id hid => hready.2 ?_, hmismatch⟩
          exact Finset.mem_inter.mpr ⟨hready.1 hid, hid⟩

theorem selected_has_conditions (hlisted : Listed rvrs)
    (hscheduled : (selectReplicas rvrs diskful tiebreakers targetD targetTB).all ⊆ idsWith rvrs
      (·.isTrueCurrent "Scheduled")) (hnew : new ∈ rvrs) (hconditions : new.conditions = []) :
    new.id ∉ (selectReplicas rvrs diskful tiebreakers targetD targetTB).all := by
  intro hid
  have htrue := (hlisted.mem_idsWith_id hnew).mp (hscheduled hid)
  simp [Replica.isTrueCurrent, RVR.condition, hconditions] at htrue

theorem selected_all {gone : Finset ReplicaID} (hlisted : Listed rvrs)
    (hgone : ∀ id ∈ gone, ∃ rvr ∈ rvrs, rvr.id = id)
    (hall : ∀ rvr ∈ rvrs, rvr.id ∈ (selectReplicas rvrs (idsWith rvrs (·.type = .diskful) \ gone)
      (idsWith rvrs (·.type = .tieBreaker) \ gone) targetD targetTB).all)
    (henough : gone = ∅ → targetD ≤ (idsWith rvrs (·.type = .diskful) \ gone).card ∧ targetTB ≤
      (idsWith rvrs (·.type = .tieBreaker) \ gone).card) :
    (∀ rvr ∈ rvrs, rvr.type = .diskful ∨ rvr.type = .tieBreaker) ∧
      (idsWith rvrs (·.type = .diskful)).card = targetD ∧
      (idsWith rvrs (·.type = .tieBreaker)).card = targetTB := by
  obtain ⟨hsubD, hcardD⟩ := trimExcess_spec (idsWith rvrs (·.isTrueCurrent "Scheduled"))
    (idsWith rvrs isPreconfigured) _ (idsWith rvrs (·.type = .diskful) \ gone)
    (Nat.sub_le _ targetD)
  obtain ⟨hsubTB, hcardTB⟩ := trimExcess_spec (idsWith rvrs (·.isTrueCurrent "Scheduled"))
    (idsWith rvrs isPreconfigured) _ (idsWith rvrs (·.type = .tieBreaker) \ gone)
    (Nat.sub_le _ targetTB)
  simp only [Preconfigured.all, selectReplicas, Finset.mem_union] at hall
  generalize trimExcess (idsWith rvrs (·.isTrueCurrent "Scheduled")) (idsWith rvrs isPreconfigured)
    ((idsWith rvrs (·.type = .diskful) \ gone).card - targetD)
    (idsWith rvrs (·.type = .diskful) \ gone) = chosenD at hsubD hcardD hall
  generalize trimExcess (idsWith rvrs (·.isTrueCurrent "Scheduled")) (idsWith rvrs isPreconfigured)
    ((idsWith rvrs (·.type = .tieBreaker) \ gone).card - targetTB)
    (idsWith rvrs (·.type = .tieBreaker) \ gone) = chosenTB at hsubTB hcardTB hall
  have hempty : gone = ∅ := by
    refine Finset.eq_empty_of_forall_notMem fun id hid => ?_
    obtain ⟨rvr, hrvr, rfl⟩ := hgone id hid
    rcases hall rvr hrvr with hmem | hmem
    · exact (Finset.mem_sdiff.mp (hsubD hmem)).2 hid
    · exact (Finset.mem_sdiff.mp (hsubTB hmem)).2 hid
  obtain ⟨henoughD, henoughTB⟩ := henough hempty
  subst hempty
  simp only [Finset.sdiff_empty] at hsubD hsubTB hcardD hcardTB henoughD henoughTB
  have htype {rvr : Replica} (hrvr : rvr ∈ rvrs) {type : ReplicaType} :
      rvr.id ∈ idsWith rvrs (·.type = type) ↔ rvr.type = type := by
    simpa using hlisted.mem_idsWith_id (p := fun r => decide (r.type = type)) hrvr
  have hD : chosenD = idsWith rvrs (·.type = .diskful) := by
    refine Finset.Subset.antisymm hsubD fun id hid => ?_
    obtain ⟨rvr, hrvr, -, rfl⟩ := mem_idsWith.mp hid
    refine (hall rvr hrvr).resolve_right fun hmem => ?_
    exact absurd ((htype hrvr).mp hid) (by rw [(htype hrvr).mp (hsubTB hmem)]; decide)
  have hTB : chosenTB = idsWith rvrs (·.type = .tieBreaker) := by
    refine Finset.Subset.antisymm hsubTB fun id hid => ?_
    obtain ⟨rvr, hrvr, -, rfl⟩ := mem_idsWith.mp hid
    refine (hall rvr hrvr).resolve_left fun hmem => ?_
    exact absurd ((htype hrvr).mp hid) (by rw [(htype hrvr).mp (hsubD hmem)]; decide)
  refine ⟨fun rvr hrvr => ?_, by rw [← hD]; omega, by rw [← hTB]; omega⟩
  exact (hall rvr hrvr).imp (fun hmem => (htype hrvr).mp (hsubD hmem))
    fun hmem => (htype hrvr).mp (hsubTB hmem)

theorem gathered {target : ℕ} {rvrs1 rvrs2 : List Replica} (hlisted : Listed rvrs)
    (hlayout : createLayout api rvrs targetD targetTB = (rvrs1, .ok (diskful, tiebreakers)))
    (hdelete : deleteRVRs api (fun rvr => rvr.id ∉ (selectReplicas rvrs1 diskful tiebreakers
      targetD targetTB).all) rvrs1 = (rvrs2, none)) (hdeleting : deletingIDs rvrs2 = ∅)
    (hwait : preconfigureWait rv rvrs2 rsp target (selectReplicas rvrs1 diskful tiebreakers
      targetD targetTB) = none) : rvrs2 = rvrs ∧ Gathered rvrs2 targetD targetTB := by
  have hactive : ∀ rvr ∈ rvrs2, rvr.deleting = false := by
    intro rvr hrvr
    by_contra hdel
    have hmem : rvr.id ∈ deletingIDs rvrs2 := mem_idsWith.mpr ⟨rvr, hrvr, by simpa using hdel, rfl⟩
    simp [hdeleting] at hmem
  obtain ⟨rfl, hkept⟩ := deleteRVRs_idle hdelete hactive
  obtain ⟨hscheduled, hpreconfigured, hmismatch⟩ := preconfigureWait_eq_none hwait
  obtain ⟨hlisted1, hcase⟩ := createLayout_spec hlisted hlayout
  have hall : ∀ rvr ∈ rvrs2,
      rvr.id ∈ (selectReplicas rvrs2 diskful tiebreakers targetD targetTB).all :=
    fun rvr hrvr => by simpa using hkept rvr hrvr
  rcases hcase with ⟨rfl, rfl, rfl, henough⟩ | ⟨new, hnew, hconditions⟩
  · have hgone : ∀ id ∈ misplaced rvrs2 ∪ deletingIDs rvrs2, ∃ rvr ∈ rvrs2, rvr.id = id := by
      intro id hid
      rcases Finset.mem_union.mp hid with hid | hid
      all_goals
        obtain ⟨rvr, hrvr, -, hid⟩ := mem_idsWith.mp hid
        exact ⟨rvr, hrvr, hid⟩
    obtain ⟨htyped, hD, hTB⟩ := selected_all hlisted hgone hall henough
    refine ⟨rfl, hlisted, hactive, htyped, hD, hTB, fun rvr hrvr => ?_⟩
    have hrequest := (hlisted.mem_idsWith_id hrvr).mp (hpreconfigured (hall rvr hrvr))
    simp only [isPreconfigured, Bool.and_eq_true, Option.any_eq_true] at hrequest
    obtain ⟨⟨req, hreq, -⟩, -⟩ := hrequest
    refine ⟨req, hreq, ?_⟩
    by_contra htype
    rw [Finset.eq_empty_iff_forall_notMem] at hmismatch
    refine hmismatch rvr.id ((hlisted.mem_idsWith_id hrvr).mpr ?_)
    simp [hall rvr hrvr, hreq, Ne.symm htype]
  · exact absurd (hall new hnew) (selected_has_conditions hlisted1 hscheduled hnew hconditions)

def SameMesh (s s' : Status) : Prop := s' = { s with transitions := s'.transitions }

theorem SameMesh.members (h : SameMesh s s') : s'.members = s.members := by rw [h]

theorem SameMesh.revision (h : SameMesh s s') :
    s'.datameshRevision = s.datameshRevision := by rw [h]

theorem SameMesh.trans {s'' : Status} (h : SameMesh s s') (h' : SameMesh s' s'') :
    SameMesh s s'' := by
  unfold SameMesh at h'
  rw [h', h]
  rfl

structure Unformed (s : Status) : Prop where
  datameshRevision : s.datameshRevision = 0
  transitions : s.transitions = []
  members : s.members = []

@[simp] theorem status_ensureDatameshReplicaRequests :
    (ensureDatameshReplicaRequests rv rvrs).1.status = rv.status := rfl

theorem sameMesh_modifyFormationStep (rv : VolumeObject) (idx : ℕ)
    (f : TransitionStep → TransitionStep) :
    SameMesh rv.status (rv.modifyFormationStep idx f).status := by
  unfold SameMesh VolumeObject.modifyFormationStep VolumeObject.modifyFormation
  split <;> rfl

theorem sameMesh_advanceFormationStep (rv : VolumeObject) (idx : ℕ) :
    SameMesh rv.status (rv.advanceFormationStep idx).status :=
  (sameMesh_modifyFormationStep rv idx _).trans (sameMesh_modifyFormationStep _ (idx + 1) _)

theorem sameMesh_applyFormationTransitionAbsent (rv : VolumeObject) :
    SameMesh rv.status rv.applyFormationTransitionAbsent.1.status := by
  unfold SameMesh VolumeObject.applyFormationTransitionAbsent
  split <;> rfl

theorem status_applyWait (idx : ℕ) (wait : Wait) :
    (applyWait rv idx wait).1.status =
      (rv.modifyFormationStep idx fun s => { s with message := wait.message }).status := by
  suffices h : ∀ (requests : List (Finset ReplicaID × String)) (acc : VolumeObject × Bool),
      (requests.foldl (fun acc request =>
        let r := applyDatameshReplicaRequestMessages acc.1 request.1 request.2
        (r.1, acc.2 || r.2)) acc).1.status = acc.1.status from h wait.requests _
  intro requests
  induction requests with
  | nil => exact fun _ => rfl
  | cons request requests ih => exact fun acc => ih _

theorem waitOrRestart_effect {idx timeout : ℕ} {changed : Bool} {wait : Wait}
    (h : waitOrRestart api rv rvrs idx changed timeout wait = some p)
    (hflow : p.flow.shouldReturn = false) :
    p.rv.status = (rv.modifyFormationStep idx fun s => { s with message := wait.message }).status ∨
      Unformed p.rv.status := by
  rw [← status_applyWait]
  simp only [waitOrRestart, reconcileFormationRestartIfTimeoutPassed, Option.map_eq_some_iff] at h
  obtain ⟨q, h, rfl⟩ := h
  split at h
  · cases h
    exact .inl rfl
  · split at h
    · cases h
      simp [Pass.reportChangedIf, Flow.shouldReturn] at hflow
    · split at h
      · cases h
        simp [Pass.reportChangedIf, Flow.shouldReturn] at hflow
      · split at h
        · cases h
          simp [Pass.reportChangedIf, Flow.shouldReturn] at hflow
        · obtain ⟨⟨configured, outcome⟩, hconfigured, h⟩ := Option.bind_eq_some_iff.mp h
          have hframe := reconcileRVConfiguration_frame hconfigured
          have hrevision : configured.datameshRevision = 0 := congrArg RV.datameshRevision hframe
          have htransitions : configured.datameshTransitions = [] :=
            congrArg RV.datameshTransitions hframe
          split at h
          all_goals
            cases h
            exact .inr ⟨hrevision, htransitions, rfl⟩

theorem forall₂_of_mapM {α β : Type} {f : α → Option β} {xs : List α} {ys : List β}
    (h : xs.mapM f = some ys) : List.Forall₂ (fun x y => f x = some y) xs ys := by
  induction xs generalizing ys with
  | nil =>
    cases h
    exact .nil
  | cons x xs ih =>
    rw [mapM_cons] at h
    obtain ⟨y, hy, h⟩ := Option.bind_eq_some_iff.mp h
    obtain ⟨rest, hrest, h⟩ := Option.bind_eq_some_iff.mp h
    cases h
    exact .cons hy (ih hrest)

theorem map_eq_of_forall₂ {α β γ : Type} {R : α → β → Prop} {f : α → γ} {g : β → γ}
    {xs : List α} {ys : List β} (h : List.Forall₂ R xs ys)
    (hR : ∀ x ∈ xs, ∀ y, R x y → f x = g y) : xs.map f = ys.map g := by
  induction h with
  | nil => rfl
  | cons hxy _ ih =>
    rw [map_cons, map_cons, hR _ mem_cons_self _ hxy, ih fun x hx => hR x (mem_cons_of_mem _ hx)]

theorem requestedMember_eq_some
    (h : requestedMember rsp rvr = some m) :
    m.id = rvr.id ∧ m.nodeName = rvr.nodeName ∧
      ∃ req, rvr.datameshRequest = some req ∧ req.type.map MemberType.ofReplica = some m.type := by
  obtain ⟨req, hreq, h⟩ := Option.bind_eq_some_iff.mp h
  obtain ⟨type, htype, h⟩ := Option.bind_eq_some_iff.mp h
  cases h
  exact ⟨rfl, rfl, req, hreq, by rw [htype]; rfl⟩

theorem foldl_applyDatameshMember {added members : List DatameshMember}
    (hids : ((members ++ added).map (·.id)).Nodup) :
    added.foldl applyDatameshMember members = members ++ added := by
  induction added generalizing members with
  | nil => simp
  | cons m added ih =>
    have hnew : members.findIdx? (·.id = m.id) = none := by
      rw [List.findIdx?_eq_none_iff]
      intro other hother
      rw [map_append, nodup_append] at hids
      have hne := hids.2.2 other.id (mem_map_of_mem hother) m.id (by simp)
      simpa using hne
    rw [foldl_cons, applyDatameshMember, hnew]
    simpa using @ih (members ++ [m]) (by simpa using hids)

def formationIDs (rvrs : List Replica) : Finset ReplicaID :=
  activeOfType .diskful rvrs ∪ activeOfType .tieBreaker rvrs

theorem populateDatamesh_effect {rv' : VolumeObject} {secret : String} (hlisted : Listed rvrs)
    (hempty : rv.datamesh.members = []) (h : populateDatamesh rv c rsp rvrs ids secret = some rv') :
    ∃ members, List.Forall₂ (fun rvr m => requestedMember rsp rvr = some m)
        (rvrs.filter (·.id ∈ ids)) members ∧
      (members.map (·.id)).Nodup ∧
      rv'.status = { rv.status with
        members
        quorum := (computeTargetQuorum c members).1
        quorumMinimumRedundancy := c.quorumMinimumRedundancy
        baselineGMDR := c.guaranteedMinimumDataRedundancy
        datameshRevision := rv.datameshRevision + 1
        transitions := rv'.status.transitions } ∧
      ∃ (before : VolumeObject) (f : TransitionStep → TransitionStep),
        before.status.transitions = rv.status.transitions ∧
        (∀ step, (f step).status = step.status) ∧
        rv' = before.modifyFormationStep 1 f := by
  obtain ⟨members, hadded, h⟩ := Option.bind_eq_some_iff.mp h
  have hforall := forall₂_of_mapM hadded
  have hids : (members.map (·.id)).Nodup := by
    have hsame : (rvrs.filter (·.id ∈ ids)).map (·.id) = members.map (·.id) :=
      map_eq_of_forall₂ hforall fun _ _ _ hm => (requestedMember_eq_some hm).1.symm
    exact hsame ▸ hlisted.sublist (filter_sublist.map _)
  have hfold : members.foldl applyDatameshMember rv.datamesh.members = members := by
    rw [hempty]
    exact foldl_applyDatameshMember (by simpa using hids)
  simp only [hfold] at h
  cases h
  refine ⟨members, hforall, hids, sameMesh_modifyFormationStep _ _ _, _, _, ?_, ?_, rfl⟩
  · rfl
  · exact fun _ => rfl

/-- The tie-breaker works for the datamesh: it applied its revision and has its connection with
each member that has data. -/
structure Operational (s : Status) (rvrs : List Replica) (tb : Replica) : Prop where
  active : tb.deleting = false
  applied : s.datameshRevision ≤ tb.datameshRevision
  configured : tb.isTrueCurrent "DRBDConfigured" = true
  connected : ∀ m ∈ s.members, m.type.connectsToAllPeers = true → m.id ≠ tb.id →
    peerConnectionVerified (some tb.toRVR) ((rvrs.find? (·.id = m.id)).map (·.toRVR)) tb.id m.id
      s.datameshRevision peerConnected = true

structure Synchronised (s : Status) (rvrs : List Replica) : Prop where
  upToDate : ∀ m ∈ s.members, m.type = .diskful →
    ∃ rvr ∈ rvrs, rvr.id = m.id ∧ rvr.backingVolume.any (·.state = .upToDate) = true
  tieBreakers : ∀ m ∈ s.members, m.type = .tieBreaker →
    ∃ rvr ∈ rvrs, rvr.id = m.id ∧ rvr.type = .tieBreaker ∧ Operational s rvrs rvr

theorem Synchronised.sameMesh (h : Synchronised s rvrs) (hsame : SameMesh s s') :
    Synchronised s' rvrs := by
  rw [hsame]
  refine ⟨h.upToDate, fun m hm htype => ?_⟩
  obtain ⟨rvr, hrvr, hid, hrvrType, ⟨hactive, happlied, hconfigured, hconnected⟩⟩ :=
    h.tieBreakers m hm htype
  exact ⟨rvr, hrvr, hid, hrvrType, hactive, happlied, hconfigured, hconnected⟩

theorem mem_memberIDs {p : MemberType → Bool} (hm : m ∈ rv.status.members)
    (hp : p m.type = true) : m.id ∈ memberIDs rv p := by
  simp only [memberIDs, mem_toFinset, mem_map, mem_filter]
  exact ⟨m, ⟨hm, hp⟩, rfl⟩

theorem operational_of_defect (displayName : ReplicaID → String) {tb : Replica}
    (h : tieBreakerDefect displayName (some tb.toRVR)
      ((rv.datamesh.members.filter (·.type.connectsToAllPeers)).map fun m =>
        (m.id, (rvrs.find? (·.id = m.id)).map (·.toRVR))) rv.datameshRevision = none) :
    Operational rv.status rvrs tb := by
  simp only [tieBreakerDefect] at h
  split at h
  · cases h
  split at h
  · cases h
  split at h
  · cases h
  rename_i hactive happlied hconfigured
  refine ⟨by simpa using hactive, Nat.not_lt.mp happlied, by simpa [Replica.isTrueCurrent] using hconfigured, ?_⟩
  intro m hm hmesh hne
  rw [Option.map_eq_none_iff, List.find?_eq_none] at h
  have hpeer := h _ (mem_map_of_mem (mem_filter.mpr ⟨hm, hmesh⟩))
  simpa [hne, VolumeObject.status] using hpeer

theorem tieBreakers_operational (h : computeActualTieBreakerReadiness rv rvrs = none)
    (hm : m ∈ rv.status.members) (htype : m.type = .tieBreaker) :
    ∃ rvr ∈ rvrs, rvr.id = m.id ∧ rvr.type = .tieBreaker ∧ Operational rv.status rvrs rvr := by
  simp only [computeActualTieBreakerReadiness] at h
  split at h
  · cases h
  split at h
  rename_i hsame hready
  · have hactive : m.id ∈ activeOfType .tieBreaker rvrs :=
      not_not.mp hsame ▸ mem_memberIDs hm (by simp [htype])
    obtain ⟨rvr, hrvr, hp, hid⟩ := mem_idsWith.mp hactive
    refine ⟨rvr, hrvr, hid, by simp_all, operational_of_defect (replicaName rv.name) ?_⟩
    by_contra hdefect
    obtain ⟨why, hwhy⟩ := Option.ne_none_iff_exists'.mp hdefect
    rw [Finset.eq_empty_iff_forall_notMem] at hready
    refine hready rvr.id (mem_toFinset.mpr (mem_map.mpr
      ⟨(rvr.id, replicaName rv.name rvr.id ++ ": " ++ why), mem_filterMap.mpr
        ⟨rvr, hrvr, ?_⟩, rfl⟩))
    rw [if_pos (hid ▸ hactive), hwhy]
    rfl
  · cases h

theorem bootstrapWait_eq_none {op : DRBDROp} (h : bootstrapWait rv rvrs rsp op = none) :
    Synchronised rv.status rvrs := by
  simp only [bootstrapWait] at h
  split at h
  · cases h
  split at h
  · cases h
  split at h
  · cases h
  split at h
  · cases h
  rename_i hupToDate
  rw [Option.map_eq_none_iff] at h
  refine ⟨fun m hm htype => ?_, fun m hm htype => tieBreakers_operational h hm htype⟩
  have hmem := mem_memberIDs (p := (· = .diskful)) hm (by simpa using htype)
  rw [← not_not.mp hupToDate] at hmem
  obtain ⟨rvr, hrvr, hp, hid⟩ := mem_idsWith.mp hmem
  exact ⟨rvr, hrvr, hid, (Bool.and_eq_true _ _ ▸ hp).2⟩

theorem createMissing_error {missing : ℕ}
    (h : createMissing api type what missing rvrs ids = (rvrs', .error flow)) :
    flow.shouldReturn = true := by
  induction missing generalizing rvrs ids with
  | zero => cases h
  | succ missing ih =>
    simp only [createMissing] at h
    split at h
    · cases h
      rfl
    · split at h
      · cases h
        rfl
      · cases h
        rfl
      · exact ih h

theorem createLayout_error (h : createLayout api rvrs targetD targetTB = (rvrs', .error flow)) :
    flow.shouldReturn = true := by
  simp only [createLayout] at h
  split at h
  · split at h
    · rename_i hD
      cases h
      exact createMissing_error hD
    · split at h
      · rename_i hTB
        cases h
        exact createMissing_error hTB
      · cases h
  · cases h

theorem ensureDRBDROp_error {dmDiskful : Finset ReplicaID} {parameters : Bool × Bool}
    (h : ensureDRBDROp api rv rvrs dmDiskful parameters = .error flow) :
    flow.shouldReturn = true := by
  unfold ensureDRBDROp at h
  grind [Flow.shouldReturn]

theorem bootstrapData_effect (h : reconcileFormationStepBootstrapData api rv rvrs rsp = some p)
    (hflow : p.flow.shouldReturn = false) :
    (∃ message, p.rv.status = (rv.modifyFormationStep 2 fun s => { s with message }).status) ∨
      Unformed p.rv.status ∨
      p.rv.status = rv.applyFormationTransitionAbsent.1.status ∧ Synchronised rv.status rvrs := by
  simp only [reconcileFormationStepBootstrapData] at h
  split at h
  · rename_i hop
    cases h
    rw [ensureDRBDROp_error hop] at hflow
    cases hflow
  · split at h
    · exact (waitOrRestart_effect h hflow).imp (fun hsame => ⟨_, hsame⟩) .inl
    · cases h
      exact .inl ⟨_, status_applyWait _ _⟩
    · rename_i hwait
      cases h
      exact .inr (.inr ⟨rfl, bootstrapWait_eq_none hwait⟩)

theorem establishConnectivity_effect
    (h : reconcileFormationStepEstablishConnectivity api rv rvrs c rsp = some p)
    (hflow : p.flow.shouldReturn = false) :
    ((rv.datamesh.members = [] → ∃ rvr ∈ rvrs, rvr.datameshRequest = none) ∧
        ∃ message, p.rv.status = (rv.modifyFormationStep 1 fun s => { s with message }).status) ∨
      Unformed p.rv.status ∨
      (rv.datamesh.members = [] ∧
        ∃ secret, populateDatamesh rv c rsp rvrs (formationIDs rvrs) secret = some p.rv) ∨
      (rv.datamesh.members ≠ [] ∧
        reconcileFormationStepBootstrapData api (rv.advanceFormationStep 1) rvrs rsp = some p) := by
  simp only [reconcileFormationStepEstablishConnectivity] at h
  split at h
  · rename_i hempty
    split at h
    · rename_i hmissing
      have hrequest : ∃ rvr ∈ rvrs, rvr.datameshRequest = none := by
        obtain ⟨id, hid⟩ := Finset.nonempty_iff_ne_empty.mpr hmissing
        obtain ⟨rvr, hrvr, hp, -⟩ := mem_idsWith.mp hid
        simp only [Bool.and_eq_true, Option.isNone_iff_eq_none] at hp
        exact ⟨rvr, hrvr, hp.2⟩
      exact (waitOrRestart_effect h hflow).imp (fun hsame => ⟨fun _ => hrequest, _, hsame⟩) .inl
    · split at h
      · cases h
        cases hflow
      · obtain ⟨rv', hpopulate, rfl⟩ := Option.map_eq_some_iff.mp h
        exact .inr (.inr (.inl ⟨hempty, _, hpopulate⟩))
  · rename_i hmembers
    split at h
    · exact (waitOrRestart_effect h hflow).imp
        (fun hsame => ⟨fun hempty => absurd hempty hmembers, _, hsame⟩) .inl
    · exact .inr (.inr (.inr ⟨hmembers, h⟩))

def preconfigured (rv : VolumeObject) (rsp : Pool) (created : Bool) : VolumeObject :=
  if created then initDatamesh rv rsp "Starting preconfigure" else rv

theorem preconfigure_effect {created : Bool} (hlisted : Listed rvrs)
    (h : reconcileFormationStepPreconfigure api rv rvrs c rsp created = some p)
    (hflow : p.flow.shouldReturn = false) :
    (∃ message, p.rv.status =
        ((preconfigured rv rsp created).modifyFormationStep 0 fun s => { s with message }).status) ∨
      Unformed p.rv.status ∨
      (Gathered rvrs ((intendedLayout c).1 % 256) ((intendedLayout c).2 % 256) ∧
        reconcileFormationStepEstablishConnectivity api
          ((preconfigured rv rsp created).advanceFormationStep 0) rvrs c rsp = some p) := by
  simp only [reconcileFormationStepPreconfigure] at h
  split at h
  · rename_i hlayout
    cases h
    rw [createLayout_error hlayout] at hflow
    cases hflow
  · rename_i hlayout
    split at h
    · cases h
      cases hflow
    · rename_i hdelete
      split at h
      · exact (waitOrRestart_effect h hflow).imp (fun hsame => ⟨_, hsame⟩) .inl
      · rename_i hdeleting
        split at h
        · exact (waitOrRestart_effect h hflow).imp (fun hsame => ⟨_, hsame⟩) .inl
        · rename_i hwait
          obtain ⟨rfl, hgathered⟩ := gathered hlisted hlayout hdelete (not_not.mp hdeleting) hwait
          exact .inr (.inr ⟨hgathered, h⟩)

theorem formationPass_eq_some (hpass : formationPass api rv rvrs c rsp = some p) :
    ∃ (before : VolumeObject) (q : Pass), before.toRV = rv.toRV ∧ before.status = rv.status ∧
      before.adoptRVR = rv.adoptRVR ∧
      reconcileFormation api before rvrs c rsp (isFormationInProgress rv.toRV).2 = some q ∧
      q.rv = p.rv ∧ q.flow = p.flow := by
  obtain ⟨q, hq, rfl⟩ := Option.map_eq_some_iff.mp hpass
  exact ⟨(ensureDatameshReplicaRequests rv rvrs).1, q, rfl, status_ensureDatameshReplicaRequests, rfl,
    hq, rfl, rfl⟩

end ReplicatedVolume.Volume
