import ReplicatedVolume.Volume.FormationEffects
import ReplicatedVolume.Mesh.Orderly

/-!
# Where a formation pass puts members

A pass of either plan keeps the nodes of the members, drops all members, or gives an empty datamesh
the replicas that it finds. It leaves the Formation transition alone in the list or takes it away.
-/

namespace ReplicatedVolume.Volume
open Datamesh Dmte

variable {api : Answers} {rv : VolumeObject} {rvrs : List Replica} {c : Configuration} {rsp : Pool}
  {s s1 s' : Status} {ids : Finset ReplicaID} {created : Bool} {p : Pass}

def placements (s : Status) : List (ReplicaID × String) := s.members.map fun m => (m.id, m.nodeName)

theorem placements_congr (h : s'.members = s.members) : placements s' = placements s := by
  rw [placements, h, placements]

structure Follows (ids : Finset ReplicaID) (rvrs : List Replica) (s s' : Status) : Prop where
  formed : s.Formed → s'.Formed
  placed : placements s' = placements s ∨ s'.members = [] ∨
    s.members = [] ∧
      placements s' = (rvrs.filter (·.id ∈ ids)).map fun rvr => (rvr.id, rvr.nodeName)

theorem Follows.kept (hformed : s.Formed → s'.Formed) (hplaced : placements s' = placements s) :
    Follows ids rvrs s s' := ⟨hformed, .inl hplaced⟩

theorem Follows.after (h : Follows ids rvrs s1 s') (hformed : s.Formed → s1.Formed)
    (hmembers : s1.members = s.members) : Follows ids rvrs s s' := by
  refine ⟨h.formed ∘ hformed, ?_⟩
  have hplaced := h.placed
  rwa [placements_congr hmembers, hmembers] at hplaced

theorem Unformed.follows (h : Unformed s') : Follows ids rvrs s s' :=
  ⟨fun _ => .inl h.transitions, .inr (.inl h.members)⟩

variable (hlisted : Listed rvrs) (idx : ℕ) (f : TransitionStep → TransitionStep)

theorem formed_modifyFormationStep
    (h : rv.status.Formed) : (rv.modifyFormationStep idx f).status.Formed := by
  rcases h with hnil | ⟨t, ht, htype, hgroup, hreplica⟩
  · change rv.datameshTransitions = [] at hnil
    left
    simp [VolumeObject.modifyFormationStep, VolumeObject.modifyFormation, VolumeObject.status, hnil]
  · change rv.datameshTransitions = [t] at ht
    right
    refine ⟨{ t with steps := t.steps.modify idx f }, ?_, htype, hgroup, hreplica⟩
    simp [VolumeObject.modifyFormationStep, VolumeObject.modifyFormation, VolumeObject.status, ht,
      htype]

theorem formed_advanceFormationStep (h : rv.status.Formed) :
    (rv.advanceFormationStep idx).status.Formed :=
  formed_modifyFormationStep _ _ (formed_modifyFormationStep _ _ h)

theorem formed_applyFormationTransitionAbsent (h : rv.status.Formed) :
    rv.applyFormationTransitionAbsent.1.status.Formed := by
  rcases h with hnil | ⟨t, ht, htype, -, -⟩
  · change rv.datameshTransitions = [] at hnil
    left
    simp [VolumeObject.applyFormationTransitionAbsent, VolumeObject.status, hnil]
  · change rv.datameshTransitions = [t] at ht
    left
    simp [VolumeObject.applyFormationTransitionAbsent, VolumeObject.status, ht, htype]

theorem formed_ensureFormationTransition (rv : VolumeObject) (plan : PlanID) (h : rv.status.Formed) :
    (rv.ensureFormationTransition plan).1.status.Formed := by
  unfold VolumeObject.ensureFormationTransition
  cases hformation : rv.formation with
  | some t => exact h
  | none =>
    rcases h with hnil | ⟨t, ht, htype, -, -⟩
    · change rv.datameshTransitions = [] at hnil
      right
      refine ⟨newFormation plan, ?_, rfl, rfl, rfl⟩
      simp [VolumeObject.status, hnil]
    · change rv.datameshTransitions = [t] at ht
      simp [VolumeObject.formation, ht, htype] at hformation

theorem follows_modifyFormationStep :
    Follows ids rvrs rv.status (rv.modifyFormationStep idx f).status :=
  .kept (formed_modifyFormationStep idx f)
    (placements_congr (sameMesh_modifyFormationStep rv idx f).members)

theorem bootstrapData_follows
    (h : reconcileFormationStepBootstrapData api rv rvrs rsp = some p)
    (hflow : p.flow.shouldReturn = false) : Follows ids rvrs rv.status p.rv.status := by
  rcases bootstrapData_effect h hflow with ⟨message, hstatus⟩ | hunformed | ⟨hstatus, -⟩
  · rw [hstatus]
    exact follows_modifyFormationStep 2 _
  · exact hunformed.follows
  · rw [hstatus]
    exact .kept formed_applyFormationTransitionAbsent
      (placements_congr (sameMesh_applyFormationTransitionAbsent rv).members)

include hlisted in
theorem establishConnectivity_follows
    (h : reconcileFormationStepEstablishConnectivity api rv rvrs c rsp = some p)
    (hflow : p.flow.shouldReturn = false) :
    Follows (formationIDs rvrs) rvrs rv.status p.rv.status := by
  rcases establishConnectivity_effect h hflow with
    ⟨-, message, hstatus⟩ | hunformed | ⟨hempty, secret, hpopulate⟩ | ⟨-, hnext⟩
  · rw [hstatus]
    exact follows_modifyFormationStep 1 _
  · exact hunformed.follows
  · obtain ⟨members, hmembers, -, hstatus, before, f, htransitions, -, hrv⟩ :=
      populateDatamesh_effect hlisted hempty hpopulate
    refine ⟨fun hformed => ?_, .inr (.inr ⟨hempty, ?_⟩)⟩
    · have hbefore : before.status.Formed := by rwa [Status.Formed, htransitions]
      rw [hrv]
      exact formed_modifyFormationStep 1 f hbefore
    · rw [hstatus]
      refine (map_eq_of_forall₂ hmembers fun rvr _ m hm => ?_).symm
      obtain ⟨hid, hnode, -⟩ := requestedMember_eq_some hm
      rw [hid, hnode]
  · exact (bootstrapData_follows hnext hflow).after (formed_advanceFormationStep 1)
      (sameMesh_advanceFormationStep rv 1).members

theorem Follows.afterInit (rsp : Pool) (created : Bool) (message : String) {init : VolumeObject}
    (hinit : (if created then initDatamesh rv rsp message else rv) = init)
    (h : Follows ids rvrs init.status s') : Follows ids rvrs rv.status s' := by
  subst hinit
  cases created with
  | false => exact h
  | true =>
    refine h.after (fun hformed => ?_) ?_
    · unfold initDatamesh
      exact formed_modifyFormationStep 0 _ hformed
    · unfold initDatamesh
      exact (sameMesh_modifyFormationStep _ 0 _).members

include hlisted in
theorem preconfigure_follows
    (h : reconcileFormationStepPreconfigure api rv rvrs c rsp created = some p)
    (hflow : p.flow.shouldReturn = false) :
    Follows (formationIDs rvrs) rvrs rv.status p.rv.status := by
  refine Follows.afterInit rsp created "Starting preconfigure" rfl ?_
  rcases preconfigure_effect hlisted h hflow with
    ⟨message, hstatus⟩ | hunformed | ⟨-, hnext⟩
  · rw [hstatus]
    exact follows_modifyFormationStep 0 _
  · exact hunformed.follows
  · exact (establishConnectivity_follows hlisted hnext hflow).after (formed_advanceFormationStep 0)
      (sameMesh_advanceFormationStep _ 0).members

theorem waitAndRequeue_follows (changed : Bool) (wait : Wait) :
    Follows ids rvrs rv.status (waitAndRequeue rv rvrs idx changed wait).rv.status := by
  change Follows ids rvrs rv.status (applyWait rv idx wait).1.status
  rw [status_applyWait]
  exact follows_modifyFormationStep idx _

theorem exitMaintenance_follows :
    Follows ids rvrs rv.status (reconcileAdoptStepExitMaintenance rv rvrs).rv.status := by
  simp only [reconcileAdoptStepExitMaintenance]
  split
  · exact waitAndRequeue_follows 2 false _
  · exact .kept formed_applyFormationTransitionAbsent
      (placements_congr (sameMesh_applyFormationTransitionAbsent rv).members)

include hlisted in
theorem adoptReplicas_follows (hempty : rv.datamesh.members = []) (secret : String) :
    Follows (adoptable rvrs) rvrs rv.status (adoptReplicas rv rsp rvrs secret).status := by
  refine ⟨fun hformed => ?_, .inr (.inr ⟨hempty, ?_⟩)⟩
  · exact formed_modifyFormationStep 1 _ hformed
  · have hids : (((rvrs.filter (·.id ∈ adoptable rvrs)).map (adoptedMember rsp)).map
        (·.id)).Nodup := by
      rw [List.map_map]
      exact hlisted.sublist (List.filter_sublist.map _)
    have hmembers : (adoptReplicas rv rsp rvrs secret).status.members =
        (rvrs.filter (·.id ∈ adoptable rvrs)).map (adoptedMember rsp) := by
      refine (sameMesh_modifyFormationStep _ 1 _).members.trans ?_
      change List.foldl applyDatameshMember rv.datamesh.members _ = _
      rw [hempty]
      exact foldl_applyDatameshMember (by simpa using hids)
    rw [placements, hmembers, List.map_map]
    rfl

theorem ensureDatameshMemberAddresses_cases (rv : VolumeObject) (rvrs : List Replica)
    (ids : Finset ReplicaID) :
    (∃ synced, ensureDatameshMemberAddresses rv rvrs = (synced, true) ∧
      Follows ids rvrs rv.status synced.status) ∨
      ensureDatameshMemberAddresses rv rvrs = (rv, false) := by
  unfold ensureDatameshMemberAddresses
  split
  · refine .inl ⟨_, rfl, .kept id ?_⟩
    simp [placements, VolumeObject.status, Function.comp_def]
  · exact .inr rfl

include hlisted in
theorem populateAndVerify_follows
    (hflow : (reconcileAdoptStepPopulateAndVerifyDatamesh api rv rvrs rsp).flow.shouldReturn = false) :
    Follows (adoptable rvrs) rvrs rv.status
      (reconcileAdoptStepPopulateAndVerifyDatamesh api rv rvrs rsp).rv.status := by
  unfold reconcileAdoptStepPopulateAndVerifyDatamesh at hflow ⊢
  split
  · rename_i hempty
    rw [if_pos hempty] at hflow
    split
    · rename_i hsecret
      rw [hsecret] at hflow
      cases hflow
    · exact adoptReplicas_follows hlisted hempty _
  · rcases ensureDatameshMemberAddresses_cases rv rvrs (adoptable rvrs) with ⟨synced, hsynced, hfollows⟩ | hsynced
    · rwa [hsynced]
    · rw [hsynced]
      simp only [Bool.false_eq_true, if_false]
      split
      · exact waitAndRequeue_follows 1 false _
      · exact exitMaintenance_follows.after (formed_advanceFormationStep 1)
          (sameMesh_advanceFormationStep rv 1).members

include hlisted in
theorem verifyPrerequisites_follows
    (hflow : (reconcileAdoptStepVerifyPrerequisites api rv rvrs rsp created).flow.shouldReturn =
      false) :
    Follows (adoptable rvrs) rvrs rv.status
      (reconcileAdoptStepVerifyPrerequisites api rv rvrs rsp created).rv.status := by
  simp only [reconcileAdoptStepVerifyPrerequisites] at hflow ⊢
  generalize hinit : (if created then initDatamesh rv rsp
    "Starting adopt: waiting for pre-existing replicas" else rv) = init at hflow ⊢
  refine Follows.afterInit rsp created _ hinit ?_
  split
  · exact waitAndRequeue_follows 0 created _
  · rename_i hwait
    simp only [hwait] at hflow
    exact (populateAndVerify_follows hlisted hflow).after (formed_advanceFormationStep 0)
      (sameMesh_advanceFormationStep _ 0).members

def joining (rv : VolumeObject) (rvrs : List Replica) : Finset ReplicaID :=
  match (rv.formation.map (·.planID)).getD (if rv.adoptRVR then .adopt else .create) with
  | .adopt => adoptable rvrs
  | _ => formationIDs rvrs

theorem ensureFormationTransition_plan (rv : VolumeObject) (plan : PlanID) :
    (((rv.ensureFormationTransition plan).1.formation.map (·.planID)).getD .create =
        (rv.formation.map (·.planID)).getD plan) ∧
      (rv.ensureFormationTransition plan).1.status.members = rv.status.members := by
  unfold VolumeObject.ensureFormationTransition
  cases hformation : rv.formation with
  | some t => simp [hformation]
  | none =>
    have hnone : rv.datameshTransitions.find? (·.type = .formation) = none := hformation
    refine ⟨?_, rfl⟩
    simp [VolumeObject.formation, List.find?_append, hnone, newFormation]

include hlisted in
theorem reconcileFormation_follows {stepIdx : ℕ}
    (h : reconcileFormation api rv rvrs c rsp stepIdx = some p)
    (hflow : p.flow.shouldReturn = false) :
    Follows (joining rv rvrs) rvrs rv.status p.rv.status := by
  unfold reconcileFormation at h
  obtain ⟨hplan, hmembers⟩ :=
    ensureFormationTransition_plan rv (if rv.adoptRVR then .adopt else .create)
  have hformed := formed_ensureFormationTransition rv (if rv.adoptRVR then .adopt else .create)
  generalize rv.ensureFormationTransition (if rv.adoptRVR then .adopt else .create) = ensured
    at h hplan hmembers hformed
  obtain ⟨ensured, created⟩ := ensured
  refine Follows.after ?_ hformed hmembers
  unfold joining
  rw [← hplan]
  simp only at h
  split at h
  · rename_i hadopt
    rw [hadopt]
    split at h
    · cases h
      exact verifyPrerequisites_follows hlisted hflow
    · cases h
      exact populateAndVerify_follows hlisted hflow
    · cases h
      exact exitMaintenance_follows
    · cases h
      cases hflow
  -- A volume without a recorded plan forms as one that is created.
  iterate 2
    · rename_i hcreate
      rw [hcreate]
      split at h
      · exact preconfigure_follows hlisted h hflow
      · exact establishConnectivity_follows hlisted h hflow
      · exact bootstrapData_follows h hflow
      · cases h
        cases hflow
  · cases h
    cases hflow

include hlisted in
theorem formationPass_follows
    (hpass : formationPass api rv rvrs c rsp = some p) (hflow : p.flow.shouldReturn = false) :
    Follows (joining rv rvrs) rvrs rv.status p.rv.status := by
  obtain ⟨before, q, htoRV, hstatus, hadopt, hq, hrv, hqflow⟩ := formationPass_eq_some hpass
  have hjoining : joining before rvrs = joining rv rvrs := by
    unfold joining VolumeObject.formation
    rw [hadopt, htoRV]
  rw [← hrv, ← hstatus, ← hjoining]
  rw [← hqflow] at hflow
  exact reconcileFormation_follows hlisted hq hflow

end ReplicatedVolume.Volume
