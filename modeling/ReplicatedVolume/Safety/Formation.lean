import ReplicatedVolume.Volume.FormationEffects

/-!
# Formation ends at the intended layout

The layout is checked in the pass that leaves the first step, and that pass also fills the datamesh.
From then on the datamesh stays as it is until formation ends or starts over.
-/

namespace ReplicatedVolume.Volume
open Datamesh Dmte List Option

variable {idx targetD targetTB : ℕ} {p : Pass} {api : Answers} {rv rv' : VolumeObject}
  {rvrs : List Replica} {c : Configuration} {rsp : Pool} {s s' : Status}
  {members : List DatameshMember} {t : Transition}

structure AtStep (t : Transition) (idx : ℕ) : Prop where
  type : t.type = .formation
  plan : t.planID = .create
  statuses : t.steps.map (·.status) = (List.range 3).map fun i =>
    if i < idx then .completed else if i = idx then .active else .pending

def FormingAt (s : Status) (idx : ℕ) : Prop := ∃ t, s.transitions = [t] ∧ AtStep t idx

variable {f : TransitionStep → TransitionStep}

theorem map_status_modify (steps : List TransitionStep) (idx : ℕ) {g : StepStatus → StepStatus}
    (hf : ∀ step, (f step).status = g step.status) :
    (steps.modify idx f).map (·.status) = (steps.map (·.status)).modify idx g := by
  induction steps generalizing idx with
  | nil => simp
  | cons step steps ih =>
    cases idx with
    | zero => simp [hf]
    | succ idx => simp [ih]

theorem modifyFormationStep_transitions (idx : ℕ)
    (f : TransitionStep → TransitionStep) (ht : rv.status.transitions = [t])
    (htype : t.type = .formation) :
    (rv.modifyFormationStep idx f).status.transitions =
      [{ t with steps := t.steps.modify idx f }] := by
  change rv.datameshTransitions = [t] at ht
  simp [VolumeObject.modifyFormationStep, VolumeObject.modifyFormation, VolumeObject.status, ht,
    htype]

theorem FormingAt.noted {current : ℕ}
    (h : FormingAt rv.status current) (idx : ℕ) (hf : ∀ step, (f step).status = step.status) :
    FormingAt (rv.modifyFormationStep idx f).status current := by
  obtain ⟨t, ht, hat⟩ := h
  refine ⟨_, modifyFormationStep_transitions idx f ht hat.type, hat.type, hat.plan, ?_⟩
  rw [map_status_modify (g := id) _ _ hf, modify_id, hat.statuses]

theorem FormingAt.advance (h : FormingAt rv.status idx) (hidx : idx < 2) :
    FormingAt (rv.advanceFormationStep idx).status (idx + 1) := by
  obtain ⟨t, ht, hat⟩ := h
  have hcompleted := modifyFormationStep_transitions idx
    (fun s => { s with status := .completed, message := "" }) ht hat.type
  refine ⟨_, modifyFormationStep_transitions (idx + 1) _ hcompleted hat.type, hat.type, hat.plan, ?_⟩
  rw [map_status_modify (g := fun _ => .active) _ _ fun _ => rfl,
    map_status_modify (g := fun _ => .completed) _ _ fun _ => rfl, hat.statuses]
  interval_cases idx <;> decide

theorem AtStep.current (h : AtStep t idx) (hidx : idx < 3) : findCurrentStepIdx t = some idx := by
  have hmap : (t.steps.map (·.status)).findIdx? (· != .completed) = findCurrentStepIdx t := by
    rw [List.findIdx?_map]
    rfl
  rw [← hmap, h.statuses]
  interval_cases idx <;> decide

/-- The members are those of the intended layout, and quorum and redundancy follow from it. -/
structure Populated (c : Configuration) (s : Status) : Prop where
  ids : (s.members.map (·.id)).Nodup
  diskful : s.members.countP (·.type = .diskful) = (intendedLayout c).1
  tieBreakers : s.members.countP (·.type = .tieBreaker) = (intendedLayout c).2
  typed : ∀ m ∈ s.members, m.type = .diskful ∨ m.type = .tieBreaker
  quorum : s.quorum = (intendedLayout c).1 / 2 + 1
  quorumMinimumRedundancy : s.quorumMinimumRedundancy = c.guaranteedMinimumDataRedundancy + 1
  baselineGMDR : s.baselineGMDR = c.guaranteedMinimumDataRedundancy

theorem Populated.sameMesh (h : Populated c s) (hsame : SameMesh s s') : Populated c s' := by
  rw [hsame]
  exact ⟨h.ids, h.diskful, h.tieBreakers, h.typed, h.quorum, h.quorumMinimumRedundancy,
    h.baselineGMDR⟩

theorem Populated.members_ne_nil (h : Populated c s) : s.members ≠ [] := by
  intro hnil
  have hdiskful := h.diskful
  simp [hnil, intendedLayout, intendedDiskfulCount] at hdiskful

def Fits (c : Configuration) : Prop :=
  c.failuresToTolerate + c.guaranteedMinimumDataRedundancy < 255

theorem Fits.layout (h : Fits c) :
    (intendedLayout c).1 % 256 = (intendedLayout c).1 ∧
      (intendedLayout c).2 % 256 = (intendedLayout c).2 ∧
      c.quorumMinimumRedundancy = c.guaranteedMinimumDataRedundancy + 1 := by
  have htieBreakers : (intendedLayout c).2 ≤ 1 := by
    simp only [intendedLayout, tieBreakersForDiskful]
    split <;> omega
  unfold Fits at h
  refine ⟨?_, by omega, ?_⟩
  · simp only [intendedLayout, intendedDiskfulCount]
    omega
  · simp only [Configuration.quorumMinimumRedundancy]
    omega

theorem Gathered.filter_formationIDs (h : Gathered rvrs targetD targetTB) :
    rvrs.filter (·.id ∈ formationIDs rvrs) = rvrs := by
  rw [filter_eq_self]
  intro rvr hrvr
  rw [decide_eq_true_iff, formationIDs, Finset.mem_union, activeOfType, activeOfType,
    h.listed.mem_idsWith_id hrvr, h.listed.mem_idsWith_id hrvr]
  simpa [h.active rvr hrvr] using h.typed rvr hrvr

theorem Gathered.types (h : Gathered rvrs targetD targetTB)
    (hmembers : List.Forall₂ (fun rvr m => requestedMember rsp rvr = some m) rvrs members) :
    members.map (·.type) = rvrs.map (MemberType.ofReplica ·.type) := by
  refine (map_eq_of_forall₂ hmembers fun rvr hrvr m hm => ?_).symm
  obtain ⟨-, -, req, hreq, htype⟩ := requestedMember_eq_some hm
  obtain ⟨req', hreq', htype'⟩ := h.requested rvr hrvr
  obtain rfl : req = req' := some.inj (hreq.symm.trans hreq')
  rw [htype'] at htype
  exact some.inj htype

theorem Gathered.countP_type (h : Gathered rvrs targetD targetTB)
    (htypes : members.map (·.type) = rvrs.map (MemberType.ofReplica ·.type))
    (p : MemberType → Bool) (type : ReplicaType)
    (hp : ∀ t, (t = .diskful ∨ t = .tieBreaker) → p (MemberType.ofReplica t) = decide (t = type)) :
    members.countP (p ·.type) = (idsWith rvrs (·.type = type)).card := by
  calc members.countP (p ·.type) = (members.map (·.type)).countP p := by
        rw [countP_map]; rfl
    _ = rvrs.countP (p <| MemberType.ofReplica ·.type) := by rw [htypes, countP_map]; rfl
    _ = rvrs.countP (·.type = type) := countP_congr fun rvr hrvr => by rw [hp _ (h.typed rvr hrvr)]
    _ = (idsWith rvrs (·.type = type)).card := (card_idsWith h.listed _).symm

theorem card_voters (hids : (members.map (·.id)).Nodup) :
    ((members.filter (·.type.isVoter)).map (·.id)).toFinset.card =
      members.countP (·.type.isVoter) := by
  rw [toFinset_card_of_nodup (hids.sublist (filter_sublist.map _)), length_map,
    countP_eq_length_filter]

theorem Gathered.populated {secret : String} (hc : Fits c)
    (h : Gathered rvrs ((intendedLayout c).1 % 256) ((intendedLayout c).2 % 256))
    (hempty : rv.datamesh.members = [])
    (hpopulate : populateDatamesh rv c rsp rvrs (formationIDs rvrs) secret = some rv') :
    Populated c rv'.status := by
  obtain ⟨members, hmembers, hids, hstatus, -⟩ := populateDatamesh_effect h.listed hempty hpopulate
  rw [h.filter_formationIDs] at hmembers
  obtain ⟨hD, hTB, hqmr⟩ := hc.layout
  have htypes := h.types hmembers
  have hdiskful := (h.countP_type htypes (· = .diskful) .diskful
    (by rintro t (rfl | rfl) <;> rfl)).trans h.diskful
  have htieBreakers := (h.countP_type htypes (· = .tieBreaker) .tieBreaker
    (by rintro t (rfl | rfl) <;> rfl)).trans h.tiebreakers
  have hvoters := (h.countP_type htypes (·.isVoter) .diskful
    (by rintro t (rfl | rfl) <;> rfl)).trans h.diskful
  have htyped : ∀ m ∈ members, m.type = .diskful ∨ m.type = .tieBreaker := by
    intro m hm
    have hmem : m.type ∈ members.map (·.type) := mem_map_of_mem hm
    rw [htypes] at hmem
    obtain ⟨rvr, hrvr, htype⟩ := mem_map.mp hmem
    rw [← htype]
    exact (h.typed rvr hrvr).imp (by rintro h; rw [h]; rfl) (by rintro h; rw [h]; rfl)
  rw [hstatus]
  refine ⟨hids, hdiskful.trans hD, htieBreakers.trans hTB, htyped, ?_, hqmr, rfl⟩
  simp only [computeTargetQuorum, card_voters hids]
  omega

inductive Stage (c : Configuration) (s : Status) : Prop
  | unformed (h : Unformed s)
  | preconfiguring (hrevision : 0 < s.datameshRevision) (hat : FormingAt s 0)
      (hempty : s.members = [])
  | joined (idx : ℕ) (hidx : idx = 1 ∨ idx = 2) (hrevision : 0 < s.datameshRevision)
      (hat : FormingAt s idx) (hpopulated : Populated c s)
  | formed (hrevision : 0 < s.datameshRevision) (hdone : s.transitions = [])
      (hpopulated : Populated c s)

/-- What a pass leaves: a stage, and formation is over only when the data is synchronised. -/
def Passed (c : Configuration) (rvrs : List Replica) (s : Status) : Prop :=
  Stage c s ∧ (0 < s.datameshRevision → s.transitions = [] → Synchronised s rvrs)

theorem Unformed.passed (h : Unformed s) : Passed c rvrs s :=
  ⟨.unformed h, fun hrevision => absurd h.datameshRevision (by omega)⟩

theorem FormingAt.transitions_ne_nil (h : FormingAt s idx) : s.transitions ≠ [] := by
  obtain ⟨t, ht, -⟩ := h
  simp [ht]

theorem Passed.joined (hidx : idx = 1 ∨ idx = 2) (hrevision : 0 < s.datameshRevision)
    (hat : FormingAt s idx) (hpopulated : Populated c s) : Passed c rvrs s :=
  ⟨.joined idx hidx hrevision hat hpopulated, fun _ hnil => absurd hnil hat.transitions_ne_nil⟩

theorem bootstrapData_passed (hrevision : 0 < rv.status.datameshRevision)
    (hat : FormingAt rv.status 2) (hpopulated : Populated c rv.status)
    (h : reconcileFormationStepBootstrapData api rv rvrs rsp = some p)
    (hflow : p.flow.shouldReturn = false) : Passed c rvrs p.rv.status := by
  rcases bootstrapData_effect h hflow with ⟨message, hstatus⟩ | hunformed | ⟨hstatus, hdata⟩
  · have hsame := sameMesh_modifyFormationStep rv 2 fun s => { s with message }
    rw [hstatus]
    exact .joined (.inr rfl) (hsame.revision ▸ hrevision) (hat.noted _ fun _ => rfl)
      (hpopulated.sameMesh hsame)
  · exact hunformed.passed
  · have hsame := sameMesh_applyFormationTransitionAbsent rv
    have hnil : rv.applyFormationTransitionAbsent.1.status.transitions = [] := by
      obtain ⟨t, ht, htype, -⟩ := hat
      change rv.datameshTransitions = [t] at ht
      simp [VolumeObject.applyFormationTransitionAbsent, VolumeObject.status, ht, htype]
    rw [hstatus]
    exact ⟨.formed (hsame.revision ▸ hrevision) hnil (hpopulated.sameMesh hsame),
      fun _ _ => hdata.sameMesh hsame⟩

/-- The second step starts with the members of the layout or, with an empty datamesh, with its
replicas. -/
theorem establishConnectivity_passed (hc : Fits c) (hrevision : 0 < rv.status.datameshRevision)
    (hat : FormingAt rv.status 1)
    (hready : Populated c rv.status ∨ rv.datamesh.members = [] ∧ Gathered rvrs ((intendedLayout
      c).1 % 256) ((intendedLayout c).2 % 256))
    (h : reconcileFormationStepEstablishConnectivity api rv rvrs c rsp = some p)
    (hflow : p.flow.shouldReturn = false) : Passed c rvrs p.rv.status := by
  rcases hready with hpopulated | ⟨hempty, hgathered⟩
  · rcases establishConnectivity_effect h hflow with
      ⟨-, message, hstatus⟩ | hunformed | ⟨hempty, -⟩ | ⟨-, hnext⟩
    · have hsame := sameMesh_modifyFormationStep rv 1 fun s => { s with message }
      rw [hstatus]
      exact .joined (.inl rfl) (hsame.revision ▸ hrevision) (hat.noted _ fun _ => rfl)
        (hpopulated.sameMesh hsame)
    · exact hunformed.passed
    · exact absurd hempty hpopulated.members_ne_nil
    · have hsame := sameMesh_advanceFormationStep rv 1
      exact bootstrapData_passed (hsame.revision ▸ hrevision) (hat.advance (by decide))
        (hpopulated.sameMesh hsame) hnext hflow
  · rcases establishConnectivity_effect h hflow with
      ⟨hrequest, -⟩ | hunformed | ⟨-, secret, hpopulate⟩ | ⟨hmembers, -⟩
    · obtain ⟨rvr, hrvr, hnone⟩ := hrequest hempty
      obtain ⟨req, hreq, -⟩ := hgathered.requested rvr hrvr
      rw [hnone] at hreq
      cases hreq
    · exact hunformed.passed
    · obtain ⟨_, -, -, hstatus, before, f, hbefore, hf, heq⟩ :=
        populateDatamesh_effect hgathered.listed hempty hpopulate
      have hforming : FormingAt before.status 1 := by rwa [FormingAt, hbefore]
      refine .joined (.inl rfl) ?_ (heq ▸ hforming.noted _ hf) (hgathered.populated hc hempty hpopulate)
      rw [hstatus]
      exact Nat.succ_pos _
    · exact absurd hempty hmembers

theorem preconfigure_passed {created : Bool} (hc : Fits c) (hlisted : Listed rvrs)
    (h : reconcileFormationStepPreconfigure api rv rvrs c rsp created = some p)
    (hflow : p.flow.shouldReturn = false)
    (hrevision : 0 < (preconfigured rv rsp created).status.datameshRevision)
    (hat : FormingAt (preconfigured rv rsp created).status 0)
    (hempty : (preconfigured rv rsp created).status.members = []) : Passed c rvrs p.rv.status := by
  rcases preconfigure_effect hlisted h hflow with
    ⟨message, hstatus⟩ | hunformed | ⟨hgathered, hnext⟩
  · have hsame := sameMesh_modifyFormationStep (preconfigured rv rsp created) 0
      fun s => { s with message }
    have hforming := hat.noted (f := fun s => { s with message }) 0 fun _ => rfl
    rw [hstatus]
    exact ⟨.preconfiguring (hsame.revision ▸ hrevision) hforming (hsame.members.trans hempty),
      fun _ hnil => absurd hnil hforming.transitions_ne_nil⟩
  · exact hunformed.passed
  · have hsame := sameMesh_advanceFormationStep (preconfigured rv rsp created) 0
    exact establishConnectivity_passed hc (hsame.revision ▸ hrevision) (hat.advance (by decide))
      (.inr ⟨hsame.members.trans hempty, hgathered⟩) hnext hflow

theorem ensureFormationTransition_forming (h : FormingAt rv.status idx) (plan : PlanID) :
    rv.ensureFormationTransition plan = (rv, false) ∧
      (rv.formation.map (·.planID)).getD .create = .create := by
  obtain ⟨t, ht, htype, hplan, -⟩ := h
  change rv.datameshTransitions = [t] at ht
  have hformation : rv.formation = some t := by simp [VolumeObject.formation, ht, htype]
  simp [VolumeObject.ensureFormationTransition, hformation, hplan]

theorem isFormationInProgress_forming (h : FormingAt rv.status idx) (hidx : idx < 3)
    (hrevision : 0 < rv.status.datameshRevision) : isFormationInProgress rv.toRV = (true, idx) := by
  obtain ⟨t, ht, hat⟩ := h
  change rv.datameshTransitions = [t] at ht
  change 0 < rv.datameshRevision at hrevision
  simp [isFormationInProgress, ht, hat.type, hat.current hidx, Nat.pos_iff_ne_zero.mp hrevision]

theorem newFormation_atStep : AtStep (newFormation .create) 0 := ⟨rfl, rfl, by decide⟩

theorem reconcileFormation_create (hat : FormingAt rv.status idx) (hidx : idx < 3) :
    reconcileFormation api rv rvrs c rsp idx =
      if idx = 0 then reconcileFormationStepPreconfigure api rv rvrs c rsp false
      else if idx = 1 then reconcileFormationStepEstablishConnectivity api rv rvrs c rsp
      else reconcileFormationStepBootstrapData api rv rvrs rsp := by
  obtain ⟨hensure, hplan⟩ :=
    ensureFormationTransition_forming hat (if rv.adoptRVR then .adopt else .create)
  unfold reconcileFormation
  rw [hensure]
  simp only [hplan]
  interval_cases idx <;> rfl

theorem reconcileFormation_unformed (h : Unformed rv.status) (hadopt : rv.adoptRVR = false) :
    reconcileFormation api rv rvrs c rsp 0 =
      reconcileFormationStepPreconfigure api
        { rv with datameshTransitions := [newFormation .create] } rvrs c rsp true := by
  have hnil : rv.datameshTransitions = [] := h.transitions
  simp [reconcileFormation, VolumeObject.ensureFormationTransition, VolumeObject.formation, hnil,
    hadopt, newFormation]

theorem preconfigured_created (rv : VolumeObject) (rsp : Pool) (hat : FormingAt rv.status 0) :
    0 < (preconfigured rv rsp true).status.datameshRevision ∧
      FormingAt (preconfigured rv rsp true).status 0 ∧
      (preconfigured rv rsp true).status.members = rv.status.members := by
  obtain ⟨before, f, hpreconfigured, htransitions, hf, hrevision, hmembers⟩ :
      ∃ (before : VolumeObject) (f : TransitionStep → TransitionStep),
        preconfigured rv rsp true = before.modifyFormationStep 0 f ∧
        before.status.transitions = rv.status.transitions ∧
        (∀ step, (f step).status = step.status) ∧ before.status.datameshRevision = 1 ∧
        before.status.members = rv.status.members := by
    refine ⟨_, _, rfl, ?_, fun _ => ?_, ?_, ?_⟩ <;> rfl
  have hsame := sameMesh_modifyFormationStep before 0 f
  have hforming : FormingAt before.status 0 := by rwa [FormingAt, htransitions]
  rw [hpreconfigured]
  exact ⟨by rw [hsame.revision]; omega, hforming.noted _ hf, hsame.members.trans hmembers⟩

theorem Stage.pass (hc : Fits c) (h : Stage c rv.status)
    (hforming : (isFormationInProgress rv.toRV).1 = true)
    (hcreate : rv.formation = none → rv.adoptRVR = false) (hlisted : Listed rvrs)
    (hpass : formationPass api rv rvrs c rsp = some p) (hflow : p.flow.shouldReturn = false) :
    Passed c rvrs p.rv.status := by
  obtain ⟨before, q, htoRV, hstatus, hsameAdopt, hq, hrv, hqflow⟩ := formationPass_eq_some hpass
  rw [← hrv]
  rw [← hqflow] at hflow
  cases h with
  | unformed h =>
    have hidx : (isFormationInProgress rv.toRV).2 = 0 := by
      rw [isFormationInProgress, if_pos (show rv.datameshRevision = 0 from h.datameshRevision)]
    have hadopt : rv.adoptRVR = false := by
      refine hcreate ?_
      rw [VolumeObject.formation, show rv.datameshTransitions = [] from h.transitions]
      rfl
    rw [← hstatus] at h
    rw [hidx, reconcileFormation_unformed h (hsameAdopt.trans hadopt)] at hq
    obtain ⟨hrevision, hat, hmembers⟩ := preconfigured_created
      { before with datameshTransitions := [newFormation .create] } rsp
      ⟨newFormation .create, rfl, newFormation_atStep⟩
    exact preconfigure_passed hc hlisted hq hflow hrevision hat (hmembers.trans h.members)
  | preconfiguring hrevision hat hempty =>
    rw [isFormationInProgress_forming hat (by decide) hrevision,
      reconcileFormation_create (hstatus ▸ hat) (by decide)] at hq
    rw [← hstatus] at hrevision hat hempty
    exact preconfigure_passed hc hlisted hq hflow hrevision hat hempty
  | joined idx hidx hrevision hat hpopulated =>
    rw [isFormationInProgress_forming hat (by omega) hrevision,
      reconcileFormation_create (hstatus ▸ hat) (by omega)] at hq
    rw [← hstatus] at hrevision hat hpopulated
    rcases hidx with rfl | rfl
    · exact establishConnectivity_passed hc hrevision hat (.inl hpopulated) hq hflow
    · exact bootstrapData_passed hrevision hat hpopulated hq hflow
  | formed hrevision hdone hpopulated =>
    change rv.datameshTransitions = [] at hdone
    change 0 < rv.datameshRevision at hrevision
    simp [isFormationInProgress, hdone, Nat.pos_iff_ne_zero.mp hrevision] at hforming

structure CreatePass (api : Answers) (rv : VolumeObject) (rvrs : List Replica) (c : Configuration)
    (rsp : Pool) (p : Pass) : Prop where
  forming : (isFormationInProgress rv.toRV).1 = true
  create : rv.formation = none → rv.adoptRVR = false
  listed : Listed rvrs
  pass : formationPass api rv rvrs c rsp = some p
  patched : p.flow.shouldReturn = false

/-- The volumes that passes with a fixed configuration lead to. Each pass finds its own replicas;
others only change what is not the datamesh. -/
inductive Reaches (c : Configuration) : VolumeObject → Prop
  | fresh {rv : VolumeObject} (h : Unformed rv.status) (hc : rv.configuration = some c) :
      Reaches c rv
  | outside {rv rv' : VolumeObject} (h : Reaches c rv) (hstatus : rv'.status = rv.status)
      (hc : rv'.configuration = some c) : Reaches c rv'
  | pass {api : Answers} {rv : VolumeObject} {rvrs : List Replica} {rsp : Pool} {p : Pass}
      (h : Reaches c rv) (hpass : CreatePass api rv rvrs c rsp p)
      (hc : p.rv.configuration = some c) : Reaches c p.rv

theorem Reaches.stage (hc : Fits c) (h : Reaches c rv) : Stage c rv.status := by
  induction h with
  | fresh h _ => exact .unformed h
  | outside _ hstatus _ ih => exact hstatus ▸ ih
  | pass _ hpass _ ih =>
    exact (ih.pass hc hpass.forming hpass.create hpass.listed hpass.pass hpass.patched).1

/-- Formation ends only with the members of the intended layout, their quorum and redundancy, every
Diskful replica up to date and every tie-breaker operational. -/
theorem formation_ends_at_intended_layout {p : Pass} (hc : Fits c) (h : Reaches c rv)
    (hpass : CreatePass api rv rvrs c rsp p)
    (hended : (isFormationInProgress p.rv.toRV).1 = false) :
    Populated c p.rv.status ∧ Synchronised p.rv.status rvrs := by
  obtain ⟨hstage, hdata⟩ := (h.stage hc).pass hc hpass.forming hpass.create hpass.listed hpass.pass
    hpass.patched
  cases hstage with
  | unformed h =>
    rw [isFormationInProgress, if_pos (show p.rv.datameshRevision = 0 from h.datameshRevision)] at hended
    cases hended
  | preconfiguring hrevision hat _ =>
    rw [isFormationInProgress_forming hat (by decide) hrevision] at hended
    cases hended
  | joined idx hidx hrevision hat _ =>
    rw [isFormationInProgress_forming hat (by omega) hrevision] at hended
    cases hended
  | formed hrevision hdone hpopulated => exact ⟨hpopulated, hdata hrevision hdone⟩

def threeNodePool : Pool :=
  { eligibleNodes := [⟨"a", "", true, true⟩, ⟨"b", "", true, true⟩, ⟨"c", "", true, true⟩]
    systemNetworkNames := ["net"], type := .lvmThin }

def oneFailure : Configuration := ⟨"pool", .ignored, 1, 0, .preferablyLocal⟩

def newVolume : VolumeObject :=
  { name := "v", generation := 1, deleting := false, configurationMode := .manual
    replicatedStorageClassName := "", manualConfiguration := some oneFailure
    configuration := some oneFailure, configurationGeneration := 0
    configurationObservedGeneration := 0, datameshRevision := 0, datameshTransitions := []
    conditions := [], size := 4096, adoptRVR := false, adoptSharedSecret := none, datamesh := .zero
    baselineGMDR := 0, datameshReplicaRequests := [] }

/-- The replicas 0 and 1 with data and the tie-breaker 2, in three states of their formation. -/
def formingReplica (id : ReplicaID) (nodeName : String) (revision : ℕ) (state : DiskState)
    (configured : Condition) : Replica :=
  { id, deleting := false, generation := 1, nodeName
    type := if id = 2 then .tieBreaker else .diskful
    conditions := [⟨"Scheduled", some true, 1, "", ""⟩, configured]
    addresses := [⟨"net", "10.0.0.1", 7000⟩]
    backingVolume := if id = 2 then none else some ⟨some 1048576, state⟩
    datameshRevision := revision, attachment := none, quorum := some true
    peers := (([0, 1, 2] : List ReplicaID).filter (· ≠ id)).map fun peer =>
      ⟨peer, ["net"], .connected, .established, state⟩
    finalizer := true, lvmVolumeGroupName := "", lvmVolumeGroupThinPoolName := ""
    datameshRequest := some ⟨.join, some (if id = 2 then .tieBreaker else .diskful), "", ""⟩
    datameshRevisionObservedByAgent := revision
    peerType := fun peer => if peer = 2 then .tieBreaker else .diskful }

def formingReplicas (revision : ℕ) (state : DiskState) (reason : String) : List Replica :=
  let configured : Condition := ⟨"DRBDConfigured", some (reason = "Configured"), 1, reason, ""⟩
  [formingReplica 0 "a" revision state configured, formingReplica 1 "b" revision state configured,
    formingReplica 2 "c" revision state configured]

def formingAnswers (op : Option DRBDROp) : Answers :=
  { createRVR := fun _ => .created, deleteRVR := fun _ => .ok (), getDRBDROp := .ok op
    createDRBDROp := .created, deleteDRBDROp := .ok (), sharedSecret := .ok "secret", elapsed := 0
    rsc := none, zoneCount := fun _ => .ok 1, classRVs := .ok [] }

def bootstrapped : DRBDROp := ⟨false, true, "v-0", some (true, false), .succeeded⟩

/-- The passes before the last: the replicas join, the initial synchronisation starts. -/
def formingPasses : List (Answers × List Replica) :=
  [(formingAnswers none, formingReplicas 0 .inconsistent "PendingDatameshJoin"),
    (formingAnswers none, formingReplicas 2 .inconsistent "Configured")]

instance : Decidable (Listed rvrs) := inferInstanceAs (Decidable (List.Nodup _))

def createPass (api : Answers) (rv : VolumeObject) (rvrs : List Replica) (c : Configuration)
    (rsp : Pool) : Option Pass :=
  (formationPass api rv rvrs c rsp).filter fun p => (isFormationInProgress rv.toRV).1 &&
    (rv.formation.isSome || !rv.adoptRVR) && decide (Listed rvrs) && !p.flow.shouldReturn

theorem createPass_eq_some (h : createPass api rv rvrs c rsp = some p) :
    CreatePass api rv rvrs c rsp p := by
  obtain ⟨hpass, hp⟩ := filter_eq_some_iff.mp h
  simp only [Bool.and_eq_true, Bool.or_eq_true, Bool.not_eq_true', decide_eq_true_eq] at hp
  obtain ⟨⟨⟨hforming, hcreate⟩, hlisted⟩, hflow⟩ := hp
  exact ⟨hforming, fun hnone => by simpa [hnone] using hcreate, hlisted, hpass, hflow⟩

def createRun (c : Configuration) (rsp : Pool) :
    VolumeObject → List (Answers × List Replica) → Option VolumeObject
  | rv, [] => some rv
  | rv, (api, rvrs) :: rest =>
    ((createPass api rv rvrs c rsp).filter (·.rv.configuration = some c)).bind fun p =>
      createRun c rsp p.rv rest

theorem Reaches.createRun {passes : List (Answers × List Replica)} (h : Reaches c rv)
    (hrun : createRun c rsp rv passes = some rv') : Reaches c rv' := by
  induction passes generalizing rv with
  | nil => exact some.inj hrun ▸ h
  | cons pass rest ih =>
    obtain ⟨p, hp, hrest⟩ := bind_eq_some_iff.mp hrun
    obtain ⟨hpass, hconfiguration⟩ := filter_eq_some_iff.mp hp
    exact ih (h.pass (createPass_eq_some hpass) (by simpa using hconfiguration)) hrest

theorem formation_ends_two_diskful_one_tieBreaker : ∃ (rv : VolumeObject) (p : Pass),
    Reaches oneFailure rv ∧
    CreatePass (formingAnswers (some bootstrapped)) rv (formingReplicas 2 .upToDate "Configured")
      oneFailure threeNodePool p ∧
    (isFormationInProgress p.rv.toRV).1 = false ∧
    Populated oneFailure p.rv.status ∧
    Synchronised p.rv.status (formingReplicas 2 .upToDate "Configured") := by
  have hrun : (createRun oneFailure threeNodePool newVolume formingPasses).any (fun rv =>
      (createPass (formingAnswers (some bootstrapped)) rv (formingReplicas 2 .upToDate "Configured")
        oneFailure threeNodePool).any fun p => !(isFormationInProgress p.rv.toRV).1) = true := by
    decide +kernel
  obtain ⟨rv, hrv, hlast⟩ := (any_eq_true _ _).mp hrun
  obtain ⟨p, hp, hended⟩ := (any_eq_true _ _).mp hlast
  have hreaches := (Reaches.fresh ⟨rfl, rfl, rfl⟩ rfl).createRun hrv
  have hpass := createPass_eq_some hp
  have hended : (isFormationInProgress p.rv.toRV).1 = false := by simpa using hended
  exact ⟨rv, p, hreaches, hpass, hended,
    formation_ends_at_intended_layout (by unfold Fits; decide) hreaches hpass hended⟩

end ReplicatedVolume.Volume
