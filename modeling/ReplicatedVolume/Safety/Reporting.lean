import ReplicatedVolume.Datamesh.Layout
import ReplicatedVolume.Dmte.Quiet
import ReplicatedVolume.Mesh.Contexts
import ReplicatedVolume.Safety.Attachment
import ReplicatedVolume.Safety.Refusal

/-!
# Reported changes

A cycle that reports no change should leave the status as it was. The only
thing that it does without a report is to clear the slot of a replica for an
emergency that is then refused.
-/

namespace ReplicatedVolume.Datamesh
open Dmte List

variable {g : GlobalContext} {id : ReplicaID} {planID : PlanID} {e e' : Engine GlobalContext}
  {g' : GlobalContext} {obs : Observation} {rc : ReplicaContext} {rctx : Option Ref}
  {spec : PlanSpec} {st : Status}

/-- A member that is to be removed by force: on request, or because neither an
object nor a request of it is left. -/
def ForceRemovalDue (rc : ReplicaContext) : Prop :=
  rc.member.isSome = true ∧ (rc.membershipRequest.any (·.operation = .forceLeave) = true ∨
    (rc.membershipRequest = none ∧ rc.rvr = none))

def ForceDetachDue (rc : ReplicaContext) : Prop :=
  rc.membershipRequest.any (·.operation = .forceDetach) = true ∧ isAttached rc = true

def Pressed (g : GlobalContext) (id : ReplicaID) : Prop :=
  (ForceRemovalDue (g.replicas id) ∧ (g.replicas id).membershipTransition.isSome = true) ∨
    (ForceDetachDue (g.replicas id) ∧ (g.replicas id).attachmentTransition.isSome = true)

instance (g : GlobalContext) (id : ReplicaID) : Decidable (Pressed g id) :=
  inferInstanceAs (Decidable (((_ ∧ (_ ∨ (_ ∧ _))) ∧ _) ∨ ((_ ∧ _) ∧ _)))

theorem pressed_silent (h : g'.silent = g.silent) (id : ReplicaID) :
    Pressed g' id ↔ Pressed g id := by
  change Pressed g'.silent id ↔ Pressed g.silent id
  rw [h]

theorem planForceRemove_of_member (h : rc.member.isSome = true) :
    ∃ planID, planForceRemoveReplica g rc = .plan planID := by
  obtain ⟨m, hm⟩ := Option.isSome_iff_exists.mp h
  have htype : memberType rc = some m.type := by simp [memberType, hm]
  unfold planForceRemoveReplica
  rw [htype]
  cases m.type <;> exact ⟨_, rfl⟩

theorem decideMembership_due (hg : Anchored g) (h : ForceRemovalDue (g.replicas id)) :
    ∃ planID, decideMembership (.replica id) g =
      some (.replica (.replica id) .forceRemoveReplica planID) := by
  obtain ⟨hmember, hcause⟩ := h
  obtain ⟨planID, hplan⟩ := planForceRemove_of_member (g := g) hmember
  refine ⟨planID, ?_⟩
  have hnamed : (g.ctx (.replica id)).named = true := (hg.memberPresent id hmember).2
  have hchoose : chooseMembership g (g.ctx (.replica id)) =
      some (.forceRemoveReplica, .plan planID) := by
    unfold chooseMembership
    rcases hcause with hreq | ⟨hreq, hrvr⟩
    · obtain ⟨req, hsome, hop⟩ := (Option.any_eq_true _ _).mp hreq
      have hop' : req.operation = .forceLeave := of_decide_eq_true hop
      have hsome' : (g.ctx (.replica id)).membershipRequest = some req := hsome
      simp only [hsome', hop']
      exact congrArg some (Prod.ext rfl hplan)
    · have hlost : ((g.ctx (.replica id)).member.isSome && (g.ctx (.replica id)).rvr.isNone) =
          true := by
        have hrvr' : (g.ctx (.replica id)).rvr = none := hrvr
        have hmember' : (g.ctx (.replica id)).member.isSome = true := hmember
        simp [hrvr', hmember']
      have hreq' : (g.ctx (.replica id)).membershipRequest = none := hreq
      simp only [hreq', hlost, if_true]
      exact congrArg some (Prod.ext rfl hplan)
  simp [decideMembership, hnamed, hchoose]

theorem decideForceDetach_due (h : ForceDetachDue (g.replicas id)) :
    decideForceDetach (.replica id) g = some (.replica (.replica id) .forceDetach .forceDetach) := by
  have hdue : ((g.ctx (.replica id)).membershipRequest.any (·.operation = .forceDetach) &&
      isAttached (g.ctx (.replica id))) = true := Bool.and_eq_true_iff.mpr h
  unfold decideForceDetach
  dsimp only
  rw [if_pos hdue]

theorem forceRemoval_of_choose
    (h : chooseMembership g rc = some (.forceRemoveReplica, .plan planID)) :
    ForceRemovalDue rc := by
  have hmember : planForceRemoveReplica g rc = .plan planID → rc.member.isSome = true := by
    intro hplan
    cases hm : rc.member with
    | none => simp [planForceRemoveReplica, memberType, hm] at hplan
    | some m => rfl
  unfold chooseMembership at h
  cases hreq : rc.membershipRequest with
  | none =>
    simp only [hreq] at h
    split at h
    · next hlost =>
        simp only [Option.some.injEq, Prod.mk.injEq, true_and] at h
        exact ⟨hmember h, .inr ⟨hreq, by simpa using (Bool.and_eq_true_iff.mp hlost).2⟩⟩
    · cases h
  | some req =>
    simp only [hreq] at h
    cases hop : req.operation <;> simp only [hop, Option.some.injEq, Prod.mk.injEq, reduceCtorEq,
      false_and, true_and] at h
    exact ⟨hmember h, .inl (by simp [hreq, hop])⟩

theorem decided_emergency {r : Ref} {type : TransitionType} (hg : Anchored g)
    (h : Decided domain g (.replica r type planID)) :
    (type = .forceRemoveReplica → ∃ id, r = .replica id ∧ ForceRemovalDue (g.replicas id)) ∧
      (type = .forceDetach → ∃ id, r = .replica id ∧ ForceDetachDue (g.replicas id)) := by
  cases decided_reached h with
  | membership hnamed hchoose =>
    obtain ⟨id, rfl, -⟩ := named_ref hg hnamed
    refine ⟨?_, ?_⟩ <;> rintro rfl
    · exact ⟨id, rfl, forceRemoval_of_choose hchoose⟩
    · simpa using chooseMembership_type hchoose
  | forceDetach hasked hattached =>
    obtain ⟨m, hm, -⟩ := (Option.any_eq_true _ _).mp hattached
    obtain ⟨id, rfl, -⟩ := member_ref hg (by rw [hm]; rfl)
    exact ⟨nofun, fun _ => ⟨id, rfl, hasked, hattached⟩⟩
  | attach => exact ⟨nofun, nofun⟩
  | detach => exact ⟨nofun, nofun⟩

structure Pointed (e : Engine GlobalContext) : Prop where
  anchored : Anchored e.global
  pointers : ∀ slot id ref, e.global.slotAt slot id = some ref → ref.ptr ∈ e.transitions

theorem anchored_silent (h : g'.silent = g.silent) (hg : Anchored g) : Anchored g' := by
  have hfixed : ∀ g : GlobalContext, g.silent.fixed = g.fixed := by
    intro g
    simp only [GlobalContext.fixed, GlobalContext.silent, map_map]
    rfl
  refine hg.congr ?_ ?_ ?_
  · rw [← hfixed g', h, hfixed g]
  · have hmember := congrArg GlobalContext.member h
    exact hmember
  · have hindexed := congrArg GlobalContext.indexed h
    exact hindexed

theorem Pointed.of_unchanged (h : Pointed e) (hsame : Unchanged e e') : Pointed e' := by
  refine ⟨anchored_silent hsame.global h.anchored, fun slot id ref href => ?_⟩
  rw [hsame.transitions]
  refine h.pointers slot id ref ?_
  rw [← href]
  exact (getActive_silent slot hsame.global (.replica id)).symm

theorem recorded_unchanged (e before : Engine GlobalContext) (kind : EventKind) (t : Transition) :
    Unchanged e (e.record before kind t) := ⟨rfl, rfl, rfl, rfl⟩

/-- From one engine to another no transition is added; if any is lost, an
emergency was due for a replica with a transition. -/
structure Waned (e e' : Engine GlobalContext) : Prop where
  revision : e'.revision = e.revision
  length : e'.transitions.length ≤ e.transitions.length
  cause : Pointed e → Unchanged e e' ∨
    (e'.transitions.length < e.transitions.length ∧ ∃ id, Pressed e.global id)

theorem Unchanged.waned (h : Unchanged e e') : Waned e e' :=
  ⟨h.revision, by rw [h.transitions], fun _ => .inl h⟩

theorem Waned.trans {e1 e2 e3 : Engine GlobalContext} (h : Waned e1 e2) (h' : Waned e2 e3) :
    Waned e1 e3 := by
  refine ⟨h'.revision.trans h.revision, h'.length.trans h.length, fun hpointed => ?_⟩
  rcases h.cause hpointed with hsame | ⟨hlt, hpressed⟩
  · rcases h'.cause (hpointed.of_unchanged hsame) with hsame' | ⟨hlt, id, hid⟩
    · exact .inl (hsame.trans hsame')
    · right
      rw [hsame.transitions] at hlt
      exact ⟨hlt, id, (pressed_silent hsame.global id).mp hid⟩
  · exact .inr ⟨h'.length.trans_lt hlt, hpressed⟩

theorem confirmAndReport_quiet {k idx : ℕ}
    {cr : ConfirmResult}
    (h : confirmAndReport domain spec.plan e k rctx idx = some (e', cr, false)) :
    Unchanged e e' := by
  simp only [confirmAndReport, confirmStep, Option.bind_eq_bind, Option.bind_eq_some_iff,
    Option.some.injEq, Prod.mk.injEq, Prod.exists] at h
  obtain ⟨e1, cr1, composed, mc, ⟨step, -, s, hs, cr2, -, rfl, rfl, -, hmc⟩, step', -, rfl, -,
    rfl⟩ := h
  have hmessage : s.message = generateProgressMessage domain e.global s.datameshRevision cr2
      step.diagnosticConditionTypes step.diagnosticSkipError := by
    simpa using hmc
  rw [← hmessage]
  have hstep : (e.heap k).setStep idx s = e.heap k := by
    obtain ⟨hlt, rfl⟩ := List.getElem?_eq_some_iff.mp hs
    simp only [Transition.setStep, set_getElem_self]
  have hstore : e.store k ((e.heap k).setStep idx s) = e := by
    rw [hstep, Engine.store, Function.update_eq_self]
  change Unchanged e (setStatus spec.plan rctx _ _ (e.store k ((e.heap k).setStep idx s)))
  rw [hstore]
  exact setStatus_unchanged spec rctx _ _ e

theorem settled_waned {k : ℕ} {p : Bool} (h : Settled domain e k e' false p) : Waned e e' := by
  cases h with
  | unknown => exact (Unchanged.refl e).waned
  | waiting hget _ hconf =>
    obtain ⟨spec, -, rfl⟩ := domain_get hget
    exact (confirmAndReport_quiet hconf).waned

theorem cancelActive_revision (spec : PlanSpec) (rctx : Option Ref) (e : Engine GlobalContext) :
    (cancelActive domain spec.plan rctx e).revision = e.revision := by
  unfold cancelActive
  split
  · split
    · rfl
    · split <;> rfl
  · rfl

theorem cancelActive_length_le (spec : PlanSpec) (rctx : Option Ref) (e : Engine GlobalContext) :
    (cancelActive domain spec.plan rctx e).transitions.length ≤ e.transitions.length := by
  unfold cancelActive
  split
  · split
    · exact le_rfl
    · split
      · exact length_erase_le
      · exact le_rfl
  · exact le_rfl

theorem cancelActive_length_lt {r : Ref} {ref : ActiveRef}
    (hcancel : spec.cancelActiveOnCreate = true)
    (href : spec.slot.accessor.getActiveTransition e.global r = some ref)
    (hmem : ref.ptr ∈ e.transitions) :
    (cancelActive domain spec.plan (some r) e).transitions.length < e.transitions.length := by
  have href' : spec.plan.slot.getActiveTransition e.global r = some ref := href
  have hcancel' : spec.plan.cancelActiveOnCreate = true := hcancel
  simp only [cancelActive, hcancel', href', hmem, if_true]
  change (e.transitions.erase ref.ptr).length < e.transitions.length
  rw [length_erase_of_mem hmem]
  have hpos := length_pos_of_mem hmem
  omega

theorem registry_forceRemove : ∀ spec ∈ registry, spec.transitionType = .forceRemoveReplica →
    spec.scope = .replica ∧ spec.slot = .membershipSlot ∧ spec.cancelActiveOnCreate = true := by
  decide +kernel

theorem registry_forceDetach_slot : ∀ spec ∈ registry, spec.transitionType = .forceDetach →
    spec.scope = .replica ∧ spec.slot = .attachmentSlot ∧ spec.cancelActiveOnCreate = true := by
  decide +kernel

theorem dispatchOne_loses (hpointed : Pointed e)
    (hcancel : spec.cancelActiveOnCreate = true)
    (hslot : (e.global.slotAt spec.slot id).isSome = true)
    (h : dispatchOne domain spec.plan planID (some (.replica id)) e = some (e', false)) :
    e'.transitions.length < e.transitions.length := by
  obtain ⟨ref, href⟩ := Option.isSome_iff_exists.mp hslot
  rw [(Dispatched.unchanged (dispatchOne_eq_some h)).transitions]
  exact cancelActive_length_lt hcancel href (hpointed.pointers spec.slot id ref href)

theorem dispatchOne_waned
    (hpressed : Pointed e → Clears spec rctx e.global → ∃ id, rctx = some (.replica id) ∧ Pressed
      e.global id) (h : dispatchOne domain spec.plan planID rctx e = some (e', false)) :
    Waned e e' := by
  have hafter := Dispatched.unchanged (dispatchOne_eq_some h)
  refine ⟨?_, ?_, fun hpointed => ?_⟩
  · rw [hafter.revision, cancelActive_revision]
  · rw [hafter.transitions]
    exact cancelActive_length_le spec rctx e
  · by_cases hclears : Clears spec rctx e.global
    · obtain ⟨id, rfl, hid⟩ := hpressed hpointed hclears
      exact .inr ⟨dispatchOne_loses hpointed hclears.1 hclears.2 h, id, hid⟩
    · rw [cancelActive_eq_self hclears] at hafter
      exact .inl hafter

theorem decided_waned {d : Decision GlobalContext Ref} (hd : Decided domain e.global d)
    (h : runDecision domain d e = some (e', false)) : Waned e e' := by
  rcases runDecision_cases hd h with ⟨-, g, hsilent, rfl⟩ | ⟨spec, hspec, rctx, x, hands, hrun⟩
  · exact Unchanged.waned ⟨rfl, rfl, rfl, hsilent⟩
  · have hstart := recorded_unchanged e e .dispatched (stubTransition spec.plan x)
    refine hstart.waned.trans (dispatchOne_waned ?_ hrun)
    rintro hpointed ⟨hcancels, hoccupied⟩
    cases hands with
    | global => cases hoccupied
    | replica r =>
      obtain ⟨hremove, hdetach⟩ := decided_emergency hpointed.anchored hd
      rcases registry_cancels spec hspec hcancels with hforce | hforce
      · obtain ⟨-, hslot, -⟩ := registry_forceRemove spec hspec hforce
        obtain ⟨id, rfl, hdue⟩ := hremove hforce
        rw [hslot] at hoccupied
        exact ⟨id, rfl, .inl ⟨hdue, hoccupied⟩⟩
      · obtain ⟨-, hslot, -⟩ := registry_forceDetach_slot spec hspec hforce
        obtain ⟨id, rfl, hdue⟩ := hdetach hforce
        rw [hslot] at hoccupied
        exact ⟨id, rfl, .inr ⟨hdue, hoccupied⟩⟩

theorem waned_respected : Respected domain Fresh fun e e' c => c = false → Waned e e' where
  refl e _ := (Unchanged.refl e).waned
  trans _ _ _ _ _ h h' hc :=
    (h (Bool.or_eq_false_iff.mp hc).1).trans (h' (Bool.or_eq_false_iff.mp hc).2)
  nodup _ hf := hf.nodup
  settle _ _ _ _ _ hf _ h := ⟨settled_fresh hf h, by rintro rfl; exact settled_waned h⟩
  decision _ _ _ _ hf hd h := ⟨decision_fresh hf hd h, by rintro rfl; exact decided_waned hd h⟩

theorem process_waned (hf : Fresh e) (h : process domain e = some (e', false)) : Waned e e' :=
  (waned_respected.process hf h).2 rfl

/-- Whatever else a quiet reconciliation does, an emergency that is due for a
replica with a transition is asked for, and the transition is lost. -/
theorem process_loses (hf : Fresh e) (hpointed : Pointed e) (hpressed : Pressed e.global id)
    (h : process domain e = some (e', false)) : e'.transitions.length < e.transitions.length := by
  have hkeep : ∀ e1 e2 : Engine GlobalContext, e1.transitions.length < e.transitions.length →
      (false = false → Waned e1 e2) → e2.transitions.length < e.transitions.length :=
    fun e1 e2 hlt hwaned => (hwaned rfl).length.trans_lt hlt
  have hall : ∀ (decide : Ref → GlobalContext → Choice) (g : GlobalContext),
      decide (.replica id) ∈ g.allRefs.map decide := fun decide g =>
    mem_map_of_mem (mem_append_left _ (mem_map_of_mem (mem_finRange id)))
  -- At the point of the replica either something was lost before, or its slot
  -- is as it was at the start.
  have hbound : ∀ (type : TransitionType) (point : GlobalContext → Choice),
      (∀ e1, Unchanged e e1 → ∃ planID, point e1.global =
        some (.replica (.replica id) type planID)) →
      (∀ spec ∈ registry, spec.transitionType = type → spec.scope = .replica ∧
        spec.cancelActiveOnCreate = true ∧ (e.global.slotAt spec.slot id).isSome = true) →
      Respected.Binds Fresh (fun e e' c => c = false → Waned e e') e
        (fun e1 => e1.transitions.length < e.transitions.length) (askPoint domain point) := by
    intro type point hpoint hplans e1 e2 _ hwaned h2
    rcases (hwaned rfl).cause hpointed with hsame | ⟨hlt, -⟩
    · obtain ⟨planID, hd⟩ := hpoint e1 hsame
      simp only [askPoint, hd, runDecision, Option.bind_eq_bind, Option.bind_eq_some_iff] at h2
      obtain ⟨p, hget, h2⟩ := h2
      obtain ⟨spec, hspec, rfl⟩ := domain_get hget
      obtain ⟨hmem, htype, -⟩ := lookup_eq_some hspec
      obtain ⟨hscope, hcancel, hslot⟩ := hplans spec hmem htype
      have hplan : spec.plan.scope = .replica := hscope
      rw [if_pos hplan] at h2
      have hstart := hsame.trans (recorded_unchanged e1 e1 .dispatched
        (stubTransition spec.plan (domain.replicaName e1.global (.replica id))))
      have hslot1 : (e1.global.slotAt spec.slot id).isSome = true := by
        rw [← hslot]
        exact congrArg Option.isSome (getActive_silent spec.slot hsame.global (.replica id))
      rw [← hstart.transitions]
      exact .inr (dispatchOne_loses (hpointed.of_unchanged hstart) hcancel hslot1 h2)
    · exact .inl hlt
  rcases hpressed with ⟨hdue, hslot⟩ | ⟨hdue, hslot⟩
  · refine waned_respected.process_binds hkeep hf (hbound .forceRemoveReplica
      (decideMembership (.replica id)) ?_ ?_) (by simp [domain] : membershipDispatcher ∈ _)
      (mem_singleton.mpr rfl) (fun g => hall decideMembership g) h
    · intro e1 hsame
      have hctx : (e1.global.replicas id).silent = (e.global.replicas id).silent :=
        congrFun (congrArg GlobalContext.replicas hsame.global) id
      refine decideMembership_due (hpointed.of_unchanged hsame).anchored ?_
      change ForceRemovalDue (e1.global.replicas id).silent
      rwa [hctx]
    · intro spec hmem htype
      obtain ⟨hscope, hplace, hcancel⟩ := registry_forceRemove spec hmem htype
      exact ⟨hscope, hcancel, by rw [hplace]; exact hslot⟩
  · refine waned_respected.process_binds hkeep hf (hbound .forceDetach
      (decideForceDetach (.replica id)) ?_ ?_) (by simp [domain] : attachmentDispatcher ∈ _)
      (mem_cons_self ..) (fun g => hall decideForceDetach g) h
    · intro e1 hsame
      have hctx : (e1.global.replicas id).silent = (e.global.replicas id).silent :=
        congrFun (congrArg GlobalContext.replicas hsame.global) id
      refine ⟨.forceDetach, decideForceDetach_due ?_⟩
      change ForceDetachDue (e1.global.replicas id).silent
      rwa [hctx]
    · intro spec hmem htype
      obtain ⟨hscope, hplace, hcancel⟩ := registry_forceDetach_slot spec hmem htype
      exact ⟨hscope, hcancel, by rw [hplace]; exact hslot⟩

theorem startEngine_pointed (obs : Observation) (st : Status) : Pointed (startEngine obs st) := by
  refine ⟨startEngine_anchored obs st, fun slot id ref href => ?_⟩
  exact mem_range.mpr ((startEngine_enrolled obs st).pointers slot id ref href)

theorem startEngine_finalize (obs : Observation) (st : Status) :
    finalize (startEngine obs st) = st.transitions := by
  apply ext_getElem?
  intro k
  change ((List.range st.transitions.length).map (startEngine obs st).heap)[k]? = _
  rw [List.getElem?_map]
  by_cases hk : k < st.transitions.length
  · rw [List.getElem?_range hk, startEngine_heap (mem_range.mpr hk)]
    rfl
  · have hnone : (List.range st.transitions.length)[k]? = none :=
      List.getElem?_eq_none (by simpa using hk)
    rw [hnone, List.getElem?_eq_none (not_lt.mp hk)]
    rfl

/-- A quiet reconciliation keeps the transitions exactly when no emergency is
due for a replica with a transition. -/
theorem finalize_eq_iff
    (h : process domain (startEngine obs st) = some (e, false)) :
    finalize e = st.transitions ↔ ∀ id, ¬Pressed (startEngine obs st).global id := by
  have hpointed := startEngine_pointed obs st
  constructor
  · intro hsame id hpressed
    have hlt := process_loses (startEngine_fresh obs st) hpointed hpressed h
    have hlength := congrArg List.length (hsame.trans (startEngine_finalize obs st).symm)
    simp only [finalize, Engine.active, length_map] at hlength
    omega
  · intro hcalm
    rcases (process_waned (startEngine_fresh obs st) h).cause hpointed with hsame | ⟨-, id, hid⟩
    · rw [← startEngine_finalize obs st]
      unfold finalize Engine.active
      rw [hsame.transitions, hsame.heap]
    · exact absurd hid (hcalm id)

theorem finishCycle_quiet
    (hrevision : e.revision = st.datameshRevision) :
    (finishCycle obs st e false false).status = { st with transitions := finalize e } := by
  rw [← hrevision]
  rfl

/-- A cycle that reports no change leaves the status, the requests and the
layout alone exactly when no emergency was due, as the cycle began, for a
replica whose slot holds a transition; and so for the list of an engine. -/
theorem quiet_report_iff (obs : Observation) (st : Status) :
    (∀ el v, processVolume obs st el = some v → v.changed = false →
      ((v.cycle.status = st ∧ v.cycle.requests = obs.requests ∧ v.layout = el) ↔
        ∀ id, ¬Pressed (startCycle obs st).1.global id)) ∧
    ∀ e, process domain (startCycle obs st).1 = some (e, false) →
      (finalize e = st.transitions ↔ ∀ id, ¬Pressed (startCycle obs st).1.global id) := by
  rw [startCycle_engine]
  refine ⟨fun el v hrun hchanged => ?_, fun e hrun => finalize_eq_iff hrun⟩
  unfold processVolume at hrun
  split at hrun
  · simp only [Option.bind_eq_bind, Option.bind_eq_some_iff, Option.some.injEq, Prod.exists] at hrun
    obtain ⟨e, changed, hprocess, rfl⟩ := hrun
    obtain ⟨hcycle, hlayout⟩ := Bool.or_eq_false_iff.mp hchanged
    obtain ⟨hwritten, hrequests⟩ := Bool.or_eq_false_iff.mp hcycle
    obtain ⟨rfl, hzones⟩ := Bool.or_eq_false_iff.mp hwritten
    have hrevision : e.revision = st.datameshRevision :=
      (process_waned (startEngine_fresh obs st) hprocess).revision
    rw [← finalize_eq_iff hprocess, hzones, finishCycle_quiet hrevision]
    constructor
    · rintro ⟨hstatus, -, -⟩
      exact congrArg Status.transitions hstatus
    · intro hlist
      rw [hzones, finishCycle_quiet hrevision] at hlayout
      refine ⟨by rw [hlist], ?_, ?_⟩
      · change writebackRequestMessagesFromContexts obs.requests e.global = obs.requests
        simpa using hrequests
      · simpa [updateEffectiveLayout] using hlayout
  · cases hrun

def reachableHolder : Observation :=
  { attachObservation [0] 5 1 with
    rvrs := [readyReplica 0 5,
      { readyReplica 1 5 with peers := [⟨0, [], .connected, .established, .upToDate⟩] }]
    requests := [plainRequest 0 .forceDetach] }

def attaching : Option VolumeResult := processVolume (attachObservation [0] 5 1) twoDiskful .zero

/-- The same observation once more changes nothing. -/
theorem quiet_report_attaching :
    ∃ v v', attaching = some v ∧
      processVolume (attachObservation [0] 5 1) v.cycle.status v.layout = some v' ∧
      v'.changed = false ∧ v'.cycle.status = v.cycle.status ∧ v'.layout = v.layout := by
  have hrun : attaching.any (fun v =>
      (processVolume (attachObservation [0] 5 1) v.cycle.status v.layout).any fun v' =>
        decide (v'.changed = false ∧ ∀ id, ¬Pressed
          (startCycle (attachObservation [0] 5 1) v.cycle.status).1.global id)) = true := by
    decide +kernel
  obtain ⟨v, hv, hrun⟩ := (Option.any_eq_true _ _).mp hrun
  obtain ⟨v', hv', hquiet, hcalm⟩ := exists_of_decide hrun
  obtain ⟨hstatus, -, hlayout⟩ := ((quiet_report_iff (attachObservation [0] 5 1)
    v.cycle.status).1 v.layout v' hv' hquiet).mpr hcalm
  exact ⟨v, v', hv, hv', hquiet, hstatus, hlayout⟩

/-- The Attach is gone from the list, and the cycle reports no change. -/
theorem quiet_report_loses_attach :
    ∃ v v', attaching = some v ∧ processVolume reachableHolder v.cycle.status v.layout = some v' ∧
      v'.changed = false ∧ v.cycle.status.transitions.map (·.type) = [.attach] ∧
      v'.cycle.status.transitions = [] ∧ v'.cycle.status ≠ v.cycle.status := by
  have hrun : attaching.any (fun v =>
      (processVolume reachableHolder v.cycle.status v.layout).any fun v' =>
        decide (v'.changed = false ∧ v.cycle.status.transitions.map (·.type) = [.attach] ∧
          v'.cycle.status.transitions = [])) = true := by
    decide +kernel
  obtain ⟨v, hv, hrun⟩ := (Option.any_eq_true _ _).mp hrun
  obtain ⟨v', hv', hquiet, hbefore, hafter⟩ := exists_of_decide hrun
  refine ⟨v, v', hv, hv', hquiet, hbefore, hafter, fun hsame => ?_⟩
  rw [← hsame, hafter] at hbefore
  cases hbefore

end ReplicatedVolume.Datamesh
