import ReplicatedVolume.Mesh.Orderly

/-!
# The moves of an engine

A reconciliation is a chain of small moves between orderly engines. Each move says on which context
which callbacks ran, so that an invariant about any part of the contexts is proved once for each
kind of move.
-/

namespace ReplicatedVolume.Datamesh
open Dmte List Function

variable {g g' : GlobalContext} {rctx : Option Ref} {e e' : Engine GlobalContext} {k : ℕ}
  {c mc : Bool} {cr : ConfirmResult} {e1 e2 e3 : Engine GlobalContext}

def ReplicaContext.bare (rc : ReplicaContext) : ReplicaContext :=
  { rc.silent with membershipTransition := none, attachmentTransition := none }

/-- The context without what the engine keeps for itself: slots, messages, the
memoized quorum check and the tracker. -/
def GlobalContext.bare (g : GlobalContext) : GlobalContext :=
  { g with
    replicas := fun id => (g.replicas id).bare
    orphans := g.orphans.map ReplicaContext.bare
    changeSystemNetworksTransition := none
    quorumCheck := none
    hasFormationTransition := false
    hasQuorumTransition := false
    hasMultiattachTransition := false
    hasNetworkTransition := false
    hasResizeTransition := false
    diskGainingMembershipTransitions := ∅
    votingMembershipTransitions := ∅
    nonVotingMembershipTransitions := ∅
    attachmentTransitions := ∅
    emergencyTransitions := ∅
    potentiallyAttached := ∅ }

theorem bare_of_silent (h : g'.silent = g.silent) : g'.bare = g.bare := by
  have hbare : ∀ g : GlobalContext, g.silent.bare = g.bare := by
    intro g
    simp only [GlobalContext.bare, GlobalContext.silent, map_map]
    rfl
  rw [← hbare g', h, hbare g]

structure Matching (g g' : GlobalContext) : Prop where
  fixed : g'.fixed = g.fixed
  member : g'.member = g.member
  rvr : g'.rvr = g.rvr
  indexed : g'.indexed = g.indexed
  names : g'.systemNetworkNames = g.systemNetworkNames
  rsp : g'.rsp = g.rsp

theorem matching_of_bare (h : g'.bare = g.bare) : Matching g g' := by
  have hmember := congrArg GlobalContext.member h
  have hrvr := congrArg GlobalContext.rvr h
  have hindexed := congrArg GlobalContext.indexed h
  have hnames := congrArg GlobalContext.systemNetworkNames h
  have hrsp := congrArg GlobalContext.rsp h
  have hfixed := congrArg GlobalContext.fixed h
  simp only [GlobalContext.fixed, GlobalContext.bare, map_map] at hfixed
  exact ⟨hfixed, hmember, hrvr, hindexed, hnames, hrsp⟩

theorem Matching.anchored (h : Matching g g') (hg : Anchored g) :
    Anchored g' := hg.congr h.fixed h.member h.indexed

theorem modify_bare {f : ReplicaContext → ReplicaContext} (g : GlobalContext) (r : Ref)
    (hf : ∀ rc, (f rc).bare = rc.bare) : (g.modify r f).bare = g.bare := by
  simp only [GlobalContext.bare, modify_replicas r hf, modify_orphans r fun _ _ => hf]
  cases r <;> rfl

theorem setActiveTransition_bare (slot : SlotID) (g : GlobalContext) (r : Ref)
    (ref : Option ActiveRef) : (slot.accessor.setActiveTransition g r ref).bare = g.bare := by
  cases slot
  · exact modify_bare g r fun _ => rfl
  · exact modify_bare g r fun _ => rfl

theorem setActive_bare (spec : PlanSpec) (rctx : Option Ref) (ref : Option ActiveRef)
    (e : Engine GlobalContext) : (setActive spec.plan rctx ref e).global.bare = e.global.bare := by
  cases rctx with
  | none => rfl
  | some r => exact setActiveTransition_bare spec.slot e.global r ref

theorem trackerAdd_bare (g : GlobalContext) (t : Transition) : (trackerAdd g t).bare = g.bare := by
  unfold trackerAdd
  split <;> rfl

theorem trackerRemove_bare (g : GlobalContext) (t : Transition) :
    (trackerRemove g t).bare = g.bare := by
  unfold trackerRemove
  split <;> rfl

theorem insertTransition_bare (spec : PlanSpec) (rctx : Option Ref) (t : Transition)
    (e : Engine GlobalContext) :
    (insertTransition domain spec.plan rctx t e).global.bare = e.global.bare := by
  change (trackerAdd _ t).bare = _
  rw [trackerAdd_bare, setActive_bare]
  rfl

variable {spec : PlanSpec}

theorem report_silent {idx : ℕ}
    (h : confirmAndReport domain spec.plan e k rctx idx = some (e', cr, mc)) :
    e'.global.silent = e.global.silent := by
  obtain ⟨step, s, raw, composed, -, -, -, rfl⟩ := confirmAndReport_eq_some h
  exact (setStatus_unchanged spec rctx composed step.details _).global

theorem complete_bare
    (h : completeTransition domain spec.plan e k rctx = some e') :
    e'.global.bare = e.global.bare := by
  obtain ⟨g, hg, rfl⟩ := completeTransition_eq_some h
  change (trackerRemove _ _).bare = _
  rw [trackerRemove_bare, setActive_bare]
  exact bare_of_silent (onComplete_silent hg)

variable {c' : Bool}

theorem runApplies_append {as bs : List Apply} {g1 g2 : GlobalContext}
    (h : runApplies as g rctx = some (g1, c)) (h' : runApplies bs g1 rctx = some (g2, c')) :
    ∃ c'', runApplies (as ++ bs) g rctx = some (g2, c'') := by
  induction as generalizing g c with
  | nil =>
    cases h
    exact ⟨c', h'⟩
  | cons a as ih =>
    obtain ⟨g3, c3, c4, h3, h4, rfl⟩ := runApplies_cons h
    obtain ⟨c'', hrest⟩ := ih h4
    refine ⟨c3 || c'', ?_⟩
    simp only [cons_append, runApplies, h3, Option.bind_eq_bind, Option.bind_some, hrest]

/-- Between the bare contexts of two engines the callbacks `as` ran, for the
subject `rctx` and with the books `b`. -/
def Works (e e' : Engine GlobalContext) (rctx : Option Ref) (b : Books) (as : List Apply) : Prop :=
  ∃ g g' c, g.bare = e.global.bare ∧ g.books = b ∧ runApplies as g rctx = some (g', c) ∧
    e'.global.bare = g'.bare

theorem onComplete_applies {s : StepSpec} (h : s.step.onComplete g rctx = some g') :
    ∃ c, runApplies s.onComplete g rctx = some (g', c) := by
  simp only [StepSpec.step, Option.map_eq_some_iff, Prod.exists] at h
  obtain ⟨g'', c, h, rfl⟩ := h
  exact ⟨c, h⟩

/-- Whatever the state of the engine, settling leaves the bare contexts or runs
callbacks of a registered plan for the subject of the transition. -/
theorem settled_works {p : Bool} (h : Settled domain e k e' c p) :
    e'.global.bare = e.global.bare ∨ c = true ∧ ∃ spec ∈ registry, ∃ rctx as,
      Denotes rctx (e.heap k).replica ∧ Works e e' rctx e.global.books as ∧
      ∀ a ∈ as, ∃ s ∈ spec.steps, a ∈ s.onComplete ∨ s ∈ spec.steps.tail ∧ a ∈ s.apply := by
  cases h with
  | unknown => exact .inl rfl
  | finished hget _ hdone =>
    obtain ⟨spec, -, rfl⟩ := domain_get hget
    have hbare := complete_bare hdone
    exact .inl hbare
  | waiting hget _ hconf =>
    obtain ⟨spec, -, rfl⟩ := domain_get hget
    exact .inl (bare_of_silent (report_silent hconf))
  | @advanced _ idx _ _ _ _ _ _ _ _ _ hget _ hconf _ hstep hcomp _ happly hreport =>
    obtain ⟨spec, hspec, rfl⟩ := domain_get hget
    obtain ⟨s, hs, rfl⟩ := plan_step hstep
    obtain ⟨c1, hdone⟩ := onComplete_applies hcomp
    obtain ⟨step', ts, g2, c2, hstep', -, hrun, rfl⟩ := applyStep_eq_some happly
    obtain ⟨s', hs', rfl⟩ := plan_step hstep'
    obtain ⟨c3, hall⟩ := runApplies_append hdone hrun
    have hreported := report_silent hconf
    have hafter := report_silent hreport
    refine .inr ⟨rfl, spec, (lookup_eq_some hspec).1, _, _, subject_denotes spec.plan e k,
      ⟨_, _, c3, bare_of_silent hreported, (untouched_of_silent hreported).books, hall,
        bare_of_silent hafter⟩, fun a ha => ?_⟩
    rcases mem_append.mp ha with ha | ha
    · exact ⟨s, mem_of_getElem? hs, .inl ha⟩
    · have hlater : spec.steps.tail[idx]? = some s' := by rwa [List.getElem?_tail]
      exact ⟨s', mem_of_getElem? hs', .inr ⟨mem_of_getElem? hlater, ha⟩⟩
  | completed hget _ hconf _ hstep hcomp _ hdone =>
    obtain ⟨spec, hspec, rfl⟩ := domain_get hget
    obtain ⟨s, hs, rfl⟩ := plan_step hstep
    obtain ⟨c1, happlies⟩ := onComplete_applies hcomp
    have hreported := report_silent hconf
    exact .inr ⟨rfl, spec, (lookup_eq_some hspec).1, _, _, subject_denotes spec.plan e k,
      ⟨_, _, c1, bare_of_silent hreported, (untouched_of_silent hreported).books, happlies,
        complete_bare hdone⟩, fun a ha => ⟨s, mem_of_getElem? hs, .inl ha⟩⟩

theorem reportConflict_silent (spec : PlanSpec) (rctx : Option Ref) (ref : ActiveRef)
    (e : Engine GlobalContext) :
    (reportConflict domain spec.plan rctx ref e).global.silent = e.global.silent := by
  unfold reportConflict
  dsimp only
  split_ifs
  · rfl
  · exact (setStatus_unchanged spec rctx _ _ e).global

theorem dispatched_works {planID : PlanID} (hg : Anchored e.global)
    (hglobal : spec.scope ≠ .replica → rctx = none)
    (h : Dispatched domain spec.plan planID rctx e e' c) :
    e'.global.bare = e.global.bare ∨ c = true ∧ ∃ x b, ∃ s ∈ spec.steps, Denotes rctx x ∧
      (∀ id, x = some id → rctx = some (.replica id)) ∧ Works e e' rctx b s.apply := by
  cases h with
  | conflict => exact .inl (bare_of_silent (reportConflict_silent spec rctx _ e))
  | @blocked _ g message details hguards =>
    have hstatus := (setStatus_unchanged spec rctx message details { e with global := g }).global
    exact .inl (bare_of_silent (hstatus.trans (evaluateGuards_silent hguards)))
  | @created _ g replica _ t _ _ _ _ _ hguards _ hreplica _ _ hnamed _ happly hreport =>
    have hsilent := evaluateGuards_silent hguards
    obtain ⟨hx, hhandle, -⟩ :=
      denotes_of_scope ((Agree.of_silent hsilent).anchored hg) hreplica hglobal hnamed
    obtain ⟨step, ts, g2, c2, hstep, -, hrun, rfl⟩ := applyStep_eq_some happly
    obtain ⟨s, hs, rfl⟩ := plan_step hstep
    have hbare := insertTransition_bare spec rctx t { e with global := g }
    have hafter := report_silent hreport
    exact .inr ⟨rfl, replica, _, s, mem_of_getElem? hs, hx, hhandle, _, _, c2,
      hbare.trans (bare_of_silent hsilent), rfl, hrun, bare_of_silent hafter⟩

theorem head_of_header {t t' : Transition} (h : headerOf t' = headerOf t) :
    t'.type = t.type ∧ t'.planID = t.planID ∧ t'.group = t.group ∧ t'.replica = t.replica := by
  have htype := congrArg Transition.type h
  have hplan := congrArg Transition.planID h
  have hgroup := congrArg Transition.group h
  have hreplica := congrArg Transition.replica h
  exact ⟨htype, hplan, hgroup, hreplica⟩

/-- The transition with pointer `k` is the same in both engines, up to messages. -/
def SameAt (e e' : Engine GlobalContext) (k : ℕ) : Prop :=
  headerOf (e'.heap k) = headerOf (e.heap k) ∧ activeAt e' k = activeAt e k

theorem sameAt_of_heap (h : e'.heap k = e.heap k) : SameAt e e' k := by
  unfold SameAt activeAt
  rw [h]
  exact ⟨rfl, rfl⟩

structure Rests (e e' : Engine GlobalContext) : Prop where
  bare : e'.global.bare = e.global.bare
  live : ∀ k ∈ e'.transitions, k ∈ e.transitions ∧ SameAt e e' k

theorem Rests.refl (e : Engine GlobalContext) : Rests e e := ⟨rfl, fun _ hk => ⟨hk, rfl, rfl⟩⟩

theorem Rests.trans (h : Rests e1 e2) (h' : Rests e2 e3) : Rests e1 e3 := by
  refine ⟨h'.bare.trans h.bare, fun k hk => ?_⟩
  obtain ⟨hk2, hhead', hactive'⟩ := h'.live k hk
  obtain ⟨hk1, hhead, hactive⟩ := h.live k hk2
  exact ⟨hk1, hhead'.trans hhead, hactive'.trans hactive⟩

/-- The current step `s` of the transition at `k` is confirmed by everyone it
waits for. -/
structure Settles (e : Engine GlobalContext) (k : ℕ) (spec : PlanSpec) (s : StepSpec)
    (rctx : Option Ref) : Prop where
  mem : k ∈ e.transitions
  plan : (activeAt e k).spec = some spec
  step : spec.steps[(activeAt e k).idx]? = some s
  subject : Denotes rctx (e.heap k).replica
  confirmed : ∃ cr, s.confirm.run e.global rctx (activeAt e k).revision = some cr ∧ cr.Holds

/-- The engine sets out to create a transition `t` of a plan: the guards of the
plan passed, with `g` as the context after them. -/
structure Starts (e : Engine GlobalContext) (spec : PlanSpec) (rctx : Option Ref)
    (x : Option ReplicaID) (g : GlobalContext) (t : Transition) : Prop where
  registered : spec ∈ registry
  subject : Denotes rctx x
  handle : ∀ id, x = some id → rctx = some (.replica id)
  guards : ∃ result, evaluateGuards rctx spec.plan.guards e.global = some (result, g) ∧
    result.blocked = false
  init : spec.init.run g (blankTransition spec.plan spec.planID x) = some t
  decided : spec.scope = .global → Decided domain e.global (.global spec.transitionType spec.planID)

inductive Move (e e' : Engine GlobalContext) : Prop
  | rest (hrests : Rests e e') (hlog : e'.log = e.log)
  | note {ev : Event GlobalContext} (hrests : Rests e e')
      (hkind : ev.kind = .dispatched ∨ ev.kind = .cancelled) (hbefore : ev.before = e.snapshot)
      (hafter : ev.after = e'.snapshot) (hlog : e'.log = ev :: e.log)
  | advance {k : ℕ} {spec : PlanSpec} {s s' : StepSpec} {rctx : Option Ref}
      (hsettles : Settles e k spec s rctx)
      (hnext : spec.steps[(activeAt e k).idx + 1]? = some s')
      (hworks : Works e e' rctx e.global.books (s.onComplete ++ s'.apply))
      (htrans : e'.transitions = e.transitions)
      (hhead : headerOf (e'.heap k) = headerOf (e.heap k))
      (hidx : (activeAt e' k).idx = (activeAt e k).idx + 1)
      (hothers : ∀ k', k' ≠ k → e'.heap k' = e.heap k')
      (hlog : e'.log = ⟨.advanced, e.heap k, e.snapshot, e'.snapshot⟩ :: e.log)
  | complete {k : ℕ} {spec : PlanSpec} {s : StepSpec} {rctx : Option Ref}
      (hsettles : Settles e k spec s rctx)
      (hlast : spec.steps.length = (activeAt e k).idx + 1)
      (hworks : Works e e' rctx e.global.books s.onComplete)
      (htrans : e'.transitions = e.transitions.erase k)
      (hothers : ∀ k', k' ≠ k → e'.heap k' = e.heap k')
      (hlog : e'.log = ⟨.completed, e.heap k, e.snapshot, e'.snapshot⟩ :: e.log)
  | create {spec : PlanSpec} {s : StepSpec} {rctx : Option Ref} {x : Option ReplicaID}
      {t : Transition} {g : GlobalContext} (hstarts : Starts e spec rctx x g t)
      (hstep : spec.steps[0]? = some s)
      (hworks : Works e e' rctx (e.global.books.add (headerOf t)) s.apply)
      (htrans : e'.transitions = e.transitions ++ [e.next])
      (hhead : headerOf (e'.heap e.next) = headerOf t) (hidx : (activeAt e' e.next).idx = 0)
      (hothers : ∀ k, k ≠ e.next → e'.heap k = e.heap k)
      (hlog : e'.log = ⟨.created, e'.heap e.next,
        ({ e with global := g } : Engine GlobalContext).snapshot, e'.snapshot⟩ :: e.log)

structure OrderlyMove (e e' : Engine GlobalContext) : Prop where
  before : Orderly e
  after : Orderly e'
  move : Move e e'

structure Moves (e e' : Engine GlobalContext) (changed : Bool) : Prop where
  chain : Relation.ReflTransGen OrderlyMove e e'
  quiet : changed = false → Rests e e'

theorem Moves.refl (e : Engine GlobalContext) : Moves e e false := ⟨.refl, fun _ => .refl e⟩

theorem Moves.trans (h : Moves e1 e2 c) (h' : Moves e2 e3 c') : Moves e1 e3 (c || c') := by
  refine ⟨h.chain.trans h'.chain, fun hc => ?_⟩
  rw [Bool.or_eq_false_iff] at hc
  exact (h.quiet hc.1).trans (h'.quiet hc.2)

theorem Moves.single (he : Orderly e) (he' : Orderly e') (hmove : Move e e')
    (hquiet : c = false → Rests e e') : Moves e e' c :=
  ⟨.single ⟨he, he', hmove⟩, hquiet⟩

section
variable {e e' : Engine GlobalContext} {k idx : ℕ} {spec : PlanSpec}

theorem report_rests
    (h : confirmAndReport domain spec.plan e k rctx idx = some (e', cr, mc)) : Rests e e' := by
  have hsteady := steady_report h
  refine ⟨bare_of_silent (report_silent h), fun k' hk' => ⟨?_, hsteady.heads k', ?_⟩⟩
  · rwa [hsteady.transitions] at hk'
  · rw [report_activeAt h]

theorem settles_of_report {step : Step GlobalContext Ref} (hk : k ∈ e.transitions)
    (hspec : lookup (e.heap k).type (e.heap k).planID = some spec)
    (hidx : findCurrentStepIdx (e.heap k) = some idx)
    (hconf : confirmAndReport domain spec.plan e k (subject domain spec.plan e k) idx = some (e1,
      cr, mc)) (hholds : cr.Holds) (hstep : spec.plan.steps[idx]? = some step) :
    (activeAt e k).idx = idx ∧
      ∃ s, step = s.step ∧ Settles e k spec s (subject domain spec.plan e k) := by
  obtain ⟨s, ts, raw, g, hs, hts, hcr, -, -⟩ := report_eq hconf
  obtain ⟨s0, hs0, rfl⟩ := plan_step hstep
  obtain rfl : s = s0 := Option.some.inj (hs.symm.trans hs0)
  have hactive : activeAt e k = _ := activeOf_eq hidx hts
  refine ⟨by rw [hactive], s, rfl, hk, hspec, by rw [hactive]; exact hs,
    subject_denotes spec.plan e k, cr, ?_, hholds⟩
  rw [hactive]
  exact hcr

theorem settle_move {p : Bool} (he : Orderly e) (hk : k ∈ e.transitions)
    (h : Settled domain e k e' c p) : Move e e' ∧ (c = false → Rests e e') := by
  cases h with
  | unknown => exact ⟨.rest (.refl e) rfl, fun _ => .refl e⟩
  | finished hget hidx =>
    obtain ⟨spec, hspec, -⟩ := domain_get hget
    exact absurd hidx (he.sound.current hk hspec)
  | waiting hget _ hconf =>
    obtain ⟨spec, -, rfl⟩ := domain_get hget
    have hrests := report_rests hconf
    exact ⟨.rest hrests (steady_report hconf).log, fun _ => hrests⟩
  | @advanced p idx e1 cr mc step g e3 e4 cr' mc' hget hidx hconf hholds hstep hcomp hlt happly
      hreport =>
      obtain ⟨spec, hspec, rfl⟩ := domain_get hget
      obtain ⟨hcur, s, rfl, hsettles⟩ := settles_of_report hk hspec hidx hconf hholds hstep
      obtain ⟨c1, hdone⟩ := onComplete_applies hcomp
      obtain ⟨ht, hactive⟩ := advance_touched hidx hconf hlt happly
      have hsteady := (steady_apply happly).trans (steady_report hreport)
      obtain ⟨step', ts', g2, c2, hstep', -, happly', he3⟩ := applyStep_eq_some happly
      obtain ⟨s', hs', rfl⟩ := plan_step hstep'
      have hrests := report_rests hreport
      have hglobal : e4.global.silent = g2.silent := by rw [report_silent hreport, he3]
      have htrans : e4.transitions = e.transitions :=
        (steady_report hreport).transitions.trans ht.transitions
      obtain ⟨c3, hall⟩ := runApplies_append hdone happly'
      have hreported := report_silent hconf
      refine ⟨.advance hsettles (by rw [hcur]; exact hs') ⟨_, _, c3, bare_of_silent hreported,
        (untouched_of_silent hreported).books, hall, bare_of_silent hglobal⟩ htrans ?_ ?_ ?_ ?_,
        by simp⟩
      · change headerOf (e4.heap k) = _
        rw [hsteady.heads]
        simp only [Engine.store, update_self]
        exact (steady_report hconf).heads k
      · change (activeAt e4 k).idx = _
        rw [report_activeAt hreport, hactive]
      · intro k' hk'
        obtain ⟨-, -, -, -, -, -, -, -, rfl⟩ := report_eq hreport
        simpa [Engine.record, Engine.store, hk'] using ht.others k' hk'
      · change _ :: e4.log = _
        rw [(steady_report hreport).log, ht.log]
        rfl
  | @completed p idx e1 cr mc step g e3 hget hidx hconf hholds hstep hcomp hlast hdone =>
    obtain ⟨spec, hspec, rfl⟩ := domain_get hget
    obtain ⟨hcur, s, rfl, hsettles⟩ := settles_of_report hk hspec hidx hconf hholds hstep
    obtain ⟨c1, happlies⟩ := onComplete_applies hcomp
    have hlen := he.linked.steps k hk spec (spec_of_lookup hspec)
    have hlt : (activeAt e k).idx < spec.steps.length :=
      (List.getElem?_eq_some_iff.mp hsettles.step).1
    have herased := erased_complete hdone
    have hreported := report_silent hconf
    refine ⟨.complete hsettles (by omega) ⟨_, _, c1, bare_of_silent hreported,
      (untouched_of_silent hreported).books, happlies, complete_bare hdone⟩ ?_ ?_ ?_, by simp⟩
    · change e3.transitions = _
      rw [herased.transitions]
      exact congrArg (List.erase · k) (steady_report hconf).transitions
    · intro k' hk'
      obtain ⟨g', -, rfl⟩ := completeTransition_eq_some hdone
      obtain ⟨-, -, -, -, -, -, -, -, rfl⟩ := report_eq hconf
      change (setActive _ _ _ _).heap k' = _
      rw [(setActive_rest spec _ none _).2.2.2]
      simp [Engine.store, hk']
    · change _ :: e3.log = _
      rw [herased.log]
      exact congrArg _ (steady_report hconf).log

end

theorem cancelActive_move (spec : PlanSpec) (rctx : Option Ref) (e : Engine GlobalContext) :
    Move e (cancelActive domain spec.plan rctx e) ∧
      Rests e (cancelActive domain spec.plan rctx e) := by
  have hnothing : Move e e ∧ Rests e e := ⟨.rest (.refl e) rfl, .refl e⟩
  unfold cancelActive
  split
  · next r _ =>
      split
      · exact hnothing
      · next ref _ =>
          split
          · have hrests : Rests e (setActive spec.plan (some r) none
                (deleteTransition domain e ref.ptr)) := by
              refine ⟨(setActive_bare _ _ _ _).trans (trackerRemove_bare _ _), fun k hk => ?_⟩
              have hrest := setActive_rest spec (some r) none (deleteTransition domain e ref.ptr)
              rw [hrest.1] at hk
              refine ⟨mem_of_mem_erase hk, sameAt_of_heap ?_⟩
              rw [hrest.2.2.2]
              rfl
            have hrests' := (⟨hrests.bare, hrests.live⟩ : Rests e ((setActive spec.plan (some r) none
              (deleteTransition domain e ref.ptr)).record e .cancelled (e.heap ref.ptr)))
            have hlog : ((setActive spec.plan (some r) none (deleteTransition domain e
                ref.ptr)).record e .cancelled (e.heap ref.ptr)).log = ⟨.cancelled, e.heap ref.ptr,
                  e.snapshot, (setActive spec.plan (some r) none (deleteTransition domain e
                    ref.ptr)).snapshot⟩ :: e.log := by
              change _ :: (setActive _ _ _ _).log = _
              rw [(setActive_rest spec (some r) none _).2.2.1]
              rfl
            exact ⟨.note hrests' (.inr rfl) rfl rfl hlog, hrests'⟩
          · have hrest := setActive_rest spec (some r) none e
            have hrests : Rests e (setActive spec.plan (some r) none e) := by
              refine ⟨setActive_bare _ _ _ _, fun k hk => ?_⟩
              rw [hrest.1] at hk
              exact ⟨hk, sameAt_of_heap (by rw [hrest.2.2.2])⟩
            exact ⟨.rest hrests hrest.2.2.1, hrests⟩
  · exact hnothing

theorem rests_of_silent (h : g.silent = e.global.silent) : Rests e { e with global := g } :=
  ⟨bare_of_silent h, fun _ hk => ⟨hk, rfl, rfl⟩⟩

theorem setStatus_rests (spec : PlanSpec) (rctx : Option Ref) (message : String)
    (details : Option String) (e : Engine GlobalContext) :
    Rests e (setStatus spec.plan rctx message details e) ∧
      (setStatus spec.plan rctx message details e).log = e.log := by
  obtain ⟨g, -, heq⟩ := setStatus_eq spec rctx message details e
  have hsilent := (setStatus_unchanged spec rctx message details e).global
  rw [heq] at hsilent ⊢
  exact ⟨rests_of_silent hsilent, rfl⟩

theorem dispatched_move {x : Option ReplicaID} (he : Orderly e)
    (hspec : spec ∈ registry)
    (hx : x = if spec.scope = .replica then rctx.bind e.global.replicaName else none)
    (hglobal : spec.scope ≠ .replica → rctx = none)
    (hdecided : spec.scope = .global → Decided domain e.global (.global spec.transitionType
      spec.planID)) (h : Dispatched domain spec.plan spec.planID rctx e e' c) :
    Move e e' ∧ (c = false → Rests e e') := by
  cases h with
  | @conflict ref =>
    have hsilent := reportConflict_silent spec rctx ref e
    obtain ⟨g, -, heq⟩ := reportConflict_eq spec rctx ref e
    rw [heq] at hsilent ⊢
    have hrests := rests_of_silent hsilent
    exact ⟨.rest hrests rfl, fun _ => hrests⟩
  | @blocked _ g message details hguards =>
    have hrests := rests_of_silent (evaluateGuards_silent hguards)
    obtain ⟨hstatus, hlog⟩ := setStatus_rests spec rctx message details { e with global := g }
    have hall := hrests.trans hstatus
    exact ⟨.rest hall hlog, fun _ => hall⟩
  | @created result g replica tempT t e1 e2 cr mc _ hguards hpass hreplica _ _ hnamed hinit happly
      hreport =>
      have hg := he.linked.anchored
      have hsilent := evaluateGuards_silent hguards
      have hagree := Agree.of_silent (evaluateGuards_silent hguards)
      obtain rfl : replica = x := hreplica.trans ((subject_of_agree hg hagree).trans hx.symm)
      obtain ⟨hdenotes, hhandle, -⟩ := denotes_of_scope hg hx hglobal hnamed
      have hinserted := inserted_insert spec rctx t { e with global := g }
      have hsteady := (steady_apply happly).trans (steady_report hreport)
      have hbare := insertTransition_bare spec rctx t { e with global := g }
      have hheap : ∀ k, (insertTransition domain spec.plan rctx t { e with global := g }).heap k =
          update e.heap e.next t k := by
        intro k
        change (setActive _ _ _ _).heap k = _
        rw [(setActive_rest spec rctx _ _).2.2.2]
        rfl
      obtain ⟨step, ts, g2, c2, hstep, hts, happly', he1⟩ := applyStep_eq_some happly
      obtain ⟨s, hs, rfl⟩ := plan_step hstep
      rw [hheap, update_self] at hts he1
      refine ⟨.create ⟨hspec, hdenotes, hhandle, ⟨result, hguards, hpass⟩, hinit, hdecided⟩ hs
        ⟨_, _, c2, hbare.trans (bare_of_silent hsilent), ?_, happly', bare_of_silent ?_⟩ ?_ ?_ ?_ ?_
        ?_, by simp⟩
      · rw [hinserted.books]
        exact congrArg (Books.add · _) (untouched_of_silent hsilent).books
      · change e2.global.silent = _
        rw [report_silent hreport, he1]
      · change e2.transitions = _
        rw [hsteady.transitions, hinserted.transitions]
      · change headerOf (e2.heap e.next) = _
        rw [hsteady.heads]
        exact hinserted.fresh
      · change (activeAt e2 e.next).idx = 0
        rw [report_activeAt hreport, activeAt, he1]
        simp only [Engine.store, update_self]
        rw [(started_of_init hinit).activeOf_applied hts]
        rfl
      · intro k hk
        obtain ⟨-, -, -, -, -, -, -, -, rfl⟩ := report_eq hreport
        change update e1.heap e.next _ k = _
        rw [update_of_ne hk, he1]
        simp only [Engine.store, update_of_ne hk, hheap]
      · change _ :: e2.log = _
        rw [hsteady.log, hinserted.log]
        rfl

theorem decision_moves {d : Decision GlobalContext Ref} (he : Orderly e)
    (hd : Decided domain e.global d) (hrun : runDecision domain d e = some (e', c)) :
    Orderly e' ∧ Moves e e' c := by
  rcases runDecision_cases hd hrun with ⟨-, g, hsilent, rfl⟩ | ⟨spec, hspec, rctx, x, hands, hrun⟩
  · have hrests := rests_of_silent hsilent
    have he' := (decision_orderly he hd hrun).1
    exact ⟨he', .single he he' (.rest hrests rfl) fun _ => hrests⟩
  · obtain ⟨⟨h1, -⟩, ⟨h2, -⟩, ⟨h', -⟩, hx2⟩ := dispatch_staged he hd hspec hands hrun
    have hannounced : Rests e (e.record e .dispatched (stubTransition spec.plan x)) :=
      ⟨rfl, fun _ hk => ⟨hk, rfl, rfl⟩⟩
    obtain ⟨hcancel, hcleared⟩ := cancelActive_move spec rctx
      (e.record e .dispatched (stubTransition spec.plan x))
    have hdecided : spec.scope = .global → Decided domain (cancelActive domain spec.plan rctx
        (e.record e .dispatched (stubTransition spec.plan x))).global
          (.global spec.transitionType spec.planID) := by
      intro hscope
      cases hands with
      | replica r hreplica => simp [hreplica] at hscope
      | global =>
        unfold cancelActive
        cases spec.plan.cancelActiveOnCreate <;> exact hd
    obtain ⟨hmove, hquiet⟩ := dispatched_move h2 hspec hx2 hands.bound hdecided
      (dispatchOne_eq_some hrun)
    have hfirst : Moves e (e.record e .dispatched (stubTransition spec.plan x)) false :=
      .single he h1 (.note hannounced (.inl rfl) rfl rfl rfl) fun _ => hannounced
    have hsecond : Moves (e.record e .dispatched (stubTransition spec.plan x)) (cancelActive domain
        spec.plan rctx (e.record e .dispatched (stubTransition spec.plan x))) false :=
      .single h1 h2 hcancel fun _ => hcleared
    have hall := hfirst.trans (hsecond.trans (.single h2 h' hmove hquiet))
    simp only [Bool.false_or] at hall
    exact ⟨h', hall⟩

theorem moves_respected : Respected domain Orderly Moves where
  refl := .refl
  trans _ _ _ _ _ := .trans
  nodup _ he := he.linked.nodup
  settle _ _ _ _ _ he hk h :=
    have he' := (settle_orderly he hk h).1
    have hmove := settle_move he hk h
    ⟨he', .single he he' hmove.1 hmove.2⟩
  decision _ _ _ _ he hd hrun := decision_moves he hd hrun

theorem initTransitions_bare (ts : List Transition) (k : ℕ) (g : GlobalContext) :
    (initTransitions domain k ts g).bare = g.bare := by
  induction ts generalizing k g with
  | nil => rfl
  | cons t ts ih =>
    have hslot : (initSlot domain (trackerAdd g t) k t).bare = (trackerAdd g t).bare := by
      unfold initSlot
      split
      · next p hget =>
          obtain ⟨spec, -, rfl⟩ := domain_get hget
          split
          · exact setActiveTransition_bare spec.slot _ _ _
          · rfl
      · rfl
    exact (ih (k + 1) _).trans (hslot.trans (trackerAdd_bare g t))

theorem startEngine_bare (obs : Observation) (st : Status) :
    (startEngine obs st).global.bare = (startContext obs st).bare :=
  initTransitions_bare st.transitions 0 (startContext obs st)

theorem cycle_moves {obs : Observation} {st : Status} {r : CycleResult} (hst : st.Orderly)
    (h : processTransitions obs st = some r) :
    ∃ e changed, Moves (startEngine obs st) e changed ∧ Orderly e ∧
      r = finishCycle obs st e changed (startCycle obs st).2 := by
  obtain ⟨e, changed, hprocess, rfl⟩ := processTransitions_eq_some h
  obtain ⟨he, hmoves⟩ := moves_respected.process (startEngine_orderly obs hst) hprocess
  exact ⟨e, changed, hmoves, he, rfl⟩

end ReplicatedVolume.Datamesh
