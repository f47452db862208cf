import ReplicatedVolume.Mesh.Moves

/-!
# What every reconciliation keeps

The simulation of the abstract datamesh needs a coherent list of transitions.
Some facts hold from any status at all: the observed objects stay as they were
read, the contexts stay in order, and nothing is published without a report.
-/

namespace ReplicatedVolume.Datamesh
open Dmte List

variable {g : GlobalContext} {c : Bool} {rctx : Option Ref} {e e' : Engine GlobalContext} {k : ℕ}
  {planID : PlanID} {d : Decision GlobalContext Ref} {p : Plan GlobalContext Ref} {spec : PlanSpec}

structure Kept (g g' : GlobalContext) : Prop where
  fixed : g'.fixed = g.fixed
  anchored : Anchored g'

theorem Kept.refl (hg : Anchored g) : Kept g g := ⟨rfl, hg⟩

theorem Kept.trans {g1 g2 g3 : GlobalContext} (h : Kept g1 g2) (h' : Kept g2 g3) : Kept g1 g3 :=
  ⟨h'.fixed.trans h.fixed, h'.anchored⟩

theorem kept_of_bare {g' : GlobalContext} (h : g'.bare = g.bare) (hg : Anchored g) : Kept g g' :=
  have hmatch := matching_of_bare h
  ⟨hmatch.fixed, hmatch.anchored hg⟩

theorem Works.kept {x : Option ReplicaID} {b : Books} {as : List Apply}
    (h : Works e e' rctx b as) (hx : Denotes rctx x) (hg : Anchored e.global) :
    Kept e.global e'.global := by
  obtain ⟨g, g', c, hbefore, -, hrun, hafter⟩ := h
  have h1 := kept_of_bare hbefore hg
  have happlied := applies_applied h1.anchored hx hrun
  exact h1.trans (.trans ⟨happlied.fixed, happlied.anchored⟩
    (kept_of_bare hafter happlied.anchored))

structure Fresh (e : Engine GlobalContext) : Prop where
  nodup : e.transitions.Nodup
  below : ∀ k ∈ e.transitions, k < e.next

structure Preserved (e e' : Engine GlobalContext) (changed : Bool) : Prop where
  kept : Kept e.global e'.global
  quiet : changed = false → e'.global.content = e.global.content

theorem preserved_of_bare (h : e'.global.bare = e.global.bare) (hg : Anchored e.global) :
    Preserved e e' c := by
  have hcontent := congrArg GlobalContext.content h
  exact ⟨kept_of_bare h hg, fun _ => hcontent⟩

variable (hf : Fresh e) (hg : Anchored e.global) (hd : Decided domain e.global d)
  (h : runDecision domain d e = some (e', c)) (obs : Observation) (st : Status)

include hg in
theorem settled_preserved {p : Bool} (h : Settled domain e k e' c p) : Preserved e e' c := by
  rcases settled_works h with hbare | ⟨rfl, spec, -, rctx, as, hx, hworks, -⟩
  · exact preserved_of_bare hbare hg
  · exact ⟨hworks.kept hx hg, nofun⟩

include hg in
theorem dispatchOne_preserved (hglobal : spec.scope ≠ .replica → rctx = none)
    (h : dispatchOne domain spec.plan planID rctx e = some (e', c)) : Preserved e e' c := by
  have hcancel : Preserved e (cancelActive domain spec.plan rctx e) false :=
    preserved_of_bare (cancelActive_move spec rctx e).2.bare hg
  rcases dispatched_works hcancel.kept.anchored hglobal (dispatchOne_eq_some h) with
    hbare | ⟨rfl, x, b, s, -, hx, -, hworks⟩
  · exact preserved_of_bare (hbare.trans (cancelActive_move spec rctx e).2.bare) hg
  · exact ⟨hcancel.kept.trans (hworks.kept hx hcancel.kept.anchored), nofun⟩

include hg hd h in
theorem decision_preserved : Preserved e e' c := by
  rcases runDecision_cases hd h with ⟨-, g, hsilent, rfl⟩ | ⟨spec, -, rctx, x, hands, hrun⟩
  · exact preserved_of_bare (bare_of_silent hsilent) hg
  · obtain ⟨hkept, hquiet⟩ :=
      dispatchOne_preserved (e := e.record e .dispatched _) hg hands.bound hrun
    exact ⟨hkept, hquiet⟩

theorem Fresh.erase (h : Fresh e) (htrans : e'.transitions = e.transitions.erase k)
    (hnext : e'.next = e.next) : Fresh e' := by
  refine ⟨?_, fun k' hk' => ?_⟩
  · rw [htrans]
    exact h.nodup.erase k
  · rw [htrans] at hk'
    rw [hnext]
    exact h.below k' (mem_of_mem_erase hk')

theorem Fresh.same (h : Fresh e) (htrans : e'.transitions = e.transitions)
    (hnext : e'.next = e.next) : Fresh e' := by
  refine ⟨by rw [htrans]; exact h.nodup, fun k hk => ?_⟩
  rw [htrans] at hk
  rw [hnext]
  exact h.below k hk

theorem Fresh.insert (h : Fresh e) (htrans : e'.transitions = e.transitions ++ [e.next])
    (hnext : e'.next = e.next + 1) : Fresh e' := by
  refine ⟨?_, fun k hk => ?_⟩
  · rw [htrans]
    refine h.nodup.append (nodup_singleton _) ?_
    rw [disjoint_singleton]
    intro hmem
    exact lt_irrefl _ (h.below _ hmem)
  · rw [htrans, mem_append, mem_singleton] at hk
    rw [hnext]
    rcases hk with hk | rfl
    · exact (h.below k hk).trans (Nat.lt_succ_self _)
    · exact Nat.lt_succ_self _

theorem setStatus_next (p : Plan GlobalContext Ref) (rctx : Option Ref) (message : String)
    (details : Option String) (e : Engine GlobalContext) :
    (setStatus p rctx message details e).next = e.next := by
  cases rctx <;> rfl

theorem setActive_next (p : Plan GlobalContext Ref) (rctx : Option Ref) (ref : Option ActiveRef)
    (e : Engine GlobalContext) : (setActive p rctx ref e).next = e.next := by
  cases rctx <;> rfl

theorem confirmAndReport_next {idx : ℕ} {cr : ConfirmResult}
    {mc : Bool} (h : confirmAndReport domain p e k rctx idx = some (e', cr, mc)) :
    e'.next = e.next := by
  obtain ⟨step, s, raw, composed, -, -, -, rfl⟩ := confirmAndReport_eq_some h
  exact setStatus_next p rctx _ _ _

theorem completeTransition_next
    (h : completeTransition domain p e k rctx = some e') : e'.next = e.next := by
  obtain ⟨g, -, rfl⟩ := completeTransition_eq_some h
  exact setActive_next p rctx none _

theorem applyStep_next {idx : ℕ} (h : applyStep p e k rctx idx = some e') : e'.next = e.next := by
  obtain ⟨step, s, g, changed, -, -, -, rfl⟩ := applyStep_eq_some h
  rfl

theorem settled_fresh {p : Bool} (hf : Fresh e) (h : Settled domain e k e' c p) : Fresh e' := by
  have hnext : e'.next = e.next := by
    cases h with
    | unknown => rfl
    | finished _ _ hdone =>
      have hnext := completeTransition_next hdone
      exact hnext
    | waiting _ _ hconf => exact confirmAndReport_next hconf
    | advanced _ _ hconf _ _ _ _ happly hreport =>
      have hnext := confirmAndReport_next hconf
      exact (confirmAndReport_next hreport).trans ((applyStep_next happly).trans hnext)
    | completed _ _ hconf _ _ _ _ hdone =>
      have hnext := confirmAndReport_next hconf
      exact (completeTransition_next hdone).trans hnext
  rcases h.transitions_eq with htrans | htrans
  · exact hf.same htrans hnext
  · exact hf.erase htrans hnext

theorem cancelActive_fresh (spec : PlanSpec) (rctx : Option Ref) (hf : Fresh e) :
    Fresh (cancelActive domain spec.plan rctx e) := by
  unfold cancelActive
  split
  · split
    · exact hf
    · split
      · exact hf.erase rfl rfl
      · exact hf.same rfl rfl
  · exact hf

theorem dispatched_fresh (hf : Fresh e)
    (h : Dispatched domain spec.plan planID rctx e e' c) : Fresh e' := by
  cases h with
  | conflict =>
    obtain ⟨g, -, heq⟩ := reportConflict_eq spec rctx _ e
    rw [heq]
    exact hf.same rfl rfl
  | blocked => exact hf.same (setStatus_transitions _ _ _ _ _) (setStatus_next _ _ _ _ _)
  | @created _ g _ _ t _ _ _ _ _ _ _ _ _ _ _ _ happly hreport =>
    have hinsert : Fresh (insertTransition domain spec.plan rctx t { e with global := g }) := by
      refine hf.insert ?_ ?_
      · exact setActive_transitions spec.plan rctx _ _
      · exact setActive_next spec.plan rctx _ _
    exact hinsert.same
      ((confirmAndReport_transitions hreport).trans (applyStep_transitions happly))
      ((confirmAndReport_next hreport).trans (applyStep_next happly))

include hf hd h in
theorem decision_fresh : Fresh e' := by
  rcases runDecision_cases hd h with ⟨-, g, -, rfl⟩ | ⟨spec, -, rctx, x, -, hrun⟩
  · exact hf.same rfl rfl
  · have hrecord : Fresh (e.record e .dispatched (stubTransition spec.plan x)) := hf.same rfl rfl
    exact dispatched_fresh (cancelActive_fresh _ _ hrecord) (dispatchOne_eq_some hrun)

theorem preserved_respected :
    Respected domain Fresh fun e e' c => Anchored e.global → Preserved e e' c where
  refl e hg := ⟨.refl hg, fun _ => rfl⟩
  trans e1 e2 e3 c c' h h' hg := by
    obtain ⟨hkept, hquiet⟩ := h hg
    obtain ⟨hkept', hquiet'⟩ := h' hkept.anchored
    refine ⟨hkept.trans hkept', fun hc => ?_⟩
    rw [Bool.or_eq_false_iff] at hc
    exact (hquiet' hc.2).trans (hquiet hc.1)
  nodup _ h := h.nodup
  settle e k e' c p hf _ hsettled :=
    ⟨settled_fresh hf hsettled, fun hg => settled_preserved hg hsettled⟩
  decision e d e' c hf hd hrun :=
    ⟨decision_fresh hf hd hrun, fun hg => decision_preserved hg hd hrun⟩

include hf hg in
theorem process_preserved (h : process domain e = some (e', c)) : Preserved e e' c :=
  (preserved_respected.process hf h).2 hg

/-- The contexts after some persisted transitions were registered, coherent or not. -/
structure Enrolled (g₀ g : GlobalContext) (n : ℕ) : Prop where
  fixed : g.fixed = g₀.fixed
  members : g.member = g₀.member
  content : g.content = g₀.content
  indexed : g.indexed = g₀.indexed
  pointers : ∀ slot id ref, g.slotAt slot id = some ref → ref.ptr < n

theorem initTransitions_enrolled (ts : List Transition) {g0 : GlobalContext} (h : Enrolled g0 g k) :
    Enrolled g0 (initTransitions domain k ts g) (k + ts.length) := by
  induction ts generalizing k g with
  | nil => exact h
  | cons t ts ih =>
    obtain ⟨hfixed, hmembers, hcontent, -, hindexed, hslots⟩ := initSlot_spec (trackerAdd g t) k t
    have hnext : Enrolled g0 (initSlot domain (trackerAdd g t) k t) (k + 1) := by
      refine ⟨hfixed.trans ((trackerAdd_fixed g t).trans h.fixed),
        hmembers.trans ((trackerAdd_member g t).trans h.members),
        hcontent.trans ((trackerAdd_content g t).trans h.content),
        hindexed.trans ((trackerAdd_indexed g t).trans h.indexed), fun slot id ref href => ?_⟩
      rw [hslots] at href
      split at href
      · cases href
        exact Nat.lt_succ_self k
      · rw [trackerAdd_slotAt] at href
        exact (h.pointers slot id ref href).trans (Nat.lt_succ_self k)
    have hlength : k + (t :: ts).length = k + 1 + ts.length := by
      rw [length_cons]
      omega
    rw [hlength]
    exact ih hnext

theorem startEngine_enrolled :
    Enrolled (startContext obs st) (startEngine obs st).global st.transitions.length := by
  have hempty : Enrolled (startContext obs st) (startContext obs st) 0 := by
    refine ⟨rfl, rfl, rfl, rfl, fun slot id ref href => ?_⟩
    have hnone : (startContext obs st).slotAt slot id = none := by cases slot <;> rfl
    rw [hnone] at href
    cases href
  have hall := initTransitions_enrolled st.transitions hempty
  rw [Nat.zero_add] at hall
  exact hall

theorem startEngine_anchored : Anchored (startEngine obs st).global :=
  let h := startEngine_enrolled obs st
  (startContext_anchored obs st).congr h.fixed h.members h.indexed

theorem startEngine_fresh : Fresh (startEngine obs st) := ⟨nodup_range, fun _ hk => mem_range.mp hk⟩

structure Finished (obs : Observation) (st : Status) (e : Engine GlobalContext) (changed : Bool) :
    Prop where
  anchored : Anchored e.global
  rvr : ∀ id, e.global.rvr id = rvrOf obs.rvrs id
  quiet : changed = false → e.global.content = st.content

theorem process_finished {obs : Observation} {st : Status} {changed : Bool}
    (h : process domain (startEngine obs st) = some (e, changed)) : Finished obs st e changed := by
  have hstart := startEngine_enrolled obs st
  obtain ⟨⟨hfixed, hanchored⟩, hquiet⟩ :=
    process_preserved (startEngine_fresh obs st) (startEngine_anchored obs st) h
  refine ⟨hanchored, fun id => ?_, fun hc => ?_⟩
  · rw [(fixed_ids hfixed id).2.2, (fixed_ids hstart.fixed id).2.2]
    rfl
  · rw [hquiet hc, hstart.content, startContext_content]

end ReplicatedVolume.Datamesh
