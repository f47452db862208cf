import ReplicatedVolume.Mesh.Linked

/-!
# Settling one transition

A round of a settling pass that moves a transition is a step of the abstract
datamesh; one that only reports progress leaves it alone.
-/

namespace ReplicatedVolume.Datamesh
open Dmte List Option

variable {k idx : ℕ} {e : Engine GlobalContext} {rctx : Option Ref} {cr : ConfirmResult} {mc : Bool}
  {e' : Engine GlobalContext} {g : GlobalContext} {spec : PlanSpec} {step : Step GlobalContext Ref}
  {e1 e3 : Engine GlobalContext} {l1 l2 : List ℕ}

theorem domain_get {type : TransitionType} {planID : PlanID} {p : Plan GlobalContext Ref}
    (h : domain.get type planID = some p) :
    ∃ spec, lookup type planID = some spec ∧ p = spec.plan := by
  simp only [domain, map_eq_some_iff] at h
  obtain ⟨spec, hspec, rfl⟩ := h
  exact ⟨spec, hspec, rfl⟩

theorem plan_step
    (h : spec.plan.steps[idx]? = some step) : ∃ s, spec.steps[idx]? = some s ∧ step = s.step := by
  simp only [PlanSpec.plan, List.getElem?_map, map_eq_some_iff] at h
  obtain ⟨s, hs, rfl⟩ := h
  exact ⟨s, hs, rfl⟩

theorem subject_denotes (p : Plan GlobalContext Ref) (e : Engine GlobalContext) (k : ℕ) :
    Denotes (subject domain p e k) (activeAt e k).replica := by
  intro r hr
  simp only [subject, domain] at hr
  split at hr
  · rw [bind_eq_some_iff] at hr
    obtain ⟨id, hid, hr⟩ := hr
    simp only [GlobalContext.replica] at hr
    split at hr
    · cases hr
      exact ⟨id, rfl, hid⟩
    · cases hr
  · cases hr

theorem report_eq (h : confirmAndReport domain spec.plan e k rctx idx = some (e', cr, mc)) :
    ∃ s ts raw g, spec.steps[idx]? = some s ∧ (e.heap k).steps[idx]? = some ts ∧
      s.confirm.run e.global rctx ts.datameshRevision = some cr ∧ Agree e.global g ∧
      e' = { e.store k ((e.heap k).setStep idx { ts with message := raw }) with global := g } := by
  obtain ⟨step, ts, raw, composed, hstep, hts, hcr, rfl⟩ := confirmAndReport_eq_some h
  obtain ⟨s, hs, rfl⟩ := plan_step hstep
  obtain ⟨g, hg, heq⟩ := setStatus_eq spec rctx composed s.step.details
    (e.store k ((e.heap k).setStep idx { ts with message := raw }))
  exact ⟨s, ts, raw, g, hs, hts, hcr, hg, heq⟩

theorem meshOf_eq (e : Engine GlobalContext) :
    meshOf e = ⟨e.global.content, e.revision, e.transitions.map (activeAt e),
      e.global.potentiallyAttached⟩ := by
  rw [← meshOf_active]
  rfl

theorem active_split (hsplit : e.transitions = l1 ++ k :: l2) :
    (meshOf e).active = l1.map (activeAt e) ++ activeAt e k :: l2.map (activeAt e) := by
  rw [meshOf_active, hsplit, map_append, map_cons]

theorem map_activeAt_congr {l : List ℕ} (hk : k ∉ l)
    (hheap : ∀ k', k' ≠ k → e'.heap k' = e.heap k') : l.map (activeAt e') = l.map (activeAt e) := by
  refine map_congr_left fun k' hk' => ?_
  have hne : k' ≠ k := fun heq => hk (heq ▸ hk')
  simp [activeAt, hheap k' hne]

theorem spec_of_lookup (h : lookup (e.heap k).type (e.heap k).planID = some spec) :
    (activeAt e k).spec = some spec := h

theorem report_activeAt
    (hconf : confirmAndReport domain spec.plan e k rctx idx = some (e', cr, mc)) :
    activeAt e' = activeAt e := by
  obtain ⟨s, ts, raw, g, -, hts, -, -, rfl⟩ := report_eq hconf
  funext k'
  by_cases hk : k' = k
  · subst hk
    simp [activeAt, Engine.store, activeOf_setMessage raw hts]
  · simp [activeAt, Engine.store, hk]

theorem Linked.report (h : Linked e)
    (hconf : confirmAndReport domain spec.plan e k rctx idx = some (e', cr, mc)) :
    Linked e' ∧ meshOf e' = meshOf e ∧ Touched e k e' ∧ Agree e.global e'.global := by
  have hact := report_activeAt hconf
  obtain ⟨s, ts, raw, g, -, hts, -, hg, rfl⟩ := report_eq hconf
  have ht := touched_store g e.revision (sameHead_setStep (e.heap k) idx { ts with message := raw })
  refine ⟨h.touched ht hg.fixed hg.tracker hg.slots (hg.anchored h.anchored), ?_, ht, hg⟩
  rw [meshOf_eq, meshOf_eq, hact, Mesh.mk.injEq]
  exact ⟨hg.content, rfl, rfl, congrArg Tracker.potentiallyAttached hg.tracker⟩

theorem meshOf_moved {rev : ℕ} {c : Content}
    (hsplit : e.transitions = l1 ++ k :: l2) (h1 : k ∉ l1) (h2 : k ∉ l2) (ht : Touched e k e')
    (hact : activeAt e' k = { activeAt e k with idx := (activeAt e k).idx + 1, revision := rev })
    (hrev : e'.revision = rev) (hc : e'.global.content = c)
    (htracker : e'.global.tracker = e.global.tracker) :
    meshOf e' = (meshOf e).moved (l1.map (activeAt e)) (activeAt e k) (l2.map (activeAt e)) c
      rev := by
  rw [meshOf_eq e', ht.transitions, hsplit, map_append, map_cons,
    map_activeAt_congr h1 ht.others, map_activeAt_congr h2 ht.others, hact, hrev, hc]
  have hpa : e'.global.potentiallyAttached = e.global.potentiallyAttached :=
    congrArg Tracker.potentiallyAttached htracker
  rw [hpa]
  rfl

theorem onComplete_applied {s : StepSpec} {g g' : GlobalContext} {x : Option ReplicaID}
    (hg : Anchored g) (hx : Denotes rctx x) (h : s.step.onComplete g rctx = some g') :
    ∃ changed, Applied g g' (applyAll g.env x s.onComplete g.content) changed := by
  simp only [StepSpec.step, map_eq_some_iff, Prod.exists] at h
  obtain ⟨g'', changed, h, rfl⟩ := h
  exact ⟨changed, applies_applied hg hx h⟩

theorem bump_of_applied {c c' : Content} {changed : Bool} {rev : ℕ} (h : changed = false → c' = c) :
    Bump c c' rev (if changed then rev + 1 else rev) := by
  cases changed with
  | false => exact ⟨by simp, by simp, fun _ => h rfl⟩
  | true => exact ⟨by simp, by simp, fun heq => by simp at heq⟩

theorem advance_touched
    (hidx : findCurrentStepIdx (e.heap k) = some idx)
    (hconf : confirmAndReport domain spec.plan e k rctx idx = some (e1, cr, mc))
    (hlt : idx + 1 < (e.heap k).steps.length)
    (happly : applyStep spec.plan (({ e1 with global := g } : Engine GlobalContext).store k
      (advanceStep (e1.heap k) idx)) k rctx (idx + 1) = some e3) :
    Touched e k e3 ∧ activeAt e3 k = { activeAt e k with
      idx := (activeAt e k).idx + 1, revision := e3.revision } := by
  obtain ⟨s, ts, raw, g1, -, hts, -, -, rfl⟩ := report_eq hconf
  obtain ⟨step', ts', g2, changed, -, hts', -, rfl⟩ := applyStep_eq_some happly
  have hheap : ({ e.store k ((e.heap k).setStep idx { ts with message := raw }) with
      global := g1 } : Engine GlobalContext).heap k =
        (e.heap k).setStep idx { ts with message := raw } := by
    simp [Engine.store]
  rw [hheap] at hts' ⊢
  constructor
  · refine ⟨rfl, rfl, rfl, fun k' hk => by simp [Engine.store, hk], ?_⟩
    simp only [Engine.store, Function.update_self]
    exact (sameHead_setStep _ _ _).trans ((sameHead_advanceStep _ _).trans (sameHead_setStep _ _ _))
  · have hts'' : (advanceStep ((e.heap k).setStep idx { ts with message := raw }) idx).steps[idx + 1]?
        = some ts' := by
      simpa [Engine.store] using hts'
    rw [activeAt]
    simp only [Engine.store, Function.update_self]
    exact activeOf_advanced raw hidx hlt hts hts''

theorem Mesh.Coherent.congr {m m' : Mesh} (h : m.Coherent) (hactive : m'.active = m.active) :
    m'.Coherent := by
  constructor
  · rw [hactive]
    exact h.known
  · rw [hactive]
    exact h.apart

theorem Linked.release (h : Linked e) (spec : PlanSpec) (e' : Engine GlobalContext)
    (g0 : GlobalContext) (rctx : Option Ref) (hcoherent : (meshOf e).Coherent)
    (hk : k ∈ e.transitions)
    (hrctx : ∀ id, rctx = some (.replica id) → (activeAt e k).slot = some (spec.slot, id))
    (htrans : e'.transitions = e.transitions.erase k) (hnext : e'.next = e.next)
    (hheap : e'.heap = e.heap) (hrev : e'.revision = e.revision)
    (hfixed : e'.global.fixed = e.global.fixed) (hmembers : e'.global.member = e.global.member)
    (hindexed : e'.global.indexed = e.global.indexed)
    (hcontent : e'.global.content = e.global.content) (hg0 : g0.tracker = e.global.tracker)
    (htracker : e'.global.tracker = (trackerRemove g0 (e.heap k)).tracker)
    (hslots : ∀ slot id, e'.global.slotAt slot id = if rctx = some (.replica id) ∧ slot =
      spec.slot then none else e.global.slotAt slot id) :
    Linked e' ∧ ∃ l1 l2, (meshOf e).active = l1 ++ activeAt e k :: l2 ∧
      meshOf e' = (meshOf e).dropped l1 (activeAt e k) l2 (meshOf e).content := by
  obtain ⟨l1, l2, hsplit, -, -, herase⟩ := split_of_mem h.nodup hk
  constructor
  · refine h.erase hcoherent hk htrans hnext hheap hfixed hg0 htracker ?_ ?_
      (h.anchored.congr hfixed hmembers hindexed)
    · intro slot id hne
      rw [hslots, if_neg]
      rintro ⟨hr, rfl⟩
      exact hne (hrctx id hr)
    · intro slot id ref href
      rw [hslots] at href
      split at href
      · cases href
      · exact href
  · refine ⟨_, _, active_split hsplit, ?_⟩
    have hpa : e'.global.potentiallyAttached =
        (activeAt e k).released e.global.potentiallyAttached := by
      have hremove := trackerRemove_potentiallyAttached g0 (e.heap k)
      have hpa0 : g0.potentiallyAttached = e.global.potentiallyAttached :=
        congrArg Tracker.potentiallyAttached hg0
      have hpa1 : e'.global.potentiallyAttached =
          (trackerRemove g0 (e.heap k)).potentiallyAttached :=
        congrArg Tracker.potentiallyAttached htracker
      rw [hpa1, hremove, hpa0]
      rfl
    have hact : activeAt e' = activeAt e := by
      funext k'
      rw [activeAt, hheap]
      rfl
    rw [meshOf_eq e', htrans, herase, hact, hrev, hcontent, hpa, map_append]
    rfl

theorem subject_slot (hspec : (activeAt e k).spec = some spec) {id : ReplicaID}
    (h : subject domain spec.plan e k = some (.replica id)) :
    (activeAt e k).slot = some (spec.slot, id) := by
  have hscope : spec.scope = .replica := by
    by_contra hne
    have hne' : ¬spec.plan.scope = .replica := hne
    simp [subject, hne'] at h
  obtain ⟨id', heq, hid⟩ := subject_denotes spec.plan e k _ h
  cases heq
  exact Active.slot_of_spec hspec hscope hid

variable (h : Linked e) (hk : k ∈ e.transitions)
  (hspec : lookup (e.heap k).type (e.heap k).planID = some spec)
  (hidx : findCurrentStepIdx (e.heap k) = some idx)
  (hconf : confirmAndReport domain spec.plan e k (subject domain spec.plan e k) idx = some (e1,
    cr, mc)) (hholds : cr.Holds) (hstep : spec.plan.steps[idx]? = some step)
  (hcomp : step.onComplete e1.global (subject domain spec.plan e k) = some g)
include h hk hspec hidx hconf hholds hstep hcomp

theorem advance_sim {e4 : Engine GlobalContext} {cr' : ConfirmResult} {mc' : Bool}
    (hlt : idx + 1 < (e.heap k).steps.length)
    (happly : applyStep spec.plan (({ e1 with global := g } : Engine GlobalContext).store k
      (advanceStep (e1.heap k) idx)) k (subject domain spec.plan e k) (idx + 1) = some e3)
    (hreport : confirmAndReport domain spec.plan e3 k (subject domain spec.plan e k) (idx + 1) =
      some (e4, cr', mc')) :
    Linked e4 ∧ e4.global.fixed = e.global.fixed ∧ e4.log = e.log ∧
      MeshStep e.global.env [] (meshOf e) ⟨.advanced, activeAt e k, meshOf e, meshOf e4⟩
        (meshOf e4) := by
  have hx := subject_denotes spec.plan e k
  obtain ⟨s, ts, raw, g1, hs, hts, hcr, hg1, he1⟩ := report_eq hconf
  obtain ⟨s0, hs0, rfl⟩ := plan_step hstep
  obtain rfl : s = s0 := some.inj (hs.symm.trans hs0)
  obtain ⟨h1, -, ht1, hagree1⟩ := h.report hconf
  obtain ⟨ch, hdone⟩ := onComplete_applied h1.anchored hx hcomp
  obtain ⟨step', ts', g2, changed, hstep', hts', hap, he3⟩ := applyStep_eq_some happly
  obtain ⟨s', hs', rfl⟩ := plan_step hstep'
  have hnext := applies_applied hdone.anchored hx hap
  have henv1 : e1.global.env = e.global.env := env_of_fixed hagree1.fixed
  have henv : g.env = e.global.env := (env_of_fixed hdone.fixed).trans henv1
  have hcontent : g.content =
      applyAll e.global.env (activeAt e k).replica s.onComplete e.global.content := by
    rw [hdone.content, henv1, hagree1.content]
  rw [henv, hcontent] at hnext
  have hrev1 : e1.revision = e.revision := by rw [he1]; rfl
  -- the engine after the new step was applied
  obtain ⟨ht3, hact3⟩ := advance_touched hidx hconf hlt happly
  have hglobal3 : e3.global = g2 := by rw [he3]
  have hcontent3 : e3.global.content = g2.content := by rw [hglobal3]
  have hrev3 : e3.revision = if changed then e.revision + 1 else e.revision := by
    simp [he3, Engine.store, hrev1]
  have h3 : Linked e3 := by
    refine h.touched ht3 ?_ ?_ ?_ ?_ <;> rw [hglobal3]
    · exact hnext.fixed.trans (hdone.fixed.trans hagree1.fixed)
    · exact hnext.tracker.trans (hdone.tracker.trans hagree1.tracker)
    · exact hnext.slots.trans (hdone.slots.trans hagree1.slots)
    · exact hnext.anchored
  rw [hrev3] at hact3
  obtain ⟨h4, hmesh4, ht4, hagree4⟩ := h3.report hreport
  obtain ⟨l1, l2, hsplit, hn1, hn2, -⟩ := split_of_mem h.nodup hk
  have hmesh3 := meshOf_moved hsplit hn1 hn2 ht3 hact3 hrev3
    (hcontent3.trans hnext.content)
    (by rw [hglobal3]; exact hnext.tracker.trans (hdone.tracker.trans hagree1.tracker))
  refine ⟨h4, ?_, ?_, ?_⟩
  · rw [hagree4.fixed, hglobal3]
    exact hnext.fixed.trans (hdone.fixed.trans hagree1.fixed)
  · rw [ht4.log, ht3.log]
  · rw [hmesh4, hmesh3]
    have hidx' : (activeAt e k).idx = idx := by rw [activeAt, activeOf_eq hidx hts]
    have hrev' : (activeAt e k).revision = ts.datameshRevision := by
      rw [activeAt, activeOf_eq hidx hts]
    refine .advance (active_split hsplit) (spec_of_lookup hspec) (by rw [hidx']; exact hs)
      (by rw [hidx']; exact hs') ?_ rfl rfl ?_
    · rw [hrev']
      exact confirm_holds h.anchored hx hcr hholds
    · exact bump_of_applied fun hsame => (hnext.unchanged hsame).trans hcontent

theorem complete_sim (hcoherent : (meshOf e).Coherent)
    (hlast : ¬idx + 1 < (e.heap k).steps.length)
    (hdone : completeTransition domain spec.plan { e1 with global := g } k (subject domain
      spec.plan e k) = some e3) :
    Linked e3 ∧ e3.global.fixed = e.global.fixed ∧ e3.log = e.log ∧
      MeshStep e.global.env [] (meshOf e) ⟨.completed, activeAt e k, meshOf e, meshOf e3⟩
        (meshOf e3) := by
  have hx := subject_denotes spec.plan e k
  obtain ⟨s, ts, raw, g1, hs, hts, hcr, hg1, he1⟩ := report_eq hconf
  obtain ⟨s0, hs0, rfl⟩ := plan_step hstep
  obtain rfl : s = s0 := some.inj (hs.symm.trans hs0)
  obtain ⟨h1, hmesh1, ht1, hagree1⟩ := h.report hconf
  obtain ⟨ch, happ⟩ := onComplete_applied h1.anchored hx hcomp
  rw [env_of_fixed hagree1.fixed, hagree1.content] at happ
  obtain ⟨g2, hg2, rfl⟩ := completeTransition_eq_some hdone
  have hagree2 : Agree g g2 := .of_silent (onComplete_silent hg2)
  obtain ⟨g3, hset, hactive⟩ := setActive_eq spec (subject domain spec.plan e k) none
    { e1 with global := g2 }
  -- the engine before the deletion, with the completion callbacks applied
  have h2 : Linked ({ e1 with global := g2 } : Engine GlobalContext) := by
    refine h1.touch rfl rfl (fun _ _ => .refl _) ?_ ?_ ?_ (hagree2.anchored happ.anchored)
    · exact hagree2.fixed.trans happ.fixed
    · exact hagree2.tracker.trans happ.tracker
    · exact hagree2.slots.trans happ.slots
  have hactive2 : (meshOf ({ e1 with global := g2 } : Engine GlobalContext)).active =
      (meshOf e).active := by
    rw [← hmesh1]
    rfl
  have hat : activeAt ({ e1 with global := g2 } : Engine GlobalContext) k = activeAt e k :=
    congrFun (report_activeAt hconf) k
  obtain ⟨h3, l1, l2, hsplit, hmesh3⟩ := h2.release spec
    (deleteTransition domain (setActive spec.plan (subject domain spec.plan e k) none
      { e1 with global := g2 }) k) g3 (subject domain spec.plan e k)
    (hcoherent.congr hactive2) (by rw [ht1.transitions]; exact hk)
    (fun id hid => by rw [hat]; exact subject_slot (spec_of_lookup hspec) hid)
    (by rw [hactive]; rfl) (by rw [hactive]; rfl) (by rw [hactive]; rfl) (by rw [hactive]; rfl)
    (by rw [hactive]; exact (trackerRemove_fixed _ _).trans hset.fixed)
    (by rw [hactive]; exact (trackerRemove_member _ _).trans hset.members)
    (by rw [hactive]; exact (trackerRemove_indexed _ _).trans hset.indexed)
    (by rw [hactive]; exact (trackerRemove_content _ _).trans hset.content)
    hset.tracker (by rw [hactive]; rfl)
    (fun slot id => by
      rw [hactive]
      exact (congrFun (congrFun (trackerRemove_slotAt _ _) slot) id).trans (hset.slots slot id))
  have hfixed2 : g2.fixed = e.global.fixed := hagree2.fixed.trans (happ.fixed.trans hagree1.fixed)
  have hmesh : (meshOf ({ e1 with global := g2 } : Engine GlobalContext)).dropped l1
      (activeAt e k) l2 g2.content = (meshOf e).dropped l1 (activeAt e k) l2
        (applyAll e.global.env (activeAt e k).replica s.onComplete e.global.content) := by
    have hpa : g2.potentiallyAttached = e.global.potentiallyAttached :=
      congrArg Tracker.potentiallyAttached
        (hagree2.tracker.trans (happ.tracker.trans hagree1.tracker))
    have hrev : e1.revision = e.revision := by rw [he1]; rfl
    rw [hagree2.content, happ.content, meshOf_eq, meshOf_eq]
    simp only [Mesh.dropped, hpa, hrev]
  rw [hat] at hsplit hmesh3
  rw [hactive2] at hsplit
  refine ⟨h3, ?_, ?_, ?_⟩
  · rw [hactive]
    exact (trackerRemove_fixed _ _).trans (hset.fixed.trans hfixed2)
  · rw [hactive]
    exact ht1.log
  · rw [hmesh3]
    have hidx' : (activeAt e k).idx = idx := by rw [activeAt, activeOf_eq hidx hts]
    have hrev' : (activeAt e k).revision = ts.datameshRevision := by
      rw [activeAt, activeOf_eq hidx hts]
    have hlen := h.steps k hk spec (spec_of_lookup hspec)
    have hlt : idx < spec.steps.length := (List.getElem?_eq_some_iff.mp hs).1
    change MeshStep _ _ _ ⟨_, _, _, (meshOf ({ e1 with global := g2 } :
      Engine GlobalContext)).dropped l1 (activeAt e k) l2 g2.content⟩ ((meshOf ({ e1 with global := g2 } :
        Engine GlobalContext)).dropped l1 (activeAt e k) l2 g2.content)
    rw [hmesh]
    refine .complete hsplit (spec_of_lookup hspec) (by rw [hidx']; exact hs) (by omega) ?_ rfl
    rw [hrev']
    exact confirm_holds h.anchored hx hcr hholds

end ReplicatedVolume.Datamesh
