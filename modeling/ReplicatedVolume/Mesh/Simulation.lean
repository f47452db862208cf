import ReplicatedVolume.Mesh.Settling

/-!
# The engine simulates the abstract datamesh

Every decision of the engine is a step of the abstract datamesh too, with the
events that the engine logs as its label. A whole reconciliation is then a run
of the abstract datamesh.
-/

namespace ReplicatedVolume.Datamesh
open Dmte List Option Function

variable {e e' : Engine GlobalContext} {g : GlobalContext} {rctx : Option Ref}
  {x : Option ReplicaID} {t : Transition} {c : Bool} {k : ℕ} {spec : PlanSpec}

theorem Linked.clear {id : ReplicaID} (h : Linked e)
    (hset : SlotSet spec (some (.replica id)) none e.global g)
    (hdead : ∀ ref, e.global.slotAt spec.slot id = some ref → ref.ptr ∉ e.transitions) :
    Linked { e with global := g } := by
  constructor
  · exact h.nodup
  · exact h.fresh
  · exact h.steps
  · exact h.anchored.congr hset.fixed hset.members hset.indexed
  · rw [hset.tracker]
    exact h.tracks
  · intro k hk slot id' hslot hnamed
    rw [(fixed_ids hset.fixed id').2.1] at hnamed
    obtain ⟨ref, href, hptr⟩ := h.forward k hk slot id' hslot hnamed
    refine ⟨ref, ?_, hptr⟩
    rw [hset.slots, if_neg]
    · exact href
    · rintro ⟨hid, rfl⟩
      cases hid
      exact hdead ref href (hptr ▸ hk)
  · intro slot id' ref href
    rw [hset.slots] at href
    split at href
    · cases href
    · exact h.back slot id' ref href

theorem meshOf_slotSet {ref : Option ActiveRef}
    (hset : SlotSet spec rctx ref e.global g) : meshOf { e with global := g } = meshOf e := by
  have hpa : g.potentiallyAttached = e.global.potentiallyAttached :=
    congrArg Tracker.potentiallyAttached hset.tracker
  rw [meshOf_eq, meshOf_eq, Mesh.mk.injEq]
  exact ⟨hset.content, rfl, rfl, hpa⟩

structure Simulated (P : Mesh → List MeshEvent → Mesh → Prop) (ok : EventKind → Prop)
    (e e' : Engine GlobalContext) : Prop where
  linked : Linked e'
  fixed : e'.global.fixed = e.global.fixed
  events : ∃ evs, e'.log = evs ++ e.log ∧ P (meshOf e) (evs.map meshEvent) (meshOf e') ∧
    ∀ ev ∈ evs, ok ev.kind

variable (h : Linked e) (hcoherent : (meshOf e).Coherent) (hspec : spec ∈ registry)

include h hcoherent in
theorem cancel_sim (hx : spec.cancelActiveOnCreate = true → Denotes rctx x) :
    Simulated (Cancels spec x) (· = .cancelled) e (cancelActive domain spec.plan rctx e) := by
  have hstay : Simulated (Cancels spec x) (· = .cancelled) e e :=
    ⟨h, rfl, [], rfl, .nothing _, by simp⟩
  unfold cancelActive
  split
  · next r hplan =>
      have hplan' : spec.cancelActiveOnCreate = true := hplan
      obtain ⟨id, rfl, rfl⟩ := hx hplan' r rfl
      split
      · exact hstay
      · next ref href =>
          have hslot : e.global.slotAt spec.slot id = some ref := href
          split
          · next hlive =>
              have hback := (h.back _ _ _ hslot).2 hlive
              obtain ⟨g, hset, heq⟩ := setActive_eq spec (some (.replica id)) none
                (deleteTransition domain e ref.ptr)
              rw [heq]
              obtain ⟨h', l1, l2, hsplit, hmesh⟩ := h.release spec
                { deleteTransition domain e ref.ptr with global := g } e.global
                (some (.replica id)) hcoherent hlive (fun id' hid => by cases hid; exact hback)
                rfl rfl rfl rfl (hset.fixed.trans (trackerRemove_fixed _ _))
                (hset.members.trans (trackerRemove_member _ _))
                (hset.indexed.trans (trackerRemove_indexed _ _))
                (hset.content.trans (trackerRemove_content _ _)) rfl hset.tracker
                (fun slot id' => by
                  rw [hset.slots]
                  exact congrArg _ (congrFun (congrFun (trackerRemove_slotAt _ _) slot) id'))
              refine ⟨h'.record _ _ _, hset.fixed.trans (trackerRemove_fixed _ _),
                [⟨.cancelled, e.heap ref.ptr, e.snapshot,
                  ({ deleteTransition domain e ref.ptr with global := g } :
                    Engine GlobalContext).snapshot⟩], rfl, ?_, by simp⟩
              rw [meshOf_record, hmesh]
              have hevent : meshEvent ⟨.cancelled, e.heap ref.ptr, e.snapshot,
                  ({ deleteTransition domain e ref.ptr with global := g } :
                    Engine GlobalContext).snapshot⟩ =
                  ⟨.cancelled, activeAt e ref.ptr, meshOf e,
                    (meshOf e).dropped l1 (activeAt e ref.ptr) l2 (meshOf e).content⟩ := by
                rw [← hmesh]
                rfl
              rw [map_singleton, hevent]
              exact .cancel hsplit hplan' rfl hback
          · next hdead =>
              obtain ⟨g, hset, heq⟩ := setActive_eq spec (some (.replica id)) none e
              rw [heq]
              refine ⟨h.clear hset ?_, hset.fixed, [], rfl, ?_, by simp⟩
              · intro ref' href'
                rw [hslot, some.injEq] at href'
                exact href' ▸ hdead
              · rw [meshOf_slotSet hset]
                exact .nothing _
  · exact hstay

theorem init_run_head {init : Init} {t' : Transition} (h : init.run g t = some t') :
    t'.type = t.type ∧ t'.planID = t.planID ∧ t'.group = t.group ∧ t'.replica = t.replica ∧
      t'.steps = t.steps := by
  cases init with
  | nothing | setReplicaType | setReplicaFromToType =>
    cases h
    exact ⟨rfl, rfl, rfl, rfl, rfl⟩
  | setSystemNetworks =>
    simp only [Init.run, setSystemNetworks, bind_eq_bind, bind_eq_some_iff, some.injEq] at h
    obtain ⟨rsp, -, rfl⟩ := h
    exact ⟨rfl, rfl, rfl, rfl, rfl⟩

theorem replicaName_of_fixed {g' : GlobalContext} (hg : Anchored g) (hg' : Anchored g')
    (h : g'.fixed = g.fixed) (r : Ref) : g'.replicaName r = g.replicaName r := by
  cases r with
  | replica id =>
    obtain ⟨hid, hnamed, -⟩ := fixed_ids h id
    change (if (g'.replicas id).named then some (g'.replicas id).id else none) = _
    rw [hid, hnamed]
    rfl
  | orphan n =>
    have hnone : ∀ g : GlobalContext, Anchored g → g.replicaName (.orphan n) = none := by
      intro g hg
      by_cases hname : (g.ctx (.orphan n)).named = true
      · obtain ⟨id, hr, -⟩ := named_ref hg hname
        cases hr
      · simp [GlobalContext.replicaName, hname]
    rw [hnone g hg, hnone g' hg']

theorem subject_of_agree {g' : GlobalContext} (hg : Anchored g) (h : Agree g g') :
    (if spec.scope = .replica then rctx.bind g'.replicaName else none) =
      if spec.scope = .replica then rctx.bind g.replicaName else none := by
  rw [funext (replicaName_of_fixed hg (h.anchored hg) h.fixed)]

theorem denotes_of_scope (hg : Anchored g)
    (hx : x = if spec.scope = .replica then rctx.bind g.replicaName else none)
    (hglobal : spec.scope ≠ .replica → rctx = none) (hnamed : ¬(spec.scope = .replica ∧ x = none)) :
    Denotes rctx x ∧ (∀ id, x = some id → rctx = some (.replica id)) ∧
      (spec.scope = .replica ↔ x.isSome = true) := by
  by_cases hscope : spec.scope = .replica
  · rw [if_pos hscope] at hx
    have hsome : x ≠ none := fun hnone => hnamed ⟨hscope, hnone⟩
    obtain ⟨id, hid⟩ := ne_none_iff_exists'.mp hsome
    rw [hid] at hx
    obtain ⟨r, hr, hname⟩ := bind_eq_some_iff.mp hx.symm
    have hnamed' : (g.ctx r).named = true := by
      by_contra hne
      simp [GlobalContext.replicaName, hne] at hname
    obtain ⟨id', rfl, hname'⟩ := named_ref hg hnamed'
    obtain rfl : id' = id := some.inj (hname'.symm.trans hname)
    subst hid
    refine ⟨?_, ?_, by simp [hscope]⟩
    · intro r' hr'
      rw [hr] at hr'
      cases hr'
      exact ⟨id', rfl, rfl⟩
    · intro id hid
      cases hid
      exact hr
  · rw [if_neg hscope] at hx
    subst hx
    refine ⟨?_, by simp, by simp [hscope]⟩
    rw [hglobal hscope]
    intro r hr
    cases hr

theorem report_sim {P : Mesh → List MeshEvent → Mesh → Prop} {ok : EventKind → Prop}
    (h : Linked e) (hg : Agree e.global g) (hrefl : ∀ m, P m [] m) :
    Simulated P ok e { e with global := g } := by
  refine ⟨h.agree hg, hg.fixed, [], rfl, ?_, by simp⟩
  rw [meshOf_agree hg]
  exact hrefl _

theorem reportConflict_eq (spec : PlanSpec) (rctx : Option Ref) (ref : ActiveRef)
    (e : Engine GlobalContext) :
    ∃ g, Agree e.global g ∧ reportConflict domain spec.plan rctx ref e = { e with global := g } := by
  unfold reportConflict
  simp only
  split
  · exact ⟨e.global, .refl _, rfl⟩
  · exact setStatus_eq _ _ _ _ _

include h hspec in
theorem insert_linked
    (hdenotes : ∀ id, x = some id → rctx = some (.replica id)) (hx : Denotes rctx x)
    (hscope : spec.scope = .replica ↔ x.isSome = true)
    (hfree : ∀ id, x = some id → (meshOf e).Free spec.slot id)
    (htype : t.type = spec.transitionType) (hplan : t.planID = spec.planID)
    (hreplica : t.replica = x) (hsteps : t.steps.length = spec.steps.length) :
    ∃ g, insertTransition domain spec.plan rctx t e =
        { e with
          global := g
          heap := update e.heap e.next t
          transitions := e.transitions ++ [e.next]
          next := e.next + 1 } ∧
      Linked (insertTransition domain spec.plan rctx t e) ∧ g.fixed = e.global.fixed ∧
      g.content = e.global.content ∧
      g.potentiallyAttached = (activeOf t).gained e.global.potentiallyAttached := by
  obtain ⟨g1, hset, heq⟩ := setActive_eq spec rctx (some ⟨e.next, t⟩)
    { e.store e.next t with transitions := e.transitions ++ [e.next], next := e.next + 1 }
  have hins : insertTransition domain spec.plan rctx t e =
      { e with
        global := trackerAdd g1 t
        heap := update e.heap e.next t
        transitions := e.transitions ++ [e.next]
        next := e.next + 1 } := by
    unfold insertTransition
    rw [heq]
    rfl
  have hlookup : (activeOf t).spec = some spec := by
    rw [Active.spec, activeOf, htype, hplan]
    exact lookup_of_mem spec hspec
  have hslot : ∀ slot id, (activeOf t).slot = some (slot, id) ↔
      rctx = some (.replica id) ∧ slot = spec.slot := by
    intro slot id
    constructor
    · intro hs
      obtain ⟨spec', hspec', -, rfl, hid⟩ := Active.slot_eq_some hs
      rw [hlookup, some.injEq] at hspec'
      exact ⟨hdenotes id (hreplica ▸ hid), by rw [hspec']⟩
    · rintro ⟨hr, rfl⟩
      obtain ⟨id', hid', hxid⟩ := hx _ hr
      cases hid'
      refine Active.slot_of_spec hlookup (hscope.mpr (by rw [hxid]; rfl)) ?_
      rw [← hxid]
      exact hreplica
  refine ⟨trackerAdd g1 t, hins, ?_, ?_, ?_, ?_⟩
  · rw [hins]
    refine h.insert rfl rfl ?_ (update_self _ _ _) hlookup hsteps
      ((trackerAdd_fixed _ _).trans hset.fixed) hset.tracker rfl ?_ ?_ ?_
    · intro k hk
      have hlt := h.fresh k hk
      exact update_of_ne (by omega) _ _
    · intro slot id hs
      have hs' := (hslot slot id).mp hs
      obtain ⟨id', hid', hxid⟩ := hx _ hs'.1
      cases hid'
      refine ⟨hs'.2 ▸ hfree id hxid, ?_⟩
      change (trackerAdd g1 t).slotAt slot id = _
      rw [trackerAdd_slotAt, hset.slots, if_pos hs']
    · intro slot id hs
      change (trackerAdd g1 t).slotAt slot id = _
      rw [trackerAdd_slotAt, hset.slots, if_neg (mt (hslot slot id).mpr hs)]
      rfl
    · exact h.anchored.congr ((trackerAdd_fixed _ _).trans hset.fixed)
        ((trackerAdd_member _ _).trans hset.members) ((trackerAdd_indexed _ _).trans hset.indexed)
  · exact (trackerAdd_fixed _ _).trans hset.fixed
  · exact (trackerAdd_content _ _).trans hset.content
  · rw [trackerAdd_potentiallyAttached g1 t (a := activeOf t) rfl rfl]
    congr 1
    exact congrArg Tracker.potentiallyAttached hset.tracker

structure Started (spec : PlanSpec) (x : Option ReplicaID) (t : Transition) : Prop where
  type : t.type = spec.transitionType
  planID : t.planID = spec.planID
  group : t.group = spec.group
  replica : t.replica = x
  steps : t.steps.length = spec.steps.length
  head : ∀ s, t.steps[0]? = some s → s.status = .active

theorem started_of_init
    (h : spec.init.run g (blankTransition spec.plan spec.planID x) = some t) :
    Started spec x t := by
  obtain ⟨htype, hplan, hgroup, hreplica, hsteps⟩ := init_run_head h
  refine ⟨htype, hplan, hgroup, hreplica, ?_, ?_⟩
  · rw [hsteps, blankTransition_steps]
    simp [PlanSpec.plan]
  · rw [hsteps]
    exact fun s => blankTransition_head _ _ _

theorem Started.activeOf_applied {ts : TransitionStep} (h : Started spec x t)
    (hts : t.steps[0]? = some ts) (rev : ℕ) :
    activeOf (t.setStep 0 { ts with datameshRevision := rev }) = spec.start x rev := by
  have hactive : ts.status ≠ .completed := by
    rw [h.head ts hts]
    simp
  have hcur : findCurrentStepIdx t = some 0 := findCurrentStepIdx_of_active hts hactive
  have hidx := findCurrentStepIdx_setStep { ts with datameshRevision := rev } hts rfl
  rw [hcur] at hidx
  have hts' : (t.setStep 0 { ts with datameshRevision := rev }).steps[0]? =
      some { ts with datameshRevision := rev } := by
    rw [setStep_getElem?_self, hts]
    rfl
  rw [activeOf_eq hidx hts', PlanSpec.start, Active.mk.injEq]
  exact ⟨h.type, h.planID, h.group, h.replica, rfl, rfl⟩

include h hspec in
theorem start_sim {e1 e2 : Engine GlobalContext} {cr : ConfirmResult}
    {mc : Bool} (hx : Denotes rctx x)
    (hhandle : ∀ id, x = some id → rctx = some (.replica id))
    (hscope : spec.scope = .replica ↔ x.isSome = true)
    (hfree : ∀ id, x = some id → (meshOf e).Free spec.slot id) (ht : Started spec x t)
    (happly : applyStep spec.plan (insertTransition domain spec.plan rctx t e) e.next rctx 0 =
      some e1) (hreport : confirmAndReport domain spec.plan e1 e.next rctx 0 = some (e2, cr, mc)) :
    Linked e2 ∧ e2.global.fixed = e.global.fixed ∧ e2.log = e.log ∧ ∃ s rev c,
      spec.steps[0]? = some s ∧ c = applyAll e.global.env x s.apply e.global.content ∧
      Bump e.global.content c e.revision rev ∧ activeAt e2 e.next = spec.start x rev ∧
      meshOf e2 = (meshOf e).extended (spec.start x rev) c := by
  obtain ⟨gᵢ, hins, hᵢ, hfixed, hcontent, hpa⟩ := insert_linked h hspec hhandle hx hscope hfree
    ht.type ht.planID ht.replica ht.steps
  generalize insertTransition domain spec.plan rctx t e = eᵢ at hins hᵢ happly
  have hheap : eᵢ.heap e.next = t := by
    rw [hins]
    exact update_self _ _ _
  have hglobal : eᵢ.global = gᵢ := by rw [hins]
  have hrev : eᵢ.revision = e.revision := by rw [hins]
  obtain ⟨step, ts, g, changed, hstep, hts, hap, he1⟩ := applyStep_eq_some happly
  obtain ⟨s, hs, rfl⟩ := plan_step hstep
  have happ := applies_applied hᵢ.anchored hx hap
  rw [hheap] at hts he1
  rw [hrev] at he1
  rw [hglobal, hcontent, env_of_fixed hfixed] at happ
  have ht1 : Touched eᵢ e.next e1 := by
    rw [he1]
    exact touched_store _ _ (by rw [hheap]; exact sameHead_setStep _ _ _)
  have hglobal1 : e1.global = g := by rw [he1]
  have h1 : Linked e1 := by
    refine hᵢ.touched ht1 ?_ ?_ ?_ ?_ <;> rw [hglobal1]
    · exact happ.fixed.trans (by rw [hglobal])
    · exact happ.tracker.trans (by rw [hglobal])
    · exact happ.slots.trans (by rw [hglobal])
    · exact happ.anchored
  have hact1 : activeAt e1 e.next =
      spec.start x (if changed then e.revision + 1 else e.revision) := by
    rw [activeAt, he1]
    simp only [Engine.store, update_self]
    exact ht.activeOf_applied hts _
  obtain ⟨h2, hmesh2, ht2, hagree2⟩ := h1.report hreport
  refine ⟨h2, ?_, ?_, s, if changed then e.revision + 1 else e.revision, _, hs, rfl, ?_, ?_, ?_⟩
  · rw [hagree2.fixed, hglobal1]
    exact happ.fixed.trans hfixed
  · rw [ht2.log, ht1.log, hins]
  · exact bump_of_applied fun hsame => (happ.unchanged hsame).trans hcontent
  · rw [report_activeAt hreport, hact1]
  · have hpa1 : g.potentiallyAttached =
        (spec.start x (if changed then e.revision + 1 else e.revision)).gained
          e.global.potentiallyAttached := by
      have htracker : g.potentiallyAttached = gᵢ.potentiallyAttached :=
        congrArg Tracker.potentiallyAttached happ.tracker
      rw [htracker, hpa]
      change (if t.group = .attachment then _ ∪ t.replica.toFinset else _) = _
      rw [ht.group, ht.replica]
      rfl
    have hrest : e.transitions.map (activeAt e1) = e.transitions.map (activeAt e) := by
      refine map_congr_left fun k hk => ?_
      have hlt := h.fresh k hk
      have hne : k ≠ e.next := by omega
      rw [activeAt, ht1.others k hne, hins]
      exact congrArg activeOf (update_of_ne hne _ _)
    have hrev1 : e1.revision = if changed then e.revision + 1 else e.revision := by rw [he1]
    rw [hmesh2, meshOf_eq e1, ht1.transitions, hins, map_append, hrest, map_singleton,
      hact1, hglobal1, happ.content, hpa1, hrev1, Mesh.extended, meshOf_active]
    rfl

include h hcoherent hspec in
theorem create_sim (hx : x = if spec.scope = .replica then rctx.bind e.global.replicaName else none)
    (hglobal : spec.scope ≠ .replica → rctx = none)
    (hd : Dispatched domain spec.plan spec.planID rctx e e' c) :
    Simulated (Creates e.global.env spec x) (fun kind => kind = .created ∧ c = true) e e' := by
  cases hd with
  | conflict =>
    obtain ⟨g, hg, heq⟩ := reportConflict_eq spec rctx _ e
    rw [heq]
    exact report_sim h hg .nothing
  | blocked message details hguards =>
    have hagree := Agree.of_silent (evaluateGuards_silent hguards)
    obtain ⟨g, hg, heq⟩ := setStatus_eq spec rctx message details { e with global := _ }
    rw [heq]
    exact report_sim h (hagree.trans hg) .nothing
  | @created result g replica tempT t e1 e2 cr mc hslot hguards hpass hreplica htemp hallowed
      hnamed hinit happly hreport =>
      have hagree := Agree.of_silent (evaluateGuards_silent hguards)
      have h0 : Linked ({ e with global := g } : Engine GlobalContext) := h.agree hagree
      have hmesh0 : meshOf { e with global := g } = meshOf e := meshOf_agree hagree
      obtain rfl : replica = x :=
        hreplica.trans ((subject_of_agree h.anchored hagree).trans hx.symm)
      obtain ⟨hdenotes, hhandle, hscope⟩ := denotes_of_scope h.anchored hx hglobal hnamed
      have hfree : ∀ slot id, replica = some id → e.global.slotAt slot id = none →
          (meshOf e).Free slot id := by
        intro slot id hid hnone
        refine h.free ?_ hnone
        by_contra hne
        have hne' : ¬(e.global.ctx (.replica id)).named = true := hne
        rw [hscope.mpr (by rw [hid]; rfl), if_pos rfl, hhandle id hid, hid, bind_some,
          GlobalContext.replicaName, if_neg hne'] at hx
        cases hx
      have hfree' : ∀ id, replica = some id → (meshOf e).Free spec.slot id := by
        intro id hid
        rw [hhandle id hid] at hslot
        exact hfree spec.slot id hid hslot
      have hallowed' : Admitted (meshOf e) spec.group replica := by
        obtain ⟨-, -, hgroup, hrep, -⟩ := init_run_head htemp
        rw [← hmesh0] at hcoherent ⊢
        have hadm := admitted_of_canAdmit hcoherent rfl rfl
          (by rw [meshOf_active]; exact h0.tracks) hallowed
        rw [hgroup, hrep] at hadm
        exact hadm
      obtain ⟨h2, hfixed2, hlog2, s, rev, c, hstep, hc, hbump, hact, hmesh⟩ := start_sim h0 hspec
        hdenotes hhandle hscope (by rw [hmesh0]; exact hfree') (started_of_init hinit) happly
        hreport
      rw [hmesh0] at hmesh
      change c = applyAll g.env _ _ g.content at hc
      change Bump g.content c e.revision rev at hbump
      rw [env_of_fixed hagree.fixed, hagree.content] at hc
      rw [hagree.content] at hbump
      refine ⟨h2.record _ _ _, hfixed2.trans hagree.fixed,
        [⟨.created, e2.heap e.next, ({ e with global := g } : Engine GlobalContext).snapshot,
          e2.snapshot⟩], ?_, ?_, by simp⟩
      · change _ :: e2.log = _
        rw [hlog2]
        rfl
      · have hevent : meshEvent ⟨.created, e2.heap e.next,
            ({ e with global := g } : Engine GlobalContext).snapshot, e2.snapshot⟩ =
            ⟨.created, spec.start replica rev, meshOf e,
              (meshOf e).extended (spec.start replica rev) c⟩ := by
          rw [← hmesh, ← hact]
          exact congrArg (fun m => MeshEvent.mk .created (activeAt e2 e.next) m (meshOf e2)) hmesh0
        rw [map_singleton, hevent, meshOf_record, hmesh]
        exact .create hscope (guards_hold rfl rfl hhandle hfree hguards hpass) hfree' hallowed'
          hstep hc hbump

/-- What relates the engine before and after a part of a reconciliation. The
flag tells whether anything but decisions and cancellations happened. -/
structure Follows (e e' : Engine GlobalContext) (changed : Bool) : Prop where
  fixed : e'.global.fixed = e.global.fixed
  events : ∃ evs, e'.log = evs ++ e.log ∧
    MeshRun e.global.env (meshOf e) (evs.map meshEvent) (meshOf e') ∧
    (changed = false → ∀ ev ∈ evs, ev.kind = .dispatched ∨ ev.kind = .cancelled)

def Sound (e : Engine GlobalContext) : Prop := Linked e ∧ (meshOf e).Coherent

theorem Follows.refl (e : Engine GlobalContext) : Follows e e false :=
  ⟨rfl, [], rfl, .refl _, by simp⟩

theorem Follows.trans {e1 e2 e3 : Engine GlobalContext} {c' : Bool} (h : Follows e1 e2 c)
    (h' : Follows e2 e3 c') : Follows e1 e3 (c || c') := by
  obtain ⟨hfixed, evs, hlog, hrun, hkinds⟩ := h
  obtain ⟨hfixed', evs', hlog', hrun', hkinds'⟩ := h'
  rw [env_of_fixed hfixed] at hrun'
  refine ⟨hfixed'.trans hfixed, evs' ++ evs, ?_, ?_, ?_⟩
  · rw [hlog', hlog, append_assoc]
  · rw [map_append]
    exact hrun.trans hrun'
  · intro hc
    rw [Bool.or_eq_false_iff] at hc
    exact forall_mem_append.mpr ⟨hkinds' hc.2, hkinds hc.1⟩

theorem Follows.sound (h : Follows e e' c) (hlinked : Linked e') (he : Sound e) : Sound e' := by
  obtain ⟨-, evs, -, hrun, -⟩ := h
  exact ⟨hlinked, hrun.coherent he.2⟩

theorem follows_record {kind : EventKind} (hfixed : e'.global.fixed = e.global.fixed)
    (hlog : e'.log = e.log)
    (hstep : MeshStep e.global.env [] (meshOf e) ⟨kind, activeAt e k, meshOf e, meshOf e'⟩ (meshOf
      e')) : Follows e (e'.record e kind (e.heap k)) true := by
  refine ⟨hfixed, [⟨kind, e.heap k, e.snapshot, e'.snapshot⟩], ?_, ?_, by simp⟩
  · change _ :: e'.log = _
    rw [hlog]
    rfl
  · rw [meshOf_record]
    exact .step (.refl _) hstep

theorem Sound.current (he : Sound e) (hk : k ∈ e.transitions)
    (hspec : lookup (e.heap k).type (e.heap k).planID = some spec) :
    findCurrentStepIdx (e.heap k) ≠ none := by
  intro hidx
  have hmem := mem_active hk
  have hlt := ((he.2.known _ hmem).of_spec (spec_of_lookup hspec)).2.2
  rw [← he.1.steps k hk spec (spec_of_lookup hspec), activeAt, activeOf, hidx] at hlt
  simp at hlt

theorem settle_follows {p : Bool} (he : Sound e) (hk : k ∈ e.transitions)
    (h : Settled domain e k e' c p) : Linked e' ∧ Follows e e' c := by
  obtain ⟨hl, hcoherent⟩ := he
  cases h with
  | unknown => exact ⟨hl, .refl e⟩
  | @finished p e' hget hidx =>
    obtain ⟨spec, hspec, -⟩ := domain_get hget
    exact absurd hidx (Sound.current ⟨hl, hcoherent⟩ hk hspec)
  | waiting hget _ hconf =>
    obtain ⟨spec, -, rfl⟩ := domain_get hget
    obtain ⟨h', hmesh, ht, hagree⟩ := hl.report hconf
    refine ⟨h', hagree.fixed, [], ht.log, ?_, by simp⟩
    rw [hmesh]
    exact .refl _
  | advanced hget hidx hconf hholds hstep hcomp hlt happly hreport =>
    obtain ⟨spec, hspec, rfl⟩ := domain_get hget
    obtain ⟨h', hfixed, hlog, hmesh⟩ := advance_sim hl hk hspec hidx hconf hholds hstep hcomp hlt
      happly hreport
    exact ⟨h'.record _ _ _, follows_record hfixed hlog hmesh⟩
  | completed hget hidx hconf hholds hstep hcomp hlast hdone =>
    obtain ⟨spec, hspec, rfl⟩ := domain_get hget
    obtain ⟨h', hfixed, hlog, hmesh⟩ := complete_sim hl hk hspec hidx hconf hholds hstep
      hcomp hcoherent hlast hdone
    exact ⟨h'.record _ _ _, follows_record hfixed hlog hmesh⟩

theorem registry_cancels : ∀ spec ∈ registry, spec.cancelActiveOnCreate = true →
    spec.transitionType = .forceRemoveReplica ∨ spec.transitionType = .forceDetach := by
  decide +kernel

include hspec in
theorem Chosen.of_cancels {env : Env} {m m' : Mesh} {evs : List MeshEvent}
    (h : Chosen env m spec x) (hcancel : Cancels spec x m evs m') :
    Chosen env m' spec x := by
  cases hcancel with
  | nothing => exact h
  | cancel _ hplan =>
    rcases registry_cancels spec hspec hplan with htype | htype
    · simp only [Chosen, htype] at h ⊢
      exact h
    · simp only [Chosen, htype] at h ⊢
      exact h

include hspec in
theorem dispatch_run {env : Env} {m m1 m2 : Mesh} {a : Active}
    {evs1 evs2 : List MeshEvent} (hchosen : Chosen env m spec x)
    (htype : a.type = spec.transitionType) (hreplica : a.replica = x)
    (hcancel : Cancels spec x m evs1 m1) (hcreate : Creates env spec x m1 evs2 m2) :
    MeshRun env m (evs2 ++ evs1 ++ [⟨.dispatched, a, m, m⟩]) m2 := by
  have hannounced : ∀ evs : List MeshEvent,
      Announced (evs ++ [⟨.dispatched, a, m, m⟩]) spec x := fun evs =>
    ⟨⟨.dispatched, a, m, m⟩, by simp, rfl, htype, hreplica⟩
  have hchosen1 := hchosen.of_cancels hspec hcancel
  have h1 : MeshRun env m (evs1 ++ [⟨.dispatched, a, m, m⟩]) m1 := by
    have hstart : MeshRun env m [⟨.dispatched, a, m, m⟩] m :=
      .step (.refl m) (.dispatch hspec hchosen htype hreplica)
    cases hcancel with
    | nothing => exact hstart
    | cancel hactive hplan hx hslot =>
      exact .step hstart (.cancel hspec hchosen (hannounced []) (.cancel hactive hplan hx hslot))
  cases hcreate with
  | nothing => exact h1
  | create hscope hguards hfree hallowed hstep hcontent hbump =>
    exact .step h1 (.create hspec hchosen1 (hannounced evs1)
      (.create hscope hguards hfree hallowed hstep hcontent hbump))

inductive Hands (g : GlobalContext) (spec : PlanSpec) :
    Decision GlobalContext Ref → Option Ref → Option ReplicaID → Prop
  | replica (r : Ref) (hscope : spec.scope = .replica) :
      Hands g spec (.replica r spec.transitionType spec.planID) (some r) (g.replicaName r)
  | global (hscope : spec.scope = .global) :
      Hands g spec (.global spec.transitionType spec.planID) none none

section
variable {d : Decision GlobalContext Ref} {spec : PlanSpec}

theorem Hands.bound (h : Hands g spec d rctx x) : spec.scope ≠ .replica → rctx = none := by
  cases h with
  | replica r hscope => exact fun hne => absurd hscope hne
  | global => exact fun _ => rfl

theorem Hands.named (h : Hands g spec d rctx x) :
    x = if spec.scope = .replica then rctx.bind g.replicaName else none := by
  cases h with
  | replica r hscope =>
    rw [if_pos hscope]
    rfl
  | global hscope => rw [if_neg (by simp [hscope])]

theorem runDecision_cases (hd : Decided domain e.global d)
    (hrun : runDecision domain d e = some (e', c)) :
    (c = false ∧ ∃ g, g.silent = e.global.silent ∧ e' = { e with global := g }) ∨
    ∃ spec ∈ registry, ∃ rctx x, Hands e.global spec d rctx x ∧
      dispatchOne domain spec.plan spec.planID rctx
        (e.record e .dispatched (stubTransition spec.plan x)) = some (e', c) := by
  have hreached := decided_reached hd
  cases d with
  | noDispatch r slot message details =>
    cases hreached with
    | status slot =>
      simp only [runDecision] at hrun
      split at hrun <;> cases hrun
      · exact .inl ⟨rfl, e.global, rfl, rfl⟩
      · exact .inl ⟨rfl, _, setStatus_silent slot e.global r message details, rfl⟩
  | replica r type planID =>
    simp only [runDecision, bind_eq_bind, bind_eq_some_iff] at hrun
    obtain ⟨p, hp, hrun⟩ := hrun
    obtain ⟨spec, hspec, rfl⟩ := domain_get hp
    have hscope : spec.plan.scope = .replica := hreached.replica_scope hspec
    obtain ⟨hmem, rfl, rfl⟩ := lookup_eq_some hspec
    rw [if_pos hscope] at hrun
    exact .inr ⟨spec, hmem, _, _, .replica r hscope, hrun⟩
  | global type planID =>
    simp only [runDecision, bind_eq_bind, bind_eq_some_iff] at hrun
    obtain ⟨p, hp, hrun⟩ := hrun
    obtain ⟨spec, hspec, rfl⟩ := domain_get hp
    have hscope : spec.plan.scope = .global := hreached.global_scope hspec
    obtain ⟨hmem, rfl, rfl⟩ := lookup_eq_some hspec
    rw [if_neg (by simp [hscope])] at hrun
    exact .inr ⟨spec, hmem, _, _, .global hscope, hrun⟩

section
variable (he : Sound e) (hd : Decided domain e.global d)
include he hd

theorem Hands.chosen (hspec : spec ∈ registry)
    (h : Hands e.global spec d rctx x) : Chosen e.global.env (meshOf e) spec x := by
  have hjustified := decided_justified he.1.anchored he.2 rfl rfl
    (by rw [meshOf_active]; exact he.1.tracks) hd
  cases h with
  | replica => exact (hjustified spec (lookup_of_mem spec hspec)).2
  | global => exact (hjustified spec (lookup_of_mem spec hspec)).2

/-- The abstract run of a decision with its plan, after the slot was cleared and
after the creation. -/
theorem dispatch_stages (hspec : spec ∈ registry)
    (hands : Hands e.global spec d rctx x)
    (hrun : dispatchOne domain spec.plan spec.planID rctx (e.record e .dispatched (stubTransition
      spec.plan x)) = some (e', c)) :
    (Linked (cancelActive domain spec.plan rctx
        (e.record e .dispatched (stubTransition spec.plan x))) ∧
      Follows e (cancelActive domain spec.plan rctx
        (e.record e .dispatched (stubTransition spec.plan x))) false) ∧
    Linked e' ∧ Follows e e' c := by
  have hchosen := hands.chosen he hd hspec
  obtain ⟨hl, hcoherent⟩ := he
  have hl0 := hl.record e .dispatched (stubTransition spec.plan x)
  have hcancels : spec.cancelActiveOnCreate = true → Denotes rctx x := by
    intro hcancel
    refine (denotes_of_scope hl.anchored hands.named hands.bound ?_).1
    rintro ⟨-, rfl⟩
    rcases registry_cancels spec hspec hcancel with htype | htype <;> simp [Chosen, htype] at hchosen
  obtain ⟨h1, hfixed1, evs1, hlog1, hmesh1, hkinds1⟩ := cancel_sim hl0 hcoherent hcancels
  have hcoherent1 := hmesh1.coherent hcoherent
  have hname := replicaName_of_fixed hl0.anchored h1.anchored hfixed1
  obtain ⟨h2, hfixed2, evs2, hlog2, hmesh2, hkinds2⟩ := create_sim h1 hcoherent1 hspec
    (hands.named.trans (by rw [funext hname]; rfl)) hands.bound (dispatchOne_eq_some hrun)
  rw [env_of_fixed hfixed1] at hmesh2
  have hquiet : ∀ ev ∈ evs1 ++ [⟨.dispatched, stubTransition spec.plan x, e.snapshot, e.snapshot⟩],
      ev.kind = .dispatched ∨ ev.kind = .cancelled := by
    intro ev hev
    rcases mem_append.mp hev with hev | hev
    · exact .inr (hkinds1 ev hev)
    · rw [mem_singleton.mp hev]
      exact .inl rfl
  refine ⟨⟨h1, hfixed1, evs1 ++ [⟨.dispatched, stubTransition spec.plan x, e.snapshot,
    e.snapshot⟩], ?_, ?_, fun _ => hquiet⟩, h2, hfixed2.trans hfixed1,
    evs2 ++ (evs1 ++ [⟨.dispatched, stubTransition spec.plan x, e.snapshot, e.snapshot⟩]),
    ?_, ?_, ?_⟩
  · rw [hlog1]
    simp [Engine.record]
  · rw [map_append]
    exact dispatch_run hspec hchosen rfl rfl hmesh1 (.nothing _)
  · rw [hlog2, hlog1]
    simp [Engine.record]
  · rw [map_append, map_append, ← append_assoc]
    exact dispatch_run hspec hchosen rfl rfl hmesh1 hmesh2
  · intro hc ev hev
    rcases mem_append.mp hev with hev | hev
    · simp [hc] at hkinds2
      exact absurd hev (hkinds2 ev)
    · exact hquiet ev hev

theorem decision_follows (hrun : runDecision domain d e = some (e', c)) :
    Linked e' ∧ Follows e e' c := by
  rcases runDecision_cases hd hrun with ⟨rfl, g, hsilent, rfl⟩ | ⟨spec, hspec, rctx, x, hands, hrun⟩
  · have hagree := Agree.of_silent hsilent
    refine ⟨he.1.agree hagree, hagree.fixed, [], rfl, ?_, by simp⟩
    rw [meshOf_agree hagree]
    exact .refl _
  · exact (dispatch_stages he hd hspec hands hrun).2

end

end

theorem respected : Respected domain Sound Follows where
  refl := .refl
  trans _ _ _ _ _ := .trans
  nodup _ he := he.1.nodup
  settle _ _ _ _ _ he hk h :=
    have hstep := settle_follows he hk h
    ⟨hstep.2.sound hstep.1 he, hstep.2⟩
  decision _ _ _ _ he hd hrun :=
    have hstep := decision_follows he hd hrun
    ⟨hstep.2.sound hstep.1 he, hstep.2⟩

end ReplicatedVolume.Datamesh
