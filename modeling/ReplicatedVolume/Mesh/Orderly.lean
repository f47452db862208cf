import ReplicatedVolume.Mesh.Ledger

/-!
# Orderly engines

An engine is orderly when its data structures fit together, its live transitions are regular, its
tracker is their tally and no resize meets a disk gain. Every action keeps it orderly, and a status
that a cycle persists makes the next cycle start orderly.
-/

namespace ReplicatedVolume.Datamesh
open Dmte List

variable {e e' : Engine GlobalContext} {t : Transition} {k : ℕ} {c : Bool} {rctx : Option Ref}
  {st : Status} {d : Decision GlobalContext Ref} {e1 : Engine GlobalContext}
  {obs : List Observation} {r : CycleResult} {results : List CycleResult} {spec : PlanSpec}
  {x : Option ReplicaID}

structure Ledgered (e : Engine GlobalContext) : Prop where
  tally : Tally e.global.books (headers e)
  apart : ∀ t ∈ headers e, t.group = .resize → ∀ t' ∈ headers e, isDiskGainingTransition t' = false
  typed : ∀ t ∈ headers e, Typed t
  slots : ∀ slot id ref, e.global.slotAt slot id = some ref →
    headerOf ref.header = headerOf (e.heap ref.ptr)

structure Orderly (e : Engine GlobalContext) : Prop where
  linked : Linked e
  regular : (meshOf e).Regular
  ledgered : Ledgered e

theorem Orderly.sound (h : Orderly e) : Sound e := ⟨h.linked, h.regular.coherent⟩

theorem mem_headers : t ∈ headers e ↔ ∃ k ∈ e.transitions, headerOf (e.heap k) = t := mem_map

theorem known_of_header (h : (meshOf e).Coherent) (ht : t ∈ headers e) :
    ∃ a ∈ (meshOf e).active, a.Known ∧ a.type = t.type ∧
      a.group = t.group ∧ a.replica = t.replica := by
  obtain ⟨k, hk, rfl⟩ := mem_headers.mp ht
  have hmem := mem_active hk
  exact ⟨activeAt e k, hmem, h.known _ hmem, rfl, rfl, rfl⟩

theorem gainsDisk_of_header (h : (meshOf e).Coherent) (ht : t ∈ headers e)
    (hgain : isDiskGainingTransition t = true) : ∃ id, GainsDisk t id := by
  obtain ⟨a, -, hknown, htype, hgroup, hreplica⟩ := known_of_header h ht
  exact gainsDisk_of_known hknown htype hgroup hreplica hgain

theorem headers_unshared (h : (meshOf e).Regular) :
    (headers e).Pairwise fun t t' => Unshared (activeOf t) (activeOf t') := by
  have hunshared := h.unshared
  rw [meshOf_active, pairwise_map] at hunshared
  rw [headers, pairwise_map]
  refine hunshared.imp fun hk => ?_
  obtain ⟨hnetwork, hmembership, hemergency⟩ := hk
  exact ⟨hnetwork, hmembership, hemergency⟩

theorem Ledgered.steady (h : Ledgered e) (hs : Steady e e') : Ledgered e' := by
  obtain ⟨htally, hapart, htyped, hslots⟩ := h
  rw [← hs.headers] at htally hapart htyped
  rw [← hs.books] at htally
  refine ⟨htally, hapart, htyped, fun slot id ref href => ?_⟩
  rw [hs.heads]
  exact hslots slot id ref (hs.slots slot id ref href)

theorem Erased.headers (h : Erased e k e') (hnodup : e.transitions.Nodup) (hk : k ∈ e.transitions) :
    ∃ l1 l2, headers e = l1 ++ headerOf (e.heap k) :: l2 ∧ headers e' = l1 ++ l2 := by
  obtain ⟨l1, l2, hsplit, -, -, herase⟩ := split_of_mem hnodup hk
  refine ⟨l1.map fun k => headerOf (e.heap k), l2.map fun k => headerOf (e.heap k), ?_, ?_⟩
  · rw [Datamesh.headers, hsplit, map_append, map_cons]
  · simp only [Datamesh.headers, h.transitions, herase, h.heads, map_append]

theorem Orderly.erased (h : Orderly e) (hk : k ∈ e.transitions) (he : Erased e k e') :
    Ledgered e' := by
  obtain ⟨l1, l2, hsplit, hrest⟩ := he.headers h.linked.nodup hk
  obtain ⟨htally, hapart, htyped, hslots⟩ := h.ledgered
  have hunshared := headers_unshared h.regular
  rw [hsplit] at htally hapart htyped hunshared
  have hsub : ∀ t ∈ l1 ++ l2, t ∈ l1 ++ headerOf (e.heap k) :: l2 :=
    fun t ht => (List.Sublist.append_left (sublist_cons_self _ l2) l1).subset ht
  constructor
  · rw [hrest, he.books]
    exact htally.remove fun t' ht' => rel_of_split
      (R := fun t t' => Unshared (activeOf t) (activeOf t')) (fun h => h.symm) hunshared ht'
  · rw [hrest]
    exact fun t ht hresize t' ht' => hapart t (hsub t ht) hresize t' (hsub t' ht')
  · rw [hrest]
    exact fun t ht => htyped t (hsub t ht)
  · intro slot id ref href
    rw [he.heads]
    exact hslots slot id ref (he.slots slot id ref href)

theorem Inserted.headers (h : Inserted e t e') (hfresh : ∀ k ∈ e.transitions, k < e.next) :
    headers e' = headers e ++ [headerOf t] := by
  rw [Datamesh.headers, h.transitions, map_append, map_singleton, h.fresh]
  congr 1
  refine map_congr_left fun k hk => h.heads k ?_
  have hlt := hfresh k hk
  omega

theorem Orderly.inserted (h : Orderly e) (hi : Inserted e t e') (hadmits : Admits e t)
    (hcoherent : (meshOf e').Coherent) : Ledgered e' := by
  have hheaders := hi.headers h.linked.fresh
  obtain ⟨htally, hapart, htyped, hslots⟩ := h.ledgered
  have hgains : isDiskGainingTransition t = true → ∃ id, GainsDisk (headerOf t) id := by
    intro hgain
    exact gainsDisk_of_header hcoherent (by rw [hheaders]; simp) hgain
  constructor
  · rw [hheaders, hi.books]
    exact htally.add (headerOf t)
  · rw [hheaders]
    simp only [mem_append, mem_singleton]
    rintro t1 (ht1 | rfl) hresize t2 (ht2 | rfl)
    · exact hapart t1 ht1 hresize t2 ht2
    · -- the new gain was admitted, so the tracker had no resize
      by_contra hgain
      rw [Bool.not_eq_false] at hgain
      obtain ⟨id, hgroup, -, -⟩ := hgains hgain
      obtain ⟨a, ha, -, -, hg, -⟩ := known_of_header h.regular.coherent ht1
      rw [meshOf_active] at ha
      have hflag : e.global.hasResizeTransition = true :=
        h.linked.tracks.resize.mpr ⟨a, ha, hg.trans hresize⟩
      rw [hadmits.gaining hgain hgroup] at hflag
      cases hflag
    · -- the new resize was admitted, so the tracker had no gain
      by_contra hgain
      rw [Bool.not_eq_false] at hgain
      obtain ⟨id, hid⟩ := gainsDisk_of_header h.regular.coherent ht2 hgain
      have hmem := (htally.gaining id).mpr ⟨t2, ht2, hid⟩
      rw [hadmits.resize hresize] at hmem
      simp at hmem
    · by_contra hgain
      rw [Bool.not_eq_false] at hgain
      obtain ⟨id, hgroup, -, -⟩ := hgains hgain
      rw [hresize] at hgroup
      simp at hgroup
  · rw [hheaders]
    simp only [mem_append, mem_singleton]
    rintro t' (ht' | rfl)
    · exact htyped t' ht'
    · exact hadmits.typed
  · intro slot id ref href
    rcases hi.slots slot id ref href with rfl | hold
    · exact hi.fresh.symm
    · have hlt := (h.linked.back slot id ref hold).1
      rw [hi.heads ref.ptr (by omega)]
      exact hslots slot id ref hold

structure CreatedFrom (ev : Event GlobalContext) (e : Engine GlobalContext) (spec : PlanSpec)
    (rctx : Option Ref) (g : GlobalContext) : Prop where
  orderly : Orderly e
  registered : spec ∈ registry
  plan : (activeOf ev.transition).spec = some spec
  before : ev.before = ({ e with global := g } : Engine GlobalContext).snapshot
  guards : ∃ result, evaluateGuards rctx spec.plan.guards e.global = some (result, g) ∧
    result.blocked = false
  subject : ∀ id, ev.transition.replica = some id → rctx = some (.replica id)

/-- The engine after an event is orderly, and so is the one before a creation;
both observe `F`. -/
structure Vouched (F : Fixed) (ev : Event GlobalContext) : Prop where
  after : ∃ e, Orderly e ∧ e.global.fixed = F ∧ ev.after = e.snapshot
  created : ev.kind = .created → ∃ e spec rctx g, CreatedFrom ev e spec rctx g ∧ e.global.fixed = F

def Certified (e e' : Engine GlobalContext) : Prop :=
  e'.global.fixed = e.global.fixed ∧
    ∃ evs, e'.log = evs ++ e.log ∧ ∀ ev ∈ evs, Vouched e.global.fixed ev

theorem Certified.refl (e : Engine GlobalContext) : Certified e e := ⟨rfl, [], rfl, by simp⟩

theorem Certified.trans {e1 e2 e3 : Engine GlobalContext} (h : Certified e1 e2)
    (h' : Certified e2 e3) : Certified e1 e3 := by
  obtain ⟨hfixed, evs, hlog, hevs⟩ := h
  obtain ⟨hfixed', evs', hlog', hevs'⟩ := h'
  rw [hfixed] at hfixed' hevs'
  refine ⟨hfixed', evs' ++ evs, ?_, forall_mem_append.mpr ⟨hevs', hevs⟩⟩
  rw [hlog', hlog, append_assoc]

theorem Follows.regular (h : Follows e e' c) (he : (meshOf e).Regular) : (meshOf e').Regular := by
  obtain ⟨-, evs, -, hrun, -⟩ := h
  exact hrun.regular he

theorem Recorded.ledgered (h : Recorded e1 e') (h1 : Ledgered e1) : Ledgered e' := by
  rcases h with rfl | ⟨before, kind, t, -, rfl⟩
  · exact h1
  · exact ⟨h1.tally, h1.apart, h1.typed, h1.slots⟩

theorem Recorded.certified (h : Recorded e1 e')
    (hlog : e1.log = e.log) (he' : Orderly e') (hfixed : e'.global.fixed = e.global.fixed) :
    Certified e e' := by
  rcases h with rfl | ⟨before, kind, t, hkind, rfl⟩
  · exact ⟨hfixed, [], hlog, by simp⟩
  · refine ⟨hfixed, [⟨kind, t, before.snapshot, e1.snapshot⟩], ?_, ?_⟩
    · rw [← hlog]
      rfl
    · intro ev hev
      rw [mem_singleton.mp hev]
      exact ⟨⟨_, he', hfixed, rfl⟩, fun hcreated => absurd hcreated hkind⟩

theorem settle_orderly {p : Bool} (he : Orderly e) (hk : k ∈ e.transitions)
    (h : Settled domain e k e' c p) : Orderly e' ∧ Certified e e' := by
  obtain ⟨hlinked, hfollows⟩ := settle_follows he.sound hk h
  obtain ⟨e1, hbooks, hrecorded⟩ := settled_books h
  have h1 : Ledgered e1 ∧ e1.log = e.log := by
    rcases hbooks with hsteady | herased
    · exact ⟨he.ledgered.steady hsteady, hsteady.log⟩
    · exact ⟨he.erased hk herased, herased.log⟩
  have he' : Orderly e' := ⟨hlinked, hfollows.regular he.regular, hrecorded.ledgered h1.1⟩
  exact ⟨he', hrecorded.certified h1.2 he' hfollows.fixed⟩

theorem create_orderly (he : Orderly e)
    (hspec : spec ∈ registry)
    (hx : x = if spec.scope = .replica then rctx.bind e.global.replicaName else none)
    (hglobal : spec.scope ≠ .replica → rctx = none)
    (h : Dispatched domain spec.plan spec.planID rctx e e' c) (hlinked : Linked e')
    (hregular : (meshOf e').Regular) (hfixed : e'.global.fixed = e.global.fixed) :
    Orderly e' ∧ Certified e e' := by
  rcases dispatched_books he.linked.anchored hspec hx hglobal h with
    hsteady | ⟨e1, t, g, result, hinserted, hadmits, hstarted, hsubject, hguards, hpass, rfl⟩
  · exact ⟨⟨hlinked, hregular, he.ledgered.steady hsteady⟩, hfixed, [], hsteady.log, by simp⟩
  · have hledgered := he.inserted hinserted hadmits hregular.coherent
    have he' : Orderly (e1.record { e with global := g } .created (e1.heap e.next)) :=
      ⟨hlinked, hregular, hledgered.tally, hledgered.apart, hledgered.typed, hledgered.slots⟩
    refine ⟨he', hfixed, [⟨.created, e1.heap e.next, ({ e with global := g } :
      Engine GlobalContext).snapshot, e1.snapshot⟩], ?_, ?_⟩
    · rw [← hinserted.log]
      rfl
    · intro ev hev
      rw [mem_singleton.mp hev]
      have htype : (e1.heap e.next).type = spec.transitionType :=
        (congrArg Transition.type hinserted.fresh).trans hstarted.type
      have hplan : (e1.heap e.next).planID = spec.planID :=
        (congrArg Transition.planID hinserted.fresh).trans hstarted.planID
      have hreplica : (e1.heap e.next).replica = x :=
        (congrArg Transition.replica hinserted.fresh).trans hstarted.replica
      refine ⟨⟨_, he', hfixed, rfl⟩, fun _ => ⟨e, spec, rctx, g, ⟨he, hspec, ?_, rfl,
        ⟨result, hguards, hpass⟩, fun id hid => hsubject id (hreplica.symm.trans hid)⟩, rfl⟩⟩
      change lookup (e1.heap e.next).type (e1.heap e.next).planID = _
      rw [htype, hplan]
      exact lookup_of_mem spec hspec

theorem announce_orderly (he : Orderly e) (t : Transition) :
    Orderly (e.record e .dispatched t) ∧ Certified e (e.record e .dispatched t) := by
  have h1 : Orderly (e.record e .dispatched t) :=
    ⟨he.linked.record _ _ _, he.regular, he.ledgered.tally, he.ledgered.apart,
      he.ledgered.typed, he.ledgered.slots⟩
  have hrecorded : Recorded e (e.record e .dispatched t) := .inr ⟨_, _, _, by simp, rfl⟩
  exact ⟨h1, hrecorded.certified rfl h1 rfl⟩

theorem cancel_orderly (he : Orderly e)
    (hlinked : Linked (cancelActive domain spec.plan rctx e))
    (hregular : (meshOf (cancelActive domain spec.plan rctx e)).Regular)
    (hfixed : (cancelActive domain spec.plan rctx e).global.fixed = e.global.fixed) :
    Orderly (cancelActive domain spec.plan rctx e) ∧
      Certified e (cancelActive domain spec.plan rctx e) := by
  obtain ⟨e1, hcancelled, hrecorded⟩ := cancelActive_books spec rctx e
  have h1 : Ledgered e1 ∧ e1.log = e.log := by
    rcases hcancelled with hsteady | ⟨k, hk, herased⟩
    · exact ⟨he.ledgered.steady hsteady, hsteady.log⟩
    · exact ⟨he.erased hk herased, herased.log⟩
  have hcancel : Orderly (cancelActive domain spec.plan rctx e) :=
    ⟨hlinked, hregular, hrecorded.ledgered h1.1⟩
  exact ⟨hcancel, hrecorded.certified h1.2 hcancel hfixed⟩

/-- The stages of a decision that found its plan: announced, slot cleared,
decided. -/
structure Staged (spec : PlanSpec) (rctx : Option Ref) (x : Option ReplicaID)
    (e e₁ e₂ e' : Engine GlobalContext) : Prop where
  announced : Orderly e₁ ∧ Certified e e₁
  cleared : Orderly e₂ ∧ Certified e₁ e₂
  decided : Orderly e' ∧ Certified e₂ e'
  named : x = if spec.scope = .replica then rctx.bind e₂.global.replicaName else none

theorem dispatch_staged
    (he : Orderly e) (hd : Decided domain e.global d) (hspec : spec ∈ registry)
    (hands : Hands e.global spec d rctx x)
    (hrun : dispatchOne domain spec.plan spec.planID rctx (e.record e .dispatched (stubTransition
      spec.plan x)) = some (e', c)) :
    Staged spec rctx x e (e.record e .dispatched (stubTransition spec.plan x))
      (cancelActive domain spec.plan rctx
        (e.record e .dispatched (stubTransition spec.plan x))) e' := by
  obtain ⟨⟨hlinked2, hfollows2⟩, hlinked', hfollows'⟩ :=
    dispatch_stages he.sound hd hspec hands hrun
  obtain ⟨h1, hcertified1⟩ := announce_orderly he (stubTransition spec.plan x)
  obtain ⟨h2, hcertified2⟩ := cancel_orderly h1 hlinked2 (hfollows2.regular he.regular)
    (hfollows2.fixed.trans hcertified1.1.symm)
  have hname : x = if spec.scope = .replica then rctx.bind (cancelActive domain spec.plan rctx
      (e.record e .dispatched (stubTransition spec.plan x))).global.replicaName else none := by
    rw [funext (replicaName_of_fixed he.linked.anchored hlinked2.anchored hfollows2.fixed)]
    exact hands.named
  exact ⟨⟨h1, hcertified1⟩, ⟨h2, hcertified2⟩, create_orderly h2 hspec hname hands.bound
    (dispatchOne_eq_some hrun) hlinked' (hfollows'.regular he.regular)
    (hfollows'.fixed.trans hfollows2.fixed.symm), hname⟩

theorem decision_orderly (he : Orderly e)
    (hd : Decided domain e.global d) (hrun : runDecision domain d e = some (e', c)) :
    Orderly e' ∧ Certified e e' := by
  obtain ⟨hlinked, hfollows⟩ := decision_follows he.sound hd hrun
  rcases runDecision_cases hd hrun with ⟨-, g, hsilent, rfl⟩ | ⟨spec, hspec, rctx, x, hands, hrun⟩
  · have hsteady : Steady e { e with global := g } := steady_global (untouched_of_silent hsilent)
    exact ⟨⟨hlinked, hfollows.regular he.regular, he.ledgered.steady hsteady⟩, hfollows.fixed,
      [], rfl, by simp⟩
  · obtain ⟨⟨-, h1⟩, ⟨-, h2⟩, ⟨he', h3⟩, -⟩ := dispatch_staged he hd hspec hands hrun
    exact ⟨he', h1.trans (h2.trans h3)⟩

theorem orderly_respected : Respected domain Orderly fun e e' _ => Certified e e' where
  refl := .refl
  trans _ _ _ _ _ := .trans
  nodup _ he := he.linked.nodup
  settle _ _ _ _ _ he hk h := settle_orderly he hk h
  decision _ _ _ _ he hd hrun := decision_orderly he hd hrun

structure Status.Orderly (st : Status) : Prop extends st.WellFormed where
  regular : st.mesh.Regular
  apart : ∀ t ∈ st.transitions, t.group = .resize → ∀ t' ∈ st.transitions,
    isDiskGainingTransition t' = false
  typed : ∀ t ∈ st.transitions, Typed t

def Status.Formed (st : Status) : Prop :=
  st.transitions = [] ∨ ∃ t, st.transitions = [t] ∧ t.type = .formation ∧
    t.group = .formation ∧ t.replica = none

theorem Status.Formed.orderly (h : st.Formed) : st.Orderly := by
  have hformation : ∀ t ∈ st.transitions, t.type = .formation ∧ t.group = .formation ∧
      t.replica = none := by
    rcases h with h | ⟨t, h, hformation⟩
    · simp [h]
    · simpa [h] using hformation
  have hspec : ∀ t ∈ st.transitions, (activeOf t).spec = none := by
    intro t ht
    cases hlookup : (activeOf t).spec with
    | none => rfl
    | some spec =>
      obtain ⟨hmem, htype, -⟩ := lookup_eq_some hlookup
      exact absurd (htype.trans (hformation t ht).1) (registry_type_ne_formation spec hmem)
  have hsingle : ∀ {R : Active → Active → Prop}, st.mesh.active.Pairwise R := by
    intro R
    change (st.transitions.map activeOf).Pairwise R
    rcases h with h | ⟨t, h, -⟩ <;> simp [h]
  have hcoherent : st.mesh.Coherent := by
    refine ⟨fun a ha => ?_, hsingle⟩
    obtain ⟨t, ht, rfl⟩ := mem_map.mp ha
    exact .inl (hformation t ht)
  have hunplanned : ∀ a ∈ st.mesh.active, a.spec = none := by
    intro a ha
    obtain ⟨t, ht, rfl⟩ := mem_map.mp ha
    exact hspec t ht
  refine ⟨⟨hcoherent, fun t ht spec hs => ?_⟩,
    ⟨hcoherent, ?_, ?_, ⟨subset_rfl, ?_⟩, hsingle⟩, ?_, fun t ht spec hs => ?_⟩
  · rw [hspec t ht] at hs
    cases hs
  · intro a ha spec id hs
    rw [hunplanned a ha] at hs
    cases hs
  · intro a ha spec id hs
    rw [hunplanned a ha] at hs
    cases hs
  · intro a ha hdetach
    obtain ⟨t, ht, rfl⟩ := mem_map.mp ha
    have htype : t.type = .detach := hdetach
    rw [(hformation t ht).1] at htype
    cases htype
  · intro t ht hresize
    rw [(hformation t ht).2.1] at hresize
    cases hresize
  · rw [show lookup t.type t.planID = none from hspec t ht] at hs
    cases hs

theorem initSlot_books (g : GlobalContext) (k : ℕ) (t : Transition) :
    (initSlot domain g k t).books = g.books := by
  unfold initSlot
  split
  · next p hget =>
      obtain ⟨spec, -, rfl⟩ := domain_get hget
      split
      · next r _ _ =>
          change (spec.slot.accessor.setActiveTransition g r _).books = _
          cases spec.slot
          · exact modify_books g r _
          · exact modify_books g r _
      · rfl
  · rfl

theorem initTransitions_tally {g : GlobalContext} {l ts : List Transition}
    (h : Tally g.books (l.map headerOf)) :
    Tally (initTransitions domain k ts g).books ((l ++ ts).map headerOf) := by
  induction ts generalizing l g k with
  | nil =>
    rw [append_nil]
    exact h
  | cons t ts ih =>
    have hnext : Tally (initSlot domain (trackerAdd g t) k t).books ((l ++ [t]).map headerOf) := by
      rw [initSlot_books, trackerAdd_books, map_append]
      exact h.add (headerOf t)
    have hrest := ih (k := k + 1) hnext
    rw [append_assoc] at hrest
    exact hrest

theorem startEngine_headers (obs : Observation) (st : Status) :
    headers (startEngine obs st) = st.transitions.map headerOf :=
  startEngine_map headerOf

theorem startEngine_orderly (obs : Observation) (h : st.Orderly) :
    Orderly (startEngine obs st) := by
  refine ⟨startEngine_linked h.toWellFormed, ?_, ?_, ?_, ?_, ?_⟩
  · rw [startEngine_mesh h.toWellFormed]
    exact h.regular
  · rw [startEngine_headers]
    exact initTransitions_tally (l := []) (tally_nil _ rfl rfl rfl)
  · rw [startEngine_headers]
    simp only [mem_map]
    rintro _ ⟨t, ht, rfl⟩ hresize _ ⟨t', ht', rfl⟩
    exact h.apart t ht hresize t' ht'
  · rw [startEngine_headers]
    simp only [mem_map]
    rintro _ ⟨t, ht, rfl⟩
    exact h.typed t ht
  · intro slot id ref href
    have ht := ((startEngine_registered h.toWellFormed).back slot id ref href).1
    have hk : ref.ptr ∈ (startEngine obs st).transitions :=
      mem_range.mpr (List.getElem?_eq_some_iff.mp ht).1
    rw [startEngine_heap hk, Option.some.injEq] at ht
    rw [ht]

theorem Mesh.Regular.refresh {m : Mesh} (h : m.Regular) : m.refresh.Regular :=
  ⟨h.coherent.congr rfl, h.placed, h.based, h.accounted.refresh, h.lone⟩

theorem cycle_orderly {obs : Observation} (hst : st.Orderly)
    (h : processTransitions obs st = some r) :
    r.status.Orderly ∧ ∀ ev ∈ r.log, Vouched (startContext obs st).fixed ev := by
  obtain ⟨hwf, m, hrun, hmesh⟩ := cycle_follows hst.toWellFormed h
  obtain ⟨e, changed, hprocess, rfl⟩ := processTransitions_eq_some h
  obtain ⟨horderly, -, evs, hlog, hevs⟩ :=
    orderly_respected.process (startEngine_orderly obs hst) hprocess
  rw [(startEngine_registered hst.toWellFormed).fixed] at hevs
  have hheader : ∀ t ∈ e.active, headerOf t ∈ headers e := by
    intro t ht
    obtain ⟨k, hk, rfl⟩ := mem_map.mp ht
    exact mem_headers.mpr ⟨k, hk, rfl⟩
  refine ⟨⟨hwf, ?_, ?_, ?_⟩, ?_⟩
  · rw [hmesh]
    exact (hrun.regular hst.regular).refresh
  · rw [finishCycle_transitions]
    intro t ht hresize t' ht'
    have hnone := horderly.ledgered.apart _ (hheader t ht) hresize _ (hheader t' ht')
    exact hnone
  · rw [finishCycle_transitions]
    intro t ht
    have htyped := horderly.ledgered.typed _ (hheader t ht)
    exact htyped
  · intro ev hev
    have hlog' : e.log = evs := hlog.trans (append_nil evs)
    change ev ∈ e.log at hev
    rw [hlog'] at hev
    exact hevs ev hev

theorem run_orderly (hst : st.Orderly)
    (hrun : run st obs = some results) :
    (∀ p ∈ published st results, p.Orderly) ∧ ∀ r ∈ results, ∀ ev ∈ r.log,
      ∃ o ∈ obs, ∃ st', Vouched (startContext o st').fixed ev := by
  induction obs generalizing results with
  | nil =>
    cases hrun
    refine ⟨?_, by simp⟩
    intro p hp
    rw [published, map_nil, nil_append, mem_singleton] at hp
    exact hp ▸ hst
  | cons o obs ih =>
    obtain ⟨earlier, hearlier, r, hr, rfl⟩ := run_cons hrun
    obtain ⟨hpublished, hvouched⟩ := ih hearlier
    obtain ⟨hstatus, hevents⟩ := cycle_orderly (hpublished _ (lastStatus_mem st earlier)) hr
    refine ⟨forall_mem_cons.mpr ⟨hstatus, hpublished⟩, forall_mem_cons.mpr ⟨?_, ?_⟩⟩
    · exact fun ev hev => ⟨o, mem_cons_self, _, hevents ev hev⟩
    · intro r' hr' ev hev
      obtain ⟨o', ho', st', hvouched'⟩ := hvouched r' hr' ev hev
      exact ⟨o', mem_cons_of_mem _ ho', st', hvouched'⟩

theorem run_cycle (hst : st.Orderly)
    (hrun : run st obs = some results) (hr : r ∈ results) :
    ∃ o ∈ obs, ∃ p, p.Orderly ∧ processTransitions o p = some r := by
  induction obs generalizing results with
  | nil =>
    cases hrun
    cases hr
  | cons o obs ih =>
    obtain ⟨earlier, hearlier, r', hr', rfl⟩ := run_cons hrun
    rcases mem_cons.mp hr with rfl | hr
    · exact ⟨o, mem_cons_self, _, (run_orderly hst hearlier).1 _ (lastStatus_mem st earlier), hr'⟩
    · obtain ⟨o', ho', hcycle⟩ := ih hearlier hr
      exact ⟨o', mem_cons_of_mem _ ho', hcycle⟩

end ReplicatedVolume.Datamesh
