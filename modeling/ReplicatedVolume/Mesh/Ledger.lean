import ReplicatedVolume.Mesh.Attached

/-!
# The rest of the tracker

Besides the flags and sets that the simulation needs, the tracker keeps the subjects of emergencies
and of disk gains and the network change in progress. They are cleared without counting, so they
are right only as long as no two live transitions share an entry.
-/

namespace ReplicatedVolume.Datamesh
open Dmte List

variable {m m' : Mesh} {t : Transition} {g g' : GlobalContext} {rctx : Option Ref}

/-- Two live transitions that share no entry of the tracker that is cleared by
the first of them to leave. -/
structure Unshared (a b : Active) : Prop where
  network : ¬(a.group = .network ∧ b.group = .network)
  membership : ∀ id, a.replica = some id → b.replica = some id →
    ¬((a.group = .votingMembership ∨ a.group = .nonVotingMembership) ∧
      (b.group = .votingMembership ∨ b.group = .nonVotingMembership))
  emergency : ∀ id, a.replica = some id → b.replica = some id →
    ¬(a.group = .emergency ∧ b.group = .emergency)

theorem Unshared.symm {a b : Active} (h : Unshared a b) : Unshared b a :=
  ⟨fun hc => h.network hc.symm, fun id hb ha hc => h.membership id ha hb hc.symm,
    fun id hb ha hc => h.emergency id ha hb hc.symm⟩

def Mesh.Lone (m : Mesh) : Prop :=
  m.active.Pairwise fun a b => ∀ id, a.replica = some id → b.replica = some id →
    ¬(a.group = .emergency ∧ b.group = .emergency)

theorem registry_emergency : ∀ spec ∈ registry, spec.group = .emergency →
    spec.scope = .replica ∧
    (spec.transitionType = .forceRemoveReplica ∧ spec.slot = .membershipSlot ∧
        .guardNotAttached ∈ spec.guards ∧ spec.steps.length = 1 ∧ spec.roleAfter 1 = .absent ∨
      spec.transitionType = .forceDetach ∧ spec.slot = .attachmentSlot) := by
  decide +kernel

variable {env : Env} {spec : PlanSpec} {id : ReplicaID}

/-- A new emergency finds no other one on its subject: a forced removal asks
for an empty attachment slot, and a forced detach for a member, which no live
forced removal leaves. -/
theorem emergency_unshared {b : Active}
    (hcoherent : m.Coherent) (hplaced : m.Placed) (hspec : spec ∈ registry)
    (hgroup : spec.group = .emergency) (hchosen : Chosen env m spec (some id))
    (hguards : ∀ guard ∈ spec.guards, guard.Holds env m (some id)) (hfree : m.Free spec.slot id)
    (hb : b ∈ m.active) (hid : b.replica = some id) : b.group ≠ .emergency := by
  intro hbgroup
  obtain ⟨spec', hspec', hmem', hg', -, hidx⟩ :=
    (hcoherent.known b hb).spec_of_group (by rw [hbgroup]; simp)
  obtain ⟨hscope', hkind'⟩ := registry_emergency spec' hmem' (hg'.symm.trans hbgroup)
  have hslot' := Active.slot_of_spec hspec' hscope' hid
  obtain ⟨-, hkind⟩ := registry_emergency spec hspec hgroup
  rcases hkind with ⟨-, hslot, hguard, -, -⟩ | ⟨htype, hslot⟩
  · rcases hkind' with ⟨-, hs, -⟩ | ⟨-, hs⟩
    · exact hfree b hb (by rw [hslot', hs, hslot])
    · exact (hguards _ hguard id rfl).2 b hb (by rw [hslot', hs])
  · rcases hkind' with ⟨-, hs, -, hlen, habsent⟩ | ⟨-, hs⟩
    · simp only [Chosen, htype] at hchosen
      obtain ⟨id', heq, hattached⟩ := hchosen
      cases heq
      have hfirst : b.idx = 0 := by omega
      have hrole := hplaced b hb spec' id hspec' (by rw [hslot', hs])
      rw [hfirst, habsent] at hrole
      rw [mem_attached] at hattached
      rw [Content.role] at hrole
      cases hseat : m.content.seats id with
      | none => simp [hseat] at hattached
      | some s =>
        rw [hseat] at hrole
        simp only [memberRole] at hrole
        split at hrole <;> cases hrole
    · exact hfree b hb (by rw [hslot', hs, hslot])

variable {ev : MeshEvent}

theorem MeshStep.lone {before : List MeshEvent}
    (hstep : MeshStep env before m ev m') (hcoherent : m.Coherent) (hplaced : m.Placed)
    (h : m.Lone) : m'.Lone := by
  cases hstep with
  | advance hactive =>
    -- only the step index and the revision of one transition differ
    unfold Mesh.Lone at h ⊢
    rw [hactive, pairwise_append, pairwise_cons] at h
    obtain ⟨h1, ⟨h2, h3⟩, h4⟩ := h
    have hmoved := fun b hb => h4 b hb _ mem_cons_self
    rw [Mesh.moved, pairwise_append, pairwise_cons]
    refine ⟨h1, ⟨h2, h3⟩, fun b hb b' hb' => ?_⟩
    rcases mem_cons.mp hb' with rfl | hb'
    · exact hmoved b hb
    · exact h4 b hb b' (mem_cons_of_mem _ hb')
  | complete hactive => exact h.sublist (dropped_sublist _ hactive)
  | dispatch => exact h
  | cancel _ _ _ hcancel =>
    cases hcancel with
    | cancel hactive => exact h.sublist (dropped_sublist _ hactive)
  | create hspec hchosen _ hcreate =>
    cases hcreate with
    | create _ hguards hfree =>
      refine pairwise_append.mpr ⟨h, pairwise_singleton _ _, ?_⟩
      intro b hb b' hb'
      rw [mem_singleton.mp hb']
      rintro id hbid hid ⟨hbgroup, hgroup⟩
      have hx : _ = some id := hid
      subst hx
      exact emergency_unshared hcoherent hplaced hspec hgroup hchosen hguards
        (hfree id rfl) hb hbid hbgroup

structure Mesh.Regular (m : Mesh) : Prop where
  coherent : m.Coherent
  placed : m.Placed
  based : m.Based
  accounted : m.Accounted
  lone : m.Lone

theorem MeshStep.regular {before : List MeshEvent}
    (hstep : MeshStep env before m ev m') (h : m.Regular) : m'.Regular :=
  ⟨hstep.coherent h.coherent, hstep.placed h.coherent h.placed, hstep.based h.coherent h.based,
    hstep.accounted h.coherent h.accounted, hstep.lone h.coherent h.placed h.lone⟩

theorem MeshRun.regular {evs : List MeshEvent} (hrun : MeshRun env m evs m')
    (h : m.Regular) : m'.Regular := by
  induction hrun with
  | refl => exact h
  | step _ hstep ih => exact hstep.regular ih

theorem Mesh.Regular.unshared (h : m.Regular) : m.active.Pairwise Unshared := by
  refine (pairwise_and_iff.mpr ⟨h.coherent.apart, h.lone⟩).imp_of_mem ?_
  rintro a b ha hb ⟨hcompatible, hlone⟩
  refine ⟨?_, ?_, hlone⟩
  · rintro ⟨hna, hnb⟩
    have hserial := hcompatible.group (hna.trans hnb.symm)
    rw [hna] at hserial
    cases hserial
  · rintro id hida hidb ⟨hga, hgb⟩
    exact hcompatible.slot _ (((h.coherent.known a ha).slot_of_group hida).1 hga)
      (((h.coherent.known b hb).slot_of_group hidb).1 hgb)

def headerOf (t : Transition) : Transition := { t with steps := [] }

/-- The part of the tracker that admission to the abstract datamesh does not
read. -/
@[ext]
structure Books where
  gaining : Finset ReplicaID
  emergency : Finset ReplicaID
  networks : Option Transition

namespace Books

def add (b : Books) (t : Transition) : Books :=
  match t.group with
  | .network => { b with networks := if t.type = .changeSystemNetworks then some t else b.networks }
  | .votingMembership | .nonVotingMembership => { b with gaining := b.gaining ∪ diskGainingIDs t }
  | .emergency => { b with emergency := b.emergency ∪ idOf t }
  | _ => b

def remove (b : Books) (t : Transition) : Books :=
  match t.group with
  | .network => { b with networks := none }
  | .votingMembership | .nonVotingMembership => { b with gaining := b.gaining \ diskGainingIDs t }
  | .emergency => { b with emergency := b.emergency \ idOf t }
  | _ => b

end Books

def GlobalContext.books (g : GlobalContext) : Books :=
  ⟨g.diskGainingMembershipTransitions, g.emergencyTransitions,
    g.changeSystemNetworksTransition.map headerOf⟩

theorem trackerAdd_books (g : GlobalContext) (t : Transition) :
    (trackerAdd g t).books = g.books.add (headerOf t) := by
  have hgroup : (headerOf t).group = t.group := rfl
  unfold trackerAdd Books.add
  rw [hgroup]
  cases t.group <;> try rfl
  change Books.mk _ _ (Option.map _ (if t.type = .changeSystemNetworks then some t else _)) = _
  rw [apply_ite (Option.map headerOf)]
  rfl

theorem trackerRemove_books (g : GlobalContext) (t : Transition) :
    (trackerRemove g t).books = g.books.remove (headerOf t) := by
  have hgroup : (headerOf t).group = t.group := rfl
  unfold trackerRemove Books.remove
  rw [hgroup]
  cases t.group <;> rfl

def changesNetworks (t : Transition) : Bool := t.group = .network && t.type = .changeSystemNetworks

def GainsDisk (t : Transition) (id : ReplicaID) : Prop :=
  (t.group = .votingMembership ∨ t.group = .nonVotingMembership) ∧
    isDiskGainingTransition t = true ∧ t.replica = some id

structure Tally (b : Books) (ts : List Transition) : Prop where
  gaining : ∀ id, id ∈ b.gaining ↔ ∃ t ∈ ts, GainsDisk t id
  emergency : ∀ id, id ∈ b.emergency ↔ ∃ t ∈ ts, t.group = .emergency ∧ t.replica = some id
  networks : b.networks = ts.reverse.find? changesNetworks

theorem mem_diskGainingIDs :
    id ∈ diskGainingIDs t ↔ isDiskGainingTransition t = true ∧ t.replica = some id := by
  unfold diskGainingIDs
  split_ifs with h
  · simp [h, mem_idOf]
  · simp [h]

theorem tally_nil (b : Books) (hg : b.gaining = ∅) (he : b.emergency = ∅)
    (hn : b.networks = none) : Tally b [] := by
  constructor <;> simp [hg, he, hn]

theorem Tally.add {b : Books} {ts : List Transition} (h : Tally b ts) (t : Transition) :
    Tally (b.add t) (ts ++ [t]) := by
  obtain ⟨hgain, hemergency, hnetworks⟩ := h
  have hlast : ∀ p : Transition → Prop, (∃ t' ∈ ts ++ [t], p t') ↔ (∃ t' ∈ ts, p t') ∨ p t := by
    simp [or_and_right, exists_or]
  constructor
  · intro id
    rw [hlast fun t' => GainsDisk t' id, ← hgain id, GainsDisk]
    unfold Books.add
    cases hg : t.group <;> simp [mem_diskGainingIDs]
  · intro id
    rw [hlast fun t' => t'.group = .emergency ∧ t'.replica = some id, ← hemergency id]
    unfold Books.add
    cases hg : t.group <;> simp [mem_idOf]
  · rw [reverse_append, reverse_singleton, singleton_append, List.find?_cons, ← hnetworks]
    unfold Books.add changesNetworks
    cases hg : t.group <;> simp
    by_cases htype : t.type = .changeSystemNetworks <;> simp [htype]

theorem Tally.remove {b : Books} {l1 l2 : List Transition} (h : Tally b (l1 ++ t :: l2))
    (halone : ∀ t' ∈ l1 ++ l2, Unshared (activeOf t) (activeOf t')) :
    Tally (b.remove t) (l1 ++ l2) := by
  obtain ⟨hgain, hemergency, hnetworks⟩ := h
  have hsplit : ∀ p : Transition → Prop,
      (∃ t' ∈ l1 ++ t :: l2, p t') ↔ (∃ t' ∈ l1 ++ l2, p t') ∨ p t := by
    intro p
    simp only [mem_append, mem_cons, or_and_right, exists_or, exists_eq_left, or_assoc]
    rw [or_comm (a := p t)]
  constructor
  · intro id
    have hmem := (hgain id).trans (hsplit fun t' => GainsDisk t' id)
    have hother : GainsDisk t id → ¬∃ t' ∈ l1 ++ l2, GainsDisk t' id := by
      rintro ⟨hmember, -, hid⟩ ⟨t', ht', hmember', -, hid'⟩
      exact (halone t' ht').membership id hid hid' ⟨hmember, hmember'⟩
    generalize (∃ t' ∈ l1 ++ l2, GainsDisk t' id) = others at hmem hother ⊢
    rw [GainsDisk] at hmem hother
    unfold Books.remove
    cases hg : t.group <;> simp [hg, mem_diskGainingIDs] at hmem hother ⊢ <;> tauto
  · intro id
    have hmem := (hemergency id).trans
      (hsplit fun t' => t'.group = .emergency ∧ t'.replica = some id)
    have hother : t.group = .emergency ∧ t.replica = some id →
        ¬∃ t' ∈ l1 ++ l2, t'.group = .emergency ∧ t'.replica = some id := by
      rintro ⟨hmember, hid⟩ ⟨t', ht', hmember', hid'⟩
      exact (halone t' ht').emergency id hid hid' ⟨hmember, hmember'⟩
    generalize (∃ t' ∈ l1 ++ l2, t'.group = .emergency ∧ t'.replica = some id) = others
      at hmem hother ⊢
    unfold Books.remove
    cases hg : t.group <;> simp [hg, mem_idOf] at hmem hother ⊢ <;> tauto
  · by_cases hnet : t.group = .network
    · have hnone : (l1 ++ l2).reverse.find? changesNetworks = none := by
        rw [List.find?_eq_none]
        intro t' ht' hchange
        rw [mem_reverse] at ht'
        simp only [changesNetworks, Bool.and_eq_true, decide_eq_true_eq] at hchange
        exact (halone t' ht').network ⟨hnet, hchange.1⟩
      rw [hnone, Books.remove, hnet]
    · have hsame : (b.remove t).networks = b.networks := by
        unfold Books.remove
        cases hg : t.group <;> first | rfl | exact absurd hg hnet
      have hskip : changesNetworks t = false := by simp [changesNetworks, hnet]
      rw [hsame, hnetworks]
      simp [List.find?_append, hskip]

def headers (e : Engine GlobalContext) : List Transition :=
  e.transitions.map fun k => headerOf (e.heap k)

structure Untouched (g g' : GlobalContext) : Prop where
  books : g'.books = g.books
  slots : g'.slotAt = g.slotAt

theorem modify_books (g : GlobalContext) (r : Ref) (f : ReplicaContext → ReplicaContext) :
    (g.modify r f).books = g.books := by
  cases r <;> rfl

theorem untouched_of_silent (h : g'.silent = g.silent) : Untouched g g' := by
  have hbooks := congrArg GlobalContext.books h
  refine ⟨hbooks, ?_⟩
  funext slot id
  exact getActive_silent slot h (.replica id)

variable {changed : Bool}

theorem apply_untouched {a : Apply} (h : a.run g rctx = some (g', changed)) : Untouched g g' := by
  have hmasked := (apply_spares h).masked
  have hbooks := congrArg GlobalContext.books hmasked
  refine ⟨hbooks, ?_⟩
  funext slot id
  have hcontext := congrFun (congrArg GlobalContext.replicas hmasked) id
  cases slot with
  | membershipSlot =>
    have hslot := congrArg ReplicaContext.membershipTransition hcontext
    exact hslot
  | attachmentSlot =>
    have hslot := congrArg ReplicaContext.attachmentTransition hcontext
    exact hslot

theorem applies_untouched {as : List Apply}
    (h : runApplies as g rctx = some (g', changed)) : Untouched g g' := by
  induction as generalizing g changed with
  | nil =>
    cases h
    exact ⟨rfl, rfl⟩
  | cons a as ih =>
    obtain ⟨g1, c1, c2, h1, h2, rfl⟩ := runApplies_cons h
    have hfirst := apply_untouched h1
    have hrest := ih h2
    exact ⟨hrest.books.trans hfirst.books, hrest.slots.trans hfirst.slots⟩

/-- Neither the books nor the heads of the transitions differ, and no slot was
filled. -/
structure Steady (e e' : Engine GlobalContext) : Prop where
  books : e'.global.books = e.global.books
  transitions : e'.transitions = e.transitions
  next : e'.next = e.next
  log : e'.log = e.log
  heads : ∀ k, headerOf (e'.heap k) = headerOf (e.heap k)
  slots : ∀ slot id ref, e'.global.slotAt slot id = some ref → e.global.slotAt slot id = some ref

theorem Steady.refl (e : Engine GlobalContext) : Steady e e :=
  ⟨rfl, rfl, rfl, rfl, fun _ => rfl, fun _ _ _ h => h⟩

theorem Steady.trans {e1 e2 e3 : Engine GlobalContext} (h : Steady e1 e2) (h' : Steady e2 e3) :
    Steady e1 e3 :=
  ⟨h'.books.trans h.books, h'.transitions.trans h.transitions, h'.next.trans h.next,
    h'.log.trans h.log, fun k => (h'.heads k).trans (h.heads k),
    fun slot id ref href => h.slots slot id ref (h'.slots slot id ref href)⟩

theorem Steady.headers {e e' : Engine GlobalContext} (h : Steady e e') :
    headers e' = headers e := by
  simp only [Datamesh.headers, h.transitions, h.heads]

theorem steady_global {e : Engine GlobalContext} (h : Untouched e.global g) :
    Steady e { e with global := g } :=
  ⟨h.books, rfl, rfl, rfl, fun _ => rfl, fun slot id ref href => by rwa [← h.slots]⟩

theorem steady_store {e : Engine GlobalContext} {k : ℕ} (h : headerOf t = headerOf (e.heap k)) :
    Steady e (e.store k t) := by
  refine ⟨rfl, rfl, rfl, rfl, fun k' => ?_, fun _ _ _ href => href⟩
  by_cases hk : k' = k
  · subst hk
    simpa [Engine.store] using h
  · simp [Engine.store, hk]

section
variable {spec : PlanSpec} {e e' : Engine GlobalContext} {k idx : ℕ} {rctx : Option Ref}

theorem steady_setStatus (spec : PlanSpec) (rctx : Option Ref) (message : String)
    (details : Option String) (e : Engine GlobalContext) :
    Steady e (setStatus spec.plan rctx message details e) := by
  cases rctx with
  | none => exact .refl e
  | some r =>
    exact steady_global (untouched_of_silent (setStatus_silent spec.slot e.global r message details))

theorem setActive_books (spec : PlanSpec) (rctx : Option Ref) (ref : Option ActiveRef)
    (e : Engine GlobalContext) : (setActive spec.plan rctx ref e).global.books = e.global.books := by
  cases rctx with
  | none => rfl
  | some r =>
    change (spec.slot.accessor.setActiveTransition e.global r ref).books = _
    cases spec.slot
    · exact modify_books e.global r _
    · exact modify_books e.global r _

theorem setActive_slots (spec : PlanSpec) (rctx : Option Ref) (ref : Option ActiveRef)
    (e : Engine GlobalContext) {slot : SlotID} {id : ReplicaID} {ref' : ActiveRef}
    (h : (setActive spec.plan rctx ref e).global.slotAt slot id = some ref') :
    ref = some ref' ∨ e.global.slotAt slot id = some ref' := by
  cases rctx with
  | none => exact .inr h
  | some r =>
    change (spec.slot.accessor.setActiveTransition e.global r ref).slotAt slot id = _ at h
    cases r with
    | replica id' =>
      rw [setActiveTransition_slotAt] at h
      split_ifs at h
      · exact .inl h
      · exact .inr h
    | orphan n =>
      rw [setActiveTransition_orphan_slotAt] at h
      exact .inr h

theorem setActive_rest (spec : PlanSpec) (rctx : Option Ref) (ref : Option ActiveRef)
    (e : Engine GlobalContext) : (setActive spec.plan rctx ref e).transitions = e.transitions ∧
      (setActive spec.plan rctx ref e).next = e.next ∧
      (setActive spec.plan rctx ref e).log = e.log ∧
      (setActive spec.plan rctx ref e).heap = e.heap := by
  cases rctx <;> exact ⟨rfl, rfl, rfl, rfl⟩

theorem steady_clear (spec : PlanSpec) (rctx : Option Ref) (e : Engine GlobalContext) :
    Steady e (setActive spec.plan rctx none e) := by
  obtain ⟨htrans, hnext, hlog, hheap⟩ := setActive_rest spec rctx none e
  refine ⟨setActive_books spec rctx none e, htrans, hnext, hlog, fun k => by rw [hheap],
    fun slot id ref href => ?_⟩
  rcases setActive_slots spec rctx none e href with h | h
  · cases h
  · exact h

theorem steady_report {cr : ConfirmResult} {mc : Bool}
    (h : confirmAndReport domain spec.plan e k rctx idx = some (e', cr, mc)) : Steady e e' := by
  obtain ⟨step, s, raw, composed, -, -, -, rfl⟩ := confirmAndReport_eq_some h
  have hstore : Steady e (e.store k ((e.heap k).setStep idx { s with message := raw })) :=
    steady_store rfl
  exact hstore.trans (steady_setStatus spec rctx composed step.details _)

theorem steady_apply (h : applyStep spec.plan e k rctx idx = some e') : Steady e e' := by
  obtain ⟨step, s, g, changed, hstep, -, happly, rfl⟩ := applyStep_eq_some h
  obtain ⟨s', -, rfl⟩ := plan_step hstep
  obtain ⟨-, htrans, hnext, hlog, hheads, -⟩ := steady_store (e := e) (k := k)
    (t := (e.heap k).setStep idx
      { s with datameshRevision := if changed then e.revision + 1 else e.revision }) rfl
  have huntouched := applies_untouched happly
  refine ⟨huntouched.books, htrans, hnext, hlog, hheads, fun slot id ref href => ?_⟩
  change g.slotAt slot id = some ref at href
  rwa [huntouched.slots] at href

structure Erased (e : Engine GlobalContext) (k : ℕ) (e' : Engine GlobalContext) : Prop where
  books : e'.global.books = e.global.books.remove (headerOf (e.heap k))
  transitions : e'.transitions = e.transitions.erase k
  log : e'.log = e.log
  heads : ∀ k', headerOf (e'.heap k') = headerOf (e.heap k')
  slots : ∀ slot id ref, e'.global.slotAt slot id = some ref → e.global.slotAt slot id = some ref

theorem erased_delete (e : Engine GlobalContext) (k : ℕ) :
    Erased e k (deleteTransition domain e k) := by
  refine ⟨trackerRemove_books e.global (e.heap k), rfl, rfl, fun _ => rfl,
    fun slot id ref href => ?_⟩
  change (trackerRemove e.global (e.heap k)).slotAt slot id = some ref at href
  rwa [trackerRemove_slotAt] at href

variable {e1 : Engine GlobalContext}

theorem Erased.after (h : Steady e e1) (h' : Erased e1 k e') : Erased e k e' := by
  refine ⟨?_, ?_, h'.log.trans h.log, fun k' => (h'.heads k').trans (h.heads k'),
    fun slot id ref href => h.slots slot id ref (h'.slots slot id ref href)⟩
  · rw [h'.books, h.books, h.heads]
  · rw [h'.transitions, h.transitions]

theorem Erased.before (h : Erased e k e1) (h' : Steady e1 e') : Erased e k e' := by
  refine ⟨h'.books.trans h.books, h'.transitions.trans h.transitions,
    h'.log.trans h.log, fun k' => ?_, fun slot id ref href => ?_⟩
  · exact (h'.heads k').trans (h.heads k')
  · exact h.slots slot id ref (h'.slots slot id ref href)

theorem erased_complete (h : completeTransition domain spec.plan e k rctx = some e') :
    Erased e k e' := by
  obtain ⟨g, hg, rfl⟩ := completeTransition_eq_some h
  have hglobal : Steady e { e with global := g } := steady_global (untouched_of_silent (onComplete_silent hg))
  exact .after (hglobal.trans (steady_clear spec rctx _)) (erased_delete _ k)

end

def Recorded (e₁ e' : Engine GlobalContext) : Prop :=
  e' = e₁ ∨ ∃ before kind t, kind ≠ .created ∧ e' = e₁.record before kind t

theorem steady_onComplete {e : Engine GlobalContext} {idx : ℕ}
    {step : Step GlobalContext Ref} (hstep : spec.plan.steps[idx]? = some step)
    (hcomp : step.onComplete e.global rctx = some g) : Steady e { e with global := g } := by
  obtain ⟨s, -, rfl⟩ := plan_step hstep
  simp only [StepSpec.step, Option.map_eq_some_iff, Prod.exists] at hcomp
  obtain ⟨g', changed, hcomp, rfl⟩ := hcomp
  exact steady_global (applies_untouched hcomp)

theorem settled_books {e e' : Engine GlobalContext} {k : ℕ} {c p : Bool}
    (h : Settled domain e k e' c p) :
    ∃ e1, (Steady e e1 ∨ Erased e k e1) ∧ Recorded e1 e' := by
  cases h with
  | unknown => exact ⟨e, .inl (.refl e), .inl rfl⟩
  | finished hget _ hdone =>
    obtain ⟨spec, -, rfl⟩ := domain_get hget
    exact ⟨_, .inr (erased_complete hdone), .inr ⟨_, _, _, by simp, rfl⟩⟩
  | waiting hget _ hconf =>
    obtain ⟨spec, -, rfl⟩ := domain_get hget
    exact ⟨_, .inl (steady_report hconf), .inl rfl⟩
  | @advanced p idx e1 cr mc step g e3 e4 cr' mc' hget _ hconf _ hstep hcomp _ happly hreport =>
    obtain ⟨spec, -, rfl⟩ := domain_get hget
    have hglobal := steady_onComplete hstep hcomp
    have hstore : Steady { e1 with global := g } (({ e1 with global := g } :
        Engine GlobalContext).store k (advanceStep (e1.heap k) idx)) := steady_store rfl
    have hall := (steady_report hconf).trans (hglobal.trans (hstore.trans
      ((steady_apply happly).trans (steady_report hreport))))
    exact ⟨_, .inl hall, .inr ⟨_, _, _, by simp, rfl⟩⟩
  | @completed p idx e1 cr mc step g e3 hget _ hconf _ hstep hcomp _ hdone =>
    obtain ⟨spec, -, rfl⟩ := domain_get hget
    have hall := Erased.after ((steady_report hconf).trans (steady_onComplete hstep hcomp))
      (erased_complete hdone)
    exact ⟨_, .inr hall, .inr ⟨_, _, _, by simp, rfl⟩⟩

theorem cancelActive_books (spec : PlanSpec) (rctx : Option Ref) (e : Engine GlobalContext) :
    ∃ e1, (Steady e e1 ∨ ∃ k ∈ e.transitions, Erased e k e1) ∧
      Recorded e1 (cancelActive domain spec.plan rctx e) := by
  unfold cancelActive
  split
  · next r _ =>
      split
      · exact ⟨e, .inl (.refl e), .inl rfl⟩
      · next ref _ =>
          split
          · next hlive =>
              have hall := (erased_delete e ref.ptr).before (steady_clear spec (some r) _)
              exact ⟨_, .inr ⟨ref.ptr, hlive, hall⟩, .inr ⟨_, _, _, by simp, rfl⟩⟩
          · exact ⟨_, .inl (steady_clear spec (some r) e), .inl rfl⟩
  · exact ⟨e, .inl (.refl e), .inl rfl⟩

structure Inserted (e : Engine GlobalContext) (t : Transition) (e' : Engine GlobalContext) :
    Prop where
  books : e'.global.books = e.global.books.add (headerOf t)
  transitions : e'.transitions = e.transitions ++ [e.next]
  log : e'.log = e.log
  fresh : headerOf (e'.heap e.next) = headerOf t
  heads : ∀ k, k ≠ e.next → headerOf (e'.heap k) = headerOf (e.heap k)
  slots : ∀ slot id ref, e'.global.slotAt slot id = some ref →
    ref = ⟨e.next, t⟩ ∨ e.global.slotAt slot id = some ref

theorem inserted_insert (spec : PlanSpec) (rctx : Option Ref) (t : Transition)
    (e : Engine GlobalContext) : Inserted e t (insertTransition domain spec.plan rctx t e) := by
  obtain ⟨e1, he1⟩ : ∃ e1 : Engine GlobalContext, e1 = { e.store e.next t with
      transitions := e.transitions ++ [e.next], next := e.next + 1 } := ⟨_, rfl⟩
  obtain ⟨htrans, -, hlog, hheap⟩ := setActive_rest spec rctx (some ⟨e.next, t⟩) e1
  have hinsert : insertTransition domain spec.plan rctx t e =
      { setActive spec.plan rctx (some ⟨e.next, t⟩) e1 with
        global := trackerAdd (setActive spec.plan rctx (some ⟨e.next, t⟩) e1).global t } := by
    rw [he1]
    rfl
  rw [hinsert]
  constructor
  · rw [trackerAdd_books, setActive_books, he1]
    rfl
  · rw [htrans, he1]
  · rw [hlog, he1]
    rfl
  · rw [hheap, he1]
    simp [Engine.store]
  · intro k hk
    rw [hheap, he1]
    simp [Engine.store, hk]
  · intro slot id ref href
    rw [trackerAdd_slotAt] at href
    rcases setActive_slots spec rctx _ e1 href with h | h
    · exact .inl (Option.some.inj h).symm
    · rw [he1] at h
      exact .inr h

theorem Inserted.between {e e1 e2 e' : Engine GlobalContext} (h : Steady e e1)
    (h' : Inserted e1 t e2) (h'' : Steady e2 e') : Inserted e t e' := by
  constructor
  · rw [h''.books, h'.books, h.books]
  · rw [h''.transitions, h'.transitions, h.transitions, h.next]
  · rw [h''.log, h'.log, h.log]
  · rw [h''.heads, ← h.next, h'.fresh]
  · intro k hk
    rw [← h.next] at hk
    rw [h''.heads, h'.heads k hk, h.heads]
  · intro slot id ref href
    rw [← h.next]
    exact (h'.slots slot id ref (h''.slots slot id ref href)).imp_right (h.slots slot id ref)

theorem canAdmit_gaining (h : (canAdmit g t).allowed = true)
    (hgain : isDiskGainingTransition t = true)
    (hgroup : t.group = .votingMembership ∨ t.group = .nonVotingMembership) :
    g.hasResizeTransition = false := by
  by_contra hresize
  rw [Bool.not_eq_false] at hresize
  have hrefused : (admitGroup g t).allowed = false := by
    unfold admitGroup
    rcases hgroup with hgroup | hgroup
    · simp only [hgroup]
      split_ifs <;> simp_all [refuse]
    · simp [hgroup, hgain, hresize, refuse]
  unfold canAdmit at h
  rcases hgroup with hgroup | hgroup <;> simp only [hgroup] at h <;> split_ifs at h <;> simp_all

theorem canAdmit_resize (h : (canAdmit g t).allowed = true) (hgroup : t.group = .resize) :
    g.diskGainingMembershipTransitions = ∅ := by
  by_contra hgain
  have hrefused : (admitGroup g t).allowed = false := by
    simp only [admitGroup, hgroup]
    split_ifs <;> simp_all [refuse]
  unfold canAdmit at h
  simp only [hgroup] at h
  split_ifs at h <;> simp_all

variable {x : Option ReplicaID} {planID : PlanID}

theorem init_gaining {t' : Transition} (h : spec.init.run g (stubTransition spec.plan x) = some t)
    (h' : spec.init.run g (blankTransition spec.plan planID x) = some t') :
    isDiskGainingTransition t = isDiskGainingTransition t' := by
  cases hinit : spec.init with
  | nothing | setReplicaType | setReplicaFromToType =>
    rw [hinit] at h h'
    cases h
    cases h'
    rfl
  | setSystemNetworks =>
    rw [hinit] at h h'
    simp only [Init.run, setSystemNetworks, Option.bind_eq_bind, Option.bind_eq_some_iff,
      Option.some.injEq] at h h'
    obtain ⟨_, -, rfl⟩ := h
    obtain ⟨_, -, rfl⟩ := h'
    rfl

theorem registry_gaining : ∀ spec ∈ registry,
    spec.transitionType = .addReplica ∨ spec.transitionType = .changeReplicaType →
    spec.scope = .replica ∧
      (spec.group = .votingMembership ∨ spec.group = .nonVotingMembership) := by
  decide +kernel

theorem gaining_type (h : isDiskGainingTransition t = true) :
    t.type = .addReplica ∨ t.type = .changeReplicaType := by
  unfold isDiskGainingTransition at h
  split at h
  · next htype => exact .inl htype
  · next htype => exact .inr htype
  · cases h

theorem gainsDisk_of_known {a : Active} (h : a.Known) (htype : a.type = t.type)
    (hgroup : a.group = t.group) (hreplica : a.replica = t.replica)
    (hgain : isDiskGainingTransition t = true) : ∃ id, GainsDisk t id := by
  have htype' := gaining_type hgain
  rw [← htype] at htype'
  rcases h with ⟨hform, -, -⟩ | ⟨spec, hspec, hg, hscope, -⟩
  · rw [hform] at htype'
    simp at htype'
  · obtain ⟨hmem, hspecType, -⟩ := lookup_eq_some hspec
    obtain ⟨hreplicaScope, hmember⟩ := registry_gaining spec hmem (hspecType ▸ htype')
    obtain ⟨id, hid⟩ := Option.isSome_iff_exists.mp (hscope.mp hreplicaScope)
    exact ⟨id, by rw [← hgroup, hg]; exact hmember, hgain, hreplica.symm.trans hid⟩

def typesOf (t : Transition) : Option ReplicaType × Option ReplicaType × Option ReplicaType :=
  (t.replicaType, t.fromReplicaType, t.toReplicaType)

def Init.types : Init → Option ReplicaType × Option ReplicaType × Option ReplicaType
  | .setReplicaType type => (some type, none, none)
  | .setReplicaFromToType source target => (none, some source, some target)
  | .nothing | .setSystemNetworks => (none, none, none)

theorem init_types (h : spec.init.run g (blankTransition spec.plan planID x) = some t) :
    typesOf t = spec.init.types := by
  cases hinit : spec.init with
  | setSystemNetworks =>
    rw [hinit] at h
    simp only [Init.run, setSystemNetworks, Option.bind_eq_bind, Option.bind_eq_some_iff,
      Option.some.injEq] at h
    obtain ⟨_, -, rfl⟩ := h
    rfl
  | _ =>
    rw [hinit] at h
    cases h
    rfl

def Typed (t : Transition) : Prop :=
  ∀ spec, lookup t.type t.planID = some spec → typesOf t = spec.init.types

structure Admits (e : Engine GlobalContext) (t : Transition) : Prop where
  gaining : isDiskGainingTransition t = true →
    t.group = .votingMembership ∨ t.group = .nonVotingMembership →
    e.global.hasResizeTransition = false
  resize : t.group = .resize → e.global.books.gaining = ∅
  typed : Typed t

theorem dispatched_books {e e' : Engine GlobalContext}
    {c : Bool} (hg : Anchored e.global) (hspec : spec ∈ registry)
    (hx : x = if spec.scope = .replica then rctx.bind e.global.replicaName else none)
    (hglobal : spec.scope ≠ .replica → rctx = none)
    (h : Dispatched domain spec.plan spec.planID rctx e e' c) :
    Steady e e' ∨ ∃ e1 t g result, Inserted e t e1 ∧ Admits e t ∧ Started spec x t ∧
      (∀ id, x = some id → rctx = some (.replica id)) ∧
      evaluateGuards rctx spec.plan.guards e.global = some (result, g) ∧
      result.blocked = false ∧
      e' = e1.record { e with global := g } .created (e1.heap e.next) := by
  cases h with
  | conflict =>
    left
    unfold reportConflict
    dsimp only
    split_ifs
    · exact .refl e
    · exact steady_setStatus spec rctx _ _ e
  | @blocked _ g message details hguards =>
    have hsteady : Steady e { e with global := g } :=
      steady_global (untouched_of_silent (evaluateGuards_silent hguards))
    exact .inl (hsteady.trans (steady_setStatus spec rctx message details _))
  | @created _ g replica tempT t _ _ _ _ _ hguards hpass hreplica htemp hallowed hnamed hinit
      happly hreport =>
      have hsilent := evaluateGuards_silent hguards
      have hagree := Agree.of_silent (evaluateGuards_silent hguards)
      obtain rfl : replica = x := hreplica.trans ((subject_of_agree hg hagree).trans hx.symm)
      have hsteady : Steady e { e with global := g } := steady_global (untouched_of_silent hsilent)
      have hinsert := Inserted.between hsteady
        (inserted_insert spec rctx t { e with global := g })
        ((steady_apply happly).trans (steady_report hreport))
      have hgain : isDiskGainingTransition tempT = isDiskGainingTransition t :=
        init_gaining htemp hinit
      have hgroup : tempT.group = t.group :=
        (init_run_head htemp).2.2.1.trans (init_run_head hinit).2.2.1.symm
      have hresize : g.hasResizeTransition = e.global.hasResizeTransition := by
        have hflag := congrArg GlobalContext.hasResizeTransition hsilent
        exact hflag
      have hbooks : g.books.gaining = e.global.books.gaining :=
        congrArg Books.gaining (untouched_of_silent hsilent).books
      have hstarted := started_of_init hinit
      refine .inr ⟨_, t, g, _, hinsert, ⟨?_, ?_, ?_⟩, hstarted,
        (denotes_of_scope hg hx hglobal hnamed).2.1, hguards, hpass, rfl⟩
      · rw [← hgain, ← hgroup, ← hresize]
        exact canAdmit_gaining hallowed
      · rw [← hgroup, ← hbooks]
        exact canAdmit_resize hallowed
      · intro spec' hspec'
        rw [hstarted.type, hstarted.planID, lookup_of_mem spec hspec, Option.some.injEq] at hspec'
        rw [← hspec']
        exact init_types hinit

end ReplicatedVolume.Datamesh
