import ReplicatedVolume.Mesh.Decisions

/-!
# The engine's data structures

Pointers, slots, tracker and contexts of an engine fit together. The elementary
operations of the engine keep this, and each of them acts on the abstract
datamesh in one way.
-/

namespace ReplicatedVolume.Datamesh
open Dmte List

variable {e : Engine GlobalContext} {t : Transition} {k idx : ℕ} {e' : Engine GlobalContext}
  {g : GlobalContext} {g0 : GlobalContext} {l : List ℕ} {s : TransitionStep} {t' : Transition}

def activeAt (e : Engine GlobalContext) (k : ℕ) : Active := activeOf (e.heap k)

structure Linked (e : Engine GlobalContext) : Prop where
  nodup : e.transitions.Nodup
  fresh : ∀ k ∈ e.transitions, k < e.next
  steps : ∀ k ∈ e.transitions, ∀ spec, (activeAt e k).spec = some spec →
    (e.heap k).steps.length = spec.steps.length
  anchored : Anchored e.global
  tracks : Tracks e.global.tracker (e.transitions.map (activeAt e))
  forward : ∀ k ∈ e.transitions, ∀ slot id, (activeAt e k).slot = some (slot, id) →
    (e.global.replicas id).named = true →
    ∃ ref, e.global.slotAt slot id = some ref ∧ ref.ptr = k
  back : ∀ slot id ref, e.global.slotAt slot id = some ref → ref.ptr < e.next ∧
    (ref.ptr ∈ e.transitions → (activeAt e ref.ptr).slot = some (slot, id))

theorem meshOf_active (e : Engine GlobalContext) :
    (meshOf e).active = e.transitions.map (activeAt e) := by
  simp [meshOf, snapshotMesh, Engine.snapshot, Engine.active, activeAt, Function.comp_def]

theorem mem_active {k : ℕ} (hk : k ∈ e.transitions) : activeAt e k ∈ (meshOf e).active := by
  rw [meshOf_active]
  exact List.mem_map_of_mem hk

theorem Linked.free (h : Linked e) {slot : SlotID} {id : ReplicaID}
    (hnamed : (e.global.replicas id).named = true) (hslot : e.global.slotAt slot id = none) :
    (meshOf e).Free slot id := by
  intro a ha hslot'
  rw [meshOf_active] at ha
  obtain ⟨k, hk, rfl⟩ := mem_map.mp ha
  obtain ⟨ref, href, -⟩ := h.forward k hk slot id hslot' hnamed
  simp [hslot] at href

structure SameHead (t t' : Transition) : Prop where
  type : t'.type = t.type
  planID : t'.planID = t.planID
  group : t'.group = t.group
  replica : t'.replica = t.replica
  steps : t'.steps.length = t.steps.length

theorem SameHead.refl (t : Transition) : SameHead t t := ⟨rfl, rfl, rfl, rfl, rfl⟩

theorem SameHead.trans {t1 t2 t3 : Transition} (h : SameHead t1 t2) (h' : SameHead t2 t3) :
    SameHead t1 t3 :=
  ⟨h'.type.trans h.type, h'.planID.trans h.planID, h'.group.trans h.group,
    h'.replica.trans h.replica, h'.steps.trans h.steps⟩

theorem sameHead_setStep (t : Transition) (idx : ℕ) (s : TransitionStep) :
    SameHead t (t.setStep idx s) := ⟨rfl, rfl, rfl, rfl, setStep_length t idx s⟩

theorem sameHead_advanceStep (t : Transition) (idx : ℕ) : SameHead t (advanceStep t idx) :=
  ⟨rfl, rfl, rfl, rfl, advanceStep_length t idx⟩

theorem activeOf_eq (hidx : findCurrentStepIdx t = some idx)
    (hs : t.steps[idx]? = some s) :
    activeOf t = ⟨t.type, t.planID, t.group, t.replica, idx, s.datameshRevision⟩ := by
  simp [activeOf, hidx, hs]

theorem activeOf_setMessage (raw : String) (hs : t.steps[idx]? = some s) :
    activeOf (t.setStep idx { s with message := raw }) = activeOf t := by
  have hfind := findCurrentStepIdx_setStep { s with message := raw } hs rfl
  unfold activeOf
  rw [hfind, setStep_length]
  cases hcur : findCurrentStepIdx t with
  | none => rfl
  | some j =>
    by_cases hj : j = idx
    · subst hj
      simp only [Option.bind_some, setStep_getElem?_self, hs, Option.map_some]
      rfl
    · have hne : ¬idx = j := fun heq => hj heq.symm
      simp [Transition.setStep, hne]

theorem activeOf_advanced {rev : ℕ} {ts ts' : TransitionStep} (raw : String)
    (hidx : findCurrentStepIdx t = some idx) (hlt : idx + 1 < t.steps.length)
    (hts : t.steps[idx]? = some ts)
    (hts' : (advanceStep (t.setStep idx { ts with message := raw }) idx).steps[idx + 1]? = some
      ts') :
    activeOf ((advanceStep (t.setStep idx { ts with message := raw }) idx).setStep (idx + 1)
      { ts' with datameshRevision := rev }) =
      { activeOf t with idx := (activeOf t).idx + 1, revision := rev } := by
  have hidx1 : findCurrentStepIdx (t.setStep idx { ts with message := raw }) = some idx := by
    rw [findCurrentStepIdx_setStep { ts with message := raw } hts rfl, hidx]
  have hidx2 := findCurrentStepIdx_advanceStep hidx1 (by simpa using hlt)
  have hidx3 := findCurrentStepIdx_setStep { ts' with datameshRevision := rev } hts' rfl
  rw [hidx2] at hidx3
  have hts3 : ((advanceStep (t.setStep idx { ts with message := raw }) idx).setStep (idx + 1)
      { ts' with datameshRevision := rev }).steps[idx + 1]? =
        some { ts' with datameshRevision := rev } := by
    rw [setStep_getElem?_self, hts']
    rfl
  rw [activeOf_eq hidx3 hts3, activeOf_eq hidx hts]
  rfl

theorem SameHead.slot (h : SameHead t t') : (activeOf t').slot = (activeOf t).slot := by
  simp only [Active.slot, Active.spec, activeOf, h.type, h.planID, h.replica]

theorem SameHead.spec (h : SameHead t t') : (activeOf t').spec = (activeOf t).spec := by
  simp only [Active.spec, activeOf, h.type, h.planID]

theorem tracks_congr {t : Tracker} {f f' : ℕ → Active} (h : Tracks t (l.map f))
    (hgroup : ∀ k ∈ l, (f' k).group = (f k).group)
    (hreplica : ∀ k ∈ l, (f' k).replica = (f k).replica) : Tracks t (l.map f') := by
  have hhas : ∀ group, Has (l.map f') group ↔ Has (l.map f) group := by
    intro group
    simp only [Has, mem_map, exists_exists_and_eq_and]
    refine exists_congr fun k => and_congr_right fun hk => ?_
    rw [hgroup k hk]
  have hfor : ∀ group id, HasFor (l.map f') group id ↔ HasFor (l.map f) group id := by
    intro group id
    simp only [HasFor, mem_map, exists_exists_and_eq_and]
    refine exists_congr fun k => and_congr_right fun hk => ?_
    rw [hgroup k hk, hreplica k hk]
  obtain ⟨hf, hq, hm, hn, hr, hv, hnv, ha⟩ := h
  constructor <;> simp only [hhas, hfor] <;> assumption

theorem Linked.touch (h : Linked e)
    (htrans : e'.transitions = e.transitions) (hnext : e'.next = e.next)
    (hheap : ∀ k ∈ e.transitions, SameHead (e.heap k) (e'.heap k))
    (hfixed : e'.global.fixed = e.global.fixed) (htracker : e'.global.tracker = e.global.tracker)
    (hslots : e'.global.slotAt = e.global.slotAt) (hanchored : Anchored e'.global) : Linked e' := by
  constructor
  · rw [htrans]
    exact h.nodup
  · rw [htrans, hnext]
    exact h.fresh
  · rw [htrans]
    intro k hk spec hspec
    rw [activeAt, (hheap k hk).spec] at hspec
    rw [(hheap k hk).steps]
    exact h.steps k hk spec hspec
  · exact hanchored
  · rw [htrans, htracker]
    exact tracks_congr h.tracks (fun k hk => (hheap k hk).group) fun k hk => (hheap k hk).replica
  · rw [htrans, hslots]
    intro k hk slot id hslot hnamed
    rw [activeAt, (hheap k hk).slot] at hslot
    rw [(fixed_ids hfixed id).2.1] at hnamed
    exact h.forward k hk slot id hslot hnamed
  · rw [htrans, hslots, hnext]
    intro slot id ref href
    obtain ⟨hlt, hslot⟩ := h.back slot id ref href
    refine ⟨hlt, fun hmem => ?_⟩
    rw [activeAt, (hheap _ hmem).slot]
    exact hslot hmem

structure Touched (e : Engine GlobalContext) (k : ℕ) (e' : Engine GlobalContext) : Prop where
  transitions : e'.transitions = e.transitions
  next : e'.next = e.next
  log : e'.log = e.log
  others : ∀ k', k' ≠ k → e'.heap k' = e.heap k'
  head : SameHead (e.heap k) (e'.heap k)

theorem touched_store (g : GlobalContext) (rev : ℕ) (h : SameHead (e.heap k) t) :
    Touched e k { e.store k t with global := g, revision := rev } :=
  ⟨rfl, rfl, rfl, fun k' hk => by simp [Engine.store, hk], by simpa [Engine.store] using h⟩

theorem Linked.touched (h : Linked e) (ht : Touched e k e')
    (hfixed : e'.global.fixed = e.global.fixed) (htracker : e'.global.tracker = e.global.tracker)
    (hslots : e'.global.slotAt = e.global.slotAt) (hanchored : Anchored e'.global) : Linked e' := by
  refine h.touch ht.transitions ht.next (fun k' _ => ?_) hfixed htracker hslots hanchored
  by_cases hk : k' = k
  · exact hk ▸ ht.head
  · rw [ht.others k' hk]
    exact .refl _

theorem Linked.agree (h : Linked e) (hg : Agree e.global g) : Linked { e with global := g } :=
  h.touch rfl rfl (fun _ _ => .refl _) hg.fixed hg.tracker hg.slots (hg.anchored h.anchored)

theorem meshOf_agree (hg : Agree e.global g) : meshOf { e with global := g } = meshOf e := by
  have hpa : g.potentiallyAttached = e.global.potentiallyAttached :=
    congrArg Tracker.potentiallyAttached hg.tracker
  simp only [meshOf, snapshotMesh, Engine.snapshot, hg.content, hpa]
  rfl

theorem meshOf_record (e before : Engine GlobalContext) (kind : EventKind) (t : Transition) :
    meshOf (e.record before kind t) = meshOf e := rfl

theorem Linked.record (h : Linked e) (before : Engine GlobalContext) (kind : EventKind)
    (t : Transition) : Linked (e.record before kind t) :=
  h.touch rfl rfl (fun _ _ => .refl _) rfl rfl rfl h.anchored

theorem setStatus_eq (spec : PlanSpec) (rctx : Option Ref) (message : String)
    (details : Option String) (e : Engine GlobalContext) :
    ∃ g, Agree e.global g ∧ setStatus spec.plan rctx message details e = { e with global := g } := by
  cases rctx with
  | none => exact ⟨e.global, .refl _, rfl⟩
  | some r => exact ⟨_, .of_silent (setStatus_silent spec.slot e.global r message details), rfl⟩

structure SlotSet (spec : PlanSpec) (rctx : Option Ref) (ref : Option ActiveRef)
    (g g' : GlobalContext) : Prop where
  fixed : g'.fixed = g.fixed
  members : g'.member = g.member
  content : g'.content = g.content
  tracker : g'.tracker = g.tracker
  indexed : g'.indexed = g.indexed
  slots : ∀ slot id, g'.slotAt slot id =
    if rctx = some (.replica id) ∧ slot = spec.slot then ref else g.slotAt slot id

theorem setActive_eq (spec : PlanSpec) (rctx : Option Ref) (ref : Option ActiveRef)
    (e : Engine GlobalContext) :
    ∃ g, SlotSet spec rctx ref e.global g ∧
      setActive spec.plan rctx ref e = { e with global := g } := by
  cases rctx with
  | none => exact ⟨e.global, ⟨rfl, rfl, rfl, rfl, rfl, by simp⟩, rfl⟩
  | some r =>
    refine ⟨spec.slot.accessor.setActiveTransition e.global r ref,
      ⟨setActiveTransition_fixed _ _ _ _, setActiveTransition_member _ _ _ _,
        setActiveTransition_content _ _ _ _, setActiveTransition_tracker _ _ _ _,
        setActiveTransition_indexed _ _ _ _, ?_⟩, rfl⟩
    intro slot id
    cases r with
    | replica id' =>
      rw [setActiveTransition_slotAt]
      by_cases hslot : slot = spec.slot <;> by_cases hid : id = id' <;> simp [hslot, hid, eq_comm]
    | orphan n =>
      rw [setActiveTransition_orphan_slotAt]
      simp

theorem split_of_mem (hn : l.Nodup) (hk : k ∈ l) :
    ∃ l1 l2, l = l1 ++ k :: l2 ∧ k ∉ l1 ∧ k ∉ l2 ∧ l.erase k = l1 ++ l2 := by
  obtain ⟨l1, l2, rfl⟩ := append_of_mem hk
  have hdisj := nodup_append.mp hn
  have h1 : k ∉ l1 := fun hmem => hdisj.2.2 k hmem k (by simp) rfl
  have h2 : k ∉ l2 := (nodup_cons.mp hdisj.2.1).1
  refine ⟨l1, l2, rfl, h1, h2, ?_⟩
  rw [erase_append_right _ h1, erase_cons_head]

theorem trackerRemove_potentiallyAttached (g : GlobalContext) (t : Transition) :
    (trackerRemove g t).potentiallyAttached = (activeOf t).released g.potentiallyAttached := by
  unfold trackerRemove Active.released
  cases hg : t.group <;> simp [activeOf, hg, idOf]

theorem trackerAdd_potentiallyAttached (g : GlobalContext) (t : Transition) {a : Active}
    (hgroup : a.group = t.group) (hreplica : a.replica = t.replica) :
    (trackerAdd g t).potentiallyAttached = a.gained g.potentiallyAttached := by
  unfold trackerAdd Active.gained
  rw [hgroup, hreplica]
  cases hg : t.group <;> simp [idOf]

theorem Linked.erase (h : Linked e)
    (hcoherent : (meshOf e).Coherent) (hk : k ∈ e.transitions)
    (htrans : e'.transitions = e.transitions.erase k) (hnext : e'.next = e.next)
    (hheap : e'.heap = e.heap) (hfixed : e'.global.fixed = e.global.fixed)
    (hg0 : g0.tracker = e.global.tracker)
    (htracker : e'.global.tracker = (trackerRemove g0 (e.heap k)).tracker)
    (hkeep : ∀ slot id, (activeAt e k).slot ≠ some (slot, id) → e'.global.slotAt slot id =
      e.global.slotAt slot id)
    (hsub : ∀ slot id ref, e'.global.slotAt slot id = some ref → e.global.slotAt slot id = some
      ref) (hanchored : Anchored e'.global) : Linked e' := by
  have hact : activeAt e' = activeAt e := by
    funext k'
    rw [activeAt, hheap]
    rfl
  obtain ⟨l1, l2, hsplit, -, -, herase⟩ := split_of_mem h.nodup hk
  obtain ⟨hknown, hapart⟩ := hcoherent
  have htracks := h.tracks
  rw [meshOf_active, hsplit, map_append, map_cons] at hknown hapart
  rw [hsplit, map_append, map_cons] at htracks
  have hmem : ∀ k' ∈ l1 ++ l2, k' ∈ e.transitions := by
    intro k' hk'
    rw [hsplit]
    simp only [mem_append, mem_cons] at hk' ⊢
    tauto
  constructor
  · rw [htrans]
    exact h.nodup.erase k
  · rw [htrans, hnext]
    exact fun k' hk' => h.fresh k' (mem_of_mem_erase hk')
  · rw [htrans, hact, hheap]
    exact fun k' hk' => h.steps k' (mem_of_mem_erase hk')
  · exact hanchored
  · rw [htrans, herase, hact, htracker, map_append]
    rw [← hg0] at htracks
    exact htracks.remove hknown hapart rfl rfl
  · rw [htrans, herase, hact]
    intro k' hk' slot id hslot hnamed
    rw [(fixed_ids hfixed id).2.1] at hnamed
    have hcompat : Compatible (activeAt e k) (activeAt e k') :=
      compatible_of_split hapart (by
        rw [← map_append]
        exact mem_map_of_mem hk')
    rw [hkeep slot id fun heq => hcompat.slot _ heq hslot]
    exact h.forward k' (hmem k' hk') slot id hslot hnamed
  · rw [htrans, hact, hnext]
    intro slot id ref href
    obtain ⟨hlt, hslot⟩ := h.back slot id ref (hsub slot id ref href)
    exact ⟨hlt, fun hin => hslot (mem_of_mem_erase hin)⟩

theorem Linked.insert {spec : PlanSpec}
    (h : Linked e) (htrans : e'.transitions = e.transitions ++ [e.next])
    (hnext : e'.next = e.next + 1) (hheap : ∀ k ∈ e.transitions, e'.heap k = e.heap k)
    (hnew : e'.heap e.next = t) (hspec : (activeOf t).spec = some spec)
    (hsteps : t.steps.length = spec.steps.length) (hfixed : e'.global.fixed = e.global.fixed)
    (hg0 : g0.tracker = e.global.tracker) (htracker : e'.global.tracker = (trackerAdd g0 t).tracker)
    (hset : ∀ slot id, (activeOf t).slot = some (slot, id) → (meshOf e).Free slot id ∧
      e'.global.slotAt slot id = some ⟨e.next, t⟩)
    (hkeep : ∀ slot id, (activeOf t).slot ≠ some (slot, id) → e'.global.slotAt slot id =
      e.global.slotAt slot id) (hanchored : Anchored e'.global) : Linked e' := by
  have hact : ∀ k ∈ e.transitions, activeAt e' k = activeAt e k := by
    intro k hk
    rw [activeAt, hheap k hk]
    rfl
  have hactNew : activeAt e' e.next = activeOf t := by rw [activeAt, hnew]
  have hne : ∀ k ∈ e.transitions, k ≠ e.next := fun k hk heq => by
    have hlt := h.fresh k hk
    omega
  constructor
  · rw [htrans]
    refine nodup_append.mpr ⟨h.nodup, nodup_singleton _, ?_⟩
    intro k hk k' hk'
    rw [mem_singleton.mp hk']
    exact hne k hk
  · rw [htrans, hnext]
    intro k hk
    rcases mem_append.mp hk with hk | hk
    · have hlt := h.fresh k hk
      omega
    · rw [mem_singleton.mp hk]
      omega
  · rw [htrans]
    intro k hk spec' hspec'
    rcases mem_append.mp hk with hk | hk
    · rw [hheap k hk]
      rw [hact k hk] at hspec'
      exact h.steps k hk spec' hspec'
    · rw [mem_singleton.mp hk] at hspec' ⊢
      rw [hactNew, hspec, Option.some.injEq] at hspec'
      rw [hnew, hsteps, hspec']
  · exact hanchored
  · have hmap : (e.transitions ++ [e.next]).map (activeAt e') =
        e.transitions.map (activeAt e) ++ [activeOf t] := by
      rw [map_append, map_singleton, hactNew]
      congr 1
      exact map_congr_left hact
    rw [htrans, htracker, hmap]
    refine Tracks.add ?_ t rfl rfl
    rw [hg0]
    exact h.tracks
  · rw [htrans]
    intro k hk slot id hslot hnamed
    rw [(fixed_ids hfixed id).2.1] at hnamed
    rcases mem_append.mp hk with hk | hk
    · rw [hact k hk] at hslot
      have hother : (activeOf t).slot ≠ some (slot, id) := by
        intro heq
        refine (hset slot id heq).1 (activeAt e k) ?_ hslot
        rw [meshOf_active]
        exact mem_map_of_mem hk
      rw [hkeep slot id hother]
      exact h.forward k hk slot id hslot hnamed
    · rw [mem_singleton.mp hk] at hslot ⊢
      rw [hactNew] at hslot
      exact ⟨_, (hset slot id hslot).2, rfl⟩
  · rw [htrans, hnext]
    intro slot id ref href
    by_cases hslot : (activeOf t).slot = some (slot, id)
    · rw [(hset slot id hslot).2, Option.some.injEq] at href
      subst href
      refine ⟨by simp, fun _ => ?_⟩
      rw [hactNew]
      exact hslot
    · rw [hkeep slot id hslot] at href
      obtain ⟨hlt, hback⟩ := h.back slot id ref href
      refine ⟨by omega, fun hin => ?_⟩
      rcases mem_append.mp hin with hin | hin
      · rw [hact _ hin]
        exact hback hin
      · rw [mem_singleton.mp hin] at hlt
        omega

end ReplicatedVolume.Datamesh
