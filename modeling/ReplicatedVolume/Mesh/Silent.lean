import ReplicatedVolume.Mesh.Frame

/-!
# Contexts without messages

Statuses of slots and the memoized quorum check are all that a guard or a
report may write. Two contexts that agree without them agree in everything the
engine decides by.
-/

namespace ReplicatedVolume.Datamesh
open Dmte List

variable {g g' : GlobalContext} {rctx : Option Ref} {result : GuardResult}

def ReplicaContext.silent (rc : ReplicaContext) : ReplicaContext :=
  { rc with
    membershipMessage := ""
    attachmentConditionMessage := ""
    attachmentConditionReason := "" }

def GlobalContext.silent (g : GlobalContext) : GlobalContext :=
  { g with
    replicas := fun id => (g.replicas id).silent
    orphans := g.orphans.map ReplicaContext.silent
    quorumCheck := none }

/-- Nothing differs but slot statuses: not the transitions, the slot pointers,
the tracker, the members or the revision. -/
structure Unchanged (e e' : Engine GlobalContext) : Prop where
  transitions : e'.transitions = e.transitions
  heap : e'.heap = e.heap
  revision : e'.revision = e.revision
  global : e'.global.silent = e.global.silent

theorem Unchanged.refl (e : Engine GlobalContext) : Unchanged e e := ⟨rfl, rfl, rfl, rfl⟩

theorem Unchanged.trans {e1 e2 e3 : Engine GlobalContext} (h : Unchanged e1 e2)
    (h' : Unchanged e2 e3) : Unchanged e1 e3 :=
  ⟨h'.transitions.trans h.transitions, h'.heap.trans h.heap, h'.revision.trans h.revision,
    h'.global.trans h.global⟩

theorem modify_silent {f : ReplicaContext → ReplicaContext} (g : GlobalContext) (r : Ref)
    (hf : ∀ rc, (f rc).silent = rc.silent) : (g.modify r f).silent = g.silent := by
  simp only [GlobalContext.silent, modify_replicas r hf, modify_orphans r fun _ _ => hf]
  cases r <;> rfl

theorem setStatus_silent (slot : SlotID) (g : GlobalContext) (r : Ref) (message : String)
    (details : Option String) :
    (slot.accessor.setStatus g r message details).silent = g.silent := by
  cases slot
  · exact modify_silent g r fun _ => rfl
  · exact modify_silent g r fun _ => rfl

theorem guard_silent {guard : Guard}
    (h : guard.run g rctx = some (result, g')) : g'.silent = g.silent := by
  unfold Guard.run at h
  split at h
  · simp only [guardQuorumSatisfied, Option.some.injEq, Prod.mk.injEq] at h
    rw [← h.2]
    rfl
  · simp only [Option.map_eq_some_iff, Prod.mk.injEq] at h
    obtain ⟨_, -, -, rfl⟩ := h
    rfl
  · split at h
    · simp only [Option.some.injEq, Prod.mk.injEq] at h
      rw [h.2]
    · cases h
    · simp only [Option.map_eq_some_iff, Prod.mk.injEq] at h
      obtain ⟨_, -, -, rfl⟩ := h
      rfl

theorem evaluateGuards_silent {guards : List Guard}
    (h : evaluateGuards rctx (guards.map Guard.run) g = some (result, g')) :
    g'.silent = g.silent := by
  induction guards generalizing g with
  | nil =>
    simp only [map_nil, evaluateGuards, Option.some.injEq, Prod.mk.injEq] at h
    rw [h.2]
  | cons guard guards ih =>
    simp only [map_cons, evaluateGuards, Option.bind_eq_bind, Option.bind_eq_some_iff,
      Prod.exists] at h
    obtain ⟨result1, g1, h1, h⟩ := h
    split at h
    · simp only [Option.some.injEq, Prod.mk.injEq] at h
      rw [← h.2, guard_silent h1]
    · rw [ih h, guard_silent h1]

theorem onComplete_silent {oc : OnComplete}
    (h : oc.run g rctx = some g') : g'.silent = g.silent := by
  cases oc <;> cases rctx <;> simp only [OnComplete.run, Option.map_none, Option.map_some,
    Option.elim_none, Option.elim_some, Option.some.injEq, reduceCtorEq] at h <;> subst h <;>
    first
      | rfl
      | exact setStatus_silent .membershipSlot g _ _ none

/-- Every guard of a list that passes saw a context that differs in messages
only. -/
theorem evaluateGuards_pass {guards : List Guard}
    (h : evaluateGuards rctx (guards.map Guard.run) g = some (result, g'))
    (hpass : result.blocked = false) :
    ∀ guard ∈ guards, ∃ g1 g2 result1, g1.silent = g.silent ∧
      guard.run g1 rctx = some (result1, g2) ∧ result1.blocked = false := by
  induction guards generalizing g with
  | nil => simp
  | cons guard guards ih =>
    simp only [map_cons, evaluateGuards, Option.bind_eq_bind, Option.bind_eq_some_iff,
      Prod.exists] at h
    obtain ⟨result1, g1, h1, h⟩ := h
    by_cases hblocked : result1.blocked = true
    · simp only [hblocked, if_true, Option.some.injEq, Prod.mk.injEq] at h
      simp [h.1 ▸ hblocked] at hpass
    · simp only [hblocked, Bool.false_eq_true, if_false] at h
      intro guard' hmem
      rcases mem_cons.mp hmem with rfl | hmem
      · exact ⟨g, g1, result1, rfl, h1, Bool.eq_false_iff.mpr hblocked⟩
      · obtain ⟨g2, g3, result2, hsilent, hrun, hpass2⟩ := ih h guard' hmem
        exact ⟨g2, g3, result2, hsilent.trans (guard_silent h1), hrun, hpass2⟩

theorem getActive_silent (slot : SlotID) (h : g'.silent = g.silent)
    (r : Ref) : slot.accessor.getActiveTransition g' r = slot.accessor.getActiveTransition g r := by
  have hctx : (g'.ctx r).silent = (g.ctx r).silent := by
    cases r with
    | replica id => exact congrFun (congrArg GlobalContext.replicas h) id
    | orphan n =>
      have horphans := congrArg GlobalContext.orphans h
      simp only [GlobalContext.silent] at horphans
      have hget := congrArg (fun l => l[n]?) horphans
      simp only [List.getElem?_map] at hget
      simp only [GlobalContext.ctx, getD_eq_getElem?_getD]
      cases hn : g.orphans[n]? <;> cases hn' : g'.orphans[n]? <;> simp_all
  cases slot with
  | membershipSlot =>
    have hslot := congrArg ReplicaContext.membershipTransition hctx
    exact hslot
  | attachmentSlot =>
    have hslot := congrArg ReplicaContext.attachmentTransition hctx
    exact hslot

theorem Agree.of_silent (h : g'.silent = g.silent) : Agree g g' := by
  have hfixed := congrArg GlobalContext.fixed h
  have hmember := congrArg GlobalContext.member h
  have hcontent := congrArg GlobalContext.content h
  have htracker := congrArg GlobalContext.tracker h
  have hindexed := congrArg GlobalContext.indexed h
  simp only [GlobalContext.fixed, GlobalContext.silent, map_map] at hfixed
  refine ⟨hfixed, hmember, hcontent, htracker, ?_, hindexed⟩
  funext slot id
  exact getActive_silent slot h (.replica id)

theorem setStatus_unchanged (spec : PlanSpec) (rctx : Option Ref) (message : String)
    (details : Option String) (e : Engine GlobalContext) :
    Unchanged e (setStatus spec.plan rctx message details e) := by
  cases rctx with
  | none => exact .refl e
  | some r => exact ⟨rfl, rfl, rfl, setStatus_silent spec.slot e.global r message details⟩

end ReplicatedVolume.Datamesh
