import ReplicatedVolume.Dmte.Outcomes
import ReplicatedVolume.Mesh.Coherent

/-!
# What the callbacks of a cycle leave alone

The global context falls into parts: what was observed, the content, the
tracker, the slots and the index. Every operation of the engine touches few of
them. The lemmas of this module say which ones it keeps.
-/

namespace ReplicatedVolume.Datamesh
open Dmte

structure Fixed where
  contexts : ReplicaID → ReplicaID × Bool × Option RVR
  orphans : List (Bool × Option DatameshMember)
  configuration : Configuration
  maxAttachments : ℕ

structure Tracker where
  formation : Bool
  quorum : Bool
  multiattach : Bool
  network : Bool
  resize : Bool
  voting : Finset ReplicaID
  nonVoting : Finset ReplicaID
  attachment : Finset ReplicaID
  potentiallyAttached : Finset ReplicaID

namespace GlobalContext

def fixed (g : GlobalContext) : Fixed :=
  ⟨fun id => ((g.replicas id).id, (g.replicas id).named, (g.replicas id).rvr),
    g.orphans.map fun rc => (rc.named, rc.member), g.configuration, g.maxAttachments⟩

def tracker (g : GlobalContext) : Tracker :=
  ⟨g.hasFormationTransition, g.hasQuorumTransition, g.hasMultiattachTransition,
    g.hasNetworkTransition, g.hasResizeTransition, g.votingMembershipTransitions,
    g.nonVotingMembershipTransitions, g.attachmentTransitions, g.potentiallyAttached⟩

def slotAt (g : GlobalContext) (slot : SlotID) (id : ReplicaID) : Option ActiveRef :=
  slot.accessor.getActiveTransition g (.replica id)

end GlobalContext

theorem env_of_fixed {g g' : GlobalContext} (h : g'.fixed = g.fixed) : g'.env = g.env := by
  have hctx := congrArg Fixed.contexts h
  have hconf := congrArg Fixed.configuration h
  have hmax := congrArg Fixed.maxAttachments h
  have hrvr : ∀ id, (g'.replicas id).rvr = (g.replicas id).rvr := fun id =>
    (Prod.mk.inj (Prod.mk.inj (congrFun hctx id)).2).2
  simp only [GlobalContext.fixed] at hconf hmax
  simp [GlobalContext.env, GlobalContext.rvr, hrvr, hconf, hmax]

structure Agree (g g' : GlobalContext) : Prop where
  fixed : g'.fixed = g.fixed
  members : g'.member = g.member
  content : g'.content = g.content
  tracker : g'.tracker = g.tracker
  slots : g'.slotAt = g.slotAt
  indexed : g'.indexed = g.indexed

theorem Agree.refl (g : GlobalContext) : Agree g g := ⟨rfl, rfl, rfl, rfl, rfl, rfl⟩

theorem Agree.trans {g1 g2 g3 : GlobalContext} (h : Agree g1 g2) (h' : Agree g2 g3) : Agree g1 g3 :=
  ⟨h'.fixed.trans h.fixed, h'.members.trans h.members, h'.content.trans h.content,
    h'.tracker.trans h.tracker, h'.slots.trans h.slots, h'.indexed.trans h.indexed⟩

section modify
variable {g : GlobalContext} {f : ReplicaContext → ReplicaContext} {α : Type}
  {p : ReplicaContext → α}

theorem modify_replicas (r : Ref) (hf : ∀ rc, p (f rc) = p rc) :
    (fun id => p ((g.modify r f).replicas id)) = fun id => p (g.replicas id) := by
  cases r with
  | replica id =>
    funext id'
    by_cases h : id' = id
    · subst h
      simp [GlobalContext.modify, GlobalContext.modifyReplica, hf]
    · simp [GlobalContext.modify, GlobalContext.modifyReplica, h]
  | orphan n => rfl

theorem modify_orphans (r : Ref) (hf : ∀ n, r = .orphan n → ∀ rc, p (f rc) = p rc) :
    (g.modify r f).orphans.map p = g.orphans.map p := by
  cases r with
  | replica id => rfl
  | orphan n =>
    apply List.ext_getElem?
    intro i
    simp only [GlobalContext.modify, List.getElem?_map, List.getElem?_modify]
    by_cases h : n = i <;> cases g.orphans[i]? <;> simp [h, hf n rfl]

theorem modify_fixed (r : Ref) (hid : ∀ rc, (f rc).id = rc.id)
    (hnamed : ∀ rc, (f rc).named = rc.named) (hrvr : ∀ rc, (f rc).rvr = rc.rvr)
    (hmember : ∀ n, r = .orphan n → ∀ rc, (f rc).member = rc.member) :
    (g.modify r f).fixed = g.fixed := by
  have hreplicas := modify_replicas (g := g) (p := fun rc => (rc.id, rc.named, rc.rvr)) r
    fun rc => by rw [hid, hnamed, hrvr]
  have horphans := modify_orphans (g := g) (p := fun rc => (rc.named, rc.member)) r
    fun n hn rc => by rw [hnamed, hmember n hn]
  simp only [GlobalContext.fixed, hreplicas, horphans]
  cases r <;> rfl

theorem modify_member (r : Ref) (hmember : ∀ rc, (f rc).member = rc.member) :
    (g.modify r f).member = g.member :=
  modify_replicas r hmember

theorem modify_content (r : Ref) (hmember : ∀ rc, (f rc).member = rc.member) :
    (g.modify r f).content = g.content := by
  have hm := modify_member (g := g) r hmember
  cases r <;> simp only [GlobalContext.content, hm] <;> rfl

@[simp]
theorem modify_tracker (r : Ref) : (g.modify r f).tracker = g.tracker := by
  cases r <;> rfl

@[simp]
theorem modify_indexed (r : Ref) : (g.modify r f).indexed = g.indexed := by
  cases r <;> rfl

theorem modify_slotAt (r : Ref) (hm : ∀ rc, (f rc).membershipTransition = rc.membershipTransition)
    (ha : ∀ rc, (f rc).attachmentTransition = rc.attachmentTransition) :
    (g.modify r f).slotAt = g.slotAt := by
  funext slot
  cases slot
  · exact modify_replicas r hm
  · exact modify_replicas r ha

end modify

section
variable (slot : SlotID) (g : GlobalContext) (r : Ref) (ref : Option ActiveRef)
include slot g r ref

theorem setActiveTransition_fixed :
    (slot.accessor.setActiveTransition g r ref).fixed = g.fixed := by
  cases slot <;> exact modify_fixed r (fun _ => rfl) (fun _ => rfl) (fun _ => rfl) fun _ _ _ => rfl

theorem setActiveTransition_member :
    (slot.accessor.setActiveTransition g r ref).member = g.member := by
  cases slot <;> exact modify_member r fun _ => rfl

theorem setActiveTransition_content :
    (slot.accessor.setActiveTransition g r ref).content = g.content := by
  cases slot <;> exact modify_content r fun _ => rfl

theorem setActiveTransition_tracker :
    (slot.accessor.setActiveTransition g r ref).tracker = g.tracker := by
  cases slot <;> exact modify_tracker r

theorem setActiveTransition_indexed :
    (slot.accessor.setActiveTransition g r ref).indexed = g.indexed := by
  cases slot <;> exact modify_indexed r

end

theorem setActiveTransition_slotAt (slot slot' : SlotID) (g : GlobalContext) (id id' : ReplicaID)
    (ref : Option ActiveRef) :
    (slot.accessor.setActiveTransition g (.replica id) ref).slotAt slot' id' =
      if slot' = slot ∧ id' = id then ref else g.slotAt slot' id' := by
  by_cases h : id' = id
  · subst h
    cases slot <;> cases slot' <;> simp [GlobalContext.slotAt, SlotID.accessor, membershipSlot,
      attachmentSlot, GlobalContext.ctx, GlobalContext.modify, GlobalContext.modifyReplica]
  · cases slot <;> cases slot' <;> simp [GlobalContext.slotAt, SlotID.accessor, membershipSlot,
      attachmentSlot, GlobalContext.ctx, GlobalContext.modify, GlobalContext.modifyReplica, h]

theorem setActiveTransition_orphan_slotAt (slot : SlotID) (g : GlobalContext) (n : ℕ)
    (ref : Option ActiveRef) :
    (slot.accessor.setActiveTransition g (.orphan n) ref).slotAt = g.slotAt := by
  funext slot' id
  cases slot <;> cases slot' <;> rfl

section
variable (g : GlobalContext) (t : Transition)
include g t

theorem trackerAdd_fixed : (trackerAdd g t).fixed = g.fixed := by
  unfold trackerAdd
  split <;> rfl

theorem trackerAdd_member : (trackerAdd g t).member = g.member := by
  unfold trackerAdd
  split <;> rfl

theorem trackerAdd_content : (trackerAdd g t).content = g.content := by
  unfold trackerAdd
  split <;> rfl

theorem trackerAdd_slotAt : (trackerAdd g t).slotAt = g.slotAt := by
  funext slot id
  unfold trackerAdd
  cases slot <;> split <;> rfl

theorem trackerAdd_indexed : (trackerAdd g t).indexed = g.indexed := by
  unfold trackerAdd
  split <;> rfl

theorem trackerRemove_fixed : (trackerRemove g t).fixed = g.fixed := by
  unfold trackerRemove
  split <;> rfl

theorem trackerRemove_member : (trackerRemove g t).member = g.member := by
  unfold trackerRemove
  split <;> rfl

theorem trackerRemove_content : (trackerRemove g t).content = g.content := by
  unfold trackerRemove
  split <;> rfl

theorem trackerRemove_slotAt : (trackerRemove g t).slotAt = g.slotAt := by
  funext slot id
  unfold trackerRemove
  cases slot <;> split <;> rfl

theorem trackerRemove_indexed : (trackerRemove g t).indexed = g.indexed := by
  unfold trackerRemove
  split <;> rfl

end

end ReplicatedVolume.Datamesh
