import ReplicatedVolume.Mesh.Step

/-!
# Coherent sets of live transitions

Every live transition belongs to a registered plan (or is the formation), and any two of them are
compatible: different slots, one transition at most in a serialized group, no voting change beside
a quorum change. Admission keeps this.
-/

namespace ReplicatedVolume.Datamesh
open Dmte List

variable {a : Active} {m m' : Mesh} {l1 l2 : List Active} {evs : List MeshEvent} {spec : PlanSpec}
  {x : Option ReplicaID} {c : Content} {env : Env}

theorem lookup_eq_some {type : TransitionType} {planID : PlanID}
    (h : lookup type planID = some spec) :
    spec ∈ registry ∧ spec.transitionType = type ∧ spec.planID = planID := by
  have hkey := List.find?_some h
  simp only [Bool.and_eq_true, decide_eq_true_eq] at hkey
  exact ⟨mem_of_find?_eq_some h, hkey.1, hkey.2⟩

theorem lookup_of_mem : ∀ spec ∈ registry, lookup spec.transitionType spec.planID = some spec := by
  decide +kernel

theorem registry_steps_ne_nil : ∀ spec ∈ registry, 0 < spec.steps.length := by decide +kernel

theorem registry_group_ne_formation : ∀ spec ∈ registry, spec.group ≠ .formation := by
  decide +kernel

theorem registry_type_ne_formation : ∀ spec ∈ registry, spec.transitionType ≠ .formation := by
  decide +kernel

theorem registry_scope : ∀ spec ∈ registry,
    (spec.scope = .replica ↔ TransitionGroup.ofReplica spec.group = true) := by
  decide +kernel

theorem registry_slot : ∀ spec ∈ registry,
    (spec.group = .votingMembership ∨ spec.group = .nonVotingMembership →
      spec.slot = .membershipSlot) ∧
    (spec.group = .attachment → spec.slot = .attachmentSlot) := by
  decide +kernel

def TransitionGroup.serial : TransitionGroup → Bool
  | .formation | .votingMembership | .quorum | .multiattach | .network | .resize => true
  | .nonVotingMembership | .attachment | .emergency => false

structure Compatible (a b : Active) : Prop where
  slot : ∀ s, a.slot = some s → b.slot ≠ some s
  group : a.group = b.group → TransitionGroup.serial a.group = false
  votingQuorum : ¬(a.group = .votingMembership ∧ b.group = .quorum)
  quorumVoting : ¬(a.group = .quorum ∧ b.group = .votingMembership)

def Active.Known (a : Active) : Prop :=
  (a.type = .formation ∧ a.group = .formation ∧ a.replica = none) ∨
  ∃ spec, a.spec = some spec ∧ a.group = spec.group ∧
    (spec.scope = .replica ↔ a.replica.isSome = true) ∧ a.idx < spec.steps.length

structure Mesh.Coherent (m : Mesh) : Prop where
  known : ∀ a ∈ m.active, a.Known
  apart : m.active.Pairwise Compatible

theorem Mesh.coherent_of_no_transitions (m : Mesh) (h : m.active = []) : m.Coherent := by
  constructor
  · simp [h]
  · simp [h]

theorem Active.slot_eq_some {slot : SlotID} {id : ReplicaID} (h : a.slot = some (slot, id)) :
    ∃ spec, a.spec = some spec ∧ spec.scope = .replica ∧ spec.slot = slot ∧
      a.replica = some id := by
  unfold Active.slot at h
  split at h
  · next spec id' hspec hid =>
      split_ifs at h with hscope
      simp only [Option.some.injEq, Prod.mk.injEq] at h
      exact ⟨spec, hspec, hscope, h.1, h.2 ▸ hid⟩
  · cases h

theorem Active.slot_of_spec {id : ReplicaID} (hspec : a.spec = some spec)
    (hscope : spec.scope = .replica) (hid : a.replica = some id) :
    a.slot = some (spec.slot, id) := by
  simp [Active.slot, hspec, hid, hscope]

theorem Active.Known.spec_of_group (h : a.Known) (hgroup : a.group ≠ .formation) :
    ∃ spec, a.spec = some spec ∧ spec ∈ registry ∧ a.group = spec.group ∧
      (spec.scope = .replica ↔ a.replica.isSome = true) ∧ a.idx < spec.steps.length := by
  rcases h with ⟨_, hform, _⟩ | ⟨spec, hspec, hg, hscope, hidx⟩
  · exact absurd hform hgroup
  · exact ⟨spec, hspec, (lookup_eq_some hspec).1, hg, hscope, hidx⟩

theorem Active.Known.of_spec (h : a.Known) (hspec : a.spec = some spec) :
    a.group = spec.group ∧ (spec.scope = .replica ↔ a.replica.isSome = true) ∧
      a.idx < spec.steps.length := by
  rcases h with ⟨htype, _, _⟩ | ⟨spec', hspec', hrest⟩
  · obtain ⟨hmem, htype', -⟩ := lookup_eq_some hspec
    exact absurd (htype'.trans htype) (registry_type_ne_formation spec hmem)
  · rw [hspec, Option.some.injEq] at hspec'
    exact hspec' ▸ hrest

theorem mem_of_split (h : m.active = l1 ++ a :: l2) : a ∈ m.active := by simp [h]

theorem dropped_sublist (c : Content) (h : m.active = l1 ++ a :: l2) :
    (m.dropped l1 a l2 c).active.Sublist m.active := by
  rw [h]
  exact List.Sublist.append_left (sublist_cons_self a l2) l1

theorem coherent_dropped (hactive : m.active = l1 ++ a :: l2) (h : m.Coherent) :
    (m.dropped l1 a l2 c).Coherent := by
  have hsub := dropped_sublist c hactive
  constructor
  · intro b hb
    exact h.known b (hsub.subset hb)
  · exact h.apart.sublist hsub

theorem coherent_moved {rev : ℕ} (hactive : m.active = l1 ++ a :: l2)
    (h : m.Coherent) (hknown : Active.Known { a with idx := a.idx + 1, revision := rev }) :
    (m.moved l1 a l2 c rev).Coherent := by
  obtain ⟨hk, hp⟩ := h
  rw [hactive] at hk hp
  constructor
  · intro b hb
    simp only [Mesh.moved, mem_append, mem_cons] at hb
    rcases hb with hb | rfl | hb
    · exact hk b (by simp [hb])
    · exact hknown
    · exact hk b (by simp [hb])
  · -- compatibility does not read the step index or the revision
    rw [pairwise_append, pairwise_cons] at hp
    obtain ⟨h1, ⟨h2, h3⟩, h4⟩ := hp
    simp only [Mesh.moved]
    rw [pairwise_append, pairwise_cons]
    refine ⟨h1, ⟨fun b hb => ?_, h3⟩, fun b hb b' hb' => ?_⟩
    · obtain ⟨hs, hg, hq, hq'⟩ := h2 b hb
      exact ⟨hs, hg, hq, hq'⟩
    · rcases mem_cons.mp hb' with rfl | hb'
      · obtain ⟨hs, hg, hq, hq'⟩ := h4 b hb a (by simp)
        exact ⟨hs, hg, hq, hq'⟩
      · exact h4 b hb b' (by simp [hb'])

theorem compatible_of_admitted {rev : ℕ}
    (hspec : spec ∈ registry) (hfree : ∀ id, x = some id → m.Free spec.slot id)
    (hallowed : Admitted m spec.group x) {b : Active} (hb : b ∈ m.active) :
    Compatible b (spec.start x rev) := by
  obtain ⟨-, hgroup⟩ := hallowed
  have hne := registry_group_ne_formation spec hspec
  constructor
  · rintro ⟨slot, id⟩ hslot hslot'
    obtain ⟨spec', hspec', -, rfl, hid⟩ := Active.slot_eq_some hslot'
    rw [show (spec.start x rev).spec = some spec from lookup_of_mem spec hspec,
      Option.some.injEq] at hspec'
    exact hfree id hid b hb (hspec' ▸ hslot)
  · intro heq
    change b.group = spec.group at heq
    rw [heq]
    cases hg : spec.group <;> simp only [hg] at hgroup hne heq <;> first
      | rfl
      | exact absurd rfl hne
      | exact absurd heq (hgroup b hb)
      | exact absurd heq (hgroup.1 b hb)
      | exact absurd heq (hgroup.2.1 b hb)
  · rintro ⟨hvoting, hquorum⟩
    change spec.group = .quorum at hquorum
    simp only [hquorum] at hgroup
    exact hgroup.1 b hb hvoting
  · rintro ⟨hquorum, hvoting⟩
    change spec.group = .votingMembership at hvoting
    simp only [hvoting] at hgroup
    exact hgroup.2.1 b hb hquorum

theorem Cancels.coherent (hstep : Cancels spec x m evs m') (h : m.Coherent) : m'.Coherent := by
  cases hstep with
  | nothing => exact h
  | cancel hactive => exact coherent_dropped hactive h

theorem Creates.coherent (hspec : spec ∈ registry) (hstep : Creates env spec x m evs m')
    (h : m.Coherent) : m'.Coherent := by
  cases hstep with
  | nothing => exact h
  | create hscope _ hfree hallowed =>
    have hknown : ∀ rev, (spec.start x rev).Known := fun rev =>
      .inr ⟨spec, lookup_of_mem spec hspec, rfl, hscope, registry_steps_ne_nil spec hspec⟩
    constructor
    · intro b hb
      rcases mem_append.mp hb with hb | hb
      · exact h.known b hb
      · rw [mem_singleton.mp hb]
        exact hknown _
    · refine pairwise_append.mpr ⟨h.apart, pairwise_singleton _ _, ?_⟩
      intro b hb b' hb'
      rw [mem_singleton.mp hb']
      exact compatible_of_admitted hspec hfree hallowed hb

theorem MeshStep.coherent {before : List MeshEvent} {ev : MeshEvent}
    (hstep : MeshStep env before m ev m') (h : m.Coherent) : m'.Coherent := by
  cases hstep with
  | advance hactive hspec _ hnext =>
    obtain ⟨hgroup, hscope, -⟩ := (h.known _ (mem_of_split hactive)).of_spec hspec
    refine coherent_moved hactive h (.inr ⟨_, hspec, hgroup, hscope, ?_⟩)
    exact (List.getElem?_eq_some_iff.mp hnext).1
  | complete hactive => exact coherent_dropped hactive h
  | dispatch => exact h
  | cancel _ _ _ hcancel => exact hcancel.coherent h
  | create hspec _ _ hcreate => exact hcreate.coherent hspec h

theorem MeshRun.coherent (hrun : MeshRun env m evs m') (h : m.Coherent) : m'.Coherent := by
  induction hrun with
  | refl => exact h
  | step _ hstep ih => exact hstep.coherent ih

end ReplicatedVolume.Datamesh
