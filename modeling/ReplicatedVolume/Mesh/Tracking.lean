import ReplicatedVolume.Dmte.Steps
import ReplicatedVolume.Mesh.Meaning

/-!
# The tracker, the slots and the decisions

The tracker's flags and sets say which groups have live transitions, and the
slot of every named replica points at its live transition. Under these ties,
an admission and a decision of the faithful model are abstract ones.
-/

namespace ReplicatedVolume.Datamesh
open Dmte List

variable {a : Active} {m : Mesh} {g : GlobalContext} {l1 l2 : List Active} {t : Transition}
  {b : Active} {group : TransitionGroup}

def Has (active : List Active) (group : TransitionGroup) : Prop := ∃ a ∈ active, a.group = group

def HasFor (active : List Active) (group : TransitionGroup) (id : ReplicaID) : Prop :=
  ∃ a ∈ active, a.group = group ∧ a.replica = some id

structure Tracks (t : Tracker) (active : List Active) : Prop where
  formation : t.formation = true ↔ Has active .formation
  quorum : t.quorum = true ↔ Has active .quorum
  multiattach : t.multiattach = true ↔ Has active .multiattach
  network : t.network = true ↔ Has active .network
  resize : t.resize = true ↔ Has active .resize
  voting : ∀ id, id ∈ t.voting ↔ HasFor active .votingMembership id
  nonVoting : ∀ id, id ∈ t.nonVoting ↔ HasFor active .nonVotingMembership id
  attachment : ∀ id, id ∈ t.attachment ↔ HasFor active .attachment id

theorem tracks_nil (g : GlobalContext) (hf : g.tracker.formation = false)
    (hq : g.tracker.quorum = false) (hm : g.tracker.multiattach = false)
    (hn : g.tracker.network = false) (hr : g.tracker.resize = false)
    (hv : g.tracker.voting = ∅) (hnv : g.tracker.nonVoting = ∅) (ha : g.tracker.attachment = ∅) :
    Tracks g.tracker [] := by
  constructor <;> simp [Has, HasFor, *]

theorem has_concat (l : List Active) (a : Active) (group : TransitionGroup) :
    Has (l ++ [a]) group ↔ Has l group ∨ a.group = group := by
  simp [Has, or_and_right, exists_or]

theorem hasFor_concat (l : List Active) (a : Active) (group : TransitionGroup) (id : ReplicaID) :
    HasFor (l ++ [a]) group id ↔ HasFor l group id ∨ (a.group = group ∧ a.replica = some id) := by
  simp [HasFor, or_and_right, exists_or]

theorem mem_idOf {id : ReplicaID} : id ∈ idOf t ↔ t.replica = some id := by
  simp [idOf, Option.mem_toFinset]

theorem Tracks.add {l : List Active} (h : Tracks g.tracker l) (t : Transition)
    (hgroup : a.group = t.group) (hreplica : a.replica = t.replica) :
    Tracks (trackerAdd g t).tracker (l ++ [a]) := by
  obtain ⟨hf, hq, hm, hn, hr, hv, hnv, ha⟩ := h
  simp only [GlobalContext.tracker] at hf hq hm hn hr hv hnv ha
  constructor <;> simp only [has_concat, hasFor_concat, hgroup, hreplica] <;>
    cases hg : t.group <;>
    simp [trackerAdd, GlobalContext.tracker, hg, hf, hq, hm, hn, hr, hv, hnv, ha, mem_idOf]

theorem Compatible.symm (h : Compatible a b) : Compatible b a := by
  obtain ⟨hslot, hgroup, hvq, hqv⟩ := h
  refine ⟨fun s hb ha => hslot s ha hb, fun heq => ?_, fun hc => hqv hc.symm, fun hc => hvq hc.symm⟩
  rw [heq]
  exact hgroup heq.symm

theorem rel_of_split {α : Type} {R : α → α → Prop} (hsymm : ∀ {x y}, R x y → R y x)
    {l1 l2 : List α} {a b : α} (h : (l1 ++ a :: l2).Pairwise R) (hb : b ∈ l1 ++ l2) : R a b := by
  rw [pairwise_append, pairwise_cons] at h
  obtain ⟨-, ⟨hright, -⟩, hleft⟩ := h
  rcases mem_append.mp hb with hb | hb
  · exact hsymm (hleft b hb a (by simp))
  · exact hright b hb

theorem compatible_of_split
    (h : (l1 ++ a :: l2).Pairwise Compatible) (hb : b ∈ l1 ++ l2) : Compatible a b :=
  rel_of_split (fun h => h.symm) h hb

theorem Active.Known.slot_of_group {id : ReplicaID} (h : a.Known) (hid : a.replica = some id) :
    (a.group = .votingMembership ∨ a.group = .nonVotingMembership →
      a.slot = some (.membershipSlot, id)) ∧
    (a.group = .attachment → a.slot = some (.attachmentSlot, id)) := by
  constructor
  · intro hgroup
    have hne : a.group ≠ .formation := by
      rintro heq
      simp [heq] at hgroup
    obtain ⟨spec, hspec, hmem, hg, hscope, -⟩ := h.spec_of_group hne
    rw [Active.slot_of_spec hspec (hscope.mpr (by simp [hid])) hid,
      (registry_slot spec hmem).1 (hg ▸ hgroup)]
  · intro hgroup
    obtain ⟨spec, hspec, hmem, hg, hscope, -⟩ := h.spec_of_group (by simp [hgroup])
    rw [Active.slot_of_spec hspec (hscope.mpr (by simp [hid])) hid,
      (registry_slot spec hmem).2 (hg ▸ hgroup)]

/-- No other live transition shares a serialized group, or a replica in one of
the groups with one transition for each replica. -/
theorem split_unique (hknown : ∀ b ∈ l1 ++ a :: l2, b.Known)
    (h : (l1 ++ a :: l2).Pairwise Compatible) :
    (TransitionGroup.serial a.group = true → ¬Has (l1 ++ l2) a.group) ∧
    ∀ id, a.replica = some id → (a.group = .nonVotingMembership ∨ a.group = .attachment) →
      ¬HasFor (l1 ++ l2) a.group id := by
  have hmem : ∀ b ∈ l1 ++ l2, b ∈ l1 ++ a :: l2 := by
    intro b hb
    simp only [mem_append, mem_cons] at hb ⊢
    tauto
  constructor
  · rintro hserial ⟨b, hb, hgroup⟩
    have hc := (compatible_of_split h hb).group hgroup.symm
    simp [hserial] at hc
  · rintro id hid hgroup ⟨b, hb, hbgroup, hbid⟩
    have hc := (compatible_of_split h hb).slot
    have ha := (hknown a (by simp)).slot_of_group hid
    have hb' := (hknown b (hmem b hb)).slot_of_group hbid
    rcases hgroup with hgroup | hgroup
    · exact hc _ (ha.1 (.inr hgroup)) (hb'.1 (.inr (hbgroup.trans hgroup)))
    · exact hc _ (ha.2 hgroup) (hb'.2 (hbgroup.trans hgroup))

theorem has_split (l1 l2 : List Active) (a : Active) (group : TransitionGroup) :
    Has (l1 ++ a :: l2) group ↔ Has (l1 ++ l2) group ∨ a.group = group := by
  simp only [Has, mem_append, mem_cons, or_and_right, exists_or, exists_eq_left]
  rw [or_left_comm]
  exact or_comm

theorem hasFor_split (l1 l2 : List Active) (a : Active) (group : TransitionGroup)
    (id : ReplicaID) : HasFor (l1 ++ a :: l2) group id ↔
      HasFor (l1 ++ l2) group id ∨ (a.group = group ∧ a.replica = some id) := by
  simp only [HasFor, mem_append, mem_cons, or_and_right, exists_or, exists_eq_left]
  rw [or_left_comm]
  exact or_comm

theorem Tracks.remove (h : Tracks g.tracker (l1 ++ a :: l2)) (hknown : ∀ b ∈ l1 ++ a :: l2, b.Known)
    (hapart : (l1 ++ a :: l2).Pairwise Compatible) (hgroup : a.group = t.group)
    (hreplica : a.replica = t.replica) : Tracks (trackerRemove g t).tracker (l1 ++ l2) := by
  obtain ⟨hserial, hown⟩ := split_unique hknown hapart
  obtain ⟨hf, hq, hm, hn, hr, hv, hnv, ha⟩ := h
  simp only [GlobalContext.tracker, has_split, hasFor_split, hgroup, hreplica] at *
  have hvoting : t.group = .votingMembership → ∀ id, ¬HasFor (l1 ++ l2) .votingMembership id := by
    rintro heq id ⟨b, hb, hbgroup, -⟩
    rw [heq] at hserial
    exact hserial rfl ⟨b, hb, hbgroup⟩
  constructor <;> cases hg : t.group <;>
    simp [trackerRemove, hg, hf, hq, hm, hn, hr, hv, hnv, ha, mem_idOf] <;>
    simp [hg, TransitionGroup.serial] at hserial hown hvoting <;>
    first
      | assumption
      | (intro id
         by_cases hid : t.replica = some id
         · simp [hid, hvoting, hown]
         · simp [hid])

theorem idle_iff : m.Idle group ↔ ¬Has m.active group := by simp [Mesh.Idle, Has]

theorem idle_of_flag {flag : Bool}
    (h : flag = true ↔ Has m.active group) (hflag : ¬flag = true) : m.Idle group :=
  idle_iff.mpr fun hhas => hflag (h.mpr hhas)

theorem idle_voting {t : Tracker} (hm : m.Coherent) (h : Tracks t m.active)
    (hempty : t.voting = ∅) : m.Idle .votingMembership := by
  intro a ha hgroup
  obtain ⟨spec, -, hmem, hg, hscope, -⟩ := (hm.known a ha).spec_of_group (by simp [hgroup])
  have hsome : a.replica.isSome = true :=
    hscope.mp ((registry_scope spec hmem).mpr (by rw [← hg, hgroup]; rfl))
  obtain ⟨id, hid⟩ := Option.isSome_iff_exists.mp hsome
  have hin := (h.voting id).mpr ⟨a, ha, hgroup, hid⟩
  simp [hempty] at hin

theorem admitted_of_canAdmit (hm : m.Coherent)
    (hcontent : m.content = g.content) (hpa : m.potentiallyAttached = g.potentiallyAttached)
    (htracks : Tracks g.tracker m.active) (h : (canAdmit g t).allowed = true) :
    Admitted m t.group t.replica := by
  have hformation : t.group ≠ .network → m.Idle .formation := by
    intro hne
    refine idle_of_flag htracks.formation fun hflag => ?_
    have hflag' : g.hasFormationTransition = true := hflag
    simp [canAdmit, hflag', hne] at h
  refine ⟨hformation, ?_⟩
  by_cases hem : t.group = .emergency
  · simp [hem]
  -- the per-replica half only refuses more
  have hgroup : (admitGroup g t).allowed = true := by
    unfold canAdmit at h
    split at h
    · cases h
    · by_cases hreplica : (admitReplica g t).allowed = true
      · simpa [hreplica] using h
      · simp [hreplica] at h
  unfold admitGroup at hgroup
  cases hg : t.group <;> simp only [hg] at hgroup ⊢
  case votingMembership =>
    have hv : g.votingMembershipTransitions = ∅ := by
      by_contra hv
      simp [hv, refuse] at hgroup
    have hq : ¬g.hasQuorumTransition = true := fun hq => by simp [hv, hq, refuse] at hgroup
    have hn : ¬g.hasNetworkTransition = true := fun hn => by simp [hv, hq, hn, refuse] at hgroup
    exact ⟨idle_voting hm htracks hv, idle_of_flag htracks.quorum hq,
      idle_of_flag htracks.network hn⟩
  case quorum =>
    have hq : ¬g.hasQuorumTransition = true := fun hq => by simp [hq, refuse] at hgroup
    have hv : g.votingMembershipTransitions = ∅ := by
      by_contra hv
      simp [hv, hq, refuse] at hgroup
    have hn : ¬g.hasNetworkTransition = true := fun hn => by simp [hv, hq, hn, refuse] at hgroup
    exact ⟨idle_voting hm htracks hv, idle_of_flag htracks.quorum hq,
      idle_of_flag htracks.network hn⟩
  case attachment =>
    intro hne
    rw [hpa] at hne
    have hne' : g.potentiallyAttached \ idOf t ≠ ∅ := hne.ne_empty
    have hready : ¬(g.multiattach = false ∨ g.hasMultiattachTransition = true) := fun hbad => by
      simp [hne', hbad] at hgroup
    rw [not_or, Bool.not_eq_false] at hready
    rw [hcontent]
    exact ⟨hready.1, idle_of_flag htracks.multiattach hready.2⟩
  case multiattach =>
    exact idle_of_flag htracks.multiattach fun hflag => by
      have hflag' : g.hasMultiattachTransition = true := hflag
      simp [hflag', refuse] at hgroup
  case network =>
    exact idle_of_flag htracks.network fun hflag => by
      have hflag' : g.hasNetworkTransition = true := hflag
      simp [hflag', refuse] at hgroup
  case resize =>
    exact idle_of_flag htracks.resize fun hflag => by
      have hflag' : g.hasResizeTransition = true := hflag
      simp [hflag', refuse] at hgroup

end ReplicatedVolume.Datamesh
