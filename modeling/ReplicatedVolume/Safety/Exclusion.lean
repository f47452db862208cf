import ReplicatedVolume.Mesh.Orderly
import ReplicatedVolume.Safety.Quorum

/-!
# Transitions that exclude each other

Over whole runs at most one voting membership, quorum, network, multiattach and resize transition is
live, a quorum change excludes voting changes, a resize excludes disk gains, and a replica has at
most one transition in each slot. The tracker always says what a rebuilt one would say.
-/

namespace ReplicatedVolume.Datamesh
open Dmte List

variable {e : Engine GlobalContext} {ts : List Transition}

structure Exclusion (ts : List Transition) : Prop where
  single : ∀ group ∈ [TransitionGroup.votingMembership, .quorum, .network, .multiattach, .resize],
    ts.countP (·.group = group) ≤ 1
  votingQuorum : ¬((∃ t ∈ ts, t.group = .votingMembership) ∧ ∃ t ∈ ts, t.group = .quorum)
  resizeGain : ¬((∃ t ∈ ts, t.group = .resize) ∧ ∃ t ∈ ts, isDiskGainingTransition t = true)
  slots : ∀ slot id, ts.countP (fun t => (activeOf t).slot = some (slot, id)) ≤ 1

theorem countP_le_one {α : Type} {R : α → α → Prop} {p : α → Bool} {l : List α}
    (h : l.Pairwise R) (hp : ∀ a b, R a b → p a = true → p b = true → False) :
    l.countP p ≤ 1 := by
  induction l with
  | nil => simp
  | cons a l ih =>
    obtain ⟨hhead, htail⟩ := pairwise_cons.mp h
    by_cases ha : p a = true
    · have hnone : l.countP p = 0 := countP_eq_zero.mpr fun b hb hpb => hp a b (hhead b hb) ha hpb
      rw [countP_cons_of_pos ha, hnone]
    · rw [countP_cons_of_neg ha]
      exact ih htail

variable (h : (ts.map activeOf).Pairwise Compatible) (g : GlobalContext)

include h in
theorem voting_excludes_quorum :
    ¬((∃ t ∈ ts, t.group = .votingMembership) ∧ ∃ t ∈ ts, t.group = .quorum) := by
  rintro ⟨⟨t, ht, hvoting⟩, t', ht', hquorum⟩
  obtain ⟨l1, l2, rfl⟩ := append_of_mem ht
  have hother : t' ∈ l1 ++ l2 := by
    have hne : t' ≠ t := by
      rintro rfl
      simp [hvoting] at hquorum
    simpa [hne] using ht'
  rw [map_append, map_cons] at h
  have hcompatible : Compatible (activeOf t) (activeOf t') := compatible_of_split h (by
    rw [← map_append]
    exact mem_map_of_mem hother)
  exact hcompatible.votingQuorum ⟨hvoting, hquorum⟩

include h in
theorem exclusion_of_coherent
    (hresize : ∀ t ∈ ts, t.group = .resize → ∀ t' ∈ ts, isDiskGainingTransition t' = false) :
    Exclusion ts := by
  have hpairwise := pairwise_map.mp h
  refine ⟨fun group hgroup => ?_, voting_excludes_quorum h, ?_, fun slot id => ?_⟩
  · have hserial : TransitionGroup.serial group = true := by fin_cases hgroup <;> rfl
    refine countP_le_one hpairwise fun t t' hcompatible ht ht' => ?_
    have hg : t.group = group := of_decide_eq_true ht
    have hg' : t'.group = group := of_decide_eq_true ht'
    have hparallel : TransitionGroup.serial t.group = false := hcompatible.group (hg.trans hg'.symm)
    rw [hg, hserial] at hparallel
    cases hparallel
  · rintro ⟨⟨t, ht, hg⟩, t', ht', hgain⟩
    rw [hresize t ht hg t' ht'] at hgain
    cases hgain
  · refine countP_le_one hpairwise fun t t' hcompatible ht ht' => ?_
    exact hcompatible.slot _ (of_decide_eq_true ht) (of_decide_eq_true ht')

/-- The fields of the tracker except the potentially attached replicas. Of the
network change in progress admission reads what creation wrote, not its steps. -/
structure Ledger extends Books where
  formation : Bool
  quorum : Bool
  multiattach : Bool
  network : Bool
  resize : Bool
  voting : Finset ReplicaID
  nonVoting : Finset ReplicaID
  attachment : Finset ReplicaID

def GlobalContext.ledger (g : GlobalContext) : Ledger :=
  { g.books with
    formation := g.hasFormationTransition
    quorum := g.hasQuorumTransition
    multiattach := g.hasMultiattachTransition
    network := g.hasNetworkTransition
    resize := g.hasResizeTransition
    voting := g.votingMembershipTransitions
    nonVoting := g.nonVotingMembershipTransitions
    attachment := g.attachmentTransitions }

def GlobalContext.untracked (g : GlobalContext) : GlobalContext :=
  { g with
    hasFormationTransition := false
    hasQuorumTransition := false
    hasMultiattachTransition := false
    hasNetworkTransition := false
    changeSystemNetworksTransition := none
    hasResizeTransition := false
    votingMembershipTransitions := ∅
    nonVotingMembershipTransitions := ∅
    attachmentTransitions := ∅
    emergencyTransitions := ∅
    diskGainingMembershipTransitions := ∅
    potentiallyAttached := ∅ }

/-- The context with a tracker made anew from the members and a list of
transitions, as at the start of a cycle. -/
def recomputed (g : GlobalContext) (ts : List Transition) : GlobalContext :=
  ts.foldl trackerAdd (newConcurrencyTracker g.untracked)

theorem recomputed_concat (ts : List Transition) (t : Transition) :
    recomputed g (ts ++ [t]) = trackerAdd (recomputed g ts) t := by
  simp [recomputed, foldl_append]

theorem recomputed_tracks (ts : List Transition) :
    Tracks (recomputed g ts).tracker (ts.map activeOf) := by
  induction ts using List.reverseRecOn with
  | nil => exact tracks_nil _ rfl rfl rfl rfl rfl rfl rfl rfl
  | append_singleton ts t ih =>
    rw [recomputed_concat, map_append]
    exact ih.add t rfl rfl

theorem recomputed_tally (ts : List Transition) :
    Tally (recomputed g ts).books (ts.map headerOf) := by
  induction ts using List.reverseRecOn with
  | nil => exact tally_nil _ rfl rfl rfl
  | append_singleton ts t ih =>
    rw [recomputed_concat, map_append, trackerAdd_books]
    exact ih.add (headerOf t)

theorem recomputed_potentiallyAttached (ts : List Transition)
    (id : ReplicaID) : id ∈ (recomputed g ts).potentiallyAttached ↔
      id ∈ g.content.attached ∨ ∃ t ∈ ts, t.group = .attachment ∧ t.replica = some id := by
  induction ts using List.reverseRecOn with
  | nil =>
    rw [mem_attached_content]
    simp only [not_mem_nil, false_and, exists_false, or_false]
    exact Finset.mem_filter_univ id
  | append_singleton ts t ih =>
    rw [recomputed_concat, trackerAdd_potentiallyAttached _ t (a := activeOf t) rfl rfl]
    have hgained : (activeOf t).gained (recomputed g ts).potentiallyAttached =
        if t.group = .attachment then (recomputed g ts).potentiallyAttached ∪ t.replica.toFinset
        else (recomputed g ts).potentiallyAttached := rfl
    rw [hgained]
    by_cases hgroup : t.group = .attachment
    · simp [hgroup, ih, or_and_right, exists_or, or_assoc]
    · simp [hgroup, ih, or_and_right, exists_or]

theorem ledger_eq {g g' : GlobalContext} {as : List Active}
    (h : Tracks g.tracker as) (h' : Tracks g'.tracker as) (hb : Tally g.books ts)
    (hb' : Tally g'.books ts) : g.ledger = g'.ledger := by
  have hgaining : g.books.gaining = g'.books.gaining := by
    ext id
    rw [hb.gaining, hb'.gaining]
  have hemergency : g.books.emergency = g'.books.emergency := by
    ext id
    rw [hb.emergency, hb'.emergency]
  have hnetworks : g.books.networks = g'.books.networks := hb.networks.trans hb'.networks.symm
  have hvoting : g.tracker.voting = g'.tracker.voting := by
    ext id
    rw [h.voting, h'.voting]
  have hnonVoting : g.tracker.nonVoting = g'.tracker.nonVoting := by
    ext id
    rw [h.nonVoting, h'.nonVoting]
  have hattachment : g.tracker.attachment = g'.tracker.attachment := by
    ext id
    rw [h.attachment, h'.attachment]
  have hflag : ∀ {b b' : Bool} {p : Prop}, (b = true ↔ p) → (b' = true ↔ p) → b = b' :=
    fun hp hp' => Bool.eq_iff_iff.mpr (hp.trans hp'.symm)
  simp only [GlobalContext.ledger, Ledger.mk.injEq]
  exact ⟨Books.ext hgaining hemergency hnetworks, hflag h.formation h'.formation,
    hflag h.quorum h'.quorum, hflag h.multiattach h'.multiattach, hflag h.network h'.network,
    hflag h.resize h'.resize, hvoting, hnonVoting, hattachment⟩

/-- The tracker of a snapshot is the one made anew from its live transitions,
except that it may hold more potentially attached replicas. -/
def Snapshot.Exact (s : Snapshot GlobalContext) : Prop :=
  s.global.ledger = (recomputed s.global s.active).ledger ∧
    (recomputed s.global s.active).potentiallyAttached ⊆ s.global.potentiallyAttached

theorem Orderly.exact (h : Orderly e) : Snapshot.Exact e.snapshot := by
  have htracks := h.linked.tracks
  have hactive : e.transitions.map (activeAt e) = e.active.map activeOf := by
    simp [Engine.active, activeAt, Function.comp_def]
  have hheaders : headers e = e.active.map headerOf := by
    simp [Engine.active, headers, Function.comp_def]
  rw [hactive] at htracks
  have htally := h.ledgered.tally
  rw [hheaders] at htally
  constructor
  · exact ledger_eq htracks (recomputed_tracks _ _) htally (recomputed_tally _ _)
  · intro id hid
    apply h.regular.accounted.occupied
    rw [mem_occupied]
    rcases (recomputed_potentiallyAttached _ _ id).mp hid with hattached | ⟨t, ht, hgroup, hrep⟩
    · exact .inl hattached
    · exact .inr ⟨activeOf t, mem_map_of_mem ht, hgroup, hrep⟩

theorem Orderly.exclusion (h : Orderly e) : Exclusion e.active := by
  refine exclusion_of_coherent h.regular.coherent.apart fun t ht hresize t' ht' => ?_
  have hheader : ∀ t ∈ e.active, headerOf t ∈ headers e := by
    intro t ht
    obtain ⟨k, hk, rfl⟩ := mem_map.mp ht
    exact mem_headers.mpr ⟨k, hk, rfl⟩
  have hnone := h.ledgered.apart _ (hheader t ht) hresize _ (hheader t' ht')
  exact hnone

theorem transition_exclusion {st : Status} {obs : List Observation} {results : List CycleResult}
    (hstart : st.Formed) (hrun : run st obs = some results) :
    (∀ p ∈ published st results, Exclusion p.transitions) ∧
    ∀ r ∈ results, ∀ ev ∈ r.log, Exclusion ev.after.active ∧ Snapshot.Exact ev.after := by
  obtain ⟨hpublished, hvouched⟩ := run_orderly hstart.orderly hrun
  constructor
  · intro p hp
    have hp' := hpublished p hp
    exact exclusion_of_coherent hp'.coherent.apart hp'.apart
  · intro r hr ev hev
    obtain ⟨o, -, st', hvouched'⟩ := hvouched r hr ev hev
    obtain ⟨e, he, -, hafter⟩ := hvouched'.after
    rw [hafter]
    exact ⟨he.exclusion, he.exact⟩

/-- Replica 3 leaves, in two steps that each wait for the others. -/
theorem transition_exclusion_leaving :
    ∃ results, run fourDiskful followed = some results ∧
      (published fourDiskful results).any (fun p => p.transitions.any
        (·.group = .votingMembership)) = true ∧
      (∀ p ∈ published fourDiskful results, Exclusion p.transitions) ∧
      ∀ r ∈ results, ∀ ev ∈ r.log, Exclusion ev.after.active ∧ Snapshot.Exact ev.after := by
  have hrun : (run fourDiskful followed).any (fun results =>
      (published fourDiskful results).any fun p => p.transitions.any
        (·.group = .votingMembership)) = true := by
    decide +kernel
  obtain ⟨results, hresults, hvoting⟩ := (Option.any_eq_true _ _).mp hrun
  exact ⟨results, hresults, hvoting, transition_exclusion (.inl rfl) hresults⟩

end ReplicatedVolume.Datamesh
