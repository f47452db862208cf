import ReplicatedVolume.Mesh.Attached
import ReplicatedVolume.Safety.Quorum

/-!
# Attachment capacity

An Attach is created only while the replicas that hold an attachment, or are about to get one or
give it back, leave room under the limit. Two of them at once have Multiattach on and no toggle in
flight.
-/

namespace ReplicatedVolume.Datamesh
open Dmte

variable {st : Status} {m : Mesh}

def Mesh.holders (m : Mesh) : Finset ReplicaID :=
  m.content.attached ∪ idsWhere fun id =>
    m.active.any fun a => (a.type = .attach || a.type = .detach) && a.replica = some id

def Mesh.Toggling (m : Mesh) : Prop :=
  ∃ a ∈ m.active, a.type = .enableMultiattach ∨ a.type = .disableMultiattach

def Mesh.SharedOnlyMultiattach (m : Mesh) : Prop :=
  2 ≤ m.holders.card → m.content.multiattach = true ∧ ¬m.Toggling

/-- A status that formation or a cycle leaves: well-formed, and the member under
a Detach is no longer marked as attached. -/
structure Status.Consistent (st : Status) : Prop extends st.WellFormed where
  detached : ∀ t ∈ st.transitions, t.type = .detach → ∀ id, t.replica = some id →
    id ∉ st.content.attached

theorem Status.consistent_of_no_transitions (h : st.transitions = []) : st.Consistent := by
  constructor
  · exact Status.wellFormed_of_no_transitions h
  · simp [h]

variable {a : Active}

theorem Active.Known.spec_of_type (h : a.Known) (htype : a.type ≠ .formation) :
    ∃ spec ∈ registry, spec.transitionType = a.type ∧ a.group = spec.group := by
  rcases h with ⟨hform, -, -⟩ | ⟨spec, hspec, hgroup, -⟩
  · exact absurd hform htype
  · obtain ⟨hmem, htype', -⟩ := lookup_eq_some hspec
    exact ⟨spec, hmem, htype', hgroup⟩

theorem Active.Known.group_of_holder (h : a.Known)
    (htype : a.type = .attach ∨ a.type = .detach) : a.group = .attachment := by
  have hne : a.type ≠ .formation := by rcases htype with htype | htype <;> simp [htype]
  obtain ⟨spec, hspec, hsame, hgroup⟩ := h.spec_of_type hne
  rw [hgroup]
  exact (registry_attachment spec hspec).mpr (by rw [hsame]; exact htype)

theorem Active.Known.group_of_toggle (h : a.Known)
    (htype : a.type = .enableMultiattach ∨ a.type = .disableMultiattach) :
    a.group = .multiattach := by
  have hne : a.type ≠ .formation := by rcases htype with htype | htype <;> simp [htype]
  obtain ⟨spec, hspec, hsame, hgroup⟩ := h.spec_of_type hne
  rw [hgroup]
  exact (registry_multiattach spec hspec).mpr (by rw [hsame]; exact htype)

theorem mem_holders {id : ReplicaID} :
    id ∈ m.holders ↔ id ∈ m.content.attached ∨
      ∃ a ∈ m.active, (a.type = .attach ∨ a.type = .detach) ∧ a.replica = some id := by
  rw [Mesh.holders, Finset.mem_union, mem_idsWhere, List.any_eq_true]
  simp only [Bool.and_eq_true, Bool.or_eq_true, decide_eq_true_eq]

theorem holders_eq_occupied (h : m.Coherent) : m.holders = m.occupied := by
  ext id
  rw [mem_holders, mem_occupied]
  constructor
  · rintro (hid | ⟨a, ha, htype, hrep⟩)
    · exact .inl hid
    · exact .inr ⟨a, ha, (h.known a ha).group_of_holder htype, hrep⟩
  · rintro (hid | ⟨a, ha, hgroup, hrep⟩)
    · exact .inl hid
    · obtain ⟨spec, hspec, hmem, hg, -⟩ := (h.known a ha).spec_of_group (by rw [hgroup]; simp)
      have htype := (registry_attachment spec hmem).mp (hg.symm.trans hgroup)
      rw [(lookup_eq_some hspec).2.1] at htype
      exact .inr ⟨a, ha, htype, hrep⟩

theorem idle_iff_not_toggling (h : m.Coherent) : m.Idle .multiattach ↔ ¬m.Toggling := by
  constructor
  · rintro hidle ⟨a, ha, htype⟩
    exact hidle a ha ((h.known a ha).group_of_toggle htype)
  · intro hquiet a ha hgroup
    obtain ⟨spec, hspec, hmem, hg, -⟩ := (h.known a ha).spec_of_group (by rw [hgroup]; simp)
    have htype := (registry_multiattach spec hmem).mp (hg.symm.trans hgroup)
    rw [(lookup_eq_some hspec).2.1] at htype
    exact hquiet ⟨a, ha, htype⟩

theorem Mesh.Shared.sharedOnlyMultiattach (h : m.Shared) (haccounted : m.Accounted)
    (hcoherent : m.Coherent) : m.SharedOnlyMultiattach := by
  intro htwo
  rw [holders_eq_occupied hcoherent] at htwo
  obtain ⟨hmulti, hidle⟩ := h (htwo.trans (Finset.card_le_card haccounted.occupied))
  exact ⟨hmulti, (idle_iff_not_toggling hcoherent).mp hidle⟩

theorem Status.Consistent.accounted (h : st.Consistent) : st.mesh.Accounted := by
  constructor
  · exact Finset.Subset.refl _
  · intro a ha htype id hrep
    obtain ⟨t, ht, rfl⟩ := List.mem_map.mp ha
    exact h.detached t ht htype id hrep

theorem Status.Consistent.shared (h : st.Consistent) (hshared : st.mesh.SharedOnlyMultiattach) :
    st.mesh.Shared := by
  intro htwo
  change 2 ≤ st.mesh.occupied.card at htwo
  rw [← holders_eq_occupied h.coherent] at htwo
  obtain ⟨hmulti, hquiet⟩ := hshared htwo
  exact ⟨hmulti, (idle_iff_not_toggling h.coherent).mpr hquiet⟩

theorem MeshStep.holders_le {env : Env} {before : List MeshEvent} {m' : Mesh} {ev : MeshEvent}
    (hstep : MeshStep env before m ev m') (hcoherent : m.Coherent) (h : m.Accounted)
    (hkind : ev.kind = .created) (htype : ev.active.type = .attach) :
    ev.after.holders.card ≤ env.maxAttachments := by
  have hcoherent' := hstep.coherent hcoherent
  obtain ⟨spec, x, hspec, -, -, hcreate⟩ := hstep.created hkind
  cases hcreate with
  | create _ hguards _ _ hs hcontent =>
    subst hcontent
    have hroom : m.potentiallyAttached.card < env.maxAttachments :=
      hguards _ (registry_attach_guards spec hspec htype)
    have hgroup := (registry_attachment spec hspec).mpr (.inl htype)
    have hone : x.toFinset.card ≤ 1 := by cases x <;> simp
    rw [holders_eq_occupied hcoherent']
    calc _ ≤ (m.potentiallyAttached ∪ x.toFinset).card := by
          rw [← start_gained _ hgroup]
          exact Finset.card_le_card (created_occupied hspec hs h)
      _ ≤ m.potentiallyAttached.card + x.toFinset.card := Finset.card_union_le _ _
      _ ≤ env.maxAttachments := by omega

variable {obs : List Observation} {results : List CycleResult}

theorem Status.Consistent.run
    (hst : st.Consistent) (hrun : run st obs = some results) :
    (lastStatus st results).Consistent := by
  obtain ⟨hwf, m, τ, hhist, -, hmesh⟩ := run_history hst.toWellFormed hrun
    (runAllowed_true obs results) (runObserved_true .none st obs results)
  have haccounted := (hhist.accounted hst.coherent hst.accounted).refresh
  rw [← hmesh] at haccounted
  refine ⟨hwf, fun t ht htype id hrep => ?_⟩
  exact haccounted.detached (activeOf t) (List.mem_map_of_mem ht) htype id hrep

theorem published_consistent (hst : st.Consistent) (hrun : run st obs = some results) :
    ∀ p ∈ published st results, p.Consistent := by
  intro p hp
  obtain ⟨_, _, -, -, hrun', rfl⟩ := exists_run_of_published hrun hp
  exact hst.run hrun'

/-- Every Attach is created within the attachment limit of its cycle, and in
every published status and every state in between two holders have Multiattach
on and no toggle live. -/
theorem attachment_capacity {st : Status} {obs : List Observation} {results : List CycleResult}
    (hst : st.Consistent) (hrun : run st obs = some results) :
    (∀ o r, (o, r) ∈ obs.zip results → ∀ ev ∈ r.log, ev.kind = .created →
      ev.transition.type = .attach →
      (meshEvent ev).after.holders.card ≤ o.maxAttachments.getD 1) ∧
    (st.mesh.SharedOnlyMultiattach →
      (∀ p ∈ published st results, p.mesh.SharedOnlyMultiattach) ∧
      ∀ o r, (o, r) ∈ obs.zip results → ∀ ev ∈ r.log,
        (meshEvent ev).after.SharedOnlyMultiattach) := by
  refine ⟨?_, fun hshared => ⟨?_, ?_⟩⟩
  · intro o r hr ev hev hkind htype
    obtain ⟨m, τ, m', hhist, henv, hstep⟩ := event_step hst.toWellFormed hrun hr hev
    have hle := hstep.holders_le (hhist.coherent hst.coherent)
      (hhist.accounted hst.coherent hst.accounted) hkind htype
    rw [henv] at hle
    exact hle
  · intro p hp
    obtain ⟨obs', results', -, -, hrun', rfl⟩ := exists_run_of_published hrun hp
    obtain ⟨-, m, τ, hhist, -, hmesh⟩ := run_history hst.toWellFormed hrun'
      (runAllowed_true obs' results') (runObserved_true .none st obs' results')
    have haccounted := hhist.accounted hst.coherent hst.accounted
    have hkept := hhist.shared hst.coherent hst.accounted (hst.shared hshared)
    rw [hmesh]
    exact (hkept.refresh haccounted).sharedOnlyMultiattach haccounted.refresh
      ((hhist.coherent hst.coherent).congr rfl)
  · intro o r hr ev hev
    obtain ⟨m, τ, m', hhist, -, hstep⟩ := event_step hst.toWellFormed hrun hr hev
    have hcoherent := hhist.coherent hst.coherent
    have haccounted := hhist.accounted hst.coherent hst.accounted
    have hkept := hhist.shared hst.coherent hst.accounted (hst.shared hshared)
    rw [hstep.after.2]
    exact (hstep.shared hkept).sharedOnlyMultiattach (hstep.accounted hcoherent haccounted)
      (hstep.coherent hcoherent)

def readyReplica (id : ReplicaID) (revision : ℕ) : RVR :=
  { plainReplica id .diskful revision with conditions := [⟨"Ready", some true, 1, "", ""⟩] }

def readyNode (id : ReplicaID) : EligibleNode := ⟨toString id.val, "", true, true⟩

def attachObservation (ids : List ReplicaID) (revision limit : ℕ) : Observation :=
  { plainObservation ([0, 1].map (readyReplica · revision)) [] with
    maxAttachments := some limit
    rsp := some ⟨[0, 1].map readyNode, []⟩
    rvas := ids.map fun id => ⟨toString id.val, false, id.val⟩ }

def twoDiskful : Status :=
  ⟨[0, 1].map (plainMember · .diskful), 2, 1, false, [], 0, 5, 0, []⟩

def bothAttached : List Observation :=
  [ attachObservation [0, 1] 6 2, attachObservation [0, 1] 5 2 ]

theorem attachment_capacity_both :
    ∃ results, run twoDiskful bothAttached = some results ∧
      (lastStatus twoDiskful results).mesh.holders = {0, 1} ∧
      (∀ o r, (o, r) ∈ bothAttached.zip results → ∀ ev ∈ r.log, ev.kind = .created →
        ev.transition.type = .attach →
        (meshEvent ev).after.holders.card ≤ o.maxAttachments.getD 1) ∧
      ∀ p ∈ published twoDiskful results, p.mesh.SharedOnlyMultiattach := by
  have hrun : (run twoDiskful bothAttached).any (fun results =>
      decide ((lastStatus twoDiskful results).mesh.holders = {0, 1})) = true := by
    decide +kernel
  obtain ⟨results, hresults, hholders⟩ := exists_of_decide hrun
  obtain ⟨hroom, hshared⟩ := attachment_capacity
    (show twoDiskful.Consistent from Status.consistent_of_no_transitions rfl) hresults
  have hfew : ¬2 ≤ twoDiskful.mesh.holders.card := by decide +kernel
  exact ⟨results, hresults, hholders, hroom, (hshared fun h => absurd h hfew).1⟩

theorem published_consistent_both :
    ∃ results, run twoDiskful bothAttached = some results ∧
      ∀ p ∈ published twoDiskful results, p.Consistent := by
  have hresults := (Option.some_get (x := run twoDiskful bothAttached) (by decide +kernel)).symm
  exact ⟨_, hresults, published_consistent (Status.consistent_of_no_transitions rfl) hresults⟩

end ReplicatedVolume.Datamesh
