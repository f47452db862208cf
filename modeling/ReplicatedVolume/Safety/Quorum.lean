import ReplicatedVolume.Mesh.Voters

/-!
# The published quorum

The published quorum is the majority of the published voters, as long as no forced removal of a
voter comes between the creation of a voting plan and the step in which it changes the voters.
A revision stands for one configuration.
-/

namespace ReplicatedVolume.Datamesh
open Dmte

def Status.voters (st : Status) : Finset ReplicaID := st.content.voters

theorem Hist.balanced {Q : Content → Env → Env → Prop}
    {P : Env → MeshEvent → List MeshEvent → Prop} {m0 m : Mesh} {τ0 τ : Trail}
    (h : Hist Q P m0 τ0 m τ) (hP : ∀ env ev before, P env ev before → ¬ev.Untimely)
    (hcoherent : m0.Coherent) (h0 : m0.Balanced) : m.Balanced := by
  induction h with
  | start => exact h0
  | observe _ _ _ ih => exact ⟨ih.majority, ih.placed, ih.parity⟩
  | step hhist hstep hallowed ih =>
    exact hstep.balanced (hhist.coherent hcoherent) (hP _ _ _ hallowed) ih

/-- In a run without untimely forced removals every published quorum is at
least the majority of the published voters. -/
theorem quorum_ge_majority {st : Status} {obs : List Observation} {results : List CycleResult}
    (hstart : st.transitions = []) (hquorum : st.quorum = st.voters.card / 2 + 1)
    (hrun : run st obs = some results)
    (htimely : ∀ r ∈ results, ∀ ev ∈ r.log, ¬(meshEvent ev).Untimely) :
    ∀ p ∈ published st results, p.voters.card / 2 + 1 ≤ p.quorum := by
  intro p hp
  obtain ⟨obs', results', -, hsuffix, hrun', rfl⟩ := exists_run_of_published hrun hp
  have hallowed : RunAllowed (fun _ ev _ => ¬ev.Untimely) obs' results' :=
    runAllowed_of_forall fun r hr => htimely r (hsuffix.subset hr)
  obtain ⟨-, m, τ, hhist, -, hmesh⟩ := run_history (Status.wellFormed_of_no_transitions hstart)
    hrun' hallowed (runObserved_true .none st obs' results')
  have hactive : st.mesh.active = [] := by
    change st.transitions.map activeOf = []
    rw [hstart]
    rfl
  have hbalanced := hhist.balanced (fun _ _ _ hev => hev)
    (Mesh.coherent_of_no_transitions _ hactive)
    (Mesh.balanced_of_no_transitions _ hactive hquorum)
  have hmajority : (lastStatus st results').content.Majority := by
    rw [show (lastStatus st results').content = m.content from congrArg Mesh.content hmesh]
    exact hbalanced.majority
  exact hmajority.ge

instance (ev : MeshEvent) : Decidable ev.Untimely :=
  inferInstanceAs (Decidable (_ ∧ _ ∧ _ ∧ _))

theorem exists_of_decide {α : Type} {found : Option α} {P : α → Prop} [DecidablePred P]
    (h : found.any (fun a => decide (P a)) = true) : ∃ a, found = some a ∧ P a := by
  obtain ⟨a, ha, htest⟩ := (Option.any_eq_true _ _).mp h
  exact ⟨a, ha, of_decide_eq_true htest⟩

def plainMember (id : ReplicaID) (type : MemberType) : DatameshMember :=
  ⟨id, type, toString id.val, "", [], "vg", "", false⟩

def plainReplica (id : ReplicaID) (type : ReplicaType) (revision : ℕ) : RVR :=
  ⟨id, false, 1, toString id.val, type, [], [], some ⟨none, .upToDate⟩, revision, none, some true,
    []⟩

def plainRequest (id : ReplicaID) (operation : RequestOperation) : ReplicaRequest :=
  ⟨id, "", operation, none, "", ""⟩

def plainObservation (rvrs : List RVR) (requests : List ReplicaRequest) : Observation :=
  ⟨"rv", false, ⟨"pool", .ignored, 0, 0, .any⟩, 0, none, "", none, rvrs, [], requests, ⟨false⟩⟩

def fourDiskful : Status :=
  ⟨[0, 1, 2, 3].map (plainMember · .diskful), 3, 1, false, [], 0, 5, 0, []⟩

/-- Replica 3 leaves, with the quorum to be lowered from the fourth voter to the
third; before that step the object of replica 2 is gone. -/
def overtaken : List Observation :=
  [ plainObservation [plainReplica 0 .diskful 5, plainReplica 1 .diskful 5,
      plainReplica 3 .diskful 6] [plainRequest 3 .leave],
    plainObservation [plainReplica 0 .diskful 5, plainReplica 1 .diskful 5,
      plainReplica 3 .diskful 5] [plainRequest 3 .leave],
    plainObservation ([0, 1, 2, 3].map (plainReplica · .diskful 5)) [plainRequest 3 .leave] ]

/-- Both lower the quorum: two voters are left with a quorum of one. -/
theorem quorum_below_majority :
    fourDiskful.transitions = [] ∧ fourDiskful.quorum = fourDiskful.voters.card / 2 + 1 ∧
    ∃ results, run fourDiskful overtaken = some results ∧
      (lastStatus fourDiskful results).voters = {0, 1} ∧
      (lastStatus fourDiskful results).quorum = 1 ∧
      ¬(lastStatus fourDiskful results).voters.card / 2 + 1 ≤
        (lastStatus fourDiskful results).quorum := by
  refine ⟨rfl, by decide +kernel, ?_⟩
  exact exists_of_decide (by decide +kernel)

def followed : List Observation :=
  [ plainObservation ([0, 1, 2, 3].map (plainReplica · .diskful 7)) [plainRequest 3 .leave],
    plainObservation ([0, 1, 2, 3].map (plainReplica · .diskful 6)) [plainRequest 3 .leave],
    plainObservation ([0, 1, 2, 3].map (plainReplica · .diskful 5)) [plainRequest 3 .leave] ]

/-- After replica 3 has left, the object of replica 2 is gone too. -/
theorem quorum_ge_majority_forced :
    ∃ results, run fourDiskful
        (plainObservation ([0, 1].map (plainReplica · .diskful 7)) [] :: followed) = some results ∧
      (∃ r ∈ results, ∃ ev ∈ r.log, ev.transition.type = .forceRemoveReplica ∧
        ev.transition.replica = some 2) ∧
      (lastStatus fourDiskful results).voters = {0, 1} ∧
      ∀ p ∈ published fourDiskful results, p.voters.card / 2 + 1 ≤ p.quorum := by
  obtain ⟨results, hresults, hforced, hvoters, htimely⟩ : ∃ results, run fourDiskful
        (plainObservation ([0, 1].map (plainReplica · .diskful 7)) [] :: followed) = some results ∧
      (∃ r ∈ results, ∃ ev ∈ r.log, ev.transition.type = .forceRemoveReplica ∧
        ev.transition.replica = some 2) ∧
      (lastStatus fourDiskful results).voters = {0, 1} ∧
      ∀ r ∈ results, ∀ ev ∈ r.log, ¬(meshEvent ev).Untimely :=
    exists_of_decide (by decide +kernel)
  exact ⟨results, hresults, hforced, hvoters,
    quorum_ge_majority rfl (by decide +kernel) hresults htimely⟩

def Mesh.Later (m' m : Mesh) : Prop :=
  m.revision ≤ m'.revision ∧
    (m.revision = m'.revision → m.content.configuration = m'.content.configuration)

variable {env : Env} {m m₁ m₂ : Mesh}

theorem Mesh.Later.refl : m.Later m := ⟨le_rfl, fun _ => rfl⟩

theorem Mesh.Later.trans (h : m₁.Later m) (h' : m₂.Later m₁) : m₂.Later m := by
  refine ⟨h.1.trans h'.1, fun heq => ?_⟩
  have hmid : m.revision = m₁.revision := h.1.antisymm (heq ▸ h'.1)
  exact (h.2 hmid).trans (h'.2 (hmid ▸ heq))

theorem MeshStep.later {before : List MeshEvent} {ev : MeshEvent}
    (h : MeshStep env before m ev m₁) : m₁.Later m := by
  cases h with
  | advance _ hspec hs _ _ hcompleted _ hbump =>
    refine ⟨hbump.lower, fun hrev => ?_⟩
    rw [Mesh.moved, hbump.keep hrev.symm, hcompleted,
      onComplete_configuration (lookup_eq_some hspec).1 (List.mem_of_getElem? hs)]
  | complete _ hspec hs _ _ hcompleted =>
    refine ⟨le_rfl, fun _ => ?_⟩
    rw [Mesh.dropped, hcompleted,
      onComplete_configuration (lookup_eq_some hspec).1 (List.mem_of_getElem? hs)]
  | dispatch => exact .refl
  | cancel _ _ _ hcancel =>
    cases hcancel
    exact .refl
  | create _ _ _ hcreate =>
    cases hcreate with
    | create _ _ _ _ _ _ hbump =>
      exact ⟨hbump.lower, fun hrev => congrArg _ (hbump.keep hrev.symm).symm⟩

theorem MeshRun.later {evs : List MeshEvent} (h : MeshRun env m evs m₁) : m₁.Later m := by
  induction h with
  | refl => exact .refl
  | step _ hstep ih => exact ih.trans hstep.later

/-- No status published before has a greater revision, or the same one for another configuration. -/
theorem published_later {st : Status} {obs : List Observation}
    {results : List CycleResult} (hst : st.WellFormed) (hrun : run st obs = some results) :
    ∀ p ∈ published st results, (lastStatus st results).mesh.Later p.mesh := by
  induction obs generalizing results with
  | nil =>
    cases hrun
    exact List.forall_mem_singleton.mpr .refl
  | cons o obs ih =>
    obtain ⟨earlier, hearlier, r, hr, rfl⟩ := run_cons hrun
    have hwf := (run_history hst hearlier (runAllowed_true _ _) (runObserved_true .none _ _ _)).1
    obtain ⟨-, m', hfollows, hmesh⟩ := cycle_follows hwf hr
    refine List.forall_mem_cons.mpr ⟨.refl, fun p hp => ?_⟩
    change r.status.mesh.Later p.mesh
    rw [hmesh]
    exact (ih hearlier p hp).trans hfollows.later

theorem published_later_followed :
    ∃ results, run fourDiskful followed = some results ∧
      ∀ p ∈ published fourDiskful results, (lastStatus fourDiskful results).mesh.Later p.mesh := by
  have hresults := (Option.some_get (x := run fourDiskful followed) (by decide +kernel)).symm
  exact ⟨_, hresults, published_later (Status.wellFormed_of_no_transitions rfl) hresults⟩

end ReplicatedVolume.Datamesh
