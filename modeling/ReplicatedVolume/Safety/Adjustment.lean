import ReplicatedVolume.Datamesh.Dispatch

/-!
# Adjusting the quorum

Each step of a ChangeQuorum plan computes the correct values anew from the context of its cycle.
With the same voters, up-to-date replicas and configuration throughout, both steps aim at what was
computed when the plan was chosen.
-/

namespace ReplicatedVolume.Datamesh
open Dmte List Option

variable {s : StepSpec} {steps : List StepSpec}

structure Unmoved (g g' : GlobalContext) : Prop where
  voters : voters g' = voters g
  upToDate : upToDateDiskfulCount g' = upToDateDiskfulCount g
  configuration : g'.configuration = g.configuration
  quorum : g'.quorum = g.quorum
  quorumMinimumRedundancy : g'.quorumMinimumRedundancy = g.quorumMinimumRedundancy

structure Aims (g h : GlobalContext) : Prop where
  voters : voters h = voters g
  upToDate : upToDateDiskfulCount h = upToDateDiskfulCount g
  configuration : h.configuration = g.configuration
  quorum : h.quorum = g.quorum ∨ h.quorum = (computeCorrectQuorum g).1
  quorumMinimumRedundancy : h.quorumMinimumRedundancy = g.quorumMinimumRedundancy ∨
    h.quorumMinimumRedundancy = (computeCorrectQuorum g).2

variable {g h h' : GlobalContext}

theorem Aims.refl (g : GlobalContext) : Aims g g := ⟨rfl, rfl, rfl, .inl rfl, .inl rfl⟩

theorem Aims.unmoved (hg : Aims g h) (hunmoved : Unmoved h h') : Aims g h' where
  voters := hunmoved.voters.trans hg.voters
  upToDate := hunmoved.upToDate.trans hg.upToDate
  configuration := hunmoved.configuration.trans hg.configuration
  quorum := by
    rw [hunmoved.quorum]
    exact hg.quorum
  quorumMinimumRedundancy := by
    rw [hunmoved.quorumMinimumRedundancy]
    exact hg.quorumMinimumRedundancy

theorem Aims.correct (hg : Aims g h) : computeCorrectQuorum h = computeCorrectQuorum g := by
  have hqmr := hg.quorumMinimumRedundancy
  simp only [computeCorrectQuorum, voterCount, hg.voters, hg.upToDate, hg.configuration,
    Prod.mk.injEq, true_and] at hqmr ⊢
  split at hqmr <;> split <;> omega

/-- The step does not ask for more copies than there are, nor for a quorum below the majority. -/
structure Modest (before after : GlobalContext) : Prop where
  redundancy : before.quorumMinimumRedundancy < after.quorumMinimumRedundancy →
    after.quorumMinimumRedundancy ≤ upToDateDiskfulCount after
  majority : after.quorum ≠ before.quorum → voterCount after / 2 + 1 ≤ after.quorum

theorem setCorrectQ_aims (hg : Aims g h) :
    Aims g (setCorrectQ h).1 ∧ (setCorrectQ h).1.quorum = (computeCorrectQuorum g).1 := by
  have hq : (setCorrectQ h).1.quorum = (computeCorrectQuorum g).1 := by
    rw [← hg.correct]
    rfl
  exact ⟨⟨hg.voters, hg.upToDate, hg.configuration, .inr hq, hg.quorumMinimumRedundancy⟩, hq⟩

theorem setCorrectQMR_aims (hg : Aims g h) :
    Aims g (setCorrectQMR h).1 ∧
      (setCorrectQMR h).1.quorumMinimumRedundancy = (computeCorrectQuorum g).2 := by
  have hqmr : (setCorrectQMR h).1.quorumMinimumRedundancy = (computeCorrectQuorum g).2 := by
    rw [← hg.correct]
    rfl
  exact ⟨⟨hg.voters, hg.upToDate, hg.configuration, hg.quorum, .inr hqmr⟩, hqmr⟩

theorem setCorrectQ_modest (h : GlobalContext) : Modest h (setCorrectQ h).1 :=
  ⟨fun hlt => absurd hlt (lt_irrefl _), fun _ => le_refl _⟩

theorem setCorrectQMR_modest (h : GlobalContext) : Modest h (setCorrectQMR h).1 := by
  constructor
  · intro hlt
    show (computeCorrectQuorum h).2 ≤ upToDateDiskfulCount h
    have hlt : h.quorumMinimumRedundancy < (computeCorrectQuorum h).2 := hlt
    simp only [computeCorrectQuorum] at hlt ⊢
    split at hlt <;> split <;> omega
  · exact fun hne => absurd rfl hne

/-- The steps of a plan, each applied to a context as its cycle finds it and completed in a later
one. The list holds the context before and after each apply: what is published. -/
inductive StepsRun : List StepSpec → GlobalContext → List (GlobalContext × GlobalContext) →
    GlobalContext → Prop where
  | done {g g' : GlobalContext} (wait : Unmoved g g') : StepsRun [] g [] g'
  | step {s : StepSpec} {steps : List StepSpec} {g g₁ g₂ g₃ g₄ g' : GlobalContext}
      {applied completed : Bool} {published : List (GlobalContext × GlobalContext)}
      (dispatch : Unmoved g g₁) (apply : runApplies s.apply g₁ none = some (g₂, applied))
      (confirm : Unmoved g₂ g₃) (complete : runApplies s.onComplete g₃ none = some (g₄, completed))
      (rest : StepsRun steps g₄ published g') :
      StepsRun (s :: steps) g ((g₁, g₂) :: published) g'

inductive QuorumStep : StepSpec → Prop where
  | q (name : String) : QuorumStep (setQ name)
  | qmrUp : QuorumStep setQMRUp
  | qmrDown : QuorumStep setQMRDown

structure Attains (g h h' : GlobalContext) (s : StepSpec) : Prop where
  aims : Aims g h'
  q : .setCorrectQ ∈ s.apply ∨ h.quorum = (computeCorrectQuorum g).1 →
    h'.quorum = (computeCorrectQuorum g).1
  qmr : .setCorrectQMR ∈ s.apply ∨ h.quorumMinimumRedundancy = (computeCorrectQuorum g).2 →
    h'.quorumMinimumRedundancy = (computeCorrectQuorum g).2

theorem QuorumStep.apply_attains {applied : Bool} (hs : QuorumStep s)
    (hg : Aims g h) (happly : runApplies s.apply h none = some (h', applied)) :
    Attains g h h' s ∧ Modest h h' := by
  cases hs with
  | q name =>
    obtain ⟨rfl, -⟩ := Prod.mk.inj (some.inj happly)
    obtain ⟨haims, hq⟩ := setCorrectQ_aims hg
    refine ⟨⟨haims, fun _ => hq, fun hqmr => hqmr.resolve_left ?_⟩, setCorrectQ_modest h⟩
    simp [setQ, mkStep]
  | qmrUp | qmrDown =>
    obtain ⟨rfl, -⟩ := Prod.mk.inj (some.inj happly)
    obtain ⟨haims, hqmr⟩ := setCorrectQMR_aims hg
    have hmodest := setCorrectQMR_modest h
    refine ⟨⟨⟨haims.voters, haims.upToDate, haims.configuration, haims.quorum,
      haims.quorumMinimumRedundancy⟩, fun hq => hq.resolve_left ?_, fun _ => hqmr⟩,
      ⟨hmodest.redundancy, hmodest.majority⟩⟩
    simp [setQMRUp, setQMRDown, mkStep, StepSpec.withOnComplete]

theorem QuorumStep.complete_unmoved {completed : Bool} (hs : QuorumStep s)
    (hcomplete : runApplies s.onComplete h none = some (h', completed)) : Unmoved h h' := by
  cases hs <;> obtain ⟨rfl, -⟩ := Prod.mk.inj (some.inj hcomplete) <;>
    exact ⟨rfl, rfl, rfl, rfl, rfl⟩

theorem stepsRun_attains {published : List (GlobalContext × GlobalContext)}
    (hrun : StepsRun steps h published h') (hsteps : ∀ s ∈ steps, QuorumStep s) (hg : Aims g h) :
    Aims g h' ∧ (∀ p ∈ published, Modest p.1 p.2 ∧ Aims g p.2 ∧
        ((steps.head?.any (.setCorrectQ ∈ ·.apply)) = true ∨
          h.quorum = (computeCorrectQuorum g).1 → p.2.quorum = (computeCorrectQuorum g).1)) ∧
      ((∃ s ∈ steps, .setCorrectQ ∈ s.apply) ∨ h.quorum = (computeCorrectQuorum g).1 →
        h'.quorum = (computeCorrectQuorum g).1) ∧
      ((∃ s ∈ steps, .setCorrectQMR ∈ s.apply) ∨
          h.quorumMinimumRedundancy = (computeCorrectQuorum g).2 →
        h'.quorumMinimumRedundancy = (computeCorrectQuorum g).2) := by
  induction hrun with
  | done wait =>
    refine ⟨hg.unmoved wait, by simp, ?_, ?_⟩
    · simp [wait.quorum]
    · simp [wait.quorumMinimumRedundancy]
  | @step s steps h g1 g2 g3 g4 h' _ _ published dispatch apply confirm complete rest ih =>
    have hs := hsteps s mem_cons_self
    obtain ⟨hattains, hmodest⟩ := hs.apply_attains (hg.unmoved dispatch) apply
    have hcomplete := hs.complete_unmoved complete
    obtain ⟨haims, hpublished, hq, hqmr⟩ := ih
      (fun s' hs' => hsteps s' (mem_cons_of_mem s hs'))
      ((hattains.aims.unmoved confirm).unmoved hcomplete)
    have hkept := hcomplete.quorum.trans confirm.quorum
    refine ⟨haims, ?_, fun h0 => hq ?_, fun h0 => hqmr ?_⟩
    · -- Once the right quorum is published, it stays.
      have hfirst : ((s :: steps).head?.any (.setCorrectQ ∈ ·.apply)) = true ∨
          h.quorum = (computeCorrectQuorum g).1 → g2.quorum = (computeCorrectQuorum g).1 := by
        rw [head?_cons, any_some, decide_eq_true_eq]
        exact fun h0 => hattains.q (h0.imp_right dispatch.quorum.trans)
      intro p hp
      rcases mem_cons.mp hp with rfl | hp
      · exact ⟨hmodest, hattains.aims, hfirst⟩
      · obtain ⟨hp, haims, hq⟩ := hpublished p hp
        exact ⟨hp, haims, fun h0 => hq (.inr (hkept.trans (hfirst h0)))⟩
    · rw [hkept]
      rcases h0 with ⟨s', hs', hmem⟩ | h0
      · rcases mem_cons.mp hs' with rfl | hs'
        · exact .inr (hattains.q (.inl hmem))
        · exact .inl ⟨s', hs', hmem⟩
      · exact .inr (hattains.q (.inr (dispatch.quorum.trans h0)))
    · rw [hcomplete.quorumMinimumRedundancy, confirm.quorumMinimumRedundancy]
      rcases h0 with ⟨s', hs', hmem⟩ | h0
      · rcases mem_cons.mp hs' with rfl | hs'
        · exact .inr (hattains.qmr (.inl hmem))
        · exact .inl ⟨s', hs', hmem⟩
      · exact .inr (hattains.qmr (.inr (dispatch.quorumMinimumRedundancy.trans h0)))

theorem quorumPlans_steps : ∀ spec ∈ quorumPlans, (∀ s ∈ spec.steps, QuorumStep s) ∧
    (∃ s ∈ spec.steps, .setCorrectQ ∈ s.apply) ∧ ∃ s ∈ spec.steps, .setCorrectQMR ∈ s.apply := by
  intro spec hspec
  simp only [quorumPlans, mem_cons, not_mem_nil, or_false] at hspec
  rcases hspec with rfl | rfl | rfl | rfl <;>
    refine ⟨?_, by decide, by decide⟩ <;> intro s hs <;>
    simp only [quorumPlan, globalPlan, mem_cons, not_mem_nil, or_false] at hs <;>
    rcases hs with rfl | rfl <;> constructor

theorem quorumPlans_lookup :
    ∀ id ∈ [PlanID.lowerQRaiseQmr, .raiseQLowerQmr, .raise, .lower], ∃ spec ∈ quorumPlans,
      lookup .changeQuorum id = some spec ∧
        (id ≠ .lower → (spec.steps.head?.any (.setCorrectQ ∈ ·.apply)) = true) := by
  decide

/-- A quorum that is to be raised is set in the first step. -/
theorem selectQuorumPlan_registered (expectedQ currentQ expectedQMR currentQMR : ℕ) :
    ∃ spec ∈ quorumPlans, lookup .changeQuorum
        (selectQuorumPlan expectedQ currentQ expectedQMR currentQMR) = some spec ∧
      (currentQ < expectedQ → (spec.steps.head?.any (.setCorrectQ ∈ ·.apply)) = true) := by
  unfold selectQuorumPlan
  split_ifs <;>
    refine (quorumPlans_lookup _ ?_).imp fun spec h => ⟨h.1, h.2.1, fun hlow => h.2.2 ?_⟩
  case neg.refine_2 => omega
  all_goals decide

theorem Unmoved.refl (g : GlobalContext) : Unmoved g g := ⟨rfl, rfl, rfl, rfl, rfl⟩

theorem QuorumStep.runs (hs : QuorumStep s) (h : GlobalContext) :
    ∃ h1 h2 applied completed, runApplies s.apply h none = some (h1, applied) ∧
      runApplies s.onComplete h1 none = some (h2, completed) := by
  cases hs <;> exact ⟨_, _, _, _, rfl, rfl⟩

theorem stepsRun_exists (hsteps : ∀ s ∈ steps, QuorumStep s)
    (h : GlobalContext) : ∃ published h', StepsRun steps h published h' := by
  induction steps generalizing h with
  | nil => exact ⟨[], h, .done (.refl h)⟩
  | cons s steps ih =>
    obtain ⟨h1, h2, _, _, happly, hcomplete⟩ := (hsteps s mem_cons_self).runs h
    obtain ⟨published, h', hrest⟩ := ih (fun s' hs' => hsteps s' (mem_cons_of_mem s hs')) h2
    exact ⟨_, h', .step (.refl h) happly (.refl h1) hcomplete hrest⟩

theorem decideQuorum_eq_none
    (hcorrect : computeCorrectQuorum g = (g.quorum, g.quorumMinimumRedundancy)) :
    decideQuorum g = none := by
  unfold decideQuorum
  rw [hcorrect]
  simp

/-- Whatever plan is selected, it can be run, and a run ends at the values that were correct when
it began, with nothing left to dispatch and nothing excessive published on the way. No quorum below
the majority is published by the plan that was selected for the quorum found. -/
theorem changeQuorum_converges (g : GlobalContext) (expectedQ currentQ expectedQMR currentQMR : ℕ) :
    ∃ spec, lookup .changeQuorum (selectQuorumPlan expectedQ currentQ expectedQMR currentQMR) =
        some spec ∧
      (∃ published g', StepsRun spec.steps g published g') ∧
      ∀ published g', StepsRun spec.steps g published g' →
        (g'.quorum, g'.quorumMinimumRedundancy) = computeCorrectQuorum g ∧
        computeCorrectQuorum g' = (g'.quorum, g'.quorumMinimumRedundancy) ∧
        decideQuorum g' = none ∧ (∀ p ∈ published, Modest p.1 p.2) ∧
        (expectedQ = (computeCorrectQuorum g).1 → currentQ = g.quorum →
          ∀ p ∈ published, voterCount p.2 / 2 + 1 ≤ p.2.quorum) := by
  obtain ⟨spec, hmem, hlookup, hraises⟩ :=
    selectQuorumPlan_registered expectedQ currentQ expectedQMR currentQMR
  obtain ⟨hsteps, hsetsQ, hsetsQMR⟩ := quorumPlans_steps spec hmem
  refine ⟨spec, hlookup, stepsRun_exists hsteps g, fun published g' hrun => ?_⟩
  obtain ⟨haims, hpublished, hq, hqmr⟩ := stepsRun_attains hrun hsteps (Aims.refl g)
  have hvalues : (g'.quorum, g'.quorumMinimumRedundancy) = computeCorrectQuorum g :=
    Prod.ext (hq (.inl hsetsQ)) (hqmr (.inl hsetsQMR))
  have hcorrect : computeCorrectQuorum g' = (g'.quorum, g'.quorumMinimumRedundancy) :=
    haims.correct.trans hvalues.symm
  refine ⟨hvalues, hcorrect, decideQuorum_eq_none hcorrect, fun p hp => (hpublished p hp).1, ?_⟩
  rintro rfl rfl p hp
  obtain ⟨-, haims, hright⟩ := hpublished p hp
  have hmajority : voterCount p.2 / 2 + 1 = (computeCorrectQuorum g).1 := by
    rw [voterCount, haims.voters]
    rfl
  have hpast := haims.quorum
  by_cases hlow : g.quorum < (computeCorrectQuorum g).1
  · rw [hright (.inl (hraises hlow)), hmajority]
  · omega

end ReplicatedVolume.Datamesh
