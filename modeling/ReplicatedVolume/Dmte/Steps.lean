import ReplicatedVolume.Dmte.Outcomes

/-!
# The current step of a transition

The engine finds the current step by looking for the first one that is not
completed. Messages and revisions do not move it, advancing moves it by one,
and a new transition starts at its first step.
-/

namespace ReplicatedVolume.Dmte
open Option

variable {s : TransitionStep} {t : Transition}

theorem findCurrentStepIdx_eq_some {idx : ℕ} :
    findCurrentStepIdx t = some idx ↔ ∃ h : idx < t.steps.length,
      (t.steps[idx]).status ≠ .completed ∧
        ∀ j, (hj : j < idx) → (t.steps[j]).status = .completed := by
  simp [findCurrentStepIdx, List.findIdx?_eq_some_iff_getElem]

theorem findCurrentStepIdx_setStep {idx : ℕ}
    (s' : TransitionStep) (hs : t.steps[idx]? = some s) (hstatus : s'.status = s.status) :
    findCurrentStepIdx (t.setStep idx s') = findCurrentStepIdx t := by
  have hmap : (t.setStep idx s').steps.map (·.status) = t.steps.map (·.status) := by
    apply List.ext_getElem?
    intro j
    by_cases hj : idx = j
    · subst hj
      obtain ⟨hlt, heq⟩ := List.getElem?_eq_some_iff.mp hs
      simp [Transition.setStep, hlt, hstatus, heq]
    · simp [Transition.setStep, hj]
  have hfind : ∀ t : Transition, findCurrentStepIdx t =
      (t.steps.map (·.status)).findIdx? (· != .completed) := by
    intro t
    rw [List.findIdx?_map]
    rfl
  rw [hfind, hfind, hmap]

@[simp]
theorem setStep_getElem?_self (t : Transition) (idx : ℕ) (s : TransitionStep) :
    (t.setStep idx s).steps[idx]? = t.steps[idx]?.map fun _ => s := by
  by_cases h : idx < t.steps.length
  · simp [Transition.setStep, h]
  · simp [Transition.setStep, h]

@[simp]
theorem setStep_length (t : Transition) (idx : ℕ) (s : TransitionStep) :
    (t.setStep idx s).steps.length = t.steps.length := by
  simp [Transition.setStep]

@[simp]
theorem advanceStep_length (t : Transition) (idx : ℕ) :
    (advanceStep t idx).steps.length = t.steps.length := by
  simp [advanceStep]

theorem advanceStep_getElem? (t : Transition) (idx j : ℕ) :
    (advanceStep t idx).steps[j]? =
      if j = idx then t.steps[j]?.map (TransitionStep.withStatus .completed)
      else if j = idx + 1 then t.steps[j]?.map (TransitionStep.withStatus .active)
      else t.steps[j]? := by
  simp only [advanceStep, List.getElem?_modify]
  by_cases h : j = idx
  · subst h
    simp
  · by_cases h' : j = idx + 1
    · subst h'
      simp
    · have hne : ¬idx = j := fun heq => h heq.symm
      have hne' : ¬idx + 1 = j := fun heq => h' heq.symm
      simp [h, h', hne, hne']

theorem findCurrentStepIdx_advanceStep {idx : ℕ}
    (h : findCurrentStepIdx t = some idx) (hlt : idx + 1 < t.steps.length) :
    findCurrentStepIdx (advanceStep t idx) = some (idx + 1) := by
  obtain ⟨hidx, -, hdone⟩ := findCurrentStepIdx_eq_some.mp h
  have hget : ∀ j (hj : j < (advanceStep t idx).steps.length),
      some ((advanceStep t idx).steps[j]) = (advanceStep t idx).steps[j]? := by
    intro j hj
    rw [List.getElem?_eq_getElem hj]
  refine findCurrentStepIdx_eq_some.mpr ⟨by simpa using hlt, ?_, ?_⟩
  · have hsome := hget (idx + 1) (by simpa using hlt)
    rw [advanceStep_getElem?, List.getElem?_eq_getElem hlt] at hsome
    simp only [Nat.add_eq_left, one_ne_zero, if_false, if_true, map_some, some.injEq] at hsome
    rw [hsome]
    simp [TransitionStep.withStatus]
  · intro j hj
    have hjt : j < t.steps.length := by omega
    have hsome := hget j (by simpa using hjt)
    rw [advanceStep_getElem?, List.getElem?_eq_getElem hjt] at hsome
    by_cases heq : j = idx
    · simp only [heq, if_true, map_some, some.injEq] at hsome
      subst heq
      rw [hsome]
      rfl
    · have hne : j ≠ idx + 1 := by omega
      simp only [heq, hne, if_false, some.injEq] at hsome
      rw [hsome]
      exact hdone j (by omega)

section
variable {G R : Type}

theorem findCurrentStepIdx_of_active
    (h : t.steps[0]? = some s) (hs : s.status ≠ .completed) :
    findCurrentStepIdx t = some 0 := by
  obtain ⟨hlt, heq⟩ := List.getElem?_eq_some_iff.mp h
  exact findCurrentStepIdx_eq_some.mpr ⟨hlt, by rwa [heq], by simp⟩

variable (p : Plan G R) (planID : PlanID) (replica : Option ReplicaID)

theorem blankTransition_steps :
    (blankTransition p planID replica).steps.length = p.steps.length := by
  simp [blankTransition]

theorem blankTransition_head (h : (blankTransition p planID replica).steps[0]? = some s) :
    s.status = .active := by
  simp only [blankTransition, List.getElem?_modify, List.getElem?_map] at h
  cases hstep : p.steps[0]? with
  | none => simp [hstep] at h
  | some step =>
    simp only [hstep, map_some, if_true, map_eq_map, some.injEq] at h
    rw [← h]
    rfl

end

end ReplicatedVolume.Dmte
