import ReplicatedVolume.Library.Admission
import ReplicatedVolume.Volume.Configuration

/-!
# The rollout budget under stale listings

Each worker has the newest version of its own volume and a listing of the others that may lag
behind. The outstanding volumes stay within `maxParallel` if admitted volumes were in the queue in
all versions a listing may serve, and nobody takes an outstanding volume out of the rollout.
-/

namespace ReplicatedVolume.Volume
open Datamesh List

section
variable {rv member : RV} {listed : List RV} {intended : Configuration} {generation : ℕ}

theorem mem_foldl_members (acc : List RV × Bool) (h : member ∈ acc.1 ∨
    member ∈ listed ∧ member.name ≠ rv.name) :
    member ∈ (listed.foldl (fun (acc : List RV × Bool) listed =>
      if listed.name ≠ rv.name then (acc.1 ++ [listed], acc.2)
      else if acc.2 then acc else (acc.1 ++ [rv], true)) acc).1 := by
  induction listed generalizing acc with
  | nil => simpa using h
  | cons v listed ih =>
    rw [foldl_cons]
    apply ih
    rcases h with h | ⟨h, hne⟩
    · left
      split_ifs <;> simp [h]
    · rcases mem_cons.mp h with rfl | h
      · left
        simp [hne]
      · exact .inr ⟨h, hne⟩

theorem mem_rolloutMembers (h : member ∈ listed) (hne : member.name ≠ rv.name) :
    member ∈ rolloutMembers rv listed := by
  have hmem := mem_foldl_members ([], false) (.inr ⟨h, hne⟩)
  unfold rolloutMembers
  simp only
  split_ifs
  · exact hmem
  · exact mem_append_left _ hmem

theorem self_mem_rolloutMembers : rv ∈ rolloutMembers rv listed := by
  have hfold : ∀ acc : List RV × Bool, (acc.2 = true → rv ∈ acc.1) →
      (listed.foldl (fun (acc : List RV × Bool) listed =>
        if listed.name ≠ rv.name then (acc.1 ++ [listed], acc.2)
        else if acc.2 then acc else (acc.1 ++ [rv], true)) acc).2 = true →
      rv ∈ (listed.foldl (fun (acc : List RV × Bool) listed =>
        if listed.name ≠ rv.name then (acc.1 ++ [listed], acc.2)
        else if acc.2 then acc else (acc.1 ++ [rv], true)) acc).1 := by
    induction listed with
    | nil => exact fun acc h => h
    | cons v listed ih =>
      intro acc h
      rw [foldl_cons]
      apply ih
      split_ifs with hne hflag
      · intro hflag
        exact mem_append_left _ (h hflag)
      · exact h
      · simp
  unfold rolloutMembers
  simp only
  split_ifs with hflag
  · exact hfold ([], false) (by simp) hflag
  · simp

def takesSlot (rv : RV) (intended : Configuration) (generation : ℕ) (member : RV) : Bool :=
  let role := computeActualRolloutRole member rv.replicatedStorageClassName intended generation
  role = .active || (role = .pending && member.name < rv.name)

theorem countP_takesSlot (rv : RV) (members : List RV) (intended : Configuration) (generation : ℕ) :
    members.countP (takesSlot rv intended generation) =
      members.countP (fun m => computeActualRolloutRole m rv.replicatedStorageClassName intended
        generation = .active) +
      ((members.filter fun m => computeActualRolloutRole m rv.replicatedStorageClassName intended
        generation = .pending).map (·.name)).countP (· < rv.name) := by
  induction members with
  | nil => rfl
  | cons m members ih =>
    rw [countP_cons, countP_cons, filter_cons, ih]
    by_cases hlt : m.name < rv.name
    all_goals
      cases hrole : computeActualRolloutRole m rv.replicatedStorageClassName intended generation
      all_goals
        simp only [takesSlot, hrole, hlt, map_cons, countP_cons, decide_true,
          decide_false, reduceCtorEq, Bool.or_false, Bool.false_or, Bool.and_true, Bool.and_false,
          if_true, Bool.false_eq_true, if_false]
        omega

/-- An admitted volume that was waiting sees fewer than `maxParallel` others that
take a slot from it. -/
theorem slots_lt_of_admission {maxParallel : ℤ} (hpending : computeActualRolloutRole rv
      rv.replicatedStorageClassName intended generation = .pending)
    (h : computeTargetRolloutAdmission rv (computeActualRolloutCohort rv listed intended generation)
      maxParallel = true) :
    ((rolloutMembers rv listed).countP (takesSlot rv intended generation) : ℤ) < maxParallel := by
  unfold computeTargetRolloutAdmission at h
  split at h
  · next hnone =>
      have hmem : rv.name ∈ (computeActualRolloutCohort rv listed intended
          generation).pendingNames := by
        refine (mem_insertionSort _).mpr (mem_map_of_mem ?_)
        exact mem_filter.mpr ⟨self_mem_rolloutMembers, by simpa using hpending⟩
      exact absurd hmem (List.idxOf?_eq_none_iff.mp hnone)
  · next position hposition =>
      have hcount := Admission.idxOf_insertionSort hposition
      rw [decide_eq_true_eq] at h
      have hslots := countP_takesSlot rv (rolloutMembers rv listed) intended generation
      have hactive : (computeActualRolloutCohort rv listed intended generation).activeCount =
          (rolloutMembers rv listed).countP (fun m => computeActualRolloutRole m
            rv.replicatedStorageClassName intended generation = .active) := rfl
      rw [← hactive, ← hcount] at hslots
      omega

end

/-- A storage class that stays as it is, the names of all volumes of the run, and
for each the oldest version that a listing may still serve. -/
structure Setting where
  rsc : RSC
  intended : Configuration
  published : rsc.configuration = some intended
  names : List String
  oldest : String → ℕ

namespace Setting
variable (S : Setting)

def role (rv : RV) : RolloutRole :=
  computeActualRolloutRole rv S.rsc.name S.intended S.rsc.configurationGeneration

def Counted (rv : RV) : Prop := S.role rv = .pending ∨ S.role rv = .active

instance (rv : RV) : Decidable (S.Counted rv) := inferInstanceAs (Decidable (_ ∨ _))

end Setting

/-- All versions of the volumes so far, `none` where there is no object, and the
volumes that were admitted and have not published a Converged verdict since. -/
structure World (S : Setting) where
  versions : String → List (Option RV)
  outstanding : Finset String
  listed : ∀ n, S.oldest n < (versions n).length
  named : ∀ n rv, some rv ∈ versions n → rv.name = n

inductive Action where
  /-- Anybody creates, changes or removes a volume. -/
  | write (name : String) (version : Option RV)
  /-- A worker reconciles a volume: `position` is what its listing serves of the
  others, `result` the version that it writes in the end. -/
  | pass (name : String) (position : String → ℕ) (zoneCount : Except PoolError ℕ) (result : RV)

namespace World
variable {S : Setting}

def version (w : World S) (n : String) (i : ℕ) : Option RV := ((w.versions n)[i]?).join

def current (w : World S) (n : String) : Option RV := w.version n ((w.versions n).length - 1)

def listing (w : World S) (position : String → ℕ) : List RV :=
  (S.names.filterMap fun n => w.version n (position n)).filter
    (·.replicatedStorageClassName = S.rsc.name)

def publish (w : World S) (name : String) (v : Option RV) (admitted : Bool)
    (hname : ∀ rv, v = some rv → rv.name = name) : World S where
  versions := Function.update w.versions name (w.versions name ++ [v])
  outstanding :=
    if v.all publishedConverged then w.outstanding.erase name
    else if admitted then insert name w.outstanding else w.outstanding
  listed n := by
    have hold := w.listed n
    by_cases h : n = name
    · subst h
      simpa using Nat.lt_succ_of_lt hold
    · simpa [h] using hold
  named n rv hrv := by
    by_cases h : n = name
    · subst h
      rw [Function.update_self, mem_append, mem_singleton] at hrv
      rcases hrv with hrv | hrv
      · exact w.named n rv hrv
      · exact hname rv hrv.symm
    · rw [Function.update_of_ne h] at hrv
      exact w.named n rv hrv

def Serves (w : World S) (position : String → ℕ) : Prop :=
  ∀ n ∈ S.names, S.oldest n ≤ position n ∧ position n < (w.versions n).length

instance (w : World S) (position : String → ℕ) : Decidable (w.Serves position) :=
  inferInstanceAs (Decidable (∀ n ∈ S.names, _))

def reconciled (w : World S) (rv : RV) (position : String → ℕ) (zoneCount : Except PoolError ℕ) :
    Option RV :=
  (reconcileRVConfiguration (fun _ => zoneCount) (.ok (w.listing position)) rv (some S.rsc)).map
    (·.1)

end World

def admits (rv rv' : RV) : Bool :=
  rv.configurationMode = .auto && rv.configuration.isSome && rv'.configuration != rv.configuration

/-- The rest of a pass changes conditions and the datamesh; formation does not start
again. -/
def followsFrom (rv rv' result : RV) : Bool :=
  result = { rv' with
    conditions := result.conditions
    datameshRevision := result.datameshRevision
    datameshTransitions := result.datameshTransitions } &&
  (!(isFormationInProgress result).1 || (isFormationInProgress rv).1)

namespace World
variable {S : Setting}

def step (w : World S) : Action → Option (World S)
  | .write name v =>
    if h : name ∈ S.names ∧ ∀ rv, v = some rv → rv.name = name then
      some (w.publish name v false h.2)
    else none
  | .pass name position zoneCount result => do
      let rv ← w.current name
      let rv' ← w.reconciled rv position zoneCount
      if h : name ∈ S.names ∧ rv.replicatedStorageClassName = S.rsc.name ∧ w.Serves position ∧
          followsFrom rv rv' result = true ∧ result.name = name then
        some (w.publish name (some result) (admits rv rv') fun _ hrv => by
          cases hrv
          exact h.2.2.2.2)
      else none

def steps (w : World S) : List Action → Option (World S)
  | [] => some w
  | a :: as => (w.step a).bind (steps · as)

end World

section
variable {zoneCount : String → Except PoolError ℕ} {listed : List RV} {rv rv' : RV} {rsc : RSC}
  {intended : Configuration} {out : Outcome}

/-- A volume of a class keeps its content, with the generation following if the
content is the intended one, or it passes the gate and stores the intended one. -/
theorem reconcileRVConfiguration_auto (hauto : rv.configurationMode = .auto)
    (hrsc : rsc.configuration = some intended) (hsome : rv.configuration.isSome = true)
    (h : reconcileRVConfiguration zoneCount (.ok listed) rv (some rsc) = some (rv', out)) :
    rv'.frame = rv.frame ∧
      (rv'.configuration = rv.configuration ∨
        rv.configuration ≠ some intended ∧ rv'.configuration = some intended ∧
          rv'.configurationGeneration = rsc.configurationGeneration ∧
          computeTargetRolloutAdmission rv (computeActualRolloutCohort rv listed intended
            rsc.configurationGeneration) (computeIntendedRolloutMaxParallel rsc) = true) := by
  unfold reconcileRVConfiguration computeIntent at h
  simp only [hauto, hrsc, hsome, Option.bind_eq_bind, and_true] at h
  split at h
  · rw [Option.bind_some] at h
    cases h
    exact (setStatusCondition_frame _ _ _ _ _).imp_right fun hkept => .inl hkept.1
  · simp only [Option.bind_some, Option.map_some, Option.getD_some, if_true] at h
    by_cases hsame : rv.configuration = some intended
    · rw [if_pos hsame] at h
      cases h
      exact (setStatusCondition_frame _ _ _ _ _).imp_right fun hkept => .inl hkept.1
    rw [if_neg hsame] at h
    split at h
    · cases h
      exact (setStatusCondition_frame _ _ _ _ _).imp_right fun hkept => .inl hkept.1
    cases hzones : validateZones zoneCount rv intended with
    | some result =>
      rw [hzones] at h
      cases h
      exact (validateZones_same hzones).imp_right fun hkept => .inl hkept.1
    | none =>
      rw [hzones] at h
      simp only at h
      split at h
      · next hgate =>
          cases h
          exact (setStatusCondition_frame _ _ _ _ _).imp_right fun ⟨hconfig, hgen⟩ =>
            .inr ⟨hsame, hconfig, hgen, hgate⟩
      · cases h
        exact (setStatusCondition_frame _ _ _ _ _).imp_right fun hkept => .inl hkept.1

end

namespace Setting
variable {S : Setting} {rv rv' result : RV}

def Belongs (S : Setting) (rv : RV) : Prop :=
  rv.deleting = false ∧ rv.configurationMode = .auto ∧
    rv.replicatedStorageClassName = S.rsc.name ∧ (isFormationInProgress rv).1 = false

theorem mode_ne_manual {mode : ConfigurationMode} : mode ≠ .manual ↔ mode = .auto := by
  cases mode <;> simp

theorem role_pending_iff : S.role rv = .pending ↔
    S.Belongs rv ∧ ∃ c, rv.configuration = some c ∧ c ≠ S.intended := by
  unfold role computeActualRolloutRole computeActualRolloutConvergence Belongs
  rw [← mode_ne_manual]
  cases rv.configuration <;> grind

theorem role_active_iff : S.role rv = .active ↔
    S.Belongs rv ∧ rv.configuration = some S.intended ∧
      (rv.configurationGeneration ≠ S.rsc.configurationGeneration ∨
        publishedConverged rv = false) := by
  unfold role computeActualRolloutRole computeActualRolloutConvergence Belongs
  rw [← mode_ne_manual]
  cases rv.configuration <;> grind

theorem Counted.belongs (h : S.Counted rv) : S.Belongs rv := by
  rcases h with h | h
  · exact (role_pending_iff.mp h).1
  · exact (role_active_iff.mp h).1

theorem Counted.isSome (h : S.Counted rv) : rv.configuration.isSome = true := by
  rcases h with h | h
  · obtain ⟨-, c, hc, -⟩ := role_pending_iff.mp h
    simp [hc]
  · simp [(role_active_iff.mp h).2.1]

theorem Belongs.follows (h : S.Belongs rv) (hframe : rv'.frame = rv.frame)
    (hresult : followsFrom rv rv' result = true) : S.Belongs result := by
  unfold followsFrom at hresult
  rw [Bool.and_eq_true, decide_eq_true_eq] at hresult
  obtain ⟨hsame, hforming⟩ := hresult
  obtain ⟨hdeleting, hmode, hclass, hformed⟩ := h
  have hdeleting' := congrArg RV.deleting hframe
  have hmode' := congrArg RV.configurationMode hframe
  have hclass' := congrArg RV.replicatedStorageClassName hframe
  rw [hformed, Bool.or_false, Bool.not_eq_true'] at hforming
  refine ⟨?_, ?_, ?_, hforming⟩
  · rw [hsame]
    exact hdeleting'.trans hdeleting
  · rw [hsame]
    exact hmode'.trans hmode
  · rw [hsame]
    exact hclass'.trans hclass

end Setting

namespace World
variable {S : Setting}

def Waited (w : World S) (name : String) : Prop :=
  ∀ i, S.oldest name ≤ i → i < (w.versions name).length →
    ∃ rv, w.version name i = some rv ∧ S.Counted rv

/-- Nobody takes an outstanding volume out of the rollout, and only volumes that
waited are admitted. -/
def Calm (w : World S) : Action → Prop
  | .write name v => name ∈ w.outstanding → ∀ rv, v = some rv → publishedConverged rv = false →
      S.role rv = .active
  | .pass name position zoneCount _ => ∀ rv rv', w.current name = some rv →
      w.reconciled rv position zoneCount = some rv' → admits rv rv' = true → w.Waited name

def CalmRun (w : World S) : List Action → Prop
  | [] => True
  | a :: as => w.Calm a ∧ ∀ w', w.step a = some w' → w'.CalmRun as

def accounted (w : World S) (position : String → ℕ) (y : String) : Finset String :=
  S.names.toFinset.filter fun x => x ≠ y ∧
    (w.version x (position x)).any (fun rv => S.role rv = .active ||
      (S.role rv = .pending && x < y)) = true

structure Budgeted (w : World S) : Prop where
  names : ∀ x ∈ w.outstanding, x ∈ S.names
  waited : ∀ x ∈ w.outstanding, w.Waited x
  active : ∀ x ∈ w.outstanding, ∃ rv, w.current x = some rv ∧ S.role rv = .active
  admitted : ∀ y ∈ w.outstanding, ∃ position, w.Serves position ∧
    (w.accounted position y).card < (computeIntendedRolloutMaxParallel S.rsc).toNat

theorem Budgeted.card_le {w : World S} (h : w.Budgeted) :
    w.outstanding.card ≤ (computeIntendedRolloutMaxParallel S.rsc).toNat := by
  choose! position hserves hfew using h.admitted
  refine Admission.card_le_of_accounted hfew fun y hy x hx hlt => ?_
  obtain ⟨hold, hnew⟩ := hserves y hy x (h.names x hx)
  obtain ⟨rv, hrv, hcounted⟩ := h.waited x hx _ hold hnew
  simp only [accounted, Finset.mem_filter, mem_toFinset, hrv, Option.any_some, Bool.or_eq_true,
    Bool.and_eq_true, decide_eq_true_eq]
  exact ⟨h.names x hx, hlt.ne, hcounted.symm.imp id fun hpending => ⟨hpending, hlt⟩⟩

section
variable {w : World S} {name : String} {v : Option RV} {admitted : Bool}
  {hname : ∀ rv, v = some rv → rv.name = name}

theorem publish_version {n : String} {i : ℕ} (hi : i < (w.versions n).length) :
    (w.publish name v admitted hname).version n i = w.version n i := by
  by_cases h : n = name
  · subst h
    simp [version, publish, List.getElem?_append_left hi]
  · simp [version, publish, h]

theorem publish_length_le (n : String) :
    (w.versions n).length ≤ ((w.publish name v admitted hname).versions n).length := by
  by_cases h : n = name
  · subst h
    simp [publish]
  · simp [publish, h]

theorem publish_current : (w.publish name v admitted hname).current name = v := by
  simp [current, version, publish]

theorem publish_current_of_ne {n : String} (h : n ≠ name) :
    (w.publish name v admitted hname).current n = w.current n := by
  simp [current, version, publish, h]

theorem publish_serves {position : String → ℕ} (h : w.Serves position) :
    (w.publish name v admitted hname).Serves position := fun n hn =>
  ⟨(h n hn).1, lt_of_lt_of_le (h n hn).2 (publish_length_le n)⟩

theorem publish_accounted {position : String → ℕ} (h : w.Serves position) (y : String) :
    (w.publish name v admitted hname).accounted position y = w.accounted position y := by
  apply Finset.filter_congr
  intro x hx
  rw [publish_version (h x (mem_toFinset.mp hx)).2]

theorem publish_waited {x : String} (hwaited : w.Waited x)
    (hnew : x = name → ∃ rv, v = some rv ∧ S.Counted rv) :
    (w.publish name v admitted hname).Waited x := by
  intro i hold hlt
  by_cases hi : i < (w.versions x).length
  · rw [publish_version hi]
    exact hwaited i hold hi
  · by_cases hx : x = name
    · subst hx
      have hlast : i = (w.versions x).length := by
        simp only [publish, Function.update_self, length_append, length_singleton] at hlt
        omega
      obtain ⟨rv, hv, hcounted⟩ := hnew rfl
      refine ⟨rv, ?_, hcounted⟩
      simp [version, publish, hlast, hv]
    · simp only [publish, Function.update_of_ne hx] at hlt
      exact absurd hlt hi

/-- Publishing a version keeps the budget if outstanding volumes stay active and
newly admitted ones waited. -/
theorem Budgeted.publish (h : w.Budgeted) (hmem : name ∈ S.names)
    (hactive : (name ∈ w.outstanding ∨ admitted = true) → ∀ rv, v = some rv →
      publishedConverged rv = false → S.role rv = .active)
    (hadmitted : admitted = true → w.Waited name ∧ ∃ position, w.Serves position ∧
      (w.accounted position name).card < (computeIntendedRolloutMaxParallel S.rsc).toNat) :
    (w.publish name v admitted hname).Budgeted := by
  have hout : ∀ x ∈ (w.publish name v admitted hname).outstanding,
      (x ∈ w.outstanding ∨ x = name ∧ admitted = true) ∧
        (x = name → ∃ rv, v = some rv ∧ publishedConverged rv = false) := by
    intro x hx
    simp only [World.publish] at hx
    cases v with
    | none =>
      simp only [Option.all_none, if_true, Finset.mem_erase] at hx
      exact ⟨.inl hx.2, fun heq => absurd heq hx.1⟩
    | some rv =>
      simp only [Option.all_some] at hx
      split_ifs at hx with hverdict hnew
      · rw [Finset.mem_erase] at hx
        exact ⟨.inl hx.2, fun heq => absurd heq hx.1⟩
      · rw [Finset.mem_insert] at hx
        exact ⟨hx.symm.imp id fun heq => ⟨heq, hnew⟩, fun _ => ⟨rv, rfl, by simpa using hverdict⟩⟩
      · exact ⟨.inl hx, fun _ => ⟨rv, rfl, by simpa using hverdict⟩⟩
  have hnow : ∀ x ∈ (w.publish name v admitted hname).outstanding, x = name →
      ∃ rv, v = some rv ∧ S.role rv = .active := by
    rintro x hx rfl
    obtain ⟨hcase, hverdict⟩ := hout x hx
    obtain ⟨rv, hv, hopen⟩ := hverdict rfl
    exact ⟨rv, hv, hactive (hcase.imp id (·.2)) rv hv hopen⟩
  refine ⟨fun x hx => ?_, fun x hx => ?_, fun x hx => ?_, fun y hy => ?_⟩
  · rcases (hout x hx).1 with hold | ⟨rfl, -⟩
    · exact h.names x hold
    · exact hmem
  · refine publish_waited ?_ fun heq => ?_
    · rcases (hout x hx).1 with hold | ⟨rfl, hnew⟩
      · exact h.waited x hold
      · exact (hadmitted hnew).1
    · obtain ⟨rv, hv, hrole⟩ := hnow x hx heq
      exact ⟨rv, hv, .inr hrole⟩
  · by_cases hxn : x = name
    · subst hxn
      rw [publish_current]
      exact hnow x hx rfl
    · rw [publish_current_of_ne hxn]
      exact h.active x ((hout x hx).1.resolve_right fun heq => hxn heq.1)
  · have hposition : ∃ position, w.Serves position ∧ (w.accounted position y).card <
        (computeIntendedRolloutMaxParallel S.rsc).toNat := by
      rcases (hout y hy).1 with hold | ⟨rfl, hnew⟩
      · exact h.admitted y hold
      · exact (hadmitted hnew).2
    obtain ⟨position, hserves, hfew⟩ := hposition
    exact ⟨position, publish_serves hserves, by rwa [publish_accounted hserves]⟩

end

theorem accounted_card_le (w : World S) {rv : RV} (position : String → ℕ)
    (hclass : rv.replicatedStorageClassName = S.rsc.name) :
    (w.accounted position rv.name).card ≤ (rolloutMembers rv (w.listing position)).countP
      (takesSlot rv S.intended S.rsc.configurationGeneration) := by
  rw [countP_eq_length_filter, ← length_map (f := fun m : RV => m.name)]
  refine le_trans (Finset.card_le_card fun x hx => ?_) (toFinset_card_le _)
  simp only [accounted, Finset.mem_filter, mem_toFinset, Option.any_eq_true] at hx
  obtain ⟨hx, hne, member, hmember, hslot⟩ := hx
  have hnamed : member.name = x := by
    refine w.named x member ?_
    rw [version, Option.join_eq_some_iff] at hmember
    exact mem_of_getElem? hmember
  have hlisted : member ∈ w.listing position := by
    refine mem_filter.mpr ⟨mem_filterMap.mpr ⟨x, hx, hmember⟩, ?_⟩
    have hcounted : S.Counted member := by
      simp only [Bool.or_eq_true, Bool.and_eq_true, decide_eq_true_eq] at hslot
      rcases hslot with hactive | ⟨hpending, -⟩
      · exact .inr hactive
      · exact .inl hpending
    simpa using hcounted.belongs.2.2.1
  rw [mem_toFinset, mem_map]
  refine ⟨member, mem_filter.mpr ⟨mem_rolloutMembers hlisted (hnamed ▸ hne), ?_⟩, hnamed⟩
  rwa [takesSlot, hclass, hnamed]

theorem step_budgeted {w w' : World S} {a : Action} (hcalm : w.Calm a) (h : w.Budgeted)
    (hstep : w.step a = some w') : w'.Budgeted := by
  cases a with
  | write name v =>
    simp only [step] at hstep
    split at hstep
    · next hguard =>
        cases hstep
        exact h.publish hguard.1 (fun hcase => hcalm (hcase.resolve_right (by simp))) (by simp)
    · cases hstep
  | pass name position zoneCount result =>
    simp only [step, Option.bind_eq_bind, Option.bind_eq_some_iff] at hstep
    obtain ⟨rv, hcurrent, rv', hreconciled, hstep⟩ := hstep
    split at hstep
    · next hguard =>
        cases hstep
        obtain ⟨hmem, hclass, hserves, hfollows, hresult⟩ := hguard
        -- The reconciled volume is in the cohort, whether it is outstanding or admitted now.
        have hcounted : (name ∈ w.outstanding ∨ admits rv rv' = true) → S.Counted rv := by
          rintro (hout | hadmits)
          · obtain ⟨rv0, hrv0, hrole⟩ := h.active name hout
            rw [hcurrent, Option.some.injEq] at hrv0
            exact .inr (hrv0 ▸ hrole)
          · have hlen := w.listed name
            obtain ⟨rv0, hrv0, hcounted⟩ := hcalm rv rv' hcurrent hreconciled hadmits
              ((w.versions name).length - 1) (by omega) (by omega)
            have hsame := hcurrent.symm.trans hrv0
            rw [Option.some.injEq] at hsame
            exact hsame ▸ hcounted
        have hname : rv.name = name := by
          refine w.named name rv ?_
          rw [current, version, Option.join_eq_some_iff] at hcurrent
          exact mem_of_getElem? hcurrent
        simp only [reconciled, Option.map_eq_some_iff, Prod.exists, exists_and_right,
          exists_eq_right] at hreconciled
        obtain ⟨out, hrun⟩ := hreconciled
        refine h.publish hmem (fun hcase rv2 hrv2 hopen => ?_) fun hadmits => ?_
        · cases hrv2
          have hrv := hcounted hcase
          obtain ⟨hframe, hcontent⟩ := reconcileRVConfiguration_auto hrv.belongs.2.1 S.published
            hrv.isSome hrun
          refine Setting.role_active_iff.mpr ⟨hrv.belongs.follows hframe hfollows, ?_, .inr hopen⟩
          have hsame : result.configuration = rv'.configuration := by
            simp only [followsFrom, Bool.and_eq_true, decide_eq_true_eq] at hfollows
            rw [hfollows.1]
          rw [hsame]
          rcases hcontent with hkept | ⟨-, hstored, -⟩
          · rcases hcase with hout | hadmits
            · obtain ⟨rv0, hrv0, hrole⟩ := h.active name hout
              rw [hcurrent, Option.some.injEq] at hrv0
              rw [hkept, hrv0]
              exact (Setting.role_active_iff.mp hrole).2.1
            · simp [admits, hkept] at hadmits
          · exact hstored
        · have hrv := hcounted (.inr hadmits)
          obtain ⟨-, hcontent⟩ := reconcileRVConfiguration_auto hrv.belongs.2.1 S.published
            hrv.isSome hrun
          have hwaited : w.Waited name := hcalm rv rv' hcurrent (by simp [reconciled, hrun]) hadmits
          refine ⟨hwaited, position, hserves, ?_⟩
          rcases hcontent with hkept | ⟨hdiffers, -, -, hgate⟩
          · simp [admits, hkept] at hadmits
          · have hpending : S.role rv = .pending := by
              rcases hrv with hpending | hactive
              · exact hpending
              · exact absurd (Setting.role_active_iff.mp hactive).2.1 hdiffers
            have hslots := slots_lt_of_admission (by rw [hclass]; exact hpending) hgate
            have hcard := w.accounted_card_le position hclass
            rw [hname] at hcard
            omega
    · cases hstep

theorem steps_budgeted {w w' : World S} {as : List Action} (hcalm : w.CalmRun as) (h : w.Budgeted)
    (hrun : w.steps as = some w') : w'.Budgeted := by
  induction as generalizing w with
  | nil =>
    cases hrun
    exact h
  | cons a as ih =>
    simp only [steps, Option.bind_eq_some_iff] at hrun
    obtain ⟨w1, hstep, hrest⟩ := hrun
    exact ih (hcalm.2 w1 hstep) (step_budgeted hcalm.1 h hstep) hrest

end World

/-- Volumes that were admitted and have not published a Converged verdict since
are never more than `maxParallel`, in every run from a state without any in which
only volumes are admitted that waited and nobody takes one of them out. -/
theorem rollout_budget_kept (S : Setting) (w w' : World S) (as : List Action)
    (hstart : w.outstanding = ∅) (hcalm : w.CalmRun as) (hrun : w.steps as = some w') :
    (w'.outstanding.card : ℤ) ≤ computeIntendedRolloutMaxParallel S.rsc := by
  have hbudgeted : w.Budgeted := by constructor <;> simp [hstart]
  have hcard := (World.steps_budgeted hcalm hbudgeted hrun).card_le
  have hpos : 0 < computeIntendedRolloutMaxParallel S.rsc := by
    unfold computeIntendedRolloutMaxParallel defaultConfigurationRolloutMaxParallel
    split
    · decide
    · split_ifs <;> omega
  omega

def oldConfiguration : Configuration := ⟨"pool", .ignored, 0, 0, .any⟩

def newConfiguration : Configuration := ⟨"pool", .ignored, 1, 0, .any⟩

def classVolume (name : String) (configuration : Configuration) (generation : ℕ)
    (converged : Bool) : RV :=
  ⟨name, 1, false, .auto, "class", none, some configuration, generation, generation, 1, [],
    if converged then [⟨"MembershipLayoutConverged", some true, 1, "Converged", ""⟩] else []⟩

/-- A class that publishes its second configuration and lets one volume at a time
adopt it. -/
def oneSlot : Setting :=
  ⟨⟨"class", 2, some ⟨.rollingUpdate, some 1⟩, some newConfiguration, 2⟩, newConfiguration, rfl,
    ["a", "b"], fun _ => 0⟩

def twoVolumes (a b : RV) (ha : a.name = "a") (hb : b.name = "b") : World oneSlot where
  versions n := [if n = "a" then some a else if n = "b" then some b else none]
  outstanding := ∅
  listed n := by simp [oneSlot]
  named n rv hrv := by
    rw [mem_singleton] at hrv
    split_ifs at hrv with h₁ h₂
    · rw [Option.some.injEq] at hrv
      rw [hrv, ha, h₁]
    · rw [Option.some.injEq] at hrv
      rw [hrv, hb, h₂]

def lateFormation : World oneSlot :=
  twoVolumes { classVolume "a" oldConfiguration 1 false with datameshRevision := 0 }
    (classVolume "b" oldConfiguration 1 false) rfl rfl

/-- `b` is admitted, `a` finishes formation, and a listing that has not seen `b`
move yet admits `a`. -/
def lateQueue : List Action :=
  [ .pass "b" (fun _ => 0) (.ok 0) (classVolume "b" newConfiguration 2 false),
    .write "a" (some (classVolume "a" oldConfiguration 1 false)),
    .pass "a" (fun n => if n = "a" then 1 else 0) (.ok 0)
      (classVolume "a" newConfiguration 2 false) ]

theorem late_volume_exceeds_budget :
    lateFormation.outstanding = ∅ ∧ computeIntendedRolloutMaxParallel oneSlot.rsc = 1 ∧
      (lateFormation.steps lateQueue).map (·.outstanding.card) = some 2 := by
  decide +kernel

namespace World
variable {S : Setting}

instance (w : World S) (name : String) : Decidable (w.Waited name) :=
  decidable_of_iff (∀ i ∈ List.range (w.versions name).length, S.oldest name ≤ i →
    ∃ rv ∈ w.version name i, S.Counted rv)
    ⟨fun h i hold hlt => h i (mem_range.mpr hlt) hold,
      fun h i hi hold => h i hold (mem_range.mp hi)⟩

instance decidableCalm (w : World S) : (a : Action) → Decidable (w.Calm a)
  | .write name v => decidable_of_iff (name ∈ w.outstanding → ∀ rv ∈ v,
      publishedConverged rv = false → S.role rv = .active) Iff.rfl
  | .pass name position zoneCount _ => decidable_of_iff (∀ rv ∈ w.current name,
      ∀ rv' ∈ w.reconciled rv position zoneCount, admits rv rv' = true → w.Waited name)
      ⟨fun h rv rv' hrv hrv' => h rv hrv rv' hrv', fun h rv hrv rv' hrv' => h rv rv' hrv hrv'⟩

instance decidableCalmRun : (w : World S) → (as : List Action) → Decidable (w.CalmRun as)
  | _, [] => isTrue trivial
  | w, a :: as =>
    have : ∀ w' : World S, Decidable (w'.CalmRun as) := fun w' => decidableCalmRun w' as
    decidable_of_iff (w.Calm a ∧ ∀ w' ∈ w.step a, w'.CalmRun as) Iff.rfl

end World

def inTurn : List Action :=
  [ .pass "a" (fun _ => 0) (.ok 0) (classVolume "a" newConfiguration 2 false),
    .pass "b" (fun _ => 0) (.ok 0)
      { classVolume "b" oldConfiguration 1 false with configurationObservedGeneration := 2 },
    .write "a" (some (classVolume "a" newConfiguration 2 true)),
    .pass "b" (fun n => if n = "a" then 2 else 1) (.ok 0)
      (classVolume "b" newConfiguration 2 false) ]

def bothWait : World oneSlot :=
  twoVolumes (classVolume "a" oldConfiguration 1 false) (classVolume "b" oldConfiguration 1 false)
    rfl rfl

theorem rollout_in_turn : ∃ w', bothWait.steps inTurn = some w' ∧ w'.outstanding = {"b"} ∧
    (w'.outstanding.card : ℤ) ≤ computeIntendedRolloutMaxParallel oneSlot.rsc := by
  have hrun : (bothWait.steps inTurn).any (fun w' => decide (w'.outstanding = {"b"})) = true := by
    decide +kernel
  obtain ⟨w', hw', hlast⟩ := (Option.any_eq_true _ _).mp hrun
  exact ⟨w', hw', of_decide_eq_true hlast,
    rollout_budget_kept oneSlot bothWait w' inTurn rfl (by decide +kernel) hw'⟩

end ReplicatedVolume.Volume
