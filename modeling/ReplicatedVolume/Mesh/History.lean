import ReplicatedVolume.Mesh.Persistence
import ReplicatedVolume.Library.Rollout

/-!
# Histories of the datamesh

A history alternates observations, at which a cycle starts, with steps of the abstract datamesh.
Every run of cycles has a history, so that a safety property of runs is an invariant of
histories.
-/

namespace ReplicatedVolume.Datamesh
open Dmte Rollout List

variable {before : List MeshEvent} {env : Env} {ev : MeshEvent} {m m' : Mesh} {o : Observation}
  {obs : List Observation} {r : CycleResult} {results : List CycleResult} {st : Status}

def MeshEvent.joins (ev : MeshEvent) (id : ReplicaID) : Bool :=
  ev.kind = .created && ev.active.type = .addReplica && ev.active.replica = some id

def joinRevision (evs : List MeshEvent) (id : ReplicaID) : ℕ :=
  ((evs.filter (·.joins id)).map (·.after.revision)).foldr max 0

theorem foldr_max_append (l l' : List ℕ) :
    (l ++ l').foldr max 0 = max (l.foldr max 0) (l'.foldr max 0) := by
  induction l with
  | nil => simp
  | cons n l ih => rw [cons_append, foldr_cons, ih, foldr_cons, max_assoc]

theorem joinRevision_append (evs evs' : List MeshEvent) (id : ReplicaID) :
    joinRevision (evs' ++ evs) id = max (joinRevision evs' id) (joinRevision evs id) := by
  simp only [joinRevision, filter_append, map_append, foldr_max_append]

structure Trail where
  env : Env
  reached : ℕ → Content → Prop
  confirmed : ReplicaID → ℕ
  events : List MeshEvent

namespace Trail

def start (env : Env) (m : Mesh) : Trail :=
  ⟨env, fun r c => r = m.revision ∧ c = m.content, fun _ => 0, []⟩

def observe (τ : Trail) (env : Env) : Trail :=
  { τ with env := env, confirmed := fun id => max (τ.confirmed id) ((env.reported id).getD 0) }

def follow (τ : Trail) (ev : MeshEvent) : Trail :=
  { τ with
    reached := fun r c => τ.reached r c ∨ (r = ev.after.revision ∧ c = ev.after.content)
    events := ev :: τ.events }

/-- A replica runs no revision older than one it confirmed or than the one at
which it joined. -/
def history (τ : Trail) : History ReplicaID Content :=
  ⟨τ.reached, fun id => max (τ.confirmed id) (joinRevision τ.events id)⟩

theorem history_observe (τ : Trail) (env : Env) :
    (τ.observe env).history = τ.history.raise fun id => (env.reported id).getD 0 := by
  simp only [history, observe, History.raise, History.mk.injEq, true_and]
  funext id
  rw [max_right_comm]

theorem history_follow (τ : Trail) (ev : MeshEvent) :
    (τ.follow ev).history =
      (τ.history.publish ev.after.revision ev.after.content).raise (joinRevision [ev]) := by
  simp only [history, follow, History.raise, History.publish, History.mk.injEq, true_and]
  funext id
  rw [← singleton_append, joinRevision_append, max_comm (joinRevision [ev] id), max_assoc]

end Trail

variable {env0 : Env} {τ : Trail}

def Allowed (P : Env → MeshEvent → List MeshEvent → Prop) (env : Env) :
    List MeshEvent → List MeshEvent → Prop
  | [], _ => True
  | ev :: evs, before => P env ev (evs ++ before) ∧ Allowed P env evs before

variable {P : Env → MeshEvent → List MeshEvent → Prop}

theorem Allowed.of_append
    {post pre : List MeshEvent} (h : Allowed P env (post ++ ev :: pre) before) :
    P env ev (pre ++ before) ∧ Allowed P env pre before := by
  induction post with
  | nil => exact h
  | cons _ post ih => exact ih h.2

/-- The states that observations meeting `Q` and steps with acceptable events
lead to, each with its trail. -/
inductive Hist (Q : Content → Env → Env → Prop) (P : Env → MeshEvent → List MeshEvent → Prop)
    (m₀ : Mesh) (τ₀ : Trail) : Mesh → Trail → Prop
  | start : Hist Q P m₀ τ₀ m₀ τ₀
  | observe {m : Mesh} {τ : Trail} (env : Env) (h : Hist Q P m₀ τ₀ m τ)
      (hobs : Q m.content τ.env env) : Hist Q P m₀ τ₀ m.refresh (τ.observe env)
  | step {m m' : Mesh} {τ : Trail} {ev : MeshEvent} (h : Hist Q P m₀ τ₀ m τ)
      (hstep : MeshStep τ.env τ.events m ev m') (hallowed : P τ.env ev τ.events) :
      Hist Q P m₀ τ₀ m' (τ.follow ev)

section
variable (h : MeshStep env before m ev m')
include h

theorem MeshStep.after : ev.before = m ∧ ev.after = m' := by
  cases h with
  | advance => exact ⟨rfl, rfl⟩
  | complete => exact ⟨rfl, rfl⟩
  | dispatch => exact ⟨rfl, rfl⟩
  | cancel _ _ _ hcancel =>
    cases hcancel
    exact ⟨rfl, rfl⟩
  | create _ _ _ hcreate =>
    cases hcreate
    exact ⟨rfl, rfl⟩

theorem MeshStep.created (hkind : ev.kind = .created) :
    ∃ spec x, spec ∈ registry ∧ Chosen env m spec x ∧ Announced before spec x ∧
      Creates env spec x m [ev] m' := by
  cases h with
  | advance => cases hkind
  | complete => cases hkind
  | dispatch => cases hkind
  | cancel _ _ _ hcancel =>
    cases hcancel
    cases hkind
  | create hspec hchosen hannounced hcreate => exact ⟨_, _, hspec, hchosen, hannounced, hcreate⟩

theorem MeshStep.created_announced (hkind : ev.kind = .created) :
    ∃ d ∈ before, d.kind = .dispatched ∧ d.active.type = ev.active.type := by
  obtain ⟨spec, x, -, -, hannounced, hcreate⟩ := h.created hkind
  cases hcreate
  obtain ⟨d, hd, hdispatched, htype, -⟩ := hannounced
  exact ⟨d, hd, hdispatched, htype⟩

theorem MeshStep.active_origin {b : Active} (hb : b ∈ m'.active) :
    (∃ a ∈ m.active, b = { a with idx := b.idx, revision := b.revision }) ∨
      (ev.kind = .created ∧ b = ev.active) := by
  cases h with
  | advance hactive =>
    simp only [Mesh.moved, mem_append, mem_cons] at hb
    rcases hb with hb | rfl | hb
    · exact .inl ⟨b, by simp [hactive, hb], rfl⟩
    · exact .inl ⟨_, mem_of_split hactive, rfl⟩
    · exact .inl ⟨b, by simp [hactive, hb], rfl⟩
  | complete hactive => exact .inl ⟨b, (dropped_sublist _ hactive).subset hb, rfl⟩
  | dispatch => exact .inl ⟨b, hb, rfl⟩
  | cancel _ _ _ hcancel =>
    cases hcancel with
    | cancel hactive => exact .inl ⟨b, (dropped_sublist _ hactive).subset hb, rfl⟩
  | create _ _ _ hcreate =>
    cases hcreate
    rcases mem_append.mp hb with hb | hb
    · exact .inl ⟨b, hb, rfl⟩
    · exact .inr ⟨rfl, mem_singleton.mp hb⟩

end

section
variable {Q : Content → Env → Env → Prop} {P : Env → MeshEvent → List MeshEvent → Prop}
  {m0 : Mesh} {τ0 : Trail}

theorem Hist.coherent (h : Hist Q P m0 τ0 m τ) (h0 : m0.Coherent) : m.Coherent := by
  induction h with
  | start => exact h0
  | observe _ _ _ ih => exact ih.congr rfl
  | step _ hstep _ ih => exact hstep.coherent ih

theorem Hist.reached_iff (h : Hist Q P m0 (.start env m0) m τ) (r : ℕ) (c : Content) :
    τ.reached r c ↔ (r = m0.revision ∧ c = m0.content) ∨
      ∃ ev ∈ τ.events, r = ev.after.revision ∧ c = ev.after.content := by
  induction h with
  | start => simp [Trail.start]
  | observe _ _ _ ih => exact ih
  | @step _ _ τ ev _ _ _ ih =>
    change τ.reached r c ∨ _ ↔ _ ∨ ∃ ev' ∈ ev :: τ.events, _
    rw [ih, exists_mem_cons_iff, or_assoc]
    exact or_congr_right or_comm

theorem Hist.run {evs : List MeshEvent} (h : Hist Q P m0 τ0 m τ)
    (hrun : MeshRun τ.env m evs m') (hallowed : Allowed P τ.env evs τ.events) :
    ∃ τ', Hist Q P m0 τ0 m' τ' ∧ τ'.env = τ.env ∧ τ'.confirmed = τ.confirmed ∧
      τ'.events = evs ++ τ.events ∧ (∀ r c, τ.reached r c → τ'.reached r c) ∧
      (m' = m ∨ τ'.reached m'.revision m'.content) := by
  induction hrun with
  | refl => exact ⟨τ, h, rfl, rfl, rfl, fun _ _ hr => hr, .inl rfl⟩
  | @step m2 m3 evs ev _ hstep ih =>
    obtain ⟨hev, hearlier⟩ := hallowed
    obtain ⟨τ1, h1, henv, hconf, hevents, hmono, -⟩ := ih hearlier
    have hstep1 : MeshStep τ1.env τ1.events m2 ev m3 := by
      rw [henv, hevents]
      exact hstep.mono (subset_append_left _ _)
    have h2 := Hist.step h1 hstep1 (by rw [henv, hevents]; exact hev)
    refine ⟨_, h2, henv, hconf, ?_, fun r c hr => .inl (hmono r c hr), .inr (.inr ?_)⟩
    · change ev :: τ1.events = _
      rw [hevents, cons_append]
    · rw [hstep.after.2]
      exact ⟨rfl, rfl⟩

end

def lastStatus (st : Status) (results : List CycleResult) : Status :=
  (results.head?.map (·.status)).getD st

def published (st : Status) (results : List CycleResult) : List Status :=
  results.map (·.status) ++ [st]

theorem lastStatus_mem (st : Status) (results : List CycleResult) :
    lastStatus st results ∈ published st results := by
  unfold lastStatus published
  cases results <;> simp

def allEvents (results : List CycleResult) : List MeshEvent :=
  (results.flatMap (·.log)).map meshEvent

def confirmedRevision (obs : List Observation) (id : ReplicaID) : ℕ :=
  (obs.map fun o => (o.env.reported id).getD 0).foldr max 0

/-- Every event of a run is acceptable, given the observation of its cycle and
the events before it. -/
def RunAllowed (P : Env → MeshEvent → List MeshEvent → Prop) :
    List Observation → List CycleResult → Prop
  | o :: obs, r :: results =>
    Allowed P o.env (r.log.map meshEvent) (allEvents results) ∧ RunAllowed P obs results
  | _, _ => True

/-- Every observation of a run meets `Q`, given the status and the observation
before it. -/
def RunObserved (Q : Content → Env → Env → Prop) (env₀ : Env) (st : Status) :
    List Observation → List CycleResult → Prop
  | o :: obs, _ :: results =>
    Q (lastStatus st results).content ((obs.head?.map (·.env)).getD env₀) o.env ∧
      RunObserved Q env₀ st obs results
  | _, _ => True

structure Trace (env₀ : Env) (st : Status) (obs : List Observation) (results : List CycleResult)
    (τ : Trail) : Prop where
  env : τ.env = (obs.head?.map (·.env)).getD env₀
  confirmed : ∀ id, τ.confirmed id = confirmedRevision obs id
  events : τ.events = allEvents results
  reached : ∀ p ∈ published st results, τ.reached p.datameshRevision p.content

variable {Q : Content → Env → Env → Prop} (hst : st.WellFormed) (hrun : run st obs = some results)

theorem run_cons (h : run st (o :: obs) = some results) : ∃ earlier, run st obs = some earlier ∧
    ∃ r, processTransitions o (lastStatus st earlier) = some r ∧ r :: earlier = results := by
  simp only [Datamesh.run, Option.bind_eq_bind, Option.bind_eq_some_iff, Option.some.injEq] at h
  exact h

include hst hrun in
theorem run_history (hP : RunAllowed P obs results)
    (hQ : RunObserved Q env0 st obs results) :
    (lastStatus st results).WellFormed ∧ ∃ m τ,
      Hist Q P st.mesh (.start env0 st.mesh) m τ ∧ Trace env0 st obs results τ ∧
      (lastStatus st results).mesh = m.refresh := by
  induction obs generalizing results with
  | nil =>
    cases hrun
    refine ⟨hst, st.mesh, _, .start, ⟨rfl, fun _ => rfl, rfl, ?_⟩, rfl⟩
    intro p hp
    rw [published, map_nil, nil_append, mem_singleton] at hp
    subst hp
    exact ⟨rfl, rfl⟩
  | cons o obs ih =>
    obtain ⟨earlier, hearlier, r, hr, rfl⟩ := run_cons hrun
    obtain ⟨hallowed, hP⟩ := hP
    obtain ⟨hobs, hQ⟩ := hQ
    obtain ⟨hwf, m, τ, hhist, htrace, hmesh⟩ := ih hearlier hP hQ
    obtain ⟨hwf', m', hrun', hmesh'⟩ := cycle_follows hwf hr
    have hcontent : (lastStatus st earlier).content = m.content := congrArg Mesh.content hmesh
    have hhist1 := Hist.observe o.env hhist (by rw [htrace.env, ← hcontent]; exact hobs)
    change MeshRun o.env (lastStatus st earlier).mesh _ _ at hrun'
    rw [hmesh] at hrun'
    obtain ⟨τ', hhist', henv, hconf, hevents, hmono, hreached⟩ := hhist1.run hrun'
      (by rw [show (τ.observe o.env).events = _ from htrace.events]; exact hallowed)
    refine ⟨hwf', m', τ', hhist', ⟨henv, ?_, ?_, ?_⟩, hmesh'⟩
    · intro id
      rw [hconf]
      change max (τ.confirmed id) _ = max _ (confirmedRevision obs id)
      rw [htrace.confirmed, max_comm]
    · rw [hevents, show (τ.observe o.env).events = _ from htrace.events]
      simp [allEvents]
    · intro p hp
      have hold : ∀ p ∈ published st earlier, τ'.reached p.datameshRevision p.content :=
        fun p hp => hmono _ _ (htrace.reached p hp)
      rcases mem_cons.mp hp with rfl | hp
      · have hrev : r.status.datameshRevision = m'.revision := congrArg Mesh.revision hmesh'
        have hcont : r.status.content = m'.content := congrArg Mesh.content hmesh'
        rw [hrev, hcont]
        rcases hreached with heq | hreached
        · -- the cycle ended where it started, in a published status
          have hlast : lastStatus st earlier ∈ published st earlier := by
            unfold lastStatus published
            cases earlier <;> simp
          have hrev0 : (lastStatus st earlier).datameshRevision = m.revision :=
            congrArg Mesh.revision hmesh
          rw [heq]
          change τ'.reached m.revision m.content
          rw [← hcontent, ← hrev0]
          exact hold _ hlast
        · exact hreached
      · exact hold p hp

include hrun in
theorem exists_run_of_published {p : Status} (hp : p ∈ published st results) :
    ∃ obs' results', obs' <:+ obs ∧ results' <:+ results ∧ run st obs' = some results' ∧
      lastStatus st results' = p := by
  induction obs generalizing results with
  | nil =>
    cases hrun
    rw [published, map_nil, nil_append, mem_singleton] at hp
    exact ⟨[], [], suffix_rfl, suffix_rfl, rfl, hp.symm⟩
  | cons o obs ih =>
    obtain ⟨earlier, hearlier, r, hr, rfl⟩ := run_cons hrun
    rcases mem_cons.mp hp with rfl | hp
    · exact ⟨o :: obs, r :: earlier, suffix_rfl, suffix_rfl, hrun, rfl⟩
    · obtain ⟨obs', results', hobs, hresults, hrun', hlast⟩ := ih hearlier hp
      exact ⟨obs', results', hobs.trans (suffix_cons o obs),
        hresults.trans (suffix_cons r earlier), hrun', hlast⟩

include hrun in
theorem exists_run_of_cycle (h : (o, r) ∈ obs.zip results) :
    ∃ obs' earlier, run st (o :: obs') = some (r :: earlier) := by
  induction obs generalizing results with
  | nil => cases h
  | cons o' obs ih =>
    obtain ⟨earlier, hearlier, r', -, rfl⟩ := run_cons hrun
    rw [zip_cons_cons, mem_cons] at h
    rcases h with heq | h
    · cases heq
      exact ⟨obs, earlier, hrun⟩
    · exact ih hearlier h

variable {ev : Event GlobalContext}

include hst in
/-- An event of the last cycle of a run is a step of a history that has logged
what came before. -/
theorem run_step {earlier : List CycleResult}
    {post pre : List (Event GlobalContext)}
    (hrun : run st (o :: obs) = some (r :: earlier)) (hP : RunAllowed P (o :: obs) (r :: earlier))
    (hQ : RunObserved Q env0 st (o :: obs) (r :: earlier)) (hlog : r.log = post ++ ev :: pre) :
    ∃ m τ m', Hist Q P st.mesh (.start env0 st.mesh) m τ ∧ τ.env = o.env ∧
      τ.events = pre.map meshEvent ++ allEvents earlier ∧
      MeshStep τ.env τ.events m (meshEvent ev) m' ∧ P τ.env (meshEvent ev) τ.events := by
  obtain ⟨earlier', hearlier, r', hr, heq⟩ := run_cons hrun
  obtain ⟨rfl, rfl⟩ := List.cons.inj heq
  obtain ⟨hallowed, hP⟩ := hP
  obtain ⟨hobs, hQ⟩ := hQ
  obtain ⟨hwf, m, τ, hhist, htrace, hmesh⟩ := run_history hst hearlier hP hQ
  obtain ⟨-, m', hrun', -⟩ := cycle_follows hwf hr
  rw [hlog, map_append, map_cons] at hrun' hallowed
  obtain ⟨m1, m2, hpre, hstep⟩ := hrun'.of_append
  obtain ⟨hev, hallowed'⟩ := hallowed.of_append
  have hcontent : (lastStatus st earlier').content = m.content := congrArg Mesh.content hmesh
  have hhist1 := Hist.observe o.env hhist (by rw [htrace.env, ← hcontent]; exact hobs)
  have hevents1 : (τ.observe o.env).events = allEvents earlier' := htrace.events
  rw [hmesh] at hpre
  obtain ⟨τ', hhist', henv, -, hevents, -, -⟩ := hhist1.run hpre (by rw [hevents1]; exact hallowed')
  have henv' : τ'.env = o.env := henv
  rw [hevents1] at hevents
  refine ⟨m1, τ', m2, hhist', henv', hevents, ?_, ?_⟩
  · rw [henv', hevents]
    exact hstep.mono (subset_append_left _ _)
  · rw [henv', hevents]
    exact hev

def Env.none : Env := ⟨fun _ => Option.none, fun _ => false, 0, 0⟩

theorem runAllowed_of_splits {ok : MeshEvent → List MeshEvent → Prop}
    (h : ∀ post ev pre, allEvents results = post ++ ev :: pre → ok ev pre) :
    RunAllowed (fun _ ev before => ok ev before) obs results := by
  have hallowed : ∀ (env : Env) (evs before : List MeshEvent),
      (∀ post ev pre, evs ++ before = post ++ ev :: pre → ok ev pre) →
      Allowed (fun _ ev before => ok ev before) env evs before := by
    intro env evs
    induction evs with
    | nil => exact fun _ _ => trivial
    | cons ev evs ih =>
      intro before hsplit
      refine ⟨hsplit [] ev (evs ++ before) rfl, ih before fun post ev' pre heq => ?_⟩
      exact hsplit (ev :: post) ev' pre (by rw [cons_append, heq, cons_append])
  induction obs generalizing results with
  | nil => trivial
  | cons o obs ih =>
    cases results with
    | nil => trivial
    | cons r results =>
      have hevents : allEvents (r :: results) = r.log.map meshEvent ++ allEvents results := by
        simp [allEvents]
      rw [hevents] at h
      refine ⟨hallowed o.env _ _ h, ih fun post ev pre heq => ?_⟩
      exact h (r.log.map meshEvent ++ post) ev pre (by rw [heq, append_assoc])

theorem runAllowed_of_forall {ok : MeshEvent → Prop}
    (h : ∀ r ∈ results, ∀ ev ∈ r.log, ok (meshEvent ev)) :
    RunAllowed (fun _ ev _ => ok ev) obs results := by
  refine runAllowed_of_splits fun post ev pre heq => ?_
  have hmem : ev ∈ allEvents results := heq ▸ mem_append_right post mem_cons_self
  obtain ⟨ev', hlog, rfl⟩ := mem_map.mp hmem
  obtain ⟨r, hr, hev⟩ := mem_flatMap.mp hlog
  exact h r hr ev' hev

theorem runObserved_true (env0 : Env) (st : Status) (obs : List Observation)
    (results : List CycleResult) : RunObserved (fun _ _ _ => True) env0 st obs results := by
  induction obs generalizing results with
  | nil => trivial
  | cons o obs ih =>
    cases results with
    | nil => trivial
    | cons r results => exact ⟨trivial, ih results⟩

theorem runAllowed_true (obs : List Observation) (results : List CycleResult) :
    RunAllowed (fun _ _ _ => True) obs results :=
  runAllowed_of_forall fun _ _ _ _ => trivial

abbrev AnyHist : Mesh → Trail → Mesh → Trail → Prop := Hist (fun _ _ _ => True) (fun _ _ _ => True)

include hst hrun in
/-- An event of any cycle of a run is a step of a history under the observation
of its cycle. -/
theorem event_step (hr : (o, r) ∈ obs.zip results) (hev : ev ∈ r.log) :
    ∃ m τ m', AnyHist st.mesh (.start .none st.mesh) m τ ∧ τ.env = o.env ∧
      MeshStep τ.env τ.events m (meshEvent ev) m' := by
  obtain ⟨obs', earlier, hrun'⟩ := exists_run_of_cycle hrun hr
  obtain ⟨post, pre, hlog⟩ := append_of_mem hev
  obtain ⟨m, τ, m', hhist, henv, -, hstep, -⟩ := run_step hst hrun' (runAllowed_true _ _)
    (runObserved_true .none st _ _) hlog
  exact ⟨m, τ, m', hhist, henv, hstep⟩

theorem Status.wellFormed_of_no_transitions (h : st.transitions = []) : st.WellFormed := by
  constructor
  · apply Mesh.coherent_of_no_transitions
    change st.transitions.map activeOf = []
    rw [h]
    rfl
  · simp [h]

end ReplicatedVolume.Datamesh
