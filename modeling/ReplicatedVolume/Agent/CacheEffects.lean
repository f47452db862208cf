import ReplicatedVolume.Agent.Caches

/-!
# What a step of the caches can do

`Effect` lists the changes of a step with the facts its guards give; from it follows how each part
of the state goes on. An invalidation is taken to begin in a quiet state only.
-/

namespace ReplicatedVolume.Agent.Caches
open List Option

variable {Output Value : Type} {σ : Setting Output Value} {s s' : State Output Value}
  {n : Entry Value} {q : Process Output}

section Lists

variable {α : Type} {l : List α} {i j : ℕ} {a b : α}

theorem getElem?_set_of_some (h : l[i]? = some a) :
    (l.set i b)[j]? = if i = j then some b else l[j]? := by
  have hlt : i < l.length := (List.getElem?_eq_some_iff.mp h).1
  rw [List.getElem?_set, if_pos hlt]

theorem getElem?_concat : (l ++ [b])[j]? = if j = l.length then some b else l[j]? := by
  by_cases hj : j < l.length
  · rw [List.getElem?_append_left hj, if_neg (by omega)]
  · rw [List.getElem?_append_right (by omega)]
    by_cases hlast : j = l.length
    · simp [hlast]
    · rw [if_neg hlast, List.getElem?_eq_none (by simp; omega), List.getElem?_eq_none (by omega)]

theorem mem_of_lookup {β : Type} [BEq α] [LawfulBEq α] {l : List (α × β)} {k : α} {x : β}
    (h : l.lookup k = some x) : (k, x) ∈ l := by
  obtain ⟨l1, l2, rfl, -⟩ := lookup_eq_some_iff.mp h
  simp

end Lists

def Covers (scope : Option String) (name : String) : Prop := scope = none ∨ scope = some name

instance (scope : Option String) (name : String) : Decidable (Covers scope name) :=
  inferInstanceAs (Decidable (_ ∨ _))

def Quiet (σ : Setting Output Value) (s : State Output Value) (scope : Option String) : Prop :=
  ∀ c p process, Covers scope c.resource → (σ.key c, p) ∈ s.runningCommands →
    s.processes[p]? = some process → process.started = none

inductive Effect (σ : Setting Output Value) (s : State Output Value) :
    State Output Value → Prop where
  | idle : Effect σ s s
  | get (c : Command) : Effect σ s { s with gets := s.gets ++ [⟨c, s.now, .entryFor⟩] }
  | found {i began e : ℕ} {c : Command} (hget : s.gets[i]? = some ⟨c, began, .entryFor⟩)
      (hentry : (c, e) ∈ s.entries) : Effect σ s (s.setGet i ⟨c, began, .entryFor⟩ (.lock e))
  | created {i began : ℕ} {c : Command} (hget : s.gets[i]? = some ⟨c, began, .entryFor⟩) :
      Effect σ s ((s.link c).setGet i ⟨c, began, .entryFor⟩ (.lock s.heap.length))
  | lock {i began e : ℕ} {c : Command} {entry : Entry Value}
      (hget : s.gets[i]? = some ⟨c, began, .lock e⟩) (hentry : s.heap[e]? = some entry) :
      Effect σ s ((s.setEntry e { entry with locked := true }).setGet i ⟨c, began, .lock e⟩
        (.check e))
  | hit {i began e : ℕ} {c : Command} {entry : Entry Value} {x : Value}
      (hget : s.gets[i]? = some ⟨c, began, .check e⟩) (hentry : s.heap[e]? = some entry)
      (hvalue : entry.value = some x) :
      Effect σ s ((s.setEntry e { entry with locked := false }).setGet i ⟨c, began, .check e⟩
        (.returned (some x)))
  | joined {i began e p : ℕ} {c : Command} (hget : s.gets[i]? = some ⟨c, began, .check e⟩)
      (hrunning : (σ.key c, p) ∈ s.runningCommands) :
      Effect σ s (s.setGet i ⟨c, began, .check e⟩ (.wait e p))
  | registered {i began e : ℕ} {c : Command} (hget : s.gets[i]? = some ⟨c, began, .check e⟩) :
      Effect σ s ((s.register (σ.key c)).setGet i ⟨c, began, .check e⟩ (.wait e s.processes.length))
  | received {i began e p : ℕ} {c : Command} {entry : Entry Value} {process : Process Output}
      {x : Value} (hget : s.gets[i]? = some ⟨c, began, .wait e p⟩)
      (hentry : s.heap[e]? = some entry) (hprocess : s.processes[p]? = some process)
      (hvalue : σ.outcome c process = some x) :
      Effect σ s ((s.setEntry e { entry with locked := false, value := some x }).setGet i
        ⟨c, began, .wait e p⟩ (.returned (some x)))
  | failed {i began e p : ℕ} {c : Command} {entry : Entry Value}
      (hget : s.gets[i]? = some ⟨c, began, .wait e p⟩) (hentry : s.heap[e]? = some entry) :
      Effect σ s ((s.setEntry e { entry with locked := false }).setGet i ⟨c, began, .wait e p⟩
        (.returned none))
  | executed (key : ℕ) : Effect σ s (s.register key)
  | launch {p : ℕ} {process : Process Output} (hprocess : s.processes[p]? = some process)
      (hstarted : process.started = none) (hresult : process.result = none) :
      Effect σ s (s.launch p process)
  | exit {p : ℕ} {process : Process Output} {output : Option Output}
      (hprocess : s.processes[p]? = some process) (hresult : process.result = none)
      (hstarted : output = none ∨ process.started ≠ none) :
      Effect σ s (s.exit p process output)
  | close {p : ℕ} {process : Process Output} (hprocess : s.processes[p]? = some process) :
      Effect σ s (s.setProcess p { process with closed := true })
  | invalidate {scope : Option String} (hquiet : Quiet σ s scope) :
      Effect σ s
        { s with invalidations := s.invalidations ++ [⟨scope, s.now, firstPhase scope .status⟩] }
  | collect {i began : ℕ} {scope : Option String} {cache : Cache}
      (hv : s.invalidations[i]? = some ⟨scope, began, .collect cache⟩) :
      Effect σ s (s.setInvalidation i ⟨scope, began, .collect cache⟩ (.drop cache (s.names cache)))
  | drop {i began : ℕ} {scope : Option String} {cache : Cache} {names : List String}
      (name : String) (hv : s.invalidations[i]? = some ⟨scope, began, .drop cache names⟩) :
      Effect σ s ((s.delete ⟨cache, name⟩).setInvalidation i ⟨scope, began, .drop cache names⟩
        (.drop cache (names.filter (· ≠ name))))
  | next {i began : ℕ} {scope : Option String} {cache : Cache}
      (hv : s.invalidations[i]? = some ⟨scope, began, .drop cache []⟩) :
      Effect σ s (s.setInvalidation i ⟨scope, began, .drop cache []⟩ (nextPhase scope cache s.now))

theorem act_effect {a : Action Output} (hquiet : ∀ scope, a = .invalidate scope → Quiet σ s scope)
    (h : act σ s a = some s') : Effect σ s s' := by
  revert hquiet h
  fun_cases act σ s a <;> intro hquiet h <;> first | cases h; done | obtain rfl := some.inj h
  · exact .get _
  · next hget _ _ hentry =>
      unfold State.entryFor at hentry
      split at hentry <;> cases hentry
      · exact .found hget (mem_of_lookup ‹_›)
      · exact .created hget
  · exact .lock ‹_› ‹_›
  · exact .hit ‹_› ‹_› ‹_›
  · next hget _ _ _ _ _ hprocess =>
      unfold State.ensureStarted at hprocess
      split at hprocess <;> cases hprocess
      · exact .joined hget (mem_of_lookup ‹_›)
      · exact .registered hget
  · exact .received ‹_› ‹_› ‹_› ‹_›
  · exact .failed ‹_› ‹_›
  · exact .failed ‹_› ‹_›
  · unfold State.ensureStarted
    split
    · exact .idle
    · exact .executed _
  · next hguard => exact .launch ‹_› hguard.1 hguard.2
  · next hguard => exact .exit ‹_› hguard.1 hguard.2
  · exact .close ‹_›
  · exact .invalidate (hquiet _ rfl)
  · exact .collect ‹_›
  · exact .drop _ ‹_›
  · exact .next ‹_›

/-- How a process goes on: its key stays, and so do its start and its result once they are set. -/
structure Process.Onward (now : ℕ) (q q' : Process Output) : Prop where
  key : q'.key = q.key
  started : q'.started = q.started ∨ q.started = none ∧ q'.started = some now
  result : ∀ r, q.result = some r → q'.result = some r
  ran : (∀ out, q.result = some (some out) → q.started ≠ none) →
    ∀ out, q'.result = some (some out) → q'.started ≠ none

theorem Process.Onward.refl (now : ℕ) (q : Process Output) : q.Onward now q :=
  ⟨rfl, .inl rfl, fun _ h => h, fun h => h⟩

namespace Effect

section
variable (h : Effect σ s s')
include h

variable {p : ℕ}

theorem process (hq : s.processes[p]? = some q) :
    ∃ q', s'.processes[p]? = some q' ∧ q.Onward s.now q' := by
  have hlt : p < s.processes.length := (List.getElem?_eq_some_iff.mp hq).1
  have hset {p0 : ℕ} {q0 q1 : Process Output} (h0 : s.processes[p0]? = some q0)
      (honward : q0.Onward s.now q1) :
      ∃ q', (s.processes.set p0 q1)[p]? = some q' ∧ q.Onward s.now q' := by
    rw [getElem?_set_of_some h0]
    by_cases hp : p0 = p
    · subst hp
      obtain rfl := some.inj (h0.symm.trans hq)
      exact ⟨q1, if_pos rfl, honward⟩
    · exact ⟨q, by rw [if_neg hp, hq], .refl _ q⟩
  cases h with
  | launch hprocess hstarted hresult =>
    exact hset hprocess ⟨rfl, .inr ⟨hstarted, rfl⟩, fun r h => h, fun _ _ _ => by simp⟩
  | exit hprocess hresult hstarted =>
    refine hset hprocess ⟨rfl, .inl rfl, fun r h => ?_, fun _ out h => ?_⟩
    · rw [hresult] at h
      cases h
    · rcases hstarted with rfl | hstarted
      · cases h
      · exact hstarted
  | close hprocess => exact hset hprocess ⟨rfl, .inl rfl, fun r h => h, fun h => h⟩
  | registered hget | executed key =>
    exact ⟨q, by simpa [State.register, State.setGet, List.getElem?_append_left hlt], .refl _ q⟩
  | _ => exact ⟨q, hq, .refl _ q⟩

theorem new_process
    (hq : s'.processes[p]? = some q) (hnone : s.processes[p]? = none) : q.result = none := by
  have hset {p0 : ℕ} {q0 : Process Output} (hset : (s.processes.set p0 q0)[p]? = some q) :
      q.result = none := by
    have hlt := (List.getElem?_eq_some_iff.mp hset).1
    rw [length_set] at hlt
    exact absurd (List.getElem?_eq_none_iff.mp hnone) (by omega)
  cases h with
  | launch | exit | close => exact hset hq
  | registered hget | executed key =>
    simp only [State.register, State.setGet, getElem?_concat] at hq
    split at hq
    · obtain rfl := some.inj hq
      rfl
    · rw [hnone] at hq
      cases hq
  | _ => exact absurd (hnone.symm.trans hq) (by simp)

theorem running {k : ℕ} (hrunning : (k, p) ∈ s'.runningCommands) :
    (k, p) ∈ s.runningCommands ∨ s'.processes[p]? = some ⟨k, none, none, false⟩ := by
  cases h with
  | registered hget | executed key =>
    rcases mem_cons.mp hrunning with heq | hold
    · obtain ⟨rfl, rfl⟩ := Prod.mk.inj heq
      exact .inr (by simp [State.register, State.setGet])
    · exact .inl hold
  | exit => exact .inl (mem_filter.mp hrunning).1
  | _ => exact .inl hrunning

variable {e : ℕ}

theorem entry (hn : s.heap[e]? = some n) :
    ∃ n', s'.heap[e]? = some n' ∧ n'.command = n.command ∧ n'.created = n.created := by
  have hlt : e < s.heap.length := (List.getElem?_eq_some_iff.mp hn).1
  have hset {e0 : ℕ} {n0 n1 : Entry Value} (h0 : s.heap[e0]? = some n0)
      (hcommand : n1.command = n0.command) (hcreated : n1.created = n0.created) :
      ∃ n', (s.heap.set e0 n1)[e]? = some n' ∧ n'.command = n.command ∧ n'.created = n.created := by
    rw [getElem?_set_of_some h0]
    by_cases he : e0 = e
    · subst he
      obtain rfl := some.inj (h0.symm.trans hn)
      exact ⟨n1, if_pos rfl, hcommand, hcreated⟩
    · exact ⟨n, by rw [if_neg he, hn], rfl, rfl⟩
  cases h with
  | lock _ hentry | hit _ hentry | failed _ hentry | received _ hentry => exact hset hentry rfl rfl
  | created =>
    exact ⟨n, by simpa [State.link, State.setGet, List.getElem?_append_left hlt], rfl, rfl⟩
  | _ => exact ⟨n, hn, rfl, rfl⟩

theorem value {n' : Entry Value} {x : Value} (hn : s'.heap[e]? = some n') (hx : n'.value = some x) :
    (∃ n, s.heap[e]? = some n ∧ n.value = some x) ∨
      ∃ g ∈ s.gets, ∃ p process, g.phase = .wait e p ∧ s.processes[p]? = some process ∧
        σ.outcome g.command process = some x := by
  have hset {e0 : ℕ} {n0 n1 : Entry Value} (h0 : s.heap[e0]? = some n0)
      (hn : (s.heap.set e0 n1)[e]? = some n') (hvalue : n1.value = n0.value) :
      ∃ n, s.heap[e]? = some n ∧ n.value = some x := by
    rw [getElem?_set_of_some h0] at hn
    split at hn
    · rename_i he
      obtain rfl := some.inj hn
      exact ⟨n0, he ▸ h0, hvalue ▸ hx⟩
    · exact ⟨n', hn, hx⟩
  cases h with
  | lock _ hentry | hit _ hentry | failed _ hentry => exact .inl (hset hentry hn rfl)
  | received hget hentry hprocess hvalue =>
    simp only [State.setEntry, State.setGet, getElem?_set_of_some hentry] at hn
    split at hn
    · rename_i he
      obtain rfl := some.inj hn
      obtain rfl := some.inj hx
      exact .inr ⟨_, mem_of_getElem? hget, _, _, he ▸ rfl, hprocess, hvalue⟩
    · exact .inl ⟨n', hn, hx⟩
  | created =>
    simp only [State.link, State.setGet, getElem?_concat] at hn
    split at hn
    · obtain rfl := some.inj hn
      cases hx
    · exact .inl ⟨n', hn, hx⟩
  | _ => exact .inl ⟨n', hn, hx⟩

theorem new_entry (hn : s'.heap[e]? = some n) (hnone : s.heap[e]? = none) : n.created = s.now := by
  have hset {e0 : ℕ} {n0 : Entry Value} (hset : (s.heap.set e0 n0)[e]? = some n) :
      n.created = s.now := by
    have hlt := (List.getElem?_eq_some_iff.mp hset).1
    rw [length_set] at hlt
    exact absurd (List.getElem?_eq_none_iff.mp hnone) (by omega)
  cases h with
  | lock | hit | failed | received => exact hset hn
  | created =>
    simp only [State.link, State.setGet, getElem?_concat] at hn
    split at hn
    · obtain rfl := some.inj hn
      rfl
    · rw [hnone] at hn
      cases hn
  | _ => exact absurd (hnone.symm.trans hn) (by simp)

theorem linked {c : Command} (hlinked : (c, e) ∈ s'.entries) :
    (c, e) ∈ s.entries ∨ s'.heap[e]? = some ⟨c, s.now, false, none⟩ := by
  cases h with
  | created =>
    rcases mem_cons.mp hlinked with heq | hold
    · obtain ⟨rfl, rfl⟩ := Prod.mk.inj heq
      exact .inr (by simp [State.link, State.setGet])
    · exact .inl hold
  | drop => exact .inl (mem_filter.mp hlinked).1
  | _ => exact .inl hlinked

end

end Effect

inductive GetMove (σ : Setting Output Value) (s s' : State Output Value) (c : Command) :
    GetPhase Value → GetPhase Value → Prop where
  | stay (phase : GetPhase Value) : GetMove σ s s' c phase phase
  | found {e : ℕ} (hlinked : (c, e) ∈ s'.entries) : GetMove σ s s' c .entryFor (.lock e)
  | lock (e : ℕ) : GetMove σ s s' c (.lock e) (.check e)
  | hit {e : ℕ} {n : Entry Value} {x : Value} (hn : s.heap[e]? = some n)
      (hx : n.value = some x) : GetMove σ s s' c (.check e) (.returned (some x))
  | attached {e p : ℕ} (hrunning : (σ.key c, p) ∈ s'.runningCommands) :
      GetMove σ s s' c (.check e) (.wait e p)
  | received {e p : ℕ} {process : Process Output} {x : Value}
      (hprocess : s.processes[p]? = some process) (hx : σ.outcome c process = some x) :
      GetMove σ s s' c (.wait e p) (.returned (some x))
  | failed (e p : ℕ) : GetMove σ s s' c (.wait e p) (.returned none)

theorem Effect.get_move (h : Effect σ s s') {g' : Get Value} (hg : g' ∈ s'.gets) :
    (g'.began = s.now ∧ g'.phase = .entryFor) ∨ ∃ g ∈ s.gets, g'.command = g.command ∧
      g'.began = g.began ∧ GetMove σ s s' g.command g.phase g'.phase := by
  have hset {i : ℕ} {g0 g1 : Get Value} (h0 : s.gets[i]? = some g0)
      (hg : g' ∈ s.gets.set i g1) (hcommand : g1.command = g0.command)
      (hbegan : g1.began = g0.began) (hmove : GetMove σ s s' g0.command g0.phase g1.phase) :
      ∃ g ∈ s.gets, g'.command = g.command ∧ g'.began = g.began ∧
        GetMove σ s s' g.command g.phase g'.phase := by
    rcases mem_or_eq_of_mem_set hg with hold | rfl
    · exact ⟨g', hold, rfl, rfl, .stay _⟩
    · exact ⟨g0, mem_of_getElem? h0, hcommand, hbegan, hmove⟩
  cases h with
  | get c =>
    rcases mem_append.mp hg with hold | hnew
    · exact .inr ⟨g', hold, rfl, rfl, .stay _⟩
    · obtain rfl := mem_singleton.mp hnew
      exact .inl ⟨rfl, rfl⟩
  | found hget hentry => exact .inr (hset hget hg rfl rfl (.found hentry))
  | created hget => exact .inr (hset hget hg rfl rfl (.found mem_cons_self))
  | lock hget hentry => exact .inr (hset hget hg rfl rfl (.lock _))
  | hit hget hentry hvalue => exact .inr (hset hget hg rfl rfl (.hit hentry hvalue))
  | joined hget hrunning => exact .inr (hset hget hg rfl rfl (.attached hrunning))
  | registered hget => exact .inr (hset hget hg rfl rfl (.attached mem_cons_self))
  | received hget hentry hprocess hvalue =>
    exact .inr (hset hget hg rfl rfl (.received hprocess hvalue))
  | failed hget => exact .inr (hset hget hg rfl rfl (.failed _ _))
  | _ => exact .inr ⟨g', hg, rfl, rfl, .stay _⟩

inductive InvalidationMove (s s' : State Output Value) (scope : Option String) :
    InvalidationPhase → InvalidationPhase → Prop where
  | stay (phase : InvalidationPhase) : InvalidationMove s s' scope phase phase
  | collect {cache : Cache} {names : List String} (hentries : s'.entries = s.entries)
      (hnames : ∀ c e, (c, e) ∈ s.entries → c.cache = cache → c.resource ∈ names) :
      InvalidationMove s s' scope (.collect cache) (.drop cache names)
  | drop {cache : Cache} {names : List String} {name : String}
      (hentries : ∀ c e, (c, e) ∈ s'.entries → (c, e) ∈ s.entries ∧ c ≠ ⟨cache, name⟩) :
      InvalidationMove s s' scope (.drop cache names) (.drop cache (names.filter (· ≠ name)))
  | next (cache : Cache) (hentries : s'.entries = s.entries) :
      InvalidationMove s s' scope (.drop cache []) (nextPhase scope cache s.now)

theorem Effect.invalidation_move (h : Effect σ s s') {v' : Invalidation}
    (hv : v' ∈ s'.invalidations) :
    (∃ scope, v' = ⟨scope, s.now, firstPhase scope .status⟩ ∧ Quiet σ s scope ∧
        s' = { s with invalidations := s.invalidations ++ [v'] }) ∨
      ∃ v ∈ s.invalidations, v'.scope = v.scope ∧ v'.began = v.began ∧
        InvalidationMove s s' v.scope v.phase v'.phase := by
  have hset {i : ℕ} {v0 v1 : Invalidation} (h0 : s.invalidations[i]? = some v0)
      (hv : v' ∈ s.invalidations.set i v1) (hscope : v1.scope = v0.scope)
      (hbegan : v1.began = v0.began)
      (hmove : InvalidationMove s s' v0.scope v0.phase v1.phase) :
      ∃ v ∈ s.invalidations, v'.scope = v.scope ∧ v'.began = v.began ∧
        InvalidationMove s s' v.scope v.phase v'.phase := by
    rcases mem_or_eq_of_mem_set hv with hold | rfl
    · exact ⟨v', hold, rfl, rfl, .stay _⟩
    · exact ⟨v0, mem_of_getElem? h0, hscope, hbegan, hmove⟩
  cases h with
  | invalidate hquiet =>
    rcases mem_append.mp hv with hold | hnew
    · exact .inr ⟨v', hold, rfl, rfl, .stay _⟩
    · obtain rfl := mem_singleton.mp hnew
      exact .inl ⟨_, rfl, hquiet, rfl⟩
  | collect hv0 =>
    refine .inr (hset hv0 hv rfl rfl (.collect rfl fun c e hlinked hcache => ?_))
    exact mem_map.mpr ⟨(c, e), mem_filter.mpr ⟨hlinked, by simpa⟩, rfl⟩
  | drop name hv0 =>
    refine .inr (hset hv0 hv rfl rfl (.drop fun c e hlinked => ?_))
    obtain ⟨hold, hne⟩ := mem_filter.mp hlinked
    exact ⟨hold, by simpa using hne⟩
  | next hv0 => exact .inr (hset hv0 hv rfl rfl (.next _ rfl))
  | _ => exact .inr ⟨v', hv, rfl, rfl, .stay _⟩

end ReplicatedVolume.Agent.Caches
