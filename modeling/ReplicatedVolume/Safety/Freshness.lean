import ReplicatedVolume.Agent.CacheEffects

/-!
# Cached outputs are newer than the last invalidation

An invalidation unlinks the entries of its resource, so a later caller gets an entry created after
it began. `WithCache` breaks the chain: the caller may join a process that was running all the
while. The outputs are new in the runs where no such process exists when an invalidation begins.
-/

namespace ReplicatedVolume.Agent.Caches
open List Option

variable {Output Value : Type} {σ : Setting Output Value} {s s' : State Output Value}

def FreshProcess (s : State Output Value) (time key p : ℕ) : Prop :=
  ∃ q, s.processes[p]? = some q ∧ q.key = key ∧ ∀ t, q.started = some t → time < t

def Recent (s : State Output Value) (time : ℕ) (c : Command) (e : ℕ) : Prop :=
  ∃ n, s.heap[e]? = some n ∧ n.command = c ∧ time < n.created

/-- The value is the output of a process that was started under the key of the command after the
time. -/
def YieldedAfter (σ : Setting Output Value) (s : State Output Value) (time : ℕ) (c : Command)
    (x : Value) : Prop :=
  ∃ q ∈ s.processes, q.key = σ.key c ∧ σ.outcome c q = some x ∧ ∃ t, q.started = some t ∧ time < t

theorem FreshProcess.effect {time key p : ℕ} (hfresh : FreshProcess s time key p)
    (h : Effect σ s s') (hnow : time < s.now) : FreshProcess s' time key p := by
  obtain ⟨q, hq, hkey, hstarted⟩ := hfresh
  obtain ⟨q', hq', honward⟩ := h.process hq
  refine ⟨q', hq', honward.key.trans hkey, fun t ht => ?_⟩
  rcases honward.started with hsame | ⟨-, hlaunched⟩
  · exact hstarted t (hsame.symm.trans ht)
  · obtain rfl := some.inj (hlaunched.symm.trans ht)
    exact hnow

variable {c : Command}

theorem Recent.effect {time e : ℕ} (hrecent : Recent s time c e)
    (h : Effect σ s s') : Recent s' time c e := by
  obtain ⟨n, hn, hcommand, hcreated⟩ := hrecent
  obtain ⟨n', hn', hcommand', hcreated'⟩ := h.entry hn
  exact ⟨n', hn', hcommand'.trans hcommand, hcreated' ▸ hcreated⟩

variable {x : Value}

theorem outcome_onward {now : ℕ} {q q' : Process Output}
    (honward : q.Onward now q') (hx : σ.outcome c q = some x) : σ.outcome c q' = some x := by
  cases hresult : q.result with
  | none => simp [Setting.outcome, hresult] at hx
  | some r => simpa [Setting.outcome, hresult, honward.result r hresult] using hx

theorem YieldedAfter.effect {time : ℕ}
    (hyielded : YieldedAfter σ s time c x) (h : Effect σ s s') : YieldedAfter σ s' time c x := by
  obtain ⟨q, hq, hkey, hx, t, hstarted, htime⟩ := hyielded
  obtain ⟨p, hp⟩ := List.getElem?_of_mem hq
  obtain ⟨q', hq', honward⟩ := h.process hp
  refine ⟨q', mem_of_getElem? hq', honward.key.trans hkey, outcome_onward honward hx, t, ?_, htime⟩
  rcases honward.started with hsame | ⟨hnone, -⟩
  · exact hsame.trans hstarted
  · exact absurd (hnone.symm.trans hstarted) (by simp)

def GetPhase.entry? : GetPhase Value → Option ℕ
  | .lock e | .check e | .wait e _ => some e
  | _ => none

structure Sound (σ : Setting Output Value) (s : State Output Value) : Prop where
  created : ∀ (e : ℕ) (n : Entry Value), s.heap[e]? = some n → n.created < s.now
  called : ∀ g ∈ s.gets, g.began < s.now
  invalidated : ∀ v ∈ s.invalidations, v.began < s.now
  linked : ∀ c e, (c, e) ∈ s.entries → ∃ n, s.heap[e]? = some n ∧ n.command = c
  held : ∀ g ∈ s.gets, ∀ e, g.phase.entry? = some e →
    ∃ n, s.heap[e]? = some n ∧ n.command = g.command
  table : ∀ k p, (k, p) ∈ s.runningCommands → ∃ q, s.processes[p]? = some q ∧ q.key = k
  ran : ∀ (p : ℕ) (q : Process Output), s.processes[p]? = some q →
    ∀ out, q.result = some (some out) → q.started ≠ none

def Dropped : InvalidationPhase → Command → Prop
  | .collect cache, c => cache = .config ∧ c.cache = .status
  | .drop cache names, c =>
    c.cache = cache ∧ c.resource ∉ names ∨ cache = .config ∧ c.cache = .status
  | .returned _, _ => True

structure Upheld (σ : Setting Output Value) (s : State Output Value) (v : Invalidation) :
    Prop where
  table : ∀ c p, Covers v.scope c.resource → (σ.key c, p) ∈ s.runningCommands →
    FreshProcess s v.began (σ.key c) p
  attached : ∀ g ∈ s.gets, ∀ e p, Covers v.scope g.command.resource → g.phase = .wait e p →
    Recent s v.began g.command e → FreshProcess s v.began (σ.key g.command) p
  value : ∀ (e : ℕ) (n : Entry Value) x, Covers v.scope n.command.resource →
    s.heap[e]? = some n → v.began < n.created → n.value = some x → YieldedAfter σ s v.began n.command x
  linked : ∀ c e, Covers v.scope c.resource → (c, e) ∈ s.entries → Dropped v.phase c →
    Recent s v.began c e
  held : ∀ g ∈ s.gets, ∀ time, v.phase = .returned time → time < g.began →
    Covers v.scope g.command.resource → ∀ e, g.phase.entry? = some e → Recent s v.began g.command e
  yielded : ∀ g ∈ s.gets, ∀ time, v.phase = .returned time → time < g.began →
    Covers v.scope g.command.resource → ∀ x, g.phase = .returned (some x) →
      YieldedAfter σ s v.began g.command x

def State.tick (s : State Output Value) (now : ℕ) : State Output Value := { s with now := now + 1 }

theorem GetMove.entry {phase phase' : GetPhase Value} {e : ℕ}
    (h : GetMove σ s s' c phase phase') (he : phase'.entry? = some e) :
    phase.entry? = some e ∨ (c, e) ∈ s'.entries := by
  cases h with
  | stay | lock | attached => exact .inl he
  | found hlinked =>
    obtain rfl := some.inj he
    exact .inr hlinked
  | hit | received | failed => cases he

theorem Sound.linked_effect (hsound : Sound σ s) (h : Effect σ s s') {e : ℕ}
    (hlinked : (c, e) ∈ s'.entries) : ∃ n, s'.heap[e]? = some n ∧ n.command = c := by
  rcases h.linked hlinked with hold | hnew
  · obtain ⟨n, hn, hcommand⟩ := hsound.linked c e hold
    obtain ⟨n', hn', hcommand', -⟩ := h.entry hn
    exact ⟨n', hn', hcommand'.trans hcommand⟩
  · exact ⟨_, hnew, rfl⟩

theorem Sound.effect (hsound : Sound σ s) (h : Effect σ s s') : Sound σ (s'.tick s.now) where
  created e n hn := by
    cases hold : s.heap[e]? with
    | none => exact Nat.lt_succ_of_le (Nat.le_of_eq (h.new_entry hn hold))
    | some n0 =>
      obtain ⟨n1, hn1, -, hcreated⟩ := h.entry hold
      obtain rfl := some.inj (hn.symm.trans hn1)
      exact hcreated ▸ Nat.lt_succ_of_lt (hsound.created e n0 hold)
  called g hg := by
    rcases h.get_move hg with ⟨hnew, -⟩ | ⟨g0, hg0, -, hbegan, -⟩
    · exact Nat.lt_succ_of_le (Nat.le_of_eq hnew)
    · exact hbegan ▸ Nat.lt_succ_of_lt (hsound.called g0 hg0)
  invalidated v hv := by
    rcases h.invalidation_move hv with ⟨scope, rfl, -⟩ | ⟨v0, hv0, -, hbegan, -⟩
    · exact Nat.lt_succ_self _
    · exact hbegan ▸ Nat.lt_succ_of_lt (hsound.invalidated v0 hv0)
  linked c e hlinked := hsound.linked_effect h hlinked
  held g hg e he := by
    rcases h.get_move hg with ⟨-, hphase⟩ | ⟨g0, hg0, hcommand, -, hmove⟩
    · rw [hphase] at he
      cases he
    · rw [hcommand]
      rcases hmove.entry he with hold | hlinked
      · obtain ⟨n, hn, hn_command⟩ := hsound.held g0 hg0 e hold
        obtain ⟨n', hn', hcommand', -⟩ := h.entry hn
        exact ⟨n', hn', hcommand'.trans hn_command⟩
      · exact hsound.linked_effect h hlinked
  table k p hrunning := by
    rcases h.running hrunning with hold | hnew
    · obtain ⟨q, hq, hkey⟩ := hsound.table k p hold
      obtain ⟨q', hq', honward⟩ := h.process hq
      exact ⟨q', hq', honward.key.trans hkey⟩
    · exact ⟨_, hnew, rfl⟩
  ran p q hq out hout := by
    cases hold : s.processes[p]? with
    | none => exact absurd ((h.new_process hq hold).symm.trans hout) (by simp)
    | some q0 =>
      obtain ⟨q1, hq1, honward⟩ := h.process hold
      obtain rfl := some.inj (hq.symm.trans hq1)
      exact honward.ran (hsound.ran p q0 hold) out hout

theorem Sound.yielded (hsound : Sound σ s) {time p : ℕ} {q : Process Output}
    (hfresh : FreshProcess s time (σ.key c) p) (hq : s.processes[p]? = some q)
    (hx : σ.outcome c q = some x) : YieldedAfter σ s time c x := by
  obtain ⟨q0, hq0, hkey, hstarted⟩ := hfresh
  obtain rfl := some.inj (hq0.symm.trans hq)
  obtain ⟨out, hout, -⟩ := bind_eq_some_iff.mp hx
  obtain ⟨t, ht⟩ := ne_none_iff_exists'.mp (hsound.ran p q0 hq0 out (join_eq_some_iff.mp hout))
  exact ⟨q0, mem_of_getElem? hq0, hkey, hx, t, ht, hstarted t ht⟩

variable {scope : Option String}

theorem Upheld.begin (hsound : Sound σ s) (hquiet : Quiet σ s scope)
    (invalidations : List Invalidation) :
    Upheld σ (State.tick { s with invalidations := invalidations } s.now)
      ⟨scope, s.now, firstPhase scope .status⟩ where
  table c p hcovers hrunning := by
    obtain ⟨q, hq, hkey⟩ := hsound.table _ p hrunning
    refine ⟨q, hq, hkey, fun t ht => ?_⟩
    exact absurd ((hquiet c p q hcovers hrunning hq).symm.trans ht) (by simp)
  attached g hg e p hcovers hphase hrecent := by
    obtain ⟨n, hn, -, hcreated⟩ := hrecent
    exact absurd (hsound.created e n hn) (Nat.lt_asymm hcreated)
  value e n x hcovers hn hcreated _ := absurd (hsound.created e n hn) (Nat.lt_asymm hcreated)
  linked c e hcovers hlinked hdropped := by
    cases scope with
    | none => simp [firstPhase, Dropped] at hdropped
    | some name =>
      obtain rfl : name = c.resource := by simpa [Covers] using hcovers
      simp [firstPhase, Dropped] at hdropped
  held g hg time hphase := by cases scope <;> cases hphase
  yielded g hg time hphase := by cases scope <;> cases hphase

theorem InvalidationMove.returned {phase phase' : InvalidationPhase}
    {time : ℕ} (h : InvalidationMove s s' scope phase phase') (hphase : phase' = .returned time) :
    phase = .returned time ∨ time = s.now := by
  cases h with
  | stay => exact .inl hphase
  | collect | drop => cases hphase
  | next cache =>
    cases cache with
    | status => cases scope <;> cases hphase
    | config =>
      cases hphase
      exact .inr rfl

theorem InvalidationMove.dropped {phase phase' : InvalidationPhase}
    {e : ℕ} (h : InvalidationMove s s' scope phase phase')
    (hlinked : (c, e) ∈ s.entries) (hlinked' : (c, e) ∈ s'.entries)
    (hcovers : Covers scope c.resource) (hdropped : Dropped phase' c) : Dropped phase c := by
  cases h with
  | stay => exact hdropped
  | collect hentries hnames =>
    rcases hdropped with ⟨hcache, hnot⟩ | hdone
    · exact absurd (hnames c e hlinked hcache) hnot
    · exact hdone
  | @drop cache names name hentries =>
    rcases hdropped with ⟨hcache, hnot⟩ | hdone
    · refine .inl ⟨hcache, fun hmem => hnot (mem_filter.mpr ⟨hmem, ?_⟩)⟩
      have hne := (hentries c e hlinked').2
      simp only [ne_eq, decide_not, Bool.not_eq_eq_eq_not, Bool.not_true, decide_eq_false_iff_not]
      rintro rfl
      exact hne (by rw [← hcache])
    · exact .inr hdone
  | next cache =>
    cases cache with
    | status =>
      cases scope with
      | none => exact .inl ⟨hdropped.2, not_mem_nil⟩
      | some name =>
        obtain rfl : name = c.resource := by simpa [Covers] using hcovers
        rcases hdropped with ⟨-, hnot⟩ | ⟨-, hcache⟩
        · exact absurd mem_cons_self hnot
        · exact .inl ⟨hcache, not_mem_nil⟩
    | config =>
      cases hcache : c.cache with
      | status => exact .inr ⟨rfl, hcache⟩
      | config => exact .inl ⟨hcache, not_mem_nil⟩

namespace Upheld

variable {v v' : Invalidation}

theorem table_effect (hup : Upheld σ s v) (h : Effect σ s s') (hbegan : v.began < s.now)
    {c : Command} {p : ℕ} (hcovers : Covers v.scope c.resource)
    (hrunning : (σ.key c, p) ∈ s'.runningCommands) : FreshProcess s' v.began (σ.key c) p := by
  rcases h.running hrunning with hold | hnew
  · exact (hup.table c p hcovers hold).effect h hbegan
  · exact ⟨_, hnew, rfl, fun t ht => by cases ht⟩

theorem linked_effect (hup : Upheld σ s v) (h : Effect σ s s') (hbegan : v.began < s.now)
    (hmove : InvalidationMove s s' v.scope v.phase v'.phase) {c : Command} {e : ℕ}
    (hcovers : Covers v.scope c.resource) (hlinked : (c, e) ∈ s'.entries)
    (hdropped : Dropped v'.phase c) : Recent s' v.began c e := by
  rcases h.linked hlinked with hold | hnew
  · exact (hup.linked c e hcovers hold (hmove.dropped hold hlinked hcovers hdropped)).effect h
  · exact ⟨_, hnew, rfl, hbegan⟩

theorem recent_back (hsound : Sound σ s) (h : Effect σ s s') {g : Get Value} (hg : g ∈ s.gets)
    {time e : ℕ} {n : Entry Value} (he : g.phase.entry? = some e) (hn : s'.heap[e]? = some n)
    (hcreated : time < n.created) : n.command = g.command ∧ Recent s time g.command e := by
  obtain ⟨n0, hn0, hcommand0⟩ := hsound.held g hg e he
  obtain ⟨n1, hn1, hcommand, hcreated1⟩ := h.entry hn0
  obtain rfl := some.inj (hn.symm.trans hn1)
  exact ⟨hcommand.trans hcommand0, n0, hn0, hcommand0, hcreated1 ▸ hcreated⟩

theorem value_effect (hup : Upheld σ s v) (hsound : Sound σ s) (h : Effect σ s s') {e : ℕ}
    {n : Entry Value} {x : Value} (hcovers : Covers v.scope n.command.resource)
    (hn : s'.heap[e]? = some n) (hcreated : v.began < n.created) (hx : n.value = some x) :
    YieldedAfter σ s' v.began n.command x := by
  rcases h.value hn hx with ⟨n0, hn0, hx0⟩ | ⟨g, hg, p, q, hphase, hq, hx⟩
  · obtain ⟨n1, hn1, hcommand, hcreated1⟩ := h.entry hn0
    obtain rfl := some.inj (hn.symm.trans hn1)
    rw [hcommand] at hcovers ⊢
    exact (hup.value e n0 x hcovers hn0 (hcreated1 ▸ hcreated) hx0).effect h
  · obtain ⟨hcommand, hrecent⟩ :=
      recent_back hsound h hg (by rw [hphase]; rfl : g.phase.entry? = some e) hn hcreated
    rw [hcommand] at hcovers ⊢
    have hfresh := hup.attached g hg e p hcovers hphase hrecent
    exact (hsound.yielded hfresh hq hx).effect h

variable {g' : Get Value}

theorem attached_effect (hup : Upheld σ s v) (hsound : Sound σ s) (h : Effect σ s s')
    (hbegan : v.began < s.now) (hg' : g' ∈ s'.gets) {e p : ℕ}
    (hcovers : Covers v.scope g'.command.resource) (hphase : g'.phase = .wait e p)
    (hrecent : Recent s' v.began g'.command e) :
    FreshProcess s' v.began (σ.key g'.command) p := by
  rcases h.get_move hg' with ⟨-, hnew⟩ | ⟨g, hg, hcommand, -, hmove⟩
  · exact absurd (hnew.symm.trans hphase) (by simp)
  · rw [hcommand] at hcovers ⊢
    rw [hphase] at hmove
    obtain ⟨n, hn, -, hcreated⟩ := hrecent
    generalize hold : g.phase = phase at hmove
    cases hmove with
    | stay =>
      have he : g.phase.entry? = some e := by rw [hold]; rfl
      have hrecent := (recent_back hsound h hg he hn hcreated).2
      exact (hup.attached g hg e p hcovers hold hrecent).effect h hbegan
    | attached hrunning => exact hup.table_effect h hbegan hcovers hrunning

theorem returned_before (hsound : Sound σ s) (h : Effect σ s s')
    (hmove : InvalidationMove s s' v.scope v.phase v'.phase) {g : Get Value} (hg : g ∈ s'.gets)
    {time : ℕ} (hphase : v'.phase = .returned time) (htime : time < g.began) :
    v.phase = .returned time := by
  rcases hmove.returned hphase with hold | rfl
  · exact hold
  · have hcalled : g.began < s.now + 1 := (hsound.effect h).called g hg
    omega

section
variable (hup : Upheld σ s v) (hsound : Sound σ s) (h : Effect σ s s')
include hup hsound h

theorem held_effect (hbegan : v.began < s.now)
    (hmove : InvalidationMove s s' v.scope v.phase v'.phase)
    (hg' : g' ∈ s'.gets) {time e : ℕ} (hphase : v'.phase = .returned time)
    (htime : time < g'.began) (hcovers : Covers v.scope g'.command.resource)
    (he : g'.phase.entry? = some e) : Recent s' v.began g'.command e := by
  have hreturned := returned_before hsound h hmove hg' hphase htime
  rcases h.get_move hg' with ⟨-, hnew⟩ | ⟨g, hg, hcommand, hg_began, hgmove⟩
  · rw [hnew] at he
    cases he
  · rw [hcommand] at hcovers ⊢
    rcases hgmove.entry he with hold | hlinked
    · exact (hup.held g hg time hreturned (hg_began ▸ htime) hcovers e hold).effect h
    · exact hup.linked_effect h hbegan hmove hcovers hlinked (by rw [hphase]; trivial)

theorem yielded_effect (hmove : InvalidationMove s s' v.scope v.phase v'.phase)
    (hg' : g' ∈ s'.gets) {time : ℕ} {x : Value} (hphase : v'.phase = .returned time)
    (htime : time < g'.began) (hcovers : Covers v.scope g'.command.resource)
    (hx : g'.phase = .returned (some x)) : YieldedAfter σ s' v.began g'.command x := by
  have hreturned := returned_before hsound h hmove hg' hphase htime
  rcases h.get_move hg' with ⟨-, hnew⟩ | ⟨g, hg, hcommand, hg_began, hgmove⟩
  · exact absurd (hnew.symm.trans hx) (by simp)
  · rw [hcommand] at hcovers ⊢
    rw [hg_began] at htime
    rw [hx] at hgmove
    have hheld := hup.held g hg time hreturned htime hcovers
    generalize hold : g.phase = phase at hgmove hheld
    cases hgmove with
    | stay => exact (hup.yielded g hg time hreturned htime hcovers x hold).effect h
    | @hit e n _ hn hvalue =>
      obtain ⟨n0, hn0, hn_command, hcreated⟩ := hheld e rfl
      obtain rfl := some.inj (hn0.symm.trans hn)
      rw [← hn_command] at hcovers ⊢
      exact (hup.value e n0 x hcovers hn0 hcreated hvalue).effect h
    | @received e p q _ hq hvalue =>
      have hfresh := hup.attached g hg e p hcovers hold (hheld e rfl)
      exact (hsound.yielded hfresh hq hvalue).effect h

theorem effect (hbegan : v.began < s.now) (hv_scope : v'.scope = v.scope)
    (hv_began : v'.began = v.began)
    (hmove : InvalidationMove s s' v.scope v.phase v'.phase) : Upheld σ (s'.tick s.now) v' where
  table c p hcovers hrunning := by
    rw [hv_began]
    exact hup.table_effect h hbegan (hv_scope ▸ hcovers) hrunning
  attached g hg e p hcovers hphase hrecent := by
    rw [hv_began] at hrecent ⊢
    exact hup.attached_effect hsound h hbegan hg (hv_scope ▸ hcovers) hphase hrecent
  value e n x hcovers hn hcreated hx := by
    rw [hv_began] at hcreated ⊢
    exact hup.value_effect hsound h (hv_scope ▸ hcovers) hn hcreated hx
  linked c e hcovers hlinked hdropped := by
    rw [hv_began]
    exact hup.linked_effect h hbegan hmove (hv_scope ▸ hcovers) hlinked hdropped
  held g hg time hphase htime hcovers e he := by
    rw [hv_began]
    exact hup.held_effect hsound h hbegan hmove hg hphase htime (hv_scope ▸ hcovers) he
  yielded g hg time hphase htime hcovers x hx := by
    rw [hv_began]
    exact hup.yielded_effect hsound h hmove hg hphase htime (hv_scope ▸ hcovers) hx

end

end Upheld

/-- Every call that began after the return of a covering invalidation yields the output of a
process that was started after the begin of that invalidation. -/
def Fresh (σ : Setting Output Value) (s : State Output Value) : Prop :=
  ∀ v ∈ s.invalidations, ∀ g ∈ s.gets, ∀ time x, v.phase = .returned time → time < g.began →
    Covers v.scope g.command.resource → g.phase = .returned (some x) →
      YieldedAfter σ s v.began g.command x

/-- Invalidations of the run only begin while no started process of a covered command runs. -/
def QuietRun (σ : Setting Output Value) : State Output Value → List (Action Output) → Prop
  | _, [] => True
  | s, a :: rest => (∀ scope, a = .invalidate scope → Quiet σ s scope) ∧
      ∀ s', step σ s a = some s' → QuietRun σ s' rest

structure Kept (σ : Setting Output Value) (s : State Output Value) : Prop where
  sound : Sound σ s
  upheld : ∀ v ∈ s.invalidations, Upheld σ s v

theorem Kept.init : Kept σ State.init where
  sound := by constructor <;> simp [State.init]
  upheld := by simp [State.init]

theorem Kept.step {a : Action Output} (hkept : Kept σ s) (hstep : step σ s a = some s')
    (hquiet : ∀ scope, a = .invalidate scope → Quiet σ s scope) : Kept σ s' := by
  obtain ⟨s1, hact, rfl⟩ := map_eq_some_iff.mp hstep
  have heffect := act_effect hquiet hact
  refine ⟨hkept.sound.effect heffect, fun v hv => ?_⟩
  rcases heffect.invalidation_move hv with
    ⟨scope, rfl, hscope, rfl⟩ | ⟨v0, hv0, hv_scope, hv_began, hmove⟩
  · exact .begin hkept.sound hscope _
  · exact (hkept.upheld v0 hv0).effect hkept.sound heffect (hkept.sound.invalidated v0 hv0)
      hv_scope hv_began hmove

variable {actions : List (Action Output)}

theorem Kept.run (hkept : Kept σ s)
    (hrun : run σ s actions = some s') (hquiet : QuietRun σ s actions) : Kept σ s' := by
  induction actions generalizing s with
  | nil =>
    obtain rfl := some.inj hrun
    exact hkept
  | cons a rest ih =>
    obtain ⟨s1, hstep, hrest⟩ := bind_eq_some_iff.mp hrun
    exact ih (hkept.step hstep hquiet.1) hrest (hquiet.2 s1 hstep)

/-- Where no started process of a covered command runs when an invalidation begins, the outputs
read after the invalidation are newer than it. -/
theorem outputs_newer_than_invalidation (σ : Setting Output Value)
    (actions : List (Action Output)) (hrun : run σ State.init actions = some s)
    (hquiet : QuietRun σ State.init actions) : Fresh σ s := by
  have hkept := Kept.init.run hrun hquiet
  intro v hv g hg time x hphase htime hcovers hx
  exact (hkept.upheld v hv).yielded g hg time hphase htime hcovers x hx

/-- A hash that tells `status` from `show`, and outputs that are their own values. -/
def plainSetting : Setting ℕ ℕ := ⟨List.length, fun _ output => some output⟩

def calling (c : Command) (get : ℕ) : List (Action ℕ) :=
  [.get c, .entryFor get, .lock get, .fetch get]

def invalidating (invalidation : ℕ) (name : String) : List (Action ℕ) :=
  [.invalidate (some name), .drop invalidation name, .next invalidation, .drop invalidation name,
    .next invalidation]

def finishing (process output get : ℕ) : List (Action ℕ) :=
  [.exit process (some output), .close process, .receive get]

/-- The context of a caller ends while its `drbdsetup status` runs. The resource is invalidated,
and the next caller joins the process that was started before. -/
def staleRun : List (Action ℕ) :=
  calling ⟨.status, "r"⟩ 0 ++ [.launch 0, .expire 0] ++ invalidating 0 "r" ++
    calling ⟨.status, "r"⟩ 1 ++ finishing 0 7 1

theorem stale_output_joined :
    ∃ s, run plainSetting State.init staleRun = some s ∧ ¬ Fresh plainSetting s := by
  refine ⟨_, rfl, fun hfresh => ?_⟩
  obtain ⟨q, hq, -, -, t, ht, hlt⟩ := hfresh ⟨some "r", 6, .returned 10⟩ (by decide)
    ⟨⟨.status, "r"⟩, 11, .returned (some 7)⟩ (by decide) 10 7 rfl (by decide) (by decide) rfl
  have hold : q = ⟨4, some 4, some (some 7), true⟩ := mem_singleton.mp hq
  subst hold
  obtain rfl : 4 = t := some.inj ht
  exact absurd hlt (by decide)

theorem quietRun_of_idle
    (h : ∀ k < actions.length, (actions[k]? matches some (.invalidate _)) = true →
      (run σ s (actions.take k)).all (·.runningCommands.isEmpty) = true) :
    QuietRun σ s actions := by
  induction actions generalizing s with
  | nil => trivial
  | cons a rest ih =>
    refine ⟨?_, fun s' hstep => ih fun k hk hinvalidate => ?_⟩
    · rintro scope rfl c p process hcovers hrunning
      have hempty : s.runningCommands.isEmpty = true := h 0 (by simp) rfl
      simp [isEmpty_iff.mp hempty] at hrunning
    · have hrest := h (k + 1) (by simpa using hk) hinvalidate
      simpa [run, hstep] using hrest

def freshRun : List (Action ℕ) :=
  calling ⟨.status, "r"⟩ 0 ++ [.launch 0] ++ finishing 0 7 0 ++ invalidating 0 "r" ++
    calling ⟨.status, "r"⟩ 1 ++ [.launch 1] ++ finishing 1 8 1

theorem outputs_newer_than_invalidation_sequential :
    ∃ s, run plainSetting State.init freshRun = some s ∧
      ⟨⟨.status, "r"⟩, 13, .returned (some 8)⟩ ∈ s.gets ∧ Fresh plainSetting s := by
  refine ⟨_, rfl, by decide, ?_⟩
  refine outputs_newer_than_invalidation plainSetting freshRun rfl (quietRun_of_idle ?_)
  decide

end ReplicatedVolume.Agent.Caches
