import Mathlib

/-!
# The caches of command outputs

`Caches` keeps the last output of `drbdsetup status` and `drbdsetup show` of each resource. Below
it `WithCache` joins a call to a running process with the same name and arguments. Callers,
invalidations and processes interleave freely. The clock counts the steps; times and the command
of an entry are kept for the statements about runs.
-/

namespace ReplicatedVolume.Agent.Caches

inductive Cache where
  | status
  | config
  deriving DecidableEq

structure Command where
  cache : Cache
  resource : String
  deriving DecidableEq

def statusArgs (resourceName : String) : List String :=
  ["status", "--json", if resourceName = "" then "all" else resourceName]

def showArgs (resourceName : String) (showDefaults : Bool) : List String :=
  ["show", "--json"] ++ (if showDefaults then ["--show-defaults"] else []) ++
    (if resourceName = "" then [] else [resourceName])

def Command.line (c : Command) : List String :=
  "drbdsetup" :: match c.cache with
    | .status => statusArgs c.resource
    | .config => showArgs c.resource true

/-- The seeded hash of a name with its arguments, which may collide, and what `fetchStatus` and
`fetchShow` make of an output: a value, which may say that the resource is absent, or an error. -/
structure Setting (Output Value : Type) where
  sum64 : List String → ℕ
  parse : Command → Output → Option Value

def Setting.key {Output Value : Type} (σ : Setting Output Value) (c : Command) : ℕ :=
  σ.sum64 c.line

structure Process (Output : Type) where
  key : ℕ
  started : Option ℕ
  /-- `some none` when the process could not be started. -/
  result : Option (Option Output)
  closed : Bool
  deriving DecidableEq

/-- The `cacheEntry` of `commandCache`; `value` is empty as long as `cached` is false. -/
structure Entry (Value : Type) where
  command : Command
  created : ℕ
  locked : Bool
  value : Option Value
  deriving DecidableEq

/-- Where a call of `Get` stands. `entry` and `process` are positions in the lists of the state. -/
inductive GetPhase (Value : Type) where
  | entryFor
  | lock (entry : ℕ)
  | check (entry : ℕ)
  | wait (entry process : ℕ)
  | returned (result : Option Value)
  deriving DecidableEq

structure Get (Value : Type) where
  command : Command
  began : ℕ
  phase : GetPhase Value
  deriving DecidableEq

inductive InvalidationPhase where
  | collect (cache : Cache)
  | drop (cache : Cache) (names : List String)
  | returned (time : ℕ)
  deriving DecidableEq

structure Invalidation where
  scope : Option String
  began : ℕ
  phase : InvalidationPhase
  deriving DecidableEq

structure State (Output Value : Type) where
  now : ℕ
  /-- The maps of both `commandCache`s. -/
  entries : List (Command × ℕ)
  heap : List (Entry Value)
  runningCommands : List (ℕ × ℕ)
  processes : List (Process Output)
  gets : List (Get Value)
  invalidations : List Invalidation
  deriving DecidableEq

def State.init {Output Value : Type} : State Output Value :=
  { now := 0, entries := [], heap := [], runningCommands := [], processes := [], gets := [],
    invalidations := [] }

inductive Action (Output : Type) where
  | get (command : Command)
  | entryFor (get : ℕ)
  | lock (get : ℕ)
  | hit (get : ℕ)
  | fetch (get : ℕ)
  | receive (get : ℕ)
  /-- The context of the caller ends, the process runs on. -/
  | expire (get : ℕ)
  /-- Another caller runs a command past the caches, as `createNewUUID` does. -/
  | execute (line : List String)
  | launch (process : ℕ)
  | exit (process : ℕ) (output : Option Output)
  | close (process : ℕ)
  | invalidate (scope : Option String)
  | collect (invalidation : ℕ)
  | drop (invalidation : ℕ) (name : String)
  | next (invalidation : ℕ)
  deriving DecidableEq

variable {Output Value : Type}

namespace State

variable (s : State Output Value)

def setGet (i : ℕ) (g : Get Value) (phase : GetPhase Value) : State Output Value :=
  { s with gets := s.gets.set i { g with phase := phase } }

def setInvalidation (i : ℕ) (v : Invalidation) (phase : InvalidationPhase) :
    State Output Value :=
  { s with invalidations := s.invalidations.set i { v with phase := phase } }

def setEntry (e : ℕ) (entry : Entry Value) : State Output Value :=
  { s with heap := s.heap.set e entry }

def setProcess (p : ℕ) (process : Process Output) : State Output Value :=
  { s with processes := s.processes.set p process }

def link (c : Command) : State Output Value :=
  { s with
    entries := (c, s.heap.length) :: s.entries
    heap := s.heap ++ [{ command := c, created := s.now, locked := false, value := none }] }

def entryFor (c : Command) : State Output Value × ℕ :=
  match s.entries.lookup c with
  | some e => (s, e)
  | none => (s.link c, s.heap.length)

def register (key : ℕ) : State Output Value :=
  { s with
    runningCommands := (key, s.processes.length) :: s.runningCommands
    processes := s.processes ++ [{ key, started := none, result := none, closed := false }] }

def ensureStarted (key : ℕ) : State Output Value × ℕ :=
  match s.runningCommands.lookup key with
  | some p => (s, p)
  | none => (s.register key, s.processes.length)

/-- The goroutine of a process: it runs the command, takes the process out of the table and only
then wakes the callers. -/
def launch (p : ℕ) (process : Process Output) : State Output Value :=
  s.setProcess p { process with started := some s.now }

def exit (p : ℕ) (process : Process Output) (output : Option Output) : State Output Value :=
  { s.setProcess p { process with result := some output } with
    runningCommands := s.runningCommands.filter (·.1 ≠ process.key) }

def delete (c : Command) : State Output Value :=
  { s with entries := s.entries.filter (·.1 ≠ c) }

def names (cache : Cache) : List String :=
  (s.entries.filter (·.1.cache = cache)).map (·.1.resource)

end State

/-- How the invalidation of one cache begins: `Invalidate` deletes its name, `InvalidateAll`
first collects all names. -/
def firstPhase (scope : Option String) (cache : Cache) : InvalidationPhase :=
  match scope with
  | some name => .drop cache [name]
  | none => .collect cache

def nextPhase (scope : Option String) (cache : Cache) (now : ℕ) : InvalidationPhase :=
  match cache with
  | .status => firstPhase scope .config
  | .config => .returned now

def Setting.outcome (σ : Setting Output Value) (c : Command) (process : Process Output) :
    Option Value :=
  process.result.join.bind (σ.parse c)

def act (σ : Setting Output Value) (s : State Output Value) :
    Action Output → Option (State Output Value)
  | .get command =>
    some { s with gets := s.gets ++ [{ command, began := s.now, phase := .entryFor }] }
  | .entryFor i =>
    match s.gets[i]? with
    | some ⟨c, began, .entryFor⟩ =>
      let (s', e) := s.entryFor c
      some (s'.setGet i ⟨c, began, .entryFor⟩ (.lock e))
    | _ => none
  | .lock i =>
    match s.gets[i]? with
    | some ⟨c, began, .lock e⟩ =>
      match s.heap[e]? with
      | some entry =>
        if entry.locked then none
        else some ((s.setEntry e { entry with locked := true }).setGet i ⟨c, began, .lock e⟩
          (.check e))
      | none => none
    | _ => none
  | .hit i =>
    match s.gets[i]? with
    | some ⟨c, began, .check e⟩ =>
      match s.heap[e]? with
      | some entry =>
        match entry.value with
        | some value => some ((s.setEntry e { entry with locked := false }).setGet i
            ⟨c, began, .check e⟩ (.returned (some value)))
        | none => none
      | none => none
    | _ => none
  | .fetch i =>
    match s.gets[i]? with
    | some ⟨c, began, .check e⟩ =>
      match s.heap[e]? with
      | some entry =>
        match entry.value with
        | some _ => none
        | none =>
          let (s', p) := s.ensureStarted (σ.key c)
          some (s'.setGet i ⟨c, began, .check e⟩ (.wait e p))
      | none => none
    | _ => none
  | .receive i =>
    match s.gets[i]? with
    | some ⟨c, began, .wait e p⟩ =>
      match s.heap[e]?, s.processes[p]? with
      | some entry, some process =>
        if process.closed then
          match σ.outcome c process with
          | some value =>
            some ((s.setEntry e { entry with locked := false, value := some value }).setGet i
              ⟨c, began, .wait e p⟩ (.returned (some value)))
          | none =>
            some ((s.setEntry e { entry with locked := false }).setGet i ⟨c, began, .wait e p⟩
              (.returned none))
        else none
      | _, _ => none
    | _ => none
  | .expire i =>
    match s.gets[i]? with
    | some ⟨c, began, .wait e p⟩ =>
      match s.heap[e]? with
      | some entry => some ((s.setEntry e { entry with locked := false }).setGet i
          ⟨c, began, .wait e p⟩ (.returned none))
      | none => none
    | _ => none
  | .execute line => some (s.ensureStarted (σ.sum64 line)).1
  | .launch p =>
    match s.processes[p]? with
    | some process =>
      if process.started = none ∧ process.result = none then some (s.launch p process) else none
    | none => none
  | .exit p output =>
    match s.processes[p]? with
    | some process =>
      if process.result = none ∧ (output = none ∨ process.started ≠ none) then
        some (s.exit p process output)
      else none
    | none => none
  | .close p =>
    match s.processes[p]? with
    | some process =>
      if process.result = none then none else some (s.setProcess p { process with closed := true })
    | none => none
  | .invalidate scope =>
    some { s with
      invalidations := s.invalidations ++
        [{ scope, began := s.now, phase := firstPhase scope .status }] }
  | .collect i =>
    match s.invalidations[i]? with
    | some ⟨scope, began, .collect cache⟩ =>
      some (s.setInvalidation i ⟨scope, began, .collect cache⟩ (.drop cache (s.names cache)))
    | _ => none
  | .drop i name =>
    match s.invalidations[i]? with
    | some ⟨scope, began, .drop cache names⟩ =>
      if name ∈ names then
        some ((s.delete ⟨cache, name⟩).setInvalidation i ⟨scope, began, .drop cache names⟩
          (.drop cache (names.filter (· ≠ name))))
      else none
    | _ => none
  | .next i =>
    match s.invalidations[i]? with
    | some ⟨scope, began, .drop cache []⟩ =>
      some (s.setInvalidation i ⟨scope, began, .drop cache []⟩ (nextPhase scope cache s.now))
    | _ => none

def step (σ : Setting Output Value) (s : State Output Value) (a : Action Output) :
    Option (State Output Value) :=
  (act σ s a).map fun s' => { s' with now := s.now + 1 }

def run (σ : Setting Output Value) (s : State Output Value) (actions : List (Action Output)) :
    Option (State Output Value) :=
  actions.foldlM (step σ) s

end ReplicatedVolume.Agent.Caches
