import Mathlib

/-!
# Programs that call a world

A program makes calls one after another and goes on with each answer. What a call may answer and
how it changes the world is a relation. A run may stop after any call, as a crash does. `Holds` is
the proof rule: its precondition speaks about every call that is about to be made.
-/

namespace Interaction

/-- The calls a program can make and the type of each answer. -/
structure Interface where
  Call : Type
  Answer : Call → Type

inductive Program (I : Interface) (α : Type) : Type where
  | ret (a : α)
  | call (c : I.Call) (k : I.Answer c → Program I α)

namespace Program

variable {I : Interface} {α β : Type}

def bind : Program I α → (α → Program I β) → Program I β
  | ret a, f => f a
  | call c k, f => call c fun answer => (k answer).bind f

instance : Monad (Program I) where
  pure := ret
  bind := bind

@[simp] theorem pure_eq (a : α) : (pure a : Program I α) = ret a := rfl

@[simp] theorem bind_eq (p : Program I α) (f : α → Program I β) : (p >>= f) = p.bind f := rfl

@[simp] theorem ret_bind (a : α) (f : α → Program I β) : (ret a).bind f = f a := rfl

@[simp] theorem call_bind (c : I.Call) (k : I.Answer c → Program I α) (f : α → Program I β) :
    (call c k).bind f = call c fun answer => (k answer).bind f := rfl

theorem bind_ret (p : Program I α) : p.bind ret = p := by
  induction p with
  | ret a => rfl
  | call c k ih => simp only [call_bind, ih]

theorem bind_assoc {γ : Type} (p : Program I α) (f : α → Program I β) (g : β → Program I γ) :
    (p.bind f).bind g = p.bind fun a => (f a).bind g := by
  induction p with
  | ret a => rfl
  | call c k ih => simp only [call_bind, ih]

/-- One call, its answer returned. -/
def ask (c : I.Call) : Program I (I.Answer c) := call c ret

end Program

/-- A call together with the answer it received. -/
abbrev Event (I : Interface) : Type := (c : I.Call) × I.Answer c

/-- `act w c a w'`: in the world `w` the call `c` may answer `a` and leave the world `w'`. -/
abbrev Act (I : Interface) (W : Type) : Type := W → (c : I.Call) → I.Answer c → W → Prop

section Rules

variable {I : Interface} {W α β : Type} {act : Act I W}

/-- `Runs act h w p h' w' p'`: from history `h` and world `w` the program `p` can reach `p'`. -/
inductive Runs (act : Act I W) : List (Event I) → W → Program I α →
    List (Event I) → W → Program I α → Prop where
  | stop (h : List (Event I)) (w : W) (p : Program I α) : Runs act h w p h w p
  | step {h h' : List (Event I)} {w w₁ w' : W} {c : I.Call} {k : I.Answer c → Program I α}
      {answer : I.Answer c} {p : Program I α} (reply : act w c answer w₁)
      (rest : Runs act (h ++ [⟨c, answer⟩]) w₁ (k answer) h' w' p) :
      Runs act h w (.call c k) h' w' p

/-- Every call the program makes meets `pre` and every result it returns meets `post`. -/
def Holds (act : Act I W) (pre : List (Event I) → W → I.Call → Prop)
    (post : α → List (Event I) → W → Prop) : Program I α → List (Event I) → W → Prop
  | .ret a, h, w => post a h w
  | .call c k, h, w => pre h w c ∧
      ∀ answer w', act w c answer w' → Holds act pre post (k answer) (h ++ [⟨c, answer⟩]) w'

/-- What a program leaves behind, whatever it calls. -/
abbrev Yields (act : Act I W) (post : α → List (Event I) → W → Prop) (p : Program I α)
    (h : List (Event I)) (w : W) : Prop :=
  Holds act (fun _ _ _ => True) post p h w

variable {pre pre' : List (Event I) → W → I.Call → Prop}
  {post post' : α → List (Event I) → W → Prop} {h h' : List (Event I)} {w w' : W} {a : α}

@[simp] theorem holds_ret : Holds act pre post (.ret a) h w ↔ post a h w := Iff.rfl

variable {c : I.Call} {k : I.Answer c → Program I α}

theorem holds_call :
    Holds act pre post (.call c k) h w ↔ pre h w c ∧
      ∀ answer w', act w c answer w' → Holds act pre post (k answer) (h ++ [⟨c, answer⟩]) w' :=
  Iff.rfl

variable {f : α → Program I β} {p : Program I α}

theorem holds_bind {post : β → List (Event I) → W → Prop} :
    Holds act pre post (p.bind f) h w ↔
      Holds act pre (fun a h w => Holds act pre post (f a) h w) p h w := by
  induction p generalizing h w with
  | ret a => exact Iff.rfl
  | call c k ih =>
    simp only [Program.call_bind, holds_call]
    exact and_congr_right fun _ => forall_congr' fun answer => forall_congr' fun w' =>
      imp_congr_right fun _ => ih answer

variable (hp : Holds act pre post p h w)

include hp in
theorem Holds.mono
    (hpre : ∀ h w c, pre h w c → pre' h w c) (hpost : ∀ a h w, post a h w → post' a h w) :
    Holds act pre' post' p h w := by
  induction p generalizing h w with
  | ret a => exact hpost a h w hp
  | call c k ih => exact ⟨hpre h w c hp.1, fun answer w' hact => ih answer (hp.2 answer w' hact)⟩

include hp in
theorem Holds.imp (hpost : ∀ a h w, post a h w → post' a h w) : Holds act pre post' p h w :=
  hp.mono (fun _ _ _ hc => hc) hpost

include hp in
theorem Holds.bind {post' : β → List (Event I) → W → Prop}
    (hf : ∀ a h w, post a h w → Holds act pre post' (f a) h w) :
    Holds act pre post' (p.bind f) h w :=
  holds_bind.mpr (hp.imp hf)

include hp in
/-- What holds whatever is answered holds where less is answered. -/
theorem Holds.of_act {act' : Act I W}
    (hact : ∀ w c answer w', act' w c answer w' → act w c answer w') :
    Holds act' pre post p h w := by
  induction p generalizing h w with
  | ret a => exact hp
  | call c k ih => exact ⟨hp.1, fun answer w' h' => ih answer (hp.2 answer w' (hact _ _ _ _ h'))⟩

include hp in
theorem Holds.and (hp' : Holds act pre' post' p h w) :
    Holds act (fun h w c => pre h w c ∧ pre' h w c) (fun a h w => post a h w ∧ post' a h w)
      p h w := by
  induction p generalizing h w with
  | ret a => exact ⟨hp, hp'⟩
  | call c k ih =>
    exact ⟨⟨hp.1, hp'.1⟩, fun answer w' hact => ih answer (hp.2 answer w' hact) (hp'.2 answer w' hact)⟩

include hp in
/-- A postcondition alone can be added to what is known of a program. -/
theorem Holds.and_post (hp' : Yields act post' p h w) :
    Holds act pre (fun a h w => post a h w ∧ post' a h w) p h w :=
  (hp.and hp').mono (fun _ _ _ hc => hc.1) fun _ _ _ ha => ha

/-- What a program holds to, everything it runs into holds to. -/
theorem Holds.run {p' : Program I α} (hrun : Runs act h w p h' w' p')
    (hp : Holds act pre post p h w) : Holds act pre post p' h' w' := by
  induction hrun with
  | stop h w p => exact hp
  | step reply rest ih => exact ih (hp.2 _ _ reply)

/-- Whenever a run is about to make a call, the call meets the precondition. -/
theorem Holds.about_to_call
    (hrun : Runs act h w p h' w' (.call c k)) (hp : Holds act pre post p h w) : pre h' w' c :=
  (hp.run hrun).1

theorem Holds.returned
    (hrun : Runs act h w p h' w' (.ret a)) (hp : Holds act pre post p h w) : post a h' w' :=
  hp.run hrun

/-- Every call the program can make, whatever is answered, is one of `P`. -/
def Calls (P : I.Call → Prop) : Program I α → Prop
  | .ret _ => True
  | .call c k => P c ∧ ∀ answer, Calls P (k answer)

variable {P : I.Call → Prop}

theorem calls_ask : Calls P (Program.ask c) ↔ P c := ⟨And.left, fun hc => ⟨hc, fun _ => trivial⟩⟩

theorem calls_any (p : Program I α) : Calls (fun _ => True) p := by
  induction p with
  | ret a => trivial
  | call c k ih => exact ⟨trivial, ih⟩

theorem Calls.bind (hp : Calls P p) (hf : ∀ a, Calls P (f a)) : Calls P (p.bind f) := by
  induction p with
  | ret a => exact hf a
  | call c k ih => exact ⟨hp.1, fun answer => ih answer (hp.2 answer)⟩

/-- A property of histories and worlds that every answered call of `P` keeps holds throughout a
program that makes only such calls. -/
theorem Calls.holds {inv : List (Event I) → W → Prop}
    (hp : Calls P p) (hpre : ∀ h w c, P c → inv h w → pre h w c)
    (hstep : ∀ h w c answer w', P c → inv h w → act w c answer w' → inv (h ++ [⟨c, answer⟩]) w')
    (hinv : inv h w) : Holds act pre (fun _ h w => inv h w) p h w := by
  induction p generalizing h w with
  | ret a => exact hinv
  | call c k ih =>
    exact ⟨hpre h w c hp.1 hinv, fun answer w' hact =>
      ih answer (hp.2 answer) (hstep h w c answer w' hp.1 hinv hact)⟩

/-- The first `n` calls, each answered by `answer`, which sees the history and the world. -/
def Program.steps (answer : List (Event I) → W → (c : I.Call) → I.Answer c × W) :
    ℕ → Program I α → List (Event I) → W → List (Event I) × W × Program I α
  | 0, p, h, w => (h, w, p)
  | _ + 1, .ret a, h, w => (h, w, .ret a)
  | n + 1, .call c k, h, w =>
    (k (answer h w c).1).steps answer n (h ++ [⟨c, (answer h w c).1⟩]) (answer h w c).2

theorem runs_steps {answer : List (Event I) → W → (c : I.Call) → I.Answer c × W}
    (hact : ∀ h w c, act w c (answer h w c).1 (answer h w c).2) (n : ℕ) (p : Program I α)
    (h : List (Event I)) (w : W) :
    Runs act h w p (p.steps answer n h w).1 (p.steps answer n h w).2.1
      (p.steps answer n h w).2.2 := by
  induction n generalizing p h w with
  | zero => exact .stop h w p
  | succ n ih =>
    cases p with
    | ret a => exact .stop h w _
    | call c k => exact .step (hact h w c) (ih _ _ _)

/-- The call a program is about to make. -/
def Program.next : Program I α → Option I.Call
  | .ret _ => none
  | .call c _ => some c

theorem Program.next_eq_some (h : p.next = some c) : ∃ k, p = .call c k := by
  cases p with
  | ret a => exact nomatch h
  | call c' k =>
    obtain rfl := Option.some.inj h
    exact ⟨k, rfl⟩

/-- The value a program has returned. -/
def Program.result : Program I α → Option α
  | .ret a => some a
  | .call _ _ => none

theorem Program.result_eq_some (h : p.result = some a) : p = .ret a := by
  cases p with
  | ret a' => rw [Option.some.inj h]
  | call c k => exact nomatch h

end Rules

end Interaction
