import ReplicatedVolume.Mesh.History

/-!
# Plans, read on the seat of their subject

A reading looks at one aspect of a seat that callbacks act on. The membership
slot of a replica is exclusive, so as long as a plan is live the reading of its
subject is the one that the steps applied so far give it.
-/

namespace ReplicatedVolume.Datamesh
open Dmte List

variable {s : StepSpec} {m m' : Mesh} {a : Active} {before : List MeshEvent}
  {callbacks : List Apply} {ev : MeshEvent} {spec : PlanSpec}

section
variable {env : Env} {c : Content} {id : ReplicaID} {x : Option ReplicaID}

theorem setSeat_seats_of_ne (f : Option Seat → Option Seat) (hx : x ≠ some id) :
    (c.setSeat x f).seats id = c.seats id := by
  cases x with
  | none => rfl
  | some id' =>
    have hne : id ≠ id' := fun heq => hx (by rw [heq])
    simp [Content.setSeat, hne]

theorem setSeat_seats_self (f : Option Seat → Option Seat) :
    (c.setSeat (some id) f).seats id = f (c.seats id) := by
  simp [Content.setSeat]

theorem effect_seats_of_ne (a : Apply) (hx : x ≠ some id) :
    (a.effect env x c).seats id = c.seats id := by
  cases a <;> first | rfl | exact setSeat_seats_of_ne _ hx

theorem applyAll_seats_of_ne (callbacks : List Apply) (hx : x ≠ some id) :
    (applyAll env x callbacks c).seats id = c.seats id := by
  induction callbacks generalizing c with
  | nil => rfl
  | cons a callbacks ih => exact ih.trans (effect_seats_of_ne a hx)

def Apply.seat (seat : Option Seat) : Apply → Option Seat
  | .createMember type => some ⟨type, false⟩
  | .setType type => seat.map fun s => { s with type := type }
  | .removeMember => none
  | .applyAttach => seat.map fun s => { s with attached := true }
  | .applyDetach => seat.map fun s => { s with attached := false }
  | _ => seat

theorem effect_seat_self (a : Apply) :
    (a.effect env (some id) c).seats id = a.seat (c.seats id) := by
  cases a <;> first | rfl | (rw [Apply.effect, setSeat_seats_self]; rfl)

end

def Apply.keepsRole : Apply → Bool
  | .createMember _ | .setType _ | .removeMember => false
  | _ => true

theorem registry_onComplete : ∀ spec ∈ registry, ∀ s ∈ spec.steps,
    ∀ a ∈ s.onComplete, a = .updateBaselineGMDR := by
  decide +kernel

theorem registry_keepsRole : ∀ spec ∈ registry,
    ¬(spec.scope = .replica ∧ spec.slot = .membershipSlot) →
    ∀ s ∈ spec.steps, s.apply.all Apply.keepsRole = true := by
  decide +kernel

theorem onComplete_keepsRole (hspec : spec ∈ registry) (hs : s ∈ spec.steps) :
    s.onComplete.all Apply.keepsRole = true := by
  rw [all_eq_true]
  intro a ha
  rw [registry_onComplete spec hspec s hs a ha]
  rfl

/-- All that a revision stands for: a completed step sets the baseline without a new one. -/
def Content.configuration (c : Content) : Content := { c with baselineGMDR := 0 }

theorem onComplete_configuration {env : Env} {c : Content} {x : Option ReplicaID}
    (hspec : spec ∈ registry) (hs : s ∈ spec.steps) :
    (applyAll env x s.onComplete c).configuration = c.configuration := by
  have h := registry_onComplete spec hspec s hs
  generalize s.onComplete = callbacks at h ⊢
  induction callbacks generalizing c with
  | nil => rfl
  | cons a callbacks ih =>
    obtain ⟨rfl, hrest⟩ := forall_mem_cons.mp h
    exact ih hrest

theorem registry_membership : ∀ spec ∈ registry,
    spec.scope = .replica ∧ spec.slot = .membershipSlot →
    spec.transitionType = .addReplica ∨ spec.transitionType = .removeReplica ∨
      spec.transitionType = .changeReplicaType ∨ spec.transitionType = .forceRemoveReplica := by
  decide +kernel

/-- One aspect of a seat, what a callback does to it, and its value when a plan
is decided on. -/
structure Reading (K : Type) where
  read : Option Seat → K
  step : K → Apply → K
  start : PlanSpec → K
  seat : ∀ s a, read (a.seat s) = step (read s) a
  keep : ∀ k a, a.keepsRole = true → step k a = k
  chosen : ∀ env m spec id, spec ∈ registry →
    spec.scope = .replica ∧ spec.slot = .membershipSlot → Chosen env m spec (some id) →
    read (m.content.seats id) = start spec

section
variable {K : Type} {R : Reading K} {env : Env} {c : Content} {id : ReplicaID}
  {x : Option ReplicaID}

theorem applyAll_read_self (R : Reading K) (callbacks : List Apply) :
    R.read ((applyAll env (some id) callbacks c).seats id) =
      callbacks.foldl R.step (R.read (c.seats id)) := by
  induction callbacks generalizing c with
  | nil => rfl
  | cons a callbacks ih =>
    change R.read ((applyAll env (some id) callbacks (a.effect env (some id) c)).seats id) = _
    rw [ih, effect_seat_self, R.seat]
    rfl

theorem foldl_step_keeps (R : Reading K)
    (h : callbacks.all Apply.keepsRole = true) (k : K) : callbacks.foldl R.step k = k := by
  induction callbacks with
  | nil => rfl
  | cons a callbacks ih =>
    rw [all_cons, Bool.and_eq_true] at h
    rw [foldl_cons, R.keep k a h.1]
    exact ih h.2

theorem applyAll_read_keeps (R : Reading K)
    (h : callbacks.all Apply.keepsRole = true) :
    R.read ((applyAll env x callbacks c).seats id) = R.read (c.seats id) := by
  by_cases hx : x = some id
  · subst hx
    rw [applyAll_read_self, foldl_step_keeps R h]
  · rw [applyAll_seats_of_ne callbacks hx]

def Reading.after (R : Reading K) (spec : PlanSpec) (n : ℕ) : K :=
  ((spec.steps.take n).flatMap (·.apply)).foldl R.step (R.start spec)

theorem Reading.after_succ {n : ℕ} (h : spec.steps[n]? = some s) :
    R.after spec (n + 1) = s.apply.foldl R.step (R.after spec n) := by
  rw [Reading.after, Reading.after, take_add_one, h]
  simp [foldl_append]

def Reading.Placed (R : Reading K) (m : Mesh) : Prop :=
  ∀ a ∈ m.active, ∀ spec id, a.spec = some spec → a.slot = some (.membershipSlot, id) →
    R.read (m.content.seats id) = R.after spec (a.idx + 1)

theorem read_frame (R : Reading K) (hspec : a.spec = some spec)
    (hs : s ∈ spec.steps) (hslot : a.slot ≠ some (.membershipSlot, id)) :
    R.read ((applyAll env a.replica s.apply c).seats id) = R.read (c.seats id) := by
  by_cases hx : a.replica = some id
  · apply applyAll_read_keeps
    refine registry_keepsRole spec (lookup_eq_some hspec).1 ?_ s hs
    rintro ⟨hscope, hmember⟩
    exact hslot (by rw [Active.slot_of_spec hspec hscope hx, hmember])
  · rw [applyAll_seats_of_ne s.apply hx]

theorem Reading.Placed.of_subset (h : R.Placed m)
    (hread : ∀ id, R.read (m'.content.seats id) = R.read (m.content.seats id))
    (hsub : ∀ a ∈ m'.active, a ∈ m.active) : R.Placed m' := by
  intro a ha spec id hspec hslot
  rw [hread]
  exact h a (hsub a ha) spec id hspec hslot

theorem Reading.Placed.moved {l1 l2 : List Active} {s' : StepSpec}
    {rev : ℕ} (hcoherent : m.Coherent) (h : R.Placed m) (hactive : m.active = l1 ++ a :: l2)
    (hspec : a.spec = some spec) (hstep : spec.steps[a.idx]? = some s)
    (hnext : spec.steps[a.idx + 1]? = some s') :
    R.Placed (m.moved l1 a l2 (applyAll env a.replica s'.apply
      (applyAll env a.replica s.onComplete m.content)) rev) := by
  have hs := mem_of_getElem? hstep
  have hs' := mem_of_getElem? hnext
  have hdone : ∀ id, R.read ((applyAll env a.replica s.onComplete m.content).seats id) =
      R.read (m.content.seats id) := fun id =>
    applyAll_read_keeps R (onComplete_keepsRole (lookup_eq_some hspec).1 hs)
  have hothers : ∀ b ∈ l1 ++ l2, ∀ spec' id, b.spec = some spec' →
      b.slot = some (.membershipSlot, id) →
      R.read ((applyAll env a.replica s'.apply
        (applyAll env a.replica s.onComplete m.content)).seats id) =
        R.after spec' (b.idx + 1) := by
    intro b hb spec' id hspec' hslot
    have hapart := hcoherent.apart
    rw [hactive] at hapart
    have hcompat := compatible_of_split hapart hb
    rw [read_frame R hspec hs' fun heq => hcompat.slot _ heq hslot, hdone]
    refine h b ?_ spec' id hspec' hslot
    rw [hactive]
    simp only [mem_append, mem_cons] at hb ⊢
    tauto
  intro b hb spec' id hspec' hslot
  simp only [Mesh.moved, mem_append, mem_cons] at hb
  rcases hb with hb | rfl | hb
  · exact hothers b (mem_append_left _ hb) spec' id hspec' hslot
  · have hold : a.slot = some (.membershipSlot, id) := hslot
    obtain ⟨-, -, -, -, hid⟩ := Active.slot_eq_some hold
    have hspec'' : a.spec = some spec' := hspec'
    rw [hspec, Option.some.injEq] at hspec''
    subst hspec''
    have hread := h a (mem_of_split hactive) spec id hspec hold
    change R.read ((applyAll env a.replica s'.apply _).seats id) = R.after spec (a.idx + 1 + 1)
    rw [Reading.after_succ hnext, ← hread, ← hdone id, hid, applyAll_read_self]
  · exact hothers b (mem_append_right _ hb) spec' id hspec' hslot

theorem Reading.Placed.extended {rev : ℕ} (h : R.Placed m)
    (hspec : spec ∈ registry) (hchosen : Chosen env m spec x)
    (hfree : ∀ id, x = some id → m.Free spec.slot id) (hstep : spec.steps[0]? = some s) :
    R.Placed (m.extended (spec.start x rev) (applyAll env x s.apply m.content)) := by
  have hlookup : (spec.start x rev).spec = some spec := lookup_of_mem spec hspec
  intro b hb spec' id hspec' hslot
  change R.read ((applyAll env x s.apply m.content).seats id) = _
  rcases mem_append.mp hb with hb | hb
  · have hother : (spec.start x rev).slot ≠ some (.membershipSlot, id) := by
      intro heq
      obtain ⟨spec'', hspec'', -, hs, hid⟩ := Active.slot_eq_some heq
      rw [hlookup, Option.some.injEq] at hspec''
      subst hspec''
      exact hfree id hid b hb (hs ▸ hslot)
    have hframe : R.read ((applyAll env x s.apply m.content).seats id) =
        R.read (m.content.seats id) := read_frame R hlookup (mem_of_getElem? hstep) hother
    rw [hframe]
    exact h b hb spec' id hspec' hslot
  · rw [mem_singleton.mp hb] at hspec' hslot ⊢
    rw [hlookup, Option.some.injEq] at hspec'
    subst hspec'
    obtain ⟨spec'', hspec'', hscope, hmember, hid⟩ := Active.slot_eq_some hslot
    rw [hlookup, Option.some.injEq] at hspec''
    subst hspec''
    have hid' : x = some id := hid
    subst hid'
    change _ = R.after spec (0 + 1)
    rw [Reading.after_succ hstep, applyAll_read_self,
      R.chosen env m spec id hspec ⟨hscope, hmember⟩ hchosen]
    rfl

theorem MeshStep.read
    (hstep : MeshStep env before m ev m') (hcoherent : m.Coherent) (h : R.Placed m) :
    R.Placed m' := by
  cases hstep with
  | advance hactive hspec hs hnext _ hcompleted hcontent =>
    subst hcompleted hcontent
    exact h.moved hcoherent hactive hspec hs hnext
  | complete hactive hspec hs _ _ hcompleted =>
    refine h.of_subset (fun id => ?_) fun b hb => (dropped_sublist _ hactive).subset hb
    subst hcompleted
    exact applyAll_read_keeps R (onComplete_keepsRole (lookup_eq_some hspec).1 (mem_of_getElem? hs))
  | dispatch => exact h
  | cancel _ _ _ hcancel =>
    cases hcancel with
    | cancel hactive =>
      exact h.of_subset (fun _ => rfl) fun b hb => (dropped_sublist _ hactive).subset hb
  | create hspec hchosen _ hcreate =>
    cases hcreate with
    | create _ _ hfree _ hs hcontent =>
      subst hcontent
      exact h.extended hspec hchosen hfree hs

theorem MeshStep.read_cases
    (hstep : MeshStep env before m ev m') (hcoherent : m.Coherent) (h : R.Placed m)
    (id : ReplicaID) :
    R.read (m'.content.seats id) = R.read (m.content.seats id) ∨
      ∃ a ∈ m'.active, ∃ spec, a.spec = some spec ∧ a.slot = some (.membershipSlot, id) ∧
        a.idx < spec.steps.length ∧ R.read (m.content.seats id) = R.after spec a.idx ∧
        R.read (m'.content.seats id) = R.after spec (a.idx + 1) ∧
        ((a.idx = 0 ∧ ev.kind = .created ∧ ev.active = a) ∨ (0 < a.idx ∧ ev.kind = .advanced)) := by
  have hplaced' := hstep.read hcoherent h
  have hcoherent' := hstep.coherent hcoherent
  have hdone : ∀ {a : Active} {spec : PlanSpec} {s : StepSpec}, a.spec = some spec →
      spec.steps[a.idx]? = some s →
      R.read ((applyAll env a.replica s.onComplete m.content).seats id) =
        R.read (m.content.seats id) := fun hspec hs =>
    applyAll_read_keeps R (onComplete_keepsRole (lookup_eq_some hspec).1 (mem_of_getElem? hs))
  cases hstep with
  | @advance l1 l2 a spec s s' c c' rev hactive hspec hs hnext _ hcompleted hcontent =>
    subst hcompleted hcontent
    by_cases hslot : a.slot = some (.membershipSlot, id)
    · have hmoved : { a with idx := a.idx + 1, revision := rev } ∈ (m.moved l1 a l2
          (applyAll env a.replica s'.apply
            (applyAll env a.replica s.onComplete m.content)) rev).active := by
        simp [Mesh.moved]
      exact .inr ⟨_, hmoved, spec, hspec, hslot, (List.getElem?_eq_some_iff.mp hnext).1,
        h a (mem_of_split hactive) spec id hspec hslot, hplaced' _ hmoved spec id hspec hslot,
        .inr ⟨Nat.succ_pos a.idx, rfl⟩⟩
    · exact .inl ((read_frame R hspec (mem_of_getElem? hnext) hslot).trans (hdone hspec hs))
  | complete _ hspec hs _ _ hcompleted =>
    subst hcompleted
    exact .inl (hdone hspec hs)
  | dispatch => exact .inl rfl
  | cancel _ _ _ hcancel =>
    cases hcancel
    exact .inl rfl
  | @create _ spec x _ hspec hchosen _ hcreate =>
    cases hcreate with
    | @create s c rev hscope _ _ _ hs hcontent =>
      subst hcontent
      have hlookup : (spec.start x rev).spec = some spec := lookup_of_mem spec hspec
      by_cases hslot : (spec.start x rev).slot = some (.membershipSlot, id)
      · obtain ⟨spec', hspec', hscope', hmember, hid⟩ := Active.slot_eq_some hslot
        rw [hlookup, Option.some.injEq] at hspec'
        subst hspec'
        have hx : x = some id := hid
        subst hx
        have hmem : spec.start (some id) rev ∈ (m.extended (spec.start (some id) rev)
            (applyAll env (some id) s.apply m.content)).active := by
          simp [Mesh.extended]
        exact .inr ⟨_, hmem, spec, hlookup, hslot, registry_steps_ne_nil spec hspec,
          R.chosen env m spec id hspec ⟨hscope', hmember⟩ hchosen,
          hplaced' _ hmem spec id hlookup hslot, .inl ⟨rfl, rfl, rfl⟩⟩
      · have hframe : R.read ((applyAll env x s.apply m.content).seats id) =
            R.read (m.content.seats id) :=
          read_frame R hlookup (mem_of_getElem? hs) hslot
        exact .inl hframe

end

end ReplicatedVolume.Datamesh
