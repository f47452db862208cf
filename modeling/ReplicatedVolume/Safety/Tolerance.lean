import ReplicatedVolume.Library.Failures
import ReplicatedVolume.Safety.TieBreakers

/-!
# Failure tolerance after the voluntary loss of a voter

The plans that give up a voter change the voters, the quorum and the redundancy in several steps.
While such a plan is live everyone else stays what it was and the numbers are those that its steps
made of the old ones.
-/

namespace ReplicatedVolume.Datamesh
open Dmte List Option

variable {a : Apply} {callbacks : List Apply} {s : StepSpec} {up low : Bool}

structure Health where
  upToDate : ReplicaID → Bool
  operational : ReplicaID → Bool

namespace Content

def upToDateVoters (c : Content) (h : Health) : Finset ReplicaID :=
  c.voters.filter (h.upToDate · = true)

def workingTieBreakers (c : Content) (h : Health) : Finset ReplicaID :=
  c.tieBreakers.filter (h.operational · = true)

/-- DRBD serves with a quorum of up-to-date voters, or with one less if the
number of voters is even and a tie-breaker works, and with no fewer up-to-date
voters than the minimum redundancy. -/
def group (c : Content) (h : Health) : Failures.Group ReplicaID where
  voters := c.upToDateVoters h
  helpers := c.workingTieBreakers h
  quorum := c.quorum
  floor := c.quorumMinimumRedundancy
  breaksTie := c.voters.card % 2 = 0

def Tolerates (c : Content) (h : Health) (f : ℕ) : Prop := (c.group h).Survives f

theorem voters_disjoint_tieBreakers (c : Content) : Disjoint c.voters c.tieBreakers := by
  rw [Finset.disjoint_left]
  intro id hvoter htb
  rw [mem_voters_base] at hvoter
  rw [mem_tieBreakers, hvoter] at htb
  cases htb

theorem tolerates_iff {c : Content} {h : Health} {f : ℕ} : c.Tolerates h f ↔
    c.quorumMinimumRedundancy ≤ (c.upToDateVoters h).card - f ∧
      (c.quorum ≤ (c.upToDateVoters h).card - f ∨
        ((c.upToDateVoters h).card - f + 1 = c.quorum ∧ c.voters.card % 2 = 0 ∧
          f - (c.upToDateVoters h).card < (c.workingTieBreakers h).card)) :=
  Failures.Group.survives_iff (c.voters_disjoint_tieBreakers.mono (Finset.filter_subset _ _)
    (Finset.filter_subset _ _))

instance (c : Content) (h : Health) (f : ℕ) : Decidable (c.Tolerates h f) :=
  decidable_of_iff _ tolerates_iff.symm

def numbers (c : Content) : ℕ × ℕ := (c.quorum, c.quorumMinimumRedundancy)

end Content

/-- The effect of a callback on quorum and redundancy, for the callbacks that do
not look at the voters. -/
def Apply.numbers (p : ℕ × ℕ) : Apply → ℕ × ℕ
  | .raiseQ => ((p.1 + 1) % 256, p.2)
  | .lowerQ => ((p.1 + 255) % 256, p.2)
  | .raiseQMR => (p.1, (p.2 + 1) % 256)
  | .lowerQMR => (p.1, (p.2 + 255) % 256)
  | _ => p

def Apply.corrects : Apply → Bool
  | .setCorrectQ | .setCorrectQMR => true
  | _ => false

def Apply.keepsNumbers : Apply → Bool
  | .raiseQ | .lowerQ | .raiseQMR | .lowerQMR | .setCorrectQ | .setCorrectQMR => false
  | _ => true

theorem setSeat_numbers (c : Content) (x : Option ReplicaID) (f : Option Seat → Option Seat) :
    (c.setSeat x f).numbers = c.numbers := by
  cases x <;> rfl

section
variable {env : Env} {c : Content} {x : Option ReplicaID}

theorem effect_numbers (h : a.corrects = false) :
    (a.effect env x c).numbers = a.numbers c.numbers := by
  cases a <;> first | rfl | exact setSeat_numbers _ _ _ | cases h

theorem applyAll_numbers (h : ∀ a ∈ callbacks, a.corrects = false) :
    (applyAll env x callbacks c).numbers = callbacks.foldl Apply.numbers c.numbers := by
  induction callbacks generalizing c with
  | nil => rfl
  | cons a callbacks ih =>
    obtain ⟨ha, hrest⟩ := forall_mem_cons.mp h
    change (applyAll env x callbacks (a.effect env x c)).numbers = _
    rw [ih hrest, effect_numbers ha]
    rfl

theorem keepsNumbers_corrects (h : a.keepsNumbers = true) : a.corrects = false := by
  cases a <;> first | rfl | cases h

theorem keepsNumbers_numbers (h : a.keepsNumbers = true) (p : ℕ × ℕ) : a.numbers p = p := by
  cases a <;> first | rfl | cases h

theorem applyAll_keepsNumbers
    (h : ∀ a ∈ callbacks, a.keepsNumbers = true) :
    (applyAll env x callbacks c).numbers = c.numbers := by
  rw [applyAll_numbers fun a ha => keepsNumbers_corrects (h a ha)]
  induction callbacks with
  | nil => rfl
  | cons a callbacks ih =>
    obtain ⟨ha, hrest⟩ := forall_mem_cons.mp h
    rw [foldl_cons, keepsNumbers_numbers ha]
    exact ih hrest

theorem onComplete_numbers {spec : PlanSpec} (hmem : spec ∈ registry)
    (hs : s ∈ spec.steps) : (applyAll env x s.onComplete c).numbers = c.numbers :=
  (congrArg Content.numbers (onComplete_configuration hmem hs) :)

end

def PlanSpec.numbersAfter (spec : PlanSpec) (n : ℕ) (p : ℕ × ℕ) : ℕ × ℕ :=
  ((spec.steps.take n).flatMap (·.apply)).foldl Apply.numbers p

variable {spec : PlanSpec}

theorem numbersAfter_succ {n : ℕ} {p : ℕ × ℕ}
    (h : spec.steps[n]? = some s) :
    spec.numbersAfter (n + 1) p = s.apply.foldl Apply.numbers (spec.numbersAfter n p) := by
  rw [PlanSpec.numbersAfter, PlanSpec.numbersAfter, take_add_one, h]
  simp [foldl_append]

def PlanSpec.losesVoter (spec : PlanSpec) : Bool :=
  (spec.transitionType = .removeReplica || spec.transitionType = .changeReplicaType) &&
    spec.startBase = some .diskful && spec.endBase ≠ some .shadowDiskful

def PlanSpec.lowersQ (spec : PlanSpec) : Bool := spec.callbacks.contains .lowerQ

def PlanSpec.lowersQMR (spec : PlanSpec) : Bool := spec.callbacks.contains .lowerQMR

def TransitionGroup.bystander : TransitionGroup → Bool
  | .attachment | .multiattach | .network | .resize => true
  | _ => false

theorem registry_losesVoter : ∀ spec ∈ registry, spec.losesVoter = true →
    (spec.scope = .replica ∧ spec.slot = .membershipSlot) ∧
    TransitionGroup.bystander spec.group = false ∧
    spec.endBase ≠ some .diskful ∧
    (∀ s ∈ spec.steps, ∀ a ∈ s.apply, a.corrects = false) ∧
    spec.callbacks.filter (!·.keepsNumbers) =
      (if spec.lowersQMR then [.lowerQMR] else []) ++ (if spec.lowersQ then [.lowerQ] else []) ∧
    (if spec.lowersQ then Guard.guardVotersEven else .guardVotersOdd) ∈ spec.guards := by
  decide +kernel

theorem registry_bystander : ∀ spec ∈ registry, TransitionGroup.bystander spec.group = true →
    ¬(spec.scope = .replica ∧ spec.slot = .membershipSlot) ∧
    ∀ s ∈ spec.steps, ∀ a ∈ s.apply, a.keepsNumbers = true := by
  decide +kernel

theorem foldl_numbers_filter (callbacks : List Apply) (p : ℕ × ℕ) :
    callbacks.foldl Apply.numbers p =
      (callbacks.filter (!·.keepsNumbers)).foldl Apply.numbers p := by
  induction callbacks generalizing p with
  | nil => rfl
  | cons a callbacks ih =>
    by_cases hkeep : a.keepsNumbers = true
    · rw [foldl_cons, keepsNumbers_numbers hkeep, ih, filter_cons_of_neg (by simp [hkeep])]
    · rw [foldl_cons, ih, filter_cons_of_pos (by simp [hkeep]), foldl_cons]

theorem numbersAfter_loss (hmem : spec ∈ registry)
    (hloss : spec.losesVoter = true) {q qmr : ℕ} (hq : 1 ≤ q ∧ q < 256)
    (hqmr : 1 ≤ qmr ∧ qmr < 256) :
    spec.numbersAfter spec.steps.length (q, qmr) =
      (if spec.lowersQ then q - 1 else q, if spec.lowersQMR then qmr - 1 else qmr) := by
  obtain ⟨-, -, -, -, hfilter, -⟩ := registry_losesVoter spec hmem hloss
  rw [PlanSpec.numbersAfter, take_length, foldl_numbers_filter]
  change (spec.callbacks.filter (!·.keepsNumbers)).foldl Apply.numbers (q, qmr) = _
  rw [hfilter]
  have hlowQ : (q + 255) % 256 = q - 1 := by omega
  have hlowQMR : (qmr + 255) % 256 = qmr - 1 := by omega
  cases spec.lowersQMR <;> cases spec.lowersQ <;> simp [Apply.numbers, hlowQ, hlowQMR]

theorem Active.Known.bystander {a : Active} (h : a.Known)
    (hgroup : TransitionGroup.bystander a.group = true)
    (hspec : a.spec = some spec) :
    (∀ id, a.slot ≠ some (.membershipSlot, id)) ∧
      ∀ s ∈ spec.steps, ∀ a ∈ s.apply, a.keepsNumbers = true := by
  obtain ⟨hg, -, -⟩ := h.of_spec hspec
  obtain ⟨hslot, hnumbers⟩ := registry_bystander spec (lookup_eq_some hspec).1 (hg ▸ hgroup)
  refine ⟨fun id hmember => ?_, hnumbers⟩
  obtain ⟨spec', hspec', hscope, hs, -⟩ := Active.slot_eq_some hmember
  rw [hspec, some.injEq] at hspec'
  exact hslot (hspec' ▸ ⟨hscope, hs⟩)

structure Waiting (c₀ : Content) (m : Mesh) : Prop where
  company : ∀ b ∈ m.active, TransitionGroup.bystander b.group = true
  base : ∀ id, m.content.base id = c₀.base id
  numbers : m.content.numbers = c₀.numbers

def Active.Takes (a : Active) (spec : PlanSpec) (id : ReplicaID) : Prop :=
  a.spec = some spec ∧ a.slot = some (.membershipSlot, id)

structure Losing (c₀ : Content) (spec : PlanSpec) (id : ReplicaID) (m : Mesh) : Prop where
  company : ∀ b ∈ m.active, TransitionGroup.bystander b.group = true ∨ b.Takes spec id
  others : ∀ id', id' ≠ id → m.content.base id' = c₀.base id'
  stage : (∃ a ∈ m.active, a.Takes spec id ∧
      m.content.numbers = spec.numbersAfter (a.idx + 1) c₀.numbers) ∨
    ((∀ b ∈ m.active, TransitionGroup.bystander b.group = true) ∧
      m.content.base id = spec.endBase ∧
      m.content.numbers = spec.numbersAfter spec.steps.length c₀.numbers)

section
variable {env : Env} {before : List MeshEvent} {m m' : Mesh} {ev : MeshEvent} {c0 : Content}
  {spec : PlanSpec} {id : ReplicaID}

theorem MeshStep.company (hstep : MeshStep env before m ev m')
    (hcreated : ev.kind = .created → TransitionGroup.bystander ev.active.group = true)
    (h : ∀ b ∈ m.active, TransitionGroup.bystander b.group = true ∨ b.Takes spec id) :
    ∀ b ∈ m'.active, TransitionGroup.bystander b.group = true ∨ b.Takes spec id := by
  intro b hb
  rcases hstep.active_origin hb with ⟨a, ha, heq⟩ | ⟨hkind, rfl⟩
  · rw [heq]
    exact h a ha
  · exact .inl (hcreated hkind)

theorem MeshStep.base_of_company (hstep : MeshStep env before m ev m') (hregular : m.Regular)
    (h : ∀ b ∈ m'.active, TransitionGroup.bystander b.group = true ∨ b.Takes spec id)
    {id' : ReplicaID} (hne : id' ≠ id) : m'.content.base id' = m.content.base id' := by
  rcases hstep.read_cases (R := baseReading) hregular.coherent hregular.based id' with
    hkept | ⟨a, ha, spec', hspec', hslot, -⟩
  · exact hkept
  · exfalso
    rcases h a ha with hby | ⟨-, hslot'⟩
    · exact (((hstep.coherent hregular.coherent).known a ha).bystander hby hspec').1 id' hslot
    · rw [hslot, some.injEq, Prod.mk.injEq] at hslot'
      exact hne hslot'.2

theorem MeshStep.numbers_kept (hstep : MeshStep env before m ev m') (hcoherent : m.Coherent)
    (h : ev.kind = .advanced ∨ ev.kind = .created →
      TransitionGroup.bystander ev.active.group = true) :
    m'.content.numbers = m.content.numbers := by
  have hcoherent' := hstep.coherent hcoherent
  cases hstep with
  | @advance l1 l2 a spec s s' c c' rev hactive hspec hs hnext _ hcompleted hcontent =>
    subst hcompleted hcontent
    have hknown := hcoherent.known a (mem_of_split hactive)
    have hkeeps := (hknown.bystander (h (.inl rfl)) hspec).2 s' (mem_of_getElem? hnext)
    change (applyAll env a.replica s'.apply _).numbers = _
    rw [applyAll_keepsNumbers hkeeps]
    exact onComplete_numbers (lookup_eq_some hspec).1 (mem_of_getElem? hs)
  | complete _ hspec hs _ _ hcompleted =>
    subst hcompleted
    exact onComplete_numbers (lookup_eq_some hspec).1 (mem_of_getElem? hs)
  | dispatch => rfl
  | cancel _ _ _ hcancel =>
    cases hcancel
    rfl
  | @create _ spec x _ hspec _ _ hcreate =>
    cases hcreate with
    | @create s c rev _ _ _ _ hs hcontent =>
      subst hcontent
      have hmem : spec.start x rev ∈ (m.extended (spec.start x rev)
          (applyAll env x s.apply m.content)).active := by
        simp [Mesh.extended]
      have hlookup : (spec.start x rev).spec = some spec := lookup_of_mem spec hspec
      have hkeeps := ((hcoherent'.known _ hmem).bystander (h (.inr rfl)) hlookup).2 s
        (mem_of_getElem? hs)
      exact applyAll_keepsNumbers hkeeps

theorem Waiting.step (h : Waiting c0 m) (hstep : MeshStep env before m ev m') (hregular : m.Regular)
    (hcreated : ev.kind = .created → TransitionGroup.bystander ev.active.group = true) :
    Waiting c0 m' := by
  have hcoherent' := hstep.coherent hregular.coherent
  have hcompany : ∀ b ∈ m'.active, TransitionGroup.bystander b.group = true := by
    intro b hb
    rcases hstep.active_origin hb with ⟨a, ha, heq⟩ | ⟨hkind, rfl⟩
    · rw [heq]
      exact h.company a ha
    · exact hcreated hkind
  refine ⟨hcompany, fun id => ?_, ?_⟩
  · rw [← h.base id]
    rcases hstep.read_cases (R := baseReading) hregular.coherent hregular.based id with
      hkept | ⟨a, ha, spec', hspec', hslot, -⟩
    · exact hkept
    · exact absurd hslot (((hcoherent'.known a ha).bystander (hcompany a ha) hspec').1 id)
  · rw [← h.numbers]
    refine hstep.numbers_kept hregular.coherent fun hkind => ?_
    rcases hkind with hkind | hkind
    · cases hstep with
      | advance hactive => exact h.company _ (mem_of_split hactive)
      | complete => cases hkind
      | dispatch => cases hkind
      | cancel _ _ _ hcancel =>
        cases hcancel
        cases hkind
      | create _ _ _ hcreate =>
        cases hcreate
        cases hkind
    · exact hcreated hkind

theorem Waiting.lose (h : Waiting c0 m) (hstep : MeshStep env before m ev m')
    (hregular : m.Regular) (hkind : ev.kind = .created) (hspec : ev.active.spec = some spec)
    (hid : ev.active.replica = some id) (hloss : spec.losesVoter = true) :
    Losing c0 spec id m' := by
  obtain ⟨⟨hscope, hmember⟩, -, -, hplain, -, -⟩ :=
    registry_losesVoter spec (lookup_eq_some hspec).1 hloss
  have hslot : ev.active.slot = some (.membershipSlot, id) := by
    rw [Active.slot_of_spec hspec hscope hid, hmember]
  have hcompany : ∀ b ∈ m'.active, TransitionGroup.bystander b.group = true ∨ b.Takes spec id := by
    intro b hb
    rcases hstep.active_origin hb with ⟨a, ha, heq⟩ | ⟨-, rfl⟩
    · rw [heq]
      exact .inl (h.company a ha)
    · exact .inr ⟨hspec, hslot⟩
  refine ⟨hcompany, fun id' hne => ?_, .inl ⟨ev.active, hstep.created_mem hkind, ⟨hspec, hslot⟩, ?_⟩⟩
  · rw [← h.base id']
    exact hstep.base_of_company hregular hcompany hne
  · rw [← h.numbers]
    obtain ⟨spec', x, hspec', -, -, hcreate⟩ := hstep.created hkind
    cases hcreate with
    | @create s c rev _ _ _ _ hs hcontent =>
      subst hcontent
      have hlookup : (spec'.start x rev).spec = some spec' := lookup_of_mem spec' hspec'
      rw [hlookup, some.injEq] at hspec
      subst hspec
      change (applyAll env x s.apply m.content).numbers = spec'.numbersAfter (0 + 1) _
      rw [numbersAfter_succ hs, applyAll_numbers (hplain s (mem_of_getElem? hs))]
      rfl

theorem numbers_advance {a : Active} {s s' : StepSpec} (hloss : spec.losesVoter = true)
    (hspec : a.spec = some spec) (hs : spec.steps[a.idx]? = some s)
    (hnext : spec.steps[a.idx + 1]? = some s')
    (hnumbers : m.content.numbers = spec.numbersAfter (a.idx + 1) c0.numbers) :
    (applyAll env a.replica s'.apply
      (applyAll env a.replica s.onComplete m.content)).numbers =
      spec.numbersAfter (a.idx + 1 + 1) c0.numbers := by
  have hmem := (lookup_eq_some hspec).1
  obtain ⟨-, -, -, hplain, -, -⟩ := registry_losesVoter spec hmem hloss
  have hdone : (applyAll env a.replica s.onComplete m.content).numbers = m.content.numbers :=
    onComplete_numbers hmem (mem_of_getElem? hs)
  rw [numbersAfter_succ hnext, ← hnumbers, ← hdone]
  exact applyAll_numbers (hplain s' (mem_of_getElem? hnext))

theorem Losing.other {l1 l2 : List Active} {a b : Active} (hcoherent : m.Coherent)
    (hloss : spec.losesVoter = true) (hactive : m.active = l1 ++ b :: l2) (ha : a ∈ m.active)
    (htakes : a.Takes spec id) (hb : TransitionGroup.bystander b.group = true ∨ b.Takes spec id) :
    a = b ∨ (TransitionGroup.bystander b.group = true ∧ a ∈ l1 ++ l2) := by
  have hmem := mem_of_split hactive
  rcases hb with hby | hb
  · right
    refine ⟨hby, ?_⟩
    have hne : a ≠ b := by
      rintro rfl
      obtain ⟨hg, -, -⟩ := (hcoherent.known a ha).of_spec htakes.1
      obtain ⟨-, hgroup, -⟩ := registry_losesVoter spec (lookup_eq_some htakes.1).1 hloss
      rw [hg, hgroup] at hby
      cases hby
    rw [hactive, mem_append, mem_cons] at ha
    rcases ha with ha | ha | ha
    · exact mem_append_left _ ha
    · exact absurd ha hne
    · exact mem_append_right _ ha
  · exact .inl (hcoherent.slot_unique ha hmem htakes.2 hb.2)

theorem Losing.step (h : Losing c0 spec id m) (hstep : MeshStep env before m ev m')
    (hregular : m.Regular) (hloss : spec.losesVoter = true) (hcalm : ev.kind ≠ .cancelled)
    (hcreated : ev.kind = .created → TransitionGroup.bystander ev.active.group = true) :
    Losing c0 spec id m' := by
  have hcompany := hstep.company hcreated h.company
  have hkept := hstep.numbers_kept hregular.coherent
  refine ⟨hcompany, fun id' hne => ?_, ?_⟩
  · rw [← h.others id' hne]
    exact hstep.base_of_company hregular hcompany hne
  · rcases h.stage with ⟨a, ha, htakes, hnumbers⟩ | ⟨hfinished, hbase, hnumbers⟩
    · cases hstep with
      | @advance l1 l2 b spec' s s' c c' rev hactive hspec hs hnext _ hcompleted hcontent =>
        subst hcompleted hcontent
        left
        rcases Losing.other hregular.coherent hloss hactive ha htakes
          (h.company b (mem_of_split hactive)) with rfl | ⟨hby, hother⟩
        · rw [htakes.1, some.injEq] at hspec
          subst hspec
          exact ⟨{ a with idx := a.idx + 1, revision := rev }, by simp [Mesh.moved], htakes,
            numbers_advance hloss htakes.1 hs hnext hnumbers⟩
        · refine ⟨a, ?_, htakes, ?_⟩
          · rw [mem_append] at hother
            rcases hother with hother | hother <;> simp [Mesh.moved, hother]
          · rw [← hnumbers]
            exact hkept fun _ => hby
      | @complete l1 l2 b spec' s c hactive hspec hs hlast _ hcompleted =>
        subst hcompleted
        have hdone : (applyAll env b.replica s.onComplete m.content).numbers = m.content.numbers :=
          onComplete_numbers (lookup_eq_some hspec).1 (mem_of_getElem? hs)
        rcases Losing.other hregular.coherent hloss hactive ha htakes
          (h.company b (mem_of_split hactive)) with rfl | ⟨hby, hother⟩
        · rw [htakes.1, some.injEq] at hspec
          subst hspec
          refine .inr ⟨fun b hb => ?_, ?_, ?_⟩
          · -- the slot of the subject is free now
            have hapart := hregular.coherent.apart
            rw [hactive] at hapart
            have hcompat := compatible_of_split hapart hb
            refine (hcompany b hb).resolve_right fun hb' => ?_
            exact hcompat.slot _ htakes.2 hb'.2
          · have hkeep : (applyAll env a.replica s.onComplete m.content).base id =
                m.content.base id := applyAll_read_keeps baseReading
              (onComplete_keepsRole (lookup_eq_some htakes.1).1 (mem_of_getElem? hs))
            rwa [PlanSpec.endBase, hlast, ← hregular.based a ha spec id htakes.1 htakes.2]
          · rwa [hlast, ← hnumbers]
        · exact .inl ⟨a, hother, htakes, hdone.trans hnumbers⟩
      | dispatch => exact .inl ⟨a, ha, htakes, hnumbers⟩
      | cancel _ _ _ hcancel =>
        cases hcancel
        exact absurd rfl hcalm
      | create _ _ _ hcreate =>
        cases hcreate
        exact .inl ⟨a, by simp [Mesh.extended, ha], htakes,
          (hkept fun _ => hcreated rfl).trans hnumbers⟩
    · -- only bystanders are left
      have hwaiting : Waiting m.content m := ⟨hfinished, fun _ => rfl, rfl⟩
      obtain ⟨hfinished', hbase', hnumbers'⟩ := hwaiting.step hstep hregular hcreated
      exact .inr ⟨hfinished', (hbase' id).trans hbase, hnumbers'.trans hnumbers⟩

structure Vested (c : Content) (spec : PlanSpec) (id : ReplicaID) : Prop where
  voter : id ∈ c.voters
  parity : c.voters.card % 2 = if spec.lowersQ then 0 else 1

theorem voters_of_base {c c' : Content} (h : ∀ id, c'.base id = c.base id) :
    c'.voters = c.voters := by
  ext id
  rw [mem_voters_base, mem_voters_base, h]

theorem Waiting.vested (h : Waiting c0 m) (hstep : MeshStep env before m ev m')
    (hkind : ev.kind = .created) (hspec : ev.active.spec = some spec)
    (hid : ev.active.replica = some id) (hloss : spec.losesVoter = true) :
    Vested c0 spec id := by
  have hmem := (lookup_eq_some hspec).1
  obtain ⟨hmember, -, -, -, -, hguard⟩ := registry_losesVoter spec hmem hloss
  obtain ⟨spec', x, hspec', hchosen, -, hcreate⟩ := hstep.created hkind
  cases hcreate with
  | @create _ _ rev _ hguards =>
    have hlookup : (spec'.start x rev).spec = some spec' := lookup_of_mem spec' hspec'
    rw [hlookup, some.injEq] at hspec
    subst hspec
    have hx : x = some id := hid
    subst hx
    constructor
    · rw [mem_voters_base, ← h.base, hchosen.startBase hmem hmember]
      simp only [PlanSpec.losesVoter, Bool.and_eq_true, decide_eq_true_eq] at hloss
      exact hloss.1.2
    · have hholds := hguards _ hguard
      rw [← voters_of_base h.base]
      cases hlower : spec'.lowersQ with
      | true =>
        rw [hlower] at hholds
        exact hholds
      | false =>
        rw [hlower] at hholds
        exact hholds

end

def MeshEvent.touches (ev : MeshEvent) : Bool :=
  ev.kind = .created && !TransitionGroup.bystander ev.active.group

/-- Nothing is cancelled, and what is created is a bystander or the loss of `id`
by the plan, once. -/
def MeshEvent.Alone (spec : PlanSpec) (id : ReplicaID) (ev : MeshEvent)
    (before : List MeshEvent) : Prop :=
  ev.kind ≠ .cancelled ∧ (ev.touches = true → ev.active.spec = some spec ∧
    ev.active.replica = some id ∧ ∀ e ∈ before, e.touches = false)

theorem Hist.losing {Q : Content → Env → Env → Prop} {m0 m : Mesh} {τ : Trail} {env0 : Env}
    {id : ReplicaID}
    (h : Hist Q (fun _ ev before => ev.Alone spec id before) m0 (.start env0 m0) m τ)
    (h0 : m0.Regular) (hidle : m0.active = []) (hloss : spec.losesVoter = true) :
    m.Regular ∧
      ((Waiting m0.content m ∧ ∀ e ∈ τ.events, e.touches = false) ∨
        (Losing m0.content spec id m ∧ Vested m0.content spec id ∧
          ∃ e ∈ τ.events, e.touches = true)) := by
  induction h with
  | start => exact ⟨h0, .inl ⟨⟨by simp [hidle], fun _ => rfl, rfl⟩, by simp [Trail.start]⟩⟩
  | observe _ _ _ ih =>
    obtain ⟨hregular, hstage⟩ := ih
    refine ⟨hregular.refresh, hstage.imp ?_ ?_⟩
    · rintro ⟨⟨hcompany, hbase, hnumbers⟩, hevents⟩
      exact ⟨⟨hcompany, hbase, hnumbers⟩, hevents⟩
    · rintro ⟨⟨hcompany, hothers, hstage⟩, hrest⟩
      exact ⟨⟨hcompany, hothers, hstage⟩, hrest⟩
  | @step m m' τ ev _ hstep halone ih =>
    obtain ⟨hregular, hstage⟩ := ih
    obtain ⟨hcalm, hsole⟩ := halone
    refine ⟨hstep.regular hregular, ?_⟩
    have hbystander : ev.touches = false → ev.kind = .created →
        TransitionGroup.bystander ev.active.group = true := by
      intro htouch hkind
      simpa [MeshEvent.touches, hkind] using htouch
    rcases hstage with ⟨hwaiting, hnone⟩ | ⟨hlosing, hvested, e, he, htouched⟩
    · cases htouch : ev.touches with
      | false =>
        refine .inl ⟨hwaiting.step hstep hregular (hbystander htouch), fun e he => ?_⟩
        rcases mem_cons.mp he with rfl | he
        · exact htouch
        · exact hnone e he
      | true =>
        obtain ⟨hspec, hid, -⟩ := hsole htouch
        have hkind : ev.kind = .created := by
          simp only [MeshEvent.touches, Bool.and_eq_true, decide_eq_true_eq] at htouch
          exact htouch.1
        exact .inr ⟨hwaiting.lose hstep hregular hkind hspec hid hloss,
          hwaiting.vested hstep hkind hspec hid hloss, ev, mem_cons_self, htouch⟩
    · cases htouch : ev.touches with
      | false =>
        exact .inr ⟨hlosing.step hstep hregular hloss hcalm (hbystander htouch), hvested, e,
          mem_cons_of_mem _ he, htouched⟩
      | true =>
        obtain ⟨-, -, hnone⟩ := hsole htouch
        rw [hnone e he] at htouched
        cases htouched

theorem loss_even {q k u f : ℕ} (hq : 1 ≤ q) (hk : 1 ≤ k) (hfloor : k ≤ u - f)
    (hquorum : q ≤ u - f ∨ u - f + 1 = q) :
    ((if low then k - 1 else k) ≤ (if up then u - 1 else u) - f ∧
      q - 1 ≤ (if up then u - 1 else u) - f) ↔
    (up = false ∨ (q + f ≤ u ∧ (k + f < u ∨ low = true))) := by
  cases up <;> cases low <;> simp <;> omega

theorem loss_odd {q k u f : ℕ} {tie : Prop} (hk : 1 ≤ k) (hfloor : k ≤ u - f)
    (hquorum : q ≤ u - f) :
    ((if low then k - 1 else k) ≤ (if up then u - 1 else u) - f ∧
      (q ≤ (if up then u - 1 else u) - f ∨ ((if up then u - 1 else u) - f + 1 = q ∧ tie))) ↔
    (up = false ∨ ((q + f < u ∨ tie) ∧ (k + f < u ∨ low = true))) := by
  by_cases htie : tie <;> cases up <;> cases low <;> simp [htie] <;> omega

namespace Content

/-- The loss of the voter is borne: it was not up to date anyway, or the
up-to-date voters are enough without it for the quorum and the redundancy that
the plan leaves. With an odd number of voters the quorum stays and a tie-breaker
may make up for the one that is missing. -/
def Spares (c : Content) (h : Health) (f : ℕ) (spec : PlanSpec) (id : ReplicaID) : Prop :=
  h.upToDate id = false ∨
    ((if c.voters.card % 2 = 0 then c.quorum + f ≤ (c.upToDateVoters h).card
      else c.quorum + f < (c.upToDateVoters h).card ∨ (c.workingTieBreakers h).Nonempty ∨
        (spec.endBase = some .tieBreaker ∧ h.operational id = true)) ∧
    (c.quorumMinimumRedundancy + f < (c.upToDateVoters h).card ∨ spec.lowersQMR = true))

section
variable {c c' : Content} {h : Health} {spec : PlanSpec} {id : ReplicaID}

theorem voters_of_loss (hothers : ∀ id', id' ≠ id → c'.base id' = c.base id')
    (hbase : c'.base id = spec.endBase) (hend : spec.endBase ≠ some .diskful) :
    c'.voters = c.voters.erase id := by
  ext id'
  rw [Finset.mem_erase, mem_voters_base, mem_voters_base]
  by_cases heq : id' = id
  · subst heq
    simp [hbase, hend]
  · simp [heq, hothers id' heq]

theorem upToDateVoters_of_loss (hvoters : c'.voters = c.voters.erase id) :
    c'.upToDateVoters h = (c.upToDateVoters h).erase id := by
  rw [upToDateVoters, hvoters, upToDateVoters, Finset.filter_erase]

theorem workingTieBreakers_of_loss (hothers : ∀ id', id' ≠ id → c'.base id' = c.base id')
    (hbase : c'.base id = spec.endBase) (hvoter : id ∈ c.voters) :
    (c'.workingTieBreakers h).Nonempty ↔ (c.workingTieBreakers h).Nonempty ∨
      (spec.endBase = some .tieBreaker ∧ h.operational id = true) := by
  rw [mem_voters_base] at hvoter
  constructor
  · rintro ⟨id', hid'⟩
    rw [workingTieBreakers, Finset.mem_filter, mem_tieBreakers] at hid'
    by_cases heq : id' = id
    · subst heq
      exact .inr ⟨hbase.symm.trans hid'.1, hid'.2⟩
    · rw [hothers id' heq] at hid'
      exact .inl ⟨id', Finset.mem_filter.mpr ⟨mem_tieBreakers.mpr hid'.1, hid'.2⟩⟩
  · rintro (⟨id', hid'⟩ | ⟨hend, hop⟩)
    · rw [workingTieBreakers, Finset.mem_filter, mem_tieBreakers] at hid'
      have hne : id' ≠ id := by
        rintro rfl
        rw [hvoter] at hid'
        cases hid'.1
      refine ⟨id', Finset.mem_filter.mpr ⟨mem_tieBreakers.mpr ?_, hid'.2⟩⟩
      rw [hothers id' hne]
      exact hid'.1
    · exact ⟨id, Finset.mem_filter.mpr ⟨mem_tieBreakers.mpr (hbase.trans hend), hop⟩⟩

theorem tolerates_of_loss {f : ℕ} (htol : c.Tolerates h f)
    (hq : 1 ≤ c.quorum) (hqmr : 1 ≤ c.quorumMinimumRedundancy)
    (hothers : ∀ id', id' ≠ id → c'.base id' = c.base id') (hbase : c'.base id = spec.endBase)
    (hend : spec.endBase ≠ some .diskful) (hvested : Vested c spec id)
    (hnumbers : c'.numbers = (if spec.lowersQ then c.quorum - 1 else c.quorum,
      if spec.lowersQMR then c.quorumMinimumRedundancy - 1 else c.quorumMinimumRedundancy)) :
    c'.Tolerates h f ↔ c.Spares h f spec id := by
  obtain ⟨hvoter, hparity⟩ := hvested
  have hvoters := voters_of_loss hothers hbase hend
  have hquorum : c'.quorum = if spec.lowersQ then c.quorum - 1 else c.quorum :=
    congrArg Prod.fst hnumbers
  have hredundancy : c'.quorumMinimumRedundancy = if spec.lowersQMR then
      c.quorumMinimumRedundancy - 1 else c.quorumMinimumRedundancy := congrArg Prod.snd hnumbers
  have hcard : c'.voters.card + 1 = c.voters.card := by
    rw [hvoters]
    exact Finset.card_erase_add_one hvoter
  have hleft : (c'.upToDateVoters h).card =
      if h.upToDate id then (c.upToDateVoters h).card - 1 else (c.upToDateVoters h).card := by
    rw [upToDateVoters_of_loss hvoters]
    split_ifs with hup
    · exact Finset.card_erase_of_mem (Finset.mem_filter.mpr ⟨hvoter, hup⟩)
    · rw [Finset.erase_eq_of_notMem]
      exact fun hmem => hup (Finset.mem_filter.mp hmem).2
  have htie := workingTieBreakers_of_loss (h := h) hothers hbase hvoter
  rw [tolerates_iff] at htol
  rw [tolerates_iff, Spares, hquorum, hredundancy, hleft]
  -- the tolerated failures leave an up-to-date voter, so helpers need not be counted
  have hspare : f < (c.upToDateVoters h).card := by omega
  have hhelpers : ∀ u, f ≤ u → (f - u < (c'.workingTieBreakers h).card ↔
      ((c.workingTieBreakers h).Nonempty ∨
        (spec.endBase = some .tieBreaker ∧ h.operational id = true))) := by
    intro u hu
    rw [← htie, ← Finset.card_pos]
    omega
  cases hlow : spec.lowersQ with
  | true =>
    rw [hlow, if_pos rfl] at hparity
    have hodd : ¬c'.voters.card % 2 = 0 := by omega
    rw [if_pos rfl, if_pos hparity, ← loss_even hq hqmr htol.1 (htol.2.imp_right (·.1))]
    simp only [hodd, false_and, and_false, or_false]
  | false =>
    simp only [hlow, Bool.false_eq_true, if_false] at hparity ⊢
    have heven : c'.voters.card % 2 = 0 := by omega
    have hquorate := htol.2.resolve_right fun hbroken => by omega
    rw [if_neg (show ¬c.voters.card % 2 = 0 by omega), ← loss_odd hqmr htol.1 hquorate]
    simp only [heven, true_and]
    rw [hhelpers _ (by split_ifs <;> omega)]

end

end Content

/-- In a run from an idle datamesh that tolerates `f` failures, in which the only
transition that touches members or quorum is the loss of one voter, the idle
datamesh at the end tolerates them as well if and only if the loss was borne. -/
theorem voter_loss_tolerated_iff {st : Status} {obs : List Observation}
    {results : List CycleResult} {spec : PlanSpec} {id : ReplicaID} {h : Health} {f : ℕ}
    (hidle : st.transitions = []) (hq : 1 ≤ st.quorum ∧ st.quorum < 256)
    (hqmr : 1 ≤ st.quorumMinimumRedundancy ∧ st.quorumMinimumRedundancy < 256)
    (htol : st.content.Tolerates h f) (hrun : run st obs = some results)
    (hcalm : ∀ ev ∈ allEvents results, ev.kind ≠ .cancelled)
    (hsole : ∃ ev, (allEvents results).filter MeshEvent.touches = [ev] ∧
      ev.active.spec = some spec ∧ ev.active.replica = some id)
    (hloss : spec.losesVoter = true) (hdone : (lastStatus st results).transitions = []) :
    (lastStatus st results).content.Tolerates h f ↔ st.content.Spares h f spec id := by
  obtain ⟨ev₀, hfilter, hspec, hid⟩ := hsole
  have hst : st.Orderly := Status.Formed.orderly (.inl hidle)
  have hallowed : RunAllowed (fun _ ev before => ev.Alone spec id before) obs results := by
    refine runAllowed_of_splits fun post ev pre hsplit => ⟨?_, fun htouch => ?_⟩
    · exact hcalm ev (by rw [hsplit]; simp)
    · -- the only touching event is this one
      rw [hsplit, filter_append, filter_cons_of_pos htouch] at hfilter
      have hpost : post.filter MeshEvent.touches = [] := by
        cases hpost : post.filter MeshEvent.touches with
        | nil => rfl
        | cons e es => simp [hpost] at hfilter
      rw [hpost, nil_append, List.cons.injEq] at hfilter
      obtain ⟨rfl, hpre⟩ := hfilter
      refine ⟨hspec, hid, fun e he => ?_⟩
      exact Bool.eq_false_iff.mpr fun htouch' => filter_eq_nil_iff.mp hpre e he htouch'
  obtain ⟨-, m, τ, hhist, htrace, hmesh⟩ := run_history hst.toWellFormed hrun hallowed
    (runObserved_true .none st obs results)
  obtain ⟨-, hstage⟩ := hhist.losing hst.regular (by simp [Status.mesh, Mesh.refresh, hidle]) hloss
  have hactive : m.active = [] := by
    have hnone := congrArg Mesh.active hmesh
    change (lastStatus st results).transitions.map activeOf = m.active at hnone
    rw [← hnone, hdone]
    rfl
  have hcontent : (lastStatus st results).content = m.content := congrArg Mesh.content hmesh
  rcases hstage with ⟨-, hnone⟩ | ⟨hlosing, hvested, -⟩
  · -- the loss was created
    have hmem : ev₀ ∈ (allEvents results).filter MeshEvent.touches := by
      rw [hfilter]
      exact mem_cons_self
    rw [mem_filter, ← htrace.events] at hmem
    rw [hnone ev₀ hmem.1] at hmem
    cases hmem.2
  · rcases hlosing.stage with ⟨a, ha, -⟩ | ⟨-, hbase, hnumbers⟩
    · rw [hactive] at ha
      cases ha
    · rw [hcontent]
      have hregistered := (lookup_eq_some hspec).1
      obtain ⟨-, -, hend, -⟩ := registry_losesVoter spec hregistered hloss
      refine Content.tolerates_of_loss htol hq.1 hqmr.1 hlosing.others hbase hend hvested ?_
      rw [hnumbers]
      exact numbersAfter_loss hregistered hloss hq hqmr

def healthy : Health := ⟨fun _ => true, fun _ => true⟩

/-- The last of some diskful replicas leaves, with one failure to tolerate;
everyone follows. -/
def lastLeaves (ids : List ReplicaID) (id : ReplicaID) : List Observation :=
  [8, 7, 6, 5].map fun revision =>
    { plainObservation (ids.map (plainReplica · .diskful revision)) [plainRequest id .leave] with
      configuration := ⟨"pool", .ignored, 1, 0, .any⟩ }

/-- Of three voters any may fail; one leaves, and of the other two none may. -/
theorem voter_loss_untied :
    (threeDiskfulAnd []).transitions = [] ∧
    (∀ o ∈ lastLeaves [0, 1, 2] 2, o.configuration.failuresToTolerate = 1) ∧
    (threeDiskfulAnd []).content.Tolerates healthy 1 ∧
    ∃ results, run (threeDiskfulAnd []) (lastLeaves [0, 1, 2] 2) = some results ∧
      (∀ ev ∈ allEvents results, ev.kind ≠ .cancelled) ∧
      ((allEvents results).filter MeshEvent.touches).map
        (fun ev => (ev.active.type, ev.active.planID, ev.active.replica)) =
        [(.removeReplica, .removeDiskful, some 2)] ∧
      (lastStatus (threeDiskfulAnd []) results).transitions = [] ∧
      ¬(lastStatus (threeDiskfulAnd []) results).content.Tolerates healthy 1 := by
  refine ⟨rfl, by decide, by decide +kernel, ?_⟩
  exact exists_of_decide (by decide +kernel)

/-- Four voters bear the loss. -/
theorem voter_loss_tolerated_four :
    ∃ results, run fourDiskful (lastLeaves [0, 1, 2, 3] 3) = some results ∧
      (lastStatus fourDiskful results).content.voters = {0, 1, 2} ∧
      (lastStatus fourDiskful results).content.Tolerates healthy 1 := by
  have hspec : ∃ spec, lookup .removeReplica .removeDiskfulQDown = some spec ∧
      spec.losesVoter = true ∧ fourDiskful.content.Spares healthy 1 spec 3 := by
    refine ⟨_, rfl, by decide +kernel, .inr ⟨?_, .inl (by decide +kernel)⟩⟩
    rw [if_pos (by decide +kernel)]
    decide +kernel
  obtain ⟨spec, hspec, hloss, hspares⟩ := hspec
  have hrun : (run fourDiskful (lastLeaves [0, 1, 2, 3] 3)).any (fun results => decide
      ((∀ ev ∈ allEvents results, ev.kind ≠ .cancelled) ∧
      ((allEvents results).filter MeshEvent.touches).map
        (fun ev => (ev.active.type, ev.active.planID, ev.active.replica)) =
        [(.removeReplica, .removeDiskfulQDown, some 3)] ∧
      (lastStatus fourDiskful results).transitions = [] ∧
      (lastStatus fourDiskful results).content.voters = {0, 1, 2})) = true := by
    decide +kernel
  obtain ⟨results, hresults, hcalm, hsole, hdone, hvoters⟩ := exists_of_decide hrun
  refine ⟨results, hresults, hvoters, ?_⟩
  obtain ⟨ev, hfilter, hev⟩ := map_eq_singleton_iff.mp hsole
  simp only [Prod.mk.injEq] at hev
  obtain ⟨htype, hplan, hid⟩ := hev
  have hactive : ev.active.spec = some spec := by
    rwa [Active.spec, htype, hplan]
  exact (voter_loss_tolerated_iff rfl (by decide) (by decide) (by decide +kernel) hresults hcalm
    ⟨ev, hfilter, hactive, hid⟩ hloss hdone).mpr hspares

end ReplicatedVolume.Datamesh
