import ReplicatedVolume.Mesh.Roles
import ReplicatedVolume.Library.Majority

/-!
# Voters and the quorum

A voting plan changes the voter set in at most one of its steps, together with the quorum if the
parity that its guards check asks for it. As long as no emergency comes between the creation and
that step, the quorum is the exact majority.
-/

namespace ReplicatedVolume.Datamesh
open Dmte Majority List

variable {a : Active} {x : Option ReplicaID} {i rev : ℕ} {s : StepSpec} {c c' : Content}
  {m m' : Mesh} {callbacks : List Apply} {l1 l2 : List Active} {s' : StepSpec}

def Content.Majority (c : Content) : Prop := c.quorum = c.voters.card / 2 + 1

def PlanSpec.changesAt (spec : PlanSpec) (i : ℕ) : Bool :=
  decide (spec.roleAfter i = .voter) != decide (spec.roleAfter (i + 1) = .voter)

def PlanSpec.pendingAt (spec : PlanSpec) (i : ℕ) : Bool :=
  (List.range spec.steps.length).any fun j => decide (i < j) && spec.changesAt j

def Active.pending (a : Active) : Bool := a.spec.any (·.pendingAt a.idx)

structure PlanSpec.Parity (spec : PlanSpec) (c : Content) : Prop where
  even : .guardVotersEven ∈ spec.guards → c.voters.card % 2 = 0
  odd : .guardVotersOdd ∈ spec.guards → c.voters.card % 2 = 1

def Apply.isQ : Apply → Bool
  | .raiseQ | .lowerQ | .setCorrectQ => true
  | _ => false

def Apply.quorum (q : ℕ) : Apply → ℕ
  | .raiseQ => (q + 1) % 256
  | .lowerQ => (q + 255) % 256
  | _ => q

theorem setSeat_quorum (c : Content) (x : Option ReplicaID) (f : Option Seat → Option Seat) :
    (c.setSeat x f).quorum = c.quorum := by
  cases x <;> rfl

theorem effect_quorum (env : Env) (x : Option ReplicaID) (c : Content) {a : Apply}
    (h : a ≠ .setCorrectQ) : (a.effect env x c).quorum = a.quorum c.quorum := by
  cases a <;> first | rfl | exact setSeat_quorum _ _ _ | exact absurd rfl h

variable {env : Env}

theorem applyAll_quorum (c : Content)
    (h : .setCorrectQ ∉ callbacks) :
    (applyAll env x callbacks c).quorum =
      (callbacks.filter Apply.isQ).foldl Apply.quorum c.quorum := by
  induction callbacks generalizing c with
  | nil => rfl
  | cons a callbacks ih =>
    rw [mem_cons, not_or] at h
    change (applyAll env x callbacks (a.effect env x c)).quorum = _
    rw [ih _ h.2, effect_quorum env x c (Ne.symm h.1)]
    by_cases ha : a.isQ = true
    · rw [filter_cons_of_pos ha, foldl_cons]
    · have hkeep : a.quorum c.quorum = c.quorum := by cases a <;> first | rfl | exact absurd rfl ha
      rw [filter_cons_of_neg ha, hkeep]

theorem registry_change_plan : ∀ spec ∈ registry, ∀ i < spec.steps.length,
    spec.changesAt i = true → spec.scope = .replica ∧ spec.slot = .membershipSlot ∧
      (spec.group = .votingMembership ∨ (spec.transitionType = .forceRemoveReplica ∧ i = 0)) := by
  decide +kernel

theorem registry_change_once : ∀ spec ∈ registry, ∀ i < spec.steps.length,
    ∀ j < spec.steps.length, spec.changesAt i = true → spec.changesAt j = true → i = j := by
  decide +kernel

theorem registry_gain : ∀ spec ∈ registry, ∀ p ∈ spec.steps.zipIdx,
    spec.roleAfter p.2 ≠ .voter → spec.roleAfter (p.2 + 1) = .voter →
    (.guardVotersEven ∈ spec.guards ∧ p.1.apply.filter Apply.isQ = []) ∨
    (.guardVotersOdd ∈ spec.guards ∧ p.1.apply.filter Apply.isQ = [.raiseQ]) := by
  decide +kernel

theorem registry_lose : ∀ spec ∈ registry, ∀ p ∈ spec.steps.zipIdx,
    spec.roleAfter p.2 = .voter → spec.roleAfter (p.2 + 1) ≠ .voter →
    (.guardVotersOdd ∈ spec.guards ∧ p.1.apply.filter Apply.isQ = []) ∨
    (.guardVotersEven ∈ spec.guards ∧ p.1.apply.filter Apply.isQ = [.lowerQ]) := by
  decide +kernel

theorem registry_keep : ∀ spec ∈ registry, ∀ p ∈ spec.steps.zipIdx,
    spec.changesAt p.2 = false →
    p.1.apply.filter Apply.isQ = [] ∨ p.1.apply = [.setCorrectQ] := by
  decide +kernel

/-- A voter change is confirmed by every member; the last step of a plan may
let its subject go unconfirmed when it has left. -/
theorem registry_change_confirm : ∀ spec ∈ registry, ∀ p ∈ spec.steps.zipIdx,
    spec.changesAt p.2 = true →
    (p.1.confirm = .confirmAllMembers ∧
      (spec.transitionType ≠ .forceRemoveReplica → spec.roleAfter (p.2 + 1) ≠ .absent)) ∨
    (p.1.confirm = .confirmAllMembersLeaving ∧ spec.roleAfter (p.2 + 1) = .absent ∧
      p.2 + 1 = spec.steps.length) := by
  decide +kernel

variable {spec : PlanSpec}

theorem mem_zipIdx_of_getElem (h : spec.steps[i]? = some s) : (s, i) ∈ spec.steps.zipIdx :=
  mem_zipIdx_iff_getElem?.mpr h

theorem voters_card_le (c : Content) : c.voters.card ≤ 32 := by
  have hle := Finset.card_le_univ c.voters
  simpa using hle

theorem voters_of_role (h : ∀ id, c'.role id = .voter ↔ c.role id = .voter) :
    c'.voters = c.voters := by
  ext id
  rw [mem_voters, mem_voters]
  exact h id

theorem voters_insert {id : ReplicaID} (hothers : ∀ id', id' ≠ id → c'.role id' = c.role id')
    (hnew : c'.role id = .voter) : c'.voters = insert id c.voters := by
  ext id'
  rw [Finset.mem_insert, mem_voters, mem_voters]
  by_cases heq : id' = id
  · subst heq
    simp [hnew]
  · rw [hothers id' heq]
    simp [heq]

theorem voters_erase {id : ReplicaID} (hothers : ∀ id', id' ≠ id → c'.role id' = c.role id')
    (hgone : c'.role id ≠ .voter) : c'.voters = c.voters.erase id := by
  ext id'
  rw [Finset.mem_erase, mem_voters, mem_voters]
  by_cases heq : id' = id
  · subst heq
    simp [hgone]
  · rw [hothers id' heq]
    simp [heq]

theorem applyAll_quorum_of_filter {q : List Apply} (h : callbacks.filter Apply.isQ = q)
    (hq : .setCorrectQ ∉ q) :
    (applyAll env x callbacks c).quorum = q.foldl Apply.quorum c.quorum := by
  rw [applyAll_quorum c fun hmem => hq (h ▸ mem_filter.mpr ⟨hmem, rfl⟩), h]

def PlanSpec.Ready (spec : PlanSpec) (i : ℕ) (x : Option ReplicaID) (c : Content) : Prop :=
  ∀ id, x = some id → spec.scope = .replica → spec.slot = .membershipSlot →
    c.role id = spec.roleAfter i

section
variable {env : Env} {spec : PlanSpec} {s : StepSpec} {i : ℕ} {x : Option ReplicaID} {c : Content}

section
variable (hspec : spec ∈ registry) (hs : spec.steps[i]? = some s) (hready : spec.Ready i x c)
  (hchange : spec.changesAt i = false)
include hspec hs hready hchange

theorem apply_voters_keep : (applyAll env x s.apply c).voters = c.voters := by
  apply voters_of_role
  intro id
  by_cases hplan : spec.scope = .replica ∧ spec.slot = .membershipSlot
  · by_cases hx : x = some id
    · subst hx
      rw [applyAll_role_self, hready id rfl hplan.1 hplan.2, ← roleAfter_succ hs]
      simp only [PlanSpec.changesAt, bne_eq_false_iff_eq, decide_eq_decide] at hchange
      exact hchange.symm
    · rw [role_congr (applyAll_seats_of_ne s.apply hx)]
  · rw [applyAll_role_keeps (registry_keepsRole spec hspec hplan s (mem_of_getElem? hs))]

theorem apply_majority_keep (h : c.Majority) : (applyAll env x s.apply c).Majority := by
  unfold Content.Majority at h ⊢
  rcases registry_keep spec hspec _ (mem_zipIdx_of_getElem hs) hchange with hq | hq
  · rwa [apply_voters_keep hspec hs hready hchange, applyAll_quorum_of_filter hq (by simp)]
  · have hq' : s.apply = [.setCorrectQ] := hq
    rw [hq']
    rfl

end

/-- A step that changes a vote, made while the parity is as the guards found
it, changes the quorum with it. -/
theorem apply_change {id : ReplicaID} (hspec : spec ∈ registry) (hs : spec.steps[i]? = some s)
    (hready : spec.Ready i (some id) c) (hchange : spec.changesAt i = true)
    (hparity : spec.Parity c) (h : c.Majority) :
    (applyAll env (some id) s.apply c).Majority ∧
      (applyAll env (some id) s.apply c).voters ≠ c.voters ∧
      Adjacent c.voters (applyAll env (some id) s.apply c).voters := by
  have hlt : i < spec.steps.length := (List.getElem?_eq_some_iff.mp hs).1
  obtain ⟨hscope, hslot, -⟩ := registry_change_plan spec hspec i hlt hchange
  have hrole : c.role id = spec.roleAfter i := hready id rfl hscope hslot
  have hrole' : (applyAll env (some id) s.apply c).role id = spec.roleAfter (i + 1) := by
    rw [applyAll_role_self, hrole, ← roleAfter_succ hs]
  have hothers : ∀ id', id' ≠ id → (applyAll env (some id) s.apply c).role id' = c.role id' :=
    fun id' hne => role_congr (applyAll_seats_of_ne s.apply fun heq => hne (Option.some.inj heq).symm)
  have hcard := voters_card_le c
  unfold Content.Majority at h ⊢
  by_cases hvoter : spec.roleAfter i = .voter
  · have hgone : spec.roleAfter (i + 1) ≠ .voter := by
      intro heq
      simp [PlanSpec.changesAt, hvoter, heq] at hchange
    have hmem : id ∈ c.voters := mem_voters.mpr (hrole.trans hvoter)
    have hpos : 0 < c.voters.card := Finset.card_pos.mpr ⟨id, hmem⟩
    have hv := voters_erase hothers (hrole' ▸ hgone)
    refine ⟨?_, ?_, hv ▸ adjacent_erase _ _⟩
    · rw [hv, Finset.card_erase_of_mem hmem]
      rcases registry_lose spec hspec _ (mem_zipIdx_of_getElem hs) hvoter hgone with
        ⟨hguard, hq⟩ | ⟨hguard, hq⟩
      · have hodd := hparity.odd hguard
        rw [applyAll_quorum_of_filter hq (by simp)]
        change c.quorum = _
        omega
      · have heven := hparity.even hguard
        rw [applyAll_quorum_of_filter hq (by simp)]
        change (c.quorum + 255) % 256 = _
        omega
    · intro heq
      rw [hv] at heq
      have hin : id ∈ c.voters.erase id := by
        rwa [heq]
      exact Finset.notMem_erase id c.voters hin
  · have hnew : spec.roleAfter (i + 1) = .voter := by
      by_contra heq
      simp [PlanSpec.changesAt, hvoter, heq] at hchange
    have hmem : id ∉ c.voters := fun hin => hvoter (hrole ▸ mem_voters.mp hin)
    have hv := voters_insert hothers (hrole'.trans hnew)
    refine ⟨?_, ?_, hv ▸ adjacent_insert _ _⟩
    · rw [hv, Finset.card_insert_of_notMem hmem]
      rcases registry_gain spec hspec _ (mem_zipIdx_of_getElem hs) hvoter hnew with
        ⟨hguard, hq⟩ | ⟨hguard, hq⟩
      · have heven := hparity.even hguard
        rw [applyAll_quorum_of_filter hq (by simp)]
        change c.quorum = _
        omega
      · have hodd := hparity.odd hguard
        rw [applyAll_quorum_of_filter hq (by simp)]
        change (c.quorum + 1) % 256 = _
        omega
    · intro heq
      rw [hv] at heq
      exact hmem (heq ▸ Finset.mem_insert_self id c.voters)

end

/-- The quorum is the majority, and a plan whose voter change is still ahead
finds the parity that it was created for. -/
structure Mesh.Balanced (m : Mesh) : Prop where
  majority : m.content.Majority
  placed : m.Placed
  parity : ∀ a ∈ m.active, ∀ spec, a.spec = some spec → spec.pendingAt a.idx = true →
    spec.Parity m.content

theorem Mesh.balanced_of_no_transitions (m : Mesh) (h : m.active = [])
    (hmajority : m.content.Majority) : m.Balanced := by
  constructor
  · exact hmajority
  · simp [Mesh.Placed, h]
  · simp [h]

theorem pendingAt_iff :
    spec.pendingAt i = true ↔ ∃ j, i < j ∧ j < spec.steps.length ∧ spec.changesAt j = true := by
  simp only [PlanSpec.pendingAt, any_eq_true, mem_range, Bool.and_eq_true, decide_eq_true_eq]
  constructor
  · rintro ⟨j, hlen, hlt, hj⟩
    exact ⟨j, hlt, hlen, hj⟩
  · rintro ⟨j, hlt, hlen, hj⟩
    exact ⟨j, hlen, hlt, hj⟩

theorem group_of_pending (hspec : spec ∈ registry) (h : spec.pendingAt i = true) :
    spec.group = .votingMembership := by
  obtain ⟨j, hlt, hlen, hj⟩ := pendingAt_iff.mp h
  rcases (registry_change_plan spec hspec j hlen hj).2.2 with hgroup | ⟨-, hzero⟩
  · exact hgroup
  · omega

theorem pending_of_change (hlen : i + 1 < spec.steps.length)
    (h : spec.changesAt (i + 1) = true) : spec.pendingAt i = true :=
  pendingAt_iff.mpr ⟨i + 1, by omega, hlen, h⟩

theorem not_pending_of_change {j : ℕ} (hspec : spec ∈ registry)
    (hlen : i < spec.steps.length) (hle : i ≤ j) (h : spec.changesAt i = true) :
    spec.pendingAt j = false := by
  by_contra hne
  rw [Bool.not_eq_false] at hne
  obtain ⟨k, hlt, hk, hchange⟩ := pendingAt_iff.mp hne
  have heq := registry_change_once spec hspec i hlen k hk h hchange
  omega

theorem pending_mono (h : spec.pendingAt (i + 1) = true) : spec.pendingAt i = true := by
  obtain ⟨j, hlt, hlen, hj⟩ := pendingAt_iff.mp h
  exact pendingAt_iff.mpr ⟨j, by omega, hlen, hj⟩

theorem Mesh.Balanced.ready (h : m.Balanced) (ha : a ∈ m.active)
    (hspec : a.spec = some spec) : spec.Ready (a.idx + 1) a.replica m.content := by
  intro id hid hscope hslot
  exact h.placed a ha spec id hspec (hslot ▸ Active.slot_of_spec hspec hscope hid)

theorem Chosen.ready (h : Chosen env m spec x)
    (hspec : spec ∈ registry) : spec.Ready 0 x m.content := by
  intro id hid hscope hslot
  subst hid
  exact h.startRole hspec ⟨hscope, hslot⟩

theorem parity_congr (h : c'.voters = c.voters) (hparity : spec.Parity c) : spec.Parity c' := by
  constructor
  · rw [h]
    exact hparity.even
  · rw [h]
    exact hparity.odd

theorem not_two_voting {b : Active} (hcoherent : m.Coherent)
    (hactive : m.active = l1 ++ a :: l2) (hb : b ∈ l1 ++ l2) (hga : a.group = .votingMembership)
    (hgb : b.group = .votingMembership) : False := by
  have hapart := hcoherent.apart
  rw [hactive] at hapart
  have hserial := (compatible_of_split hapart hb).group (hga.trans hgb.symm)
  rw [hga] at hserial
  cases hserial

theorem onComplete_voters (hspec : spec ∈ registry)
    (hs : s ∈ spec.steps) : (applyAll env x s.onComplete c).voters = c.voters :=
  (congrArg Content.voters (onComplete_configuration hspec hs) :)

theorem onComplete_majority (hspec : spec ∈ registry)
    (hs : s ∈ spec.steps) (h : c.Majority) : (applyAll env x s.onComplete c).Majority :=
  (congrArg Content.Majority (onComplete_configuration hspec hs)).mpr h

structure Turned (c c' : Content) (changes : Bool) : Prop where
  keep : changes = false → c'.voters = c.voters
  change : changes = true → c'.voters ≠ c.voters ∧ Adjacent c.voters c'.voters

section
variable {env : Env} {m : Mesh} {spec : PlanSpec}

theorem advance_turned (h : m.Balanced) (ha : a ∈ m.active) (hknown : a.Known)
    (hspec : a.spec = some spec) (hstep : spec.steps[a.idx]? = some s)
    (hnext : spec.steps[a.idx + 1]? = some s') :
    (applyAll env a.replica s'.apply (applyAll env a.replica s.onComplete m.content)).Majority ∧
      Turned m.content (applyAll env a.replica s'.apply
        (applyAll env a.replica s.onComplete m.content)) (spec.changesAt (a.idx + 1)) := by
  have hmem := (lookup_eq_some hspec).1
  have hs := mem_of_getElem? hstep
  have hlen : a.idx + 1 < spec.steps.length := (List.getElem?_eq_some_iff.mp hnext).1
  have hvoters : (applyAll env a.replica s.onComplete m.content).voters = m.content.voters :=
    onComplete_voters hmem hs
  have hmajority : (applyAll env a.replica s.onComplete m.content).Majority :=
    onComplete_majority hmem hs h.majority
  have hready : spec.Ready (a.idx + 1) a.replica
      (applyAll env a.replica s.onComplete m.content) := by
    intro id hid hscope hslot
    rw [applyAll_role_keeps (onComplete_keepsRole hmem hs)]
    exact h.ready ha hspec id hid hscope hslot
  cases hchange : spec.changesAt (a.idx + 1) with
  | false =>
    refine ⟨apply_majority_keep hmem hnext hready hchange hmajority, fun _ => ?_, by simp⟩
    rw [apply_voters_keep hmem hnext hready hchange, hvoters]
  | true =>
    obtain ⟨hscope, -, -⟩ := registry_change_plan spec hmem _ hlen hchange
    obtain ⟨id, hid⟩ := Option.isSome_iff_exists.mp ((hknown.of_spec hspec).2.1.mp hscope)
    have hparity : spec.Parity (applyAll env a.replica s.onComplete m.content) :=
      parity_congr hvoters (h.parity a ha spec hspec (pending_of_change hlen hchange))
    rw [hid] at hready hmajority hparity hvoters ⊢
    obtain ⟨hmaj', hne, hadj⟩ := apply_change hmem hnext hready hchange hparity hmajority
    rw [hvoters] at hne hadj
    exact ⟨hmaj', by simp, fun _ => ⟨hne, hadj⟩⟩

theorem balanced_moved (hcoherent : m.Coherent)
    (h : m.Balanced) (hactive : m.active = l1 ++ a :: l2) (hspec : a.spec = some spec)
    (hstep : spec.steps[a.idx]? = some s) (hnext : spec.steps[a.idx + 1]? = some s') :
    (m.moved l1 a l2 (applyAll env a.replica s'.apply
      (applyAll env a.replica s.onComplete m.content)) rev).Balanced := by
  have ha := mem_of_split hactive
  have hmem := (lookup_eq_some hspec).1
  have hlen : a.idx + 1 < spec.steps.length := (List.getElem?_eq_some_iff.mp hnext).1
  have hknown := hcoherent.known a ha
  have hgroup := (hknown.of_spec hspec).1
  obtain ⟨hmajority, hturned⟩ := advance_turned h ha hknown hspec hstep hnext
  -- no other plan has its change ahead when this one makes its own
  have hothers : ∀ b ∈ l1 ++ l2, ∀ spec', b.spec = some spec' → spec'.pendingAt b.idx = true →
      spec'.Parity (applyAll env a.replica s'.apply
        (applyAll env a.replica s.onComplete m.content)) := by
    intro b hb spec' hspec' hpending
    have hbm : b ∈ m.active := (dropped_sublist m.content hactive).subset hb
    have hgb := ((hcoherent.known b hbm).of_spec hspec').1
    rw [group_of_pending (lookup_eq_some hspec').1 hpending] at hgb
    cases hchange : spec.changesAt (a.idx + 1) with
    | false => exact parity_congr (hturned.keep hchange) (h.parity b hbm spec' hspec' hpending)
    | true =>
      rw [group_of_pending hmem (pending_of_change hlen hchange)] at hgroup
      exact (not_two_voting hcoherent hactive hb hgroup hgb).elim
  refine ⟨hmajority, Reading.Placed.moved (R := roleReading) hcoherent h.placed hactive hspec hstep hnext, ?_⟩
  intro b hb spec' hspec' hpending
  simp only [Mesh.moved, mem_append, mem_cons] at hb
  rcases hb with hb | rfl | hb
  · exact hothers b (mem_append_left _ hb) spec' hspec' hpending
  · have hspec'' : a.spec = some spec' := hspec'
    rw [hspec, Option.some.injEq] at hspec''
    subst hspec''
    have hpending' : spec.pendingAt (a.idx + 1) = true := hpending
    cases hchange : spec.changesAt (a.idx + 1) with
    | false =>
      exact parity_congr (hturned.keep hchange) (h.parity a ha spec hspec (pending_mono hpending'))
    | true =>
      rw [not_pending_of_change hmem hlen le_rfl hchange] at hpending'
      cases hpending'
  · exact hothers b (mem_append_right _ hb) spec' hspec' hpending

section
variable (h : m.Balanced) (hspec : spec ∈ registry) (hchosen : Chosen env m spec x)
  (hscope : spec.scope = .replica ↔ x.isSome = true)
  (hguards : ∀ guard ∈ spec.guards, guard.Holds env m x)
include h hspec hchosen hscope hguards

theorem create_turned (hstep : spec.steps[0]? = some s) :
    (applyAll env x s.apply m.content).Majority ∧
      Turned m.content (applyAll env x s.apply m.content) (spec.changesAt 0) ∧
      spec.Parity m.content := by
  have hlen : 0 < spec.steps.length := (List.getElem?_eq_some_iff.mp hstep).1
  have hready := hchosen.ready hspec
  have hparity : spec.Parity m.content := ⟨fun hg => hguards _ hg, fun hg => hguards _ hg⟩
  cases hchange : spec.changesAt 0 with
  | false =>
    refine ⟨apply_majority_keep hspec hstep hready hchange h.majority, ⟨fun _ => ?_, by simp⟩,
      hparity⟩
    exact apply_voters_keep hspec hstep hready hchange
  | true =>
    obtain ⟨hreplica, -, -⟩ := registry_change_plan spec hspec 0 hlen hchange
    obtain ⟨id, rfl⟩ := Option.isSome_iff_exists.mp (hscope.mp hreplica)
    obtain ⟨hmajority, hne, hadj⟩ := apply_change hspec hstep hready hchange hparity h.majority
    exact ⟨hmajority, ⟨by simp, fun _ => ⟨hne, hadj⟩⟩, hparity⟩

theorem balanced_extended (hfree : ∀ id, x = some id → m.Free spec.slot id)
    (hstep : spec.steps[0]? = some s)
    (hquiet : spec.changesAt 0 = true → ∀ b ∈ m.active, b.pending = false) :
    (m.extended (spec.start x rev) (applyAll env x s.apply m.content)).Balanced := by
  have hlen : 0 < spec.steps.length := (List.getElem?_eq_some_iff.mp hstep).1
  obtain ⟨hmajority, hturned, hparity⟩ := create_turned h hspec hchosen hscope hguards hstep
  refine ⟨hmajority, Reading.Placed.extended (R := roleReading) h.placed hspec hchosen hfree hstep,
    ?_⟩
  intro b hb spec' hspec' hpending
  rcases mem_append.mp hb with hb | hb
  · cases hchange : spec.changesAt 0 with
    | false => exact parity_congr (hturned.keep hchange) (h.parity b hb spec' hspec' hpending)
    | true =>
      have hquiet' := hquiet hchange b hb
      rw [Active.pending, hspec', Option.any_some, hpending] at hquiet'
      cases hquiet'
  · rw [mem_singleton.mp hb] at hspec' hpending
    rw [show (spec.start x rev).spec = some spec from lookup_of_mem spec hspec,
      Option.some.injEq] at hspec'
    subst hspec'
    cases hchange : spec.changesAt 0 with
    | false => exact parity_congr (hturned.keep hchange) hparity
    | true =>
      rw [not_pending_of_change hspec hlen (Nat.zero_le _) hchange] at hpending
      cases hpending

end

end

theorem Mesh.Balanced.of_subset (h : m.Balanced) (hmajority : m'.content.Majority)
    (hrole : ∀ id, m'.content.role id = m.content.role id) (hsub : ∀ a ∈ m'.active, a ∈ m.active) :
    m'.Balanced := by
  refine ⟨hmajority, Reading.Placed.of_subset (R := roleReading) h.placed hrole hsub,
    fun a ha spec hspec hpending => ?_⟩
  have hvoters : m'.content.voters = m.content.voters := voters_of_role fun id => by rw [hrole]
  exact parity_congr hvoters (h.parity a (hsub a ha) spec hspec hpending)

/-- A forced removal that takes a vote while another plan still has its voter
change ahead. -/
def MeshEvent.Untimely (ev : MeshEvent) : Prop :=
  ev.kind = .created ∧ ev.active.type = .forceRemoveReplica ∧
    (∃ id ∈ ev.before.content.voters, ev.active.replica = some id) ∧
    ∃ b ∈ ev.before.active, b.pending = true

theorem registry_voting_force : ∀ spec ∈ registry, spec.changesAt 0 = true →
    spec.group ≠ .votingMembership → spec.transitionType = .forceRemoveReplica ∧
      spec.startRole = .voter := by
  decide +kernel

theorem quiet_of_timely (hcoherent : m.Coherent)
    (hspec : spec ∈ registry) (hchosen : Chosen env m spec x)
    (hscope : spec.scope = .replica ↔ x.isSome = true) (hallowed : Admitted m spec.group x)
    (htimely : ¬MeshEvent.Untimely ⟨.created, spec.start x rev, m, m'⟩)
    (hchange : spec.changesAt 0 = true) : ∀ b ∈ m.active, b.pending = false := by
  intro b hb
  by_contra hne
  rw [Bool.not_eq_false] at hne
  by_cases hgroup : spec.group = .votingMembership
  · -- admission found no voting plan
    obtain ⟨spec', hspec', hpending⟩ := (Option.any_eq_true _ _).mp hne
    have hgb := ((hcoherent.known b hb).of_spec hspec').1
    rw [group_of_pending (lookup_eq_some hspec').1 hpending] at hgb
    have hidle := hallowed.2
    rw [hgroup] at hidle
    exact hidle.1 b hb hgb
  · obtain ⟨htype, hrole⟩ := registry_voting_force spec hspec hchange hgroup
    obtain ⟨hreplica, hslot, -⟩ := registry_change_plan spec hspec 0
      (registry_steps_ne_nil spec hspec) hchange
    obtain ⟨id, rfl⟩ := Option.isSome_iff_exists.mp (hscope.mp hreplica)
    have hvoter := hchosen.startRole hspec ⟨hreplica, hslot⟩
    exact htimely ⟨rfl, htype, ⟨id, mem_voters.mpr (hvoter.trans hrole), rfl⟩, b, hb, hne⟩

theorem MeshStep.balanced {before : List MeshEvent} {ev : MeshEvent}
    (hstep : MeshStep env before m ev m') (hcoherent : m.Coherent) (htimely : ¬ev.Untimely)
    (h : m.Balanced) : m'.Balanced := by
  cases hstep with
  | advance hactive hspec hs hnext _ hcompleted hcontent =>
    subst hcompleted hcontent
    exact balanced_moved hcoherent h hactive hspec hs hnext
  | complete hactive hspec hs _ _ hcompleted =>
    subst hcompleted
    have hmem := (lookup_eq_some hspec).1
    have hs' := mem_of_getElem? hs
    refine h.of_subset (onComplete_majority hmem hs' h.majority) (fun id => ?_)
      fun b hb => (dropped_sublist _ hactive).subset hb
    exact applyAll_role_keeps (onComplete_keepsRole hmem hs')
  | dispatch => exact h
  | cancel _ _ _ hcancel =>
    cases hcancel with
    | cancel hactive =>
      exact h.of_subset h.majority (fun _ => rfl) fun b hb => (dropped_sublist _ hactive).subset hb
  | create hspec hchosen _ hcreate =>
    cases hcreate with
    | create hscope hguards hfree hallowed hs hcontent =>
      subst hcontent
      exact balanced_extended h hspec hchosen hscope hguards hfree hs
        (quiet_of_timely hcoherent hspec hchosen hscope hallowed htimely)

end ReplicatedVolume.Datamesh
