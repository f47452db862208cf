import ReplicatedVolume.Datamesh.Zones
import ReplicatedVolume.Mesh.Orderly
import ReplicatedVolume.Safety.Quorum

/-!
# Tie-breakers and the voters they are for

Tie-breakers are released in the first step of a plan, against the voters of that moment, while a
plan that changes the voters takes several cycles. `due` projects every replica to the end of the
live voting plan; as long as every creation leaves enough tie-breakers there, so does every state
between voting plans.
-/

namespace ReplicatedVolume.Datamesh
open Dmte List Function

variable {id : ReplicaID} {ftt : ℕ} {m : Mesh} {st : Status} {c : Content} {o : Observation}
  {spec : PlanSpec}

def Content.tieBreakers (c : Content) : Finset ReplicaID :=
  idsWhere fun id => (c.seats id).any (·.type = .tieBreaker)

theorem mem_tieBreakers : id ∈ c.tieBreakers ↔ c.base id = some .tieBreaker := by
  rw [Content.tieBreakers, mem_idsWhere, Content.base]
  cases c.seats id with
  | none => simp
  | some s => cases htype : s.type <;> simp [htype, baseType]

theorem mem_voters_base : id ∈ c.voters ↔ c.base id = some .diskful := by
  rw [Content.voters, mem_idsWhere, Content.base]
  cases c.seats id with
  | none => simp
  | some s => cases htype : s.type <;> simp [htype, baseType, MemberType.isVoter]

def PlanSpec.endBase (spec : PlanSpec) : Option ReplicaType := spec.baseAfter spec.steps.length

def Active.revotes (a : Active) (id : ReplicaID) : Bool :=
  a.group = .votingMembership && a.slot = some (.membershipSlot, id)

theorem Active.revotes_eq_true {a : Active} : a.revotes id = true ↔
    a.group = .votingMembership ∧ a.slot = some (.membershipSlot, id) := by
  simp [Active.revotes]

def Mesh.due (m : Mesh) (id : ReplicaID) : Option ReplicaType :=
  match m.active.find? (·.revotes id) with
  | some a => a.spec.bind PlanSpec.endBase
  | none => m.content.base id

def dueVoters (due : ReplicaID → Option ReplicaType) : Finset ReplicaID :=
  idsWhere fun id => due id = some .diskful

def dueTieBreakers (due : ReplicaID → Option ReplicaType) : Finset ReplicaID :=
  idsWhere fun id => due id = some .tieBreaker

def Sufficient (ftt : ℕ) (due : ReplicaID → Option ReplicaType) : Prop :=
  tieBreakersForDiskful (dueVoters due).card ftt ≤ (dueTieBreakers due).card

instance (ftt : ℕ) (due : ReplicaID → Option ReplicaType) : Decidable (Sufficient ftt due) :=
  inferInstanceAs (Decidable (_ ≤ _))

theorem Sufficient.mono {due due' : ReplicaID → Option ReplicaType} (h : Sufficient ftt due)
    (hvoters : ∀ id, due' id = some .diskful ↔ due id = some .diskful)
    (htb : ∀ id, due id = some .tieBreaker → due' id = some .tieBreaker) : Sufficient ftt due' := by
  have hsame : dueVoters due' = dueVoters due := by
    ext id
    simp [dueVoters, hvoters]
  have hsub : dueTieBreakers due ⊆ dueTieBreakers due' := by
    intro id hid
    simp only [dueTieBreakers, mem_idsWhere, decide_eq_true_eq] at hid ⊢
    exact htb id hid
  unfold Sufficient
  rw [hsame]
  exact h.trans (Finset.card_le_card hsub)

theorem sufficient_base : Sufficient ftt c.base ↔
    tieBreakersForDiskful c.voters.card ftt ≤ c.tieBreakers.card := by
  have hvoters : dueVoters c.base = c.voters := by
    ext id
    simp [dueVoters, mem_voters_base]
  have htb : dueTieBreakers c.base = c.tieBreakers := by
    ext id
    simp [dueTieBreakers, mem_tieBreakers]
  rw [Sufficient, hvoters, htb]

theorem Mesh.Coherent.slot_unique (h : m.Coherent) {a b : Active} {s : SlotID × ReplicaID}
    (ha : a ∈ m.active) (hb : b ∈ m.active) (hslot : a.slot = some s) (hslot' : b.slot = some s) :
    a = b := by
  obtain ⟨l1, l2, hsplit⟩ := append_of_mem ha
  have hapart := h.apart
  rw [hsplit] at hapart hb
  by_contra hne
  have hother : b ∈ l1 ++ l2 := by
    simp only [mem_append, mem_cons] at hb ⊢
    rcases hb with hb | rfl | hb
    · exact .inl hb
    · exact absurd rfl hne
    · exact .inr hb
  exact (compatible_of_split hapart hother).slot s hslot hslot'

section
variable {m : Mesh} {a : Active} {id : ReplicaID}

theorem Mesh.due_of_live (h : m.Coherent) (ha : a ∈ m.active)
    (hvotes : a.revotes id = true) (hspec : a.spec = some spec) : m.due id = spec.endBase := by
  unfold Mesh.due
  cases hfind : m.active.find? (·.revotes id) with
  | none => exact absurd hvotes (List.find?_eq_none.mp hfind a ha)
  | some b =>
    have hslot := (Active.revotes_eq_true.mp hvotes).2
    have hfound := List.find?_some hfind
    have hvotes' : b.revotes id = true := hfound
    have hslot' := (Active.revotes_eq_true.mp hvotes').2
    obtain rfl := h.slot_unique (mem_of_find?_eq_some hfind) ha hslot' hslot
    change b.spec.bind PlanSpec.endBase = _
    rw [hspec]
    rfl

theorem Mesh.due_of_idle (h : ∀ b ∈ m.active, ¬b.revotes id = true) :
    m.due id = m.content.base id := by
  unfold Mesh.due
  rw [List.find?_eq_none.mpr h]

theorem Mesh.due_of_none (h : ∀ b ∈ m.active, b.group ≠ .votingMembership) :
    m.due = m.content.base := by
  funext id
  exact Mesh.due_of_idle fun b hb hvotes => h b hb (Active.revotes_eq_true.mp hvotes).1

end

def MeshEvent.emergency (ev : MeshEvent) : Bool :=
  ev.kind = .cancelled || (ev.kind = .created && ev.active.group = .emergency)

inductive Shift (ev : MeshEvent) (id : ReplicaID) (old new : Option ReplicaType) : Prop
  | keep (h : new = old)
  | revote {spec : PlanSpec} (hkind : ev.kind = .created) (hvotes : ev.active.revotes id = true)
      (hspec : ev.active.spec = some spec) (hnew : new = spec.endBase)
  | first {spec : PlanSpec} (hkind : ev.kind = .created)
      (hgroup : ev.active.group ≠ .votingMembership)
      (hslot : ev.active.slot = some (.membershipSlot, id)) (hspec : ev.active.spec = some spec)
      (hold : old = spec.baseAfter 0) (hnew : new = spec.baseAfter 1)
  | later {spec : PlanSpec} {n : ℕ} (hkind : ev.kind = .advanced) (hmem : spec ∈ registry)
      (hmember : spec.scope = .replica ∧ spec.slot = .membershipSlot)
      (hgroup : spec.group ≠ .votingMembership) (hpos : 0 < n) (hlt : n < spec.steps.length)
      (hold : old = spec.baseAfter n) (hnew : new = spec.baseAfter (n + 1))

theorem MeshStep.due_cases {env : Env} {before : List MeshEvent} {m' : Mesh} {ev : MeshEvent}
    (hstep : MeshStep env before m ev m') (hcoherent : m.Coherent) (hbased : m.Based)
    (hcalm : ev.emergency = false) (id : ReplicaID) : Shift ev id (m.due id) (m'.due id) := by
  have hcoherent' := hstep.coherent hcoherent
  by_cases hlive : ∃ b ∈ m'.active, b.revotes id = true
  · -- the plan in the slot was there before or is new
    obtain ⟨b, hb, hvotes⟩ := hlive
    obtain ⟨hgroup, hslot⟩ := Active.revotes_eq_true.mp hvotes
    obtain ⟨spec, hspec, -⟩ := Active.slot_eq_some hslot
    have hdue' := Mesh.due_of_live hcoherent' hb hvotes hspec
    rcases hstep.active_origin hb with ⟨a, ha, heq⟩ | ⟨hkind, rfl⟩
    · have hvotes' : a.revotes id = true := by
        rw [heq] at hvotes
        exact hvotes
      have hspec' : a.spec = some spec := by
        rw [heq] at hspec
        exact hspec
      exact .keep (hdue'.trans (Mesh.due_of_live hcoherent ha hvotes' hspec').symm)
    · exact .revote hkind hvotes hspec hdue'
  · push Not at hlive
    have hdue' := Mesh.due_of_idle hlive
    by_cases hold : ∃ a ∈ m.active, a.revotes id = true
    · -- the plan in the slot is finished
      obtain ⟨a, ha, hvotes⟩ := hold
      obtain ⟨hgroup, hslot⟩ := Active.revotes_eq_true.mp hvotes
      obtain ⟨spec, hspec, -⟩ := Active.slot_eq_some hslot
      have hdue := Mesh.due_of_live hcoherent ha hvotes hspec
      have hbase := hbased a ha spec id hspec hslot
      refine .keep ?_
      rw [hdue', hdue]
      cases hstep with
      | @advance l1 l2 b _ _ _ _ _ rev hactive =>
        rw [hactive, mem_append, mem_cons] at ha
        rcases ha with ha | rfl | ha
        · exact absurd hvotes (hlive a (by simp [Mesh.moved, ha]))
        · exact absurd hvotes (hlive { a with idx := a.idx + 1, revision := rev }
            (by simp [Mesh.moved]))
        · exact absurd hvotes (hlive a (by simp [Mesh.moved, ha]))
      | @complete l1 l2 b spec' s c hactive hspec' hs hlast _ hcompleted =>
        rw [hactive, mem_append, mem_cons] at ha
        rcases ha with ha | rfl | ha
        · exact absurd hvotes (hlive a (by simp [Mesh.dropped, ha]))
        · rw [hspec, Option.some.injEq] at hspec'
          subst hspec' hcompleted
          have hkeep : (applyAll env a.replica s.onComplete m.content).base id =
              m.content.base id := applyAll_read_keeps baseReading
            (onComplete_keepsRole (lookup_eq_some hspec).1 (mem_of_getElem? hs))
          rwa [PlanSpec.endBase, hlast, ← hbase]
        · exact absurd hvotes (hlive a (by simp [Mesh.dropped, ha]))
      | dispatch => exact absurd hvotes (hlive a ha)
      | cancel _ _ _ hcancel =>
        cases hcancel
        simp [MeshEvent.emergency] at hcalm
      | create _ _ _ hcreate =>
        cases hcreate
        exact absurd hvotes (hlive a (by simp [Mesh.extended, ha]))
    · push Not at hold
      rw [hdue', Mesh.due_of_idle hold]
      rcases hstep.read_cases (R := baseReading) hcoherent hbased id with
        hkept | ⟨a, ha, spec, hspec, hslot, hidx, hbefore, hafter, hwhen⟩
      · exact .keep hkept
      · have hgroup : a.group ≠ .votingMembership := fun hgroup =>
          hlive a ha (Active.revotes_eq_true.mpr ⟨hgroup, hslot⟩)
        have hgroup' := ((hcoherent'.known a ha).of_spec hspec).1
        rcases hwhen with ⟨hzero, hkind, hactive⟩ | ⟨hpos, hkind⟩
        · rw [hzero] at hbefore hafter
          rw [← hactive] at hgroup hslot hspec
          exact .first hkind hgroup hslot hspec hbefore hafter
        · obtain ⟨spec', hspec', hscope, hmember, -⟩ := Active.slot_eq_some hslot
          rw [hspec, Option.some.injEq] at hspec'
          subst hspec'
          exact .later hkind (lookup_eq_some hspec).1 ⟨hscope, hmember⟩ (hgroup' ▸ hgroup) hpos hidx
            hbefore hafter

/-- Plans that are no voting plans, apart from the emergencies: diskful members
are neither made nor taken, tie-breakers are taken in the first step only, and
under the guard for it. -/
theorem registry_nonVoting : ∀ spec ∈ registry, spec.group = .nonVotingMembership →
    (∀ n ∈ List.range (spec.steps.length + 1), spec.baseAfter n ≠ some .diskful) ∧
    (∀ n ∈ List.range spec.steps.length, 0 < n → spec.baseAfter n = some .tieBreaker →
      spec.baseAfter (n + 1) = some .tieBreaker) ∧
    (spec.baseAfter 0 = some .tieBreaker →
      .guardTBSufficient ∈ spec.guards ∧ spec.endBase ≠ some .tieBreaker) := by
  decide +kernel

theorem registry_membershipGroup : ∀ spec ∈ registry,
    spec.scope = .replica ∧ spec.slot = .membershipSlot →
    spec.group = .votingMembership ∨ spec.group = .nonVotingMembership ∨
      (spec.group = .emergency ∧ spec.steps.length = 1) := by
  decide +kernel

theorem nonVoting_of_slot (hmem : spec ∈ registry)
    (hmember : spec.scope = .replica ∧ spec.slot = .membershipSlot)
    (hvoting : spec.group ≠ .votingMembership)
    (hcalm : spec.group ≠ .emergency ∨ 1 < spec.steps.length) :
    spec.group = .nonVotingMembership := by
  rcases registry_membershipGroup spec hmem hmember with h | h | ⟨h, hlen⟩
  · exact absurd h hvoting
  · exact h
  · rcases hcalm with hcalm | hcalm
    · exact absurd h hcalm
    · omega

def PlanSpec.releases (spec : PlanSpec) : Bool :=
  spec.startBase = some .tieBreaker && spec.endBase ≠ some .tieBreaker

/-- Where the code does not look ahead: a voting plan is created only if the
tie-breakers suffice for the voters it ends with, and while one is live a
tie-breaker is released only if the others suffice for the voters that one ends
with. -/
def MeshEvent.Covered (ftt : ℕ) (ev : MeshEvent) : Prop :=
  ev.kind = .created → ∀ spec ∈ ev.active.spec, ∀ id ∈ ev.active.replica,
    spec.group = .votingMembership ∨
      (spec.releases = true ∧ ∃ a ∈ ev.before.active, a.group = .votingMembership) →
    Sufficient ftt (update ev.before.due id spec.endBase)

instance (ftt : ℕ) (ev : MeshEvent) : Decidable (ev.Covered ftt) := by
  unfold MeshEvent.Covered
  infer_instance

def MeshEvent.Spared (ftt : ℕ) (ev : MeshEvent) : Prop :=
  ev.kind = .created → ∀ spec ∈ ev.active.spec, ∀ id ∈ ev.active.replica,
    .guardTBSufficient ∈ spec.guards →
    tieBreakersForDiskful ev.before.content.voters.card ftt ≤
      (ev.before.content.tieBreakers.erase id).card

section
variable {env : Env} {before : List MeshEvent} {m m' : Mesh} {ev : MeshEvent} {ftt : ℕ}

section
variable (hstep : MeshStep env before m ev m')
include hstep

theorem MeshStep.sufficient_of_settle (hcoherent : m.Coherent) (hbased : m.Based)
    (hcalm : ev.emergency = false)
    (hkind : ev.kind ≠ .created) (h : Sufficient ftt m.due) : Sufficient ftt m'.due := by
  have hshift : ∀ id, m'.due id = m.due id ∨ (m.due id ≠ some .diskful ∧
      m'.due id ≠ some .diskful ∧
      (m.due id = some .tieBreaker → m'.due id = some .tieBreaker)) := by
    intro id
    cases hstep.due_cases hcoherent hbased hcalm id with
    | keep hkeep => exact .inl hkeep
    | revote hcreated => exact absurd hcreated hkind
    | first hcreated => exact absurd hcreated hkind
    | @later spec n _ hmem hmember hgroup hpos hlt hold hnew =>
      have hnonVoting := nonVoting_of_slot hmem hmember hgroup (.inr (by omega))
      obtain ⟨hdiskful, hkept, -⟩ := registry_nonVoting spec hmem hnonVoting
      rw [hold, hnew]
      exact .inr ⟨hdiskful n (mem_range.mpr (by omega)),
        hdiskful (n + 1) (mem_range.mpr (by omega)),
        hkept n (mem_range.mpr hlt) hpos⟩
  refine h.mono (fun id => ?_) fun id htb => ?_
  · rcases hshift id with hkeep | ⟨hold, hnew, -⟩
    · rw [hkeep]
    · exact iff_of_false hnew hold
  · rcases hshift id with hkeep | ⟨-, -, hkept⟩
    · rwa [hkeep]
    · exact hkept htb

theorem MeshStep.created_mem (hkind : ev.kind = .created) : ev.active ∈ m'.active := by
  obtain ⟨spec, x, -, -, -, hcreate⟩ := hstep.created hkind
  cases hcreate
  simp [Mesh.extended]

theorem MeshStep.due_of_other (hcoherent : m.Coherent)
    (hbased : m.Based) (hcalm : ev.emergency = false) (hkind : ev.kind = .created)
    (hslot : ev.active.slot ≠ some (.membershipSlot, id)) : m'.due id = m.due id := by
  cases hstep.due_cases hcoherent hbased hcalm id with
  | keep hkeep => exact hkeep
  | revote _ hvotes => exact absurd (Active.revotes_eq_true.mp hvotes).2 hslot
  | first _ _ hslot' => exact absurd hslot' hslot
  | later hadvanced =>
    rw [hkind] at hadvanced
    cases hadvanced

theorem MeshStep.sufficient_of_release (hkind : ev.kind = .created) (hcovered : ev.Covered ftt)
    (hspared : ev.Spared ftt) (hspec : ev.active.spec = some spec) (hid : ev.active.replica = some id)
    (hguard : .guardTBSufficient ∈ spec.guards) (hreleases : spec.releases = true)
    (hdue : m.due id = some .tieBreaker) :
    Sufficient ftt (update m.due id spec.endBase) ∨ Sufficient ftt (update m.due id none) := by
  have hcovered' := hcovered hkind spec hspec id hid
  have hspared' := hspared hkind spec hspec id hid hguard
  rw [hstep.after.1] at hcovered' hspared'
  by_cases hvoting : ∃ a ∈ m.active, a.group = .votingMembership
  · exact .inl (hcovered' (.inr ⟨hreleases, hvoting⟩))
  · right
    push Not at hvoting
    rw [Mesh.due_of_none hvoting] at hdue ⊢
    have hvoters : dueVoters (update m.content.base id none) = m.content.voters := by
      ext id'
      rw [mem_voters_base, dueVoters, mem_idsWhere, decide_eq_true_eq]
      by_cases heq : id' = id
      · subst heq
        simp [hdue]
      · rw [update_of_ne heq]
    have htb : dueTieBreakers (update m.content.base id none) = m.content.tieBreakers.erase id := by
      ext id'
      rw [Finset.mem_erase, mem_tieBreakers, dueTieBreakers, mem_idsWhere, decide_eq_true_eq]
      by_cases heq : id' = id
      · subst heq
        simp
      · rw [update_of_ne heq]
        simp [heq]
    rw [Sufficient, hvoters, htb]
    exact hspared'

theorem MeshStep.sufficient_of_create (hcoherent : m.Coherent) (hbased : m.Based)
    (hcalm : ev.emergency = false)
    (hkind : ev.kind = .created) (hcovered : ev.Covered ftt) (hspared : ev.Spared ftt)
    (h : Sufficient ftt m.due) : Sufficient ftt m'.due := by
  by_cases hmember : ∃ id, ev.active.slot = some (.membershipSlot, id)
  · obtain ⟨id, hslot⟩ := hmember
    obtain ⟨spec, hspec, hscope, hmember, hid⟩ := Active.slot_eq_some hslot
    have hmem := (lookup_eq_some hspec).1
    have hlive := hstep.created_mem hkind
    have hcoherent' := hstep.coherent hcoherent
    have hgroup := ((hcoherent'.known _ hlive).of_spec hspec).1
    have hother : ∀ id', id' ≠ id → m'.due id' = m.due id' := by
      intro id' hne
      refine hstep.due_of_other hcoherent hbased hcalm hkind fun hslot' => ?_
      rw [hslot, Option.some.injEq, Prod.mk.injEq] at hslot'
      exact hne hslot'.2.symm
    -- whatever the subject will be, all others stay
    have hmono : ∀ d, Sufficient ftt (update m.due id d) →
        (m'.due id = some .diskful ↔ d = some .diskful) →
        (d = some .tieBreaker → m'.due id = some .tieBreaker) → Sufficient ftt m'.due := by
      intro d hd hvoter htb
      refine hd.mono (fun id' => ?_) fun id' => ?_
      · by_cases heq : id' = id
        · subst heq
          rwa [update_self]
        · rw [update_of_ne heq, hother id' heq]
      · by_cases heq : id' = id
        · subst heq
          rwa [update_self]
        · rw [update_of_ne heq, hother id' heq]
          exact fun htb' => htb'
    by_cases hvoting : spec.group = .votingMembership
    · have hdue : m'.due id = spec.endBase := Mesh.due_of_live hcoherent' hlive
        (Active.revotes_eq_true.mpr ⟨hgroup.trans hvoting, hslot⟩) hspec
      have hend := hcovered hkind spec hspec id hid (.inl hvoting)
      rw [hstep.after.1] at hend
      exact hmono _ hend (by rw [hdue]) (by rw [hdue]; exact fun htb => htb)
    · cases hstep.due_cases hcoherent hbased hcalm id with
      | keep hkeep =>
        refine hmono (m.due id) ?_ (by rw [hkeep]) (by rw [hkeep]; exact fun htb => htb)
        rwa [update_eq_self]
      | revote _ hvotes =>
        exact absurd (hgroup.symm.trans (Active.revotes_eq_true.mp hvotes).1) hvoting
      | later hadvanced =>
        rw [hkind] at hadvanced
        cases hadvanced
      | @first spec' _ _ _ hspec' hold hnew =>
        rw [hspec, Option.some.injEq] at hspec'
        subst hspec'
        have hemergency : spec.group ≠ .emergency := by
          intro hem
          simp [MeshEvent.emergency, hkind, hgroup.trans hem] at hcalm
        obtain ⟨hdiskful, -, hguarded⟩ := registry_nonVoting spec hmem
          (nonVoting_of_slot hmem ⟨hscope, hmember⟩ hvoting (.inl hemergency))
        have hlen := registry_steps_ne_nil spec hmem
        have hone : m'.due id ≠ some .diskful := by
          rw [hnew]
          exact hdiskful 1 (mem_range.mpr (by omega))
        by_cases htb : spec.baseAfter 0 = some .tieBreaker
        · obtain ⟨hguard, hend⟩ := hguarded htb
          have hreleases : spec.releases = true := by
            have hstart : spec.startBase = some .tieBreaker := htb
            simp [PlanSpec.releases, hstart, hend]
          have hdone : spec.endBase ≠ some .diskful :=
            hdiskful spec.steps.length (mem_range.mpr (by omega))
          rcases hstep.sufficient_of_release hkind hcovered hspared hspec hid hguard hreleases
            (hold.trans htb) with hs | hs
          · exact hmono _ hs (iff_of_false hone hdone) fun htb' => absurd htb' hend
          · exact hmono _ hs (iff_of_false hone (by simp)) (by simp)
        · have hzero : m.due id ≠ some .diskful := by
            rw [hold]
            exact hdiskful 0 (mem_range.mpr (by omega))
          refine hmono (m.due id) ?_ (iff_of_false hone hzero) fun htb' => ?_
          · rwa [update_eq_self]
          · exact absurd (hold.symm.trans htb') htb
  · push Not at hmember
    have hsame : m'.due = m.due := by
      funext id
      exact hstep.due_of_other hcoherent hbased hcalm hkind (hmember id)
    rwa [hsame]

theorem MeshStep.sufficient (hcoherent : m.Coherent)
    (hbased : m.Based) (hcalm : ev.emergency = false) (hcovered : ev.Covered ftt)
    (hspared : ev.Spared ftt) (h : Sufficient ftt m.due) : Sufficient ftt m'.due := by
  by_cases hkind : ev.kind = .created
  · exact hstep.sufficient_of_create hcoherent hbased hcalm hkind hcovered hspared h
  · exact hstep.sufficient_of_settle hcoherent hbased hcalm hkind h

end

end

def operationalTieBreakers (g : GlobalContext) : Finset ReplicaID :=
  idsWhere fun id => (g.member id).any fun m =>
    m.type = .tieBreaker && (memberTieBreakerDefect g id m).isNone

theorem operationalTieBreakerCount_eq (g : GlobalContext) (id : ReplicaID) :
    (operationalTieBreakerCount g id).1 = ((operationalTieBreakers g).erase id).card := by
  have herase : (operationalTieBreakers g).erase id = idsWhere fun id' => id' ≠ id &&
      (g.member id').any fun m =>
        m.type = .tieBreaker && (memberTieBreakerDefect g id' m).isNone := by
    ext id'
    simp [operationalTieBreakers]
  rw [herase, idsWhere_card, operationalTieBreakerCount, List.count, countP_filterMap]
  dsimp only
  congr 1
  funext id'
  cases hm : g.member id' with
  | none => simp
  | some m =>
    by_cases htype : m.type = .tieBreaker
    · by_cases heq : id' = id
      · simp [htype, heq]
      · cases hdefect : memberTieBreakerDefect g id' m <;> simp [htype, heq, hdefect]
    · simp [htype]

theorem operational_silent {g g' : GlobalContext} (h : g'.silent = g.silent) :
    operationalTieBreakers g' = operationalTieBreakers g := by
  have hoperational := congrArg operationalTieBreakers h
  exact hoperational

theorem operational_subset (g : GlobalContext) :
    operationalTieBreakers g ⊆ g.content.tieBreakers := by
  intro id hid
  rw [mem_tieBreakers]
  simp only [operationalTieBreakers, mem_idsWhere, Option.any_eq_true, Bool.and_eq_true,
    decide_eq_true_eq] at hid
  obtain ⟨m, hm, htype, -⟩ := hid
  simp [Content.base, GlobalContext.content, hm, seatOf, htype, baseType]

/-- A creation under the guard leaves enough operational tie-breakers for the
voters of that moment. -/
theorem Vouched.operational {ev : Event GlobalContext}
    (h : Vouched (startContext o st).fixed ev) (hkind : ev.kind = .created)
    (hspec : (activeOf ev.transition).spec = some spec) (hid : ev.transition.replica = some id)
    (hguard : .guardTBSufficient ∈ spec.guards) :
    tieBreakersForDiskful ev.before.global.content.voters.card o.configuration.failuresToTolerate ≤
      ((operationalTieBreakers ev.before.global).erase id).card := by
  obtain ⟨e, spec', rctx, g, hfrom, hfixed⟩ := h.created hkind
  have hsame : some spec = some spec' := hspec.symm.trans hfrom.plan
  cases hsame
  obtain ⟨result, hguards, hpass⟩ := hfrom.guards
  obtain ⟨g1, g2, result1, hsilent, hrun, hpass1⟩ := evaluateGuards_pass hguards hpass _ hguard
  have hagree := Agree.of_silent hsilent
  rw [hfrom.subject id hid] at hrun
  have hbefore : ev.before.global = g := by rw [hfrom.before]; rfl
  have hcontent : g.content = g1.content :=
    (Agree.of_silent (evaluateGuards_silent hguards)).content.trans hagree.content.symm
  have hconfig : g1.configuration = o.configuration :=
    congrArg Fixed.configuration (hagree.fixed.trans hfixed)
  have hself : (g1.ctx (.replica id)).id = id :=
    (hagree.anchored hfrom.orderly.linked.anchored).ids id
  have hchecked : (guardTBSufficient g1 (g1.ctx (.replica id))).blocked = false := by
    cases hrun
    exact hpass1
  simp only [guardTBSufficient, blockIf_blocked, decide_eq_false_iff_not, not_lt,
    operationalTieBreakerCount_eq, hself, hconfig] at hchecked
  rw [hbefore, hcontent, voters_content,
    operational_silent ((evaluateGuards_silent hguards).trans hsilent.symm)]
  exact hchecked

theorem Vouched.spared {ev : Event GlobalContext}
    (h : Vouched (startContext o st).fixed ev) :
    (meshEvent ev).Spared o.configuration.failuresToTolerate := by
  intro hkind spec hspec id hid hguard
  refine (h.operational hkind hspec hid hguard).trans (Finset.card_le_card ?_)
  exact Finset.erase_subset_erase id (operational_subset _)

/-- Every plan takes a tie-breaker away in its first step, if at all, and under
the guard, unless it is an emergency. -/
theorem registry_releases : ∀ spec ∈ registry,
    (∀ n ∈ List.range spec.steps.length, 0 < n → spec.baseAfter n = some .tieBreaker →
      spec.baseAfter (n + 1) = some .tieBreaker) ∧
    (spec.baseAfter 0 = some .tieBreaker → spec.group ≠ .emergency →
      .guardTBSufficient ∈ spec.guards) := by
  decide +kernel

/-- A tie-breaker is lost to the creation of a guarded plan, which takes no
other. -/
structure MeshEvent.Released (ev : MeshEvent) (id : ReplicaID) (spec : PlanSpec) : Prop where
  kind : ev.kind = .created
  plan : ev.active.spec = some spec
  subject : ev.active.replica = some id
  guard : .guardTBSufficient ∈ spec.guards
  others : ev.before.content.tieBreakers.erase id ⊆ ev.after.content.tieBreakers

theorem MeshStep.released {env : Env} {before : List MeshEvent} {m' : Mesh} {ev : MeshEvent}
    (hstep : MeshStep env before m ev m') (hcoherent : m.Coherent) (hbased : m.Based)
    (hcalm : ev.emergency = false) (hid : id ∈ ev.before.content.tieBreakers)
    (hlost : id ∉ ev.after.content.tieBreakers) : ∃ spec, ev.Released id spec := by
  have hcoherent' := hstep.coherent hcoherent
  have hchange : ∀ id, id ∈ ev.before.content.tieBreakers → id ∉ ev.after.content.tieBreakers →
      ∃ spec, ev.kind = .created ∧ ev.active.spec = some spec ∧
        ev.active.slot = some (.membershipSlot, id) ∧ .guardTBSufficient ∈ spec.guards := by
    intro id hid hlost
    rw [hstep.after.1, mem_tieBreakers] at hid
    rw [hstep.after.2, mem_tieBreakers] at hlost
    rcases hstep.read_cases (R := baseReading) hcoherent hbased id with
      hkept | ⟨a, ha, spec, hspec, hslot, hidx, hbefore, hafter, hwhen⟩
    · have hbase : m'.content.base id = m.content.base id := hkept
      exact absurd (hbase.trans hid) hlost
    · have hbase : m.content.base id = spec.baseAfter a.idx := hbefore
      have hbase' : m'.content.base id = spec.baseAfter (a.idx + 1) := hafter
      rw [hbase] at hid
      rw [hbase'] at hlost
      obtain ⟨hlater, hfirst⟩ := registry_releases spec (lookup_eq_some hspec).1
      rcases hwhen with ⟨hzero, hkind, hactive⟩ | ⟨hpos, -⟩
      · rw [hzero] at hid
        have hgroup := ((hcoherent'.known a ha).of_spec hspec).1
        have hemergency : spec.group ≠ .emergency := by
          intro hem
          simp [MeshEvent.emergency, hkind, hactive, hgroup.trans hem] at hcalm
        rw [← hactive] at hspec hslot
        exact ⟨spec, hkind, hspec, hslot, hfirst hid hemergency⟩
      · exact absurd (hlater a.idx (mem_range.mpr hidx) hpos hid) hlost
  obtain ⟨spec, hkind, hspec, hslot, hguard⟩ := hchange id hid hlost
  obtain ⟨-, -, -, -, hsubject⟩ := Active.slot_eq_some hslot
  refine ⟨spec, hkind, hspec, hsubject, hguard, fun id' hid' => ?_⟩
  by_contra hlost'
  obtain ⟨-, -, -, hslot', -⟩ := hchange id' (Finset.mem_of_mem_erase hid') hlost'
  rw [hslot, Option.some.injEq, Prod.mk.injEq] at hslot'
  exact Finset.ne_of_mem_erase hid' hslot'.2.symm

/-- Tie-breakers are released under the guard in any case, and stay sufficient in case `C`. -/
theorem Hist.sufficient {Q : Content → Env → Env → Prop} {m0 : Mesh} {τ0 τ : Trail} {C : Prop}
    (h : Hist Q (fun _ ev _ => ev.emergency = false ∧ (C → ev.Covered ftt) ∧ ev.Spared ftt)
      m0 τ0 m τ) (h0 : m0.Regular) (hdue : C → Sufficient ftt m0.due) :
    m.Regular ∧ (C → Sufficient ftt m.due) ∧ ∀ ev ∈ τ.events, ev ∈ τ0.events ∨
      ((C → Sufficient ftt ev.after.due) ∧ ∀ id ∈ ev.before.content.tieBreakers,
        id ∉ ev.after.content.tieBreakers → ∃ spec, ev.Released id spec) := by
  induction h with
  | start => exact ⟨h0, hdue, fun ev hev => .inl hev⟩
  | observe _ _ _ ih => exact ⟨ih.1.refresh, ih.2.1, ih.2.2⟩
  | step _ hstep hallowed ih =>
    obtain ⟨hregular, hold, hevents⟩ := ih
    obtain ⟨hcalm, hcovered, hspared⟩ := hallowed
    have hnew (hC : C) := hstep.sufficient hregular.coherent hregular.based hcalm (hcovered hC)
      hspared (hold hC)
    refine ⟨hstep.regular hregular, hnew, fun ev hev => ?_⟩
    rcases mem_cons.mp hev with rfl | hev
    · refine .inr ⟨hstep.after.2 ▸ hnew, fun id hid hlost => ?_⟩
      exact hstep.released hregular.coherent hregular.based hcalm hid hlost
    · exact hevents ev hev

theorem Status.Formed.due (h : st.Formed) : st.mesh.due = st.content.base := by
  refine Mesh.due_of_none fun a ha hgroup => ?_
  obtain ⟨t, ht, rfl⟩ := mem_map.mp ha
  have hformation : t.group = .formation := by
    rcases h with h | ⟨t', h, -, hformation, -⟩
    · rw [h] at ht
      cases ht
    · rw [h, mem_singleton] at ht
      rw [ht, hformation]
  have hvoting : t.group = .votingMembership := hgroup
  rw [hformation] at hvoting
  cases hvoting

section
variable {st : Status} {obs : List Observation} {results : List CycleResult} {ftt : ℕ}
  (hstart : st.Formed) (hftt : ∀ o ∈ obs, o.configuration.failuresToTolerate = ftt)
  (hrun : run st obs = some results)
  (hcalm : ∀ r ∈ results, ∀ ev ∈ r.log, (meshEvent ev).emergency = false)
include hstart hftt hrun hcalm

theorem run_sufficient {C : Prop} (hcovered : C → ∀ r ∈ results, ∀ ev ∈ r.log,
      (meshEvent ev).Covered ftt)
    (htb : C → tieBreakersForDiskful st.content.voters.card ftt ≤ st.content.tieBreakers.card) :
    (C → Sufficient ftt (lastStatus st results).mesh.due) ∧ ∀ ev ∈ allEvents results,
      (C → Sufficient ftt ev.after.due) ∧ ∀ id ∈ ev.before.content.tieBreakers,
        id ∉ ev.after.content.tieBreakers → ∃ spec, ev.Released id spec := by
  have hst := hstart.orderly
  have hallowed : RunAllowed
      (fun _ ev _ => ev.emergency = false ∧ (C → ev.Covered ftt) ∧ ev.Spared ftt) obs results := by
    refine runAllowed_of_forall fun r hr ev hev =>
      ⟨hcalm r hr ev hev, fun hC => hcovered hC r hr ev hev, ?_⟩
    obtain ⟨o, ho, st', hvouched⟩ := (run_orderly hst hrun).2 r hr ev hev
    rw [← hftt o ho]
    exact hvouched.spared
  have hdue (hC : C) : Sufficient ftt st.mesh.due := by
    rw [hstart.due]
    exact sufficient_base.mpr (htb hC)
  obtain ⟨-, m, τ, hhist, htrace, hmesh⟩ := run_history hst.toWellFormed hrun hallowed
    (runObserved_true .none st obs results)
  obtain ⟨-, hlast, hevents⟩ := hhist.sufficient hst.regular hdue
  constructor
  · rwa [hmesh]
  · intro ev hev
    rw [← htrace.events] at hev
    exact (hevents ev hev).resolve_left (by simp [Trail.start])

/-- In a run without emergencies, whenever a tie-breaker is released, however many others are,
enough operational ones stay for the voters of that moment. If the creations are covered too, every
state without a live voting plan has the tie-breakers its voters need. -/
theorem tie_breakers_sufficient :
    (tieBreakersForDiskful st.content.voters.card ftt ≤ st.content.tieBreakers.card →
      (∀ r ∈ results, ∀ ev ∈ r.log, (meshEvent ev).Covered ftt) →
      (∀ p ∈ published st results, (∀ t ∈ p.transitions, t.group ≠ .votingMembership) →
        tieBreakersForDiskful p.content.voters.card ftt ≤ p.content.tieBreakers.card) ∧
      ∀ r ∈ results, ∀ ev ∈ r.log, (∀ t ∈ ev.after.active, t.group ≠ .votingMembership) →
        tieBreakersForDiskful ev.after.global.content.voters.card ftt ≤
          ev.after.global.content.tieBreakers.card) ∧
    ∀ r ∈ results, ∀ ev ∈ r.log, ∀ id ∈ ev.before.global.content.tieBreakers,
      id ∉ ev.after.global.content.tieBreakers →
      tieBreakersForDiskful ev.before.global.content.voters.card ftt ≤
        ((operationalTieBreakers ev.before.global).erase id).card ∧
      (operationalTieBreakers ev.before.global).erase id ⊆
        ev.after.global.content.tieBreakers := by
  have hidle : ∀ m : Mesh, Sufficient ftt m.due →
      (∀ a ∈ m.active, a.group ≠ .votingMembership) →
      tieBreakersForDiskful m.content.voters.card ftt ≤ m.content.tieBreakers.card := by
    intro m hdue hnone
    rw [Mesh.due_of_none hnone] at hdue
    exact sufficient_base.mp hdue
  have hevent {r : CycleResult} (hr : r ∈ results) {ev : Event GlobalContext} (hev : ev ∈ r.log) :
      meshEvent ev ∈ allEvents results := mem_map_of_mem (mem_flatMap.mpr ⟨r, hr, hev⟩)
  refine ⟨fun htb hcovered => ⟨fun p hp hnone => ?_, fun r hr ev hev hnone => ?_⟩,
    fun r hr ev hev id hid hlost => ?_⟩
  · obtain ⟨obs', results', hobs, hresults, hrun', rfl⟩ := exists_run_of_published hrun hp
    obtain ⟨hlast, -⟩ := run_sufficient hstart (fun o ho => hftt o (hobs.subset ho)) hrun'
      (fun r hr => hcalm r (hresults.subset hr))
      (fun _ : True => fun r hr => hcovered r (hresults.subset hr)) fun _ => htb
    refine hidle _ (hlast trivial) fun a ha => ?_
    obtain ⟨t, ht, rfl⟩ := mem_map.mp ha
    exact hnone t ht
  · obtain ⟨hdue, -⟩ := (run_sufficient hstart hftt hrun hcalm (fun _ : True => hcovered)
      fun _ => htb).2 _ (hevent hr hev)
    refine hidle _ (hdue trivial) fun a ha => ?_
    obtain ⟨t, ht, rfl⟩ := mem_map.mp ha
    exact hnone t ht
  · obtain ⟨-, hreleased⟩ := (run_sufficient hstart hftt hrun hcalm False.elim False.elim).2 _
      (hevent hr hev)
    obtain ⟨spec, hrel⟩ := hreleased id hid hlost
    obtain ⟨o, ho, st', hvouched⟩ := (run_orderly hstart.orderly hrun).2 r hr ev hev
    refine ⟨?_, (Finset.erase_subset_erase id (operational_subset _)).trans hrel.others⟩
    rw [← hftt o ho]
    exact hvouched.operational hrel.kind hrel.plan hrel.subject hrel.guard

end

def threeDiskfulAnd (ids : List ReplicaID) : Status :=
  ⟨[0, 1, 2].map (plainMember · .diskful) ++ ids.map (plainMember · .tieBreaker),
    2, 1, false, [], 0, 5, 0, []⟩

def bothLeave (ids : List ReplicaID) : List Observation :=
  [8, 7, 5].map fun revision =>
    { plainObservation ([0, 1, 2].map (plainReplica · .diskful revision) ++
        ids.map (plainReplica · .tieBreaker revision))
        [plainRequest 2 .leave, plainRequest 3 .leave] with
      configuration := ⟨"pool", .ignored, 1, 0, .any⟩ }

/-- Three voters need no tie-breaker, so it goes; then two voters are left
without one. -/
theorem tie_breaker_released_early :
    (threeDiskfulAnd [3]).transitions = [] ∧
    tieBreakersForDiskful (threeDiskfulAnd [3]).content.voters.card 1 ≤
      (threeDiskfulAnd [3]).content.tieBreakers.card ∧
    (∀ o ∈ bothLeave [3], o.configuration.failuresToTolerate = 1) ∧
    ∃ results, run (threeDiskfulAnd [3]) (bothLeave [3]) = some results ∧
      (∀ r ∈ results, ∀ ev ∈ r.log, (meshEvent ev).emergency = false) ∧
      (lastStatus (threeDiskfulAnd [3]) results).transitions = [] ∧
      (lastStatus (threeDiskfulAnd [3]) results).content.voters = {0, 1} ∧
      (lastStatus (threeDiskfulAnd [3]) results).content.tieBreakers = ∅ ∧
      ¬tieBreakersForDiskful (lastStatus (threeDiskfulAnd [3]) results).content.voters.card 1 ≤
        (lastStatus (threeDiskfulAnd [3]) results).content.tieBreakers.card := by
  refine ⟨rfl, by decide +kernel, by decide, ?_⟩
  have hrun : (run (threeDiskfulAnd [3]) (bothLeave [3])).any (fun results => decide
      ((∀ r ∈ results, ∀ ev ∈ r.log, (meshEvent ev).emergency = false) ∧
        (lastStatus (threeDiskfulAnd [3]) results).transitions = [] ∧
        (lastStatus (threeDiskfulAnd [3]) results).content.voters = {0, 1} ∧
        (lastStatus (threeDiskfulAnd [3]) results).content.tieBreakers = ∅)) = true := by
    decide +kernel
  obtain ⟨results, hresults, hcalm, hnone, hvoters, htb⟩ := exists_of_decide hrun
  refine ⟨results, hresults, hcalm, hnone, hvoters, htb, ?_⟩
  rw [hvoters, htb]
  decide

/-- With a second tie-breaker the creations are covered. -/
theorem tie_breakers_sufficient_both :
    ∃ results, run (threeDiskfulAnd [3, 4]) (bothLeave [3, 4]) = some results ∧
      (lastStatus (threeDiskfulAnd [3, 4]) results).transitions = [] ∧
      (lastStatus (threeDiskfulAnd [3, 4]) results).content.tieBreakers = {4} ∧
      ∀ p ∈ published (threeDiskfulAnd [3, 4]) results,
        (∀ t ∈ p.transitions, t.group ≠ .votingMembership) →
        tieBreakersForDiskful p.content.voters.card 1 ≤ p.content.tieBreakers.card := by
  have hrun : (run (threeDiskfulAnd [3, 4]) (bothLeave [3, 4])).any (fun results => decide
      ((∀ r ∈ results, ∀ ev ∈ r.log, (meshEvent ev).emergency = false) ∧
        (∀ r ∈ results, ∀ ev ∈ r.log, (meshEvent ev).Covered 1) ∧
        (lastStatus (threeDiskfulAnd [3, 4]) results).transitions = [] ∧
        (lastStatus (threeDiskfulAnd [3, 4]) results).content.tieBreakers = {4})) = true := by
    decide +kernel
  obtain ⟨results, hresults, hcalm, hcovered, hnone, htb⟩ := exists_of_decide hrun
  exact ⟨results, hresults, hnone, htb, ((tie_breakers_sufficient (.inl rfl) (by decide) hresults
    hcalm).1 (by decide +kernel) hcovered).1⟩

end ReplicatedVolume.Datamesh
