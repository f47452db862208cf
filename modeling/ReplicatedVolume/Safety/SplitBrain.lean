import ReplicatedVolume.Safety.Quorum

/-!
# No split brain without emergencies

Every replica may lag behind by any number of published configurations. A step
that changes the voters is confirmed by every member before the next one is
applied, so that live replicas hold two neighbouring voter sets at most, each
with its majority.
-/

namespace ReplicatedVolume.Datamesh
open Dmte Rollout Majority List Option

variable {c : Content} {id : ReplicaID} {a : Active} {s : StepSpec} {l1 l2 : List Active} {rev : ℕ}
  {m m' : Mesh} {τ : Trail} {s' : StepSpec} {x : Option ReplicaID}

def Mesh.Live (m : Mesh) (id : ReplicaID) : Prop :=
  (m.content.seats id).isSome = true ∨
    ∃ a ∈ m.active, a.group = .votingMembership ∧ a.replica = some id

def Active.turning (a : Active) : Bool := a.spec.any (·.changesAt a.idx)

/-- The voters of the current content have been rolled out, or the plan that
changed them last still waits for confirmations. -/
def RolledOut (m : Mesh) (τ : Trail) : Prop :=
  ∃ r, r ≤ m.revision ∧ Rolling τ.history m.Live Content.voters Adjacent m.content.voters r ∧
    (τ.history.Reached m.Live r ∨ ∃ a ∈ m.active, a.turning = true ∧ a.revision = r)

section
variable {m m' : Mesh} {τ : Trail} {ev : MeshEvent}

/-- A step that keeps the voters. Plans that were waiting for confirmations
still wait, or have them from every replica that stays live. -/
theorem RolledOut.keep (h : RolledOut m τ) (hafter : ev.after = m')
    (hvoters : m'.content.voters = m.content.voters) (hrev : m.revision ≤ m'.revision)
    (hlive : ∀ id, m'.Live id → m.Live id ∨ m'.revision ≤ joinRevision [ev] id)
    (hturning : ∀ a ∈ m.active, a.turning = true → a ∈ m'.active ∨
      ∀ id, m'.Live id → m.Live id → a.revision ≤ τ.history.floor id) :
    RolledOut m' (τ.follow ev) := by
  obtain ⟨r, hr, hroll, hstate⟩ := h
  have hhist : (τ.follow ev).history =
      (τ.history.publish m'.revision m'.content).raise (joinRevision [ev]) := by
    rw [Trail.history_follow, hafter]
  -- replicas that join do so at the current revision
  have hreached : (∀ id, m'.Live id → m.Live id → r ≤ τ.history.floor id) →
      (τ.follow ev).history.Reached m'.Live r := by
    intro hfloor id hid
    rw [hhist]
    rcases hlive id hid with hold | hnew
    · exact (hfloor id hid hold).trans (le_max_left _ _)
    · exact (hr.trans hrev).trans (hnew.trans (le_max_right _ _))
  refine ⟨r, hr.trans hrev, ?_, ?_⟩
  · rw [hhist, hvoters]
    apply (hroll.keep hvoters (hr.trans hrev)).mono
    intro id hid
    rcases hlive id hid with hold | hnew
    · exact .inl hold
    · exact .inr ((hr.trans hrev).trans (hnew.trans (le_max_right _ _)))
  · rcases hstate with hall | ⟨a, ha, hturn, rfl⟩
    · exact .inl (hreached fun id _ hold => hall id hold)
    · rcases hturning a ha hturn with ha' | hconfirmed
      · exact .inr ⟨a, ha', hturn, rfl⟩
      · exact .inl (hreached hconfirmed)

theorem RolledOut.change (h : RolledOut m τ) (hafter : ev.after = m')
    (hadj : Adjacent m.content.voters m'.content.voters)
    (hquiet : ∀ a ∈ m.active, a.turning = false) (hnew : ∀ r c, τ.reached r c → r < m'.revision)
    (hlive : ∀ id, m'.Live id → m.Live id ∨ m'.revision ≤ joinRevision [ev] id)
    (hturning : ∃ a ∈ m'.active, a.turning = true ∧ a.revision = m'.revision) :
    RolledOut m' (τ.follow ev) := by
  obtain ⟨r, hr, hroll, hstate⟩ := h
  have hall : τ.history.Reached m.Live r := by
    rcases hstate with hall | ⟨a, ha, hturn, -⟩
    · exact hall
    · rw [hquiet a ha] at hturn
      cases hturn
  refine ⟨m'.revision, le_rfl, ?_, .inr hturning⟩
  rw [Trail.history_follow, hafter]
  apply (hroll.change hall hadj hnew).mono
  intro id hid
  rcases hlive id hid with hold | hjoin
  · exact .inl hold
  · exact .inr (hjoin.trans (le_max_right _ _))

end

theorem isSome_iff_role : (c.seats id).isSome = true ↔ c.role id ≠ .absent := by
  rw [Content.role]
  cases c.seats id with
  | none => simp
  | some s => by_cases hv : s.type.isVoter = true <;> simp [memberRole, hv]

theorem registry_late : ∀ spec ∈ registry, ∀ i < spec.steps.length, 0 < i →
    spec.roleAfter i = .absent → spec.roleAfter (i + 1) = .absent := by
  decide +kernel

theorem joinRevision_created (spec : PlanSpec) (id : ReplicaID) (rev : ℕ) (m m' : Mesh)
    (h : spec.transitionType = .addReplica) :
    joinRevision [⟨.created, spec.start (some id) rev, m, m'⟩] id = m'.revision := by
  simp [joinRevision, MeshEvent.joins, PlanSpec.start, h]

section
variable {env : Env} {m : Mesh} {spec : PlanSpec}

theorem member_of_advance (hplaced : m.Placed) (ha : a ∈ m.active)
    (hspec : a.spec = some spec) (hstep : spec.steps[a.idx]? = some s)
    (hnext : spec.steps[a.idx + 1]? = some s')
    (h : ((applyAll env a.replica s'.apply (applyAll env a.replica s.onComplete m.content)).seats
      id).isSome = true) : (m.content.seats id).isSome = true := by
  have hmem := (lookup_eq_some hspec).1
  have hdone : (applyAll env a.replica s.onComplete m.content).role id = m.content.role id :=
    applyAll_role_keeps (onComplete_keepsRole hmem (mem_of_getElem? hstep))
  rw [isSome_iff_role] at h ⊢
  by_cases hslot : a.slot = some (.membershipSlot, id)
  · obtain ⟨-, -, -, -, hid⟩ := Active.slot_eq_some hslot
    rw [hid, applyAll_role_self, ← hid, hdone, hplaced a ha spec id hspec hslot,
      ← roleAfter_succ hnext] at h
    rw [hplaced a ha spec id hspec hslot]
    intro habsent
    exact h (registry_late spec hmem _ (List.getElem?_eq_some_iff.mp hnext).1 (by omega) habsent)
  · rw [role_frame hspec (mem_of_getElem? hnext) hslot, hdone] at h
    exact h

theorem live_moved (hplaced : m.Placed) (hactive : m.active = l1 ++ a :: l2)
    (hspec : a.spec = some spec) (hstep : spec.steps[a.idx]? = some s)
    (hnext : spec.steps[a.idx + 1]? = some s')
    (h : (m.moved l1 a l2 (applyAll env a.replica s'.apply (applyAll env a.replica s.onComplete
      m.content)) rev).Live id) : m.Live id := by
  rcases h with hseat | ⟨b, hb, hgroup, hid⟩
  · exact .inl (member_of_advance hplaced (mem_of_split hactive) hspec hstep hnext hseat)
  · simp only [Mesh.moved, mem_append, mem_cons] at hb
    rcases hb with hb | rfl | hb
    · exact .inr ⟨b, by simp [hactive, hb], hgroup, hid⟩
    · exact .inr ⟨a, mem_of_split hactive, hgroup, hid⟩
    · exact .inr ⟨b, by simp [hactive, hb], hgroup, hid⟩

theorem live_of_subset (h : m'.Live id) (hrole : m'.content.role id = m.content.role id)
    (hsub : ∀ a ∈ m'.active, a ∈ m.active) : m.Live id := by
  rcases h with hseat | ⟨b, hb, hrest⟩
  · rw [isSome_iff_role, hrole, ← isSome_iff_role] at hseat
    exact .inl hseat
  · exact .inr ⟨b, hsub b hb, hrest⟩

theorem live_extended (hspec : spec ∈ registry)
    (hchosen : Chosen env m spec x) (hscope : spec.scope = .replica ↔ x.isSome = true)
    (hstep : spec.steps[0]? = some s)
    (h : (m.extended (spec.start x rev) (applyAll env x s.apply m.content)).Live id) :
    m.Live id ∨ rev ≤ joinRevision [⟨.created, spec.start x rev, m,
      m.extended (spec.start x rev) (applyAll env x s.apply m.content)⟩] id := by
  -- the subject of a membership plan joins with it or is a member
  have hsubject : x = some id → spec.slot = .membershipSlot → m.Live id ∨
      rev ≤ joinRevision [⟨.created, spec.start x rev, m,
        m.extended (spec.start x rev) (applyAll env x s.apply m.content)⟩] id := by
    rintro rfl hslot
    have hreplica : spec.scope = .replica := hscope.mpr rfl
    by_cases hadd : spec.transitionType = .addReplica
    · right
      rw [joinRevision_created spec id rev m _ hadd]
      rfl
    · left
      rcases registry_membership spec hspec ⟨hreplica, hslot⟩ with htype | htype | htype | htype
      · exact absurd htype hadd
      all_goals
        simp only [Chosen, htype] at hchosen
        obtain ⟨id', seat, hid, hseat, -⟩ := hchosen
        cases hid
        exact .inl (by rw [hseat]; rfl)
  rcases h with hseat | ⟨b, hb, hgroup, hid⟩
  · by_cases hplan : x = some id ∧ spec.slot = .membershipSlot
    · exact hsubject hplan.1 hplan.2
    · have hframe : (applyAll env x s.apply m.content).role id = m.content.role id := by
        refine role_frame (a := spec.start x rev) (lookup_of_mem spec hspec)
          (mem_of_getElem? hstep) ?_
        intro hslot
        obtain ⟨spec', hspec', -, hs, hid⟩ := Active.slot_eq_some hslot
        rw [show (spec.start x rev).spec = some spec from lookup_of_mem spec hspec,
          some.injEq] at hspec'
        exact hplan ⟨hid, hspec' ▸ hs⟩
      have hseat' : ((applyAll env x s.apply m.content).seats id).isSome = true := hseat
      rw [isSome_iff_role, hframe, ← isSome_iff_role] at hseat'
      exact .inl (.inl hseat')
  · rcases mem_append.mp hb with hb | hb
    · exact .inl (.inr ⟨b, hb, hgroup, hid⟩)
    · rw [mem_singleton.mp hb] at hgroup hid
      exact hsubject hid ((registry_slot spec hspec).1 (.inl hgroup))

end

theorem registry_forceDetach : ∀ spec ∈ registry, spec.transitionType = .forceDetach →
    spec.slot = .attachmentSlot := by
  decide +kernel

structure Safe (m : Mesh) (τ : Trail) : Prop where
  coherent : m.Coherent
  balanced : m.Balanced
  calm : ∀ a ∈ m.active, a.type ≠ .forceRemoveReplica
  events : ∀ ev ∈ τ.events, ¬(ev.kind = .dispatched ∧ ev.active.type = .forceRemoveReplica)
  reported : ∀ id, (τ.env.reported id).getD 0 ≤ τ.confirmed id
  bounded : ∀ r c, τ.reached r c → r ≤ m.revision
  majority : ∀ r c, τ.reached r c → c.Majority
  rolledOut : RolledOut m τ

theorem Safe.floor_of_confirmed (h : Safe m τ) {r : ℕ} (hconfirmed : τ.env.Confirmed r id) :
    r ≤ τ.history.floor id := by
  obtain ⟨r', hr', hle⟩ := hconfirmed
  have hreported := h.reported id
  rw [hr'] at hreported
  exact hle.trans (hreported.trans (le_max_left _ _))

section
variable {m : Mesh} {τ : Trail} {a : Active} {spec : PlanSpec}

theorem Safe.voting_of_changes {i : ℕ} (h : Safe m τ) (ha : a ∈ m.active)
    (hspec : a.spec = some spec) (hlen : i < spec.steps.length) (hchange : spec.changesAt i = true) :
    a.group = .votingMembership ∧ ∃ id, a.slot = some (.membershipSlot, id) := by
  obtain ⟨hmem, htype, -⟩ := lookup_eq_some hspec
  obtain ⟨hgroup, hscope', -⟩ := (h.coherent.known a ha).of_spec hspec
  obtain ⟨hscope, hslot, hvoting⟩ := registry_change_plan spec hmem i hlen hchange
  obtain ⟨id, hid⟩ := isSome_iff_exists.mp (hscope'.mp hscope)
  refine ⟨?_, id, by rw [Active.slot_of_spec hspec hscope hid, hslot]⟩
  rcases hvoting with hvoting | ⟨hforce, -⟩
  · rw [hgroup, hvoting]
  · exact absurd (htype.symm.trans hforce) (h.calm a ha)

theorem Safe.voting_of_turning (h : Safe m τ) (ha : a ∈ m.active) (hturn : a.turning = true) :
    a.group = .votingMembership := by
  obtain ⟨spec, hspec, hchange⟩ := (any_eq_true _ _).mp hturn
  have hlen := ((h.coherent.known a ha).of_spec hspec).2.2
  exact (h.voting_of_changes ha hspec hlen hchange).1

/-- Every replica that is live before a voter change is confirmed and stays live
has confirmed it. -/
theorem Safe.confirmed_of_turning (h : Safe m τ) (hactive : m.active = l1 ++ a :: l2)
    (hspec : a.spec = some spec) (hstep : spec.steps[a.idx]? = some s)
    (hchange : spec.changesAt a.idx = true)
    (hconfirm : s.confirm.Holds τ.env m.content a.replica a.revision) (hlive : m.Live id)
    (hstays : a.idx + 1 = spec.steps.length → (m.content.seats id).isSome = true) :
    a.revision ≤ τ.history.floor id := by
  have ha := mem_of_split hactive
  have hlen : a.idx < spec.steps.length := (List.getElem?_eq_some_iff.mp hstep).1
  obtain ⟨hmem, htype, -⟩ := lookup_eq_some hspec
  obtain ⟨hgroup, id0, hslot⟩ := h.voting_of_changes ha hspec hlen hchange
  have hrole := h.balanced.placed a ha spec id0 hspec hslot
  obtain ⟨-, -, -, -, hsubject⟩ := Active.slot_eq_some hslot
  apply h.floor_of_confirmed
  rcases registry_change_confirm spec hmem _ (mem_zipIdx_of_getElem hstep) hchange with
    ⟨hall, hpresent⟩ | ⟨hleaving, habsent, hlast⟩
  · -- every member confirms, the subject among them
    have hseat : (m.content.seats id).isSome = true := by
      rcases hlive with hseat | ⟨b, hb, hgb, hid⟩
      · exact hseat
      · rw [hactive, mem_append, mem_cons] at hb
        have hba : b = a := by
          by_contra hne
          refine not_two_voting h.coherent hactive ?_ hgroup hgb
          rw [mem_append]
          tauto
        subst hba
        obtain rfl : id0 = id := some.inj (hsubject.symm.trans hid)
        rw [isSome_iff_role, hrole]
        exact hpresent (htype ▸ h.calm b ha)
    obtain ⟨seat, hseat'⟩ := isSome_iff_exists.mp hseat
    have hall' : s.confirm = .confirmAllMembers := hall
    rw [hall'] at hconfirm
    exact hconfirm id seat hseat'
  · have hleaving' : s.confirm = .confirmAllMembersLeaving := hleaving
    have hseat := hstays hlast
    obtain ⟨seat, hseat'⟩ := isSome_iff_exists.mp hseat
    rw [hleaving'] at hconfirm
    refine hconfirm.1 id seat hseat' ?_
    intro heq
    obtain rfl : id0 = id := some.inj (hsubject.symm.trans heq)
    rw [isSome_iff_role, hrole] at hseat
    exact hseat habsent

end

section
variable {m : Mesh} {τ : Trail} {spec : PlanSpec}

theorem Safe.advance {c' : Content} (h : Safe m τ)
    (hactive : m.active = l1 ++ a :: l2) (hspec : a.spec = some spec)
    (hstep : spec.steps[a.idx]? = some s) (hnext : spec.steps[a.idx + 1]? = some s')
    (hconfirm : s.confirm.Holds τ.env m.content a.replica a.revision)
    (hcompleted : c = applyAll τ.env a.replica s.onComplete m.content)
    (hcontent : c' = applyAll τ.env a.replica s'.apply c) (hbump : Bump c c' m.revision rev) :
    RolledOut (m.moved l1 a l2 c' rev) (τ.follow ⟨.advanced, a, m, m.moved l1 a l2 c' rev⟩) := by
  subst hcompleted hcontent
  have ha := mem_of_split hactive
  have hmem := (lookup_eq_some hspec).1
  have hlen : a.idx + 1 < spec.steps.length := (List.getElem?_eq_some_iff.mp hnext).1
  obtain ⟨-, hturned⟩ := advance_turned h.balanced ha (h.coherent.known a ha) hspec hstep hnext
  cases hchange : spec.changesAt (a.idx + 1) with
  | false =>
    refine h.rolledOut.keep rfl (hturned.keep hchange) hbump.lower
      (fun id hid => .inl (live_moved h.balanced.placed hactive hspec hstep hnext hid))
      fun b hb hturn => ?_
    rw [hactive, mem_append, mem_cons] at hb
    rcases hb with hb | rfl | hb
    · exact .inl (mem_append_left _ hb)
    · right
      intro id _ hold
      rw [Active.turning, hspec] at hturn
      exact h.confirmed_of_turning hactive hspec hstep hturn hconfirm hold fun heq => by omega
    · exact .inl (mem_append_right _ (mem_cons_of_mem _ hb))
  | true =>
    obtain ⟨hne, hadj⟩ := hturned.change hchange
    obtain ⟨hgroup, -⟩ := h.voting_of_changes ha hspec hlen hchange
    have hrev : m.revision < rev := by
      refine lt_of_le_of_ne hbump.lower fun heq => hne ?_
      rw [hbump.keep heq.symm, onComplete_voters hmem (mem_of_getElem? hstep)]
    refine h.rolledOut.change rfl hadj ?_ (fun r c hr => (h.bounded r c hr).trans_lt hrev)
      (fun id hid => .inl (live_moved h.balanced.placed hactive hspec hstep hnext hid))
      ⟨{ a with idx := a.idx + 1, revision := rev }, by simp [Mesh.moved], ?_, rfl⟩
    · intro b hb
      by_contra hturn
      rw [Bool.not_eq_false] at hturn
      have hgb := h.voting_of_turning hb hturn
      rw [hactive, mem_append, mem_cons] at hb
      by_cases hba : b = a
      · subst hba
        rw [Active.turning, hspec] at hturn
        have heq := registry_change_once spec hmem _ (by omega) _ hlen hturn hchange
        omega
      · exact not_two_voting h.coherent hactive (by rw [mem_append]; tauto) hgroup hgb
    · change (Option.any _ a.spec) = true
      rwa [hspec]

theorem Safe.complete (h : Safe m τ) (hactive : m.active = l1 ++ a :: l2)
    (hspec : a.spec = some spec) (hstep : spec.steps[a.idx]? = some s)
    (hconfirm : s.confirm.Holds τ.env m.content a.replica a.revision)
    (hcompleted : c = applyAll τ.env a.replica s.onComplete m.content) :
    RolledOut (m.dropped l1 a l2 c) (τ.follow ⟨.completed, a, m, m.dropped l1 a l2 c⟩) := by
  subst hcompleted
  have ha := mem_of_split hactive
  have hmem := (lookup_eq_some hspec).1
  have hs := mem_of_getElem? hstep
  have hrole : ∀ id, (applyAll τ.env a.replica s.onComplete m.content).role id =
      m.content.role id := fun id => applyAll_role_keeps (onComplete_keepsRole hmem hs)
  refine h.rolledOut.keep rfl (onComplete_voters hmem hs) le_rfl (fun id hid => .inl ?_)
    fun b hb hturn => ?_
  · exact live_of_subset hid (hrole id) fun b hb => (dropped_sublist _ hactive).subset hb
  · rw [hactive, mem_append, mem_cons] at hb
    rcases hb with hb | rfl | hb
    · exact .inl (mem_append_left _ hb)
    · right
      intro id hnew hold
      have hgroup := h.voting_of_turning ha hturn
      rw [Active.turning, hspec] at hturn
      refine h.confirmed_of_turning hactive hspec hstep hturn hconfirm hold fun _ => ?_
      rcases hnew with hseat | ⟨b', hb', hgb, -⟩
      · have hseat' : ((applyAll τ.env b.replica s.onComplete m.content).seats id).isSome = true :=
          hseat
        rw [isSome_iff_role, hrole, ← isSome_iff_role] at hseat'
        exact hseat'
      · exact (not_two_voting h.coherent hactive hb' hgroup hgb).elim
    · exact .inl (mem_append_right _ hb)

theorem Safe.cancel {ev : MeshEvent} (h : Safe m τ)
    (hspec : spec ∈ registry) (hannounced : Announced τ.events spec x)
    (hcancel : Cancels spec x m [ev] m') : RolledOut m' (τ.follow ev) := by
  cases hcancel with
  | cancel hactive hplan _ hslot =>
    have hattach : spec.slot = .attachmentSlot := by
      rcases registry_cancels spec hspec hplan with htype | htype
      · obtain ⟨d, hd, hdispatched, hdtype, -⟩ := hannounced
        exact (h.events d hd ⟨hdispatched, hdtype.trans htype⟩).elim
      · exact registry_forceDetach spec hspec htype
    refine h.rolledOut.keep rfl rfl le_rfl
      (fun id hid => .inl (live_of_subset hid rfl
        fun b hb => (dropped_sublist _ hactive).subset hb)) fun b hb hturn => .inl ?_
    rw [hactive, mem_append, mem_cons] at hb
    rcases hb with hb | rfl | hb
    · exact mem_append_left _ hb
    · -- a voting plan sits in a membership slot
      have hb := mem_of_split hactive
      obtain ⟨spec', hspec', hchange⟩ := (any_eq_true _ _).mp hturn
      have hlen := ((h.coherent.known b hb).of_spec hspec').2.2
      obtain ⟨-, id, hmember⟩ := h.voting_of_changes hb hspec' hlen hchange
      rw [hmember, hattach, some.injEq, Prod.mk.injEq] at hslot
      cases hslot.1
    · exact mem_append_right _ hb

theorem Safe.create (h : Safe m τ) (hspec : spec ∈ registry)
    (hforce : spec.transitionType ≠ .forceRemoveReplica) (hchosen : Chosen τ.env m spec x)
    (hscope : spec.scope = .replica ↔ x.isSome = true)
    (hguards : ∀ guard ∈ spec.guards, guard.Holds τ.env m x) (hallowed : Admitted m spec.group x)
    (hstep : spec.steps[0]? = some s) (hcontent : c = applyAll τ.env x s.apply m.content)
    (hbump : Bump m.content c m.revision rev) :
    RolledOut (m.extended (spec.start x rev) c)
      (τ.follow ⟨.created, spec.start x rev, m, m.extended (spec.start x rev) c⟩) := by
  subst hcontent
  obtain ⟨-, hturned, -⟩ := create_turned h.balanced hspec hchosen hscope hguards hstep
  cases hchange : spec.changesAt 0 with
  | false =>
    exact h.rolledOut.keep rfl (hturned.keep hchange) hbump.lower (fun id hid => live_extended
      hspec hchosen hscope hstep hid) fun b hb _ => .inl (mem_append_left _ hb)
  | true =>
    obtain ⟨hne, hadj⟩ := hturned.change hchange
    have hvoting : spec.group = .votingMembership := by
      by_contra hgroup
      exact hforce (registry_voting_force spec hspec hchange hgroup).1
    have hrev : m.revision < rev :=
      lt_of_le_of_ne hbump.lower fun heq => hne (by rw [hbump.keep heq.symm])
    refine h.rolledOut.change rfl hadj ?_ (fun r c hr => (h.bounded r c hr).trans_lt hrev)
      (fun id hid => live_extended hspec hchosen hscope hstep hid)
      ⟨spec.start x rev, by simp [Mesh.extended], ?_, rfl⟩
    · -- admission found no voting plan
      intro b hb
      by_contra hturn
      rw [Bool.not_eq_false] at hturn
      have hidle := hallowed.2
      rw [hvoting] at hidle
      exact hidle.1 b hb (h.voting_of_turning hb hturn)
    · change (Option.any _ (lookup spec.transitionType spec.planID)) = true
      rwa [lookup_of_mem spec hspec]

end

def MeshEvent.ForceRemoves (ev : MeshEvent) : Prop :=
  ev.kind = .dispatched ∧ ev.active.type = .forceRemoveReplica

theorem Safe.step {ev : MeshEvent} (h : Safe m τ) (hstep : MeshStep τ.env τ.events m ev m')
    (hev : ¬ev.ForceRemoves) : Safe m' (τ.follow ev) := by
  have hcreated : ev.kind = .created → ev.active.type ≠ .forceRemoveReplica := by
    intro hkind htype
    obtain ⟨d, hd, hdispatched, hdtype⟩ := hstep.created_announced hkind
    exact h.events d hd ⟨hdispatched, hdtype.trans htype⟩
  have hbalanced : m'.Balanced :=
    hstep.balanced h.coherent (fun hbad => hcreated hbad.1 hbad.2.1) h.balanced
  refine ⟨hstep.coherent h.coherent, hbalanced, ?_, ?_, h.reported, ?_, ?_, ?_⟩
  · intro b hb
    rcases hstep.active_origin hb with ⟨a, ha, heq⟩ | ⟨hkind, heq⟩
    · rw [heq]
      exact h.calm a ha
    · rw [heq]
      exact hcreated hkind
  · exact forall_mem_cons.mpr ⟨hev, h.events⟩
  · rintro r c (hr | ⟨rfl, rfl⟩)
    · exact (h.bounded r c hr).trans hstep.later.1
    · exact (congrArg Mesh.revision hstep.after.2).le
  · rintro r c (hr | ⟨rfl, rfl⟩)
    · exact h.majority r c hr
    · rw [hstep.after.2]
      exact hbalanced.majority
  · cases hstep with
    | advance hactive hspec hs hnext hconfirm hcompleted hcontent hbump =>
      exact h.advance hactive hspec hs hnext hconfirm hcompleted hcontent hbump
    | complete hactive hspec hs _ hconfirm hcompleted =>
      exact h.complete hactive hspec hs hconfirm hcompleted
    | dispatch => exact h.rolledOut.keep rfl rfl le_rfl (fun _ => .inl) fun b hb _ => .inl hb
    | cancel hspec _ hannounced hcancel => exact h.cancel hspec hannounced hcancel
    | create hspec hchosen hannounced hcreate =>
      cases hcreate with
      | create hscope hguards _ hallowed hs hcontent hbump =>
        exact h.create hspec (hcreated rfl) hchosen hscope hguards hallowed hs hcontent hbump

theorem Safe.observe (h : Safe m τ) (env : Env) : Safe m.refresh (τ.observe env) := by
  refine ⟨h.coherent.congr rfl, ⟨h.balanced.majority, h.balanced.placed, h.balanced.parity⟩,
    h.calm, h.events, fun id => le_max_right _ _, h.bounded, h.majority, ?_⟩
  obtain ⟨r, hr, hroll, hstate⟩ := h.rolledOut
  refine ⟨r, hr, ?_, ?_⟩
  · rw [Trail.history_observe]
    exact hroll.mono _ fun id hid => .inl hid
  · rw [Trail.history_observe]
    rcases hstate with hall | hturn
    · exact .inl (hall.raise _)
    · exact .inr hturn

theorem safe_start (hactive : m.active = []) (hmajority : m.content.Majority) :
    Safe m (.start .none m) := by
  refine ⟨Mesh.coherent_of_no_transitions m hactive,
    Mesh.balanced_of_no_transitions m hactive hmajority, by simp [hactive], by simp [Trail.start],
    fun _ => le_rfl, ?_, ?_, ?_⟩
  · rintro r c ⟨rfl, rfl⟩
    exact le_rfl
  · rintro r c ⟨rfl, rfl⟩
    exact hmajority
  · refine ⟨0, Nat.zero_le _, .start ?_ (Adjacent.refl _) fun _ _ => Nat.zero_le _,
      .inl fun _ _ => Nat.zero_le _⟩
    rintro r c ⟨rfl, rfl⟩
    rfl

theorem Hist.safe {Q : Content → Env → Env → Prop} {m0 : Mesh} {τ0 : Trail}
    (h : Hist Q (fun _ ev _ => ¬ev.ForceRemoves) m0 τ0 m τ) (h0 : Safe m0 τ0) : Safe m τ := by
  induction h with
  | start => exact h0
  | observe env _ _ ih => exact ih.observe env
  | step _ hstep hallowed ih => exact ih.step hstep hallowed

def Status.Live (st : Status) (id : ReplicaID) : Prop :=
  (memberOf st.members id).isSome = true ∨
    ∃ t ∈ st.transitions, t.group = .votingMembership ∧ t.replica = some id

theorem Status.Live.mesh {st : Status} (h : st.Live id) : st.mesh.Live id := by
  rcases h with hmember | ⟨t, ht, hgroup, hid⟩
  · left
    change ((memberOf st.members id).map seatOf).isSome = true
    rwa [isSome_map]
  · exact .inr ⟨activeOf t, mem_map_of_mem ht, hgroup, hid⟩

/-- The replica may hold the members and the quorum of this published status:
it is not older than a revision that the replica confirmed, nor than the one at
which the replica joined. -/
def LocalView (st : Status) (obs : List Observation) (results : List CycleResult)
    (id : ReplicaID) (p : Status) : Prop :=
  p ∈ published st results ∧ confirmedRevision obs id ≤ p.datameshRevision ∧
    joinRevision (allEvents results) id ≤ p.datameshRevision

def Status.QuorateIn (p : Status) (s : Finset ReplicaID) : Prop := p.quorum ≤ (p.voters ∩ s).card

/-- In a run without forced removals the quorum is the majority of the voters
in every published status, and no two disjoint sets of live replicas each hold
a node that has its quorum there. -/
theorem no_split_brain {st : Status} {obs : List Observation} {results : List CycleResult}
    (hstart : st.transitions = []) (hquorum : st.quorum = st.voters.card / 2 + 1)
    (hrun : run st obs = some results) (hforce : ∀ r ∈ results, ∀ ev ∈ r.log,
      ¬(ev.kind = .dispatched ∧ ev.transition.type = .forceRemoveReplica)) :
    (∀ p ∈ published st results, p.quorum = p.voters.card / 2 + 1) ∧
    ∀ s t : Finset ReplicaID, Disjoint s t →
      (∀ id ∈ s ∪ t, (lastStatus st results).Live id) →
      ∀ x ∈ s, ∀ y ∈ t, ∀ p q, LocalView st obs results x p → LocalView st obs results y q →
        ¬(p.QuorateIn s ∧ q.QuorateIn t) := by
  have hallowed : RunAllowed (fun _ ev _ => ¬ev.ForceRemoves) obs results :=
    runAllowed_of_forall fun r hr ev hev => hforce r hr ev hev
  obtain ⟨-, m, τ, hhist, htrace, hmesh⟩ := run_history
    (Status.wellFormed_of_no_transitions hstart) hrun hallowed
    (runObserved_true .none st obs results)
  have hactive : st.mesh.active = [] := by
    change st.transitions.map activeOf = []
    rw [hstart]
    rfl
  have hsafe := hhist.safe (safe_start hactive hquorum)
  have hmajority : ∀ p ∈ published st results, p.content.Majority := fun p hp =>
    hsafe.majority _ _ (htrace.reached p hp)
  refine ⟨hmajority, ?_⟩
  rintro s t hdisj hlive x hx y hy p q ⟨hp, hpc, hpj⟩ ⟨hq, hqc, hqj⟩ ⟨hps, hqt⟩
  have hview : ∀ id p, p ∈ published st results → confirmedRevision obs id ≤ p.datameshRevision →
      joinRevision (allEvents results) id ≤ p.datameshRevision →
      τ.history.View id p.content := by
    intro id p hp hconf hjoin
    refine ⟨p.datameshRevision, htrace.reached p hp, ?_⟩
    change max (τ.confirmed id) (joinRevision τ.events id) ≤ _
    rw [htrace.confirmed, htrace.events]
    exact max_le hconf hjoin
  have hlive' : ∀ id ∈ s ∪ t, m.Live id := by
    intro id hid
    have hlast := (hlive id hid).mesh
    rw [hmesh] at hlast
    exact hlast
  obtain ⟨r, -, hroll, -⟩ := hsafe.rolledOut
  have hneighbours := hroll.views (hlive' x (by simp [hx])) (hlive' y (by simp [hy]))
    (hview x p hp hpc hpj) (hview y q hq hqc hqj)
  have hadj : Adjacent p.voters q.voters := by
    rcases hneighbours with heq | hadj | hadj
    · change Adjacent p.content.voters q.content.voters
      rw [heq]
      exact .refl _
    · exact hadj
    · exact hadj.symm
  exact not_both_quorate (c := ⟨p.voters, p.quorum⟩) (d := ⟨q.voters, q.quorum⟩)
    (hmajority p hp) (hmajority q hq) hadj hdisj hps hqt

instance (st : Status) (id : ReplicaID) : Decidable (st.Live id) :=
  inferInstanceAs (Decidable (_ ∨ _))

instance (st : Status) (obs : List Observation) (results : List CycleResult) (id : ReplicaID)
    (p : Status) : Decidable (LocalView st obs results id p) :=
  inferInstanceAs (Decidable (_ ∧ _ ∧ _))

/-- While replica 3 leaves, replica 0 may still count four voters where replica 1
counts three, and the sets that they see do not part. -/
theorem no_split_brain_followed :
    ∃ results p q, run fourDiskful followed.tail = some results ∧
      LocalView fourDiskful followed.tail results 0 p ∧ p.voters = {0, 1, 2, 3} ∧
      LocalView fourDiskful followed.tail results 1 q ∧ q.voters = {0, 1, 2} ∧
      ¬(p.QuorateIn {0, 3} ∧ q.QuorateIn {1, 2}) := by
  have hrun : (run fourDiskful followed.tail).any (fun results =>
      decide ((LocalView fourDiskful followed.tail results 0 (lastStatus fourDiskful results.tail) ∧
          (lastStatus fourDiskful results.tail).voters = {0, 1, 2, 3} ∧
        LocalView fourDiskful followed.tail results 1 (lastStatus fourDiskful results) ∧
          (lastStatus fourDiskful results).voters = {0, 1, 2}) ∧
        (∀ id ∈ ({0, 3} ∪ {1, 2} : Finset ReplicaID), (lastStatus fourDiskful results).Live id) ∧
        ∀ r ∈ results, ∀ ev ∈ r.log,
          ¬(ev.kind = .dispatched ∧ ev.transition.type = .forceRemoveReplica))) = true := by
    decide +kernel
  obtain ⟨results, hresults, ⟨hp, hpv, hq, hqv⟩, hlive, hforce⟩ := exists_of_decide hrun
  refine ⟨results, _, _, hresults, hp, hpv, hq, hqv, ?_⟩
  exact (no_split_brain rfl (by decide +kernel) hresults hforce).2 {0, 3} {1, 2} (by decide) hlive
    0 (by decide) 1 (by decide) _ _ hp hq

end ReplicatedVolume.Datamesh
