import ReplicatedVolume.Mesh.Roles

/-!
# Who may be attached

Attached members and the subjects of live Attach and Detach transitions are potentially attached.
The set that admission uses never misses one of them, and as long as it has two elements the mesh
is multiattach and no toggle is live.
-/

namespace ReplicatedVolume.Datamesh
open Dmte List

variable {c : Content} {a : Active} {id : ReplicaID} {m : Mesh} {l1 l2 : List Active} {rev : ℕ}
  {before : List MeshEvent} {callbacks : List Apply} {ev : MeshEvent}

section
variable {env : Env} {c : Content} {id : ReplicaID} {x : Option ReplicaID}

theorem mem_attached : id ∈ c.attached ↔ (c.seats id).any (·.attached) = true := by
  rw [Content.attached, mem_idsWhere]

theorem attached_congr {c' : Content} (h : c'.seats id = c.seats id) :
    id ∈ c'.attached ↔ id ∈ c.attached := by
  rw [mem_attached, mem_attached, h]

theorem effect_attached {a : Apply} (ha : a ≠ .applyAttach) (h : id ∈ (a.effect env x c).attached) :
    id ∈ c.attached := by
  by_cases hx : x = some id
  · subst hx
    rw [mem_attached, effect_seat_self] at h
    rw [mem_attached]
    cases hs : c.seats id with
    | none =>
      rw [hs] at h
      cases a <;> exact h
    | some s =>
      rw [hs] at h
      cases a <;> first | exact h | exact absurd rfl ha | cases h
  · exact (attached_congr (effect_seats_of_ne a hx)).mp h

theorem applyAll_attached (hc : .applyAttach ∉ callbacks)
    (h : id ∈ (applyAll env x callbacks c).attached) : id ∈ c.attached := by
  induction callbacks generalizing c with
  | nil => exact h
  | cons a callbacks ih =>
    rw [mem_cons, not_or] at hc
    exact effect_attached (fun heq => hc.1 heq.symm) (ih hc.2 h)

def Apply.toggles (a : Apply) : Bool := a = .applyEnableMultiattach || a = .applyDisableMultiattach

theorem effect_multiattach {a : Apply} (ha : a.toggles = false) :
    (a.effect env x c).multiattach = c.multiattach := by
  cases a <;> cases x <;> first | rfl | cases ha

theorem applyAll_multiattach (h : callbacks.all (!·.toggles) = true) :
    (applyAll env x callbacks c).multiattach = c.multiattach := by
  induction callbacks generalizing c with
  | nil => rfl
  | cons a callbacks ih =>
    rw [all_cons, Bool.and_eq_true, Bool.not_eq_true'] at h
    exact (ih h.2).trans (effect_multiattach h.1)

end

theorem registry_attachment : ∀ spec ∈ registry,
    (spec.group = .attachment ↔ spec.transitionType = .attach ∨ spec.transitionType = .detach) := by
  decide +kernel

theorem registry_multiattach : ∀ spec ∈ registry,
    (spec.group = .multiattach ↔
      spec.transitionType = .enableMultiattach ∨ spec.transitionType = .disableMultiattach) := by
  decide +kernel

/-- A member becomes attached in the only step of an Attach, and Multiattach is
written in the only step of a toggle. -/
theorem registry_attach_step : ∀ spec ∈ registry, ∀ s ∈ spec.steps,
    (.applyAttach ∈ s.apply → spec.transitionType = .attach ∧ spec.steps.length = 1) ∧
    (s.apply.all (!·.toggles) = false → spec.group = .multiattach ∧ spec.steps.length = 1) := by
  decide +kernel

theorem registry_detach_step : ∀ spec ∈ registry, spec.transitionType = .detach →
    ∀ s ∈ spec.steps, s.apply = [.applyDetach] := by
  decide +kernel

theorem registry_attach_guards : ∀ spec ∈ registry, spec.transitionType = .attach →
    .guardSlotAvailable ∈ spec.guards := by
  decide +kernel

variable {env : Env} {x : Option ReplicaID} {spec : PlanSpec} {s : StepSpec}

theorem onComplete_attached
    (hspec : spec ∈ registry) (hs : s ∈ spec.steps)
    (h : id ∈ (applyAll env x s.onComplete c).attached) : id ∈ c.attached :=
  (congrArg Content.attached (onComplete_configuration hspec hs)).subset h

theorem onComplete_multiattach
    (hspec : spec ∈ registry) (hs : s ∈ spec.steps) :
    (applyAll env x s.onComplete c).multiattach = c.multiattach :=
  (congrArg Content.multiattach (onComplete_configuration hspec hs) :)

theorem later_step (hspec : spec ∈ registry) {k : ℕ}
    (hs : spec.steps[k + 1]? = some s) :
    .applyAttach ∉ s.apply ∧ s.apply.all (!·.toggles) = true := by
  have hlen := (List.getElem?_eq_some_iff.mp hs).1
  obtain ⟨hattach, htoggle⟩ := registry_attach_step spec hspec s (mem_of_getElem? hs)
  constructor
  · intro hmem
    have hone := (hattach hmem).2
    omega
  · by_contra hne
    have hone := (htoggle (Bool.eq_false_iff.mpr hne)).2
    omega

structure Mesh.Accounted (m : Mesh) : Prop where
  occupied : m.occupied ⊆ m.potentiallyAttached
  detached : ∀ a ∈ m.active, a.type = .detach → ∀ id, a.replica = some id → id ∉ m.content.attached

def Mesh.Shared (m : Mesh) : Prop :=
  2 ≤ m.potentiallyAttached.card → m.content.multiattach = true ∧ m.Idle .multiattach

theorem mem_occupied :
    id ∈ m.occupied ↔ id ∈ m.content.attached ∨
      ∃ a ∈ m.active, a.group = .attachment ∧ a.replica = some id := by
  rw [Mesh.occupied, Finset.mem_union, mem_idsWhere, any_eq_true]
  simp only [Bool.and_eq_true, decide_eq_true_eq]

theorem Active.slot_of_attachment (h : a.Known) (hgroup : a.group = .attachment)
    (hid : a.replica = some id) : a.slot = some (.attachmentSlot, id) := by
  obtain ⟨spec, hspec, hmem, hg, hscope, -⟩ := h.spec_of_group (by rw [hgroup]; simp)
  rw [Active.slot_of_spec hspec (hscope.mpr (by rw [hid]; rfl)) hid,
    (registry_slot spec hmem).2 (hg.symm.trans hgroup)]

theorem Active.group_of_detach (h : a.Known) (hid : a.replica = some id)
    (htype : a.type = .detach) : a.group = .attachment := by
  rcases h with ⟨-, -, hnone⟩ | ⟨spec, hspec, hgroup, -⟩
  · rw [hid] at hnone
    cases hnone
  · obtain ⟨hmem, htype', -⟩ := lookup_eq_some hspec
    rw [hgroup]
    exact (registry_attachment spec hmem).mpr (.inr (htype'.trans htype))

theorem Mesh.Accounted.dropped (hcoherent : m.Coherent) (h : m.Accounted)
    (hactive : m.active = l1 ++ a :: l2) (hattached : ∀ id ∈ c.attached, id ∈ m.content.attached) :
    (m.dropped l1 a l2 c).Accounted := by
  have hsub : ∀ b ∈ (m.dropped l1 a l2 c).active, b ∈ m.active := fun b hb =>
    (dropped_sublist c hactive).subset hb
  constructor
  · intro id hid
    have hold : id ∈ m.occupied := by
      rw [mem_occupied] at hid ⊢
      rcases hid with hid | ⟨b, hb, hgroup, hrep⟩
      · exact .inl (hattached id hid)
      · exact .inr ⟨b, hsub b hb, hgroup, hrep⟩
    have hmem := h.occupied hold
    change id ∈ a.released _
    unfold Active.released
    split_ifs with hdetach
    · obtain ⟨hgroup, htype⟩ := hdetach
      -- the subject of the detach is neither attached nor in another attachment slot
      rw [Finset.mem_sdiff, Option.mem_toFinset, Option.mem_def]
      refine ⟨hmem, fun hrep => ?_⟩
      rcases mem_occupied.mp hid with hid | ⟨b, hb, hbgroup, hbrep⟩
      · exact h.detached a (mem_of_split hactive) htype id hrep (hattached id hid)
      · have hapart := hcoherent.apart
        rw [hactive] at hapart
        have hslot := (compatible_of_split hapart hb).slot _
          (Active.slot_of_attachment (hcoherent.known a (mem_of_split hactive)) hgroup hrep)
        exact hslot (Active.slot_of_attachment (hcoherent.known b (hsub b hb)) hbgroup hbrep)
    · exact hmem
  · intro b hb htype id hrep hid
    exact h.detached b (hsub b hb) htype id hrep (hattached id hid)

theorem Mesh.Shared.dropped (h : m.Shared) (hactive : m.active = l1 ++ a :: l2)
    (hmulti : c.multiattach = m.content.multiattach) : (m.dropped l1 a l2 c).Shared := by
  have hpa : (m.dropped l1 a l2 c).potentiallyAttached ⊆ m.potentiallyAttached := by
    change a.released _ ⊆ _
    unfold Active.released
    split_ifs
    · exact Finset.sdiff_subset
    · exact Finset.Subset.refl _
  intro htwo
  obtain ⟨hm, hidle⟩ := h (htwo.trans (Finset.card_le_card hpa))
  exact ⟨hmulti.trans hm, fun b hb => hidle b ((dropped_sublist c hactive).subset hb)⟩

theorem moved_origin {b : Active} (hactive : m.active = l1 ++ a :: l2)
    (hb : b ∈ (m.moved l1 a l2 c rev).active) :
    ∃ b' ∈ m.active, b.type = b'.type ∧ b.group = b'.group ∧ b.replica = b'.replica := by
  rw [hactive]
  simp only [Mesh.moved, mem_append, mem_cons] at hb
  rcases hb with hb | rfl | hb
  · exact ⟨b, by simp [hb], rfl, rfl, rfl⟩
  · exact ⟨a, by simp, rfl, rfl, rfl⟩
  · exact ⟨b, by simp [hb], rfl, rfl, rfl⟩

theorem Mesh.Accounted.moved (h : m.Accounted) (hactive : m.active = l1 ++ a :: l2)
    (hattached : ∀ id ∈ c.attached, id ∈ m.content.attached) :
    (m.moved l1 a l2 c rev).Accounted := by
  constructor
  · intro id hid
    apply h.occupied
    rw [mem_occupied] at hid ⊢
    rcases hid with hid | ⟨b, hb, hgroup, hrep⟩
    · exact .inl (hattached id hid)
    · obtain ⟨b', hb', -, hg, hr⟩ := moved_origin hactive hb
      exact .inr ⟨b', hb', hg.symm.trans hgroup, hr.symm.trans hrep⟩
  · intro b hb htype id hrep hid
    obtain ⟨b', hb', ht, -, hr⟩ := moved_origin hactive hb
    exact h.detached b' hb' (ht.symm.trans htype) id (hr.symm.trans hrep) (hattached id hid)

theorem Mesh.Shared.moved (h : m.Shared) (hactive : m.active = l1 ++ a :: l2)
    (hmulti : c.multiattach = m.content.multiattach) : (m.moved l1 a l2 c rev).Shared := by
  intro htwo
  obtain ⟨hm, hidle⟩ := h htwo
  refine ⟨hmulti.trans hm, fun b hb hgroup => ?_⟩
  obtain ⟨b', hb', -, hg, -⟩ := moved_origin hactive hb
  exact hidle b' hb' (hg.symm.trans hgroup)

section
variable {env : Env} {m : Mesh} {spec : PlanSpec} {x : Option ReplicaID} {s : StepSpec} {rev : ℕ}

theorem start_gained (set : Finset ReplicaID) (h : spec.group = .attachment) :
    (spec.start x rev).gained set = set ∪ x.toFinset := if_pos h

theorem start_gained_of_ne (set : Finset ReplicaID) (h : spec.group ≠ .attachment) :
    (spec.start x rev).gained set = set := if_neg h

section
variable (hspec : spec ∈ registry) (hstep : spec.steps[0]? = some s)
include hspec hstep

theorem created_attached (hid : id ∈ (applyAll env x s.apply m.content).attached) :
    id ∈ m.content.attached ∨ (spec.transitionType = .attach ∧ x = some id) := by
  by_cases hattach : .applyAttach ∈ s.apply
  · have htype := (registry_attach_step spec hspec s (mem_of_getElem? hstep)).1 hattach
    by_cases hx : x = some id
    · exact .inr ⟨htype.1, hx⟩
    · exact .inl ((attached_congr (applyAll_seats_of_ne s.apply hx)).mp hid)
  · exact .inl (applyAll_attached hattach hid)

theorem created_occupied (h : m.Accounted) :
    (m.extended (spec.start x rev) (applyAll env x s.apply m.content)).occupied ⊆
      (spec.start x rev).gained m.potentiallyAttached := by
  have hold : m.potentiallyAttached ⊆ (spec.start x rev).gained m.potentiallyAttached := by
    by_cases hgroup : spec.group = .attachment
    · rw [start_gained _ hgroup]
      exact Finset.subset_union_left
    · rw [start_gained_of_ne _ hgroup]
  have hnew : ∀ id, spec.group = .attachment → x = some id →
      id ∈ (spec.start x rev).gained m.potentiallyAttached := by
    intro id hgroup hx
    rw [start_gained _ hgroup, Finset.mem_union, Option.mem_toFinset]
    exact .inr hx
  intro id hid
  rcases mem_occupied.mp hid with hid | ⟨b, hb, hgroup, hrep⟩
  · rcases created_attached hspec hstep hid with hid | ⟨htype, hx⟩
    · exact hold (h.occupied (mem_occupied.mpr (.inl hid)))
    · exact hnew id ((registry_attachment spec hspec).mpr (.inl htype)) hx
  · rcases mem_append.mp hb with hb | hb
    · exact hold (h.occupied (mem_occupied.mpr (.inr ⟨b, hb, hgroup, hrep⟩)))
    · rw [mem_singleton.mp hb] at hgroup hrep
      exact hnew id hgroup hrep

theorem created_detached (hcoherent : m.Coherent) (h : m.Accounted)
    (hfree : ∀ id, x = some id → m.Free spec.slot id) :
    ∀ b ∈ m.active ++ [spec.start x rev], b.type = .detach → ∀ id, b.replica = some id →
      id ∉ (applyAll env x s.apply m.content).attached := by
  intro b hb htype id hrep hid
  rcases mem_append.mp hb with hb | hb
  · rcases created_attached hspec hstep hid with hid | ⟨hattach, hx⟩
    · exact h.detached b hb htype id hrep hid
    · -- an Attach needs the slot that the Detach holds
      have hknown := hcoherent.known b hb
      have hslot := Active.slot_of_attachment hknown (Active.group_of_detach hknown hrep htype) hrep
      have hfree' := hfree id hx b hb
      rw [(registry_slot spec hspec).2 ((registry_attachment spec hspec).mpr (.inl hattach))]
        at hfree'
      exact hfree' hslot
  · rw [mem_singleton.mp hb] at htype hrep
    have hx : x = some id := hrep
    rw [registry_detach_step spec hspec htype s (mem_of_getElem? hstep), hx] at hid
    change id ∈ (Apply.effect env (some id) m.content .applyDetach).attached at hid
    rw [mem_attached, effect_seat_self, Apply.seat] at hid
    cases hs : m.content.seats id with
    | none => simp [hs] at hid
    | some seat => simp [hs] at hid

end

theorem created_shared (hspec : spec ∈ registry) (hchosen : Chosen env m spec x)
    (hstep : spec.steps[0]? = some s) (h : m.Shared) (hallowed : Admitted m spec.group x)
    (htwo : 2 ≤ ((spec.start x rev).gained m.potentiallyAttached).card) :
    (applyAll env x s.apply m.content).multiattach = true ∧
      ∀ b ∈ m.active ++ [spec.start x rev], b.group ≠ .multiattach := by
  have hs := mem_of_getElem? hstep
  have hgroup : spec.group ≠ .multiattach := by
    intro hgroup
    -- a toggle is decided only while at most one replica is potentially attached
    rw [start_gained_of_ne _ (by rw [hgroup]; simp)] at htwo
    rcases (registry_multiattach spec hspec).mp hgroup with htype | htype
    · simp only [Chosen, htype] at hchosen
      rw [(h htwo).1] at hchosen
      cases hchosen
    · simp only [Chosen, htype] at hchosen
      omega
  have hkept : (applyAll env x s.apply m.content).multiattach = m.content.multiattach := by
    apply applyAll_multiattach
    by_contra hne
    exact hgroup ((registry_attach_step spec hspec s hs).2 (Bool.eq_false_iff.mpr hne)).1
  have hbefore : m.content.multiattach = true ∧ m.Idle .multiattach := by
    by_cases hattachment : spec.group = .attachment
    · have hadmitted := hallowed.2
      simp only [hattachment] at hadmitted
      apply hadmitted
      rw [start_gained _ hattachment, ← Finset.card_sdiff_add_card] at htwo
      have hone : x.toFinset.card ≤ 1 := by cases x <;> simp
      exact Finset.card_pos.mp (by omega)
    · rw [start_gained_of_ne _ hattachment] at htwo
      exact h htwo
  refine ⟨hkept.trans hbefore.1, fun b hb => ?_⟩
  rcases mem_append.mp hb with hb | hb
  · exact hbefore.2 b hb
  · rw [mem_singleton.mp hb]
    exact hgroup

end

theorem MeshStep.accounted {m' : Mesh}
    (hstep : MeshStep env before m ev m') (hcoherent : m.Coherent) (h : m.Accounted) :
    m'.Accounted := by
  cases hstep with
  | advance hactive hspec hs hnext _ hcompleted hcontent =>
    have hmem := (lookup_eq_some hspec).1
    subst hcompleted hcontent
    refine h.moved hactive fun id hid => ?_
    exact onComplete_attached hmem (mem_of_getElem? hs)
      (applyAll_attached (later_step hmem hnext).1 hid)
  | complete hactive hspec hs _ _ hcompleted =>
    subst hcompleted
    refine h.dropped hcoherent hactive fun id hid => ?_
    exact onComplete_attached (lookup_eq_some hspec).1 (mem_of_getElem? hs) hid
  | dispatch => exact h
  | cancel _ _ _ hcancel =>
    cases hcancel with
    | cancel hactive => exact h.dropped hcoherent hactive fun _ hid => hid
  | create hspec hchosen _ hcreate =>
    cases hcreate with
    | create _ _ hfree _ hs hcontent =>
      subst hcontent
      exact ⟨created_occupied hspec hs h, created_detached hspec hs hcoherent h hfree⟩

theorem MeshStep.shared {m' : Mesh}
    (hstep : MeshStep env before m ev m') (h : m.Shared) : m'.Shared := by
  cases hstep with
  | advance hactive hspec hs hnext _ hcompleted hcontent =>
    have hmem := (lookup_eq_some hspec).1
    subst hcompleted hcontent
    apply h.moved hactive
    rw [applyAll_multiattach (later_step hmem hnext).2,
      onComplete_multiattach hmem (mem_of_getElem? hs)]
  | complete hactive hspec hs _ _ hcompleted =>
    subst hcompleted
    exact h.dropped hactive (onComplete_multiattach (lookup_eq_some hspec).1 (mem_of_getElem? hs))
  | dispatch => exact h
  | cancel _ _ _ hcancel =>
    cases hcancel with
    | cancel hactive => exact h.dropped hactive rfl
  | create hspec hchosen _ hcreate =>
    cases hcreate with
    | create _ _ _ hallowed hs hcontent =>
      subst hcontent
      exact created_shared hspec hchosen hs h hallowed

theorem Mesh.Accounted.refresh (h : m.Accounted) : m.refresh.Accounted :=
  ⟨Finset.Subset.refl _, h.detached⟩

theorem Mesh.Shared.refresh (haccounted : m.Accounted) (h : m.Shared) :
    m.refresh.Shared := fun htwo =>
  h (htwo.trans (Finset.card_le_card haccounted.occupied))

section
variable {Q : Content → Env → Env → Prop} {P : Env → MeshEvent → List MeshEvent → Prop}
  {m0 m : Mesh} {τ0 τ : Trail}

theorem Hist.accounted (h : Hist Q P m0 τ0 m τ) (hcoherent : m0.Coherent) (h0 : m0.Accounted) :
    m.Accounted := by
  induction h with
  | start => exact h0
  | observe _ _ _ ih => exact ih.refresh
  | step hhist hstep _ ih => exact hstep.accounted (hhist.coherent hcoherent) ih

theorem Hist.shared (h : Hist Q P m0 τ0 m τ) (hcoherent : m0.Coherent) (h0 : m0.Accounted)
    (hshared : m0.Shared) : m.Shared := by
  induction h with
  | start => exact hshared
  | observe _ hhist _ ih => exact ih.refresh (hhist.accounted hcoherent h0)
  | step _ hstep _ ih => exact hstep.shared ih

end

end ReplicatedVolume.Datamesh
