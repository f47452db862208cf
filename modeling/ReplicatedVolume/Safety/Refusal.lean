import ReplicatedVolume.Safety.Quorum

/-!
# Refused decisions

A decision that is refused should leave nothing behind but a status message. The slot of an
emergency plan is cleared before the guards are asked, so a refusal leaves everything as it was
exactly when there was nothing to clear.
-/

namespace ReplicatedVolume.Datamesh
open Dmte Option

variable {e : Engine GlobalContext} {rctx : Option Ref} {spec : PlanSpec}

theorem Dispatched.unchanged {planID : PlanID}
    {e e' : Engine GlobalContext} (h : Dispatched domain spec.plan planID rctx e e' false) :
    Unchanged e e' := by
  cases h with
  | conflict hslot =>
    unfold reportConflict
    dsimp only
    split_ifs
    · exact .refl e
    · exact setStatus_unchanged spec rctx _ _ e
  | @blocked _ g message details hguards =>
    have hguarded : Unchanged e { e with global := g } :=
      ⟨rfl, rfl, rfl, evaluateGuards_silent hguards⟩
    exact hguarded.trans (setStatus_unchanged spec rctx message details _)

/-- The slot of the plan's subject holds a transition that the plan would cancel. -/
def Clears (spec : PlanSpec) (rctx : Option Ref) (g : GlobalContext) : Prop :=
  spec.cancelActiveOnCreate = true ∧
    (rctx.bind (spec.slot.accessor.getActiveTransition g)).isSome = true

theorem cancelActive_eq_self
    (h : ¬Clears spec rctx e.global) : cancelActive domain spec.plan rctx e = e := by
  unfold cancelActive
  split
  · next hcancel =>
      next r =>
        have hslot : spec.plan.slot.getActiveTransition e.global r = none := by
          by_contra hne
          exact h ⟨hcancel, isSome_iff_ne_none.mpr hne⟩
        simp only [hslot]
  · rfl

theorem getActive_cleared (slot : SlotID) (g : GlobalContext) (r : Ref) :
    slot.accessor.getActiveTransition (slot.accessor.setActiveTransition g r none) r = none := by
  cases r with
  | replica id =>
    cases slot <;> simp [SlotID.accessor, membershipSlot, attachmentSlot, GlobalContext.modify,
      GlobalContext.modifyReplica, GlobalContext.ctx]
  | orphan n =>
    cases slot <;> simp only [SlotID.accessor, membershipSlot, attachmentSlot,
      GlobalContext.modify, GlobalContext.ctx, List.getD_eq_getElem?_getD,
      List.getElem?_modify] <;> cases g.orphans[n]? <;> rfl

theorem cancelActive_clears
    (h : Clears spec rctx e.global) :
    rctx.bind (spec.slot.accessor.getActiveTransition
      (cancelActive domain spec.plan rctx e).global) = none := by
  obtain ⟨hcancel, hslot⟩ := h
  cases rctx with
  | none => rfl
  | some r =>
    obtain ⟨ref, href⟩ := isSome_iff_exists.mp hslot
    have href' : spec.plan.slot.getActiveTransition e.global r = some ref := href
    have hcancel' : spec.plan.cancelActiveOnCreate = true := hcancel
    simp only [cancelActive, hcancel', href', bind_some]
    split_ifs
    · exact getActive_cleared spec.slot _ r
    · exact getActive_cleared spec.slot _ r

/-- A refused decision leaves everything as it was exactly when its plan has no
transition to clear out of the subject's slot. -/
theorem refused_unchanged_iff {spec : PlanSpec} {planID : PlanID} {rctx : Option Ref}
    {e e' : Engine GlobalContext}
    (h : dispatchOne domain spec.plan planID rctx e = some (e', false)) :
    Unchanged e e' ↔ ¬Clears spec rctx e.global := by
  have hafter := Dispatched.unchanged (dispatchOne_eq_some h)
  constructor
  · rintro hsame hclears
    have hempty := cancelActive_clears hclears
    obtain ⟨-, hslot⟩ := hclears
    cases rctx with
    | none => cases hslot
    | some r =>
      rw [bind_some] at hslot hempty
      rw [← getActive_silent spec.slot hsame.global, getActive_silent spec.slot hafter.global,
        hempty] at hslot
      cases hslot
  · intro hquiet
    rw [cancelActive_eq_self hquiet] at hafter
    exact hafter

def reachableLeaver : Observation :=
  plainObservation
    [ { plainReplica 0 .diskful 6 with peers := [⟨3, [], .connected, .established, .upToDate⟩] },
      plainReplica 1 .diskful 6, plainReplica 2 .diskful 6, plainReplica 3 .diskful 5 ]
    [plainRequest 3 .forceLeave]

def forceRemoveVoter : PlanSpec :=
  forceRemovePlan .diskfulQDown .diskful [.guardVotersEven] [.removeMember, .lowerQ]

def removeVoter : PlanSpec :=
  removeDiskfulPlan .removeDiskfulQDown [.guardVotersEven]
    [diskfulToLiminal, dropDiskQDown "D∅ → A + q↓" .access, removeAccess]

/-- A second removal of the same replica is ignored. -/
theorem refused_unchanged_leaver :
    removeVoter ∈ registry ∧ ∃ results e', run fourDiskful (followed.drop 2) = some results ∧
      dispatchOne domain removeVoter.plan removeVoter.planID (some (.replica 3))
        (startCycle reachableLeaver (lastStatus fourDiskful results)).1 = some (e', false) ∧
      Unchanged (startCycle reachableLeaver (lastStatus fourDiskful results)).1 e' := by
  refine ⟨by decide +kernel, ?_⟩
  have hrun : (run fourDiskful (followed.drop 2)).any (fun results =>
      (dispatchOne domain removeVoter.plan removeVoter.planID (some (.replica 3))
        (startCycle reachableLeaver (lastStatus fourDiskful results)).1).any
          fun x => decide (x.2 = false)) = true := by
    decide +kernel
  obtain ⟨results, hresults, htest⟩ := (any_eq_true _ _).mp hrun
  obtain ⟨⟨e', refused⟩, hdispatch, rfl⟩ := exists_of_decide htest
  refine ⟨results, e', hresults, hdispatch, (refused_unchanged_iff hdispatch).mpr ?_⟩
  rintro ⟨hcancel, -⟩
  cases hcancel

/-- The forced removal of a reachable replica is refused, and the removal that
was in flight is gone from the list, the slot and the tracker. -/
theorem refused_cancels_leaver :
    forceRemoveVoter ∈ registry ∧ ∃ results e', run fourDiskful (followed.drop 2) = some results ∧
      dispatchOne domain forceRemoveVoter.plan forceRemoveVoter.planID (some (.replica 3))
        (startCycle reachableLeaver (lastStatus fourDiskful results)).1 = some (e', false) ∧
      (startCycle reachableLeaver (lastStatus fourDiskful results)).1.transitions = [0] ∧
      e'.transitions = [] ∧ e'.global.votingMembershipTransitions = ∅ ∧
      (e'.global.replicas 3).membershipTransition = none ∧
      ¬Unchanged (startCycle reachableLeaver (lastStatus fourDiskful results)).1 e' := by
  refine ⟨by decide +kernel, ?_⟩
  have hrun : (run fourDiskful (followed.drop 2)).any (fun results =>
      (dispatchOne domain forceRemoveVoter.plan forceRemoveVoter.planID (some (.replica 3))
        (startCycle reachableLeaver (lastStatus fourDiskful results)).1).any fun x =>
        decide (x.2 = false ∧
          (startCycle reachableLeaver (lastStatus fourDiskful results)).1.transitions = [0] ∧
          x.1.transitions = [] ∧ x.1.global.votingMembershipTransitions = ∅ ∧
          (x.1.global.replicas 3).membershipTransition = none)) = true := by
    decide +kernel
  obtain ⟨results, hresults, htest⟩ := (any_eq_true _ _).mp hrun
  obtain ⟨⟨e', refused⟩, hdispatch, rfl, hbefore, hafter, hvoting, hslot⟩ := exists_of_decide htest
  refine ⟨results, e', hresults, hdispatch, hbefore, hafter, hvoting, hslot, fun hsame => ?_⟩
  rw [hsame.transitions, hbefore] at hafter
  cases hafter

end ReplicatedVolume.Datamesh
