import ReplicatedVolume.Mesh.Effects
import ReplicatedVolume.Mesh.Silent

/-!
# Confirmations, guards and admission on the abstract datamesh

A satisfied confirmation, a passed guard and an admission of the faithful
model imply their abstract counterparts. The tracker is tied to the list of
live transitions by `Tracks`, the slots by `Linked`.
-/

namespace ReplicatedVolume.Datamesh
open Dmte Option Finset

variable {id : ReplicaID} {g : GlobalContext} {rev : ℕ} {rctx : Option Ref} {cr : ConfirmResult}
  {x : Option ReplicaID} {g' : GlobalContext} {result : GuardResult}

@[simp]
theorem mem_idsWhere {p : ReplicaID → Bool} : id ∈ idsWhere p ↔ p id = true := by simp [idsWhere]

theorem mem_confirmedReplicas : id ∈ confirmedReplicas g rev ↔ g.env.Confirmed rev id := by
  simp only [confirmedReplicas, mem_idsWhere, Env.Confirmed, GlobalContext.env]
  cases g.rvr id <;> simp

theorem seats_eq_some {s : Seat} (h : g.content.seats id = some s) :
    ∃ m, g.member id = some m ∧ seatOf m = s := by
  simpa [GlobalContext.content, map_eq_some_iff] using h

theorem mem_memberWhere {p : DatameshMember → Bool} {m : DatameshMember}
    (hm : g.member id = some m) (hp : p m = true) : id ∈ memberWhere g p := by
  simp [memberWhere, hm, hp]

theorem confirmIDs_holds {must : Finset ReplicaID} (h : (confirmIDs g must rev).Holds)
    (hid : id ∈ must) : g.env.Confirmed rev id := by
  have hmem := h.mem id hid
  exact mem_confirmedReplicas.mp (mem_inter.mp hmem).1

theorem confirmSubject_holds {ok : Option RVR → Bool}
    (hg : Anchored g) (hx : Denotes rctx x) (h : confirmSubject ok g rctx = some cr)
    (hh : cr.Holds) (hid : x = some id) : ok (g.rvr id) = true := by
  simp only [confirmSubject, bind_eq_bind, bind_eq_some_iff, some.injEq] at h
  obtain ⟨r, hr, rfl⟩ := h
  obtain ⟨id0, rfl, rfl⟩ := hx r hr
  obtain rfl := some.inj hid
  have hmem := hh.mem id0 (by simp [GlobalContext.ctx, hg.ids])
  by_contra hok
  have hok' : ¬ok (g.ctx (.replica id0)).rvr = true := hok
  simp [hok'] at hmem

theorem confirmLeaving_holds {members : Finset ReplicaID} (hg : Anchored g) (hx : Denotes rctx x)
    (h : confirmLeaving g rctx members rev = some cr) (hh : cr.Holds) :
    (∀ id ∈ members, x ≠ some id → g.env.Confirmed rev id) ∧
      ∀ id, x = some id → g.env.Confirmed rev id ∨ g.env.reported id = some 0 := by
  simp only [confirmLeaving, bind_eq_bind, bind_eq_some_iff, some.injEq] at h
  obtain ⟨r, hr, rfl⟩ := h
  obtain ⟨id0, rfl, rfl⟩ := hx r hr
  have hid0 : (g.ctx (.replica id0)).id = id0 := hg.ids id0
  rw [hid0] at hh
  have hconf : ∀ id ∈ members ∪ {id0}, g.env.Confirmed rev id ∨
      (id = id0 ∧ g.env.reported id0 = some 0) := by
    intro id hid
    split at hh
    · next hzero =>
        have hmem := hh.mem id hid
        rcases mem_union.mp hmem with hmem | hmem
        · exact .inl (mem_confirmedReplicas.mp (mem_inter.mp hmem).1)
        · refine .inr ⟨mem_singleton.mp hmem, ?_⟩
          simp only [GlobalContext.ctx] at hzero
          simp only [GlobalContext.env, GlobalContext.rvr]
          cases hrvr : (g.replicas id0).rvr with
          | none => simp [hrvr] at hzero
          | some rvr => simpa [hrvr] using hzero
    · exact .inl (confirmIDs_holds hh hid)
  constructor
  · intro id hid hne
    rcases hconf id (mem_union_left _ hid) with h | ⟨rfl, -⟩
    · exact h
    · exact absurd rfl hne
  · intro id hid
    rw [some.injEq] at hid
    subst hid
    rcases hconf id0 (by simp) with h | ⟨-, h⟩
    · exact .inl h
    · exact .inr h

theorem confirm_holds {cf : Confirm} (hg : Anchored g)
    (hx : Denotes rctx x) (h : cf.run g rctx rev = some cr) (hh : cr.Holds) :
    cf.Holds g.env g.content x rev := by
  have hmembers : ∀ must : Finset ReplicaID, cr = confirmIDs g must rev →
      ∀ id ∈ must, g.env.Confirmed rev id := by
    rintro must rfl id hid
    exact confirmIDs_holds hh hid
  have hwhere : ∀ ok, cr = confirmMembersWhere ok g rev →
      ∀ id s, g.content.seats id = some s → g.env.Confirmed rev id := by
    rintro ok rfl id s hs
    obtain ⟨m, hm, -⟩ := seats_eq_some hs
    have hmem := hh.mem id (mem_memberWhere hm rfl)
    exact mem_confirmedReplicas.mp (mem_inter.mp (mem_filter.mp hmem).1).1
  cases cf with
  | confirmSubjectOnly =>
    intro id hid
    have hok := confirmSubject_holds hg hx h hh hid
    exact mem_confirmedReplicas.mp (by simpa [confirmedReplicas] using hok)
  | confirmSubjectOnlyLeavingOrGone =>
    intro id r hid hrep
    have hok := confirmSubject_holds hg hx h hh hid
    simp only [GlobalContext.env, map_eq_some_iff] at hrep
    obtain ⟨rvr, hrvr, rfl⟩ := hrep
    simpa [hrvr] using hok
  | confirmFMPlusSubject =>
    simp only [Confirm.run, confirmFMPlusSubject, bind_eq_bind, bind_eq_some_iff, some.injEq] at h
    obtain ⟨r, hr, rfl⟩ := h
    obtain ⟨id0, rfl, rfl⟩ := hx r hr
    constructor
    · intro id s hs hfm
      obtain ⟨m, hm, rfl⟩ := seats_eq_some hs
      have hmem : id ∈ fullMeshMemberIDs g := mem_memberWhere hm hfm
      exact confirmIDs_holds hh (mem_union_left _ hmem)
    · rintro id ⟨⟩
      exact confirmIDs_holds hh (by simp [GlobalContext.ctx, hg.ids])
  | confirmFMPlusSubjectLeaving =>
    obtain ⟨hrest, hsub⟩ := confirmLeaving_holds hg hx h hh
    refine ⟨fun id s hs hfm hne => ?_, hsub⟩
    obtain ⟨m, hm, rfl⟩ := seats_eq_some hs
    exact hrest id (mem_memberWhere hm hfm) hne
  | confirmAllMembersLeaving =>
    obtain ⟨hrest, hsub⟩ := confirmLeaving_holds hg hx h hh
    refine ⟨fun id s hs hne => ?_, hsub⟩
    obtain ⟨m, hm, rfl⟩ := seats_eq_some hs
    exact hrest id (mem_memberWhere hm rfl) hne
  | confirmAllMembers =>
    intro id s hs
    obtain ⟨m, hm, rfl⟩ := seats_eq_some hs
    exact hmembers _ (some.inj h).symm id (mem_memberWhere hm rfl)
  | confirmImmediate => trivial
  | confirmMultiattach =>
    intro id s hs hor
    obtain ⟨m, hm, rfl⟩ := seats_eq_some hs
    refine hmembers _ (some.inj h).symm id (mem_memberWhere hm ?_)
    simpa [seatOf] using hor
  | confirmAllConnected | confirmAddedAddressesAvailable | confirmAllConnectedOnAddedNetworks =>
    exact hwhere _ (some.inj h).symm

@[simp]
theorem blockIf_blocked (b : Bool) (message : String) (details : Option String) :
    (blockIf b message details).blocked = b := by
  cases b <;> rfl

theorem mem_attached_content : id ∈ g.content.attached ↔ (g.member id).any (·.attached) = true := by
  simp only [Content.attached, mem_idsWhere, GlobalContext.content, any_map]
  rfl

section
variable {m : Mesh} (hcontent : m.content = g.content)
  (hpa : m.potentiallyAttached = g.potentiallyAttached)
  (hx : ∀ id, x = some id → rctx = some (.replica id))
  (hfree : ∀ slot id, x = some id → g.slotAt slot id = none → m.Free slot id)
include hcontent hpa hx hfree

theorem guard_holds {guard : Guard}
    (h : guard.run g rctx = some (result, g')) (hpass : result.blocked = false) :
    guard.Holds g.env m x := by
  -- a replica guard has a context to look at
  have hrun : ∀ check, guard.replicaGuard = some check → guard ≠ .guardQuorumSatisfied →
      guard ≠ .guardBackingVolumesGrown → ∃ r, rctx = some r ∧ result = check g (g.ctx r) := by
    intro check hcheck hq hb
    unfold Guard.run at h
    split at h
    · exact absurd rfl hq
    · exact absurd rfl hb
    · rw [hcheck] at h
      cases rctx with
      | none => cases h
      | some r =>
        simp only [some.injEq, Prod.mk.injEq] at h
        exact ⟨r, rfl, h.1.symm⟩
  cases guard with
  | guardVotersEven =>
    obtain ⟨r, -, rfl⟩ := hrun _ rfl (by simp) (by simp)
    simp only [Guard.Holds, hcontent, voters_content]
    simpa [guardVotersEven, voterCount] using hpass
  | guardVotersOdd =>
    obtain ⟨r, -, rfl⟩ := hrun _ rfl (by simp) (by simp)
    simp only [Guard.Holds, hcontent, voters_content]
    simp only [guardVotersOdd, voterCount, blockIf_blocked] at hpass
    have hne := of_decide_eq_false hpass
    omega
  | guardQMRRaiseNeeded | guardQMRLowerNeeded =>
    obtain ⟨r, -, rfl⟩ := hrun _ rfl (by simp) (by simp)
    rw [Guard.Holds, hcontent]
    simp only [guardQMRRaiseNeeded, guardQMRLowerNeeded, blockIf_blocked, decide_eq_false_iff_not,
      not_le] at hpass
    exact hpass
  | guardNotAttached =>
    obtain ⟨r, hr, rfl⟩ := hrun _ rfl (by simp) (by simp)
    intro id hid
    obtain rfl := some.inj (hr.symm.trans (hx id hid))
    rw [hcontent, mem_attached_content]
    by_cases hatt : (g.ctx (.replica id)).member.any (·.attached) = true
    · simp [guardNotAttached, hatt, GuardResult.block] at hpass
    · refine ⟨hatt, hfree _ id hid ?_⟩
      simp only [guardNotAttached, hatt, Bool.false_eq_true, if_false] at hpass
      split at hpass
      · assumption
      · simp [GuardResult.block] at hpass
  | guardMemberExists =>
    obtain ⟨r, hr, rfl⟩ := hrun _ rfl (by simp) (by simp)
    intro id hid
    obtain rfl := some.inj (hr.symm.trans (hx id hid))
    rw [hcontent]
    by_cases hmem : (g.ctx (.replica id)).member.isSome = true
    · simpa [GlobalContext.content, GlobalContext.member, GlobalContext.ctx] using hmem
    · simp [guardMemberExists, hmem, GuardResult.block] at hpass
  | guardNoActiveMembershipTransition =>
    obtain ⟨r, hr, rfl⟩ := hrun _ rfl (by simp) (by simp)
    intro id hid
    obtain rfl := some.inj (hr.symm.trans (hx id hid))
    have hnone : (g.ctx (.replica id)).membershipTransition = none := by
      simpa [guardNoActiveMembershipTransition] using hpass
    exact hfree .membershipSlot id hid hnone
  | guardSlotAvailable =>
    obtain ⟨r, -, rfl⟩ := hrun _ rfl (by simp) (by simp)
    have hlt : g.potentiallyAttached.card < g.maxAttachments := by
      simpa [guardSlotAvailable] using hpass
    rw [Guard.Holds, hpa]
    exact hlt
  | guardCanDisableMultiattach =>
    simp only [Guard.run, Guard.replicaGuard, Guard.globalGuard, map_some,
      some.injEq, Prod.mk.injEq] at h
    obtain ⟨rfl, -⟩ := h
    simp only [Guard.Holds, hpa]
    simpa [guardCanDisableMultiattach] using hpass
  | guardMaxAttachmentsAllowsMultiattach =>
    simp only [Guard.run, Guard.replicaGuard, Guard.globalGuard, map_some,
      some.injEq, Prod.mk.injEq] at h
    obtain ⟨rfl, -⟩ := h
    simpa [Guard.Holds, GlobalContext.env, guardMaxAttachmentsAllowsMultiattach] using hpass
  | _ => trivial

theorem guards_hold {guards : List Guard}
    (h : evaluateGuards rctx (guards.map Guard.run) g = some (result, g'))
    (hpass : result.blocked = false) : ∀ guard ∈ guards, guard.Holds g.env m x := by
  intro guard hmem
  obtain ⟨g1, g2, result1, hsilent, hrun, hpass1⟩ := evaluateGuards_pass h hpass guard hmem
  have hagree := Agree.of_silent hsilent
  have hpa1 : g1.potentiallyAttached = g.potentiallyAttached :=
    congrArg Tracker.potentiallyAttached hagree.tracker
  rw [← env_of_fixed hagree.fixed]
  exact guard_holds (hcontent.trans hagree.content.symm) (hpa.trans hpa1.symm) hx
    (by rwa [hagree.slots]) hrun hpass1

end

end ReplicatedVolume.Datamesh
