import ReplicatedVolume.Mesh.Tracking

/-!
# Decisions are justified

Whatever a dispatcher decides, it has checked on the abstract datamesh what
`Chosen` says about the plan.
-/

namespace ReplicatedVolume.Datamesh
open Dmte List Option

variable {g : GlobalContext} {type : TransitionType} {id planID : PlanID} {r : Ref}
  {rc : ReplicaContext} {spec : PlanSpec}

inductive Reached (g : GlobalContext) : Decision GlobalContext Ref → Prop
  | network {type : TransitionType} {planID : PlanID}
      (htype : type = .repairNetworkAddresses ∨ type = .changeSystemNetworks)
      (h : decideNetwork g = some (.global type planID)) : Reached g (.global type planID)
  | quorum (hidle : g.votingMembershipTransitions = ∅) :
      Reached g (.global .changeQuorum (selectQuorumPlan (computeCorrectQuorum g).1 g.quorum
        (computeCorrectQuorum g).2 g.quorumMinimumRedundancy))
  | enable (h : g.multiattach = false) : Reached g (.global .enableMultiattach .enableMultiattach)
  | disable (h : g.multiattach = true) (hfew : g.potentiallyAttached.card ≤ 1) :
      Reached g (.global .disableMultiattach .disableMultiattach)
  | resize (h : g.datameshSize < alignTo4Ki g.size) : Reached g (.global .resizeVolume .resize)
  | membership {r : Ref} {type : TransitionType} {planID : PlanID}
      (hnamed : (g.ctx r).named = true)
      (h : chooseMembership g (g.ctx r) = some (type, .plan planID)) :
      Reached g (.replica r type planID)
  | forceDetach {r : Ref}
      (hasked : (g.ctx r).membershipRequest.any (·.operation = .forceDetach) = true)
      (h : isAttached (g.ctx r) = true) : Reached g (.replica r .forceDetach .forceDetach)
  | attach {r : Ref} (h : hasActiveRVA (g.ctx r) = true) : Reached g (.replica r .attach .attach)
  | detach {r : Ref} (h : isAttached (g.ctx r) = true) (hidle : hasActiveRVA (g.ctx r) = false) :
      Reached g (.replica r .detach .detach)
  | status {r : Ref} (slot : SlotID) {message : String} {details : Option String} :
      Reached g (.noDispatch r slot.accessor message details)

section
variable {d : Decision GlobalContext Ref}

theorem network_reached (h : decideNetwork g = some d) : Reached g d := by
  have hd := h
  unfold decideNetwork at h
  split at h
  · cases h
    exact .network (.inl rfl) hd
  · simp only [bind_eq_bind, bind_eq_some_iff] at h
    obtain ⟨rsp, -, h⟩ := h
    split at h <;> cases h
    exact .network (.inr rfl) hd

theorem quorum_reached (h : decideQuorum g = some d) : Reached g d := by
  unfold decideQuorum at h
  dsimp only at h
  split_ifs at h with hvoting
  cases h
  exact .quorum (not_not.mp hvoting)

theorem resize_reached (h : decideResize g = some d) : Reached g d := by
  unfold decideResize at h
  split at h <;> cases h
  exact .resize (not_le.mp ‹_›)

theorem toggle_reached (h : decideMultiattachToggle g = some d) : Reached g d := by
  unfold decideMultiattachToggle at h
  dsimp only at h
  split_ifs at h with henable hdisable <;> cases h
  · simp only [Bool.and_eq_true, Bool.not_eq_true'] at henable
    exact .enable henable.1.2
  · simp only [Bool.and_eq_true, decide_eq_true_eq] at hdisable
    exact .disable hdisable.1.1.2 hdisable.2

theorem membership_reached (h : decideMembership r g = some d) : Reached g d := by
  unfold decideMembership at h
  dsimp only at h
  split at h
  · cases h
  · next hnamed =>
      rw [Bool.not_eq_true', Bool.not_eq_false] at hnamed
      split at h <;> cases h
      · exact .membership hnamed ‹_›
      · exact .status .membershipSlot

theorem forceDetach_reached (h : decideForceDetach r g = some d) : Reached g d := by
  unfold decideForceDetach at h
  dsimp only at h
  split at h <;> cases h
  next hdue =>
    rw [Bool.and_eq_true] at hdue
    exact .forceDetach hdue.1 hdue.2

theorem attachment_reached (h : decideAttachmentForReplica r g = some d) : Reached g d := by
  unfold decideAttachmentForReplica at h
  dsimp only at h
  split at h
  · cases h
    exact .status .attachmentSlot
  · split at h
    · cases h
      exact .attach ‹_›
    · next hactive =>
        rw [Bool.not_eq_true] at hactive
        split_ifs at h with hattached <;> cases h
        · exact .detach hattached hactive
        · exact .status .attachmentSlot

theorem decided_reached (h : Decided domain g d) : Reached g d := by
  obtain ⟨dispatcher, hdisp, phase, hphase, g0, point, hpoint, hd⟩ := h
  simp only [domain, mem_cons, not_mem_nil, or_false] at hdisp
  rcases hdisp with rfl | rfl | rfl | rfl | rfl
  · obtain rfl := mem_singleton.mp hphase
    obtain rfl := mem_singleton.mp hpoint
    exact network_reached hd
  · obtain rfl := mem_singleton.mp hphase
    obtain rfl := mem_singleton.mp hpoint
    exact quorum_reached hd
  · obtain rfl := mem_singleton.mp hphase
    obtain ⟨r, -, rfl⟩ := mem_map.mp hpoint
    exact membership_reached hd
  · simp only [attachmentDispatcher, mem_cons, not_mem_nil, or_false] at hphase
    rcases hphase with rfl | rfl | rfl
    · obtain ⟨r, -, rfl⟩ := mem_map.mp hpoint
      exact forceDetach_reached hd
    · obtain rfl := mem_singleton.mp hpoint
      exact toggle_reached hd
    · obtain ⟨r, -, rfl⟩ := mem_map.mp hpoint
      exact attachment_reached hd
  · obtain rfl := mem_singleton.mp hphase
    obtain rfl := mem_singleton.mp hpoint
    exact resize_reached hd

end

theorem chooseMembership_type {choice : PlanChoice}
    (h : chooseMembership g rc = some (type, choice)) :
    type ∈ [TransitionType.addReplica, .removeReplica, .changeReplicaType,
      .forceRemoveReplica] := by
  unfold chooseMembership at h
  split at h <;> split at h <;> cases h <;> decide

theorem registry_scope_of_type : ∀ spec ∈ registry,
    (spec.scope = .replica ↔ spec.transitionType ∈ [TransitionType.addReplica, .removeReplica,
      .changeReplicaType, .forceRemoveReplica, .attach, .detach, .forceDetach]) := by
  decide +kernel

def Justified (g : GlobalContext) (m : Mesh) : Decision GlobalContext Ref → Prop
  | .noDispatch _ slot _ _ => ∃ s : SlotID, slot = s.accessor
  | .replica r type planID => ∀ spec, lookup type planID = some spec →
      spec.scope = .replica ∧ Chosen g.env m spec (g.replicaName r)
  | .global type planID => ∀ spec, lookup type planID = some spec →
      spec.scope = .global ∧ Chosen g.env m spec none

theorem scope_replica (hspec : lookup type planID = some spec)
    (htype : type ∈ [TransitionType.addReplica, .removeReplica, .changeReplicaType,
      .forceRemoveReplica, .attach, .detach, .forceDetach]) : spec.scope = .replica := by
  obtain ⟨hmem, htype', -⟩ := lookup_eq_some hspec
  exact (registry_scope_of_type spec hmem).mpr (htype' ▸ htype)

theorem scope_global (hspec : lookup type planID = some spec)
    (htype : type ∉ [TransitionType.addReplica, .removeReplica, .changeReplicaType,
      .forceRemoveReplica, .attach, .detach, .forceDetach]) : spec.scope = .global := by
  obtain ⟨hmem, htype', -⟩ := lookup_eq_some hspec
  have hne := mt (registry_scope_of_type spec hmem).mp (htype' ▸ htype)
  cases hs : spec.scope
  · rfl
  · exact absurd hs hne

theorem Reached.replica_scope (h : Reached g (.replica r type planID))
    (hspec : lookup type planID = some spec) : spec.scope = .replica := by
  refine scope_replica hspec ?_
  cases h with
  | membership _ hchoose =>
    have htype := chooseMembership_type hchoose
    simp only [mem_cons, not_mem_nil, or_false] at htype ⊢
    tauto
  | forceDetach => decide
  | attach => decide
  | detach => decide

theorem Reached.global_scope (h : Reached g (.global type planID))
    (hspec : lookup type planID = some spec) : spec.scope = .global := by
  refine scope_global hspec ?_
  cases h with
  | network htype => rcases htype with rfl | rfl <;> decide
  | quorum => decide
  | enable => decide
  | disable => decide
  | resize => decide

theorem orphan_blank (hg : Anchored g) (n : ℕ) :
    (g.ctx (.orphan n)).named = false ∧ (g.ctx (.orphan n)).member = none := by
  simp only [GlobalContext.ctx, getD_eq_getElem?_getD]
  cases hn : g.orphans[n]? with
  | none => exact ⟨rfl, rfl⟩
  | some rc => exact hg.orphans rc (mem_of_getElem? hn)

theorem named_ref (hg : Anchored g) (h : (g.ctx r).named = true) :
    ∃ id, r = .replica id ∧ g.replicaName r = some id := by
  cases r with
  | replica id =>
    refine ⟨id, rfl, ?_⟩
    have hid : (g.ctx (.replica id)).id = id := hg.ids id
    simp [GlobalContext.replicaName, h, hid]
  | orphan n => simp [(orphan_blank hg n).1] at h

theorem member_ref (hg : Anchored g) (h : (g.ctx r).member.isSome = true) :
    ∃ id, r = .replica id ∧ g.replicaName r = some id := by
  cases r with
  | replica id => exact named_ref hg (hg.memberPresent id h).2
  | orphan n => simp [(orphan_blank hg n).2] at h

def StartsAt (type : TransitionType) (planID : PlanID) (member : MemberType) : Prop :=
  ∀ spec, lookup type planID = some spec → spec.startsAt member = true

theorem startsAt_of_check {member : MemberType}
    (h : (lookup type planID).all (·.startsAt member) = true) : StartsAt type planID member := by
  intro spec hspec
  simpa [hspec] using h

theorem planForceRemove_startsAt (h : planForceRemoveReplica g rc = .plan id) :
    ∃ t, memberType rc = some t ∧ StartsAt .forceRemoveReplica id t := by
  unfold planForceRemoveReplica at h
  cases ht : memberType rc with
  | none => simp [ht] at h
  | some t =>
    refine ⟨t, rfl, startsAt_of_check ?_⟩
    cases t <;> simp only [ht] at h <;> (try split_ifs at h) <;> cases h <;> decide +kernel

theorem planRemove_startsAt (h : planRemoveReplica g rc = .plan id) :
    ∃ t, memberType rc = some t ∧ StartsAt .removeReplica id t := by
  unfold planRemoveReplica planRemoveDiskful at h
  cases ht : memberType rc with
  | none => simp [ht] at h
  | some t =>
    refine ⟨t, rfl, startsAt_of_check ?_⟩
    cases t <;> simp only [ht] at h <;> (try split at h) <;> cases h <;> decide +kernel

theorem planRetype_startsAt {t : MemberType} {target : ReplicaType}
    (h : planRetype g t target = .plan id) : StartsAt .changeReplicaType id t := by
  refine startsAt_of_check ?_
  cases t <;> cases target <;> simp only [planRetype, planByParity, planGainDisk] at h <;>
    (try split at h) <;> cases h <;> decide +kernel

section
variable {g : GlobalContext} {m : Mesh} {d : Decision GlobalContext Ref}

theorem attached_of_isAttached (hg : Anchored g) (hcontent : m.content = g.content)
    (h : isAttached (g.ctx r) = true) :
    ∃ id, g.replicaName r = some id ∧ id ∈ m.content.attached := by
  have hsome : (g.ctx r).member.isSome = true := by
    unfold isAttached at h
    cases hmem : (g.ctx r).member with
    | none => simp [hmem] at h
    | some _ => rfl
  obtain ⟨id, rfl, hname⟩ := member_ref hg hsome
  refine ⟨id, hname, ?_⟩
  rw [hcontent]
  exact mem_attached_content.mpr h

theorem member_of_memberType (hcontent : m.content = g.content) {id : ReplicaID} {t : MemberType}
    (h : memberType (g.ctx (.replica id)) = some t) :
    ∃ s, m.content.seats id = some s ∧ s.type = t := by
  unfold memberType at h
  rw [map_eq_some_iff] at h
  obtain ⟨mem, hmem, rfl⟩ := h
  have hmem' : g.member id = some mem := hmem
  refine ⟨seatOf mem, ?_, rfl⟩
  simp [hcontent, GlobalContext.content, hmem']

theorem chooseMembership_chosen (hcontent : m.content = g.content) {id : ReplicaID}
    (h : chooseMembership g (g.ctx (.replica id)) = some (type, .plan planID))
    (hspec : lookup type planID = some spec) :
    spec.scope = .replica ∧ Chosen g.env m spec (some id) := by
  obtain ⟨-, htype, -⟩ := lookup_eq_some hspec
  have hleaves : (∃ t, memberType (g.ctx (.replica id)) = some t ∧ StartsAt type planID t) →
      ∃ id' s, some id = some id' ∧ m.content.seats id' = some s ∧ spec.startsAt s.type = true := by
    rintro ⟨t, ht, hstart⟩
    obtain ⟨s, hs, rfl⟩ := member_of_memberType hcontent ht
    exact ⟨id, s, rfl, hs, hstart spec hspec⟩
  have hforce : planForceRemoveReplica g (g.ctx (.replica id)) = .plan planID →
      type = .forceRemoveReplica → spec.scope = .replica ∧ Chosen g.env m spec (some id) := by
    rintro hplan rfl
    refine ⟨scope_replica hspec (by decide), ?_⟩
    simp only [Chosen, htype]
    exact hleaves (planForceRemove_startsAt hplan)
  unfold chooseMembership at h
  cases hreq : (g.ctx (.replica id)).membershipRequest with
  | none =>
    simp only [hreq] at h
    split at h
    · simp only [some.injEq, Prod.mk.injEq] at h
      exact hforce h.2 h.1.symm
    · cases h
  | some req =>
    simp only [hreq] at h
    cases hop : req.operation <;> simp only [hop, some.injEq, Prod.mk.injEq, reduceCtorEq] at h
    case join =>
      obtain ⟨rfl, hplan⟩ := h
      refine ⟨scope_replica hspec (by decide), ?_⟩
      simp only [Chosen, htype]
      refine ⟨id, rfl, ?_⟩
      unfold planAddReplica at hplan
      split at hplan
      · cases hplan
      · next hnone =>
          have hmember : g.member id = none := by
            simpa [GlobalContext.ctx, GlobalContext.member] using hnone
          simp [hcontent, GlobalContext.content, hmember]
    case leave =>
      obtain ⟨rfl, hplan⟩ := h
      refine ⟨scope_replica hspec (by decide), ?_⟩
      simp only [Chosen, htype]
      exact hleaves (planRemove_startsAt hplan)
    case forceLeave => exact hforce h.2 h.1.symm
    case changeRole =>
      obtain ⟨rfl, hplan⟩ := h
      refine ⟨scope_replica hspec (by decide), ?_⟩
      simp only [Chosen, htype]
      refine hleaves ?_
      unfold planChangeReplicaType at hplan
      cases hmem : (g.ctx (.replica id)).member with
      | none => simp [hmem] at hplan
      | some mem =>
        simp only [hmem] at hplan
        split at hplan
        · cases hplan
        · cases htarget : req.type with
          | none => simp [htarget, notImplemented] at hplan
          | some target =>
            simp only [htarget] at hplan
            exact ⟨mem.type, by simp [memberType, hmem], planRetype_startsAt hplan⟩

theorem decided_justified (hg : Anchored g) (hm : m.Coherent) (hcontent : m.content = g.content)
    (hpa : m.potentiallyAttached = g.potentiallyAttached) (htracks : Tracks g.tracker m.active)
    (h : Decided domain g d) : Justified g m d := by
  have hreached := decided_reached h
  cases hreached with
  | network htype =>
    intro spec hspec
    rcases htype with rfl | rfl <;>
      exact ⟨scope_global hspec (by decide), by simp [Chosen, (lookup_eq_some hspec).2.1]⟩
  | quorum hidle =>
    intro spec hspec
    obtain ⟨-, htype, hplan⟩ := lookup_eq_some hspec
    refine ⟨scope_global hspec (by decide), ?_⟩
    simp only [Chosen, htype]
    refine ⟨idle_voting hm htracks hidle, ?_⟩
    rw [hplan, hcontent, correctQMR_content, voters_content]
    rfl
  | enable hoff =>
    intro spec hspec
    refine ⟨scope_global hspec (by decide), ?_⟩
    simp only [Chosen, (lookup_eq_some hspec).2.1, hcontent]
    exact hoff
  | disable hon hfew =>
    intro spec hspec
    refine ⟨scope_global hspec (by decide), ?_⟩
    simp only [Chosen, (lookup_eq_some hspec).2.1, hcontent, hpa]
    exact ⟨hon, hfew⟩
  | resize =>
    intro spec hspec
    exact ⟨scope_global hspec (by decide), by simp [Chosen, (lookup_eq_some hspec).2.1]⟩
  | membership hnamed hchoose =>
    obtain ⟨id, rfl, hname⟩ := named_ref hg hnamed
    intro spec hspec
    rw [hname]
    exact chooseMembership_chosen hcontent hchoose hspec
  | forceDetach _ hattached | detach hattached =>
    intro spec hspec
    refine ⟨scope_replica hspec (by decide), ?_⟩
    simp only [Chosen, (lookup_eq_some hspec).2.1]
    exact attached_of_isAttached hg hcontent hattached
  | attach =>
    intro spec hspec
    exact ⟨scope_replica hspec (by decide), by simp [Chosen, (lookup_eq_some hspec).2.1]⟩
  | status slot => exact ⟨slot, rfl⟩

end

end ReplicatedVolume.Datamesh
