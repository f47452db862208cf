import ReplicatedVolume.Mesh.Frame

/-!
# Callbacks act on the abstract datamesh

Every apply callback has on the content the effect the abstract model gives it, and reports a
change whenever the content changes.
-/

namespace ReplicatedVolume.Datamesh
open Dmte Option

variable {g g' : GlobalContext} {c : Content} {rctx : Option Ref} {a : Apply} {changed : Bool}
  {x : Option ReplicaID} {as : List Apply} {g1 : GlobalContext}

def GlobalContext.Present (g : GlobalContext) (id : ReplicaID) : Prop :=
  g.indexed id = true ∧ (g.replicas id).named = true

/-- The contexts are consistent: each carries its own id, orphans stay outside
the mesh, and every id with an object or a member is indexed and named. -/
structure Anchored (g : GlobalContext) : Prop where
  ids : ∀ id, (g.replicas id).id = id
  orphans : ∀ rc ∈ g.orphans, rc.named = false ∧ rc.member = none
  memberID : ∀ id m, g.member id = some m → m.id = id
  rvrPresent : ∀ id, (g.rvr id).isSome = true → g.Present id
  memberPresent : ∀ id, (g.member id).isSome = true → g.Present id

def Denotes (rctx : Option Ref) (x : Option ReplicaID) : Prop :=
  ∀ r, rctx = some r → ∃ id, r = .replica id ∧ x = some id

structure Applied (g g' : GlobalContext) (c : Content) (changed : Bool) : Prop where
  fixed : g'.fixed = g.fixed
  tracker : g'.tracker = g.tracker
  slots : g'.slotAt = g.slotAt
  content : g'.content = c
  unchanged : changed = false → c = g.content
  anchored : Anchored g'

theorem fixed_ids (h : g'.fixed = g.fixed) (id : ReplicaID) :
    (g'.replicas id).id = (g.replicas id).id ∧ (g'.replicas id).named = (g.replicas id).named ∧
      g'.rvr id = g.rvr id := by
  have hctx := congrFun (congrArg Fixed.contexts h) id
  simp only [GlobalContext.fixed, Prod.mk.injEq] at hctx
  exact hctx

theorem fixed_orphans (h : g'.fixed = g.fixed)
    (horphans : ∀ rc ∈ g.orphans, rc.named = false ∧ rc.member = none) :
    ∀ rc ∈ g'.orphans, rc.named = false ∧ rc.member = none := by
  intro rc hrc
  have hmap := congrArg Fixed.orphans h
  simp only [GlobalContext.fixed] at hmap
  have hmem : (rc.named, rc.member) ∈ g.orphans.map fun rc => (rc.named, rc.member) := by
    rw [← hmap]
    exact List.mem_map_of_mem hrc
  obtain ⟨rc', hrc', heq⟩ := List.mem_map.mp hmem
  rw [Prod.mk.injEq] at heq
  rw [← heq.1, ← heq.2]
  exact horphans rc' hrc'

variable {id : ReplicaID}

theorem Present.of_fixed (hg : g.Present id) (h : g'.fixed = g.fixed)
    (hindexed : g'.indexed id = g.indexed id) : g'.Present id :=
  ⟨hindexed.trans hg.1, (fixed_ids h id).2.1.trans hg.2⟩

variable (hg : Anchored g) (hx : Denotes rctx x) (h : a.run g rctx = some (g', changed))

include hg in
theorem Anchored.congr (hfixed : g'.fixed = g.fixed)
    (hmembers : g'.member = g.member) (hindexed : g'.indexed = g.indexed) : Anchored g' := by
  constructor
  · intro id
    rw [(fixed_ids hfixed id).1, hg.ids]
  · exact fixed_orphans hfixed hg.orphans
  · rw [hmembers]
    exact hg.memberID
  · intro id hsome
    rw [(fixed_ids hfixed id).2.2] at hsome
    exact Present.of_fixed (hg.rvrPresent id hsome) hfixed (congrFun hindexed id)
  · intro id hsome
    rw [hmembers] at hsome
    exact Present.of_fixed (hg.memberPresent id hsome) hfixed (congrFun hindexed id)

theorem Agree.anchored (h : Agree g g') (hg : Anchored g) : Anchored g' :=
  hg.congr h.fixed h.members h.indexed

theorem Content.ext' {c' : Content} (hs : ∀ id, c.seats id = c'.seats id)
    (hq : c.quorum = c'.quorum) (hqmr : c.quorumMinimumRedundancy = c'.quorumMinimumRedundancy)
    (hm : c.multiattach = c'.multiattach) (hb : c.baselineGMDR = c'.baselineGMDR) : c = c' := by
  cases c
  cases c'
  simp only [Content.mk.injEq]
  exact ⟨funext hs, hq, hqmr, hm, hb⟩

def ReplicaContext.masked (rc : ReplicaContext) : ReplicaContext :=
  { rc with member := none, memberIdx := none }

def GlobalContext.masked (g : GlobalContext) : GlobalContext :=
  { g with
    quorum := 0
    quorumMinimumRedundancy := 0
    multiattach := false
    systemNetworkNames := []
    datameshSize := 0
    baselineGMDR := 0
    replicas := fun id => (g.replicas id).masked
    indexed := fun _ => false
    orphans := g.orphans.map ReplicaContext.masked }

/-- What an apply callback leaves alone: all but the members, the index and the numbers, the list
of networks unless it is one that changes networks, the size unless it resizes. -/
structure Apply.Spares (a : Apply) (g g' : GlobalContext) : Prop where
  masked : g'.masked = g.masked
  names : a ≠ .addNewNetworks → a ≠ .removeOldNetworksAndAddresses →
    g'.systemNetworkNames = g.systemNetworkNames
  size : g'.datameshSize = if a = .applyResizeVolume then alignTo4Ki g.size else g.datameshSize

variable {f : ReplicaContext → ReplicaContext}

theorem modify_spares (r : Ref)
    (hf : ∀ rc, (f rc).masked = rc.masked) (ha : a ≠ .applyResizeVolume) : a.Spares g (g.modify r f) := by
  refine ⟨?_, fun _ _ => ?_, ?_⟩
  · simp only [GlobalContext.masked, modify_replicas r hf, modify_orphans r fun _ _ => hf]
    cases r <;> rfl
  · cases r <;> rfl
  · rw [if_neg ha]
    cases r <;> rfl

theorem setMember_spares {f : DatameshMember → DatameshMember}
    (h : setMember f g rctx = some (g', changed)) (ha : a ≠ .applyResizeVolume) :
    a.Spares g g' := by
  simp only [setMember, bind_eq_bind, bind_eq_some_iff, some.injEq, Prod.mk.injEq] at h
  obtain ⟨r, -, m, -, rfl, -⟩ := h
  exact modify_spares r (fun _ => rfl) ha

include h in
theorem apply_spares : a.Spares g g' := by
  cases a with
  | createMember type =>
    simp only [Apply.run, createMember, bind_eq_bind, bind_eq_some_iff,
      some.injEq, Prod.mk.injEq] at h
    obtain ⟨r, -, rvr, -, rfl, -⟩ := h
    exact modify_spares r (fun _ => rfl) (by simp)
  | removeMember =>
    simp only [Apply.run, removeMember, bind_eq_bind, bind_eq_some_iff,
      some.injEq, Prod.mk.injEq] at h
    obtain ⟨r, -, rfl, -⟩ := h
    have hspares : Apply.removeMember.Spares g
        (g.modify r fun rc => { rc with member := none, memberIdx := none }) :=
      modify_spares r (fun _ => rfl) (by simp)
    split_ifs
    · exact ⟨hspares.masked, hspares.names, hspares.size⟩
    · exact hspares
  | setBackingVolumeFromRequest =>
    simp only [Apply.run, setBackingVolumeFromRequest, bind_eq_bind, bind_eq_some_iff] at h
    obtain ⟨_, -, _, -, h⟩ := h
    exact setMember_spares h (by simp)
  | setType _ | clearBackingVolume | applyAttach | applyDetach => exact setMember_spares h (by simp)
  | addNewNetworks =>
    cases h
    exact ⟨rfl, fun hne => absurd rfl hne, rfl⟩
  | removeOldNetworksAndAddresses =>
    cases h
    exact ⟨rfl, fun _ hne => absurd rfl hne, rfl⟩
  | _ =>
    cases h
    exact ⟨rfl, fun _ _ => rfl, rfl⟩

theorem modify_member_content (g : GlobalContext) (id : ReplicaID) (m : Option DatameshMember)
    (idx : ReplicaContext → Option ℕ) :
    (g.modify (.replica id) fun rc => { rc with member := m, memberIdx := idx rc }).content =
      g.content.setSeat (some id) fun _ => m.map seatOf := by
  refine Content.ext' (fun id' => ?_) rfl rfl rfl rfl
  by_cases h : id' = id
  · subst h
    simp [GlobalContext.content, GlobalContext.modify, GlobalContext.modifyReplica,
      GlobalContext.member, Content.setSeat]
  · simp [GlobalContext.content, GlobalContext.modify, GlobalContext.modifyReplica,
      GlobalContext.member, Content.setSeat, h]

theorem member_modify (id id' : ReplicaID) : (g.modify (.replica id) f).member id' =
      if id' = id then (f (g.replicas id)).member else g.member id' := by
  by_cases h : id' = id
  · subst h
    simp [GlobalContext.member, GlobalContext.modify, GlobalContext.modifyReplica]
  · simp [GlobalContext.member, GlobalContext.modify, GlobalContext.modifyReplica, h]

include hg in
theorem modify_member_applied {m : Option DatameshMember}
    {i : ReplicaContext → Option ℕ} (hm : ∀ m' ∈ m, m'.id = id ∧ g.Present id)
    (hc : c = g.content.setSeat (some id) fun _ => m.map seatOf)
    (hun : changed = false → c = g.content) :
    Applied g (g.modify (.replica id) fun rc => { rc with member := m, memberIdx := i rc })
      c changed := by
  have hfixed : (g.modify (.replica id) fun rc =>
      { rc with member := m, memberIdx := i rc }).fixed = g.fixed :=
    modify_fixed _ (fun _ => rfl) (fun _ => rfl) (fun _ => rfl) (fun n h => by cases h)
  refine ⟨hfixed, modify_tracker _, modify_slotAt _ (fun _ => rfl) fun _ => rfl,
    (modify_member_content g id m i).trans hc.symm, hun, ?_⟩
  constructor
  · intro id'
    rw [(fixed_ids hfixed id').1, hg.ids]
  · exact hg.orphans
  · intro id' m' hm'
    rw [member_modify] at hm'
    split_ifs at hm' with h
    · exact (hm m' hm').1.trans h.symm
    · exact hg.memberID id' m' hm'
  · intro id' hsome
    rw [(fixed_ids hfixed id').2.2] at hsome
    exact Present.of_fixed (hg.rvrPresent id' hsome) hfixed (by rw [modify_indexed])
  · intro id' hsome
    refine Present.of_fixed ?_ hfixed (by rw [modify_indexed])
    rw [member_modify] at hsome
    split_ifs at hsome with h
    · obtain ⟨m', hm'⟩ := isSome_iff_exists.mp hsome
      exact h ▸ (hm m' hm').2
    · exact hg.memberPresent id' hsome

include hg hx in
theorem createMember_applied {type : MemberType}
    (h : createMember type g rctx = some (g', changed)) :
    Applied g g' (g.content.setSeat x fun _ => some ⟨type, false⟩) changed := by
  simp only [createMember, bind_eq_bind, bind_eq_some_iff, some.injEq, Prod.mk.injEq] at h
  obtain ⟨r, hr, rvr, hrvr, rfl, rfl⟩ := h
  obtain ⟨id, rfl, rfl⟩ := hx r hr
  have hpresent : g.Present id := hg.rvrPresent id (by
    simp only [GlobalContext.ctx] at hrvr
    simp [GlobalContext.rvr, hrvr])
  refine modify_member_applied hg (fun m hm => ?_) rfl (by simp)
  cases hm
  exact ⟨hg.ids id, hpresent⟩

include hg hx in
theorem setMember_applied {f : DatameshMember → DatameshMember} {fs : Seat → Seat}
    (h : setMember f g rctx = some (g', changed)) (hid : ∀ m, (f m).id = m.id)
    (hseat : ∀ m, seatOf (f m) = fs (seatOf m)) :
    Applied g g' (g.content.setSeat x (Option.map fs)) changed := by
  simp only [setMember, bind_eq_bind, bind_eq_some_iff, some.injEq, Prod.mk.injEq] at h
  obtain ⟨r, hr, m, hm, rfl, rfl⟩ := h
  obtain ⟨id, rfl, rfl⟩ := hx r hr
  have hm' : g.member id = some m := hm
  have hsome : g.content.seats id = some (seatOf m) := by simp [GlobalContext.content, hm']
  refine modify_member_applied (i := fun rc => rc.memberIdx) hg (fun m' heq => ?_) ?_ ?_
  · cases heq
    exact ⟨(hid m).trans (hg.memberID id m hm'), hg.memberPresent id (by simp [hm'])⟩
  · simp [Content.setSeat, hsome, hseat]
  · intro hsame
    have hfm : f m = m := by simpa using hsame
    refine Content.ext' (fun id' => ?_) rfl rfl rfl rfl
    by_cases h : id' = id
    · subst h
      simp [Content.setSeat, hsome, ← hseat, hfm]
    · simp [Content.setSeat, h]

theorem setSeat_map_id (c : Content) (x : Option ReplicaID) :
    c.setSeat x (Option.map fun s => s) = c := by
  cases x with
  | none => rfl
  | some id => simp [Content.setSeat]

theorem Applied.unindex
    (h : Applied g g1 c changed) (hrvr : g1.rvr id = none) (hmember : g1.member id = none) :
    Applied g { g1 with indexed := Function.update g1.indexed id false } c changed := by
  have hpresent : ∀ id', id' ≠ id → g1.Present id' → GlobalContext.Present
      { g1 with indexed := Function.update g1.indexed id false } id' := by
    intro id' hne hid
    exact ⟨by simpa [Function.update_of_ne hne] using hid.1, hid.2⟩
  refine ⟨h.fixed, h.tracker, ?_, h.content, h.unchanged, ?_⟩
  · rw [← h.slots]
    funext slot id'
    cases slot <;> rfl
  · refine ⟨h.anchored.ids, h.anchored.orphans, h.anchored.memberID, ?_, ?_⟩
    · intro id' hsome
      change (g1.rvr id').isSome = true at hsome
      refine hpresent id' ?_ (h.anchored.rvrPresent id' hsome)
      rintro rfl
      simp [hrvr] at hsome
    · intro id' hsome
      change (g1.member id').isSome = true at hsome
      refine hpresent id' ?_ (h.anchored.memberPresent id' hsome)
      rintro rfl
      simp [hmember] at hsome

include hg hx in
theorem removeMember_applied (h : removeMember g rctx = some (g', changed)) :
    Applied g g' (g.content.setSeat x fun _ => none) changed := by
  simp only [removeMember, bind_eq_bind, bind_eq_some_iff, some.injEq, Prod.mk.injEq] at h
  obtain ⟨r, hr, rfl, rfl⟩ := h
  obtain ⟨id, rfl, rfl⟩ := hx r hr
  have happlied : Applied g _ (g.content.setSeat (some id) fun _ => none) true :=
    modify_member_applied (m := none) (i := fun _ => none) hg nofun rfl (by simp)
  have hid : (g.ctx (.replica id)).id = id := hg.ids id
  rw [hid]
  split
  · next hrvr =>
      refine happlied.unindex ?_ ?_
      · rw [(fixed_ids happlied.fixed id).2.2]
        exact hrvr
      · rw [member_modify, if_pos rfl]
  · exact happlied

theorem mapAddresses_applied (f : ReplicaContext → DatameshMember → List Address) (changed : Bool)
    (hg : Anchored g) : Applied g (mapAddresses f g).1 g.content changed := by
  have hmember : ∀ id, (mapAddresses f g).1.member id = (g.member id).map fun m =>
      { m with addresses := f (g.replicas id) m } := fun _ => rfl
  refine ⟨rfl, rfl, ?_, ?_, fun _ => rfl, ?_⟩
  · funext slot id
    cases slot <;> rfl
  · refine Content.ext' (fun id => ?_) rfl rfl rfl rfl
    change ((mapAddresses f g).1.member id).map seatOf = (g.member id).map seatOf
    rw [hmember]
    cases g.member id <;> rfl
  · refine ⟨hg.ids, hg.orphans, ?_, hg.rvrPresent, ?_⟩
    · intro id m hm
      rw [hmember, map_eq_some_iff] at hm
      obtain ⟨m', hm', rfl⟩ := hm
      exact hg.memberID id m' hm'
    · intro id hsome
      rw [hmember, isSome_map] at hsome
      exact hg.memberPresent id hsome

theorem Applied.setNetworks (h : Applied g g1 c changed)
    (names : List String) (changed' : Bool) (hun : changed' = false → c = g.content) :
    Applied g { g1 with systemNetworkNames := names } c changed' := by
  obtain ⟨hfixed, htracker, hslots, hcontent, -, hids, horphans, hmem, hrvr, hidx⟩ := h
  refine ⟨hfixed, htracker, ?_, hcontent, hun, hids, horphans, hmem, hrvr, hidx⟩
  rw [← hslots]
  funext slot id
  cases slot <;> rfl

theorem voters_content (g : GlobalContext) : g.content.voters = voters g := by
  simp only [Content.voters, voters, memberWhere, GlobalContext.content, any_map]
  rfl

theorem correctQMR_content (g : GlobalContext) :
    g.content.correctQMR g.env = (computeCorrectQuorum g).2 := by
  have hcount : g.content.upToDateDiskfulCount g.env = Datamesh.upToDateDiskfulCount g := by
    simp only [Content.upToDateDiskfulCount, Datamesh.upToDateDiskfulCount, isUpToDateDiskful,
      GlobalContext.content, GlobalContext.env, GlobalContext.member, GlobalContext.rvr,
      any_map]
    rfl
  simp only [Content.correctQMR, computeCorrectQuorum, hcount]
  rfl

include hg in
theorem scalar_applied (hreplicas : g'.replicas = g.replicas)
    (hindexed : g'.indexed = g.indexed) (horphans : g'.orphans = g.orphans)
    (hconf : g'.configuration = g.configuration) (hmax : g'.maxAttachments = g.maxAttachments)
    (htracker : g'.tracker = g.tracker) (hcontent : g'.content = c)
    (hun : changed = false → c = g.content) : Applied g g' c changed := by
  have hmember : g'.member = g.member := by
    funext id
    simp [GlobalContext.member, hreplicas]
  refine ⟨?_, htracker, ?_, hcontent, hun, ?_⟩
  · simp [GlobalContext.fixed, hreplicas, horphans, hconf, hmax]
  · funext slot id
    cases slot <;> simp [GlobalContext.slotAt, SlotID.accessor, membershipSlot, attachmentSlot,
      GlobalContext.ctx, hreplicas]
  · refine ⟨?_, ?_, ?_, ?_, ?_⟩
    · simpa [hreplicas] using hg.ids
    · simpa [horphans] using hg.orphans
    · simpa [hmember] using hg.memberID
    · simpa [GlobalContext.rvr, GlobalContext.Present, hreplicas, hindexed] using hg.rvrPresent
    · simpa [hmember, GlobalContext.Present, hreplicas, hindexed] using hg.memberPresent

include hg hx h in
theorem apply_applied : Applied g g' (a.effect g.env x g.content) changed := by
  cases a with
  | createMember type => exact createMember_applied hg hx h
  | setType | applyAttach | applyDetach =>
    exact setMember_applied hg hx h (fun _ => rfl) fun _ => rfl
  | removeMember => exact removeMember_applied hg hx h
  | setBackingVolumeFromRequest =>
    simp only [Apply.run, setBackingVolumeFromRequest, bind_eq_bind, bind_eq_some_iff] at h
    obtain ⟨_, -, _, -, h⟩ := h
    rw [Apply.effect, ← setSeat_map_id g.content x]
    exact setMember_applied hg hx h (fun _ => rfl) fun _ => rfl
  | clearBackingVolume =>
    rw [Apply.effect, ← setSeat_map_id g.content x]
    exact setMember_applied hg hx h (fun _ => rfl) fun _ => rfl
  | repairAddresses =>
    have hfst : (repairAddresses g).1 = g' := congrArg Prod.fst (some.inj h)
    rw [← hfst]
    exact mapAddresses_applied _ _ hg
  | addNewAddresses =>
    have hfst : (addNewAddresses g).1 = g' := congrArg Prod.fst (some.inj h)
    rw [← hfst]
    exact mapAddresses_applied _ _ hg
  | removeOldNetworksAndAddresses =>
    have hfst : (removeOldNetworksAndAddresses g).1 = g' := congrArg Prod.fst (some.inj h)
    rw [← hfst]
    exact (mapAddresses_applied (fun _ m => m.addresses.filter
      (·.systemNetworkName ∉ removedNetworks g)) false hg).setNetworks _ _ fun _ => rfl
  | setCorrectQ =>
    cases h
    refine scalar_applied hg rfl rfl rfl rfl rfl rfl ?_ ?_
    · rw [Apply.effect, voters_content]
      rfl
    · intro hsame
      have hq : g.quorum = voterCount g / 2 + 1 := by simpa [computeCorrectQuorum] using hsame
      rw [Apply.effect, voters_content]
      refine Content.ext' (fun _ => rfl) ?_ rfl rfl rfl
      exact hq.symm
  | setCorrectQMR =>
    cases h
    refine scalar_applied hg rfl rfl rfl rfl rfl rfl ?_ ?_
    · rw [Apply.effect, correctQMR_content]
      rfl
    · intro hsame
      have hq : g.quorumMinimumRedundancy = (computeCorrectQuorum g).2 := by simpa using hsame
      rw [Apply.effect, correctQMR_content]
      exact Content.ext' (fun _ => rfl) rfl hq.symm rfl rfl
  | updateBaselineGMDR =>
    cases h
    refine scalar_applied hg rfl rfl rfl rfl rfl rfl rfl ?_
    intro hsame
    have hb : g.baselineGMDR = baselineFor g := by simpa using hsame
    exact Content.ext' (fun _ => rfl) rfl rfl rfl hb.symm
  | applyEnableMultiattach =>
    cases h
    refine scalar_applied hg rfl rfl rfl rfl rfl rfl rfl ?_
    intro hsame
    have hm : g.multiattach = true := by simpa using hsame
    exact Content.ext' (fun _ => rfl) rfl rfl hm.symm rfl
  | applyDisableMultiattach =>
    cases h
    refine scalar_applied hg rfl rfl rfl rfl rfl rfl rfl ?_
    intro hsame
    have hm : g.multiattach = false := by simpa using hsame
    exact Content.ext' (fun _ => rfl) rfl rfl hm.symm rfl
  | raiseQ | lowerQ | raiseQMR | lowerQMR =>
    cases h
    exact scalar_applied hg rfl rfl rfl rfl rfl rfl rfl (by simp)
  | addNewNetworks | applyResizeVolume =>
    cases h
    exact scalar_applied hg rfl rfl rfl rfl rfl rfl rfl fun _ => rfl

theorem runApplies_cons (h : runApplies (a :: as) g rctx = some (g', changed)) :
    ∃ g1 c1 c2, a.run g rctx = some (g1, c1) ∧ runApplies as g1 rctx = some (g', c2) ∧
      changed = (c1 || c2) := by
  simp only [runApplies, bind_eq_bind, bind_eq_some_iff, some.injEq,
    Prod.mk.injEq, Prod.exists] at h
  obtain ⟨g1, c1, h1, g2, c2, h2, rfl, rfl⟩ := h
  exact ⟨g1, c1, c2, h1, h2, rfl⟩

include hg hx in
theorem applies_applied (h : runApplies as g rctx = some (g', changed)) :
    Applied g g' (applyAll g.env x as g.content) changed := by
  induction as generalizing g changed with
  | nil =>
    simp only [runApplies, some.injEq, Prod.mk.injEq] at h
    obtain ⟨rfl, rfl⟩ := h
    exact ⟨rfl, rfl, rfl, rfl, fun _ => rfl, hg⟩
  | cons a as ih =>
    obtain ⟨g1, c1, c2, h1, h2, rfl⟩ := runApplies_cons h
    have ha := apply_applied hg hx h1
    have has := ih ha.anchored h2
    rw [env_of_fixed ha.fixed, ha.content] at has
    refine ⟨has.fixed.trans ha.fixed, has.tracker.trans ha.tracker, has.slots.trans ha.slots,
      has.content, ?_, has.anchored⟩
    intro hc
    rw [Bool.or_eq_false_iff] at hc
    have hfirst := ha.unchanged hc.1
    have hrest := has.unchanged hc.2
    change applyAll g.env x as (a.effect g.env x g.content) = g.content
    rw [hrest, ha.content, hfirst]

end ReplicatedVolume.Datamesh
