import ReplicatedVolume.Mesh.Orderly
import ReplicatedVolume.Safety.Quorum

/-!
# The number of members with a disk

Admission counts the members that have a disk and those whose live transition will give them one. A
step moves replicas from the second set to the first, and only a creation adds to the union.
-/

namespace ReplicatedVolume.Datamesh
open Dmte List

variable {id : ReplicaID}

def Content.disks (c : Content) : Finset ReplicaID :=
  idsWhere fun id => (c.seats id).any (·.type.needsBackingVolume)

def ReplicaType.bearsDisk : ReplicaType → Bool
  | .diskful | .shadowDiskful => true
  | .tieBreaker | .access => false

theorem needsBackingVolume_eq (type : MemberType) :
    type.needsBackingVolume = ReplicaType.bearsDisk (baseType type) := by
  cases type <;> rfl

theorem mem_disks {c : Content} : id ∈ c.disks ↔ (c.base id).any ReplicaType.bearsDisk = true := by
  rw [Content.disks, mem_idsWhere, Content.base, Option.any_map]
  simp only [needsBackingVolume_eq]

def PlanSpec.gainsDisk (spec : PlanSpec) : Bool :=
  match spec.transitionType, spec.init with
  | .addReplica, .setReplicaType type => ReplicaType.bearsDisk type
  | .changeReplicaType, .setReplicaFromToType _ target => ReplicaType.bearsDisk target
  | _, _ => false

theorem registry_keepsDiskless : ∀ spec ∈ registry, spec.gainsDisk = false →
    ∀ n ∈ List.range spec.steps.length,
      (spec.baseAfter (n + 1)).any ReplicaType.bearsDisk = true →
      (spec.baseAfter n).any ReplicaType.bearsDisk = true := by
  decide +kernel

/-- A plan that gives a disk is guarded by the limit, unless its subject has one
already, and its subject is a member from the first step on. -/
theorem registry_gainsDisk : ∀ spec ∈ registry, spec.gainsDisk = true →
    (.guardMaxDiskMembers ∈ spec.guards ∨ spec.startBase.any ReplicaType.bearsDisk = true) ∧
    (spec.scope = .replica ∧ spec.slot = .membershipSlot) ∧
    ∀ n ∈ List.range spec.steps.length, (spec.baseAfter (n + 1)).isSome = true := by
  decide +kernel

def Active.gains (a : Active) (id : ReplicaID) : Bool :=
  a.slot = some (.membershipSlot, id) && a.spec.any (·.gainsDisk)

theorem Active.gains_eq_true {a : Active} :
    a.gains id = true ↔ a.slot = some (.membershipSlot, id) ∧
      ∃ spec, a.spec = some spec ∧ spec.gainsDisk = true := by
  simp [Active.gains, Option.any_eq_true]

def Mesh.gaining (m : Mesh) : Finset ReplicaID := idsWhere fun id => m.active.any (·.gains id)

theorem Mesh.mem_gaining {m : Mesh} : id ∈ m.gaining ↔ ∃ a ∈ m.active, a.gains id = true := by
  simp [Mesh.gaining, mem_idsWhere]

def Mesh.claimed (m : Mesh) : Finset ReplicaID := m.content.disks ∪ m.gaining

section
variable {env : Env} {before : List MeshEvent} {m m' : Mesh} {ev : MeshEvent}
  (hstep : MeshStep env before m ev m') (hcoherent : m.Coherent) (hbased : m.Based)

include hstep hcoherent hbased in
theorem MeshStep.disks_subset : m'.content.disks ⊆ m.content.disks ∪ m'.gaining := by
  intro id hid
  rw [Finset.mem_union]
  rcases hstep.read_cases (R := baseReading) hcoherent hbased id with
    hkept | ⟨a, ha, spec, hspec, hslot, hidx, hbefore, hafter, -⟩
  · left
    rw [mem_disks] at hid ⊢
    have hbase : m'.content.base id = m.content.base id := hkept
    rwa [← hbase]
  · by_cases hgains : spec.gainsDisk = true
    · exact .inr (Mesh.mem_gaining.mpr
        ⟨a, ha, Active.gains_eq_true.mpr ⟨hslot, spec, hspec, hgains⟩⟩)
    · left
      rw [mem_disks] at hid ⊢
      have hbase : m.content.base id = spec.baseAfter a.idx := hbefore
      have hbase' : m'.content.base id = spec.baseAfter (a.idx + 1) := hafter
      rw [hbase'] at hid
      rw [hbase]
      exact registry_keepsDiskless spec (lookup_eq_some hspec).1 (Bool.eq_false_iff.mpr hgains)
        a.idx (mem_range.mpr hidx) hid

include hstep in
theorem MeshStep.gaining_cases (hid : id ∈ m'.gaining) :
    id ∈ m.gaining ∨ (ev.kind = .created ∧ ev.active.gains id = true) := by
  obtain ⟨b, hb, hgains⟩ := Mesh.mem_gaining.mp hid
  rcases hstep.active_origin hb with ⟨a, ha, heq⟩ | ⟨hkind, rfl⟩
  · have hsame : b.gains id = a.gains id := by
      rw [heq]
      rfl
    exact .inl (Mesh.mem_gaining.mpr ⟨a, ha, hsame ▸ hgains⟩)
  · exact .inr ⟨hkind, hgains⟩

include hstep hcoherent hbased in
theorem MeshStep.claimed_cases (hid : id ∈ m'.claimed) :
    id ∈ m.claimed ∨ (ev.kind = .created ∧ ev.active.gains id = true) := by
  have hgained : id ∈ m'.gaining →
      id ∈ m.claimed ∨ (ev.kind = .created ∧ ev.active.gains id = true) := fun h =>
    (hstep.gaining_cases h).imp_left (Finset.mem_union_right _)
  rcases Finset.mem_union.mp hid with hid | hid
  · rcases Finset.mem_union.mp (hstep.disks_subset hcoherent hbased hid) with hid | hid
    · exact .inl (Finset.mem_union_left _ hid)
    · exact hgained hid
  · exact hgained hid

def MeshEvent.Within (ev : MeshEvent) : Prop :=
  ev.kind = .created → ∀ spec, ev.active.spec = some spec →
    .guardMaxDiskMembers ∈ spec.guards → ev.before.claimed.card < maxDiskMembers

include hstep in
theorem MeshStep.room (hwithin : ev.Within)
    (hkind : ev.kind = .created) (hgains : ev.active.gains id = true) :
    id ∈ m.claimed ∨ m.claimed.card < maxDiskMembers := by
  obtain ⟨hslot, spec, hspec, hgain⟩ := Active.gains_eq_true.mp hgains
  obtain ⟨hguarded, hmember, -⟩ := registry_gainsDisk spec (lookup_eq_some hspec).1 hgain
  rcases hguarded with hguard | hstart
  · have hroom := hwithin hkind spec hspec hguard
    rw [hstep.after.1] at hroom
    exact .inr hroom
  · left
    obtain ⟨spec', x, hspec', hchosen, -, hcreate⟩ := hstep.created hkind
    cases hcreate with
    | @create _ _ rev =>
      have hlookup : (spec'.start x rev).spec = some spec' := lookup_of_mem spec' hspec'
      rw [hlookup, Option.some.injEq] at hspec
      subst hspec
      obtain ⟨-, -, -, -, hid⟩ := Active.slot_eq_some hslot
      have hx : x = some id := hid
      subst hx
      apply Finset.mem_union_left
      rwa [mem_disks, hchosen.startBase hspec' hmember]

include hstep hcoherent hbased in
theorem MeshStep.claimed_le (hwithin : ev.Within) (h : m.claimed.card ≤ maxDiskMembers) :
    m'.claimed.card ≤ maxDiskMembers := by
  by_cases hnew : ∃ id ∈ m'.claimed, id ∉ m.claimed
  · obtain ⟨id, hid, hfresh⟩ := hnew
    obtain ⟨hkind, hgains⟩ := (hstep.claimed_cases hcoherent hbased hid).resolve_left hfresh
    have hroom := (hstep.room hwithin hkind hgains).resolve_left hfresh
    -- one slot names one replica
    have hsub : m'.claimed ⊆ insert id m.claimed := by
      intro id' hid'
      rw [Finset.mem_insert]
      rcases hstep.claimed_cases hcoherent hbased hid' with hold | ⟨-, hgains'⟩
      · exact .inr hold
      · left
        have hslot := (Active.gains_eq_true.mp hgains).1
        rw [(Active.gains_eq_true.mp hgains').1, Option.some.injEq, Prod.mk.injEq] at hslot
        exact hslot.2
    calc m'.claimed.card ≤ (insert id m.claimed).card := Finset.card_le_card hsub
      _ ≤ m.claimed.card + 1 := Finset.card_insert_le id m.claimed
      _ ≤ maxDiskMembers := hroom
  · push Not at hnew
    exact (Finset.card_le_card hnew).trans h

end

theorem gainsDisk_of_typed {t : Transition} {spec : PlanSpec}
    (hspec : lookup t.type t.planID = some spec) (htyped : Typed t)
    (hgains : spec.gainsDisk = true) : gainsDisk t = true := by
  have htypes := htyped spec hspec
  have htype := (lookup_eq_some hspec).2.1
  unfold PlanSpec.gainsDisk at hgains
  unfold gainsDisk
  split at hgains
  · next type hadd hinit =>
      rw [hinit] at htypes
      rw [← htype, hadd, show t.replicaType = some type from congrArg (·.1) htypes]
      cases type <;> first | rfl | cases hgains
  · next source target hchange hinit =>
      rw [hinit] at htypes
      rw [← htype, hchange, show t.toReplicaType = some target from congrArg (·.2.2) htypes]
      cases target <;> first | rfl | cases hgains
  · cases hgains

def pendingDisks (g : GlobalContext) : Finset ReplicaID :=
  idsWhere fun id => (g.member id).any (!·.type.needsBackingVolume) &&
    (g.replicas id).membershipTransition.any (Datamesh.gainsDisk ·.header)

theorem disks_content (g : GlobalContext) :
    g.content.disks = memberWhere g (·.type.needsBackingVolume) := by
  ext id
  simp [Content.disks, memberWhere, GlobalContext.content, Option.any_map, seatOf]

theorem Orderly.claimed_subset {e : Engine GlobalContext} (h : Orderly e) :
    (meshOf e).claimed ⊆ (meshOf e).content.disks ∪ pendingDisks e.global := by
  intro id hid
  rcases Finset.mem_union.mp hid with hdisk | hgain
  · exact Finset.mem_union_left _ hdisk
  · obtain ⟨a, ha, hgains⟩ := Mesh.mem_gaining.mp hgain
    obtain ⟨hslot, spec, hspec, hgain⟩ := Active.gains_eq_true.mp hgains
    obtain ⟨-, -, hmember⟩ := registry_gainsDisk spec (lookup_eq_some hspec).1 hgain
    have hidx := ((h.regular.coherent.known a ha).of_spec hspec).2.2
    -- the plan made its subject a member
    have hbase := h.regular.based a ha spec id hspec hslot
    have hsome := hmember a.idx (mem_range.mpr hidx)
    rw [← hbase, Content.base, Option.isSome_map] at hsome
    obtain ⟨s, hs⟩ := Option.isSome_iff_exists.mp hsome
    obtain ⟨mb, hmb, -⟩ := seats_eq_some (g := e.global) hs
    by_cases hdisk : id ∈ (meshOf e).content.disks
    · exact Finset.mem_union_left _ hdisk
    · apply Finset.mem_union_right
      have hnone : mb.type.needsBackingVolume = false := by
        have hcontent : (meshOf e).content = e.global.content := rfl
        rw [hcontent, disks_content] at hdisk
        by_contra hneeds
        rw [Bool.not_eq_false] at hneeds
        exact hdisk (mem_memberWhere hmb hneeds)
      have hnamed := (h.linked.anchored.memberPresent id (by rw [hmb]; rfl)).2
      rw [meshOf_active] at ha
      obtain ⟨k, hk, rfl⟩ := mem_map.mp ha
      obtain ⟨ref, href, hptr⟩ := h.linked.forward k hk .membershipSlot id hslot hnamed
      -- the slot shows the transition with the types of its plan
      have hheader := h.ledgered.slots .membershipSlot id ref href
      rw [hptr] at hheader
      have htyped := h.ledgered.typed _ (mem_headers.mpr ⟨k, hk, rfl⟩)
      have hgainer : Datamesh.gainsDisk (headerOf (e.heap k)) = true :=
        gainsDisk_of_typed hspec htyped hgain
      rw [← hheader] at hgainer
      have hslotRef : (e.global.replicas id).membershipTransition = some ref := href
      have hgainer' : Datamesh.gainsDisk ref.header = true := hgainer
      simp [pendingDisks, hmb, hnone, hslotRef, hgainer']

theorem guardMaxDiskMembers_pass {g : GlobalContext} {rc : ReplicaContext}
    (h : (guardMaxDiskMembers g rc).blocked = false) :
    g.content.disks.card + (pendingDisks g).card < maxDiskMembers := by
  rw [disks_content]
  simpa [guardMaxDiskMembers, pendingDisks] using h

theorem pendingDisks_agree {g g' : GlobalContext} (h : Agree g g') :
    pendingDisks g' = pendingDisks g := by
  have hslot : ∀ id, (g'.replicas id).membershipTransition =
      (g.replicas id).membershipTransition := fun id =>
    congrFun (congrFun h.slots .membershipSlot) id
  simp only [pendingDisks, h.members, hslot]

theorem Vouched.within {F : Fixed} {ev : Event GlobalContext} (h : Vouched F ev) :
    (meshEvent ev).Within := by
  intro hkind spec hspec hguard
  obtain ⟨e, spec', rctx, g, hfrom, -⟩ := h.created hkind
  have hsame : some spec = some spec' := hspec.symm.trans hfrom.plan
  cases hsame
  obtain ⟨result, hguards, hpass⟩ := hfrom.guards
  obtain ⟨g1, g2, result1, hsilent, hrun, hpass1⟩ := evaluateGuards_pass hguards hpass _ hguard
  have hagree := Agree.of_silent hsilent
  have hbefore : (meshEvent ev).before = meshOf e := by
    change snapshotMesh ev.before = _
    rw [hfrom.before]
    exact meshOf_agree (Agree.of_silent (evaluateGuards_silent hguards))
  have hroom : g1.content.disks.card + (pendingDisks g1).card < maxDiskMembers := by
    cases rctx with
    | none => cases hrun
    | some r =>
      cases hrun
      exact guardMaxDiskMembers_pass hpass1
  rw [hagree.content, pendingDisks_agree hagree] at hroom
  rw [hbefore]
  calc (meshOf e).claimed.card
      ≤ ((meshOf e).content.disks ∪ pendingDisks e.global).card :=
        Finset.card_le_card hfrom.orderly.claimed_subset
    _ ≤ e.global.content.disks.card + (pendingDisks e.global).card := Finset.card_union_le _ _
    _ < maxDiskMembers := hroom

theorem Hist.claimed_le {Q : Content → Env → Env → Prop} {m0 m : Mesh} {τ0 τ : Trail}
    (h : Hist Q (fun _ ev _ => ev.Within) m0 τ0 m τ) (h0 : m0.Regular)
    (hclaimed : m0.claimed.card ≤ maxDiskMembers) :
    m.Regular ∧ m.claimed.card ≤ maxDiskMembers ∧
      ∀ ev ∈ τ.events, ev ∈ τ0.events ∨ ev.after.claimed.card ≤ maxDiskMembers := by
  induction h with
  | start => exact ⟨h0, hclaimed, fun ev hev => .inl hev⟩
  | observe _ _ _ ih => exact ⟨ih.1.refresh, ih.2.1, ih.2.2⟩
  | step _ hstep hwithin ih =>
    obtain ⟨hregular, hle, hevents⟩ := ih
    have hle' := hstep.claimed_le hregular.coherent hregular.based hwithin hle
    refine ⟨hstep.regular hregular, hle', fun ev hev => ?_⟩
    rcases mem_cons.mp hev with rfl | hev
    · rw [hstep.after.2]
      exact .inr hle'
    · exact hevents ev hev

theorem Status.Formed.gaining {st : Status} (h : st.Formed) : st.mesh.gaining = ∅ := by
  rw [Finset.eq_empty_iff_forall_notMem]
  intro id hid
  obtain ⟨a, ha, hgains⟩ := Mesh.mem_gaining.mp hid
  obtain ⟨-, spec, hspec, -⟩ := Active.gains_eq_true.mp hgains
  obtain ⟨t, ht, rfl⟩ := mem_map.mp ha
  have htype : t.type = .formation := by
    rcases h with h | ⟨t', h, htype, -⟩
    · rw [h] at ht
      cases ht
    · rw [h, mem_singleton] at ht
      rw [ht, htype]
  obtain ⟨hmem, htype', -⟩ := lookup_eq_some hspec
  exact registry_type_ne_formation spec hmem (htype'.trans htype)

/-- Every status and every state inside a cycle has at most eight members with
a disk, if the run starts with at most eight. -/
theorem disk_members_bounded {st : Status} {obs : List Observation} {results : List CycleResult}
    (hstart : st.Formed) (hdisks : st.content.disks.card ≤ maxDiskMembers)
    (hrun : run st obs = some results) :
    (∀ p ∈ published st results, p.content.disks.card ≤ maxDiskMembers) ∧
    ∀ r ∈ results, ∀ ev ∈ r.log, ev.after.global.content.disks.card ≤ maxDiskMembers := by
  have hst := hstart.orderly
  have hclaimed : st.mesh.claimed.card ≤ maxDiskMembers := by
    rwa [Mesh.claimed, hstart.gaining, Finset.union_empty]
  have hallowed : RunAllowed (fun _ ev _ => ev.Within) obs results := by
    refine runAllowed_of_forall fun r hr ev hev => ?_
    obtain ⟨o, -, st', hvouched⟩ := (run_orderly hst hrun).2 r hr ev hev
    exact hvouched.within
  have hbound : ∀ m : Mesh, m.claimed.card ≤ maxDiskMembers →
      m.content.disks.card ≤ maxDiskMembers := fun m h =>
    (Finset.card_le_card Finset.subset_union_left).trans h
  obtain ⟨-, m, τ, hhist, htrace, -⟩ := run_history hst.toWellFormed hrun hallowed
    (runObserved_true .none st obs results)
  obtain ⟨-, -, hevents⟩ := hhist.claimed_le hst.regular hclaimed
  have hafter : ∀ ev ∈ allEvents results, ev.after.content.disks.card ≤ maxDiskMembers := by
    intro ev hev
    rw [← htrace.events] at hev
    exact hbound _ ((hevents ev hev).resolve_left (by simp [Trail.start]))
  constructor
  · intro p hp
    rcases (hhist.reached_iff _ _).mp (htrace.reached p hp) with ⟨-, hc⟩ | ⟨ev, hev, -, hc⟩
    · rwa [hc]
    · rw [hc]
      rw [htrace.events] at hev
      exact hafter ev hev
  · intro r hr ev hev
    have hmem : meshEvent ev ∈ allEvents results := mem_map_of_mem (mem_flatMap.mpr ⟨r, hr, hev⟩)
    exact hafter _ hmem

def nineMembers : Status :=
  ⟨[0, 1, 2, 3, 4, 5].map (plainMember · .diskful) ++ [6, 7, 8].map (plainMember · .access),
    4, 1, false, [], 0, 5, 0, []⟩

def crowded : List Observation :=
  let ask (id : ReplicaID) : ReplicaRequest := ⟨id, "", .changeRole, some .shadowDiskful, "vg", ""⟩
  let replicas (revision : ℕ) : List RVR :=
    [0, 1, 2, 3, 4, 5].map (plainReplica · .diskful revision) ++
      [6, 7, 8].map (plainReplica · .shadowDiskful revision)
  [8, 5].map fun revision =>
    { plainObservation (replicas revision) [ask 6, ask 7, ask 8] with features := ⟨true⟩ }

/-- Two of them get it. -/
theorem disk_members_bounded_crowded :
    ∃ results, run nineMembers crowded = some results ∧
      (lastStatus nineMembers results).content.disks = {0, 1, 2, 3, 4, 5, 6, 7} ∧
      (∀ p ∈ published nineMembers results, p.content.disks.card ≤ maxDiskMembers) ∧
      ∀ r ∈ results, ∀ ev ∈ r.log, ev.after.global.content.disks.card ≤ maxDiskMembers := by
  have hrun : (run nineMembers crowded).any (fun results => decide
      ((lastStatus nineMembers results).content.disks = {0, 1, 2, 3, 4, 5, 6, 7})) = true := by
    decide +kernel
  obtain ⟨results, hresults, hdisks⟩ := exists_of_decide hrun
  exact ⟨results, hresults, hdisks, disk_members_bounded (.inl rfl) (by decide +kernel) hresults⟩

end ReplicatedVolume.Datamesh
