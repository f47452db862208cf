import ReplicatedVolume.Library.Keyed
import ReplicatedVolume.Mesh.Simulation

/-!
# Cycles on the abstract datamesh

A cycle rebuilds its contexts from the status, follows the abstract datamesh, and persists a status
that denotes the datamesh it ended in, with the potentially attached replicas recomputed.
-/

namespace ReplicatedVolume.Datamesh
open Dmte List

variable {st : Status} {obs : Observation} {g : GlobalContext} {changed zonesChanged : Bool}
  {e : Engine GlobalContext} {g0 : GlobalContext} {known : List ReplicaID} {m : DatameshMember}
  {members : List DatameshMember} {r : CycleResult}

def memberOf (members : List DatameshMember) (id : ReplicaID) : Option DatameshMember :=
  members.reverse.find? (·.id = id)

theorem memberOf_eq_some (hids : (members.map (·.id)).Nodup)
    {id : ReplicaID} :
    memberOf members id = some m ↔ m ∈ members ∧ m.id = id := by
  unfold memberOf
  rw [Keyed.find?_eq_some (by rwa [map_reverse, nodup_reverse]), mem_reverse]

def rvrOf (rvrs : List RVR) (id : ReplicaID) : Option RVR := rvrs.reverse.find? (·.id = id)

def Status.content (st : Status) : Content :=
  ⟨fun id => (memberOf st.members id).map seatOf, st.quorum, st.quorumMinimumRedundancy,
    st.multiattach, st.baselineGMDR⟩

def Mesh.refresh (m : Mesh) : Mesh := { m with potentiallyAttached := m.occupied }

def Status.mesh (st : Status) : Mesh :=
  Mesh.refresh ⟨st.content, st.datameshRevision, st.transitions.map activeOf, ∅⟩

structure Status.WellFormed (st : Status) : Prop where
  coherent : st.mesh.Coherent
  steps : ∀ t ∈ st.transitions, ∀ spec, (activeOf t).spec = some spec →
    t.steps.length = spec.steps.length

def Observation.env (obs : Observation) : Env :=
  ⟨fun id => (rvrOf obs.rvrs id).map (·.datameshRevision),
    fun id => (rvrOf obs.rvrs id).any fun rvr => rvr.backingVolume.any (·.state = .upToDate),
    obs.configuration.guaranteedMinimumDataRedundancy, obs.maxAttachments.getD 1⟩

theorem buildContexts_member (st : Status) (obs : Observation) (id : ReplicaID) :
    (buildContexts st obs).member id = memberOf st.members id := by
  have hfst : (st.members.zipIdx.reverse).map (·.1) = st.members.reverse := by
    rw [map_reverse, zipIdx_map_fst]
  change (st.members.zipIdx.reverse.find? _).map (·.1) = _
  rw [memberOf, ← hfst, List.find?_map]
  rfl

theorem buildContexts_named {id : ReplicaID}
    (h : ((buildContexts st obs).replicas id).named = true) :
    (buildContexts st obs).indexed id = true := by
  change (baseContext st obs id).named = true at h
  have hknown : id ∈ knownIDs st obs := by
    simp only [baseContext, Bool.or_eq_true, Option.isSome_iff_exists] at h
    simp only [knownIDs, mem_toFinset, mem_append, mem_map]
    rcases h with (⟨rvr, hrvr⟩ | ⟨m, hm⟩) | ⟨req, hreq⟩
    · have hid := List.find?_some hrvr
      exact .inl (.inl (.inl ⟨rvr, mem_reverse.mp (mem_of_find?_eq_some hrvr), by simpa using hid⟩))
    · have hid := List.find?_some hm
      have hmem := mem_reverse.mp (mem_of_find?_eq_some hm)
      exact .inl (.inl (.inr ⟨m.1, fst_mem_of_mem_zipIdx hmem, by simpa using hid⟩))
    · have hid := List.find?_some hreq
      exact .inl (.inr ⟨req, mem_reverse.mp (mem_of_find?_eq_some hreq), by simpa using hid⟩)
  simp [buildContexts, hknown, h]

variable {nodeOf : ReplicaID → String} {acc : (ReplicaID → List RVA) × List ReplicaContext}

theorem assignRVAs_orphans
    {group : List RVA}
    (h : ∀ rc ∈ acc.2, rc.named = false ∧ rc.member = none) :
    ∀ rc ∈ (assignRVAs nodeOf known acc group).2, rc.named = false ∧ rc.member = none := by
  unfold assignRVAs
  cases group with
  | nil => exact h
  | cons rva rest =>
    simp only
    split
    · exact h
    · split
      · next n _ =>
          intro rc hrc
          rw [mem_iff_getElem?] at hrc
          obtain ⟨i, hi⟩ := hrc
          rw [List.getElem?_modify, Option.map_eq_map, Option.map_eq_some_iff] at hi
          obtain ⟨rc', hrc', rfl⟩ := hi
          have hold := h rc' (mem_of_getElem? hrc')
          split
          · exact hold
          · exact hold
      · intro rc hrc
        rcases mem_append.mp hrc with hrc | hrc
        · exact h rc hrc
        · rw [mem_singleton.mp hrc]
          exact ⟨rfl, rfl⟩

theorem foldl_assignRVAs_orphans
    {groups : List (List RVA)}
    (h : ∀ rc ∈ acc.2, rc.named = false ∧ rc.member = none) :
    ∀ rc ∈ (groups.foldl (assignRVAs nodeOf known) acc).2, rc.named = false ∧ rc.member = none := by
  induction groups generalizing acc with
  | nil => exact h
  | cons group groups ih => exact ih (assignRVAs_orphans h)

theorem buildContexts_anchored (st : Status) (obs : Observation) :
    Anchored (buildContexts st obs) := by
  have hpresent : ∀ id, ((buildContexts st obs).replicas id).named = true →
      (buildContexts st obs).Present id := fun id h => ⟨buildContexts_named h, h⟩
  constructor
  · exact fun _ => rfl
  · exact foldl_assignRVAs_orphans (by simp)
  · intro id m hm
    rw [buildContexts_member] at hm
    simpa using List.find?_some hm
  · intro id h
    apply hpresent
    have h' : (obs.rvrs.reverse.find? (·.id = id)).isSome = true := h
    simp [buildContexts, baseContext, h']
  · intro id h
    apply hpresent
    have h' : (st.members.zipIdx.reverse.find? (·.1.id = id)).isSome = true := by
      simpa [GlobalContext.member, buildContexts, baseContext] using h
    simp [buildContexts, baseContext, h']

theorem zones_member (g : GlobalContext) (id : ReplicaID) :
    ((updateMemberZonesFromRSP g).1.member id).map seatOf = (g.member id).map seatOf := by
  change ((g.member id).map _).map seatOf = _
  rw [Option.map_map]
  rfl

def startContext (obs : Observation) (st : Status) : GlobalContext :=
  newConcurrencyTracker (updateMemberZonesFromRSP (buildContexts st obs)).1

theorem startContext_content (obs : Observation) (st : Status) :
    (startContext obs st).content = st.content := by
  apply Content.ext'
  · intro id
    change ((updateMemberZonesFromRSP (buildContexts st obs)).1.member id).map seatOf = _
    rw [zones_member, buildContexts_member]
    rfl
  all_goals rfl

theorem startContext_anchored (obs : Observation) (st : Status) :
    Anchored (startContext obs st) := by
  obtain ⟨hids, horphans, hmember, hrvr, hpresent⟩ := buildContexts_anchored st obs
  refine ⟨hids, horphans, ?_, hrvr, ?_⟩
  · intro id m hm
    change ((buildContexts st obs).member id).map _ = some m at hm
    rw [Option.map_eq_some_iff] at hm
    obtain ⟨m', hm', rfl⟩ := hm
    exact hmember id m' hm'
  · intro id h
    change (((buildContexts st obs).member id).map _).isSome = true at h
    rw [Option.isSome_map] at h
    exact hpresent id h

theorem initSlot_spec (g : GlobalContext) (k : ℕ) (t : Transition) :
    (initSlot domain g k t).fixed = g.fixed ∧ (initSlot domain g k t).member = g.member ∧
    (initSlot domain g k t).content = g.content ∧ (initSlot domain g k t).tracker = g.tracker ∧
    (initSlot domain g k t).indexed = g.indexed ∧
    ∀ slot id, (initSlot domain g k t).slotAt slot id =
      if (activeOf t).slot = some (slot, id) ∧ g.indexed id = true then some ⟨k, t⟩
      else g.slotAt slot id := by
  have hslot : (activeOf t).slot = (lookup t.type t.planID).bind fun spec => t.replica.bind
      fun id => if spec.scope = .replica then some (spec.slot, id) else none := by
    have hspec : (activeOf t).spec = lookup t.type t.planID := rfl
    have hreplica : (activeOf t).replica = t.replica := rfl
    rw [Active.slot, hspec, hreplica]
    cases lookup t.type t.planID <;> cases t.replica <;> rfl
  unfold initSlot
  cases hid : t.replica with
  | none =>
    rw [hid] at hslot
    have hnone : (activeOf t).slot = none := by
      rw [hslot]
      cases lookup t.type t.planID <;> rfl
    simp [hnone]
  | some id =>
    rw [hid] at hslot
    cases hspec : lookup t.type t.planID with
    | none =>
      rw [hspec] at hslot
      have hget : domain.get t.type t.planID = none := by simp [domain, hspec]
      simp [hget, hslot]
    | some spec =>
      simp only [hspec, Option.bind_some] at hslot
      have hget : domain.get t.type t.planID = some spec.plan := by simp [domain, hspec]
      simp only [hget]
      by_cases hscope : spec.scope = .replica
      · have hplan : spec.plan.scope = .replica := hscope
        simp only [hscope, if_true] at hslot
        by_cases hindexed : g.indexed id = true
        · have hreplica : domain.replica g id = some (.replica id) := by
            simp [domain, GlobalContext.replica, hindexed]
          rw [hplan, hreplica]
          simp only
          refine ⟨setActiveTransition_fixed _ _ _ _, setActiveTransition_member _ _ _ _,
            setActiveTransition_content _ _ _ _, setActiveTransition_tracker _ _ _ _,
            setActiveTransition_indexed _ _ _ _, ?_⟩
          intro slot id'
          change GlobalContext.slotAt (spec.slot.accessor.setActiveTransition _ _ _) _ _ = _
          rw [setActiveTransition_slotAt]
          by_cases hs : slot = spec.slot ∧ id' = id
          · obtain ⟨rfl, rfl⟩ := hs
            simp [hslot, hindexed]
          · rw [if_neg hs, if_neg]
            rintro ⟨heq, -⟩
            rw [hslot, Option.some.injEq, Prod.mk.injEq] at heq
            exact hs ⟨heq.1.symm, heq.2.symm⟩
        · have hreplica : domain.replica g id = none := by
            simp [domain, GlobalContext.replica, hindexed]
          rw [hplan, hreplica]
          refine ⟨rfl, rfl, rfl, rfl, rfl, fun slot id' => ?_⟩
          rw [if_neg]
          rintro ⟨hs, hi⟩
          rw [hslot, Option.some.injEq, Prod.mk.injEq] at hs
          exact hindexed (hs.2 ▸ hi)
      · have hplan : ¬spec.plan.scope = .replica := hscope
        simp only [hscope, if_false] at hslot
        cases hs : spec.plan.scope with
        | replica => exact absurd hs hplan
        | global => simp [hslot]

structure Registered (g₀ : GlobalContext) (ts : List Transition) (g : GlobalContext) : Prop where
  fixed : g.fixed = g₀.fixed
  members : g.member = g₀.member
  content : g.content = g₀.content
  indexed : g.indexed = g₀.indexed
  tracks : Tracks g.tracker (ts.map activeOf)
  attached : ∀ id, id ∈ g.potentiallyAttached ↔ id ∈ g₀.potentiallyAttached ∨
    ∃ t ∈ ts, t.group = .attachment ∧ t.replica = some id
  forward : ∀ k t, ts[k]? = some t → ∀ slot id, (activeOf t).slot = some (slot, id) →
    g.indexed id = true → g.slotAt slot id = some ⟨k, t⟩
  back : ∀ slot id ref, g.slotAt slot id = some ref →
    ts[ref.ptr]? = some ref.header ∧ (activeOf ref.header).slot = some (slot, id)

theorem Registered.concat {ts : List Transition} {t : Transition}
    (h : Registered g0 ts g) (hapart : ∀ t' ∈ ts, Compatible (activeOf t') (activeOf t)) :
    Registered g0 (ts ++ [t]) (initSlot domain (trackerAdd g t) ts.length t) := by
  obtain ⟨hfixed, hmembers, hcontent, htracker, hindexed, hslots⟩ :=
    initSlot_spec (trackerAdd g t) ts.length t
  have hindexed' := hindexed.trans (trackerAdd_indexed g t)
  have hpa : (initSlot domain (trackerAdd g t) ts.length t).potentiallyAttached =
      (activeOf t).gained g.potentiallyAttached :=
    (congrArg Tracker.potentiallyAttached htracker).trans
      (trackerAdd_potentiallyAttached g t rfl rfl)
  constructor
  · exact hfixed.trans ((trackerAdd_fixed g t).trans h.fixed)
  · exact hmembers.trans ((trackerAdd_member g t).trans h.members)
  · exact hcontent.trans ((trackerAdd_content g t).trans h.content)
  · exact hindexed'.trans h.indexed
  · rw [htracker, map_append]
    exact h.tracks.add t rfl rfl
  · intro id
    have hgained : (activeOf t).gained g.potentiallyAttached =
        if t.group = .attachment then g.potentiallyAttached ∪ t.replica.toFinset
        else g.potentiallyAttached := rfl
    rw [hpa, hgained]
    by_cases hgroup : t.group = .attachment
    · simp [hgroup, h.attached id, or_and_right, exists_or, or_assoc]
    · simp [hgroup, h.attached id, or_and_right, exists_or]
  · intro k t' hk slot id hslot hid
    rw [hslots]
    rw [hindexed'] at hid
    by_cases hlast : k < ts.length
    · rw [List.getElem?_append_left hlast] at hk
      rw [if_neg, trackerAdd_slotAt]
      · exact h.forward k t' hk slot id hslot hid
      · rintro ⟨hs, -⟩
        exact (hapart t' (mem_of_getElem? hk)).slot _ hslot hs
    · rw [List.getElem?_append_right (not_lt.mp hlast), List.getElem?_singleton] at hk
      split at hk
      · next hzero =>
          cases hk
          have hlen : k = ts.length := by omega
          rw [if_pos ⟨hslot, by rw [trackerAdd_indexed]; exact hid⟩, hlen]
      · cases hk
  · intro slot id ref href
    rw [hslots] at href
    split at href
    · next hs =>
        cases href
        exact ⟨by simp, hs.1⟩
    · rw [trackerAdd_slotAt] at href
      obtain ⟨ht, hs⟩ := h.back slot id ref href
      have hlt := (List.getElem?_eq_some_iff.mp ht).1
      exact ⟨by rw [List.getElem?_append_left hlt]; exact ht, hs⟩

theorem initTransitions_registered {pre ts : List Transition}
    (h : Registered g0 pre g) (hapart : ((pre ++ ts).map activeOf).Pairwise Compatible) :
    Registered g0 (pre ++ ts) (initTransitions domain pre.length ts g) := by
  induction ts generalizing pre g with
  | nil =>
    rwa [append_nil]
  | cons t ts ih =>
    have hsplit : pre ++ t :: ts = (pre ++ [t]) ++ ts := by simp
    rw [hsplit] at hapart ⊢
    have hlast : ∀ t' ∈ pre, Compatible (activeOf t') (activeOf t) := by
      intro t' ht'
      rw [map_append, pairwise_append, map_append, pairwise_append] at hapart
      exact hapart.1.2.2 _ (mem_map_of_mem ht') _ (by simp)
    have hnext := ih (h.concat hlast) hapart
    rw [length_append, length_singleton] at hnext
    exact hnext

theorem startContext_registered (obs : Observation) (st : Status) :
    Registered (startContext obs st) [] (startContext obs st) := by
  refine ⟨rfl, rfl, rfl, rfl, ?_, ?_, ?_, ?_⟩
  · exact tracks_nil _ rfl rfl rfl rfl rfl rfl rfl rfl
  · simp
  · simp
  · intro slot id ref href
    have hnone : (startContext obs st).slotAt slot id = none := by cases slot <;> rfl
    rw [hnone] at href
    cases href

def startEngine (obs : Observation) (st : Status) : Engine GlobalContext :=
  newEngine domain (startContext obs st) st.datameshRevision st.transitions

theorem startCycle_engine (obs : Observation) (st : Status) :
    (startCycle obs st).1 = startEngine obs st := rfl

section
variable {obs : Observation} {st : Status}

theorem startEngine_registered (h : st.WellFormed) :
    Registered (startContext obs st) st.transitions (startEngine obs st).global :=
  initTransitions_registered (startContext_registered obs st) h.coherent.apart

theorem startEngine_heap {k : ℕ} (hk : k ∈ (startEngine obs st).transitions) :
    st.transitions[k]? = some ((startEngine obs st).heap k) := by
  have hlt : k < st.transitions.length := mem_range.mp hk
  change _ = some (st.transitions.getD k default)
  rw [getD_eq_getElem?_getD, List.getElem?_eq_getElem hlt]
  rfl

/-- The engine starts with the stored transitions, in their order. -/
theorem startEngine_map {β : Type} (f : Transition → β) :
    (startEngine obs st).transitions.map (fun k => f ((startEngine obs st).heap k)) =
      st.transitions.map f := by
  apply ext_getElem?
  intro k
  rw [List.getElem?_map, List.getElem?_map]
  by_cases hk : k < st.transitions.length
  · have hmem : k ∈ (startEngine obs st).transitions := mem_range.mpr hk
    have hrange : (startEngine obs st).transitions[k]? = some k := List.getElem?_range hk
    rw [hrange, startEngine_heap hmem]
    rfl
  · have hnone : (startEngine obs st).transitions[k]? = none :=
      List.getElem?_eq_none (by simpa [startEngine, newEngine] using hk)
    rw [hnone, List.getElem?_eq_none (not_lt.mp hk)]
    rfl

theorem startEngine_active :
    (startEngine obs st).transitions.map (activeAt (startEngine obs st)) =
      st.transitions.map activeOf :=
  startEngine_map activeOf

theorem startEngine_linked (h : st.WellFormed) : Linked (startEngine obs st) := by
  have hreg : Registered (startContext obs st) _ _ := startEngine_registered h
  constructor
  · exact nodup_range
  · exact fun k hk => mem_range.mp hk
  · intro k hk spec hspec
    exact h.steps _ (mem_of_getElem? (startEngine_heap hk)) spec hspec
  · exact (startContext_anchored obs st).congr hreg.fixed hreg.members hreg.indexed
  · rw [startEngine_active]
    exact hreg.tracks
  · intro k hk slot id hslot hnamed
    rw [(fixed_ids hreg.fixed id).2.1] at hnamed
    refine ⟨_, hreg.forward k _ (startEngine_heap hk) slot id hslot ?_, rfl⟩
    rw [hreg.indexed]
    exact buildContexts_named hnamed
  · intro slot id ref href
    obtain ⟨ht, hslot⟩ := hreg.back slot id ref href
    refine ⟨(List.getElem?_eq_some_iff.mp ht).1, fun hmem => ?_⟩
    rw [startEngine_heap hmem, Option.some.injEq] at ht
    rwa [activeAt, ht]

theorem startEngine_mesh (h : st.WellFormed) : meshOf (startEngine obs st) = st.mesh := by
  have hreg : Registered (startContext obs st) _ _ := startEngine_registered h
  have hcontent := hreg.content.trans (startContext_content obs st)
  have hpa : (startEngine obs st).global.potentiallyAttached = st.mesh.potentiallyAttached := by
    ext id
    have hbase : id ∈ (startContext obs st).potentiallyAttached ↔ id ∈ st.content.attached := by
      rw [← startContext_content obs st, mem_attached_content]
      exact Finset.mem_filter_univ id
    rw [hreg.attached, hbase]
    simp [Status.mesh, Mesh.refresh, Mesh.occupied, mem_idsWhere, activeOf]
  rw [meshOf_eq, startEngine_active, hcontent, hpa]
  rfl

theorem startEngine_sound (h : st.WellFormed) : Sound (startEngine obs st) := by
  refine ⟨startEngine_linked h, ?_⟩
  rw [startEngine_mesh h]
  exact h.coherent

theorem startEngine_env (h : st.WellFormed) : (startEngine obs st).global.env = obs.env :=
  env_of_fixed (startEngine_registered h).fixed

end

theorem memberOf_eq {l : List DatameshMember} {f : ReplicaID → Option DatameshMember}
    (hid : ∀ id m, f id = some m → m.id = id) (hsound : ∀ m ∈ l, f m.id = some m)
    (hcomplete : ∀ id m, f id = some m → m ∈ l) (id : ReplicaID) : memberOf l id = f id := by
  cases hfind : memberOf l id with
  | none =>
    cases hf : f id with
    | none => rfl
    | some m =>
      have hnone := List.find?_eq_none.mp hfind m (mem_reverse.mpr (hcomplete id m hf))
      exact absurd (hid id m hf) (by simpa using hnone)
  | some m =>
    have hmid : m.id = id := by simpa using List.find?_some hfind
    rw [← hmid]
    exact (hsound m (mem_reverse.mp (mem_of_find?_eq_some hfind))).symm

theorem indexedMember_eq (hg : Anchored g) (id : ReplicaID) : indexedMember g id = g.member id := by
  unfold indexedMember
  by_cases h : (g.member id).isSome = true
  · rw [if_pos (hg.memberPresent id h).1]
  · rw [Option.not_isSome_iff_eq_none] at h
    rw [h, ite_self]

theorem writeback_sound (hg : Anchored g)
    (hm : m ∈ writebackMembersFromContexts members g) : g.member m.id = some m := by
  have hindexed := indexedMember_eq hg
  unfold writebackMembersFromContexts at hm
  simp only [mem_append, mem_filter, mem_filterMap] at hm
  rcases hm with ⟨x, -, hx⟩ | ⟨⟨id', -, hid'⟩, -⟩
  · split at hx
    · rw [hindexed] at hx
      rwa [hg.memberID _ _ hx]
    · cases hx
  · rw [hindexed] at hid'
    rw [hg.memberID _ _ hid']
    exact hid'

theorem writeback_member (hg : Anchored g) (members : List DatameshMember) (id : ReplicaID) :
    memberOf (writebackMembersFromContexts members g) id = g.member id := by
  have hindexed := indexedMember_eq hg
  refine memberOf_eq hg.memberID (fun m hm => writeback_sound hg hm) ?_ id
  intro id' m hm
  unfold writebackMembersFromContexts
  simp only
  generalize hsurviving : (members.zipIdx.filterMap fun x =>
    if (g.replicas x.1.id).memberIdx = some x.2 then indexedMember g x.1.id else none) = surviving
  by_cases hin : m.id ∈ surviving.map (·.id)
  · obtain ⟨m', hm', heq⟩ := mem_map.mp hin
    have hmem := hm'
    rw [← hsurviving, mem_filterMap] at hmem
    obtain ⟨x, -, hx⟩ := hmem
    split at hx
    · rw [hindexed] at hx
      have hid := hg.memberID _ _ hx
      rw [← hid, heq, hg.memberID _ _ hm, hm, Option.some.injEq] at hx
      exact mem_append_left _ (hx ▸ hm')
    · cases hx
  · apply mem_append_right
    rw [mem_filter, mem_filterMap]
    refine ⟨⟨id', mem_finRange id', ?_⟩, by simpa using hin⟩
    rwa [hindexed]

theorem MeshStep.content_of_kind {env : Env} {before : List MeshEvent} {m m' : Mesh}
    {ev : MeshEvent} (h : MeshStep env before m ev m')
    (hkind : ev.kind = .dispatched ∨ ev.kind = .cancelled) :
    m'.content = m.content ∧ m'.revision = m.revision := by
  cases h with
  | advance => simp at hkind
  | complete => simp at hkind
  | dispatch => exact ⟨rfl, rfl⟩
  | cancel _ _ _ hcancel =>
    cases hcancel
    exact ⟨rfl, rfl⟩
  | create _ _ _ hcreate =>
    cases hcreate
    simp at hkind

theorem MeshRun.content_of_kinds {env : Env} {m m' : Mesh} {evs : List MeshEvent}
    (h : MeshRun env m evs m') (hkinds : ∀ ev ∈ evs, ev.kind = .dispatched ∨ ev.kind = .cancelled) :
    m'.content = m.content ∧ m'.revision = m.revision := by
  induction h with
  | refl => exact ⟨rfl, rfl⟩
  | step _ hstep ih =>
    obtain ⟨hlater, hearlier⟩ := forall_mem_cons.mp hkinds
    obtain ⟨hcontent, hrev⟩ := ih hearlier
    obtain ⟨hcontent', hrev'⟩ := hstep.content_of_kind hlater
    exact ⟨hcontent'.trans hcontent, hrev'.trans hrev⟩

theorem finishCycle_content
    (he : Anchored e.global) (hsame : changed = false → e.global.content = st.content) :
    (finishCycle obs st e changed zonesChanged).status.content = e.global.content := by
  have hback : ∀ id, (memberOf (writebackMembersFromContexts st.members e.global) id).map seatOf =
      (e.global.member id).map seatOf := fun id => by rw [writeback_member he]
  cases changed with
  | true =>
    apply Content.ext'
    · intro id
      simp only [finishCycle, Bool.true_or, if_true]
      exact hback id
    all_goals rfl
  | false =>
    rw [hsame rfl]
    cases zonesChanged with
    | false => rfl
    | true =>
      apply Content.ext'
      · intro id
        have hseat := congrFun (congrArg Content.seats (hsame rfl)) id
        simp only [finishCycle, Bool.false_or, if_true]
        exact (hback id).trans hseat
      all_goals rfl

theorem finishCycle_transitions (obs : Observation) (st : Status) (e : Engine GlobalContext)
    (changed zonesChanged : Bool) :
    (finishCycle obs st e changed zonesChanged).status.transitions = e.active := by
  cases changed <;> cases zonesChanged <;> rfl

theorem finishCycle_mesh (he : Linked e)
    (hsame : changed = false → e.global.content = st.content) :
    (finishCycle obs st e changed zonesChanged).status.mesh = (meshOf e).refresh := by
  have hcontent : (finishCycle obs st e changed zonesChanged).status.content = _ :=
    finishCycle_content he.anchored hsame
  have hrev : (finishCycle obs st e changed zonesChanged).status.datameshRevision = e.revision := by
    cases changed <;> cases zonesChanged <;> rfl
  rw [Status.mesh, hcontent, hrev, finishCycle_transitions]
  rfl

structure CycleFollows (obs : Observation) (st : Status) (r : CycleResult) : Prop where
  wellFormed : r.status.WellFormed
  run : ∃ m, MeshRun obs.env st.mesh (r.log.map meshEvent) m ∧ r.status.mesh = m.refresh

theorem processTransitions_eq_some (h : processTransitions obs st = some r) :
    ∃ e changed, process domain (startEngine obs st) = some (e, changed) ∧
      r = finishCycle obs st e changed (startCycle obs st).2 := by
  unfold processTransitions at h
  split at h
  · simp only [Option.bind_eq_bind, Option.bind_eq_some_iff, Option.some.injEq, Prod.exists] at h
    obtain ⟨e, changed, hprocess, rfl⟩ := h
    exact ⟨e, changed, hprocess, rfl⟩
  · cases h

theorem cycle_follows (hst : st.WellFormed)
    (h : processTransitions obs st = some r) : CycleFollows obs st r := by
  obtain ⟨e, changed, hprocess, rfl⟩ := processTransitions_eq_some h
  obtain ⟨hsound, hfollows⟩ := respected.process (startEngine_sound hst) hprocess
  obtain ⟨-, evs, hlog, hrun, hkinds⟩ := hfollows
  rw [startEngine_env hst, startEngine_mesh hst] at hrun
  have hlog' : e.log = evs := hlog.trans (append_nil evs)
  have hsame : changed = false → e.global.content = st.content := by
    intro hc
    refine (hrun.content_of_kinds fun ev hev => ?_).1
    obtain ⟨ev', hev', rfl⟩ := mem_map.mp hev
    exact hkinds hc ev' hev'
  have hmesh : (finishCycle obs st e changed (startCycle obs st).2).status.mesh = _ :=
    finishCycle_mesh hsound.1 hsame
  constructor
  · constructor
    · rw [hmesh]
      exact hsound.2.congr rfl
    · intro t ht spec hspec
      rw [finishCycle_transitions] at ht
      obtain ⟨k, hk, rfl⟩ := mem_map.mp ht
      exact hsound.1.steps k hk spec hspec
  · refine ⟨meshOf e, ?_, hmesh⟩
    change MeshRun obs.env st.mesh (e.log.map meshEvent) (meshOf e)
    rwa [hlog']

end ReplicatedVolume.Datamesh
