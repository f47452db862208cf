import ReplicatedVolume.Mesh.Course
import ReplicatedVolume.Volume.AdoptionEffects
import ReplicatedVolume.Safety.Formation
import ReplicatedVolume.Safety.Quorum

/-!
# One member per node

Members come from formation, which takes the replicas it finds, and from plans with a guard: no
member may be on the node. The guard reads the node of a member off its context, where the node of
the replica object stands before that of the member.
-/

namespace ReplicatedVolume.Datamesh
open Dmte List Option

variable {as : List Apply} {e e' : Engine GlobalContext} {m : DatameshMember} {rv : VolumeObject}
  {s : Status}

/-- Each member is on the node of its context, and no two of them are on one node. -/
structure Spread (g : GlobalContext) : Prop where
  placed : ∀ id m, g.member id = some m → m.nodeName = (g.replicas id).nodeName
  apart : ∀ id id' m m', g.member id = some m → g.member id' = some m' →
    m.nodeName = m'.nodeName → id = id'

/-- Contexts keep their nodes; a member is one from before, on its node, or `x` just created. -/
structure Stays (g g' : GlobalContext) (x : Option ReplicaID) (creates : Bool) : Prop where
  nodes : ∀ id, (g'.replicas id).nodeName = (g.replicas id).nodeName
  member : ∀ id m', g'.member id = some m' →
    (∃ m, g.member id = some m ∧ m'.nodeName = m.nodeName) ∨
      creates = true ∧ x = some id ∧ m'.nodeName = (g.replicas id).nodeName

variable {x : Option ReplicaID}

theorem Stays.kept {g g' : GlobalContext}
    (hnodes : ∀ id, (g'.replicas id).nodeName = (g.replicas id).nodeName)
    (hmember : ∀ id m', g'.member id = some m' → ∃ m, g.member id = some m ∧
      m'.nodeName = m.nodeName) : Stays g g' x false :=
  ⟨hnodes, fun id m' hm' => .inl (hmember id m' hm')⟩

theorem Stays.trans {g g1 g' : GlobalContext} {c c' : Bool}
    (h : Stays g g1 x c) (h' : Stays g1 g' x c') : Stays g g' x (c || c') := by
  refine ⟨fun id => (h'.nodes id).trans (h.nodes id), fun id m' hm' => ?_⟩
  rcases h'.member id m' hm' with ⟨m1, hm1, hnode⟩ | ⟨hc, hx, hnode⟩
  · rcases h.member id m1 hm1 with ⟨m, hm, hnode1⟩ | ⟨hc, hx, hnode1⟩
    · exact .inl ⟨m, hm, hnode.trans hnode1⟩
    · exact .inr ⟨by rw [hc, Bool.true_or], hx, hnode.trans hnode1⟩
  · exact .inr ⟨by rw [hc, Bool.or_true], hx, hnode.trans (h.nodes id)⟩

theorem Stays.spread {g g' : GlobalContext} (h : Stays g g' x false)
    (hg : Spread g) : Spread g' := by
  have hmember : ∀ id m', g'.member id = some m' → ∃ m, g.member id = some m ∧
      m'.nodeName = m.nodeName := fun id m' hm' =>
    (h.member id m' hm').resolve_right fun hcreated => Bool.false_ne_true hcreated.1
  constructor
  · intro id m' hm'
    obtain ⟨m, hm, hnode⟩ := hmember id m' hm'
    rw [hnode, hg.placed id m hm, h.nodes]
  · intro id id' m m' hm hm' hsame
    obtain ⟨m1, hm1, hnode⟩ := hmember id m hm
    obtain ⟨m1', hm1', hnode'⟩ := hmember id' m' hm'
    exact hg.apart id id' m1 m1' hm1 hm1' (by rw [← hnode, hsame, hnode'])

variable {id : ReplicaID}

theorem Stays.spread_of_free {g g' : GlobalContext} {c : Bool}
    (h : Stays g g' (some id) c) (hg : Spread g) (hfree : ∀ id' m', g.member id' = some m' →
      (g.replicas id').nodeName ≠ (g.replicas id).nodeName) : Spread g' := by
  have hplaced : ∀ id' m', g'.member id' = some m' → m'.nodeName = (g.replicas id').nodeName ∧
      (id' ≠ id → ∃ m, g.member id' = some m) := by
    intro id' m' hm'
    rcases h.member id' m' hm' with ⟨m, hm, hnode⟩ | ⟨-, hx, hnode⟩
    · exact ⟨hnode.trans (hg.placed id' m hm), fun _ => ⟨m, hm⟩⟩
    · exact ⟨hnode, fun hne => absurd (Option.some.inj hx).symm hne⟩
  constructor
  · intro id' m' hm'
    rw [(hplaced id' m' hm').1, h.nodes]
  · intro id1 id2 m1 m2 hm1 hm2 hsame
    obtain ⟨hnode1, hold1⟩ := hplaced id1 m1 hm1
    obtain ⟨hnode2, hold2⟩ := hplaced id2 m2 hm2
    rw [hnode1, hnode2] at hsame
    by_cases h1 : id1 = id
    · by_cases h2 : id2 = id
      · rw [h1, h2]
      · obtain ⟨m, hm⟩ := hold2 h2
        exact absurd (hsame.symm.trans (by rw [h1])) (hfree id2 m hm)
    · obtain ⟨m, hm⟩ := hold1 h1
      by_cases h2 : id2 = id
      · exact absurd (hsame.trans (by rw [h2])) (hfree id1 m hm)
      · obtain ⟨m', hm'⟩ := hold2 h2
        refine hg.apart id1 id2 m m' hm hm' ?_
        rw [hg.placed id1 m hm, hg.placed id2 m' hm', hsame]

section
variable {g g' : GlobalContext} {rctx : Option Ref} {x : Option ReplicaID} {c : Bool}

theorem apply_stays {a : Apply} (hx : Denotes rctx x)
    (h : a.run g rctx = some (g', c)) : Stays g g' x a.creates := by
  refine ⟨fun id => ?_, fun id m' hm' => ?_⟩
  · have hcontext := congrFun (congrArg GlobalContext.replicas (apply_spares h).masked) id
    have hnode := congrArg ReplicaContext.nodeName hcontext
    exact hnode
  · rcases apply_member hx h hm' with ⟨m, hm, hkeeps⟩ | ⟨hcreates, hid, rvr, -, hnode, -, -⟩
    · exact .inl ⟨m, hm, hkeeps.node⟩
    · exact .inr ⟨hcreates, hid, hnode⟩

theorem applies_stays (hx : Denotes rctx x)
    (h : runApplies as g rctx = some (g', c)) : Stays g g' x (as.any Apply.creates) := by
  induction as generalizing g c with
  | nil =>
    cases h
    exact .kept (fun _ => rfl) fun _ m' hm' => ⟨m', hm', rfl⟩
  | cons a as ih =>
    obtain ⟨g1, c1, c2, h1, h2, rfl⟩ := runApplies_cons h
    exact (apply_stays hx h1).trans (ih h2)

theorem nodes_of_bare (h : g'.bare = g.bare) (id : ReplicaID) :
    (g'.replicas id).nodeName = (g.replicas id).nodeName := by
  have hcontext := congrFun (congrArg GlobalContext.replicas h) id
  have hnode := congrArg ReplicaContext.nodeName hcontext
  exact hnode

theorem stays_of_bare (h : g'.bare = g.bare) : Stays g g' x false :=
  .kept (nodes_of_bare h) fun id m' hm' => ⟨m', by rwa [← (matching_of_bare h).member], rfl⟩

end

theorem Works.stays {rctx : Option Ref}
    {b : Books} (h : Works e e' rctx b as) (hx : Denotes rctx x) :
    Stays e.global e'.global x (as.any Apply.creates) := by
  obtain ⟨g, g', c, hstart, -, hrun, hend⟩ := h
  have hstays := (stays_of_bare (x := x) hstart).trans
    ((applies_stays hx hrun).trans (stays_of_bare hend))
  rwa [Bool.false_or, Bool.or_false] at hstays

theorem registry_creates_guarded : ∀ spec ∈ registry,
    ∀ s ∈ spec.steps, s.onComplete.any Apply.creates = false ∧
      (s.apply.any Apply.creates = true → .guardNoMemberOnSameNode ∈ spec.guards) := by
  decide +kernel

theorem guardNoMemberOnSameNode_pass {g : GlobalContext} {rc : ReplicaContext}
    (h : (guardNoMemberOnSameNode g rc).blocked = false)
    (hm : g.member id = some m) : (g.replicas id).nodeName ≠ rc.nodeName := by
  unfold guardNoMemberOnSameNode at h
  split at h
  · next hnone =>
      have hmem : (id, m) ∈ (List.finRange 32).filterMap fun id => (g.member id).map (id, ·) :=
        mem_filterMap.mpr ⟨id, mem_finRange id, by rw [hm]; rfl⟩
      simpa using List.find?_eq_none.mp hnone _ hmem
  · simp [GuardResult.block] at h

theorem Starts.free {spec : PlanSpec} {rctx : Option Ref}
    {g : GlobalContext} {t : Transition} (h : Starts e spec rctx x g t)
    (hguard : .guardNoMemberOnSameNode ∈ spec.guards) :
    ∃ id, x = some id ∧ ∀ id' m', e.global.member id' = some m' →
      (e.global.replicas id').nodeName ≠ (e.global.replicas id).nodeName := by
  obtain ⟨result, hguards, hpass⟩ := h.guards
  obtain ⟨g1, g2, result1, hsilent, hrun, hpass1⟩ := evaluateGuards_pass hguards hpass _ hguard
  cases hr : rctx with
  | none =>
    rw [hr] at hrun
    cases hrun
  | some r =>
    obtain ⟨id, rfl, hid⟩ := h.subject r hr
    rw [hr] at hrun
    simp only [Guard.run, Guard.replicaGuard, Option.some.injEq, Prod.mk.injEq] at hrun
    have hbare := bare_of_silent hsilent
    refine ⟨id, hid, fun id' m' hm' => ?_⟩
    rw [← (matching_of_bare hbare).member] at hm'
    rw [← hrun.1] at hpass1
    have hfree := guardNoMemberOnSameNode_pass hpass1 hm'
    rw [nodes_of_bare hbare] at hfree
    rwa [← nodes_of_bare hbare id]

theorem OrderlyMove.spread (h : OrderlyMove e e')
    (hspread : Spread e.global) : Spread e'.global := by
  obtain ⟨he, he', hmove⟩ := h
  cases hmove with
  | rest hrests | note hrests => exact (stays_of_bare (x := none) hrests.bare).spread hspread
  | @advance k spec s s' rctx hsettles hnext hworks _ _ _ _ _ =>
    have hreg := hsettles.registered.1
    have hstays := hworks.stays hsettles.subject
    have hmem : s' ∈ spec.steps.tail := by
      refine mem_of_getElem? (i := (activeAt e k).idx) ?_
      rwa [List.getElem?_tail]
    rw [any_append, (registry_creates_guarded spec hreg s hsettles.step_mem).1,
      (registry_creates spec hreg).2 s' hmem] at hstays
    exact hstays.spread hspread
  | @complete k spec s rctx hsettles _ hworks _ _ _ =>
    have hstays := hworks.stays hsettles.subject
    rw [(registry_creates_guarded spec hsettles.registered.1 s hsettles.step_mem).1] at hstays
    exact hstays.spread hspread
  | @create spec s rctx x t g hstarts hstep hworks _ _ _ _ _ =>
    have hstays := hworks.stays hstarts.subject
    cases hcreates : s.apply.any Apply.creates with
    | false =>
      rw [hcreates] at hstays
      exact hstays.spread hspread
    | true =>
      have hguard := (registry_creates_guarded spec hstarts.registered s
        (mem_of_getElem? hstep)).2 hcreates
      obtain ⟨id, rfl, hfree⟩ := hstarts.free hguard
      exact hstays.spread_of_free hspread hfree

structure Status.Spread (st : Status) : Prop where
  ids : (st.members.map (·.id)).Nodup
  nodes : (st.members.map (·.nodeName)).Nodup

/-- The replica object of a member, once it has a node, is on the node of the member. -/
def Agrees (obs : Observation) (st : Status) : Prop :=
  ∀ m ∈ st.members, ∀ rvr ∈ obs.rvrs, rvr.id = m.id → rvr.nodeName = "" ∨ rvr.nodeName = m.nodeName

section
variable {obs : Observation} {st : Status}

theorem baseContext_nodeName (h : st.Spread) (hagrees : Agrees obs st)
    (hm : m ∈ st.members) : (baseContext st obs m.id).nodeName = m.nodeName := by
  have hfilter : st.members.filter (·.id = m.id) = [m] := Keyed.filter_eq_single (·.id) h.ids hm
  simp only [baseContext, hfilter, map_cons, map_nil]
  cases hrvr : obs.rvrs.reverse.find? (·.id = m.id) with
  | none => by_cases hnode : m.nodeName = "" <;> simp [hnode]
  | some rvr =>
    have hmem := mem_reverse.mp (mem_of_find?_eq_some hrvr)
    have hid : rvr.id = m.id := by simpa using List.find?_some hrvr
    rcases hagrees m hm rvr hmem hid with hempty | hsame
    · by_cases hnode : m.nodeName = "" <;> simp [hempty, hnode]
    · by_cases hnode : m.nodeName = "" <;> simp [hsame, hnode]

theorem startEngine_spread (h : st.Spread) (hagrees : Agrees obs st) :
    Datamesh.Spread (startEngine obs st).global := by
  have hbare := startEngine_bare obs st
  have hmember : ∀ id m, (startEngine obs st).global.member id = some m →
      ∃ m0 ∈ st.members, m0.id = id ∧ m.nodeName = m0.nodeName := by
    intro id m hm
    rw [(matching_of_bare hbare).member] at hm
    change ((buildContexts st obs).member id).map _ = some m at hm
    rw [buildContexts_member] at hm
    obtain ⟨m0, hm0, rfl⟩ := map_eq_some_iff.mp hm
    obtain ⟨hmem, hid⟩ := (memberOf_eq_some h.ids).mp hm0
    exact ⟨m0, hmem, hid, rfl⟩
  constructor
  · intro id m hm
    obtain ⟨m0, hmem, rfl, hnode⟩ := hmember id m hm
    rw [nodes_of_bare hbare, hnode]
    exact (baseContext_nodeName h hagrees hmem).symm
  · intro id id' m m' hm hm' hsame
    obtain ⟨m0, hmem, rfl, hnode⟩ := hmember id m hm
    obtain ⟨m0', hmem', rfl, hnode'⟩ := hmember id' m' hm'
    rw [hnode, hnode'] at hsame
    rw [inj_on_of_nodup_map h.nodes hmem hmem' hsame]

variable {g : GlobalContext}

theorem writeback_ids (hg : Anchored g) (members : List DatameshMember) :
    ((writebackMembersFromContexts members g).map (·.id)).Nodup := by
  have hindexed := indexedMember_eq hg
  have hsurviving : ((members.zipIdx.filterMap fun x =>
      if (g.replicas x.1.id).memberIdx = some x.2 then indexedMember g x.1.id else none).map
        (·.id)).Nodup := by
    rw [List.Nodup, pairwise_map, pairwise_filterMap]
    have hidx : members.zipIdx.Pairwise fun x y => x.2 ≠ y.2 := by
      rw [← pairwise_map (f := Prod.snd) (R := (· ≠ ·)), zipIdx_map_snd]
      exact nodup_range'
    refine hidx.imp fun {x y} hne m hm m' hm' hsame => hne ?_
    split at hm
    · rename_i hx
      split at hm'
      · rename_i hy
        rw [hindexed] at hm hm'
        rw [← hg.memberID _ _ hm, hsame, hg.memberID _ _ hm', hy] at hx
        exact (Option.some.inj hx).symm
      · cases hm'
    · cases hm
  have hrest : (((List.finRange 32).filterMap (indexedMember g)).map (·.id)).Nodup := by
    rw [List.Nodup, pairwise_map, pairwise_filterMap]
    refine (nodup_finRange 32).imp fun {id id'} hne m hm m' hm' hsame => hne ?_
    rw [hindexed] at hm hm'
    rw [← hg.memberID _ _ hm, ← hg.memberID _ _ hm', hsame]
  unfold writebackMembersFromContexts
  simp only
  rw [map_append, nodup_append]
  refine ⟨hsurviving, hrest.sublist (filter_sublist.map _), ?_⟩
  intro id hid id' hid' heq
  obtain ⟨m, hm, rfl⟩ := mem_map.mp hid'
  have hnot := (mem_filter.mp hm).2
  simp only [decide_eq_true_eq] at hnot
  exact hnot (heq ▸ hid)

theorem writeback_spread (hg : Anchored g) (hspread : Datamesh.Spread g)
    (members : List DatameshMember) :
    ((writebackMembersFromContexts members g).map (·.nodeName)).Nodup := by
  have hids := writeback_ids hg members
  refine (List.Nodup.of_map _ hids).map_on fun m hm m' hm' hsame => ?_
  have hid := hspread.apart _ _ _ _ (writeback_sound hg hm) (writeback_sound hg hm') hsame
  exact inj_on_of_nodup_map hids hm hm' hid

theorem chain_spread (h : st.Spread) (hagrees : Agrees obs st)
    (hchain : Relation.ReflTransGen OrderlyMove (startEngine obs st) e) :
    Datamesh.Spread e.global := by
  induction hchain with
  | refl => exact startEngine_spread h hagrees
  | tail _ hmove ih => exact hmove.spread ih

theorem cycle_spread {r : CycleResult} (hst : st.Orderly) (h : st.Spread) (hagrees : Agrees obs st)
    (hcycle : processTransitions obs st = some r) : r.status.Spread := by
  obtain ⟨e, changed, hmoves, he, rfl⟩ := cycle_moves hst hcycle
  have hanchored := he.linked.anchored
  have hwritten : ({ st with members := writebackMembersFromContexts st.members e.global } :
      Status).Spread :=
    ⟨writeback_ids hanchored _, writeback_spread hanchored (chain_spread h hagrees hmoves.chain) _⟩
  unfold finishCycle
  cases changed with
  | true => exact ⟨hwritten.ids, hwritten.nodes⟩
  | false =>
    cases (startCycle obs st).2 with
    | true => exact ⟨hwritten.ids, hwritten.nodes⟩
    | false => exact ⟨h.ids, h.nodes⟩

end

end ReplicatedVolume.Datamesh

namespace ReplicatedVolume.Volume
open Datamesh Dmte

def Apart (rv : VolumeObject) (rvrs : List Replica) : Prop :=
  ((rvrs.filter (·.id ∈ joining rv rvrs)).map (·.nodeName)).Nodup

/-- The volumes that passes of either plan lead to, those that write members with the property. -/
inductive Forms (P : VolumeObject → List Replica → Prop) : VolumeObject → Prop
  | fresh {rv : VolumeObject} (h : Unformed rv.status) : Forms P rv
  | outside {rv rv' : VolumeObject} (h : Forms P rv) (hstatus : rv'.status = rv.status) : Forms P rv'
  | pass {api : Answers} {rv : VolumeObject} {rvrs : List Replica} {c : Configuration} {rsp : Pool}
      {p : Pass} (h : Forms P rv) (hforming : (isFormationInProgress rv.toRV).1 = true)
      (hlisted : Listed rvrs) (hP : p.rv.status.members ≠ rv.status.members → P rv rvrs)
      (hpass : formationPass api rv rvrs c rsp = some p)
      (hflow : p.flow.shouldReturn = false) : Forms P p.rv

/-- The datameshes that cycles lead to after formation, each cycle with the property. -/
inductive Lives (P : VolumeObject → List Replica → Prop) (Q : Observation → Status → Prop) :
    Status → Prop
  | formed {rv : VolumeObject} (h : Forms P rv) : Lives P Q rv.status
  | cycle {st : Status} {obs : Observation} {r : CycleResult} (h : Lives P Q st) (hQ : Q obs st)
      (hcycle : processTransitions obs st = some r) : Lives P Q r.status

theorem spread_of_placements (hids : ((placements s).map Prod.fst).Nodup)
    (hnodes : ((placements s).map Prod.snd).Nodup) : s.Spread := by
  simp only [placements, List.map_map] at hids hnodes
  exact ⟨hids, hnodes⟩

theorem placements_of_spread (h : s.Spread) :
    ((placements s).map Prod.fst).Nodup ∧ ((placements s).map Prod.snd).Nodup := by
  simp only [placements, List.map_map]
  exact ⟨h.ids, h.nodes⟩

theorem Forms.spread (h : Forms Apart rv) : rv.status.Formed ∧ rv.status.Spread := by
  induction h with
  | fresh h =>
    refine ⟨.inl h.transitions, ?_⟩
    constructor <;> simp [h.members]
  | outside _ hstatus ih => exact hstatus ▸ ih
  | @pass _ rv _ _ _ p _ _ hlisted hP hpass hflow ih =>
    obtain ⟨hformed, hspread⟩ := ih
    have hfollows := formationPass_follows hlisted hpass hflow
    refine ⟨hfollows.formed hformed, ?_⟩
    by_cases hsame : p.rv.status.members = rv.status.members
    · exact ⟨hsame ▸ hspread.ids, hsame ▸ hspread.nodes⟩
    rcases hfollows.placed with hkept | hempty | ⟨-, hjoined⟩
    · obtain ⟨hids, hnodes⟩ := placements_of_spread hspread
      exact spread_of_placements (hkept ▸ hids) (hkept ▸ hnodes)
    · constructor <;> simp [hempty]
    · refine spread_of_placements ?_ ?_
      · rw [hjoined, List.map_map]
        exact hlisted.sublist (List.filter_sublist.map _)
      · rw [hjoined, List.map_map]
        exact hP hsame

/-- No two members are on one node, if the replicas that formation takes are not and the replica
object of a member is where the member is. -/
theorem one_member_per_node {st : Status} (h : Lives Apart Agrees st) :
    (st.members.map (·.nodeName)).Nodup := by
  suffices hinv : st.Orderly ∧ st.Spread from hinv.2.nodes
  induction h with
  | formed h => exact ⟨h.spread.1.orderly, h.spread.2⟩
  | cycle _ hQ hcycle ih => exact ⟨(cycle_orderly ih.1 hcycle).1, cycle_spread ih.1 ih.2 hQ hcycle⟩

theorem Apart.of_nodes {rvrs : List Replica} (h : (rvrs.map (·.nodeName)).Nodup) : Apart rv rvrs :=
  h.sublist (List.filter_sublist.map _)

theorem Forms.createRun {P : VolumeObject → List Replica → Prop} {c : Configuration} {rsp : Pool}
    {rv rv' : VolumeObject} {passes : List (Answers × List Replica)}
    (hP : ∀ pass ∈ passes, ∀ rv, P rv pass.2) (h : Forms P rv)
    (hrun : createRun c rsp rv passes = some rv') : Forms P rv' := by
  induction passes generalizing rv with
  | nil => exact Option.some.inj hrun ▸ h
  | cons pass rest ih =>
    obtain ⟨p, hp, hrest⟩ := Option.bind_eq_some_iff.mp hrun
    have hpass := createPass_eq_some (Option.filter_eq_some_iff.mp hp).1
    refine ih (fun pass hmem => hP pass (List.mem_cons_of_mem _ hmem)) ?_ hrest
    exact h.pass hpass.forming hpass.listed (fun _ => hP pass List.mem_cons_self rv) hpass.pass
      hpass.patched

def formingRun : List (Answers × List Replica) :=
  formingPasses ++ [(formingAnswers (some bootstrapped), formingReplicas 2 .upToDate "Configured")]

theorem forms_apart_of_run
    (h : createRun oneFailure threeNodePool newVolume formingRun = some rv) : Forms Apart rv := by
  refine Forms.createRun (fun pass hmem rv => Apart.of_nodes ?_) (.fresh ⟨rfl, rfl, rfl⟩) h
  revert pass
  decide

def accessJoins : Observation :=
  { plainObservation ((formingReplicas 2 .upToDate "Configured").map (·.toRVR) ++
      [{ plainReplica 3 .access 0 with nodeName := "d", addresses := [⟨"net", "10.0.0.1", 7000⟩] }])
      [{ plainRequest 3 .join with type := some .access }] with
    rsp := some ⟨[⟨"a", "", true, true⟩, ⟨"b", "", true, true⟩, ⟨"c", "", true, true⟩,
      ⟨"d", "", true, true⟩], ["net"]⟩ }

instance (obs : Observation) (st : Status) : Decidable (Agrees obs st) :=
  inferInstanceAs (Decidable (∀ m ∈ st.members, ∀ rvr ∈ obs.rvrs, _))

theorem one_member_per_node_four : ∃ st, Lives Apart Agrees st ∧
    st.members.map (·.nodeName) = ["a", "b", "c", "d"] ∧ (st.members.map (·.nodeName)).Nodup := by
  have hrun : (createRun oneFailure threeNodePool newVolume formingRun).any (fun rv =>
      (processTransitions accessJoins rv.status).any fun r => decide (Agrees accessJoins rv.status ∧
        r.status.members.map (·.nodeName) = ["a", "b", "c", "d"])) = true := by
    decide +kernel
  obtain ⟨rv, hrv, hcycle⟩ := (Option.any_eq_true _ _).mp hrun
  obtain ⟨r, hr, hagrees, hnodes⟩ := exists_of_decide hcycle
  have hlives : Lives Apart Agrees r.status := .cycle (.formed (forms_apart_of_run hrv)) hagrees hr
  exact ⟨r.status, hlives, hnodes, one_member_per_node hlives⟩

/-- The replicas of a new volume; the scheduler put both data replicas on one node. -/
def crowdedReplicas : List Replica :=
  (formingReplicas 0 .inconsistent "PendingDatameshJoin").map fun rvr =>
    if rvr.id = 1 then { rvr with nodeName := "a" } else rvr

theorem formation_crowds_node : ∃ st, Lives (fun _ _ => True) (fun _ _ => True) st ∧
    st.members.map (fun m => (m.id, m.nodeName)) = [(0, "a"), (1, "a"), (2, "c")] ∧
    ¬(st.members.map (·.nodeName)).Nodup := by
  have hrun : (createRun oneFailure threeNodePool newVolume
      [(formingAnswers none, crowdedReplicas)]).any (fun rv => decide (
        rv.status.members.map (fun m => (m.id, m.nodeName)) = [(0, "a"), (1, "a"), (2, "c")] ∧
          ¬(rv.status.members.map (·.nodeName)).Nodup)) = true := by
    decide +kernel
  obtain ⟨rv, hrv, htest⟩ := (Option.any_eq_true _ _).mp hrun
  have hforms : Forms (fun _ _ => True) rv :=
    Forms.createRun (fun _ _ _ => trivial) (.fresh ⟨rfl, rfl, rfl⟩) hrv
  exact ⟨rv.status, .formed hforms, of_decide_eq_true htest⟩

/-- The object of replica 1, a member on node `b`, was replaced by one on node `d`, and an Access
replica on node `b` joins. -/
def replacedObject : Observation :=
  { accessJoins with
    rvrs := accessJoins.rvrs.map fun rvr =>
      if rvr.id = 1 then { rvr with nodeName := "d" }
      else if rvr.id = 3 then { rvr with nodeName := "b" } else rvr }

theorem replaced_object_hides_node : ∃ st, Lives Apart (fun _ _ => True) st ∧
    st.members.map (·.nodeName) = ["a", "b", "c", "b"] := by
  have hrun : (createRun oneFailure threeNodePool newVolume formingRun).any (fun rv =>
      (processTransitions replacedObject rv.status).any fun r => decide (
        r.status.members.map (·.nodeName) = ["a", "b", "c", "b"])) = true := by
    decide +kernel
  obtain ⟨rv, hrv, hcycle⟩ := (Option.any_eq_true _ _).mp hrun
  obtain ⟨r, hr, htest⟩ := (Option.any_eq_true _ _).mp hcycle
  exact ⟨r.status, .cycle (.formed (forms_apart_of_run hrv)) trivial hr, of_decide_eq_true htest⟩

end ReplicatedVolume.Volume
