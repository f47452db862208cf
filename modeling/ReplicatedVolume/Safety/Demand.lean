import ReplicatedVolume.Mesh.Contexts
import ReplicatedVolume.Safety.Placement
import Mathlib.Data.List.SplitBy

/-!
# Attachments follow demand

An attachment object asks for the volume on its node. A cycle gives the objects of a node to the
first context on that node and then decides for each context by what it was given. Another replica
on the node, or a member whose replica object names another node, gets nothing of them.
-/

namespace ReplicatedVolume.Datamesh
open Dmte List

variable {id : ReplicaID} {g : GlobalContext} {rctx : Option Ref} {m : DatameshMember}
  {spec : PlanSpec} {as : List Apply} {group : List RVA} {planID : PlanID}

def Demand (obs : Observation) (node : String) : Prop :=
  ∃ rva ∈ obs.rvas, rva.nodeName = node ∧ rva.deleting = false

def replicaNode (st : Status) (obs : Observation) (id : ReplicaID) : String :=
  (baseContext st obs id).nodeName

/-- There is demand on the replica's node and no known replica with a smaller id is there. -/
def Served (st : Status) (obs : Observation) (id : ReplicaID) : Prop :=
  Demand obs (replicaNode st obs id) ∧
    ∀ id' ∈ knownIDs st obs, id' < id → replicaNode st obs id' ≠ replicaNode st obs id

section
variable {rvas : List RVA}

abbrev nodeGroups (rvas : List RVA) : List (List RVA) :=
  rvas.splitBy fun a b => a.nodeName = b.nodeName

theorem nodeGroups_node (h : group ∈ nodeGroups rvas) {a b : RVA}
    (ha : a ∈ group) (hb : b ∈ group) : a.nodeName = b.nodeName := by
  have hchain : group.IsChain fun a b => a.nodeName = b.nodeName := by
    simpa using isChain_of_mem_splitBy h
  have hpairs : group.Pairwise fun a b => a.nodeName = b.nodeName := by
    have : IsTrans RVA fun a b => a.nodeName = b.nodeName := ⟨fun _ _ _ => Eq.trans⟩
    exact isChain_iff_pairwise.mp hchain
  have : Std.Symm fun a b : RVA => a.nodeName = b.nodeName := ⟨fun _ _ => Eq.symm⟩
  exact List.Pairwise.forall_of_forall (R := fun a b : RVA => a.nodeName = b.nodeName)
    (fun _ _ => rfl) hpairs ha hb

theorem nodeGroups_apart (hsorted : rvas.Pairwise fun a b => a.nodeName ≤ b.nodeName) :
    (nodeGroups rvas).Pairwise fun group group' =>
      ∀ a ∈ group, ∀ b ∈ group', a.nodeName ≠ b.nodeName := by
  have hchain := isChain_getLast_head_splitBy (fun a b : RVA => a.nodeName = b.nodeName) rvas
  have hnode : ∀ group ∈ nodeGroups rvas, ∀ a ∈ group, ∀ b ∈ group, a.nodeName = b.nodeName :=
    fun group h a ha b hb => nodeGroups_node h ha hb
  have hle : (nodeGroups rvas).flatten.Pairwise fun a b => a.nodeName ≤ b.nodeName := by
    rwa [flatten_splitBy]
  replace hle := (pairwise_flatten.mp hle).2
  change (nodeGroups rvas).IsChain _ at hchain
  generalize nodeGroups rvas = groups at hchain hnode hle ⊢
  induction groups with
  | nil => exact .nil
  | cons group groups ih =>
    rw [pairwise_cons] at hle ⊢
    refine ⟨?_, ih hchain.tail (fun _ h => hnode _ (mem_cons_of_mem _ h)) hle.2⟩
    cases groups with
    | nil => simp
    | cons next groups =>
      -- The next group starts at another node, and the nodes ascend from there.
      obtain ⟨hlast, hhead, hsplit⟩ := hchain.rel
      have hlt : ∀ a ∈ group, ∀ b ∈ next, a.nodeName < b.nodeName := by
        intro a ha b hb
        rw [hnode group mem_cons_self a ha _ (getLast_mem hlast),
          hnode next (mem_cons_of_mem _ mem_cons_self) b hb _ (head_mem hhead)]
        exact lt_of_le_of_ne (hle.1 next mem_cons_self _ (getLast_mem hlast) _
          (head_mem hhead)) (by simpa using hsplit)
      intro later hlater a ha b hb
      rcases mem_cons.mp hlater with rfl | hlater
      · exact (hlt a ha b hb).ne
      · have hbetween := (pairwise_cons.mp hle.2).1 later hlater _ (head_mem hhead) b hb
        exact ((hlt a ha _ (head_mem hhead)).trans_le hbetween).ne

end

theorem find_eq_some_iff {ids : List ReplicaID} (hids : ids.Pairwise (· < ·))
    {p : ReplicaID → Bool} :
    ids.find? p = some id ↔ id ∈ ids ∧ p id = true ∧ ∀ id' ∈ ids, id' < id → p id' = false := by
  induction ids with
  | nil => simp
  | cons a ids ih =>
    rw [pairwise_cons] at hids
    cases hp : p a with
    | true =>
      rw [List.find?_cons_of_pos hp, Option.some.injEq]
      constructor
      · rintro rfl
        refine ⟨mem_cons_self, hp, fun id' hid' hlt => ?_⟩
        rcases mem_cons.mp hid' with rfl | hid'
        · exact absurd hlt (lt_irrefl _)
        · exact absurd hlt (hids.1 id' hid').not_gt
      · rintro ⟨hmem, -, hfirst⟩
        rcases mem_cons.mp hmem with rfl | hmem
        · rfl
        · have hearlier := hfirst a mem_cons_self (hids.1 id hmem)
          rw [hp] at hearlier
          cases hearlier
    | false =>
      rw [List.find?_cons_of_neg (by simp [hp]), ih hids.2]
      constructor
      · rintro ⟨hmem, hpid, hfirst⟩
        refine ⟨mem_cons_of_mem _ hmem, hpid, fun id' hid' hlt => ?_⟩
        rcases mem_cons.mp hid' with rfl | hid'
        · exact hp
        · exact hfirst id' hid' hlt
      · rintro ⟨hmem, hpid, hfirst⟩
        rcases mem_cons.mp hmem with rfl | hmem
        · rw [hp] at hpid
          cases hpid
        · exact ⟨hmem, hpid, fun id' hid' => hfirst id' (mem_cons_of_mem _ hid')⟩

def goesTo (nodeOf : ReplicaID → String) (known : List ReplicaID) (id : ReplicaID)
    (group : List RVA) : Bool :=
  group.head?.any fun rva => known.find? (nodeOf · = rva.nodeName) = some id

theorem assigned_eq (nodeOf : ReplicaID → String) (known : List ReplicaID)
    (groups : List (List RVA)) (acc : (ReplicaID → List RVA) × List ReplicaContext)
    (id : ReplicaID) :
    (groups.foldl (assignRVAs nodeOf known) acc).1 id =
      ((groups.filter (goesTo nodeOf known id)).getLast?).getD (acc.1 id) := by
  induction groups generalizing acc with
  | nil => rfl
  | cons group groups ih =>
    have hstep : (assignRVAs nodeOf known acc group).1 id =
        if goesTo nodeOf known id group then group else acc.1 id := by
      cases group with
      | nil => rfl
      | cons rva group =>
        have hgoes : (goesTo nodeOf known id (rva :: group) = true) =
            (known.find? (nodeOf · = rva.nodeName) = some id) := by
          simp only [goesTo, List.head?_cons, Option.any_some, decide_eq_true_eq]
        simp only [hgoes, assignRVAs]
        split
        · next id' hfind =>
            by_cases hid : id = id'
            · subst hid
              rw [if_pos hfind]
              exact Function.update_self _ _ _
            · rw [if_neg fun h => hid (Option.some.inj (h.symm.trans hfind))]
              exact Function.update_of_ne hid _ _
        · next hfind =>
            rw [if_neg (by rw [hfind]; simp)]
            split <;> rfl
    rw [foldl_cons, ih, hstep]
    cases hgoes : goesTo nodeOf known id group with
    | true =>
      rw [filter_cons_of_pos hgoes, List.getLast?_cons]
      rfl
    | false => rw [filter_cons_of_neg (by simp [hgoes])]; rfl

section
variable {obs : Observation} {st : Status}

abbrev knownList (st : Status) (obs : Observation) : List ReplicaID :=
  (List.finRange 32).filter (· ∈ knownIDs st obs)

theorem goesTo_iff {rva : RVA} :
    goesTo (replicaNode st obs) (knownList st obs) id (rva :: group) = true ↔
      id ∈ knownIDs st obs ∧ replicaNode st obs id = rva.nodeName ∧
        ∀ id' ∈ knownIDs st obs, id' < id → replicaNode st obs id' ≠ rva.nodeName := by
  have hids : (knownList st obs).Pairwise (· < ·) := (sortedLT_finRange 32).pairwise.filter _
  have hmem : ∀ id, id ∈ knownList st obs ↔ id ∈ knownIDs st obs := by simp
  simp only [goesTo, List.head?_cons, Option.any_some, decide_eq_true_eq, find_eq_some_iff hids,
    hmem, decide_eq_false_iff_not]

theorem buildContexts_rvas (st : Status) (obs : Observation) (id : ReplicaID) :
    ((buildContexts st obs).replicas id).rvas = (((nodeGroups obs.rvas).filter
      (goesTo (replicaNode st obs) (knownList st obs) id)).getLast?).getD [] :=
  assigned_eq (replicaNode st obs) (knownList st obs) (nodeGroups obs.rvas) (fun _ => [], []) id

theorem served_of_hasActiveRVA (h : hasActiveRVA ((buildContexts st obs).replicas id) = true) :
    Served st obs id := by
  rw [hasActiveRVA, buildContexts_rvas] at h
  cases hlast : ((nodeGroups obs.rvas).filter
      (goesTo (replicaNode st obs) (knownList st obs) id)).getLast? with
  | none => simp [hlast] at h
  | some group =>
    rw [hlast, Option.getD_some, any_eq_true] at h
    obtain ⟨rva, hrva, hdeleting⟩ := h
    obtain ⟨hgroup, hgoes⟩ := mem_filter.mp (mem_of_getLast? hlast)
    obtain ⟨first, rest, rfl⟩ := exists_cons_of_ne_nil (ne_nil_of_mem hrva)
    obtain ⟨-, hnode, hfirst⟩ := goesTo_iff.mp hgoes
    have hsame := nodeGroups_node hgroup hrva mem_cons_self
    have hmem : rva ∈ obs.rvas := by
      rw [← flatten_splitBy (fun a b : RVA => a.nodeName = b.nodeName) obs.rvas]
      exact mem_flatten_of_mem hgroup hrva
    exact ⟨⟨rva, hmem, hsame.trans hnode.symm, by simpa using hdeleting⟩,
      fun id' hid' hlt => hnode ▸ hfirst id' hid' hlt⟩

theorem hasActiveRVA_iff (hsorted : obs.rvas.Pairwise fun a b => a.nodeName ≤ b.nodeName)
    (hid : id ∈ knownIDs st obs) :
    hasActiveRVA ((buildContexts st obs).replicas id) = true ↔ Served st obs id := by
  constructor
  · exact served_of_hasActiveRVA
  · rintro ⟨⟨rva, hmem, hnode, hdeleting⟩, hfirst⟩
    have hgoes : ∀ group ∈ nodeGroups obs.rvas,
        goesTo (replicaNode st obs) (knownList st obs) id group = true ↔
          ∀ a ∈ group, a.nodeName = rva.nodeName := by
      intro group hgroup
      obtain ⟨first, rest, rfl⟩ := exists_cons_of_ne_nil (ne_nil_of_mem_splitBy hgroup)
      rw [goesTo_iff]
      constructor
      · rintro ⟨-, hsame, -⟩ a ha
        rw [nodeGroups_node hgroup ha mem_cons_self, ← hsame, hnode]
      · intro hall
        have hsame := hall first mem_cons_self
        exact ⟨hid, by rw [hsame, hnode], fun id' hid' hlt => by
          rw [hsame, hnode]
          exact hfirst id' hid' hlt⟩
    rw [← flatten_splitBy (fun a b : RVA => a.nodeName = b.nodeName) obs.rvas, mem_flatten] at hmem
    obtain ⟨group, hgroup, hrva⟩ := hmem
    have hbound := (hgoes group hgroup).mpr fun a ha => nodeGroups_node hgroup ha hrva
    have hin := mem_filter.mpr ⟨hgroup, hbound⟩
    obtain ⟨last, hlast⟩ := Option.isSome_iff_exists.mp
      (List.getLast?_isSome.mpr (ne_nil_of_mem hin))
    obtain ⟨hlastmem, hlastbound⟩ := mem_filter.mp (mem_of_getLast? hlast)
    -- Both groups are on the node of the replica, so they are one.
    have hone : last = group := by
      by_contra hne
      have : Std.Symm fun group group' : List RVA =>
          ∀ a ∈ group, ∀ b ∈ group', a.nodeName ≠ b.nodeName :=
        ⟨fun _ _ h a ha b hb => (h b hb a ha).symm⟩
      have hapart := (nodeGroups_apart hsorted).forall hlastmem hgroup hne
      obtain ⟨first, rest, rfl⟩ := exists_cons_of_ne_nil (ne_nil_of_mem_splitBy hlastmem)
      exact hapart first mem_cons_self rva hrva
        ((hgoes _ hlastmem).mp hlastbound first mem_cons_self)
    rw [hasActiveRVA, buildContexts_rvas, hlast, Option.getD_some, hone, any_eq_true]
    exact ⟨rva, hrva, by simp [hdeleting]⟩

end

/-- A context keeps its node and attachments. Its member is on the node it was on, or on the node
of the context, and attached only if it was, or where there is demand. -/
structure Posted (rc rc' : ReplicaContext) : Prop where
  node : rc'.nodeName = rc.nodeName
  rvas : rc'.rvas = rc.rvas
  member : ∀ m', rc'.member = some m' →
    m'.nodeName = rc.nodeName ∨ ∃ m, rc.member = some m ∧ m'.nodeName = m.nodeName
  attached : ∀ m', rc'.member = some m' → m'.attached = true →
    hasActiveRVA rc = true ∨ ∃ m, rc.member = some m ∧ m.attached = true ∧ m'.nodeName = m.nodeName

theorem Posted.of_same {rc rc' : ReplicaContext} (hnode : rc'.nodeName = rc.nodeName)
    (hrvas : rc'.rvas = rc.rvas) (hmember : rc'.member = rc.member) : Posted rc rc' :=
  ⟨hnode, hrvas, fun m' h => .inr ⟨m', hmember ▸ h, rfl⟩,
    fun m' h hattached => .inr ⟨m', hmember ▸ h, hattached, rfl⟩⟩

theorem Posted.refl (rc : ReplicaContext) : Posted rc rc := .of_same rfl rfl rfl

theorem Posted.trans {rc rc1 rc' : ReplicaContext} (h : Posted rc rc1) (h' : Posted rc1 rc') :
    Posted rc rc' := by
  refine ⟨h'.node.trans h.node, h'.rvas.trans h.rvas, fun m' hm' => ?_, fun m' hm' hattached => ?_⟩
  · rcases h'.member m' hm' with hnode | ⟨m1, hm1, hnode⟩
    · exact .inl (hnode.trans h.node)
    · rcases h.member m1 hm1 with hnode1 | ⟨m, hm, hnode1⟩
      · exact .inl (hnode.trans hnode1)
      · exact .inr ⟨m, hm, hnode.trans hnode1⟩
  · rcases h'.attached m' hm' hattached with hactive | ⟨m1, hm1, hattached1, hnode⟩
    · left
      rwa [hasActiveRVA, h.rvas] at hactive
    · rcases h.attached m1 hm1 hattached1 with hactive | ⟨m, hm, hattached', hnode1⟩
      · exact .inl hactive
      · exact .inr ⟨m, hm, hattached', hnode.trans hnode1⟩

def AllPosted (g g' : GlobalContext) : Prop := ∀ id, Posted (g.replicas id) (g'.replicas id)

theorem AllPosted.refl (g : GlobalContext) : AllPosted g g := fun _ => .refl _

theorem AllPosted.trans {g1 g' : GlobalContext} (h : AllPosted g g1) (h' : AllPosted g1 g') :
    AllPosted g g' := fun id => (h id).trans (h' id)

theorem allPosted_of_bare {g' : GlobalContext} (h : g'.bare = g.bare) : AllPosted g g' := by
  intro id
  have hcontext := congrFun (congrArg GlobalContext.replicas h) id
  have hnode := congrArg ReplicaContext.nodeName hcontext
  have hrvas := congrArg ReplicaContext.rvas hcontext
  have hmember := congrArg ReplicaContext.member hcontext
  exact .of_same hnode hrvas hmember

section
variable {g g' : GlobalContext} {rctx : Option Ref} {x : Option ReplicaID} {c : Bool}

theorem apply_posted {a : Apply} (hx : Denotes rctx x) (h : a.run g rctx = some (g', c))
    (hattach : a = .applyAttach → ∀ id, x = some id → hasActiveRVA (g.replicas id) = true) :
    AllPosted g g' := by
  intro id
  have hmasked := congrFun (congrArg GlobalContext.replicas (apply_spares h).masked) id
  have hnode := congrArg ReplicaContext.nodeName hmasked
  have hrvas := congrArg ReplicaContext.rvas hmasked
  refine ⟨hnode, hrvas, fun m' hm' => ?_, fun m' hm' hattached => ?_⟩
  · rcases apply_member hx h hm' with ⟨m, hm, hkeeps⟩ | ⟨-, -, -, -, hnode', -⟩
    · exact .inr ⟨m, hm, hkeeps.node⟩
    · exact .inl hnode'
  · rcases apply_member hx h hm' with ⟨m, hm, hkeeps⟩ | ⟨-, -, -, -, -, hidle, -⟩
    · rcases hkeeps.attached hattached with hold | ⟨ha, hid⟩
      · exact .inr ⟨m, hm, hold, hkeeps.node⟩
      · exact .inl (hattach ha id hid)
    · rw [hidle] at hattached
      cases hattached

theorem applies_posted (hx : Denotes rctx x)
    (h : runApplies as g rctx = some (g', c))
    (hattach : .applyAttach ∈ as → ∀ id, x = some id → hasActiveRVA (g.replicas id) = true) :
    AllPosted g g' := by
  induction as generalizing g c with
  | nil =>
    cases h
    exact .refl _
  | cons a as ih =>
    obtain ⟨g1, c1, c2, h1, h2, rfl⟩ := runApplies_cons h
    have hfirst := apply_posted hx h1 fun ha => hattach (ha ▸ mem_cons_self)
    refine hfirst.trans (ih h2 fun ha id hid => ?_)
    rw [hasActiveRVA, (hfirst id).rvas]
    exact hattach (mem_cons_of_mem _ ha) id hid

end

theorem decided_by_demand {r : Ref} {type : TransitionType}
    (h : Decided domain g (.replica r type planID)) :
    (type = .attach → hasActiveRVA (g.ctx r) = true) ∧
      (type = .detach → isAttached (g.ctx r) = true ∧ hasActiveRVA (g.ctx r) = false) := by
  cases decided_reached h with
  | membership _ hchoose =>
    have htype := chooseMembership_type hchoose
    constructor <;> rintro rfl <;> simp at htype
  | forceDetach => exact ⟨nofun, nofun⟩
  | attach hactive => exact ⟨fun _ => hactive, nofun⟩
  | detach hattached hidle => exact ⟨nofun, fun _ => ⟨hattached, hidle⟩⟩

theorem registry_applyAttach : ∀ spec ∈ registry,
    (∀ s ∈ spec.steps, .applyAttach ∉ s.onComplete ∧
      (.applyAttach ∈ s.apply → spec.transitionType = .attach)) ∧
    ∀ s ∈ spec.steps.tail, .applyAttach ∉ s.apply := by
  decide +kernel

section
variable {e e' : Engine GlobalContext} {c : Bool}

theorem Works.posted {x : Option ReplicaID} {b : Books}
    (h : Works e e' rctx b as) (hx : Denotes rctx x)
    (hattach : .applyAttach ∈ as → ∀ id, x = some id → hasActiveRVA (e.global.replicas id) = true) :
    AllPosted e.global e'.global := by
  obtain ⟨g, g', c, hbefore, -, hrun, hafter⟩ := h
  have h1 := allPosted_of_bare hbefore
  refine h1.trans ((applies_posted hx hrun fun hmem id hid => ?_).trans (allPosted_of_bare hafter))
  rw [hasActiveRVA, (h1 id).rvas]
  exact hattach hmem id hid

theorem settled_posted {k : ℕ} {p : Bool} (h : Settled domain e k e' c p) :
    AllPosted e.global e'.global := by
  rcases settled_works h with hbare | ⟨-, spec, hspec, rctx, as, hx, hworks, has⟩
  · exact allPosted_of_bare hbare
  · refine hworks.posted hx fun hmem => ?_
    obtain ⟨hsteps, htail⟩ := registry_applyAttach spec hspec
    obtain ⟨s, hs, hdone | ⟨hlater, happly⟩⟩ := has _ hmem
    · exact absurd hdone (hsteps s hs).1
    · exact absurd happly (htail s hlater)

theorem dispatched_posted (hg : Anchored e.global)
    (hspec : spec ∈ registry) (hglobal : spec.scope ≠ .replica → rctx = none)
    (hactive : spec.transitionType = .attach → ∀ id, rctx = some (.replica id) → hasActiveRVA
      (e.global.replicas id) = true) (h : Dispatched domain spec.plan planID rctx e e' c) :
    AllPosted e.global e'.global := by
  rcases dispatched_works hg hglobal h with hbare | ⟨-, x, b, s, hs, hx, hhandle, hworks⟩
  · exact allPosted_of_bare hbare
  · exact hworks.posted hx fun hmem id hid =>
      hactive (((registry_applyAttach spec hspec).1 s hs).2 hmem) id (hhandle id hid)

end

/-- A created Attach or Detach, seen from the contexts `g` of an earlier moment of the cycle. -/
structure Warranted (g : GlobalContext) (ev : Event GlobalContext) : Prop where
  before : AllPosted g ev.before.global
  attach : ev.transition.type = .attach → ∃ id m, ev.transition.replica = some id ∧
    ev.before.global.member id = some m ∧ hasActiveRVA (g.replicas id) = true
  detach : ev.transition.type = .detach → ∃ id m, ev.transition.replica = some id ∧
    ev.before.global.member id = some m ∧ m.attached = true ∧ hasActiveRVA (g.replicas id) = false

theorem Warranted.earlier {g1 : GlobalContext} {ev : Event GlobalContext} (h : Warranted g1 ev)
    (hposted : AllPosted g g1) : Warranted g ev := by
  have hactive : ∀ id, hasActiveRVA (g1.replicas id) = hasActiveRVA (g.replicas id) := by
    intro id
    rw [hasActiveRVA, (hposted id).rvas]
    rfl
  refine ⟨hposted.trans h.before, fun htype => ?_, fun htype => ?_⟩
  · obtain ⟨id, m, hrep, hm, hserved⟩ := h.attach htype
    exact ⟨id, m, hrep, hm, (hactive id).symm.trans hserved⟩
  · obtain ⟨id, m, hrep, hm, hattached, hserved⟩ := h.detach htype
    exact ⟨id, m, hrep, hm, hattached, (hactive id).symm.trans hserved⟩

structure Warrants (e e' : Engine GlobalContext) : Prop where
  posted : AllPosted e.global e'.global
  events : ∃ evs, e'.log = evs ++ e.log ∧ ∀ ev ∈ evs, ev.kind = .created → Warranted e.global ev

theorem Warrants.of_quiet {e e' : Engine GlobalContext} (hposted : AllPosted e.global e'.global)
    {evs : List (Event GlobalContext)} (hlog : e'.log = evs ++ e.log)
    (hkind : ∀ ev ∈ evs, ev.kind ≠ .created) : Warrants e e' :=
  ⟨hposted, evs, hlog, fun ev hev hcreated => absurd hcreated (hkind ev hev)⟩

theorem Warrants.refl (e : Engine GlobalContext) : Warrants e e :=
  .of_quiet (.refl _) (nil_append _).symm (by simp)

theorem Warrants.trans {e e1 e' : Engine GlobalContext} (h : Warrants e e1) (h' : Warrants e1 e') :
    Warrants e e' := by
  obtain ⟨evs, hlog, hevs⟩ := h.events
  obtain ⟨evs', hlog', hevs'⟩ := h'.events
  refine ⟨h.posted.trans h'.posted, evs' ++ evs, ?_, forall_mem_append.mpr ⟨?_, hevs⟩⟩
  · rw [hlog', hlog, append_assoc]
  · exact fun ev hev hcreated => (hevs' ev hev hcreated).earlier h.posted

section
variable {e e' : Engine GlobalContext} {c : Bool}

theorem recorded_warrants {e1 : Engine GlobalContext} (hposted : AllPosted e.global e'.global)
    (hlog1 : e1.log = e.log) (h : Recorded e1 e') : Warrants e e' := by
  rcases h with rfl | ⟨before, kind, t, hkind, rfl⟩
  · exact .of_quiet hposted (hlog1.trans (nil_append _).symm) (by simp)
  · have hlog : (e1.record before kind t).log =
        [⟨kind, t, before.snapshot, e1.snapshot⟩] ++ e.log := by
      rw [← hlog1]
      rfl
    refine .of_quiet hposted hlog fun ev hev => ?_
    rwa [mem_singleton.mp hev]

theorem settled_warrants {k : ℕ} {p : Bool} (h : Settled domain e k e' c p) : Warrants e e' := by
  obtain ⟨e1, hbooks, hrecorded⟩ := settled_books h
  refine recorded_warrants (settled_posted h) ?_ hrecorded
  exact hbooks.elim (·.log) (·.log)

theorem cancel_warrants (spec : PlanSpec) (rctx : Option Ref) (e : Engine GlobalContext) :
    Warrants e (cancelActive domain spec.plan rctx e) := by
  obtain ⟨e1, hcancelled, hrecorded⟩ := cancelActive_books spec rctx e
  refine recorded_warrants (allPosted_of_bare (cancelActive_move spec rctx e).2.bare) ?_ hrecorded
  exact hcancelled.elim (·.log) fun ⟨_, _, herased⟩ => herased.log

theorem registry_attach_guarded : ∀ spec ∈ registry, spec.transitionType = .attach →
    .guardMemberExists ∈ spec.guards := by
  decide +kernel

variable (hg : Anchored e.global) (hspec : spec ∈ registry)

include hg hspec in
theorem attach_subject {result : GuardResult} (htype : spec.transitionType = .attach)
    (hguards : evaluateGuards rctx spec.plan.guards e.global = some (result, g))
    (hpass : result.blocked = false) :
    ∃ id m, rctx = some (.replica id) ∧ rctx.bind e.global.replicaName = some id ∧
      e.global.member id = some m := by
  obtain ⟨g1, g2, result1, hsilent, hrun, hpass1⟩ :=
    evaluateGuards_pass hguards hpass _ (registry_attach_guarded spec hspec htype)
  have hagree := Agree.of_silent hsilent
  have hg1 := hagree.anchored hg
  cases hr : rctx with
  | none =>
    rw [hr] at hrun
    cases hrun
  | some r =>
    rw [hr] at hrun
    simp only [Guard.run, Guard.replicaGuard, Option.some.injEq, Prod.mk.injEq] at hrun
    rw [← hrun.1] at hpass1
    have hmember : (g1.ctx r).member.isSome = true := by
      unfold guardMemberExists at hpass1
      split at hpass1
      · assumption
      · simp [GuardResult.block] at hpass1
    obtain ⟨id, rfl, hname⟩ := member_ref hg1 hmember
    rw [replicaName_of_fixed hg hg1 hagree.fixed] at hname
    obtain ⟨m, hm⟩ := Option.isSome_iff_exists.mp hmember
    refine ⟨id, m, rfl, hname, ?_⟩
    rwa [← hagree.members]

include hg hspec in
theorem dispatched_warrants {x : Option ReplicaID}
    (hx : x = if spec.scope = .replica then rctx.bind e.global.replicaName else none)
    (hglobal : spec.scope ≠ .replica → rctx = none)
    (hattach : spec.transitionType = .attach → ∀ id, rctx = some (.replica id) → hasActiveRVA
      (e.global.replicas id) = true)
    (hdetach : spec.transitionType = .detach → ∃ id m, x = some id ∧ e.global.member id = some m ∧
      m.attached = true ∧ hasActiveRVA (e.global.replicas id) = false)
    (h : Dispatched domain spec.plan spec.planID rctx e e' c) : Warrants e e' := by
  have hposted := dispatched_posted hg hspec hglobal hattach h
  rcases dispatched_books hg hspec hx hglobal h with
    hsteady | ⟨e1, t, g, result, hinserted, -, hstarted, -, hguards, hpass, rfl⟩
  · exact .of_quiet hposted (hsteady.log.trans (nil_append _).symm) (by simp)
  have hbare := bare_of_silent (evaluateGuards_silent hguards)
  have htype : (e1.heap e.next).type = spec.transitionType :=
    (congrArg Transition.type hinserted.fresh).trans hstarted.type
  have hreplica : (e1.heap e.next).replica = x :=
    (congrArg Transition.replica hinserted.fresh).trans hstarted.replica
  have hmember : g.member = e.global.member := (matching_of_bare hbare).member
  refine ⟨hposted, [⟨.created, e1.heap e.next, ({ e with global := g } :
    Engine GlobalContext).snapshot, e1.snapshot⟩], ?_, ?_⟩
  · rw [← hinserted.log]
    rfl
  intro ev hev _
  rw [mem_singleton.mp hev]
  refine ⟨allPosted_of_bare hbare, fun hcreated => ?_, fun hcreated => ?_⟩
  · rw [htype] at hcreated
    obtain ⟨id, m, hr, hname, hm⟩ := attach_subject hg hspec hcreated hguards hpass
    have hscope : spec.scope = .replica :=
      (registry_scope_of_type spec hspec).mpr (by rw [hcreated]; decide)
    rw [if_pos hscope, hname] at hx
    refine ⟨id, m, hreplica.trans hx, ?_, hattach hcreated id hr⟩
    change g.member id = some m
    rw [hmember, hm]
  · rw [htype] at hcreated
    obtain ⟨id, m, hid, hm, hattached, hidle⟩ := hdetach hcreated
    refine ⟨id, m, hreplica.trans hid, ?_, hattached, hidle⟩
    change g.member id = some m
    rw [hmember, hm]

include hg hspec in
theorem dispatchOne_warrants (hglobal : spec.scope ≠ .replica → rctx = none)
    (hattach : spec.transitionType = .attach → ∀ r, rctx = some r → hasActiveRVA (e.global.ctx r)
      = true)
    (hdetach : spec.transitionType = .detach → ∃ r, rctx = some r ∧ isAttached (e.global.ctx r) =
      true ∧ hasActiveRVA (e.global.ctx r) = false)
    (h : dispatchOne domain spec.plan spec.planID rctx e = some (e', c)) : Warrants e e' := by
  have hcancel := cancel_warrants spec rctx e
  have hbare := (cancelActive_move spec rctx e).2.bare
  have hmatch := matching_of_bare hbare
  have hg2 : Anchored (cancelActive domain spec.plan rctx e).global := hmatch.anchored hg
  have hactive : ∀ id, hasActiveRVA ((cancelActive domain spec.plan rctx e).global.replicas id) =
      hasActiveRVA (e.global.replicas id) := by
    intro id
    rw [hasActiveRVA, (hcancel.posted id).rvas]
    rfl
  refine hcancel.trans (dispatched_warrants hg2 hspec rfl hglobal ?_ ?_ (dispatchOne_eq_some h))
  · intro htype id hid
    rw [hactive]
    exact hattach htype _ hid
  · intro htype
    obtain ⟨r, rfl, hattached, hidle⟩ := hdetach htype
    obtain ⟨m, hm, hmattached⟩ := (Option.any_eq_true _ _).mp hattached
    obtain ⟨id, rfl, hname⟩ := member_ref hg (by rw [hm]; rfl)
    have hscope : spec.scope = .replica :=
      (registry_scope_of_type spec hspec).mpr (by rw [htype]; decide)
    refine ⟨id, m, ?_, ?_, hmattached, (hactive id).trans hidle⟩
    · rw [if_pos hscope, Option.bind_some, replicaName_of_fixed hg hg2 hmatch.fixed, hname]
    · rwa [hmatch.member]

theorem announce_warrants (e : Engine GlobalContext) (t : Transition) :
    Warrants e (e.record e .dispatched t) :=
  recorded_warrants (.refl _) rfl (.inr ⟨_, _, _, by simp, rfl⟩)

include hg in
theorem decision_warrants {d : Decision GlobalContext Ref}
    (hd : Decided domain e.global d) (h : runDecision domain d e = some (e', c)) :
    Warrants e e' := by
  rcases runDecision_cases hd h with ⟨-, g, hsilent, rfl⟩ | ⟨spec, hspec, rctx, x, hands, hrun⟩
  · have hposted : AllPosted e.global g := allPosted_of_bare (bare_of_silent hsilent)
    exact .of_quiet hposted (nil_append _).symm (by simp)
  · refine (announce_warrants e _).trans
      (dispatchOne_warrants hg hspec hands.bound (fun htype r hr => ?_) (fun htype => ?_) hrun)
    · cases hands with
      | replica =>
        cases hr
        exact (decided_by_demand hd).1 htype
      | global => cases hr
    · cases hands with
      | replica r => exact ⟨r, rfl, (decided_by_demand hd).2 htype⟩
      | global hscope =>
        have hreplica := (registry_scope_of_type spec hspec).mpr (by rw [htype]; decide)
        simp [hreplica] at hscope

end

theorem warrants_respected :
    Respected domain Fresh fun e e' _ =>
      Anchored e.global → Anchored e'.global ∧ Warrants e e' where
  refl e hg := ⟨hg, .refl e⟩
  trans _ _ _ _ _ h h' hg :=
    have h1 := h hg
    have h2 := h' h1.1
    ⟨h2.1, h1.2.trans h2.2⟩
  nodup _ h := h.nodup
  settle _ _ _ _ _ hf _ hsettled :=
    ⟨settled_fresh hf hsettled, fun hg =>
      ⟨(settled_preserved hg hsettled).kept.anchored, settled_warrants hsettled⟩⟩
  decision _ _ _ _ hf hd hrun :=
    ⟨decision_fresh hf hd hrun, fun hg =>
      ⟨(decision_preserved hg hd hrun).kept.anchored, decision_warrants hg hd hrun⟩⟩

section
variable {obs : Observation} {st : Status}

theorem startEngine_posted (obs : Observation) (st : Status) :
    AllPosted (startContext obs st) (startEngine obs st).global :=
  allPosted_of_bare (startEngine_bare obs st)

theorem startEngine_hasActiveRVA (id : ReplicaID) :
    hasActiveRVA ((startEngine obs st).global.replicas id) =
      hasActiveRVA ((buildContexts st obs).replicas id) := by
  rw [hasActiveRVA, (startEngine_posted obs st id).rvas]
  rfl

theorem startEngine_nodeName (id : ReplicaID) :
    ((startEngine obs st).global.replicas id).nodeName = replicaNode st obs id :=
  (startEngine_posted obs st id).node

theorem startEngine_member (obs : Observation) (st : Status) (id : ReplicaID) :
    ((startEngine obs st).global.member id).map (fun m => (m.nodeName, m.attached)) =
      (memberOf st.members id).map fun m => (m.nodeName, m.attached) := by
  rw [(matching_of_bare (startEngine_bare obs st)).member, ← buildContexts_member st obs]
  change (((buildContexts st obs).member id).map _).map _ = _
  rw [Option.map_map]
  rfl

theorem memberOf_of_startEngine (h : (startEngine obs st).global.member id = some m) :
    ∃ m0, memberOf st.members id = some m0 ∧ m0.nodeName = m.nodeName ∧
      m0.attached = m.attached := by
  have hmap := startEngine_member obs st id
  rw [h, Option.map_some, eq_comm, Option.map_eq_some_iff] at hmap
  obtain ⟨m0, hm0, hsame⟩ := hmap
  exact ⟨m0, hm0, (Prod.mk.inj hsame).1, (Prod.mk.inj hsame).2⟩

theorem known_of_memberOf (obs : Observation) (h : memberOf st.members id = some m) :
    id ∈ knownIDs st obs := by
  have hid : m.id = id := by simpa using List.find?_some h
  have hmem : m ∈ st.members := mem_reverse.mp (mem_of_find?_eq_some h)
  simp only [knownIDs, mem_toFinset, mem_append, mem_map]
  exact .inl (.inl (.inr ⟨m, hmem, hid⟩))

theorem cycle_warrants {r : CycleResult} (h : processTransitions obs st = some r) :
    ∀ ev ∈ r.log, ev.kind = .created → Warranted (startEngine obs st).global ev := by
  obtain ⟨e, changed, hprocess, rfl⟩ := processTransitions_eq_some h
  obtain ⟨-, hwarrants⟩ := warrants_respected.process (startEngine_fresh obs st) hprocess
  obtain ⟨evs, hlog, hevents⟩ := (hwarrants (startEngine_anchored obs st)).2.events
  rw [show (startEngine obs st).log = [] from rfl, append_nil] at hlog
  intro ev hev
  refine hevents ev ?_
  rwa [← hlog]

/-- The demand on the node of an attached member goes to the member's own context, and its context
gets no demand of other nodes. -/
structure Attended (obs : Observation) (st : Status) (id : ReplicaID) (m : DatameshMember) :
    Prop where
  kept : m.attached = true → Demand obs m.nodeName → Served st obs id
  own : Served st obs id → Demand obs m.nodeName

theorem detach_decided_iff (hsorted : obs.rvas.Pairwise fun a b => a.nodeName ≤ b.nodeName)
    (hm : memberOf st.members id = some m) :
    decideAttachmentForReplica (.replica id) (startEngine obs st).global =
      some (.replica (.replica id) .detach .detach) ↔ m.attached = true ∧ ¬Served st obs id := by
  have hserved := hasActiveRVA_iff hsorted (known_of_memberOf obs hm)
  rw [← startEngine_hasActiveRVA] at hserved
  have hattached : isAttached ((startEngine obs st).global.replicas id) = m.attached := by
    have hmap := startEngine_member obs st id
    rw [hm, Option.map_some, Option.map_eq_some_iff] at hmap
    obtain ⟨m', hm', hsame⟩ := hmap
    rw [isAttached, show ((startEngine obs st).global.replicas id).member = some m' from hm']
    exact (Prod.mk.inj hsame).2
  rw [← hserved, ← hattached, Bool.not_eq_true]
  constructor
  · intro hdecided
    cases attachment_reached hdecided with
    | membership _ hchoose => simpa using chooseMembership_type hchoose
    | detach hheld hidle => exact ⟨hheld, hidle⟩
  · rintro ⟨hheld, hidle⟩
    simp [decideAttachmentForReplica, GlobalContext.ctx, hheld, hidle]

/-- A cycle creates no Detach against demand and no Attach without it, as long as each member is
attended. The first part says that no weaker condition on attached members would do for the
dispatcher. -/
theorem attachments_follow_demand (hsorted : obs.rvas.Pairwise fun a b => a.nodeName ≤ b.nodeName) :
    ((∃ id m, memberOf st.members id = some m ∧ Demand obs m.nodeName ∧
        decideAttachmentForReplica (.replica id) (startEngine obs st).global =
          some (.replica (.replica id) .detach .detach)) ↔
      ∃ id m, memberOf st.members id = some m ∧
        ¬(m.attached = true → Demand obs m.nodeName → Served st obs id)) ∧
    ((∀ id m, memberOf st.members id = some m → Attended obs st id m) →
      ∀ r, processTransitions obs st = some r → ∀ ev ∈ r.log, ev.kind = .created →
        (ev.transition.type = .detach → ∃ id m, ev.transition.replica = some id ∧
          ev.before.global.member id = some m ∧ ¬Demand obs m.nodeName) ∧
        (ev.transition.type = .attach → ∃ id m, ev.transition.replica = some id ∧
          ev.before.global.member id = some m ∧ Demand obs m.nodeName)) := by
  constructor
  · refine exists_congr fun id => exists_congr fun m => and_congr_right fun hm => ?_
    rw [detach_decided_iff hsorted hm]
    tauto
  · intro hattended r hr ev hev hcreated
    have hwarranted := cycle_warrants hr ev hev hcreated
    constructor
    · intro htype
      obtain ⟨id, m, hreplica, hm, hattached, hidle⟩ := hwarranted.detach htype
      refine ⟨id, m, hreplica, hm, fun hdemand => ?_⟩
      rcases (hwarranted.before id).attached m hm hattached with
        hactive | ⟨m₁, hm₁, hattached₁, hnode⟩
      · simp [hidle] at hactive
      · -- The member was attached before the cycle, so its demand went to its context.
        obtain ⟨m₀, hm₀, hnode₀, hattached₀⟩ := memberOf_of_startEngine hm₁
        have hserved := (hattended id m₀ hm₀).kept (hattached₀.trans hattached₁)
          (by rwa [hnode₀, ← hnode])
        rw [← hasActiveRVA_iff hsorted (known_of_memberOf obs hm₀), ← startEngine_hasActiveRVA,
          hidle] at hserved
        cases hserved
    · intro htype
      obtain ⟨id, m, hreplica, hm, hactive⟩ := hwarranted.attach htype
      have hserved := served_of_hasActiveRVA (startEngine_hasActiveRVA id ▸ hactive)
      refine ⟨id, m, hreplica, hm, ?_⟩
      rcases (hwarranted.before id).member m hm with hnode | ⟨m₁, hm₁, hnode⟩
      · -- The member is as new as this cycle and on the node of its context.
        rw [hnode, startEngine_nodeName]
        exact hserved.1
      · obtain ⟨m₀, hm₀, hnode₀, -⟩ := memberOf_of_startEngine hm₁
        rw [hnode, ← hnode₀]
        exact (hattended id m₀ hm₀).own hserved

end

instance (obs : Observation) (node : String) : Decidable (Demand obs node) :=
  inferInstanceAs (Decidable (∃ rva ∈ obs.rvas, _ ∧ _))

instance (st : Status) (obs : Observation) (id : ReplicaID) : Decidable (Served st obs id) :=
  inferInstanceAs (Decidable (_ ∧ ∀ id' ∈ knownIDs st obs, _))

instance (obs : Observation) (st : Status) (id : ReplicaID) (m : DatameshMember) :
    Decidable (Attended obs st id m) :=
  decidable_of_iff ((m.attached = true → Demand obs m.nodeName → Served st obs id) ∧
    (Served st obs id → Demand obs m.nodeName)) ⟨fun h => ⟨h.1, h.2⟩, fun h => ⟨h.1, h.2⟩⟩

def askedOn (ids : List ReplicaID) : Observation :=
  { plainObservation (ids.map fun id => { plainReplica id .diskful 5 with
      nodeName := "a", conditions := [⟨"Ready", some true, 1, "", ""⟩] }) [] with
    rvas := [⟨"a", false, 0⟩], rsp := some ⟨[⟨"a", "", true, true⟩], []⟩ }

def oneOn (node : String) (attached : Bool) : Status :=
  ⟨[{ plainMember 1 .diskful with nodeName := node, attached := attached }], 1, 1, false, [], 0, 5,
    0, []⟩

/-- The member of a node with demand is attached. -/
theorem attachments_follow_demand_one :
    ∃ r, processTransitions (askedOn [1]) (oneOn "a" false) = some r ∧
      ∃ ev ∈ r.log, ev.kind = .created ∧ ev.transition.type = .attach ∧
        ∃ id m, ev.transition.replica = some id ∧ ev.before.global.member id = some m ∧
          Demand (askedOn [1]) m.nodeName := by
  have hrun : (processTransitions (askedOn [1]) (oneOn "a" false)).any (fun r => decide (
      ∃ ev ∈ r.log, ev.kind = .created ∧ ev.transition.type = .attach)) = true := by
    decide +kernel
  obtain ⟨r, hr, ev, hev, hcreated, htype⟩ := exists_of_decide hrun
  have hattended : ∀ id m, memberOf (oneOn "a" false).members id = some m →
      Attended (askedOn [1]) (oneOn "a" false) id m := by
    intro id m hm
    rw [mem_singleton.mp (mem_reverse.mp (mem_of_find?_eq_some hm))]
    clear hm
    revert id
    decide +kernel
  exact ⟨r, hr, ev, hev, hcreated, htype, ((attachments_follow_demand (by simp [askedOn])).2
    hattended r hr ev hev hcreated).2 htype⟩

/-- Replica 0, on the same node but not a member, takes the demand away from replica 1. -/
theorem shared_node_detached : ∃ r, processTransitions (askedOn [0, 1]) (oneOn "a" true) = some r ∧
    ∃ ev ∈ r.log, ev.kind = .created ∧ ev.transition.type = .detach ∧
      ev.transition.replica = some 1 ∧
      (ev.before.global.member 1).map (·.nodeName) = some "a" ∧ Demand (askedOn [0, 1]) "a" := by
  exact exists_of_decide (by decide +kernel)

theorem moved_object_attached : ∃ r, processTransitions (askedOn [1]) (oneOn "b" false) = some r ∧
    ∃ ev ∈ r.log, ev.kind = .created ∧ ev.transition.type = .attach ∧
      ev.transition.replica = some 1 ∧
      (ev.before.global.member 1).map (·.nodeName) = some "b" ∧ ¬Demand (askedOn [1]) "b" := by
  exact exists_of_decide (by decide +kernel)

end ReplicatedVolume.Datamesh
