import ReplicatedVolume.Mesh.Wiring

/-!
# The course of a network change

A change goes from the list the datamesh has to the list the storage pool asks for, in one of four
plans; its place in the plan says which networks are on the list. Networks are taken off only when
all members that must be connected reported to be so over one that stays.
-/

namespace ReplicatedVolume.Datamesh
open Dmte List

variable {t : Transition} {names' : List String} {g : GlobalContext} {net : String}
    {rctx : Option Ref} {k : ℕ}

def PlanSpec.applied (spec : PlanSpec) (idx : ℕ) : List Apply :=
  (spec.steps.take (idx + 1)).flatMap (·.apply)

variable {spec : PlanSpec} {idx : ℕ}

theorem PlanSpec.applied_succ {s : StepSpec} (h : spec.steps[idx + 1]? = some s) :
    spec.applied (idx + 1) = spec.applied idx ++ s.apply := by
  rw [PlanSpec.applied, take_add_one, h, flatMap_append]
  simp [PlanSpec.applied]

theorem PlanSpec.applied_zero {s : StepSpec} (h : spec.steps[0]? = some s) :
    spec.applied 0 = s.apply := by
  rw [PlanSpec.applied, take_add_one, h]
  simp

theorem PlanSpec.applied_last (h : spec.steps.length = idx + 1) :
    spec.applied idx = spec.callbacks := by
  rw [PlanSpec.applied, ← h, take_length, PlanSpec.callbacks]

theorem PlanSpec.applied_mono {a : Apply} (h : a ∈ spec.applied 0) (idx : ℕ) :
    a ∈ spec.applied idx := by
  have hsub : spec.steps.take (0 + 1) ⊆ spec.steps.take (idx + 1) :=
    take_subset_take_left _ (by omega)
  obtain ⟨s, hs, ha⟩ := mem_flatMap.mp h
  exact mem_flatMap.mpr ⟨s, hsub hs, ha⟩

theorem registry_completion : ∀ spec ∈ registry, ∀ s ∈ spec.steps,
    s.onComplete.all (fun a => !a.rewires && !a.creates) = true := by
  decide +kernel

theorem registry_elsewhere : ∀ spec ∈ registry, spec.group ≠ .network →
    spec.transitionType ≠ .changeSystemNetworks ∧
      ∀ s ∈ spec.steps, s.apply.all (fun a => !a.rewires) = true := by
  decide +kernel

theorem registry_creates : ∀ spec ∈ registry,
    (∀ s ∈ spec.steps, s.apply.any Apply.creates = true →
      spec.transitionType = .addReplica ∧ spec.group ≠ .network) ∧
      ∀ s ∈ spec.steps.tail, s.apply.any Apply.creates = false := by
  decide +kernel

theorem registry_network : ∀ spec ∈ registry, spec.group = .network →
    spec.scope = .global ∧ (∀ s ∈ spec.steps, s.onComplete = []) ∧
      (spec.transitionType = .changeSystemNetworks ∨ spec.steps.length = 1 ∧
        spec.transitionType ≠ .changeSystemNetworks ∧ .addNewNetworks ∉ spec.callbacks ∧
        .removeOldNetworksAndAddresses ∉ spec.callbacks) := by
  decide +kernel

/-- The four plans of a change: what they add, what they remove and what they
check first. -/
theorem registry_change : ∀ spec ∈ registry, spec.transitionType = .changeSystemNetworks →
    spec.group = .network ∧ spec.init = .setSystemNetworks ∧
      .repairAddresses ∉ spec.callbacks ∧
      (.addNewNetworks ∈ spec.applied 0 ↔ spec.planID ≠ .remove) ∧
      (.addNewNetworks ∈ spec.callbacks ↔ spec.planID ≠ .remove) ∧
      (.removeOldNetworksAndAddresses ∈ spec.callbacks ↔ spec.planID ≠ .add) ∧
      (spec.planID = .remove → .guardRemainingNetworksConnected ∈ spec.guards) := by
  decide +kernel

/-- Networks are removed by the first step, behind the guard, or right after
everyone is connected on the added ones. -/
theorem registry_removal : ∀ spec ∈ registry,
    (.removeOldNetworksAndAddresses ∈ spec.applied 0 →
      .guardRemainingNetworksConnected ∈ spec.guards) ∧
    ∀ p ∈ spec.steps.zip spec.steps.tail, .removeOldNetworksAndAddresses ∈ p.2.apply →
      p.1.confirm = .confirmAllConnectedOnAddedNetworks ∧ .addNewNetworks ∈ spec.applied 0 := by
  decide +kernel

/-- The lists of a change fit its plan, as the dispatcher and the guards found
them. -/
structure Fits (t : Transition) (spec : PlanSpec) : Prop where
  adds : .addNewNetworks ∈ spec.callbacks → ∃ n, n ∈ addedNames t
  keeps : .addNewNetworks ∉ spec.callbacks → addedNames t = [] ∧
    ∃ n ∈ t.fromSystemNetworkNames, n ∈ t.toSystemNetworkNames
  removes : .removeOldNetworksAndAddresses ∉ spec.callbacks → removedNames t = []

def Reaches (t : Transition) (done : List Apply) (names : List String) : Prop :=
  ∀ n, n ∈ names ↔ (n ∈ t.fromSystemNetworkNames ∨ .addNewNetworks ∈ done ∧ n ∈ addedNames t) ∧
    (.removeOldNetworksAndAddresses ∈ done → n ∉ removedNames t)

structure Changing (t : Transition) (a : Active) (spec : PlanSpec) (names : List String) :
    Prop where
  plan : a.spec = some spec
  fits : Fits t spec
  reaches : Reaches t (spec.applied a.idx) names

variable {n : String}

theorem mem_addedNames :
    n ∈ addedNames t ↔ n ∈ t.toSystemNetworkNames ∧ n ∉ t.fromSystemNetworkNames := by
  simp [addedNames]

theorem mem_removedNames :
    n ∈ removedNames t ↔ n ∈ t.fromSystemNetworkNames ∧ n ∉ t.toSystemNetworkNames := by
  simp [removedNames]

theorem reaches_nil (t : Transition) : Reaches t [] t.fromSystemNetworkNames := by
  intro n
  simp

theorem Reaches.congr {done : List Apply} {names : List String} (h : Reaches t done names)
    (hsame : ∀ n, n ∈ names' ↔ n ∈ names) : Reaches t done names' :=
  fun n => (hsame n).trans (h n)

theorem Reaches.append {done as : List Apply} {names : List String} (h : Reaches t done names)
    (hrun : ∀ n, n ∈ names' ↔ (n ∈ names ∨ .addNewNetworks ∈ as ∧ n ∈ addedNames t) ∧
      (.removeOldNetworksAndAddresses ∈ as → n ∉ removedNames t)) :
    Reaches t (done ++ as) names' := by
  intro n
  rw [hrun, h n, mem_append, mem_append]
  refine compose_changes fun hadded hremoved => ?_
  exact (mem_addedNames.mp hadded).2 (mem_removedNames.mp hremoved).1

theorem Fits.target {names : List String} (h : Fits t spec)
    (hreaches : Reaches t spec.callbacks names) (n : String) :
    n ∈ names ↔ n ∈ t.toSystemNetworkNames := by
  rw [hreaches n, mem_addedNames]
  constructor
  · rintro ⟨hold | ⟨-, hnew, -⟩, hremoved⟩
    · by_contra hto
      have hmem : n ∈ removedNames t := mem_removedNames.mpr ⟨hold, hto⟩
      by_cases hremove : .removeOldNetworksAndAddresses ∈ spec.callbacks
      · exact hremoved hremove hmem
      · rw [h.removes hremove] at hmem
        cases hmem
    · exact hnew
  · intro hto
    refine ⟨?_, fun _ hmem => (mem_removedNames.mp hmem).2 hto⟩
    by_cases hfrom : n ∈ t.fromSystemNetworkNames
    · exact .inl hfrom
    · refine .inr ⟨?_, hto, hfrom⟩
      by_contra hadd
      have hmem : n ∈ addedNames t := mem_addedNames.mpr ⟨hto, hfrom⟩
      rw [(h.keeps hadd).1] at hmem
      cases hmem

variable {a : Active}

theorem Changing.added {names : List String}
    (h : Changing t a spec names) (hadd : .addNewNetworks ∈ spec.applied 0)
    (hn : n ∈ addedNames t) : n ∈ names := by
  refine (h.reaches n).mpr ⟨.inr ⟨spec.applied_mono hadd a.idx, hn⟩, fun _ hremoved => ?_⟩
  exact (mem_removedNames.mp hremoved).2 (mem_addedNames.mp hn).1

theorem Changing.nonempty {names : List String}
    (h : Changing t a spec names) (htype : a.type = .changeSystemNetworks) : names ≠ [] := by
  obtain ⟨hmem, hspecType, -⟩ := lookup_eq_some h.plan
  obtain ⟨-, -, -, hfirst, hadds, -, -⟩ := registry_change spec hmem (hspecType.trans htype)
  suffices ∃ n, n ∈ names by
    obtain ⟨n, hn⟩ := this
    exact ne_nil_of_mem hn
  by_cases hadd : .addNewNetworks ∈ spec.callbacks
  · obtain ⟨n, hn⟩ := h.fits.adds hadd
    exact ⟨n, h.added (hfirst.mpr (hadds.mp hadd)) hn⟩
  · obtain ⟨-, n, hfrom, hto⟩ := h.fits.keeps hadd
    exact ⟨n, (h.reaches n).mpr ⟨.inl hfrom, fun _ hremoved => (mem_removedNames.mp hremoved).2 hto⟩⟩

def MustConnect (g : GlobalContext) (a b : ReplicaID) : Prop :=
  a ≠ b ∧ ∃ m m', g.member a = some m ∧ g.member b = some m' ∧
    (m.type.connectsToAllPeers = true ∨ m'.type.connectsToAllPeers = true)

def ReportsOn (g : GlobalContext) (net : String) (a b : ReplicaID) : Prop :=
  ∃ rvr, g.rvr a = some rvr ∧ isAgentReady rvr = true ∧ peerConnectedOnNetwork net rvr b = true

def ConnectedOn (g : GlobalContext) (net : String) : Prop :=
  ∀ a b, MustConnect g a b → ReportsOn g net a b ∨ ReportsOn g net b a

theorem ConnectedOn.congr {g' : GlobalContext} (h : ConnectedOn g net) (hbare : g'.bare = g.bare) :
    ConnectedOn g' net := by
  have hmatch := matching_of_bare hbare
  unfold ConnectedOn MustConnect ReportsOn at h ⊢
  rwa [hmatch.member, hmatch.rvr]

variable {rev : ℕ}

theorem reportsOn_of_side {a b : ReplicaID}
    (h : sideVerifies (peerConnectedOnNetwork net) rev (g.rvr a) b = true) :
    ReportsOn g net a b := by
  unfold sideVerifies at h
  rw [Option.any_eq_true] at h
  obtain ⟨rvr, hrvr, h⟩ := h
  simp only [Bool.and_eq_true, decide_eq_true_eq] at h
  exact ⟨rvr, hrvr, h.1.1, h.2⟩

theorem connectedOn_of_verified (rev : ℕ)
    (h : ∀ id m, g.member id = some m → allConnectionsOfMemberVerified g id m rev
      (peerConnectedOnNetwork net) = true) : ConnectedOn g net := by
  rintro a b ⟨hne, m, m', hm, hm', hfull⟩
  have hverified := h a m hm
  simp only [allConnectionsOfMemberVerified, all_eq_true, mem_finRange, true_implies,
    Bool.or_eq_true, Bool.not_eq_true', decide_eq_false_iff_not, Bool.and_eq_true] at hverified
  have hexpected : b ∈ expectedPeerIDs m.type a (allMemberIDs g) (fullMeshMemberIDs g) := by
    unfold expectedPeerIDs
    by_cases hall : m.type.connectsToAllPeers = true
    · simp [hall, allMemberIDs, memberWhere, idsWhere, hm', hne.symm]
    · have hpeer := hfull.resolve_left hall
      simp [hall, fullMeshMemberIDs, memberWhere, idsWhere, hm', hpeer, hne.symm]
  rcases hverified b with hnot | ⟨-, hconnected⟩
  · exact absurd hexpected hnot
  · rw [peerConnectionVerified, Bool.or_eq_true] at hconnected
    exact hconnected.imp reportsOn_of_side reportsOn_of_side

theorem remaining_connected (h : (guardRemainingNetworksConnected g).blocked = false) :
    ∃ rsp, g.rsp = some rsp ∧ ∃ net ∈ g.systemNetworkNames, net ∈ rsp.systemNetworkNames ∧
      ConnectedOn g net := by
  unfold guardRemainingNetworksConnected at h
  cases hrsp : g.rsp with
  | none => simp [hrsp, GuardResult.block] at h
  | some rsp =>
    simp only [hrsp] at h
    split_ifs at h
    · simp [GuardResult.block] at h
    · unfold blockIf at h
      split at h
      · simp [GuardResult.block] at h
      · next hany =>
          rw [Bool.not_eq_true', Bool.not_eq_false, any_eq_true] at hany
          obtain ⟨net, hnet, hfull⟩ := hany
          rw [mem_filter, decide_eq_true_eq] at hnet
          refine ⟨rsp, rfl, net, hnet.2, hnet.1, connectedOn_of_verified 0 fun id m hm => ?_⟩
          have hmember := all_eq_true.mp hfull id (mem_finRange id)
          simpa [hm] using hmember

theorem added_connected {cr : ConfirmResult}
    (h : Confirm.run .confirmAllConnectedOnAddedNetworks g rctx rev = some cr) (hholds : cr.Holds)
    (hnet : net ∈ addedNetworks g) : ConnectedOn g net := by
  simp only [Confirm.run, Option.some.injEq] at h
  subst h
  refine connectedOn_of_verified rev fun id m hm => ?_
  have hmem : id ∈ (confirmAllConnectedOnAddedNetworks g rev).confirmed :=
    hholds.mem id (by
      simp [confirmAllConnectedOnAddedNetworks, confirmMembersWhere, allMemberIDs, memberWhere,
        idsWhere, hm])
  simp only [confirmAllConnectedOnAddedNetworks, confirmMembersWhere, Finset.mem_filter,
    Bool.and_eq_true, hm, Option.any_some, all_eq_true] at hmem
  exact hmem.2.2 net hnet

variable {planID : PlanID}

theorem decided_change (h : Decided domain g (.global .changeSystemNetworks planID)) :
    decideNetwork g = some (.global .changeSystemNetworks planID) := by
  cases decided_reached h with
  | network _ h => exact h

theorem decideNetwork_plan (h : decideNetwork g = some (.global .changeSystemNetworks planID)) :
    ∃ rsp, g.rsp = some rsp ∧
      (planID ≠ .remove → ∃ n ∈ rsp.systemNetworkNames, n ∉ g.systemNetworkNames) ∧
      (planID = .remove → ∀ n ∈ rsp.systemNetworkNames, n ∈ g.systemNetworkNames) ∧
      (planID = .add → ∀ n ∈ g.systemNetworkNames, n ∈ rsp.systemNetworkNames) := by
  unfold decideNetwork at h
  split at h
  · cases h
  · simp only [Option.bind_eq_bind, Option.bind_eq_some_iff] at h
    obtain ⟨rsp, hrsp, h⟩ := h
    split at h
    · cases h
    · next hsome =>
        simp only [Option.some.injEq, Decision.global.injEq, true_and] at h
        refine ⟨rsp, hrsp, ?_⟩
        have hadded : (rsp.systemNetworkNames.any (· ∉ g.systemNetworkNames)) = true ↔
            ∃ n ∈ rsp.systemNetworkNames, n ∉ g.systemNetworkNames := by simp
        have hremoved : (g.systemNetworkNames.any (· ∉ rsp.systemNetworkNames)) = true ↔
            ∃ n ∈ g.systemNetworkNames, n ∉ rsp.systemNetworkNames := by simp
        rw [← hadded]
        have hnone : ∀ {l l' : List String}, ¬(∃ n ∈ l, n ∉ l') → ∀ n ∈ l, n ∈ l' := by
          intro l l' hno n hn
          by_contra hmem
          exact hno ⟨n, hn, hmem⟩
        subst h
        split_ifs with h1 h2 h3 <;>
          simp only [ne_eq, reduceCtorEq, not_false_eq_true, true_implies, false_implies, and_true,
            not_true_eq_false, true_and]
        · simp only [Bool.and_eq_true] at h1
          exact h1.1.1
        · simp only [Bool.and_eq_true] at h2
          exact h2.1
        · refine ⟨h3, hnone fun hex => ?_⟩
          exact h2 (by rw [Bool.and_eq_true]; exact ⟨h3, hremoved.mpr hex⟩)
        · exact hnone fun hex => h3 (hadded.mpr hex)

variable {x : Option ReplicaID}

/-- A passed guard on the remaining networks, read on the contexts of the
creation. -/
theorem Starts.remaining {e : Engine GlobalContext}
    (h : Starts e spec rctx x g t) (hguard : .guardRemainingNetworksConnected ∈ spec.guards) :
    ∃ rsp, e.global.rsp = some rsp ∧ ∃ net ∈ e.global.systemNetworkNames,
      net ∈ rsp.systemNetworkNames ∧ ConnectedOn e.global net := by
  obtain ⟨result, hguards, hpass⟩ := h.guards
  obtain ⟨g1, g2, result1, hsilent, hrun, hpass1⟩ := evaluateGuards_pass hguards hpass _ hguard
  simp only [Guard.run, Guard.replicaGuard, Guard.globalGuard, Option.map_some, Option.some.injEq,
    Prod.mk.injEq] at hrun
  rw [← hrun.1] at hpass1
  obtain ⟨rsp, hrsp, net, hnet, hto, hconnected⟩ := remaining_connected hpass1
  have hbare := bare_of_silent hsilent
  have hmatch := matching_of_bare hbare
  rw [hmatch.rsp] at hrsp
  rw [hmatch.names] at hnet
  exact ⟨rsp, hrsp, net, hnet, hto, hconnected.congr hbare.symm⟩

theorem Starts.fits {e : Engine GlobalContext}
    (h : Starts e spec rctx x g t) (htype : spec.transitionType = .changeSystemNetworks) :
    t.fromSystemNetworkNames = e.global.systemNetworkNames ∧
      (∃ rsp, e.global.rsp = some rsp ∧ t.toSystemNetworkNames = rsp.systemNetworkNames) ∧
      Fits t spec := by
  obtain ⟨hgroup, hinit, -, -, hadds, hremoves, hguard⟩ := registry_change spec h.registered htype
  have hdecided := h.decided (registry_network spec h.registered hgroup).1
  rw [htype] at hdecided
  obtain ⟨rsp, hrsp, hnew, hold, hkept⟩ := decideNetwork_plan (decided_change hdecided)
  -- the guards changed neither list
  obtain ⟨result, hguards, hpass⟩ := h.guards
  have hmatch := matching_of_bare (bare_of_silent (evaluateGuards_silent hguards))
  have hrsp' : g.rsp = some rsp := hmatch.rsp.trans hrsp
  have ht := h.init
  rw [hinit] at ht
  simp only [Init.run, setSystemNetworks, hrsp', Option.bind_eq_bind, Option.bind_some,
    Option.some.injEq] at ht
  have hfrom : t.fromSystemNetworkNames = e.global.systemNetworkNames := by
    rw [← ht, ← hmatch.names]
  have hto : t.toSystemNetworkNames = rsp.systemNetworkNames := by rw [← ht]
  refine ⟨hfrom, ⟨rsp, hrsp, hto⟩, ?_, ?_, ?_⟩
  · intro hadd
    obtain ⟨n, hn, hnot⟩ := hnew (hadds.mp hadd)
    exact ⟨n, mem_addedNames.mpr ⟨hto ▸ hn, hfrom ▸ hnot⟩⟩
  · intro hadd
    have hplan : spec.planID = .remove := by
      by_contra hne
      exact hadd (hadds.mpr hne)
    obtain ⟨rsp1, hrsp1, net, hnet, hnet', -⟩ := h.remaining (hguard hplan)
    rw [hrsp, Option.some.injEq] at hrsp1
    subst hrsp1
    refine ⟨eq_nil_iff_forall_not_mem.mpr fun n hn => ?_, net, hfrom ▸ hnet, hto ▸ hnet'⟩
    rw [mem_addedNames, hfrom, hto] at hn
    exact hn.2 (hold hplan n hn.1)
  · intro hremove
    have hplan : spec.planID = .add := by
      by_contra hne
      exact hremove (hremoves.mpr hne)
    refine eq_nil_iff_forall_not_mem.mpr fun n hn => ?_
    rw [mem_removedNames, hfrom, hto] at hn
    exact hn.2 (hkept hplan n hn.1)

def isChange (t : Transition) : Prop := t.type = .changeSystemNetworks

structure NetworkSafe (ev : Event GlobalContext) : Prop where
  lists : ev.kind = .created → isChange ev.transition →
    ev.transition.fromSystemNetworkNames = ev.before.global.systemNetworkNames ∧
      ∃ rsp, ev.before.global.rsp = some rsp ∧
        ev.transition.toSystemNetworkNames = rsp.systemNetworkNames
  target : ev.kind = .completed → isChange ev.transition → ∀ n,
    n ∈ ev.after.global.systemNetworkNames ↔ n ∈ ev.transition.toSystemNetworkNames
  nonempty : (∃ t ∈ ev.after.active, isChange t) ∨ ev.kind = .completed ∧ isChange ev.transition →
    ev.after.global.systemNetworkNames ≠ []
  connected : (∃ n ∈ ev.before.global.systemNetworkNames, n ∉ ev.after.global.systemNetworkNames) →
    ∃ net ∈ ev.after.global.systemNetworkNames, ConnectedOn ev.before.global net

def OnCourse (e : Engine GlobalContext) : Prop :=
  ∀ k ∈ e.transitions, isChange (e.heap k) → ∃ spec,
    Changing (headerOf (e.heap k)) (activeAt e k) spec e.global.systemNetworkNames

structure Wired (e : Engine GlobalContext) : Prop where
  course : OnCourse e
  events : ∀ ev ∈ e.log, NetworkSafe ev

section
variable {e e' : Engine GlobalContext}

theorem Orderly.change_group (h : Orderly e) (hk : k ∈ e.transitions)
    (hchange : isChange (e.heap k)) : (e.heap k).group = .network := by
  have hmem := mem_active hk
  rcases h.regular.coherent.known _ hmem with ⟨hform, -, -⟩ | ⟨spec, hspec, hgroup, -⟩
  · rw [show (activeAt e k).type = .changeSystemNetworks from hchange] at hform
    cases hform
  · obtain ⟨hreg, htype, -⟩ := lookup_eq_some hspec
    exact hgroup.trans (registry_change spec hreg (htype.trans hchange)).1

theorem Orderly.network_unique (h : Orderly e) {k' : ℕ} (hk : k ∈ e.transitions)
    (hk' : k' ∈ e.transitions) (hgroup : (e.heap k).group = .network)
    (hgroup' : (e.heap k').group = .network) : k = k' := by
  by_contra hne
  have hunshared := h.regular.unshared
  rw [meshOf_active, pairwise_map] at hunshared
  have hsymm : Std.Symm fun k k' => Unshared (activeAt e k) (activeAt e k') :=
    ⟨fun _ _ hu => hu.symm⟩
  exact (hunshared.forall hk hk' hne).network ⟨hgroup, hgroup'⟩

theorem Orderly.books_change (h : Orderly e) (hk : k ∈ e.transitions)
    (hchange : isChange (e.heap k)) : e.global.books.networks = some (headerOf (e.heap k)) := by
  have hself : changesNetworks (headerOf (e.heap k)) = true := by
    have hgroup : (headerOf (e.heap k)).group = .network := h.change_group hk hchange
    have htype : (headerOf (e.heap k)).type = .changeSystemNetworks := hchange
    simp [changesNetworks, hgroup, htype]
  rw [h.ledgered.tally.networks]
  cases hfind : (headers e).reverse.find? changesNetworks with
  | none =>
    have hnone := List.find?_eq_none.mp hfind (headerOf (e.heap k))
      (mem_reverse.mpr (mem_headers.mpr ⟨k, hk, rfl⟩))
    exact absurd hself hnone
  | some t =>
    obtain ⟨k', hk', rfl⟩ := mem_headers.mp (mem_reverse.mp (mem_of_find?_eq_some hfind))
    have hfound := List.find?_some hfind
    simp only [changesNetworks, Bool.and_eq_true, decide_eq_true_eq] at hfound
    have hgroup' : (e.heap k').group = .network := hfound.1
    rw [h.network_unique hk' hk hgroup' (h.change_group hk hchange)]

variable {b : Books} {as : List Apply}

theorem Works.names (h : Works e e' rctx b as) (n : String) :
    n ∈ e'.global.systemNetworkNames ↔
      (n ∈ e.global.systemNetworkNames ∨ .addNewNetworks ∈ as ∧ n ∈ b.networks.elim [] addedNames) ∧
      (.removeOldNetworksAndAddresses ∈ as → n ∉ b.networks.elim [] removedNames) := by
  obtain ⟨g, g', c, hstart, rfl, hrun, hend⟩ := h
  rw [(matching_of_bare hend).names, ← (matching_of_bare hstart).names, ← addedNetworks_eq,
    ← removedNetworks_eq]
  exact applies_names hrun n

theorem Works.names_same (h : Works e e' rctx b as)
    (has : as.all (fun a => !a.rewires) = true) (n : String) :
    n ∈ e'.global.systemNetworkNames ↔ n ∈ e.global.systemNetworkNames := by
  rw [all_eq_true] at has
  have hadd : .addNewNetworks ∉ as := fun hmem => by simpa [Apply.rewires] using has _ hmem
  have hremove : .removeOldNetworksAndAddresses ∉ as := fun hmem => by
    simpa [Apply.rewires] using has _ hmem
  rw [h.names]
  simp [hadd, hremove]

theorem Changing.congr {a : Active} {names : List String}
    (h : Changing t a spec names) (hsame : ∀ n, n ∈ names' ↔ n ∈ names) :
    Changing t a spec names' := ⟨h.plan, h.fits, h.reaches.congr hsame⟩

theorem OnCourse.same (h : OnCourse e) (hk : k ∈ e.transitions) (hsame : SameAt e e' k)
    (hnames : ∀ n, n ∈ e'.global.systemNetworkNames ↔ n ∈ e.global.systemNetworkNames)
    (hchange : isChange (e'.heap k)) : ∃ spec,
      Changing (headerOf (e'.heap k)) (activeAt e' k) spec e'.global.systemNetworkNames := by
  obtain ⟨hhead, hactive⟩ := hsame
  have htype : isChange (e.heap k) := (congrArg Transition.type hhead).symm.trans hchange
  obtain ⟨spec, hchanging⟩ := h k hk htype
  rw [hhead, hactive]
  exact ⟨spec, hchanging.congr hnames⟩

theorem OnCourse.nonempty (h : OnCourse e) (hlive : ∃ t ∈ e.snapshot.active, isChange t) :
    e.global.systemNetworkNames ≠ [] := by
  obtain ⟨t, ht, hchange⟩ := hlive
  obtain ⟨k, hk, rfl⟩ := mem_map.mp ht
  obtain ⟨spec, hchanging⟩ := h k hk hchange
  exact hchanging.nonempty hchange

theorem Rests.course (h : Rests e e') (hcourse : OnCourse e) : OnCourse e' := by
  intro k hk hchange
  obtain ⟨hk0, hsame⟩ := h.live k hk
  have hnames := (matching_of_bare h.bare).names
  exact hcourse.same hk0 hsame (fun n => by rw [hnames]) hchange

theorem networkSafe_of_same {ev : Event GlobalContext} (hcourse : OnCourse e')
    (hafter : ev.after = e'.snapshot) (hcreated : ev.kind = .created → ¬isChange ev.transition)
    (hcompleted : ev.kind = .completed → ¬isChange ev.transition)
    (hnames : ∀ n, n ∈ ev.before.global.systemNetworkNames →
      n ∈ e'.global.systemNetworkNames) : NetworkSafe ev := by
  constructor
  · exact fun hkind hchange => absurd hchange (hcreated hkind)
  · exact fun hkind hchange => absurd hchange (hcompleted hkind)
  · rintro (hlive | ⟨hkind, hchange⟩)
    · rw [hafter] at hlive ⊢
      exact hcourse.nonempty hlive
    · exact absurd hchange (hcompleted hkind)
  · rintro ⟨n, hn, hgone⟩
    rw [hafter] at hgone
    exact absurd (hnames n hn) hgone

end

section
variable {e e' : Engine GlobalContext} {k : ℕ} {spec : PlanSpec} {s s' : StepSpec}
  {rctx : Option Ref}

section
variable (h : Settles e k spec s rctx)
include h

theorem Settles.registered : spec ∈ registry ∧ spec.transitionType = (e.heap k).type := by
  obtain ⟨hmem, htype, -⟩ := lookup_eq_some h.plan
  exact ⟨hmem, htype⟩

theorem Settles.group (he : Orderly e) : (e.heap k).group = spec.group := by
  exact ((he.regular.coherent.known _ (mem_active h.mem)).of_spec h.plan).1

theorem Settles.step_mem : s ∈ spec.steps := mem_of_getElem? h.step

theorem Settles.completion_quiet :
    s.onComplete.all (fun a => !a.rewires) = true ∧ s.onComplete.any Apply.creates = false := by
  have hdone := registry_completion spec h.registered.1 s h.step_mem
  rw [all_eq_true] at hdone
  constructor
  · rw [all_eq_true]
    intro a ha
    have hquiet := hdone a ha
    rw [Bool.and_eq_true] at hquiet
    exact hquiet.1
  · rw [any_eq_false]
    intro a ha
    have hquiet := hdone a ha
    rw [Bool.and_eq_true] at hquiet
    simpa using hquiet.2

/-- The next step of a network plan: the plan is that of a change, and only the
callbacks of the step run. -/
theorem Settles.network_step (hgroup : spec.group = .network)
    (hnext : spec.steps[(activeAt e k).idx + 1]? = some s')
    (hworks : Works e e' rctx e.global.books (s.onComplete ++ s'.apply)) :
    isChange (e.heap k) ∧ Works e e' rctx e.global.books s'.apply := by
  obtain ⟨hreg, htype⟩ := h.registered
  obtain ⟨-, hdone, hkind⟩ := registry_network spec hreg hgroup
  rw [hdone s h.step_mem, nil_append] at hworks
  refine ⟨?_, hworks⟩
  rcases hkind with hchange | ⟨hone, -⟩
  · exact htype.symm.trans hchange
  · have hlt := (List.getElem?_eq_some_iff.mp hnext).1
    omega

theorem Settles.other_step (hgroup : spec.group ≠ .network)
    (hnext : spec.steps[(activeAt e k).idx + 1]? = some s')
    (hworks : Works e e' rctx e.global.books (s.onComplete ++ s'.apply)) (n : String) :
    n ∈ e'.global.systemNetworkNames ↔ n ∈ e.global.systemNetworkNames := by
  obtain ⟨hreg, -⟩ := h.registered
  refine hworks.names_same ?_ n
  rw [all_append, Bool.and_eq_true]
  exact ⟨h.completion_quiet.1, (registry_elsewhere spec hreg hgroup).2 s' (mem_of_getElem? hnext)⟩

theorem Settles.change_names (he : Orderly e)
    (hchange : isChange (e.heap k)) (hworks : Works e e' rctx e.global.books s'.apply)
    (n : String) : n ∈ e'.global.systemNetworkNames ↔
      (n ∈ e.global.systemNetworkNames ∨
        .addNewNetworks ∈ s'.apply ∧ n ∈ addedNames (headerOf (e.heap k))) ∧
      (.removeOldNetworksAndAddresses ∈ s'.apply → n ∉ removedNames (headerOf (e.heap k))) := by
  have hnames := hworks.names n
  rw [he.books_change h.mem hchange] at hnames
  exact hnames

end

theorem advance_course (he : Orderly e) (he' : Orderly e') (hcourse : OnCourse e)
    (hsettles : Settles e k spec s rctx) (hnext : spec.steps[(activeAt e k).idx + 1]? = some s')
    (hworks : Works e e' rctx e.global.books (s.onComplete ++ s'.apply))
    (htrans : e'.transitions = e.transitions) (hhead : headerOf (e'.heap k) = headerOf (e.heap k))
    (hidx : (activeAt e' k).idx = (activeAt e k).idx + 1)
    (hothers : ∀ k', k' ≠ k → e'.heap k' = e.heap k') : OnCourse e' := by
  intro k' hk' hchange'
  have hgroupAt := hsettles.group he
  obtain ⟨htype, hid, hsame, -⟩ := head_of_header hhead
  by_cases hgroup : spec.group = .network
  · obtain ⟨hchange, hworks⟩ := hsettles.network_step hgroup hnext hworks
    have hgroup' : (e'.heap k).group = .network := by rw [hsame, hgroupAt, hgroup]
    have hk : k ∈ e'.transitions := htrans ▸ hsettles.mem
    obtain rfl : k' = k := he'.network_unique hk' hk (he'.change_group hk' hchange') hgroup'
    obtain ⟨spec', hplan, hfits, hreaches⟩ := hcourse k' hsettles.mem hchange
    obtain rfl : spec' = spec := Option.some.inj (hplan.symm.trans hsettles.plan)
    have hplan' : (activeAt e' k').spec = some spec' := by
      change lookup (e'.heap k').type (e'.heap k').planID = _
      rwa [htype, hid]
    rw [hhead]
    refine ⟨spec', hplan', hfits, ?_⟩
    rw [hidx, PlanSpec.applied_succ hnext]
    exact hreaches.append (hsettles.change_names he hchange hworks)
  · have hne : k' ≠ k := by
      rintro rfl
      rw [he'.change_group hk' hchange', hgroupAt] at hsame
      exact hgroup hsame.symm
    rw [htrans] at hk'
    exact hcourse.same hk' (sameAt_of_heap (hothers k' hne))
      (hsettles.other_step hgroup hnext hworks) hchange'

theorem mem_zip_tail {α : Type} {l : List α} {i : ℕ} {a b : α} (ha : l[i]? = some a)
    (hb : l[i + 1]? = some b) : (a, b) ∈ l.zip l.tail := by
  refine mem_of_getElem? (i := i) ?_
  rw [List.getElem?_zip_eq_some, List.getElem?_tail]
  exact ⟨ha, hb⟩

/-- A later step removes networks only when everyone is connected on an added
one. -/
theorem advance_connected (he : Orderly e) (hcourse : OnCourse e)
    (hsettles : Settles e k spec s rctx) (hnext : spec.steps[(activeAt e k).idx + 1]? = some s')
    (hworks : Works e e' rctx e.global.books (s.onComplete ++ s'.apply))
    (hremoved : ∃ n ∈ e.global.systemNetworkNames, n ∉ e'.global.systemNetworkNames) :
    ∃ net ∈ e'.global.systemNetworkNames, ConnectedOn e.global net := by
  obtain ⟨n, hn, hgone⟩ := hremoved
  by_cases hgroup : spec.group = .network
  · obtain ⟨hchange, hworks⟩ := hsettles.network_step hgroup hnext hworks
    have hnames := hsettles.change_names he hchange hworks
    have hremove : .removeOldNetworksAndAddresses ∈ s'.apply := by
      by_contra hnot
      exact hgone ((hnames n).mpr ⟨.inl hn, fun hmem => absurd hmem hnot⟩)
    obtain ⟨hreg, htype⟩ := hsettles.registered
    obtain ⟨hconfirm, hadd⟩ := (registry_removal spec hreg).2 _
      (mem_zip_tail hsettles.step hnext) hremove
    obtain ⟨spec', hchanging⟩ := hcourse k hsettles.mem hchange
    obtain rfl : spec' = spec := Option.some.inj (hchanging.plan.symm.trans hsettles.plan)
    have hadds : .addNewNetworks ∈ spec'.callbacks := by
      obtain ⟨-, -, -, hfirst, hall, -⟩ := registry_change spec' hreg (htype.trans hchange)
      exact hall.mpr (hfirst.mp hadd)
    obtain ⟨net, hnet⟩ := hchanging.fits.adds hadds
    obtain ⟨cr, hcr, hholds⟩ := hsettles.confirmed
    rw [hconfirm] at hcr
    refine ⟨net, (hnames net).mpr ⟨.inl (hchanging.added hadd hnet), fun _ hold => ?_⟩,
      added_connected hcr hholds ?_⟩
    · exact (mem_removedNames.mp hold).2 (mem_addedNames.mp hnet).1
    · rwa [addedNetworks_eq, he.books_change hsettles.mem hchange]
  · exact absurd ((hsettles.other_step hgroup hnext hworks n).mpr hn) hgone

end

section
variable {e e' : Engine GlobalContext} {k : ℕ} {spec : PlanSpec} {s : StepSpec}
  {rctx : Option Ref}

theorem complete_names (hsettles : Settles e k spec s rctx)
    (hworks : Works e e' rctx e.global.books s.onComplete) (n : String) :
    n ∈ e'.global.systemNetworkNames ↔ n ∈ e.global.systemNetworkNames :=
  hworks.names_same hsettles.completion_quiet.1 n

theorem complete_course (he : Orderly e) (hcourse : OnCourse e)
    (hsettles : Settles e k spec s rctx)
    (hworks : Works e e' rctx e.global.books s.onComplete)
    (htrans : e'.transitions = e.transitions.erase k)
    (hothers : ∀ k', k' ≠ k → e'.heap k' = e.heap k') : OnCourse e' := by
  intro k' hk' hchange
  rw [htrans, he.linked.nodup.mem_erase_iff] at hk'
  exact hcourse.same hk'.2 (sameAt_of_heap (hothers k' hk'.1)) (complete_names hsettles hworks)
    hchange

theorem complete_target (hcourse : OnCourse e) (hsettles : Settles e k spec s rctx)
    (hlast : spec.steps.length = (activeAt e k).idx + 1)
    (hworks : Works e e' rctx e.global.books s.onComplete) (hchange : isChange (e.heap k)) :
    (∀ n, n ∈ e'.global.systemNetworkNames ↔ n ∈ (e.heap k).toSystemNetworkNames) ∧
      e'.global.systemNetworkNames ≠ [] := by
  obtain ⟨spec', hchanging⟩ := hcourse k hsettles.mem hchange
  obtain rfl : spec' = spec := Option.some.inj (hchanging.plan.symm.trans hsettles.plan)
  have hnames := complete_names hsettles hworks
  have hreaches := hchanging.reaches
  rw [PlanSpec.applied_last hlast] at hreaches
  exact ⟨fun n => (hnames n).trans (hchanging.fits.target hreaches n),
    (hchanging.congr hnames).nonempty hchange⟩

end

section
variable {e e' : Engine GlobalContext} {spec : PlanSpec} {s : StepSpec} {rctx : Option Ref}
  {x : Option ReplicaID} {g : GlobalContext} {t : Transition}

section
variable (h : Starts e spec rctx x g t)
include h

theorem Starts.started : Started spec x t := started_of_init h.init

theorem Starts.matching : g.bare = e.global.bare := by
  obtain ⟨result, hguards, -⟩ := h.guards
  exact bare_of_silent (evaluateGuards_silent hguards)

theorem Starts.books_change (htype : spec.transitionType = .changeSystemNetworks) :
    (e.global.books.add (headerOf t)).networks = some (headerOf t) := by
  have hgroup : (headerOf t).group = .network :=
    h.started.group.trans (registry_change spec h.registered htype).1
  have htype' : (headerOf t).type = .changeSystemNetworks := h.started.type.trans htype
  simp only [Books.add, hgroup, htype', if_true]

theorem create_names_same (htype : spec.transitionType ≠ .changeSystemNetworks)
    (hstep : spec.steps[0]? = some s)
    (hworks : Works e e' rctx (e.global.books.add (headerOf t)) s.apply) (n : String) :
    n ∈ e'.global.systemNetworkNames ↔ n ∈ e.global.systemNetworkNames := by
  have hmem := mem_of_getElem? hstep
  by_cases hgroup : spec.group = .network
  · obtain ⟨-, -, hkind⟩ := registry_network spec h.registered hgroup
    obtain ⟨-, -, hadd, hremove⟩ := hkind.resolve_left htype
    have hsub : ∀ a ∈ s.apply, a ∈ spec.callbacks := fun a ha => mem_flatMap.mpr ⟨s, hmem, ha⟩
    rw [hworks.names]
    have hadd' : .addNewNetworks ∉ s.apply := fun ha => hadd (hsub _ ha)
    have hremove' : .removeOldNetworksAndAddresses ∉ s.apply := fun ha => hremove (hsub _ ha)
    simp [hadd', hremove']
  · exact hworks.names_same ((registry_elsewhere spec h.registered hgroup).2 s hmem) n

theorem create_names (htype : spec.transitionType = .changeSystemNetworks)
    (hworks : Works e e' rctx (e.global.books.add (headerOf t)) s.apply) (n : String) :
    n ∈ e'.global.systemNetworkNames ↔
      (n ∈ e.global.systemNetworkNames ∨ .addNewNetworks ∈ s.apply ∧ n ∈ addedNames t) ∧
      (.removeOldNetworksAndAddresses ∈ s.apply → n ∉ removedNames t) := by
  have hnames := hworks.names n
  rw [h.books_change htype] at hnames
  exact hnames

end

theorem create_course (he' : Orderly e') (hcourse : OnCourse e)
    (hstarts : Starts e spec rctx x g t) (hstep : spec.steps[0]? = some s)
    (hworks : Works e e' rctx (e.global.books.add (headerOf t)) s.apply)
    (htrans : e'.transitions = e.transitions ++ [e.next])
    (hhead : headerOf (e'.heap e.next) = headerOf t) (hidx : (activeAt e' e.next).idx = 0)
    (hothers : ∀ k, k ≠ e.next → e'.heap k = e.heap k) : OnCourse e' := by
  intro k hk hchange
  have hstarted := hstarts.started
  obtain ⟨htypeAt, hidAt, hgroupAt, -⟩ := head_of_header hhead
  have hnew : e.next ∈ e'.transitions := by simp [htrans]
  by_cases hnext : k = e.next
  · subst hnext
    have htype : spec.transitionType = .changeSystemNetworks := by
      rwa [← hstarted.type, ← htypeAt]
    obtain ⟨hfrom, -, hfits⟩ := hstarts.fits htype
    have hplan : (activeAt e' e.next).spec = some spec := by
      change lookup (e'.heap e.next).type (e'.heap e.next).planID = _
      rw [htypeAt, hidAt, hstarted.type, hstarted.planID]
      exact lookup_of_mem spec hstarts.registered
    rw [hhead]
    refine ⟨spec, hplan, ⟨hfits.adds, hfits.keeps, hfits.removes⟩, ?_⟩
    rw [hidx, PlanSpec.applied_zero hstep]
    have hnil : Reaches t [] e.global.systemNetworkNames := by
      rw [← hfrom]
      exact reaches_nil t
    exact hnil.append (create_names hstarts htype hworks)
  · have hold : k ∈ e.transitions := by simpa [htrans, hnext] using hk
    have htype : spec.transitionType ≠ .changeSystemNetworks := by
      intro htype
      have hgroup : (e'.heap e.next).group = .network := by
        rw [hgroupAt, hstarted.group]
        exact (registry_change spec hstarts.registered htype).1
      exact hnext (he'.network_unique hk hnew (he'.change_group hk hchange) hgroup)
    exact hcourse.same hold (sameAt_of_heap (hothers k hnext))
      (create_names_same hstarts htype hstep hworks) hchange

theorem create_connected (hstarts : Starts e spec rctx x g t) (hstep : spec.steps[0]? = some s)
    (hworks : Works e e' rctx (e.global.books.add (headerOf t)) s.apply)
    (hremoved : ∃ n ∈ e.global.systemNetworkNames, n ∉ e'.global.systemNetworkNames) :
    ∃ net ∈ e'.global.systemNetworkNames, ConnectedOn e.global net := by
  obtain ⟨n, hn, hgone⟩ := hremoved
  by_cases htype : spec.transitionType = .changeSystemNetworks
  · have hnames := create_names hstarts htype hworks
    have hremove : .removeOldNetworksAndAddresses ∈ s.apply := by
      by_contra hnot
      exact hgone ((hnames n).mpr ⟨.inl hn, fun hmem => absurd hmem hnot⟩)
    rw [← PlanSpec.applied_zero hstep] at hremove
    obtain ⟨rsp, hrsp, net, hnet, hto, hconnected⟩ :=
      hstarts.remaining ((registry_removal spec hstarts.registered).1 hremove)
    obtain ⟨-, ⟨rsp', hrsp', hlist⟩, -⟩ := hstarts.fits htype
    rw [hrsp, Option.some.injEq] at hrsp'
    subst hrsp'
    refine ⟨net, (hnames net).mpr ⟨.inl hnet, fun _ hold => ?_⟩, hconnected⟩
    rw [mem_removedNames, hlist] at hold
    exact hold.2 hto
  · exact absurd ((create_names_same hstarts htype hstep hworks n).mpr hn) hgone

end

theorem OrderlyMove.wired {e e' : Engine GlobalContext} (h : OrderlyMove e e') (hw : Wired e) :
    Wired e' := by
  obtain ⟨he, he', hmove⟩ := h
  cases hmove with
  | rest hrests hlog =>
    refine ⟨hrests.course hw.course, ?_⟩
    rw [hlog]
    exact hw.events
  | @note ev hrests hkind hbefore hafter hlog =>
    have hcourse := hrests.course hw.course
    refine ⟨hcourse, ?_⟩
    rw [hlog]
    refine forall_mem_cons.mpr ⟨networkSafe_of_same hcourse hafter ?_ ?_ ?_, hw.events⟩
    · rcases hkind with hkind | hkind <;> simp [hkind]
    · rcases hkind with hkind | hkind <;> simp [hkind]
    · intro n hn
      rw [hbefore] at hn
      rwa [(matching_of_bare hrests.bare).names]
  | advance hsettles hnext hworks htrans hhead hidx hothers hlog =>
    have hcourse := advance_course he he' hw.course hsettles hnext hworks htrans hhead hidx hothers
    refine ⟨hcourse, ?_⟩
    rw [hlog]
    refine forall_mem_cons.mpr ⟨⟨by simp, by simp, ?_, ?_⟩, hw.events⟩
    · rintro (hlive | ⟨hkind, -⟩)
      · exact hcourse.nonempty hlive
      · cases hkind
    · exact advance_connected he hw.course hsettles hnext hworks
  | @complete k spec s rctx hsettles hlast hworks htrans hothers hlog =>
    have hcourse := complete_course he hw.course hsettles hworks htrans hothers
    have htarget := complete_target hw.course hsettles hlast hworks
    refine ⟨hcourse, ?_⟩
    rw [hlog]
    refine forall_mem_cons.mpr ⟨⟨by simp, ?_, ?_, ?_⟩, hw.events⟩
    · exact fun _ hchange => (htarget hchange).1
    · rintro (hlive | ⟨-, hchange⟩)
      · exact hcourse.nonempty hlive
      · exact (htarget hchange).2
    · rintro ⟨n, hn, hgone⟩
      exact absurd ((complete_names hsettles hworks n).mpr hn) hgone
  | @create spec s rctx x t g hstarts hstep hworks htrans hhead hidx hothers hlog =>
    have hcourse := create_course he' hw.course hstarts hstep hworks htrans hhead hidx hothers
    have hmatch := matching_of_bare hstarts.matching
    refine ⟨hcourse, ?_⟩
    rw [hlog]
    refine forall_mem_cons.mpr ⟨⟨?_, by simp, ?_, ?_⟩, hw.events⟩
    · intro _ hchange
      have htype : spec.transitionType = .changeSystemNetworks := by
        rwa [← hstarts.started.type, ← (head_of_header hhead).1]
      obtain ⟨hfrom, ⟨rsp, hrsp, hto⟩, -⟩ := hstarts.fits htype
      have hlists := congrArg (fun t => (t.fromSystemNetworkNames, t.toSystemNetworkNames)) hhead
      simp only [headerOf, Prod.mk.injEq] at hlists
      refine ⟨hlists.1.trans (hfrom.trans hmatch.names.symm), rsp, hmatch.rsp.trans hrsp, ?_⟩
      exact hlists.2.trans hto
    · rintro (hlive | ⟨hkind, -⟩)
      · exact hcourse.nonempty hlive
      · cases hkind
    · rintro ⟨n, hn, hgone⟩
      have hn' : n ∈ e.global.systemNetworkNames := hmatch.names ▸ hn
      obtain ⟨net, hnet, hconnected⟩ := create_connected hstarts hstep hworks ⟨n, hn', hgone⟩
      exact ⟨net, hnet, hconnected.congr hstarts.matching⟩

theorem wired_of_chain {e e' : Engine GlobalContext}
    (h : Relation.ReflTransGen OrderlyMove e e') (hw : Wired e) : Wired e' := by
  induction h with
  | refl => exact hw
  | tail _ hmove ih => exact hmove.wired ih

end ReplicatedVolume.Datamesh
