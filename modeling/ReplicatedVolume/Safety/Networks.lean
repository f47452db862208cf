import ReplicatedVolume.Mesh.Course
import ReplicatedVolume.Safety.Quorum

/-!
# Changing the system networks

The list of system networks reaches its target safely in every run. Addresses are
another matter: a change strips only those on the networks it removes, once. They
end up on the target if members and joining replicas bring no addresses from
elsewhere.
-/

namespace ReplicatedVolume.Datamesh
open Dmte List Option

variable {b : Books} {st : Status}

/-- What an event may bring in without leaving strays behind: when a change is
created all members are on networks of the list or of the target, and so is what
a replica reports that joins while a change is live. -/
structure Tidy (ev : Event GlobalContext) : Prop where
  change : ev.kind = .created → isChange ev.transition → ev.before.global.Houses fun n =>
    n ∈ ev.before.global.systemNetworkNames ∨
      ∃ rsp, ev.before.global.rsp = some rsp ∧ n ∈ rsp.systemNetworkNames
  join : ev.kind = .created → ev.transition.type = .addReplica →
    ∀ t ∈ ev.before.active, isChange t → ∀ id rvr, ev.transition.replica = some id →
      ev.before.global.rvr id = some rvr → ∀ a ∈ rvr.addresses,
        a.systemNetworkName ∈ ev.before.global.systemNetworkNames ∨
          a.systemNetworkName ∈ t.toSystemNetworkNames

/-- While a change is live members are on the list or on its target, and a
completed change left them on its target. -/
structure Housed (e : Engine GlobalContext) : Prop where
  live : ∀ k ∈ e.transitions, isChange (e.heap k) → e.global.Houses fun n =>
    n ∈ (headerOf (e.heap k)).toSystemNetworkNames ∨ n ∈ e.global.systemNetworkNames
  events : ∀ ev ∈ e.log, ev.kind = .completed → isChange ev.transition →
    ev.after.global.Houses (· ∈ ev.transition.toSystemNetworkNames)

variable {P : String → Prop}

theorem GlobalContext.Houses.congr {g g' : GlobalContext} (h : g.Houses P)
    (hmember : g'.member = g.member) : g'.Houses P := by
  unfold GlobalContext.Houses at h ⊢
  rwa [hmember]

section
variable {e e' : Engine GlobalContext} {rctx : Option Ref} {x : Option ReplicaID}
  {as : List Apply} {P : String → Prop}

theorem Works.houses (hworks : Works e e' rctx b as) (he : Orderly e) (hx : Denotes rctx x)
    (hP : e.global.Houses P) (hrepair : .repairAddresses ∉ as)
    (hadded : .addNewAddresses ∈ as → ∀ n ∈ b.networks.elim [] addedNames, P n)
    (hjoin : as.any Apply.creates = true → .removeOldNetworksAndAddresses ∉ as ∧ ∀ id rvr, x =
      some id → e.global.rvr id = some rvr → ∀ a ∈ rvr.addresses, P a.systemNetworkName) :
    e'.global.Houses fun n => P n ∧
      (.removeOldNetworksAndAddresses ∈ as → n ∉ b.networks.elim [] removedNames) := by
  obtain ⟨g, g', c, hstart, rfl, hrun, hend⟩ := hworks
  have hmatch := matching_of_bare hstart
  rw [← addedNetworks_eq] at hadded
  rw [← removedNetworks_eq]
  rw [← hmatch.rvr] at hjoin
  exact (applies_houses (hmatch.anchored he.linked.anchored) hx hrun (hP.congr hmatch.member)
    hrepair hadded hjoin).congr (matching_of_bare hend).member

end

theorem not_mem_of_rewires {as : List Apply} (h : as.all (fun a => !a.rewires) = true) {a : Apply}
    (ha : a.rewires = true) : a ∉ as := by
  intro hmem
  have hquiet := all_eq_true.mp h a hmem
  simp [ha] at hquiet

section
variable {e e' : Engine GlobalContext} {rctx : Option Ref} {x : Option ReplicaID}
  {as : List Apply}

/-- Callbacks that rewire nothing keep the members of a live change housed, if
the replicas that they let in are. -/
theorem Housed.quiet {k : ℕ} (h : Housed e) (he : Orderly e) (hk : k ∈ e.transitions)
    (hchange : isChange (e.heap k)) (hworks : Works e e' rctx b as) (hx : Denotes rctx x)
    (has : as.all (fun a => !a.rewires) = true)
    (hjoin : as.any Apply.creates = true → ∀ id rvr, x = some id → e.global.rvr id = some rvr → ∀
      a ∈ rvr.addresses, a.systemNetworkName ∈ (headerOf (e.heap k)).toSystemNetworkNames ∨
      a.systemNetworkName ∈ e.global.systemNetworkNames) :
    e'.global.Houses fun n => n ∈ (headerOf (e.heap k)).toSystemNetworkNames ∨
      n ∈ e'.global.systemNetworkNames := by
  have hhoused := hworks.houses he hx (h.live k hk hchange) (not_mem_of_rewires has rfl)
    (fun hmem => absurd hmem (not_mem_of_rewires has rfl))
    (fun hc => ⟨not_mem_of_rewires has rfl, hjoin hc⟩)
  exact hhoused.mono fun n hn => hn.1.imp_right (hworks.names_same has n).mpr

theorem houses_of_change {t : Transition} (he : Orderly e) (hworks : Works e e' rctx b as)
    (hx : Denotes rctx x) (hb : b.networks = some t) (hrepair : .repairAddresses ∉ as)
    (hcreates : as.any Apply.creates = false)
    (hP : e.global.Houses fun n => n ∈ t.toSystemNetworkNames ∨ n ∈ e.global.systemNetworkNames) :
    e'.global.Houses fun n => n ∈ t.toSystemNetworkNames ∨ n ∈ e'.global.systemNetworkNames := by
  have hhoused := hworks.houses he hx hP hrepair (fun _ n hn => ?_)
    (fun hc => by simp [hcreates] at hc)
  · have hnames := hworks.names
    rw [hb] at hhoused hnames
    refine hhoused.mono fun n hn => ?_
    rcases hn.1 with hto | hold
    · exact .inl hto
    · exact .inr ((hnames n).mpr ⟨.inl hold, hn.2⟩)
  · rw [hb] at hn
    exact .inl (mem_addedNames.mp hn).1

end

variable {e e' : Engine GlobalContext}

theorem Rests.housed (h : Rests e e') (hh : Housed e) :
    ∀ k ∈ e'.transitions, isChange (e'.heap k) → e'.global.Houses fun n =>
      n ∈ (headerOf (e'.heap k)).toSystemNetworkNames ∨ n ∈ e'.global.systemNetworkNames := by
  intro k hk hchange
  obtain ⟨hk0, hhead, -⟩ := h.live k hk
  have hmatch := matching_of_bare h.bare
  rw [hhead, hmatch.names]
  exact (hh.live k hk0 ((head_of_header hhead).1.symm.trans hchange)).congr hmatch.member

section
variable {e e' : Engine GlobalContext} {k : ℕ} {spec : PlanSpec} {s s' : StepSpec}
  {rctx : Option Ref}

theorem advance_housed (he : Orderly e) (he' : Orderly e') (hh : Housed e)
    (hsettles : Settles e k spec s rctx) (hnext : spec.steps[(activeAt e k).idx + 1]? = some s')
    (hworks : Works e e' rctx e.global.books (s.onComplete ++ s'.apply))
    (htrans : e'.transitions = e.transitions) (hhead : headerOf (e'.heap k) = headerOf (e.heap k))
    (hothers : ∀ k', k' ≠ k → e'.heap k' = e.heap k') :
    ∀ k' ∈ e'.transitions, isChange (e'.heap k') → e'.global.Houses fun n =>
      n ∈ (headerOf (e'.heap k')).toSystemNetworkNames ∨ n ∈ e'.global.systemNetworkNames := by
  intro k' hk' hchange'
  obtain ⟨hreg, htype⟩ := hsettles.registered
  obtain ⟨-, -, hsame, -⟩ := head_of_header hhead
  have hgroupAt := hsettles.group he
  have hstep' : s' ∈ spec.steps := mem_of_getElem? hnext
  have hcreates : s'.apply.any Apply.creates = false := by
    refine (registry_creates spec hreg).2 s' (mem_of_getElem? (i := (activeAt e k).idx) ?_)
    rwa [List.getElem?_tail]
  by_cases hgroup : spec.group = .network
  · obtain ⟨hchange, hworks⟩ := hsettles.network_step hgroup hnext hworks
    have hgroup' : (e'.heap k).group = .network := by rw [hsame, hgroupAt, hgroup]
    obtain rfl : k' = k := he'.network_unique hk' (htrans ▸ hsettles.mem)
      (he'.change_group hk' hchange') hgroup'
    rw [hhead]
    have hrepair : .repairAddresses ∉ s'.apply := fun hmem =>
      (registry_change spec hreg (htype.trans hchange)).2.2.1 (mem_flatMap.mpr ⟨s', hstep', hmem⟩)
    exact houses_of_change he hworks hsettles.subject (he.books_change hsettles.mem hchange) hrepair
      hcreates (hh.live k' hsettles.mem hchange)
  · have hne : k' ≠ k := by
      rintro rfl
      rw [he'.change_group hk' hchange', hgroupAt] at hsame
      exact hgroup hsame.symm
    rw [htrans] at hk'
    rw [hothers k' hne] at hchange' ⊢
    obtain ⟨hquiet, hnone⟩ := hsettles.completion_quiet
    refine hh.quiet he hk' hchange' hworks hsettles.subject ?_ ?_
    · rw [all_append, hquiet, Bool.true_and]
      exact (registry_elsewhere spec hreg hgroup).2 s' hstep'
    · rw [any_append, hnone, hcreates]
      simp

theorem create_housed {x : Option ReplicaID} {g : GlobalContext} {t : Transition} (he : Orderly e)
    (he' : Orderly e') (hh : Housed e) (hstarts : Starts e spec rctx x g t)
    (hstep : spec.steps[0]? = some s)
    (hworks : Works e e' rctx (e.global.books.add (headerOf t)) s.apply)
    (htrans : e'.transitions = e.transitions ++ [e.next])
    (hhead : headerOf (e'.heap e.next) = headerOf t)
    (hothers : ∀ k, k ≠ e.next → e'.heap k = e.heap k) (htidy : Tidy ⟨.created, e'.heap e.next,
      ({ e with global := g } : Engine GlobalContext).snapshot, e'.snapshot⟩) :
    ∀ k ∈ e'.transitions, isChange (e'.heap k) → e'.global.Houses fun n =>
      n ∈ (headerOf (e'.heap k)).toSystemNetworkNames ∨ n ∈ e'.global.systemNetworkNames := by
  intro k hk hchange
  have hstarted := hstarts.started
  have hreg := hstarts.registered
  have hmatch := matching_of_bare hstarts.matching
  obtain ⟨htypeAt, -, hgroupAt, hreplicaAt⟩ := head_of_header hhead
  have hmem : s ∈ spec.steps := mem_of_getElem? hstep
  by_cases hnext : k = e.next
  · subst hnext
    have htype : spec.transitionType = .changeSystemNetworks := by
      rwa [← hstarted.type, ← htypeAt]
    obtain ⟨hgroup, -, hrepair, -⟩ := registry_change spec hreg htype
    obtain ⟨-, ⟨rsp, hrsp, hto⟩, -⟩ := hstarts.fits htype
    have hcreates : s.apply.any Apply.creates = false := by
      rw [Bool.eq_false_iff]
      exact fun hc => ((registry_creates spec hreg).1 s hmem hc).2 hgroup
    rw [hhead]
    refine houses_of_change he hworks hstarts.subject (hstarts.books_change htype)
      (fun ha => hrepair (mem_flatMap.mpr ⟨s, hmem, ha⟩)) hcreates ?_
    have hbefore := htidy.change rfl hchange
    refine (hbefore.congr hmatch.member.symm).mono fun n hn => ?_
    rcases hn with hold | ⟨rsp', hrsp', hnew⟩
    · exact .inr (hmatch.names ▸ hold)
    · have hsome : g.rsp = some rsp' := hrsp'
      rw [hmatch.rsp, hrsp, some.injEq] at hsome
      refine .inl ?_
      change n ∈ t.toSystemNetworkNames
      rwa [hto, hsome]
  · have hold : k ∈ e.transitions := by simpa [htrans, hnext] using hk
    have hgroup : spec.group ≠ .network := by
      intro hgroup
      refine hnext (he'.network_unique hk (by simp [htrans]) (he'.change_group hk hchange) ?_)
      rw [hgroupAt, hstarted.group, hgroup]
    rw [hothers k hnext] at hchange ⊢
    refine hh.quiet he hold hchange hworks hstarts.subject
      ((registry_elsewhere spec hreg hgroup).2 s hmem) fun hc id rvr hid hrvr a ha => ?_
    have htype := ((registry_creates spec hreg).1 s hmem hc).1
    have hreports := htidy.join rfl (htypeAt.trans (hstarted.type.trans htype)) (e.heap k)
      (mem_map_of_mem hold) hchange id rvr (hreplicaAt.trans (hstarted.replica.trans hid))
      ((congrFun hmatch.rvr id).trans hrvr) a ha
    rcases hreports with hlist | hto
    · exact .inr (hmatch.names ▸ hlist)
    · exact .inl hto

end

theorem OrderlyMove.housed (h : OrderlyMove e e') (hw : Wired e)
    (hh : Housed e) (htidy : ∀ ev ∈ e'.log, Tidy ev) : Housed e' := by
  obtain ⟨he, he', hmove⟩ := h
  cases hmove with
  | rest hrests hlog =>
    refine ⟨hrests.housed hh, ?_⟩
    rw [hlog]
    exact hh.events
  | @note ev hrests hkind hbefore hafter hlog =>
    refine ⟨hrests.housed hh, ?_⟩
    rw [hlog]
    refine forall_mem_cons.mpr ⟨fun hdone => ?_, hh.events⟩
    rcases hkind with hkind | hkind <;> simp [hkind] at hdone
  | advance hsettles hnext hworks htrans hhead hidx hothers hlog =>
    refine ⟨advance_housed he he' hh hsettles hnext hworks htrans hhead hothers, ?_⟩
    rw [hlog]
    exact forall_mem_cons.mpr ⟨by simp, hh.events⟩
  | @complete k spec s rctx hsettles hlast hworks htrans hothers hlog =>
    obtain ⟨hquiet, hnone⟩ := hsettles.completion_quiet
    have hstays : ∀ k' ∈ e.transitions, isChange (e.heap k') → e'.global.Houses fun n =>
        n ∈ (headerOf (e.heap k')).toSystemNetworkNames ∨
          n ∈ e'.global.systemNetworkNames := fun k' hk' hchange' =>
      hh.quiet he hk' hchange' hworks hsettles.subject hquiet (by simp [hnone])
    refine ⟨fun k' hk' hchange' => ?_, ?_⟩
    · rw [htrans, he.linked.nodup.mem_erase_iff] at hk'
      rw [hothers k' hk'.1] at hchange' ⊢
      exact hstays k' hk'.2 hchange'
    · rw [hlog]
      refine forall_mem_cons.mpr ⟨fun _ hchange => ?_, hh.events⟩
      refine (hstays k hsettles.mem hchange).mono fun n hn => ?_
      rcases hn with hto | hlist
      · exact hto
      · exact ((complete_target hw.course hsettles hlast hworks hchange).1 n).mp hlist
  | create hstarts hstep hworks htrans hhead hidx hothers hlog =>
    rw [hlog] at htidy
    refine ⟨create_housed he he' hh hstarts hstep hworks htrans hhead hothers
      (htidy _ mem_cons_self), ?_⟩
    rw [hlog]
    exact forall_mem_cons.mpr ⟨by simp, hh.events⟩

theorem OrderlyMove.log_subset (h : OrderlyMove e e') : ∀ ev ∈ e.log, ev ∈ e'.log := by
  obtain ⟨-, -, hmove⟩ := h
  cases hmove with
  | rest _ hlog =>
    rw [hlog]
    exact fun _ hev => hev
  | note _ _ _ _ hlog | advance _ _ _ _ _ _ _ hlog | complete _ _ _ _ _ hlog
  | create _ _ _ _ _ _ _ hlog =>
    rw [hlog]
    exact fun _ hev => mem_cons_of_mem _ hev

theorem housed_of_chain
    (h : Relation.ReflTransGen OrderlyMove e e') (hw : Wired e) (hh : Housed e)
    (htidy : ∀ ev ∈ e'.log, Tidy ev) : Housed e' := by
  induction h with
  | refl => exact hh
  | tail hchain hmove ih =>
    exact hmove.housed (wired_of_chain hchain hw)
      (ih fun ev hev => htidy ev (hmove.log_subset ev hev)) htidy

def Status.OnCourse (st : Status) : Prop :=
  ∀ t ∈ st.transitions, isChange t →
    ∃ spec, Changing (headerOf t) (activeOf t) spec st.systemNetworkNames

def Status.Housed (st : Status) : Prop :=
  ∀ t ∈ st.transitions, isChange t → ∀ id as, st.addresses id = some as → ∀ a ∈ as,
    a.systemNetworkName ∈ t.toSystemNetworkNames ∨ a.systemNetworkName ∈ st.systemNetworkNames

theorem GlobalContext.houses_iff {g : GlobalContext} :
    g.Houses P ↔ ∀ id as, g.addresses id = some as → ∀ a ∈ as, P a.systemNetworkName := by
  unfold GlobalContext.Houses GlobalContext.addresses
  constructor
  · intro h id as has a ha
    obtain ⟨m, hm, rfl⟩ := map_eq_some_iff.mp has
    exact h id m hm a ha
  · intro h id m hm a ha
    exact h id m.addresses (by rw [hm]; rfl) a ha

theorem startEngine_wired (obs : Observation) (h : st.OnCourse) : Wired (startEngine obs st) := by
  refine ⟨fun k hk hchange => ?_, fun ev hev => absurd hev not_mem_nil⟩
  rw [startEngine_names]
  exact h ((startEngine obs st).heap k) (mem_of_getElem? (startEngine_heap hk)) hchange

theorem startEngine_housed (obs : Observation) (h : st.Housed) : Housed (startEngine obs st) := by
  refine ⟨fun k hk hchange => ?_, fun ev hev => absurd hev not_mem_nil⟩
  rw [GlobalContext.houses_iff, startEngine_names, startEngine_addresses]
  exact h ((startEngine obs st).heap k) (mem_of_getElem? (startEngine_heap hk)) hchange

theorem cycle_networks {obs : Observation} {r : CycleResult} (hst : st.Orderly)
    (hcourse : st.OnCourse) (h : processTransitions obs st = some r) :
    r.status.OnCourse ∧ (∀ ev ∈ r.log, NetworkSafe ev) ∧
      (st.Housed → (∀ ev ∈ r.log, Tidy ev) → r.status.Housed ∧ ∀ ev ∈ r.log,
        ev.kind = .completed → isChange ev.transition →
          ev.after.global.Houses (· ∈ ev.transition.toSystemNetworkNames)) := by
  obtain ⟨e, changed, hmoves, he, rfl⟩ := cycle_moves hst h
  have hstart := startEngine_wired obs hcourse
  have hwired := wired_of_chain hmoves.chain hstart
  refine ⟨fun t ht hchange => ?_, hwired.events, fun hhoused htidy => ?_⟩
  · rw [finishCycle_transitions] at ht
    obtain ⟨k, hk, rfl⟩ := mem_map.mp ht
    rw [hmoves.names]
    exact hwired.course k hk hchange
  · have hend := housed_of_chain hmoves.chain hstart (startEngine_housed obs hhoused) htidy
    refine ⟨fun t ht hchange => ?_, hend.events⟩
    rw [finishCycle_transitions] at ht
    obtain ⟨k, hk, rfl⟩ := mem_map.mp ht
    rw [hmoves.names, hmoves.addresses he.linked.anchored]
    exact GlobalContext.houses_iff.mp (hend.live k hk hchange)

theorem Status.OnCourse.nonempty (h : st.OnCourse) (hlive : ∃ t ∈ st.transitions, isChange t) :
    st.systemNetworkNames ≠ [] := by
  obtain ⟨t, ht, hchange⟩ := hlive
  obtain ⟨spec, hchanging⟩ := h t ht hchange
  exact hchanging.nonempty hchange

theorem run_networks {obs : List Observation} {results : List CycleResult} (hst : st.Orderly)
    (hcourse : st.OnCourse) (hrun : run st obs = some results) :
    (∀ p ∈ published st results, p.OnCourse) ∧
      (∀ r ∈ results, ∀ ev ∈ r.log, NetworkSafe ev) ∧
      (st.Housed → (∀ r ∈ results, ∀ ev ∈ r.log, Tidy ev) →
        (∀ p ∈ published st results, p.Housed) ∧ ∀ r ∈ results, ∀ ev ∈ r.log,
          ev.kind = .completed → isChange ev.transition →
            ev.after.global.Houses (· ∈ ev.transition.toSystemNetworkNames)) := by
  induction obs generalizing results with
  | nil =>
    cases hrun
    simp only [published, map_nil, nil_append, mem_singleton, forall_eq]
    exact ⟨hcourse, by simp, fun hhoused _ => ⟨hhoused, by simp⟩⟩
  | cons o obs ih =>
    obtain ⟨earlier, hearlier, r, hr, rfl⟩ := run_cons hrun
    obtain ⟨hcourses, hsafe, hhouses⟩ := ih hearlier
    have hlast := lastStatus_mem st earlier
    obtain ⟨hcourse', hsafe', hhouses'⟩ := cycle_networks
      ((run_orderly hst hearlier).1 _ hlast) (hcourses _ hlast) hr
    refine ⟨forall_mem_cons.mpr ⟨hcourse', hcourses⟩,
      forall_mem_cons.mpr ⟨hsafe', hsafe⟩, fun hhoused htidy => ?_⟩
    obtain ⟨htidy', htidy⟩ := forall_mem_cons.mp htidy
    obtain ⟨hall, hevents⟩ := hhouses hhoused htidy
    obtain ⟨hnow, hevents'⟩ := hhouses' (hall _ hlast) htidy'
    exact ⟨forall_mem_cons.mpr ⟨hnow, hall⟩, forall_mem_cons.mpr ⟨hevents', hevents⟩⟩

theorem Status.Formed.no_change (h : st.Formed) : ∀ t ∈ st.transitions, ¬isChange t := by
  intro t ht hchange
  rcases h with hnone | ⟨f, hone, hformation, -⟩
  · simp [hnone] at ht
  · rw [hone, mem_singleton] at ht
    rw [isChange, ht, hformation] at hchange
    cases hchange

/-- In every run a change of the system networks starts from the list of the
datamesh, never leaves it empty, takes networks off only while all pairs that
must be connected report to be over one that stays, and completes on its target.
If no member and no joining replica brings in addresses from elsewhere, the
members are then on the target too. -/
theorem system_networks_change_safely (st : Status) (obs : List Observation)
    (results : List CycleResult) (hst : st.Formed) (hrun : run st obs = some results) :
    (∀ r ∈ results, ∀ ev ∈ r.log, NetworkSafe ev) ∧
      (∀ p ∈ published st results, (∃ t ∈ p.transitions, isChange t) → p.systemNetworkNames ≠ []) ∧
      ((∀ r ∈ results, ∀ ev ∈ r.log, Tidy ev) → ∀ r ∈ results, ∀ ev ∈ r.log,
        ev.kind = .completed → isChange ev.transition →
          ev.after.global.Houses (· ∈ ev.transition.toSystemNetworkNames)) := by
  have hnone := hst.no_change
  obtain ⟨hcourses, hsafe, hhouses⟩ := run_networks hst.orderly
    (fun t ht hchange => absurd hchange (hnone t ht)) hrun
  refine ⟨hsafe, fun p hp => (hcourses p hp).nonempty, fun htidy => ?_⟩
  exact (hhouses (fun t ht hchange => absurd hchange (hnone t ht)) htidy).2

instance (g : GlobalContext) (P : String → Prop) [DecidablePred P] : Decidable (g.Houses P) :=
  decidable_of_iff (∀ id, ∀ m ∈ g.member id, ∀ a ∈ m.addresses, P a.systemNetworkName) Iff.rfl

instance (t : Transition) : Decidable (isChange t) := inferInstanceAs (Decidable (_ = _))

def addressOn (network : String) : Address := ⟨network, "10.0.0.1", 7000⟩

def onNetworks (networks : List String) (rvr : RVR) : RVR :=
  { rvr with addresses := networks.map addressOn }

def networkObservation (target : List String) (rvrs : List RVR) (requests : List ReplicaRequest) :
    Observation :=
  { plainObservation rvrs requests with
    rsp := some ⟨[⟨"0", "", true, true⟩, ⟨"1", "", true, true⟩], target⟩ }

def onTwoNetworks : Status :=
  ⟨[{ plainMember 0 .diskful with addresses := ["old", "new"].map addressOn }], 1, 1, false,
    ["old", "new"], 0, 5, 0, []⟩

def accessJoin : ReplicaRequest := { plainRequest 1 .join with type := some .access }

def lateJoin : List Observation :=
  [ networkObservation ["new"] [onNetworks ["new"] (plainReplica 0 .diskful 7),
      onNetworks ["old", "new"] (plainReplica 1 .access 7)] [],
    networkObservation ["new"] [onNetworks ["new"] (plainReplica 0 .diskful 5),
      onNetworks ["old", "new"] (plainReplica 1 .access 0)] [accessJoin],
    networkObservation ["new"] [onNetworks ["old", "new"] (plainReplica 0 .diskful 5)] [] ]

theorem late_join_keeps_old_address :
    onTwoNetworks.Formed ∧ ∃ results, run onTwoNetworks lateJoin = some results ∧
      ∃ r ∈ results, ∃ ev ∈ r.log, ev.kind = .completed ∧ isChange ev.transition ∧
        ev.transition.toSystemNetworkNames = ["new"] ∧
        ¬ev.after.global.Houses (· ∈ ev.transition.toSystemNetworkNames) := by
  refine ⟨.inl rfl, ?_⟩
  exact exists_of_decide (by decide +kernel)

instance (g : GlobalContext) (n : String) :
    Decidable (∃ rsp, g.rsp = some rsp ∧ n ∈ rsp.systemNetworkNames) :=
  decidable_of_iff (∃ rsp ∈ g.rsp, n ∈ rsp.systemNetworkNames) Iff.rfl

set_option synthInstance.maxSize 512 in
instance (ev : Event GlobalContext) : Decidable (Tidy ev) :=
  decidable_of_iff ((ev.kind = .created → isChange ev.transition → ev.before.global.Houses fun n =>
      n ∈ ev.before.global.systemNetworkNames ∨
        ∃ rsp, ev.before.global.rsp = some rsp ∧ n ∈ rsp.systemNetworkNames) ∧
    (ev.kind = .created → ev.transition.type = .addReplica →
      ∀ t ∈ ev.before.active, isChange t → ∀ id ∈ ev.transition.replica,
        ∀ rvr ∈ ev.before.global.rvr id, ∀ a ∈ rvr.addresses,
          a.systemNetworkName ∈ ev.before.global.systemNetworkNames ∨
            a.systemNetworkName ∈ t.toSystemNetworkNames))
    ⟨fun h => ⟨h.1, fun hk htype t ht hc id rvr hid => h.2 hk htype t ht hc id hid rvr⟩,
      fun h => ⟨h.change, fun hk htype t ht hc id hid rvr => h.join hk htype t ht hc id rvr hid⟩⟩

def twoOnOld : Status :=
  ⟨[0, 1].map fun id => { plainMember id .diskful with addresses := [addressOn "old"] }, 2, 1,
    false, ["old"], 0, 5, 0, []⟩

/-- The two replicas at a revision, on the networks they are listening on, and
connected over some of them. -/
def migrating (revision : ℕ) (networks connected : List String) : Observation :=
  let peer (id : ReplicaID) : PeerStatus := ⟨id, connected, .connected, .established, .upToDate⟩
  networkObservation ["new"]
    [ { onNetworks networks (plainReplica 0 .diskful revision) with peers := [peer 1] },
      { onNetworks networks (plainReplica 1 .diskful revision) with peers := [peer 0] } ] []

def migration : List Observation :=
  [migrating 8 ["new"] ["new"], migrating 7 ["old", "new"] ["old", "new"],
    migrating 6 ["old", "new"] ["old"], migrating 5 ["old"] ["old"]]

theorem migration_reaches_new_network :
    ∃ results, run twoOnOld migration = some results ∧
      (∃ r ∈ results, ∃ ev ∈ r.log, ev.kind = .completed ∧ isChange ev.transition) ∧
      (∀ r ∈ results, ∀ ev ∈ r.log, NetworkSafe ev) ∧
      ∀ r ∈ results, ∀ ev ∈ r.log, ev.kind = .completed → isChange ev.transition →
        ev.after.global.Houses (· ∈ ev.transition.toSystemNetworkNames) := by
  have hrun : (run twoOnOld migration).any (fun results => decide (
      (∃ r ∈ results, ∃ ev ∈ r.log, ev.kind = .completed ∧ isChange ev.transition) ∧
        ∀ r ∈ results, ∀ ev ∈ r.log, Tidy ev)) = true := by
    decide +kernel
  obtain ⟨results, hresults, hdone, htidy⟩ := exists_of_decide hrun
  have hsafe := system_networks_change_safely twoOnOld migration results (.inl rfl) hresults
  exact ⟨results, hresults, hdone, hsafe.1, hsafe.2.2 htidy⟩

end ReplicatedVolume.Datamesh
