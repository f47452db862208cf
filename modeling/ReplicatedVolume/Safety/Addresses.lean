import ReplicatedVolume.Safety.Networks

/-!
# Members that lose all their addresses

Adding networks and addresses never empties the addresses of a member. A repair rebuilds them from
what the replica reports, which may be nothing, and a removal strips them, which may be all there
were.
-/

namespace ReplicatedVolume.Datamesh
open Dmte List Option

variable {rvrAddrs addrs : List Address} {spec : PlanSpec}

def networkStep : List Apply → Bool
  | [a] => a.rewires
  | [.removeOldNetworksAndAddresses, .addNewNetworks] => true
  | _ => false

theorem registry_network_steps : ∀ spec ∈ registry, spec.group = .network →
    ∀ s ∈ spec.steps, networkStep s.apply = true := by
  decide +kernel

theorem registry_repair : ∀ spec ∈ registry, spec.transitionType = .repairNetworkAddresses →
    spec.group = .network ∧ .removeOldNetworksAndAddresses ∉ spec.callbacks := by
  decide +kernel

def rewired (as : List Apply) (g : GlobalContext) (id : ReplicaID) (m : DatameshMember) :
    List Address :=
  if .repairAddresses ∈ as then
    (g.rvr id).elim m.addresses fun rvr =>
      g.systemNetworkNames.filterMap (findAddressByNetwork rvr.addresses)
  else if .removeOldNetworksAndAddresses ∈ as then
    m.addresses.filter (·.systemNetworkName ∉ removedNetworks g)
  else if .addNewAddresses ∈ as then
    (g.rvr id).elim m.addresses fun rvr =>
      (addedNetworks g).foldl (putAddress rvr.addresses) m.addresses
  else m.addresses

section
variable {g g' : GlobalContext} {rctx : Option Ref} {c : Bool} {as : List Apply} {id : ReplicaID}
  {m : DatameshMember}

theorem map_rewired (f : DatameshMember → List Address) (hf : ∀ m, f m = rewired as g id m) :
    ((g.member id).map fun m => { m with addresses := f m }) =
      (g.member id).map fun m => { m with addresses := rewired as g id m } := by
  simp only [hf]

theorem networkStep_member (has : networkStep as = true)
    (h : runApplies as g rctx = some (g', c)) (id : ReplicaID) :
    g'.member id = (g.member id).map fun m => { m with addresses := rewired as g id m } := by
  unfold networkStep at has
  split at has
  · next a =>
      cases a with
      | repairAddresses =>
        cases h
        refine map_rewired _ fun m => ?_
        simp only [rewired, GlobalContext.rvr, mem_singleton, if_true]
        cases (g.replicas id).rvr <;> rfl
      | removeOldNetworksAndAddresses =>
        cases h
        exact map_rewired (fun m => m.addresses.filter (·.systemNetworkName ∉ removedNetworks g))
          fun m => by simp [rewired]
      | addNewAddresses =>
        cases h
        refine map_rewired _ fun m => ?_
        simp only [rewired, GlobalContext.rvr, mem_singleton, reduceCtorEq, if_false, if_true]
        cases (g.replicas id).rvr <;> rfl
      | addNewNetworks =>
        cases h
        change g.member id = _
        simp [rewired]
      | _ => cases has
  · cases h
    exact map_rewired (fun m => m.addresses.filter (·.systemNetworkName ∉ removedNetworks g))
      fun m => by simp [rewired]
  · cases has

theorem putAddress_ne_nil {network : String} (h : addrs ≠ []) :
    putAddress rvrAddrs addrs network ≠ [] := by
  unfold putAddress
  split
  · exact h
  · split
    · simpa using h
    · simp

theorem foldl_putAddress_ne_nil (networks : List String)
    (h : addrs ≠ []) : networks.foldl (putAddress rvrAddrs) addrs ≠ [] := by
  induction networks generalizing addrs with
  | nil => exact h
  | cons network networks ih => exact ih (putAddress_ne_nil h)

theorem filterMap_find_ne_nil {addrs : List Address} {networks : List String} :
    networks.filterMap (findAddressByNetwork addrs) ≠ [] ↔
      ∃ a ∈ addrs, a.systemNetworkName ∈ networks := by
  rw [Ne, filterMap_eq_nil_iff, not_forall]
  constructor
  · rintro ⟨n, hn⟩
    rw [Classical.not_imp, ← Ne, ne_none_iff_exists'] at hn
    obtain ⟨hmem, a, ha⟩ := hn
    have hname : a.systemNetworkName = n := by simpa using List.find?_some ha
    exact ⟨a, mem_of_find?_eq_some ha, hname ▸ hmem⟩
  · rintro ⟨a, ha, hmem⟩
    refine ⟨a.systemNetworkName, fun hnone => ?_⟩
    have hmiss := List.find?_eq_none.mp (hnone hmem) a ha
    simp at hmiss

theorem rewired_ne_nil (has : networkStep as = true) (hm : m.addresses ≠ []) :
    rewired as g id m ≠ [] ↔
      (.repairAddresses ∈ as → ∀ rvr, g.rvr id = some rvr →
        ∃ a ∈ rvr.addresses, a.systemNetworkName ∈ g.systemNetworkNames) ∧
      (.removeOldNetworksAndAddresses ∈ as →
        ∃ a ∈ m.addresses, a.systemNetworkName ∉ removedNetworks g) := by
  have hapart : .repairAddresses ∈ as → .removeOldNetworksAndAddresses ∉ as := by
    unfold networkStep at has
    split at has
    · simp only [mem_singleton]
      rintro rfl
      simp
    · simp
    · cases has
  unfold rewired
  by_cases hrepair : .repairAddresses ∈ as
  · simp only [hrepair, hapart hrepair, if_true, false_imp_iff, and_true, true_imp_iff]
    cases hrvr : g.rvr id with
    | none => simp [hm]
    | some rvr =>
      simp only [elim_some, some.injEq, forall_eq']
      exact filterMap_find_ne_nil
  · by_cases hremove : .removeOldNetworksAndAddresses ∈ as
    · simp [hrepair, hremove]
    · simp only [hrepair, hremove, if_false, false_imp_iff, and_self, iff_true]
      split_ifs with hadd
      · cases g.rvr id with
        | none => exact hm
        | some rvr => exact foldl_putAddress_ne_nil _ hm
      · exact hm

end

def appliedBy (ev : Event GlobalContext) : List Apply :=
  let step (idx : ℕ) : List Apply :=
    (((activeOf ev.transition).spec.bind (·.steps[idx]?)).map (·.apply)).getD []
  match ev.kind with
  | .created => step 0
  | .advanced => step ((activeOf ev.transition).idx + 1)
  | _ => []

def KeepsAddresses (ev : Event GlobalContext) : Prop :=
  ∀ id m m', ev.before.global.member id = some m → ev.after.global.member id = some m' →
    m.addresses ≠ [] → m'.addresses ≠ []

/-- What the event finds: for a repair, replicas that report an address on a
listed network; for a removal, members with an address on a network that stays. -/
structure Addressed (ev : Event GlobalContext) : Prop where
  repair : .repairAddresses ∈ appliedBy ev → ∀ id m rvr, ev.before.global.member id = some m →
    m.addresses ≠ [] → ev.before.global.rvr id = some rvr →
      ∃ a ∈ rvr.addresses, a.systemNetworkName ∈ ev.before.global.systemNetworkNames
  removal : .removeOldNetworksAndAddresses ∈ appliedBy ev → ∀ id m,
    ev.before.global.member id = some m → m.addresses ≠ [] →
      ∃ a ∈ m.addresses, a.systemNetworkName ∉ removedNames ev.transition

section
variable {e e' : Engine GlobalContext} {rctx : Option Ref} {b : Books} {as : List Apply}
  {ev : Event GlobalContext}

theorem keepsAddresses_of_rest (hkind : ev.kind ≠ .created) (hkind' : ev.kind ≠ .advanced)
    (hmember : ev.after.global.member = ev.before.global.member) :
    KeepsAddresses ev ↔ Addressed ev := by
  have hnothing : appliedBy ev = [] := by
    unfold appliedBy
    cases hk : ev.kind <;> simp_all
  constructor
  · exact fun _ => ⟨by simp [hnothing], by simp [hnothing]⟩
  · intro _ id m m' hm hm' hne
    rw [hmember, hm, some.injEq] at hm'
    rwa [← hm']

theorem keepsAddresses_iff (hworks : Works e e' rctx b as) (has : networkStep as = true)
    (hevent : appliedBy ev = as) (hbefore : ev.before.global.bare = e.global.bare)
    (hafter : ev.after.global = e'.global) (hremoved : .removeOldNetworksAndAddresses ∈ as →
      b.networks.elim [] removedNames = removedNames ev.transition) :
    KeepsAddresses ev ↔ Addressed ev := by
  obtain ⟨g, g', c, hstart, rfl, hrun, hend⟩ := hworks
  have hmatch := matching_of_bare (hstart.trans hbefore.symm)
  have hmember := networkStep_member has hrun
  rw [← (matching_of_bare hend).member, ← hafter, hmatch.member] at hmember
  have hone : ∀ id m, m.addresses ≠ [] → (rewired as g id m ≠ [] ↔
      (.repairAddresses ∈ as → ∀ rvr, ev.before.global.rvr id = some rvr →
        ∃ a ∈ rvr.addresses, a.systemNetworkName ∈ ev.before.global.systemNetworkNames) ∧
      (.removeOldNetworksAndAddresses ∈ as →
        ∃ a ∈ m.addresses, a.systemNetworkName ∉ removedNames ev.transition)) := by
    intro id m hm
    rw [rewired_ne_nil has hm, removedNetworks_eq, hmatch.rvr, hmatch.names]
    refine and_congr Iff.rfl (imp_congr_right fun hremove => ?_)
    rw [hremoved hremove]
  constructor
  · intro hkeeps
    rw [← hevent] at hone
    refine ⟨fun hrepair id m rvr hm hne hrvr => ?_, fun hremove id m hm hne => ?_⟩
    all_goals
      have hleft := hkeeps id m _ hm (by rw [hmember, hm]; rfl) hne
      rw [← hevent] at hleft
    · exact ((hone id m hne).mp hleft).1 hrepair rvr hrvr
    · exact ((hone id m hne).mp hleft).2 hremove
  · intro haddressed id m m' hm hm' hne
    rw [hmember, hm, map_some, some.injEq] at hm'
    rw [← hm']
    refine (hone id m hne).mpr ⟨fun hrepair rvr hrvr => ?_, fun hremove => ?_⟩
    · exact haddressed.repair (hevent ▸ hrepair) id m rvr hm hne hrvr
    · exact haddressed.removal (hevent ▸ hremove) id m hm hne

end

def isNetwork (t : Transition) : Prop := t.type = .repairNetworkAddresses ∨ isChange t

theorem registry_isNetwork {t : Transition} (hspec : spec ∈ registry)
    (htype : spec.transitionType = t.type) (h : isNetwork t) : spec.group = .network := by
  rcases h with h | h
  · exact (registry_repair spec hspec (htype.trans h)).1
  · exact (registry_change spec hspec (htype.trans h)).1

theorem change_of_removal {s : StepSpec} (hspec : spec ∈ registry)
    (hs : s ∈ spec.steps) (hgroup : spec.group = .network)
    (hremove : .removeOldNetworksAndAddresses ∈ s.apply) :
    spec.transitionType = .changeSystemNetworks := by
  rcases (registry_network spec hspec hgroup).2.2 with hchange | ⟨-, -, -, hnever⟩
  · exact hchange
  · exact absurd (mem_flatMap.mpr ⟨s, hs, hremove⟩) hnever

theorem OrderlyMove.addressed {e e' : Engine GlobalContext} (h : OrderlyMove e e')
    (hlog : ∀ ev ∈ e.log, isNetwork ev.transition → (KeepsAddresses ev ↔ Addressed ev)) :
    ∀ ev ∈ e'.log, isNetwork ev.transition → (KeepsAddresses ev ↔ Addressed ev) := by
  obtain ⟨he, he', hmove⟩ := h
  cases hmove with
  | rest hrests hsame =>
    rwa [hsame]
  | @note ev hrests hkind hbefore hafter hnew =>
    rw [hnew]
    refine forall_mem_cons.mpr ⟨fun _ => keepsAddresses_of_rest ?_ ?_ ?_, hlog⟩
    · rcases hkind with hkind | hkind <;> simp [hkind]
    · rcases hkind with hkind | hkind <;> simp [hkind]
    · rw [hbefore, hafter]
      exact (matching_of_bare hrests.bare).member
  | @advance k spec s s' rctx hsettles hnext hworks htrans hhead hidx hothers hnew =>
    rw [hnew]
    refine forall_mem_cons.mpr ⟨fun hnetwork => ?_, hlog⟩
    obtain ⟨hreg, htype⟩ := hsettles.registered
    have hgroup := registry_isNetwork hreg htype hnetwork
    have hstep' : s' ∈ spec.steps := mem_of_getElem? hnext
    obtain ⟨-, hdone, -⟩ := registry_network spec hreg hgroup
    rw [hdone s hsettles.step_mem, nil_append] at hworks
    refine keepsAddresses_iff hworks (registry_network_steps spec hreg hgroup s' hstep') ?_ rfl
      rfl fun hremove => ?_
    · have hplan : (activeOf (e.heap k)).spec = some spec := hsettles.plan
      have hnext' : spec.steps[(activeOf (e.heap k)).idx + 1]? = some s' := hnext
      simp [appliedBy, hplan, hnext']
    · have hchange := htype.symm.trans (change_of_removal hreg hstep' hgroup hremove)
      rw [he.books_change hsettles.mem hchange]
      rfl
  | @complete k spec s rctx hsettles hlast hworks htrans hothers hnew =>
    rw [hnew]
    refine forall_mem_cons.mpr ⟨fun hnetwork => ?_, hlog⟩
    obtain ⟨hreg, htype⟩ := hsettles.registered
    have hgroup := registry_isNetwork hreg htype hnetwork
    obtain ⟨-, hdone, -⟩ := registry_network spec hreg hgroup
    rw [hdone s hsettles.step_mem] at hworks
    obtain ⟨g, g', c, hstart, -, hrun, hend⟩ := hworks
    cases hrun
    exact keepsAddresses_of_rest (by simp) (by simp) (matching_of_bare (hend.trans hstart)).member
  | @create spec s rctx x t g hstarts hstep hworks htrans hhead hidx hothers hnew =>
    rw [hnew]
    refine forall_mem_cons.mpr ⟨fun hnetwork => ?_, hlog⟩
    have hreg := hstarts.registered
    have hstarted := hstarts.started
    obtain ⟨htypeAt, hplanAt, -, -⟩ := head_of_header hhead
    have hgroup := registry_isNetwork hreg (htypeAt.trans hstarted.type).symm hnetwork
    have hmem : s ∈ spec.steps := mem_of_getElem? hstep
    refine keepsAddresses_iff hworks (registry_network_steps spec hreg hgroup s hmem) ?_
      hstarts.matching rfl fun hremove => ?_
    · have hplan : (activeOf (e'.heap e.next)).spec = some spec := by
        change lookup (e'.heap e.next).type (e'.heap e.next).planID = _
        rw [htypeAt, hplanAt, hstarted.type, hstarted.planID]
        exact lookup_of_mem spec hreg
      simp [appliedBy, hplan, hstep]
    · rw [hstarts.books_change (change_of_removal hreg hmem hgroup hremove)]
      have hsame := congrArg removedNames hhead
      exact hsame.symm

theorem addressed_of_chain {e e' : Engine GlobalContext}
    (h : Relation.ReflTransGen OrderlyMove e e')
    (hlog : ∀ ev ∈ e.log, isNetwork ev.transition → (KeepsAddresses ev ↔ Addressed ev)) :
    ∀ ev ∈ e'.log, isNetwork ev.transition → (KeepsAddresses ev ↔ Addressed ev) := by
  induction h with
  | refl => exact hlog
  | tail _ hmove ih => exact hmove.addressed ih

/-- In every run an event of a network transition keeps an address for every
member that had one exactly if it is a repair that finds one reported on a listed
network, a removal that leaves one, or neither. -/
theorem network_step_keeps_addresses_iff (st : Status) (obs : List Observation)
    (results : List CycleResult) (hst : st.Formed) (hrun : run st obs = some results) :
    ∀ r ∈ results, ∀ ev ∈ r.log, isNetwork ev.transition → (KeepsAddresses ev ↔ Addressed ev) := by
  intro r hr
  obtain ⟨o, -, p, hp, hcycle⟩ := run_cycle hst.orderly hrun hr
  obtain ⟨e, changed, hmoves, -, rfl⟩ := cycle_moves hp hcycle
  exact addressed_of_chain hmoves.chain fun ev hev => absurd hev not_mem_nil

def onOneNetwork : Status :=
  ⟨[{ plainMember 0 .diskful with addresses := [addressOn "net"] }], 1, 1, false, ["net"], 0, 5, 0,
    []⟩

theorem repair_empties_member :
    onOneNetwork.Formed ∧ ∃ results,
      run onOneNetwork [networkObservation ["net"] [plainReplica 0 .diskful 5] []] = some results ∧
      (∃ r ∈ results, ∃ ev ∈ r.log, ev.kind = .created ∧
        ev.transition.type = .repairNetworkAddresses) ∧
      onOneNetwork.members.map (·.addresses) = [[addressOn "net"]] ∧
      (lastStatus onOneNetwork results).members.map (·.addresses) = [[]] := by
  refine ⟨.inl rfl, ?_⟩
  exact exists_of_decide (by decide +kernel)

def moved : RVR := { plainReplica 0 .diskful 5 with addresses := [⟨"net", "10.0.0.2", 7000⟩] }

theorem repair_follows_moved_replica :
    ∃ results, run onOneNetwork [networkObservation ["net"] [moved] []] = some results ∧
      (lastStatus onOneNetwork results).members.map (·.addresses) = [[⟨"net", "10.0.0.2", 7000⟩]] ∧
      ∃ r ∈ results, ∃ ev ∈ r.log, ev.kind = .created ∧
        ev.transition.type = .repairNetworkAddresses ∧ Addressed ev := by
  have hrun : (run onOneNetwork [networkObservation ["net"] [moved] []]).any
      (fun results => decide ((lastStatus onOneNetwork results).members.map (·.addresses) =
          [[⟨"net", "10.0.0.2", 7000⟩]] ∧ ∃ r ∈ results, ∃ ev ∈ r.log, ev.kind = .created ∧
          ev.transition.type = .repairNetworkAddresses ∧
          ∀ id, ∀ m ∈ ev.after.global.member id, m.addresses ≠ [])) = true := by
    decide +kernel
  obtain ⟨results, hresults, hlast, r, hr, ev, hev, hkind, htype, hkeeps⟩ := exists_of_decide hrun
  refine ⟨results, hresults, hlast, r, hr, ev, hev, hkind, htype, ?_⟩
  exact (network_step_keeps_addresses_iff onOneNetwork _ results (.inl rfl) hresults r hr ev hev
    (.inl htype)).mp fun id _ m' _ hm' _ => hkeeps id m' hm'

end ReplicatedVolume.Datamesh
