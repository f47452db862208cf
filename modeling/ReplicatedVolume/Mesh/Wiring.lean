import ReplicatedVolume.Mesh.Moves

/-!
# Networks and addresses

The list of system networks and the addresses of the members are written by
the network callbacks and by joining. For every callback, and for a list of
them, this module says which networks are on the list afterwards and on which
networks members may have addresses.
-/

namespace ReplicatedVolume.Datamesh
open Dmte List

variable {a : Apply} {m' : DatameshMember} {as : List Apply} {rvrAddrs addrs : List Address}

/-- The callbacks that write the list of networks or the addresses of members
that stay. -/
def Apply.rewires : Apply → Bool
  | .repairAddresses | .addNewNetworks | .removeOldNetworksAndAddresses | .addNewAddresses => true
  | _ => false

def Apply.creates : Apply → Bool
  | .createMember _ => true
  | _ => false

def addedNames (t : Transition) : List String :=
  t.toSystemNetworkNames.filter (· ∉ t.fromSystemNetworkNames)

def removedNames (t : Transition) : List String :=
  t.fromSystemNetworkNames.filter (· ∉ t.toSystemNetworkNames)

theorem addedNetworks_eq (g : GlobalContext) :
    addedNetworks g = g.books.networks.elim [] addedNames := by
  unfold addedNetworks GlobalContext.books
  cases g.changeSystemNetworksTransition <;> rfl

theorem removedNetworks_eq (g : GlobalContext) :
    removedNetworks g = g.books.networks.elim [] removedNames := by
  unfold removedNetworks GlobalContext.books
  cases g.changeSystemNetworksTransition <;> rfl

theorem not_removed_of_added {g : GlobalContext} {n : String} (h : n ∈ addedNetworks g) :
    n ∉ removedNetworks g := by
  unfold addedNetworks at h
  unfold removedNetworks
  cases hchange : g.changeSystemNetworksTransition with
  | none => simp
  | some t =>
    simp only [hchange, mem_filter, decide_eq_true_eq] at h
    simp [h.1]

section
variable {g g' : GlobalContext} {rctx : Option Ref} {c : Bool}

theorem mem_foldl_insert (l names : List String) (n : String) :
    n ∈ l.foldl (fun names net => if net ∈ names then names else names ++ [net]) names ↔
      n ∈ names ∨ n ∈ l := by
  induction l generalizing names with
  | nil => simp
  | cons net l ih =>
    rw [foldl_cons, ih]
    split_ifs with hnet
    · simp only [mem_cons]
      constructor
      · rintro (h | h)
        · exact .inl h
        · exact .inr (.inr h)
      · rintro (h | rfl | h)
        · exact .inl h
        · exact .inl hnet
        · exact .inr h
    · simp only [mem_append, mem_cons, not_mem_nil, or_false, or_assoc]

theorem apply_names (h : a.run g rctx = some (g', c)) (n : String) :
    n ∈ g'.systemNetworkNames ↔
      (n ∈ g.systemNetworkNames ∨ a = .addNewNetworks ∧ n ∈ addedNetworks g) ∧
        (a = .removeOldNetworksAndAddresses → n ∉ removedNetworks g) := by
  by_cases hadd : a = .addNewNetworks
  · subst hadd
    cases h
    simpa using mem_foldl_insert (addedNetworks g) g.systemNetworkNames n
  · by_cases hremove : a = .removeOldNetworksAndAddresses
    · subst hremove
      cases h
      simp
    · rw [(apply_spares h).names hadd hremove]
      simp [hadd, hremove]

theorem apply_networks (h : a.run g rctx = some (g', c)) :
    addedNetworks g' = addedNetworks g ∧ removedNetworks g' = removedNetworks g := by
  have hbooks := (apply_untouched h).books
  rw [addedNetworks_eq, addedNetworks_eq, removedNetworks_eq, removedNetworks_eq, hbooks]
  exact ⟨rfl, rfl⟩

theorem compose_changes {named added removed adds removes adds' removes' : Prop}
    (h : added → ¬removed) :
    (((named ∨ adds ∧ added) ∧ (removes → ¬removed) ∨ adds' ∧ added) ∧ (removes' → ¬removed)) ↔
      ((named ∨ (adds ∨ adds') ∧ added) ∧ (removes ∨ removes' → ¬removed)) := by
  by_cases hadded : added
  · simp [hadded, h hadded, or_assoc]
  · simp [hadded, or_imp, and_assoc]

theorem applies_names (h : runApplies as g rctx = some (g', c)) (n : String) :
    n ∈ g'.systemNetworkNames ↔
      (n ∈ g.systemNetworkNames ∨ .addNewNetworks ∈ as ∧ n ∈ addedNetworks g) ∧
        (.removeOldNetworksAndAddresses ∈ as → n ∉ removedNetworks g) := by
  induction as generalizing g c with
  | nil =>
    cases h
    simp
  | cons a as ih =>
    obtain ⟨g1, c1, c2, h1, h2, rfl⟩ := runApplies_cons h
    have hrest := ih h2
    obtain ⟨hadded, hremoved⟩ := apply_networks h1
    rw [apply_names h1, hadded, hremoved] at hrest
    rw [hrest, mem_cons, mem_cons, eq_comm (b := a), eq_comm (b := a)]
    exact compose_changes not_removed_of_added

end

def GlobalContext.Houses (g : GlobalContext) (P : String → Prop) : Prop :=
  ∀ id m, g.member id = some m → ∀ a ∈ m.addresses, P a.systemNetworkName

theorem GlobalContext.Houses.mono {g : GlobalContext} {P Q : String → Prop} (h : g.Houses P)
    (hPQ : ∀ n, P n → Q n) : g.Houses Q := fun id m hm a ha => hPQ _ (h id m hm a ha)

section
variable {g g' : GlobalContext} {rctx : Option Ref} {x : Option ReplicaID} {c : Bool}
  {P : String → Prop}

theorem mem_putAddress {network : String} {a : Address}
    (h : a ∈ putAddress rvrAddrs addrs network) : a ∈ addrs ∨ a.systemNetworkName = network := by
  unfold putAddress at h
  split at h
  · exact .inl h
  · next ra hra =>
      have hname : ra.systemNetworkName = network := by simpa using List.find?_some hra
      split at h
      · rcases mem_or_eq_of_mem_set h with h | rfl
        · exact .inl h
        · exact .inr rfl
      · rcases mem_append.mp h with h | h
        · exact .inl h
        · rw [mem_singleton.mp h]
          exact .inr hname

theorem mem_foldl_putAddress {networks : List String} {a : Address}
    (h : a ∈ networks.foldl (putAddress rvrAddrs) addrs) :
    a ∈ addrs ∨ a.systemNetworkName ∈ networks := by
  induction networks generalizing addrs with
  | nil => exact .inl h
  | cons network networks ih =>
    rcases ih h with h | h
    · rcases mem_putAddress h with h | h
      · exact .inl h
      · exact .inr (h ▸ mem_cons_self)
    · exact .inr (mem_cons_of_mem _ h)

structure Apply.Keeps (a : Apply) (g : GlobalContext) (x : Option ReplicaID) (id : ReplicaID)
    (m m' : DatameshMember) : Prop where
  node : m'.nodeName = m.nodeName
  attached : m'.attached = true → m.attached = true ∨ (a = .applyAttach ∧ x = some id)
  addresses : a ≠ .repairAddresses → ∀ ad ∈ m'.addresses,
    (ad ∈ m.addresses ∧ (a = .removeOldNetworksAndAddresses →
      ad.systemNetworkName ∉ removedNetworks g)) ∨
    (a = .addNewAddresses ∧ ad.systemNetworkName ∈ addedNetworks g)

variable {id : ReplicaID}

theorem Apply.Keeps.of_addresses {m m' : DatameshMember}
    (ha : a ≠ .removeOldNetworksAndAddresses) (hnode : m'.nodeName = m.nodeName)
    (haddresses : m'.addresses = m.addresses)
    (hattached : m'.attached = true → m.attached = true ∨ (a = .applyAttach ∧ x = some id)) :
    a.Keeps g x id m m' :=
  ⟨hnode, hattached, fun _ _ had => .inl ⟨haddresses ▸ had, fun heq => absurd heq ha⟩⟩

theorem setMember_keeps {f : DatameshMember → DatameshMember}
    (hx : Denotes rctx x) (h : setMember f g rctx = some (g', c))
    (hm' : g'.member id = some m') (ha : a ≠ .removeOldNetworksAndAddresses)
    (hnode : ∀ m, (f m).nodeName = m.nodeName) (haddresses : ∀ m, (f m).addresses = m.addresses)
    (hattached : ∀ m, (f m).attached = true → m.attached = true ∨ a = .applyAttach) :
    ∃ m, g.member id = some m ∧ a.Keeps g x id m m' := by
  simp only [setMember, Option.bind_eq_bind, Option.bind_eq_some_iff, Option.some.injEq,
    Prod.mk.injEq] at h
  obtain ⟨r, hr, m, hm, rfl, -⟩ := h
  obtain ⟨id', rfl, hid'⟩ := hx r hr
  rw [member_modify] at hm'
  split_ifs at hm' with hid
  · subst hid
    cases hm'
    exact ⟨m, hm, .of_addresses ha (hnode m) (haddresses m) fun hset =>
      (hattached m hset).imp_right fun heq => ⟨heq, hid'⟩⟩
  · exact ⟨m', hm', .of_addresses ha rfl rfl .inl⟩

theorem mapAddresses_keeps {f : ReplicaContext → DatameshMember → List Address}
    (h : (mapAddresses f g).1.member id = some m')
    (haddresses : ∀ m, a ≠ .repairAddresses → ∀ ad ∈ f (g.replicas id) m,
      (ad ∈ m.addresses ∧ (a = .removeOldNetworksAndAddresses →
        ad.systemNetworkName ∉ removedNetworks g)) ∨
      (a = .addNewAddresses ∧ ad.systemNetworkName ∈ addedNetworks g)) :
    ∃ m, g.member id = some m ∧ a.Keeps g x id m m' := by
  change (g.member id).map _ = some m' at h
  rw [Option.map_eq_some_iff] at h
  obtain ⟨m, hm, rfl⟩ := h
  exact ⟨m, hm, rfl, .inl, haddresses m⟩

/-- Where a member comes from after an apply callback: it was kept, with new addresses on added
networks and without those on removed ones, or it joined with what the replica reports. -/
theorem apply_member (hx : Denotes rctx x)
    (h : a.run g rctx = some (g', c)) (hm' : g'.member id = some m') :
    (∃ m, g.member id = some m ∧ a.Keeps g x id m m') ∨
      (a.creates = true ∧ x = some id ∧ ∃ rvr, g.rvr id = some rvr ∧
        m'.nodeName = (g.replicas id).nodeName ∧ m'.attached = false ∧
        m'.addresses = rvr.addresses) := by
  cases a with
  | createMember type =>
    simp only [Apply.run, createMember, Option.bind_eq_bind, Option.bind_eq_some_iff,
      Option.some.injEq, Prod.mk.injEq] at h
    obtain ⟨r, hr, rvr, hrvr, rfl, -⟩ := h
    obtain ⟨id', rfl, hid'⟩ := hx r hr
    rw [member_modify] at hm'
    split_ifs at hm' with hid
    · subst hid
      cases hm'
      exact .inr ⟨rfl, hid', rvr, hrvr, rfl, rfl, rfl⟩
    · exact .inl ⟨m', hm', .of_addresses (by simp) rfl rfl .inl⟩
  | removeMember =>
    simp only [Apply.run, removeMember, Option.bind_eq_bind, Option.bind_eq_some_iff,
      Option.some.injEq, Prod.mk.injEq] at h
    obtain ⟨r, hr, rfl, -⟩ := h
    obtain ⟨id', rfl, -⟩ := hx r hr
    have hmember : (g.modify (.replica id') fun rc =>
        { rc with member := none, memberIdx := none }).member id = some m' := by
      split_ifs at hm' <;> exact hm'
    rw [member_modify] at hmember
    split_ifs at hmember
    exact .inl ⟨m', hmember, .of_addresses (by simp) rfl rfl .inl⟩
  | setBackingVolumeFromRequest =>
    simp only [Apply.run, setBackingVolumeFromRequest, Option.bind_eq_bind,
      Option.bind_eq_some_iff] at h
    obtain ⟨_, -, _, -, h⟩ := h
    exact .inl (setMember_keeps hx h hm' (by simp) (fun _ => rfl) (fun _ => rfl) fun _ => .inl)
  | setType _ | clearBackingVolume | applyDetach =>
    refine .inl (setMember_keeps hx h hm' (by simp) (fun _ => rfl) (fun _ => rfl) fun m hset => ?_)
    first | exact .inl hset | cases hset
  | applyAttach =>
    exact .inl (setMember_keeps hx h hm' (by simp) (fun _ => rfl) (fun _ => rfl)
      fun _ _ => .inr rfl)
  | repairAddresses =>
    cases h
    have hmap : (repairAddresses g).1.member id = some m' := hm'
    exact .inl (mapAddresses_keeps hmap fun _ hne => absurd rfl hne)
  | removeOldNetworksAndAddresses =>
    cases h
    have hmap : (mapAddresses (fun _ m => m.addresses.filter
        (·.systemNetworkName ∉ removedNetworks g)) g).1.member id = some m' := hm'
    refine .inl (mapAddresses_keeps hmap fun m _ ad had => .inl ?_)
    rw [mem_filter, decide_eq_true_eq] at had
    exact ⟨had.1, fun _ => had.2⟩
  | addNewAddresses =>
    cases h
    have hmap : (addNewAddresses g).1.member id = some m' := hm'
    refine .inl (mapAddresses_keeps hmap fun m _ ad had => ?_)
    cases hrvr : (g.replicas id).rvr with
    | none =>
      rw [hrvr] at had
      exact .inl ⟨had, by simp⟩
    | some rvr =>
      rw [hrvr] at had
      exact (mem_foldl_putAddress had).imp (fun hold => ⟨hold, by simp⟩) fun hnew => ⟨rfl, hnew⟩
  | _ =>
    cases h
    exact .inl ⟨m', hm', .of_addresses (by simp) rfl rfl .inl⟩

theorem apply_houses (hx : Denotes rctx x) (h : a.run g rctx = some (g', c))
    (hP : g.Houses P) (hrepair : a ≠ .repairAddresses)
    (hadded : a = .addNewAddresses → ∀ n ∈ addedNetworks g, P n)
    (hjoin : a.creates = true → ∀ id rvr, x = some id → g.rvr id = some rvr →
      ∀ ad ∈ rvr.addresses, P ad.systemNetworkName) :
    g'.Houses fun n => P n ∧ (a = .removeOldNetworksAndAddresses → n ∉ removedNetworks g) := by
  intro id m' hm' ad had
  rcases apply_member hx h hm' with ⟨m, hm, hkeeps⟩ | ⟨hcreates, hid, rvr, hrvr, -, -, haddr⟩
  · rcases hkeeps.addresses hrepair ad had with ⟨hold, hgone⟩ | ⟨ha, hnew⟩
    · exact ⟨hP id m hm ad hold, hgone⟩
    · exact ⟨hadded ha _ hnew, fun heq => nomatch ha.symm.trans heq⟩
  · rw [haddr] at had
    refine ⟨hjoin hcreates id rvr hid hrvr ad had, fun heq => ?_⟩
    rw [heq] at hcreates
    cases hcreates

theorem applies_houses (hg : Anchored g) (hx : Denotes rctx x)
    (h : runApplies as g rctx = some (g', c)) (hP : g.Houses P) (hrepair : .repairAddresses ∉ as)
    (hadded : .addNewAddresses ∈ as → ∀ n ∈ addedNetworks g, P n)
    (hjoin : as.any Apply.creates = true → .removeOldNetworksAndAddresses ∉ as ∧
      ∀ id rvr, x = some id → g.rvr id = some rvr → ∀ ad ∈ rvr.addresses, P ad.systemNetworkName) :
    g'.Houses fun n => P n ∧ (.removeOldNetworksAndAddresses ∈ as → n ∉ removedNetworks g) := by
  induction as generalizing g c P with
  | nil =>
    cases h
    exact hP.mono fun n hn => ⟨hn, by simp⟩
  | cons a as ih =>
    obtain ⟨g1, c1, c2, h1, h2, rfl⟩ := runApplies_cons h
    have happlied := apply_applied hg hx h1
    obtain ⟨hadded1, hremoved1⟩ := apply_networks h1
    rw [mem_cons, not_or] at hrepair
    rw [any_cons, Bool.or_eq_true, mem_cons, not_or] at hjoin
    have hfirst := apply_houses hx h1 hP (Ne.symm hrepair.1)
      (fun heq => hadded (heq ▸ mem_cons_self)) fun hc => (hjoin (.inl hc)).2
    have hrest := ih happlied.anchored h2 hfirst hrepair.2 ?_ ?_
    · rw [hremoved1] at hrest
      refine hrest.mono fun n hn => ⟨hn.1.1, fun hmem => ?_⟩
      rcases mem_cons.mp hmem with heq | hmem
      · exact hn.1.2 heq.symm
      · exact hn.2 hmem
    · -- what was removed stays away, since it is not among the added networks
      rw [hadded1]
      exact fun hmem n hn =>
        ⟨hadded (mem_cons_of_mem a hmem) n hn, fun _ => not_removed_of_added hn⟩
    · intro hc
      obtain ⟨⟨hne, hnotin⟩, hreports⟩ := hjoin (.inr hc)
      refine ⟨hnotin, fun id rvr hid hrvr ad had => ⟨?_, fun heq => absurd heq.symm hne⟩⟩
      rw [(fixed_ids happlied.fixed id).2.2] at hrvr
      exact hreports id rvr hid hrvr ad had

end

def GlobalContext.addresses (g : GlobalContext) (id : ReplicaID) : Option (List Address) :=
  (g.member id).map (·.addresses)

def Status.addresses (st : Status) (id : ReplicaID) : Option (List Address) :=
  (memberOf st.members id).map (·.addresses)

theorem startEngine_names (obs : Observation) (st : Status) :
    (startEngine obs st).global.systemNetworkNames = st.systemNetworkNames :=
  (matching_of_bare (startEngine_bare obs st)).names

theorem startEngine_addresses (obs : Observation) (st : Status) :
    (startEngine obs st).global.addresses = st.addresses := by
  funext id
  rw [GlobalContext.addresses, (matching_of_bare (startEngine_bare obs st)).member]
  change (((buildContexts st obs).member id).map _).map _ = _
  rw [buildContexts_member, Option.map_map]
  rfl

section
variable {obs : Observation} {st : Status} {e : Engine GlobalContext} {changed : Bool}

theorem Moves.names (h : Moves (startEngine obs st) e changed) (zones : Bool) :
    (finishCycle obs st e changed zones).status.systemNetworkNames =
      e.global.systemNetworkNames := by
  cases changed with
  | true => rfl
  | false =>
    have hsame := (matching_of_bare (h.quiet rfl).bare).names
    rw [startEngine_names] at hsame
    rw [hsame]
    cases zones <;> rfl

theorem Moves.addresses (h : Moves (startEngine obs st) e changed) (he : Anchored e.global)
    (zones : Bool) :
    (finishCycle obs st e changed zones).status.addresses = e.global.addresses := by
  have hback : (Option.map (·.addresses) ∘
      memberOf (writebackMembersFromContexts st.members e.global)) = e.global.addresses := by
    funext id
    simp only [Function.comp, GlobalContext.addresses, writeback_member he]
  cases changed with
  | true => exact hback
  | false =>
    cases zones with
    | true => exact hback
    | false =>
      have hsame := (matching_of_bare (h.quiet rfl).bare).member
      have hstart := startEngine_addresses obs st
      unfold GlobalContext.addresses at hstart ⊢
      rw [hsame, hstart]
      rfl

end

end ReplicatedVolume.Datamesh
