import ReplicatedVolume.Datamesh.Network
import Mathlib.Data.List.Perm.Basic
import Mathlib.Data.List.Perm.Subperm
import Mathlib.Data.List.Nodup

/-!
# Address repair

The dispatcher compares addresses network by network and counts; the repair compares the lists. They
disagree on lists that hold the right addresses in another order.
-/

namespace ReplicatedVolume.Datamesh
open List

def targetAddresses (nets : List String) (rvrAddrs : List Address) : List Address :=
  nets.filterMap (findAddressByNetwork rvrAddrs)

def repairMemberAddresses (nets : List String) (rvrAddrs addrs : List Address) :
    List Address × Bool :=
  let target := targetAddresses nets rvrAddrs
  if addrs = target then (addrs, false) else (target, true)

def memberNeedsRepair (nets : List String) (rvrAddrs addrs : List Address) : Bool :=
  let target := targetAddresses nets rvrAddrs
  target.any (fun ra => (findAddressByNetwork addrs ra.systemNetworkName).all fun ma =>
    ma.ipv4 != ra.ipv4 || ma.port != ra.port) || addrs.length != target.length

/-- As many addresses as the target, each of the target under its network, but another list. -/
def Reordered (addrs target : List Address) : Prop :=
  addrs ≠ target ∧ addrs.length = target.length ∧
    ∀ ra ∈ target, findAddressByNetwork addrs ra.systemNetworkName = some ra

variable {nets : List String} {rvrAddrs addrs target : List Address}

theorem findAddressByNetwork_network {net : String} {a : Address}
    (h : findAddressByNetwork addrs net = some a) : a.systemNetworkName = net := by
  simpa using List.find?_some h

theorem mem_targetAddresses {a : Address} :
    a ∈ targetAddresses nets rvrAddrs ↔
      a.systemNetworkName ∈ nets ∧ findAddressByNetwork rvrAddrs a.systemNetworkName = some a := by
  rw [targetAddresses, mem_filterMap]
  constructor
  · rintro ⟨net, hnet, hfind⟩
    rw [findAddressByNetwork_network hfind]
    exact ⟨hnet, hfind⟩
  · rintro ⟨hnet, hfind⟩
    exact ⟨_, hnet, hfind⟩

theorem memberNeedsRepair_eq_false :
    memberNeedsRepair nets rvrAddrs addrs = false ↔
      addrs.length = (targetAddresses nets rvrAddrs).length ∧
        ∀ ra ∈ targetAddresses nets rvrAddrs,
          findAddressByNetwork addrs ra.systemNetworkName = some ra := by
  have hentry : ∀ ra : Address, ((findAddressByNetwork addrs ra.systemNetworkName).all fun ma =>
      ma.ipv4 != ra.ipv4 || ma.port != ra.port) = false ↔
        findAddressByNetwork addrs ra.systemNetworkName = some ra := by
    intro ra
    cases hfind : findAddressByNetwork addrs ra.systemNetworkName with
    | none => simp
    | some ma =>
      have hnet := findAddressByNetwork_network hfind
      cases ma
      cases ra
      simp only at hnet
      simp [hnet]
  simp only [memberNeedsRepair, Bool.or_eq_false_iff, any_eq_false, Bool.not_eq_true, hentry,
    bne_eq_false_iff_eq]
  exact and_comm

theorem repairMemberAddresses_changed :
    (repairMemberAddresses nets rvrAddrs addrs).2 = true ↔
      addrs ≠ targetAddresses nets rvrAddrs := by
  unfold repairMemberAddresses
  by_cases h : addrs = targetAddresses nets rvrAddrs <;> simp [h]

theorem find_targetAddresses {ra : Address} (h : ra ∈ targetAddresses nets rvrAddrs) :
    findAddressByNetwork (targetAddresses nets rvrAddrs) ra.systemNetworkName = some ra := by
  cases hfind : findAddressByNetwork (targetAddresses nets rvrAddrs) ra.systemNetworkName with
  | none => exact absurd h (by simpa using List.find?_eq_none.mp hfind ra)
  | some a =>
    have hnet := findAddressByNetwork_network hfind
    have ha := (mem_targetAddresses.mp (mem_of_find?_eq_some hfind)).2
    rw [hnet, (mem_targetAddresses.mp h).2] at ha
    exact ha.symm

theorem targetAddresses_settled :
    memberNeedsRepair nets rvrAddrs (targetAddresses nets rvrAddrs) = false :=
  memberNeedsRepair_eq_false.mpr ⟨rfl, fun _ h => find_targetAddresses h⟩

theorem memberNeedsRepair_iff :
    (memberNeedsRepair nets rvrAddrs addrs = true ↔
      (repairMemberAddresses nets rvrAddrs addrs).2 = true) ↔
        ¬ Reordered addrs (targetAddresses nets rvrAddrs) := by
  rw [repairMemberAddresses_changed]
  by_cases hsame : addrs = targetAddresses nets rvrAddrs
  · subst hsame
    simp [targetAddresses_settled, Reordered]
  · rw [Reordered, ← memberNeedsRepair_eq_false]
    simp [hsame]

theorem reordered_iff_perm (hnets : nets.Nodup) :
    Reordered addrs (targetAddresses nets rvrAddrs) ↔
      addrs ≠ targetAddresses nets rvrAddrs ∧ addrs.Perm (targetAddresses nets rvrAddrs) := by
  have hnodup : (targetAddresses nets rvrAddrs).Nodup := by
    refine List.Nodup.filterMap (fun net net' a ha ha' => ?_) hnets
    rw [← findAddressByNetwork_network ha, ← findAddressByNetwork_network ha']
  have htarget : ∀ ra ∈ targetAddresses nets rvrAddrs, ∀ ra' ∈ targetAddresses nets rvrAddrs,
      ra.systemNetworkName = ra'.systemNetworkName → ra = ra' := by
    intro ra h ra' h' hnet
    have hfind := (mem_targetAddresses.mp h).2
    rw [hnet, (mem_targetAddresses.mp h').2] at hfind
    exact (Option.some.inj hfind).symm
  refine and_congr_right fun _ => ⟨fun ⟨hlength, hfound⟩ => ?_, fun hperm => ⟨hperm.length_eq, ?_⟩⟩
  · -- the target is a sublist up to order, of the same length
    have hsub : (targetAddresses nets rvrAddrs).Subperm addrs :=
      subperm_of_subset hnodup fun ra h => mem_of_find?_eq_some (hfound ra h)
    exact (hsub.perm_of_length_le hlength.le).symm
  · intro ra h
    cases hfind : findAddressByNetwork addrs ra.systemNetworkName with
    | none => exact absurd (hperm.mem_iff.mpr h) (by simpa using List.find?_eq_none.mp hfind ra)
    | some a =>
      have ha := hperm.mem_iff.mp (mem_of_find?_eq_some hfind)
      rw [htarget a ha ra h (findAddressByNetwork_network hfind)]

variable {g : GlobalContext}

theorem needsAddressRepair_iff :
    needsAddressRepair g = true ↔ ∃ id m rvr, g.member id = some m ∧ g.rvr id = some rvr ∧
      memberNeedsRepair g.systemNetworkNames rvr.addresses m.addresses = true := by
  simp only [needsAddressRepair, any_eq_true, mem_finRange, true_and]
  refine exists_congr fun id => ?_
  cases hm : g.member id with
  | none => simp
  | some m =>
    cases hrvr : g.rvr id with
    | none => simp
    | some rvr => simp [memberNeedsRepair, targetAddresses]

def repairedMember (g : GlobalContext) (id : ReplicaID) (m : DatameshMember) : DatameshMember :=
  match g.rvr id with
  | none => m
  | some rvr => { m with addresses := targetAddresses g.systemNetworkNames rvr.addresses }

theorem repairAddresses_fst (g : GlobalContext) :
    (repairAddresses g).1 = { g with replicas := fun id =>
      { g.replicas id with member := (g.member id).map (repairedMember g id) } } := by
  simp only [repairAddresses, mapAddresses, GlobalContext.member, GlobalContext.mk.injEq, true_and,
    and_true]
  funext id
  refine congrArg (fun f => { g.replicas id with member := (g.replicas id).member.map f }) ?_
  funext m
  rw [repairedMember, GlobalContext.rvr]
  cases (g.replicas id).rvr <;> rfl

theorem repairAddresses_member (id : ReplicaID) :
    (repairAddresses g).1.member id = (g.member id).map (repairedMember g id) := by
  rw [repairAddresses_fst]
  rfl

theorem repairAddresses_unchanged (h : ∀ id m, g.member id = some m → repairedMember g id m = m) :
    repairAddresses g = (g, false) := by
  refine Prod.ext ?_ ?_
  · rw [repairAddresses_fst]
    have hreplica : ∀ id, { g.replicas id with
        member := (g.member id).map (repairedMember g id) } = g.replicas id := by
      intro id
      have hmember : (g.member id).map (repairedMember g id) = (g.replicas id).member := by
        rw [GlobalContext.member]
        cases hm : (g.replicas id).member with
        | none => rfl
        | some m => rw [Option.map_some, h id m hm]
      rw [hmember]
    simp only [hreplica]
  · simp only [repairAddresses, mapAddresses, any_eq_false, Option.any_eq_true, not_exists,
      not_and, Bool.not_eq_true, bne_eq_false_iff_eq]
    intro id _ m hm
    have haddresses := congrArg DatameshMember.addresses (h id m hm)
    rw [repairedMember, GlobalContext.rvr] at haddresses
    cases hrvr : (g.replicas id).rvr with
    | none => rfl
    | some rvr =>
      rw [hrvr] at haddresses
      exact haddresses

theorem repairedMember_repaired (id : ReplicaID) (m : DatameshMember) :
    repairedMember (repairAddresses g).1 id (repairedMember g id m) = repairedMember g id m := by
  have hrvr : (repairAddresses g).1.rvr id = g.rvr id := rfl
  unfold repairedMember
  rw [hrvr]
  cases g.rvr id <;> rfl

theorem repairAddresses_settles (g : GlobalContext) :
    needsAddressRepair (repairAddresses g).1 = false := by
  rw [← Bool.not_eq_true, needsAddressRepair_iff]
  rintro ⟨id, m, rvr, hm, hrvr, hneeds⟩
  rw [repairAddresses_member] at hm
  obtain ⟨m0, -, rfl⟩ := Option.map_eq_some_iff.mp hm
  have hrvr : g.rvr id = some rvr := hrvr
  rw [repairedMember, hrvr] at hneeds
  exact Bool.noConfusion (targetAddresses_settled.symm.trans hneeds)

theorem repairAddresses_twice (g : GlobalContext) :
    repairAddresses (repairAddresses g).1 = ((repairAddresses g).1, false) := by
  apply repairAddresses_unchanged
  intro id m hm
  rw [repairAddresses_member] at hm
  obtain ⟨m0, -, rfl⟩ := Option.map_eq_some_iff.mp hm
  exact repairedMember_repaired id m0

structure Retracts (g : GlobalContext) : Prop where
  detects : ∀ id m rvr, g.member id = some m → g.rvr id = some rvr →
    (memberNeedsRepair g.systemNetworkNames rvr.addresses m.addresses = true ↔
      (repairMemberAddresses g.systemNetworkNames rvr.addresses m.addresses).2 = true)
  settles : needsAddressRepair (repairAddresses g).1 = false
  once : repairAddresses (repairAddresses g).1 = ((repairAddresses g).1, false)

theorem address_repair_retracts (g : GlobalContext) :
    Retracts g ↔ ∀ id m rvr, g.member id = some m → g.rvr id = some rvr →
      ¬ Reordered m.addresses (targetAddresses g.systemNetworkNames rvr.addresses) := by
  constructor
  · intro h id m rvr hm hrvr
    exact memberNeedsRepair_iff.mp (h.detects id m rvr hm hrvr)
  · intro h
    refine ⟨fun id m rvr hm hrvr => ?_, repairAddresses_settles g, repairAddresses_twice g⟩
    exact memberNeedsRepair_iff.mpr (h id m rvr hm hrvr)

def crossedStatus : Status :=
  { members := [⟨0, .diskful, "a", "",
      [⟨"n2", "10.1.0.1", 7001⟩, ⟨"n1", "10.0.0.1", 7000⟩], "vg", "", false⟩]
    quorum := 1, quorumMinimumRedundancy := 1, multiattach := false
    systemNetworkNames := ["n1", "n2"], size := 4096, datameshRevision := 5, baselineGMDR := 0
    transitions := [] }

def crossedReplica : RVR :=
  { id := 0, deleting := false, generation := 1, nodeName := "a", type := .diskful, conditions := []
    addresses := [⟨"n1", "10.0.0.1", 7000⟩, ⟨"n2", "10.1.0.1", 7001⟩], backingVolume := none
    datameshRevision := 5, attachment := none, quorum := some true, peers := [] }

def crossedContext : GlobalContext :=
  buildContexts crossedStatus
    { volumeName := "v", deleting := false, configuration := ⟨"pool", .ignored, 0, 0, .any⟩
      size := 4096, maxAttachments := none, replicatedStorageClassName := "", rsp := none
      rvrs := [crossedReplica], rvas := [], requests := [], features := ⟨false⟩ }

/-- The repair would rewrite the member, and nothing asks for it. -/
theorem crossed_addresses_missed :
    needsAddressRepair crossedContext = false ∧ (repairAddresses crossedContext).2 = true ∧
      ¬ Retracts crossedContext := by
  refine ⟨by decide, by decide, fun h => ?_⟩
  have hdetects := h.detects 0 _ _ rfl rfl
  revert hdetects
  decide

end ReplicatedVolume.Datamesh
