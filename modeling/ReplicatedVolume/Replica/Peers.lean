import ReplicatedVolume.Agent.Objects
import ReplicatedVolume.Library.Keyed
import ReplicatedVolume.Volume.Objects
import Mathlib.Data.List.Sort

/-!
# The peers of a replica

The replica controller writes the peers of a DRBD resource from the members of the datamesh, and
mirrors the peers that DRBD reports into the status of the replica.
-/

namespace ReplicatedVolume.Replica
open List
open Agent (Peer ResourceType)

structure Member extends DatameshMember where
  name : String
  deriving DecidableEq

structure Datamesh where
  members : List Member
  sharedSecret : String
  sharedSecretAlg : String
  deriving DecidableEq

def buildDRBDRPeerPaths (addresses : List Address) : List Address :=
  addresses.map fun a => ⟨a.systemNetworkName, a.ipv4, a.port⟩

def targetPeer (dm : Datamesh) (m : Member) : Peer where
  name := m.name
  nodeID := m.id
  type := if m.type.connectsToAllPeers then .diskful else .diskless
  protocol := "C"
  sharedSecret := dm.sharedSecret
  sharedSecretAlg := dm.sharedSecretAlg
  allowRemoteRead := m.type.isVoter || m.type = .tieBreaker
  paths := buildDRBDRPeerPaths m.addresses

def computeTargetDRBDRPeers (dm : Datamesh) (self : Member) : List Peer :=
  if dm.members.length ≤ 1 then []
  else
    (dm.members.filterMap fun m =>
      if m.name = self.name then none
      else if !self.type.connectsToAllPeers && !m.type.connectsToAllPeers then none
      else some (targetPeer dm m)).mergeSort fun a b => a.name ≤ b.name

def countedVoter (p : Peer) : Bool := p.type = .diskful && p.allowRemoteRead

def countedTieBreaker (p : Peer) : Bool := p.type = .diskless && p.allowRemoteRead

section
variable {dm : Datamesh} {self m : Member} {p : Peer}

theorem countedVoter_target : countedVoter (targetPeer dm m) = m.type.isVoter := by
  cases hm : m.type <;> simp [countedVoter, targetPeer, hm, MemberType.isVoter,
    MemberType.connectsToAllPeers]

theorem countedTieBreaker_target :
    countedTieBreaker (targetPeer dm m) = decide (m.type = .tieBreaker) := by
  cases hm : m.type <;> simp [countedTieBreaker, targetPeer, hm, MemberType.isVoter,
    MemberType.connectsToAllPeers]

theorem mem_peers (hself : self ∈ dm.members) :
    p ∈ computeTargetDRBDRPeers dm self ↔ ∃ m ∈ dm.members, m.name ≠ self.name ∧
      (self.type.connectsToAllPeers = true ∨ m.type.connectsToAllPeers = true) ∧
      targetPeer dm m = p := by
  unfold computeTargetDRBDRPeers
  split
  · next hfew =>
      -- A single member has no other to connect to.
      simp only [not_mem_nil, false_iff, not_exists, not_and]
      intro m hm hne
      have hone : dm.members.length = 1 := by
        have := length_pos_of_mem hself
        omega
      obtain ⟨a, ha⟩ := length_eq_one_iff.mp hone
      rw [ha, mem_singleton] at hself hm
      exact absurd (by rw [hself, hm]) hne
  · rw [mem_mergeSort, mem_filterMap]
    refine exists_congr fun m => and_congr_right fun _ => ?_
    by_cases hname : m.name = self.name
    · simp [hname]
    · rw [if_neg hname]
      cases self.type.connectsToAllPeers <;> cases m.type.connectsToAllPeers <;> simp [hname]

theorem peers_sorted (hnames : (dm.members.map (·.name)).Nodup) :
    (computeTargetDRBDRPeers dm self).Pairwise fun a b => a.name < b.name := by
  unfold computeTargetDRBDRPeers
  split
  · exact .nil
  · obtain ⟨found, hfound⟩ : ∃ l, l = dm.members.filterMap fun m =>
        if m.name = self.name then none
        else if !self.type.connectsToAllPeers && !m.type.connectsToAllPeers then none
        else some (targetPeer dm m) := ⟨_, rfl⟩
    rw [← hfound]
    have hdistinct : found.Pairwise fun a b => a.name ≠ b.name := by
      rw [hfound, pairwise_filterMap]
      refine (pairwise_map.mp hnames).imp fun {m m'} hne a ha b hb => ?_
      have ha' : a.name = m.name := by
        split_ifs at ha
        cases ha
        rfl
      have hb' : b.name = m'.name := by
        split_ifs at hb
        cases hb
        rfl
      rwa [ha', hb']
    have hsorted : (found.mergeSort fun a b => decide (a.name ≤ b.name)).Pairwise
        fun a b => decide (a.name ≤ b.name) = true :=
      pairwise_mergeSort
        (fun a b c hab hbc => by simpa using le_trans (by simpa using hab) (by simpa using hbc))
        (fun a b => by simpa using le_total a.name b.name) found
    have hne := (mergeSort_perm found fun a b => decide (a.name ≤ b.name)).pairwise_iff
      (fun h => Ne.symm h) |>.mpr hdistinct
    exact (hsorted.and hne).imp fun ⟨hle, hne⟩ => lt_of_le_of_ne (by simpa using hle) hne

/-- The peers of all members form one symmetric mesh, each list is sorted without duplicates, and
a member with full mesh counts the voters and the tie-breakers of the datamesh. -/
theorem peers_realize_datamesh (hnames : (dm.members.map (·.name)).Nodup) :
    (∀ a ∈ dm.members, ∀ b ∈ dm.members, a.name ≠ b.name →
      ((∃ p ∈ computeTargetDRBDRPeers dm a, p.name = b.name) ↔
        ∃ p ∈ computeTargetDRBDRPeers dm b, p.name = a.name) ∧
      ((∃ p ∈ computeTargetDRBDRPeers dm a, p.name = b.name) ↔
        a.type.connectsToAllPeers = true ∨ b.type.connectsToAllPeers = true)) ∧
    ∀ a ∈ dm.members,
      ((computeTargetDRBDRPeers dm a).Pairwise fun p q => p.name < q.name) ∧
      (∀ p ∈ computeTargetDRBDRPeers dm a, p.name ≠ a.name) ∧
      (a.type.connectsToAllPeers = true → ∀ name,
        ((∃ p ∈ computeTargetDRBDRPeers dm a, countedVoter p = true ∧ p.name = name) ∨
            (a.type.isVoter = true ∧ a.name = name) ↔
          ∃ m ∈ dm.members, m.type.isVoter = true ∧ m.name = name) ∧
        ((∃ p ∈ computeTargetDRBDRPeers dm a, countedTieBreaker p = true ∧ p.name = name) ↔
          ∃ m ∈ dm.members, m.type = .tieBreaker ∧ m.name = name)) := by
  have hinj : ∀ m ∈ dm.members, ∀ m' ∈ dm.members, m.name = m'.name → m = m' :=
    fun m hm m' hm' h => inj_on_of_nodup_map hnames hm hm' h
  have hconnected : ∀ a ∈ dm.members, ∀ b ∈ dm.members, a.name ≠ b.name →
      ((∃ p ∈ computeTargetDRBDRPeers dm a, p.name = b.name) ↔
        a.type.connectsToAllPeers = true ∨ b.type.connectsToAllPeers = true) := by
    intro a ha b hb hne
    constructor
    · rintro ⟨p, hp, hname⟩
      obtain ⟨m, hm, -, hfull, rfl⟩ := (mem_peers ha).mp hp
      rwa [hinj m hm b hb hname] at hfull
    · intro hfull
      exact ⟨targetPeer dm b, (mem_peers ha).mpr ⟨b, hb, hne.symm, hfull, rfl⟩, rfl⟩
  refine ⟨fun a ha b hb hne => ⟨?_, hconnected a ha b hb hne⟩, fun a ha => ⟨peers_sorted hnames,
    fun p hp => ?_, fun hfull name => ⟨?_, ?_⟩⟩⟩
  · rw [hconnected a ha b hb hne, hconnected b hb a ha hne.symm, or_comm]
  · obtain ⟨m, -, hne, -, rfl⟩ := (mem_peers ha).mp hp
    exact hne
  · constructor
    · rintro (⟨p, hp, hvoter, rfl⟩ | ⟨hvoter, rfl⟩)
      · obtain ⟨m, hm, -, -, rfl⟩ := (mem_peers ha).mp hp
        exact ⟨m, hm, countedVoter_target.symm.trans hvoter, rfl⟩
      · exact ⟨a, ha, hvoter, rfl⟩
    · rintro ⟨m, hm, hvoter, rfl⟩
      by_cases hname : m.name = a.name
      · obtain rfl := hinj m hm a ha hname
        exact .inr ⟨hvoter, rfl⟩
      · exact .inl ⟨targetPeer dm m, (mem_peers ha).mpr ⟨m, hm, hname, .inl hfull, rfl⟩,
          countedVoter_target.trans hvoter, rfl⟩
  · constructor
    · rintro ⟨p, hp, hcounted, rfl⟩
      obtain ⟨m, hm, -, -, rfl⟩ := (mem_peers ha).mp hp
      rw [countedTieBreaker_target, decide_eq_true_eq] at hcounted
      exact ⟨m, hm, hcounted, rfl⟩
    · rintro ⟨m, hm, htype, rfl⟩
      have hname : m.name ≠ a.name := by
        intro hname
        obtain rfl := hinj m hm a ha hname
        simp [htype, MemberType.connectsToAllPeers] at hfull
      exact ⟨targetPeer dm m, (mem_peers ha).mpr ⟨m, hm, hname, .inl hfull, rfl⟩,
        by rw [countedTieBreaker_target, htype]; rfl, rfl⟩

end

def threeMembers : Datamesh where
  members :=
    [⟨⟨2, .tieBreaker, "c", "z", [⟨"net", "10.0.0.3", 7000⟩], "", "", false⟩, "v-2"⟩,
     ⟨⟨0, .diskful, "a", "z", [⟨"net", "10.0.0.1", 7000⟩], "vg", "", false⟩, "v-0"⟩,
     ⟨⟨1, .liminalDiskful, "b", "z", [⟨"net", "10.0.0.2", 7000⟩], "vg", "", false⟩, "v-1"⟩]
  sharedSecret := "secret"
  sharedSecretAlg := "sha256"

theorem threeMembers_realized :
    (∀ a ∈ threeMembers.members, ∀ b ∈ threeMembers.members, a.name ≠ b.name →
      (∃ p ∈ computeTargetDRBDRPeers threeMembers a, p.name = b.name) ∧
        ∃ p ∈ computeTargetDRBDRPeers threeMembers b, p.name = a.name) ∧
    ∀ a ∈ threeMembers.members,
      ((computeTargetDRBDRPeers threeMembers a).Pairwise fun p q => p.name < q.name) ∧
      (a.type.connectsToAllPeers = true → ∀ name,
        ((∃ p ∈ computeTargetDRBDRPeers threeMembers a, countedVoter p = true ∧ p.name = name) ∨
            (a.type.isVoter = true ∧ a.name = name) ↔ name ∈ ["v-0", "v-1"]) ∧
        ((∃ p ∈ computeTargetDRBDRPeers threeMembers a,
            countedTieBreaker p = true ∧ p.name = name) ↔ name = "v-2")) := by
  have hfull : ∀ a ∈ threeMembers.members, ∀ b ∈ threeMembers.members, a.name ≠ b.name →
    a.type.connectsToAllPeers = true ∨ b.type.connectsToAllPeers = true := by decide
  have hnames : (threeMembers.members.map (·.name)).Nodup := by decide
  obtain ⟨hmesh, hlists⟩ := peers_realize_datamesh hnames
  refine ⟨fun a ha b hb hne => ?_, fun a ha => ⟨(hlists a ha).1, fun hfull name => ?_⟩⟩
  · obtain ⟨hsymm, hconnected⟩ := hmesh a ha b hb hne
    have hab := hconnected.mpr (hfull a ha b hb hne)
    exact ⟨hab, hsymm.mp hab⟩
  · obtain ⟨hvoters, htieBreakers⟩ := (hlists a ha).2.2 hfull name
    rw [hvoters, htieBreakers]
    simp only [threeMembers, mem_cons, not_mem_nil, exists_eq_or_imp, MemberType.isVoter,
      reduceCtorEq, or_false, exists_eq_left, true_and, false_and, false_or, eq_comm]

structure ReportedPath where
  systemNetworkName : String
  established : Bool

structure ReportedPeer where
  name : String
  type : Option ResourceType
  primary : Bool
  paths : List ReportedPath
  connectionState : String
  diskState : String
  replicationState : String

structure Buffer (α : Type) where
  cells : List α
  len : ℕ
  bounded : len ≤ cells.length

namespace Buffer
variable {α : Type}

def view (b : Buffer α) : List α := b.cells.take b.len

variable (b : Buffer α) (n : ℕ) (zero : α)

theorem length_view : b.view.length = b.len := by
  rw [view, length_take, Nat.min_eq_left b.bounded]

def nil : Buffer α := ⟨[], 0, le_rfl⟩

def grown (b : Buffer α) (n : ℕ) (zero : α) : Buffer α :=
  if b.cells.length < n then
    ⟨b.view ++ replicate (n - b.len) zero, n, by
      rw [length_append, length_view, length_replicate]
      omega⟩
  else b

theorem le_grown : n ≤ (b.grown n zero).cells.length := by
  unfold grown
  split
  · rw [length_append, length_view, length_replicate]
    omega
  · exact not_lt.mp ‹_›

theorem take_grown : (b.grown n zero).cells.take b.len = b.view := by
  unfold grown
  split
  · rw [take_append_of_le_length (by rw [length_view]), take_of_length_le]
    rw [length_view]
  · rfl

end Buffer

/-- A peer in the status of a replica, with its list of networks as a value or as a slice. -/
structure StatusPeer (networks : Type) where
  name : String
  type : Option ReplicaType
  attached : Bool
  connectionEstablishedOn : networks
  connectionState : String
  backingVolumeState : String
  replicationState : String
  deriving DecidableEq

abbrev PeerCell := StatusPeer (Buffer String)

def PeerCell.read (c : PeerCell) : StatusPeer (List String) :=
  { c with connectionEstablishedOn := c.connectionEstablishedOn.view }

def PeerCell.zero : PeerCell := ⟨"", none, false, .nil, "", "", ""⟩

def parseIDSuffix (s : List Char) : Option ℕ :=
  match s with
  | [c] => if '0' ≤ c ∧ c ≤ '9' then some (c.toNat - 48) else none
  | [c, d] =>
    if '1' ≤ c ∧ c ≤ '3' ∧ '0' ≤ d ∧ d ≤ '9' then
      let id := (c.toNat - 48) * 10 + (d.toNat - 48)
      if id ≤ 31 then some id else none
    else none
  | _ => none

def peerName (volume name : String) : Option String :=
  let pre := (volume ++ "-").toList
  let suffix :=
    if pre.isPrefixOf name.toList then some (name.toList.drop pre.length)
    else if "peer-".toList.isPrefixOf name.toList then some (name.toList.drop 5)
    else none
  suffix.bind fun s => (parseIDSuffix s).map fun _ => String.ofList (pre ++ s)

theorem digit_of_mem {c : Char} (h : '0' ≤ c) (h' : c ≤ '9') :
    ∃ k : Fin 10, c = .ofNat (48 + k) := by
  have h0 : 48 ≤ c.toNat := h
  have h9 : c.toNat ≤ 57 := h'
  exact ⟨⟨c.toNat - 48, by omega⟩, by simp [Nat.add_sub_cancel' h0, Char.ofNat_toNat]⟩

theorem parseIDSuffix_eq_some_iff {s : List Char} {id : ℕ} :
    parseIDSuffix s = some id ↔ id < 32 ∧ s = (toString id).toList := by
  constructor
  · have hone : ∀ k : Fin 10, ∀ id ∈ parseIDSuffix [.ofNat (48 + k)],
        id < 32 ∧ [.ofNat (48 + k)] = (toString id).toList := by decide +kernel
    have htwo : ∀ k l : Fin 10, ∀ id ∈ parseIDSuffix [.ofNat (48 + k), .ofNat (48 + l)],
        id < 32 ∧ [.ofNat (48 + k), .ofNat (48 + l)] = (toString id).toList := by decide +kernel
    intro h
    rcases s with _ | ⟨c, _ | ⟨d, _ | ⟨e, s⟩⟩⟩
    · cases h
    · by_cases hc : '0' ≤ c ∧ c ≤ '9'
      · obtain ⟨k, rfl⟩ := digit_of_mem hc.1 hc.2
        exact hone k id h
      · simp [parseIDSuffix, hc] at h
    · by_cases hcd : '1' ≤ c ∧ c ≤ '3' ∧ '0' ≤ d ∧ d ≤ '9'
      · obtain ⟨k, rfl⟩ := digit_of_mem (.trans (by decide) hcd.1) (hcd.2.1.trans (by decide))
        obtain ⟨l, rfl⟩ := digit_of_mem hcd.2.2.1 hcd.2.2.2
        exact htwo k l id h
      · simp [parseIDSuffix, hcd] at h
    · cases h
  · rintro ⟨hid, rfl⟩
    revert id
    decide +kernel

/-- The names under which DRBD reports the replica with this id. -/
abbrev ReportedAs (volume name : String) (id : ReplicaID) : Prop :=
  name = volume ++ "-" ++ toString id.val ∨ name = "peer-" ++ toString id.val

theorem peerName_own (volume : String) {id : ℕ} (hid : id < 32) :
    peerName volume (volume ++ "-" ++ toString id) = some (volume ++ "-" ++ toString id) := by
  have hpre : (volume ++ "-").toList.isPrefixOf (volume ++ "-" ++ toString id).toList = true :=
    isPrefixOf_iff_prefix.mpr ⟨(toString id).toList, by simp⟩
  have hparse := parseIDSuffix_eq_some_iff.mpr ⟨hid, rfl⟩
  simp only [peerName, hpre, if_true, Option.bind_some]
  rw [String.toList_append (t := toString id), drop_left, hparse]
  simp [← String.toList_inj]

theorem peerName_unmatched (volume : String) {id : ℕ} (hid : id < 32) :
    peerName volume ("peer-" ++ toString id) = some (volume ++ "-" ++ toString id) := by
  by_cases hown : (volume ++ "-").toList.isPrefixOf ("peer-" ++ toString id).toList = true
  · -- Neither `peer` nor an id contains a dash, so the volume is called `peer`.
    have hplain : ∀ id < 32, '-' ∉ (toString id).toList := by decide +kernel
    obtain ⟨t, ht⟩ := isPrefixOf_iff_prefix.mp hown
    have hsplit : "peer".toList ++ '-' :: (toString id).toList = volume.toList ++ '-' :: t := by
      simpa using ht.symm
    have hvolume := (append_cons_inj_of_notMem (by decide) (hplain id hid)).mp hsplit
    obtain rfl : "peer" = volume := String.toList_inj.mp hvolume.1
    exact peerName_own "peer" hid
  · have hpre : "peer-".toList.isPrefixOf ("peer-" ++ toString id).toList = true :=
      isPrefixOf_iff_prefix.mpr ⟨(toString id).toList, by simp⟩
    have hparse := parseIDSuffix_eq_some_iff.mpr ⟨hid, rfl⟩
    simp only [peerName, if_neg hown, hpre, if_true, Option.bind_some]
    rw [String.toList_append (t := toString id), drop_left' (by rfl : "peer-".toList.length = 5),
      hparse]
    simp [← String.toList_inj]

theorem peerName_eq_some_iff {volume name target : String} : peerName volume name = some target ↔
    ∃ id, ReportedAs volume name id ∧ target = volume ++ "-" ++ toString id.val := by
  constructor
  · intro h
    obtain ⟨s, hs, h⟩ := Option.bind_eq_some_iff.mp h
    obtain ⟨id, hid, rfl⟩ := Option.map_eq_some_iff.mp h
    obtain ⟨hlt, rfl⟩ := parseIDSuffix_eq_some_iff.mp hid
    refine ⟨⟨id, hlt⟩, ?_, by simp [← String.toList_inj]⟩
    split_ifs at hs with hown hpeer
    · have hname := prefix_iff_eq_append.mp <| isPrefixOf_iff_prefix.mp hown
      rw [Option.some.inj hs] at hname
      exact .inl (by simp [← String.toList_inj, ← hname])
    · have hname := prefix_iff_eq_append.mp <| isPrefixOf_iff_prefix.mp hpeer
      rw [show "peer-".toList.length = 5 from rfl, Option.some.inj hs] at hname
      exact .inr (by simp [← String.toList_inj, ← hname])
  · rintro ⟨id, rfl | rfl, rfl⟩
    · exact peerName_own volume id.isLt
    · exact peerName_unmatched volume id.isLt

theorem peerName_eq (volume name : String) : peerName volume name =
    ((List.finRange 32).find? (ReportedAs volume name)).map
      fun id => volume ++ "-" ++ toString id.val := by
  cases hfind : (List.finRange 32).find? (ReportedAs volume name) with
  | some id =>
    have hid := find?_some hfind
    exact peerName_eq_some_iff.mpr ⟨id, of_decide_eq_true hid, rfl⟩
  | none =>
    refine Option.eq_none_iff_forall_ne_some.mpr fun target h => ?_
    obtain ⟨id, hid, -⟩ := peerName_eq_some_iff.mp h
    exact List.find?_eq_none.mp hfind id (mem_finRange id) (decide_eq_true hid)

def targetType (dm : Option Datamesh) (name : String) (type : Option ResourceType) :
    Option ReplicaType :=
  type.map fun
    | .diskful => .diskful
    | .diskless =>
      if (dm.bind fun dm => dm.members.find? (·.name = name)).any (·.type = .tieBreaker) then
        .tieBreaker
      else .access

abbrev HasTieBreaker (dm : Option Datamesh) (name : String) : Prop :=
  ∃ m ∈ dm.elim [] (·.members), m.name = name ∧ m.type = .tieBreaker

theorem any_tieBreaker_iff {dm : Option Datamesh}
    (hnames : ∀ dm' ∈ dm, (dm'.members.map (·.name)).Nodup) (name : String) :
    (dm.bind fun dm => dm.members.find? (·.name = name)).any (·.type = .tieBreaker) = true ↔
      HasTieBreaker dm name := by
  cases dm with
  | none => simp
  | some dm =>
    simp only [Option.any_eq_true, Option.bind_some, Keyed.find?_eq_some (hnames dm rfl),
      decide_eq_true_eq, and_assoc]
    rfl

def establishedOn (src : ReportedPeer) : List String :=
  (src.paths.filter (·.established)).map (·.systemNetworkName)

/-- Write the values one cell after the other, with whether any cell was different. -/
def overwrite : List String → List String → List String × Bool
  | c :: cells, v :: values =>
    let (cells, changed) := overwrite cells values
    (v :: cells, c != v || changed)
  | cells, _ => (cells, false)

theorem overwrite_length (cells values : List String) :
    (overwrite cells values).1.length = cells.length := by
  induction cells generalizing values with
  | nil => cases values <;> rfl
  | cons c cells ih =>
    cases values with
    | nil => rfl
    | cons v values => simp [overwrite, ih]

theorem overwrite_spec {cells values : List String} (h : values.length ≤ cells.length) :
    (overwrite cells values).1.take values.length = values ∧
      ((overwrite cells values).2 = false ↔ cells.take values.length = values) := by
  induction cells generalizing values with
  | nil =>
    obtain rfl := length_eq_zero_iff.mp (Nat.le_zero.mp h)
    simp [overwrite]
  | cons c cells ih =>
    cases values with
    | nil => simp [overwrite]
    | cons v values =>
      obtain ⟨htake, hchanged⟩ := ih (Nat.le_of_succ_le_succ h)
      simp [overwrite, htake, hchanged]

def writeNetworks (b : Buffer String) (values : List String) : Buffer String × Bool :=
  let grown := b.grown values.length ""
  let written := overwrite grown.cells values
  (⟨written.1, values.length, by
      rw [overwrite_length]
      exact b.le_grown values.length ""⟩,
    (grown.len != values.length) || written.2)

theorem writeNetworks_spec (b : Buffer String) {values : List String} (h : "" ∉ values) :
    (writeNetworks b values).1.view = values ∧
      ((writeNetworks b values).2 = false ↔ b.view = values) := by
  obtain ⟨hview, hchanged⟩ := overwrite_spec (b.le_grown values.length "")
  refine ⟨hview, ?_⟩
  simp only [writeNetworks, Bool.or_eq_false_iff, bne_eq_false_iff_eq, hchanged]
  have hlen := b.length_view
  have hbound := b.bounded
  by_cases hcap : b.cells.length < values.length
  · have hnew : (b.grown values.length "").cells = b.view ++ replicate
        (values.length - b.len) "" := by
      rw [Buffer.grown, if_pos hcap]
    constructor
    · rintro ⟨-, htake⟩
      refine absurd ?_ h
      rw [← htake, hnew, take_of_length_le (by simp [hlen]; omega)]
      simp only [mem_append, mem_replicate, ne_eq, and_true]
      exact .inr (by omega)
    · rintro rfl
      omega
  · rw [Buffer.grown, if_neg hcap]
    constructor
    · rintro ⟨hsame, htake⟩
      rwa [← hsame] at htake
    · intro hsame
      have hn : b.len = values.length := by rw [← hlen, hsame]
      exact ⟨hn, by rw [← hn]; exact hsame⟩

/-- What the status should say about a reported peer; nothing about a foreign one. -/
def mirror (dm : Option Datamesh) (volume : String) (src : ReportedPeer) :
    Option (StatusPeer (List String)) :=
  ((List.finRange 32).find? (ReportedAs volume src.name)).map fun id =>
    let name := volume ++ "-" ++ toString id.val
    { name
      type := src.type.map fun
        | .diskful => .diskful
        | .diskless => if HasTieBreaker dm name then .tieBreaker else .access
      attached := src.primary
      connectionEstablishedOn := (src.paths.filter (·.established)).map (·.systemNetworkName)
      connectionState := src.connectionState
      backingVolumeState := src.diskState
      replicationState := src.replicationState }

def writePeer (dm : Option Datamesh) (name : String) (src : ReportedPeer) (dst : PeerCell) :
    PeerCell × Bool :=
  let type := targetType dm name src.type
  let networks := writeNetworks dst.connectionEstablishedOn (establishedOn src)
  (⟨name, type, src.primary, networks.1, src.connectionState, src.diskState, src.replicationState⟩,
    dst.name != name || dst.type != type || dst.attached != src.primary || networks.2 ||
      dst.connectionState != src.connectionState || dst.backingVolumeState != src.diskState ||
      dst.replicationState != src.replicationState)

/-- The loop over the reported peers from a write index on, with the number of peers written;
`none` when the index runs out of range. -/
def writePeers (dm : Option Datamesh) (volume : String) :
    List ReportedPeer → List PeerCell → Option (List PeerCell × ℕ × Bool)
  | [], cells => some (cells, 0, false)
  | src :: srcs, cells =>
    match peerName volume src.name, cells with
    | none, cells => writePeers dm volume srcs cells
    | some _, [] => none
    | some name, dst :: cells => do
      let (dst, changed) := writePeer dm name src dst
      let (cells, written, changed') ← writePeers dm volume srcs cells
      some (dst :: cells, written + 1, changed || changed')

def ensureStatusPeers (volume : String) (prev : Buffer PeerCell)
    (drbdr : Option (List ReportedPeer)) (dm : Option Datamesh) :
    Option (Buffer PeerCell × Bool) :=
  match drbdr.getD [] with
  | [] => some (if 0 < prev.len then (.nil, true) else (prev, false))
  | src :: srcs => do
    let grown := prev.grown (src :: srcs).length .zero
    let (cells, written, changed) ← writePeers dm volume (src :: srcs) grown.cells
    if h : written ≤ cells.length then some (⟨cells, written, h⟩, changed || prev.len != written)
    else none

section
variable {volume : String} {dm : Option Datamesh}

abbrev ReportedPeer.Named (src : ReportedPeer) : Prop :=
  ∀ path ∈ src.paths, path.systemNetworkName ≠ ""

theorem ReportedPeer.Named.establishedOn {src : ReportedPeer} (h : src.Named) :
    "" ∉ establishedOn src := by
  simp only [Replica.establishedOn, mem_map, not_exists, not_and]
  exact fun path hpath => h path (mem_of_mem_filter hpath)

variable (hnames : ∀ dm' ∈ dm, (dm'.members.map (·.name)).Nodup)
include hnames

theorem mirror_eq (src : ReportedPeer) : mirror dm volume src =
    (peerName volume src.name).map fun name =>
      { name, type := targetType dm name src.type, attached := src.primary
        connectionEstablishedOn := establishedOn src, connectionState := src.connectionState
        backingVolumeState := src.diskState, replicationState := src.replicationState } := by
  rw [peerName_eq, Option.map_map]
  unfold mirror
  congr 1
  funext id
  rcases src.type with _ | _ | _ <;>
    simp [targetType, any_tieBreaker_iff hnames, establishedOn]

theorem writePeer_spec {name : String} {src : ReportedPeer} (dst : PeerCell)
    (hnamed : src.Named) (hname : peerName volume src.name = some name) :
    mirror dm volume src = some (writePeer dm name src dst).1.read ∧
      ((writePeer dm name src dst).2 = false ↔ some dst.read = mirror dm volume src) := by
  obtain ⟨hview, hchanged⟩ :=
    writeNetworks_spec dst.connectionEstablishedOn hnamed.establishedOn
  simp only [mirror_eq hnames, hname, Option.map_some, writePeer, PeerCell.read, hview, true_and,
    Bool.or_eq_false_iff, bne_eq_false_iff_eq, hchanged, Option.some.injEq, StatusPeer.mk.injEq]
  tauto

theorem writePeers_spec {srcs : List ReportedPeer}
    {cells : List PeerCell} (hnamed : ∀ src ∈ srcs, src.Named) (h : srcs.length ≤ cells.length) :
    ∃ cells' written changed, writePeers dm volume srcs cells = some (cells', written, changed) ∧
      written = (srcs.filterMap (mirror dm volume)).length ∧ cells'.length = cells.length ∧
      written ≤ srcs.length ∧
      (cells'.take written).map PeerCell.read = srcs.filterMap (mirror dm volume) ∧
      (changed = false ↔
        (cells.take written).map PeerCell.read = srcs.filterMap (mirror dm volume)) := by
  induction srcs generalizing cells with
  | nil => exact ⟨cells, 0, false, rfl, rfl, rfl, le_rfl, by simp, by simp⟩
  | cons src srcs ih =>
    obtain ⟨hsrc, hsrcs⟩ := forall_mem_cons.mp hnamed
    cases hname : peerName volume src.name with
    | none =>
      have hforeign : mirror dm volume src = none := by rw [mirror_eq hnames, hname]; rfl
      obtain ⟨cells', written, changed, hrun, hn, hlen, hle, hview, hchanged⟩ :=
        ih hsrcs ((Nat.le_succ _).trans h)
      refine ⟨cells', written, changed, ?_, ?_, hlen, hle.trans (Nat.le_succ _), ?_, ?_⟩
      · simp only [writePeers, hname]
        exact hrun
      all_goals rwa [filterMap_cons_none hforeign]
    | some name =>
      cases cells with
      | nil => simp at h
      | cons dst cells =>
        obtain ⟨cells', written, changed, hrun, hn, hlen, hle, hview, hchanged⟩ :=
          ih hsrcs (Nat.le_of_succ_le_succ h)
        obtain ⟨hmirror, hdst⟩ := writePeer_spec hnames dst hsrc hname
        refine ⟨(writePeer dm name src dst).1 :: cells', written + 1,
          (writePeer dm name src dst).2 || changed, ?_, ?_, by simp [hlen], by simpa using hle,
          ?_, ?_⟩
        · simp only [writePeers, hname, hrun, Option.bind_eq_bind, Option.bind_some]
        · rw [filterMap_cons_some hmirror, length_cons, hn]
        · rw [filterMap_cons_some hmirror, take_succ_cons, map_cons, hview]
        · rw [Bool.or_eq_false_iff, hdst, hchanged, filterMap_cons_some hmirror,
            take_succ_cons, map_cons, cons.injEq, hmirror, Option.some.injEq]

theorem ensureStatusPeers_mirrors (prev : Buffer PeerCell) {drbdr : Option (List ReportedPeer)}
    (hnamed : ∀ src ∈ drbdr.getD [], src.Named) :
    ∃ next changed, ensureStatusPeers volume prev drbdr dm = some (next, changed) ∧
      next.view.map PeerCell.read = (drbdr.getD []).filterMap (mirror dm volume) ∧
      (changed = false ↔
        prev.view.map PeerCell.read = (drbdr.getD []).filterMap (mirror dm volume)) := by
  unfold ensureStatusPeers
  have hprev := prev.length_view
  revert hnamed
  cases drbdr.getD [] with
  | nil =>
    intro _
    dsimp only
    split
    · next hlen =>
        refine ⟨.nil, true, rfl, rfl, ?_⟩
        simp only [Bool.true_eq_false, filterMap_nil, map_eq_nil_iff, false_iff]
        intro hnil
        rw [hnil] at hprev
        exact absurd hprev (by simp; omega)
    · next hlen =>
        have hnil : prev.view = [] := length_eq_zero_iff.mp (by omega)
        exact ⟨prev, false, rfl, by rw [hnil]; rfl, by rw [hnil]; simp⟩
  | cons src srcs =>
    intro hnamed
    obtain ⟨cells, written, changed, hrun, hn, hlen, hle, hview, hchanged⟩ :=
      writePeers_spec hnames hnamed (prev.le_grown (src :: srcs).length .zero)
    have hfits : written ≤ cells.length := by
      rw [hlen]
      exact hle.trans (prev.le_grown (src :: srcs).length .zero)
    refine ⟨⟨cells, written, hfits⟩, changed || prev.len != written, ?_, hview, ?_⟩
    · simp only [hrun, Option.bind_eq_bind, Option.bind_some, dif_pos hfits]
    · rw [Bool.or_eq_false_iff, hchanged, bne_eq_false_iff_eq]
      constructor
      · rintro ⟨hsame, rfl⟩
        rwa [prev.take_grown] at hsame
      · intro hsame
        have hlength : prev.len = written := by
          rw [hn, ← hsame, length_map, hprev]
        refine ⟨?_, hlength⟩
        rwa [← hlength, prev.take_grown]

end

/-- Whatever the memory held before, the list is the image of the reported peers, a change is
reported exactly when the list is another one, and not by a second call. -/
theorem status_peers_exact (volume : String) (prev : Buffer PeerCell)
    (drbdr : Option (List ReportedPeer)) (dm : Option Datamesh)
    (hnamed : ∀ src ∈ drbdr.getD [], src.Named)
    (hnames : ∀ dm' ∈ dm, (dm'.members.map (·.name)).Nodup) :
    ∃ next changed, ensureStatusPeers volume prev drbdr dm = some (next, changed) ∧
      next.view.map PeerCell.read = (drbdr.getD []).filterMap (mirror dm volume) ∧
      (changed = true ↔ next.view.map PeerCell.read ≠ prev.view.map PeerCell.read) ∧
      ∃ again, ensureStatusPeers volume next drbdr dm = some (again, false) ∧
        again.view.map PeerCell.read = next.view.map PeerCell.read := by
  obtain ⟨next, changed, hrun, hview, hchanged⟩ := ensureStatusPeers_mirrors hnames prev hnamed
  obtain ⟨again, changed', hrun', hview', hchanged'⟩ :=
    ensureStatusPeers_mirrors hnames next hnamed
  obtain rfl : changed' = false := hchanged'.mpr hview
  refine ⟨next, changed, hrun, hview, ?_, again, hrun', hview'.trans hview.symm⟩
  rw [hview, ne_comm, ne_eq, ← hchanged, Bool.not_eq_false]

/-- The first peer is foreign, the last one is not in the spec of the resource; the old list is
empty, with room for one. -/
theorem status_peers_three :
    let srcs : List ReportedPeer :=
      [⟨"w-1", some .diskful, false, [], "", "", ""⟩,
       ⟨"v-2", some .diskless, false, [⟨"net", true⟩], "Connected", "Diskless", "Established"⟩,
       ⟨"peer-1", some .diskful, true, [⟨"net", false⟩], "Connecting", "UpToDate", ""⟩]
    ∃ next changed, ensureStatusPeers "v" ⟨[.zero], 0, by decide⟩ (some srcs) (some threeMembers) =
        some (next, changed) ∧ next.view.map PeerCell.read =
      [⟨"v-2", some .tieBreaker, false, ["net"], "Connected", "Diskless", "Established"⟩,
       ⟨"v-1", some .diskful, true, [], "Connecting", "UpToDate", ""⟩] := by
  intro srcs
  obtain ⟨next, changed, hrun, hview, -⟩ := status_peers_exact "v" ⟨[.zero], 0, by decide⟩
    (some srcs) (some threeMembers) (by decide) (by decide)
  exact ⟨next, changed, hrun, hview.trans (by decide +kernel)⟩

end ReplicatedVolume.Replica
