import ReplicatedVolume.Datamesh.Zones
import ReplicatedVolume.Safety.Quorum
import Mathlib.Data.UInt

/-!
# What the redundancy guards count

The two guards on data redundancy compute with bytes. No subtraction wraps, they agree with the
guards of the model, and together they say that enough up-to-date copies are left without the
subject and without any one zone.
-/

namespace ReplicatedVolume.Datamesh
open Dmte List

def upToDateDiskfulBytes (g : GlobalContext) : UInt8 := .ofNat (upToDateDiskfulCount g)

def upToDateDiskfulBytesPerZone (g : GlobalContext) : List (String × UInt8) :=
  (upToDateDiskfulCountPerZone g).map fun zc => (zc.1, .ofNat zc.2)

def targetGMDRByte (g : GlobalContext) : UInt8 :=
  .ofNat g.configuration.guaranteedMinimumDataRedundancy

def adjustedTotal (g : GlobalContext) (rc : ReplicaContext) : UInt8 :=
  if isUpToDateDiskful rc ∧ 0 < upToDateDiskfulBytes g then upToDateDiskfulBytes g - 1
  else upToDateDiskfulBytes g

def adjustedZoneUTD (rc : ReplicaContext) (zc : String × UInt8) : UInt8 :=
  if isUpToDateDiskful rc ∧ zc.1 = memberZone rc ∧ 0 < zc.2 then zc.2 - 1 else zc.2

def guardGMDRPreservedBytes : ReplicaGuard := fun g rc =>
  let adr := adjustedTotal g rc
  blockIf (adr ≤ targetGMDRByte g) ("would violate GMDR (ADR=" ++ toString adr.toNat ++
    ", need > " ++ toString (targetGMDRByte g).toNat ++ ")") none

def guardZoneGMDRPreservedBytes : ReplicaGuard := fun g rc =>
  if g.configuration.topology ≠ .transZonal then .pass
  else
    let surviving (zc : String × UInt8) : UInt8 := adjustedTotal g rc - adjustedZoneUTD rc zc
    match (upToDateDiskfulBytesPerZone g).find? (fun zc => surviving zc ≤ targetGMDRByte g) with
    | none => .pass
    | some zc => .block ("would violate zone GMDR (losing zone " ++ quoted zc.1 ++
        " after removal would leave " ++ toString (surviving zc).toNat ++
        " UpToDate Diskful, need > " ++ toString (targetGMDRByte g).toNat ++ ")") none

def upToDateWithout (g : GlobalContext) (id : ReplicaID) : Finset ReplicaID :=
  (idsWhere fun other => isUpToDateDiskful (g.replicas other)).erase id

/-- The up-to-date copies without one replica and without the members of a zone. -/
def upToDateWithoutZone (g : GlobalContext) (id : ReplicaID) (zone : String) : Finset ReplicaID :=
  (upToDateWithout g id).filter fun other => ∀ m, g.member other = some m → m.zone ≠ zone

section Counts

variable {g : GlobalContext} {id : ReplicaID}

theorem toNat_ofNat_card (ids : Finset ReplicaID) : (UInt8.ofNat ids.card).toNat = ids.card := by
  have hle : ids.card ≤ 32 := by simpa using Finset.card_le_univ ids
  rw [UInt8.toNat_ofNat']
  exact Nat.mod_eq_of_lt (by omega)

theorem upToDateDiskfulBytes_toNat (g : GlobalContext) :
    (upToDateDiskfulBytes g).toNat = upToDateDiskfulCount g :=
  toNat_ofNat_card _

theorem isUpToDateDiskful_member {rc : ReplicaContext} (h : isUpToDateDiskful rc = true) :
    ∃ m, rc.member = some m ∧ m.zone = memberZone rc := by
  unfold isUpToDateDiskful at h
  rw [Bool.and_eq_true, Option.any_eq_true] at h
  obtain ⟨⟨m, hm, -⟩, -⟩ := h
  exact ⟨m, hm, by simp [memberZone, hm]⟩

theorem card_upToDateWithout (g : GlobalContext) (id : ReplicaID) :
    (upToDateWithout g id).card =
      upToDateDiskfulCount g - if isUpToDateDiskful (g.replicas id) then 1 else 0 := by
  unfold upToDateWithout upToDateDiskfulCount
  by_cases hutd : isUpToDateDiskful (g.replicas id) = true
  · rw [if_pos hutd, Finset.card_erase_of_mem (by simpa [idsWhere] using hutd)]
  · rw [if_neg hutd, Finset.erase_eq_of_notMem (by simpa [idsWhere] using hutd), Nat.sub_zero]

theorem subject_counted (h : isUpToDateDiskful (g.replicas id) = true) :
    0 < upToDateDiskfulCount g :=
  Finset.card_pos.mpr ⟨id, by simpa [idsWhere] using h⟩

theorem card_inZone_erase (g : GlobalContext) (id : ReplicaID) (zone : String) :
    ((inZone g isUpToDateDiskful zone).erase id).card =
      (inZone g isUpToDateDiskful zone).card -
        if zone = memberZone (g.replicas id) then
          (if isUpToDateDiskful (g.replicas id) then 1 else 0) else 0 := by
  by_cases hmem : id ∈ inZone g isUpToDateDiskful zone
  · obtain ⟨hutd, m, hm, hzone⟩ := mem_inZone.mp hmem
    have hsame : zone = memberZone (g.replicas id) := by
      rw [← hzone, memberZone, show (g.replicas id).member = some m from hm]
      rfl
    rw [Finset.card_erase_of_mem hmem, if_pos hsame, if_pos hutd]
  · rw [Finset.erase_eq_of_notMem hmem]
    by_cases hsame : zone = memberZone (g.replicas id)
    · by_cases hutd : isUpToDateDiskful (g.replicas id) = true
      · obtain ⟨m, hm, hzone⟩ := isUpToDateDiskful_member hutd
        exact absurd (mem_inZone.mpr ⟨hutd, m, hm, hzone.trans hsame.symm⟩) hmem
      · simp [hutd]
    · simp [hsame]

theorem card_upToDateWithoutZone (g : GlobalContext) (id : ReplicaID) (zone : String) :
    (upToDateWithoutZone g id zone).card + ((inZone g isUpToDateDiskful zone).erase id).card =
      (upToDateWithout g id).card := by
  have hrest : ((upToDateWithout g id).filter fun other =>
      ¬ ∀ m, g.member other = some m → m.zone ≠ zone) =
      (inZone g isUpToDateDiskful zone).erase id := by
    ext other
    simp only [upToDateWithout, Finset.mem_filter, Finset.mem_erase, mem_inZone, idsWhere,
      Finset.mem_univ, true_and, not_forall, not_not]
    constructor
    · rintro ⟨⟨hne, hutd⟩, m, hm, hzone⟩
      exact ⟨hne, hutd, m, hm, hzone⟩
    · rintro ⟨hne, hutd, m, hm, hzone⟩
      exact ⟨⟨hne, hutd⟩, m, hm, hzone⟩
  rw [← hrest]
  exact Finset.card_filter_add_card_filter_not _

end Counts

theorem adjustedTotal_toNat (g : GlobalContext) (id : ReplicaID) :
    (adjustedTotal g (g.replicas id)).toNat = (upToDateWithout g id).card := by
  rw [card_upToDateWithout]
  unfold adjustedTotal
  have hcount := upToDateDiskfulBytes_toNat g
  by_cases hutd : isUpToDateDiskful (g.replicas id) = true
  · have hpos := subject_counted hutd
    have hbyte : (0 : UInt8) < upToDateDiskfulBytes g := by
      rwa [UInt8.lt_iff_toNat_lt, hcount]
    rw [if_pos ⟨hutd, hbyte⟩, if_pos hutd, UInt8.toNat_sub_of_le, hcount]
    · rfl
    · rwa [UInt8.le_iff_toNat_le, hcount]
  · rw [if_neg fun h => hutd h.1, if_neg hutd, hcount, Nat.sub_zero]

variable {g : GlobalContext} {zc : String × UInt8}

theorem mem_upToDateDiskfulBytesPerZone :
    zc ∈ upToDateDiskfulBytesPerZone g ↔
      (inZone g isUpToDateDiskful zc.1).Nonempty ∧
        zc.2.toNat = (inZone g isUpToDateDiskful zc.1).card := by
  unfold upToDateDiskfulBytesPerZone upToDateDiskfulCountPerZone
  simp only [mem_map, mem_countPerZone]
  constructor
  · rintro ⟨⟨zone, n⟩, ⟨hzone, hcount⟩, rfl⟩
    exact ⟨hzone, hcount ▸ toNat_ofNat_card _⟩
  · rintro ⟨hzone, hcount⟩
    refine ⟨(zc.1, (inZone g isUpToDateDiskful zc.1).card), ⟨hzone, rfl⟩, ?_⟩
    obtain ⟨zone, n⟩ := zc
    rw [← hcount, UInt8.ofNat_toNat]

variable {id : ReplicaID}

section
variable (hzc : zc ∈ upToDateDiskfulBytesPerZone g)
include hzc

theorem adjustedZoneUTD_toNat :
    (adjustedZoneUTD (g.replicas id) zc).toNat =
      ((inZone g isUpToDateDiskful zc.1).erase id).card := by
  obtain ⟨hzone, hcount⟩ := mem_upToDateDiskfulBytesPerZone.mp hzc
  rw [card_inZone_erase]
  unfold adjustedZoneUTD
  have hpos : 0 < zc.2.toNat := by
    rw [hcount]
    exact Finset.card_pos.mpr hzone
  have hone : 1 ≤ zc.2 := UInt8.le_iff_toNat_le.mpr (show (1 : UInt8).toNat ≤ _ from hpos)
  by_cases hutd : isUpToDateDiskful (g.replicas id) = true
  · by_cases hsame : zc.1 = memberZone (g.replicas id)
    · rw [if_pos ⟨hutd, hsame, UInt8.lt_iff_toNat_lt.mpr hpos⟩, if_pos hsame, if_pos hutd,
        UInt8.toNat_sub_of_le _ _ hone, hcount]
      rfl
    · rw [if_neg fun h => hsame h.2.1, if_neg hsame, hcount, Nat.sub_zero]
  · rw [if_neg fun h => hutd h.1, if_neg hutd, ite_self, hcount, Nat.sub_zero]

theorem adjustedZoneUTD_le :
    adjustedZoneUTD (g.replicas id) zc ≤ adjustedTotal g (g.replicas id) := by
  rw [UInt8.le_iff_toNat_le, adjustedZoneUTD_toNat hzc, adjustedTotal_toNat,
    ← card_upToDateWithoutZone g id zc.1]
  omega

theorem surviving_toNat :
    (adjustedTotal g (g.replicas id) - adjustedZoneUTD (g.replicas id) zc).toNat =
      (upToDateWithoutZone g id zc.1).card := by
  rw [UInt8.toNat_sub_of_le _ _ (adjustedZoneUTD_le hzc), adjustedTotal_toNat,
    adjustedZoneUTD_toNat hzc, ← card_upToDateWithoutZone g id zc.1]
  omega

end

theorem blockIf_pass (b : Bool) (message : String) (details : Option String) :
    blockIf b message details = .pass ↔ b = false := by
  cases b <;> simp [blockIf, GuardResult.block, GuardResult.pass]

section Guards

variable {g : GlobalContext} {id : ReplicaID}
  (hgmdr : g.configuration.guaranteedMinimumDataRedundancy < 256)
  (htopology : g.configuration.topology = .transZonal)

include hgmdr in
theorem targetGMDRByte_toNat :
    (targetGMDRByte g).toNat = g.configuration.guaranteedMinimumDataRedundancy := by
  rw [targetGMDRByte, UInt8.toNat_ofNat']
  exact Nat.mod_eq_of_lt hgmdr

include hgmdr in
theorem guardGMDRPreservedBytes_eq :
    guardGMDRPreservedBytes g (g.replicas id) = guardGMDRPreserved g (g.replicas id) := by
  unfold guardGMDRPreservedBytes guardGMDRPreserved
  simp only [UInt8.le_iff_toNat_le, adjustedTotal_toNat, card_upToDateWithout,
    targetGMDRByte_toNat hgmdr]

theorem guardGMDRPreserved_pass :
    guardGMDRPreserved g (g.replicas id) = .pass ↔
      g.configuration.guaranteedMinimumDataRedundancy < (upToDateWithout g id).card := by
  rw [card_upToDateWithout]
  exact (blockIf_pass _ _ _).trans (by rw [decide_eq_false_iff_not, not_le])

def zoneGMDRResult (surviving : String → ℕ) (gmdr : ℕ) (zones : List String) : GuardResult :=
  match zones.find? (fun zone => surviving zone ≤ gmdr) with
  | none => .pass
  | some zone => .block ("would violate zone GMDR (losing zone " ++ quoted zone ++
      " after removal would leave " ++ toString (surviving zone) ++
      " UpToDate Diskful, need > " ++ toString gmdr ++ ")") none

variable {surviving : String → ℕ}

theorem zoneGMDRResult_pass {gmdr : ℕ} {zones : List String} :
    zoneGMDRResult surviving gmdr zones = .pass ↔ ∀ zone ∈ zones, gmdr < surviving zone := by
  unfold zoneGMDRResult
  cases hfind : zones.find? fun zone => surviving zone ≤ gmdr with
  | none =>
    rw [List.find?_eq_none] at hfind
    simpa using hfind
  | some zone =>
    have hmem := mem_of_find?_eq_some hfind
    have hfew := List.find?_some hfind
    simp only [GuardResult.block, GuardResult.pass, GuardResult.mk.injEq, Bool.true_eq_false,
      false_and, false_iff, not_forall]
    exact ⟨zone, hmem, by simpa using hfew⟩

/-- A search over counted zones is the search over their names, where the count of a listed
zone gives what survives its loss. -/
theorem zoneGMDRResult_of_counts {α : Type} {gmdr : ℕ}
    {result : GuardResult} (counts : List (String × α)) (test : String × α → Bool)
    (htest : ∀ zc ∈ counts, test zc = decide (surviving zc.1 ≤ gmdr))
    (hnone : counts.find? test = none → result = .pass)
    (hsome : ∀ zc ∈ counts, counts.find? test = some zc →
      result = .block ("would violate zone GMDR (losing zone " ++ quoted zc.1 ++
        " after removal would leave " ++ toString (surviving zc.1) ++
        " UpToDate Diskful, need > " ++ toString gmdr ++ ")") none) :
    result = zoneGMDRResult surviving gmdr (counts.map (·.1)) := by
  have hfind : counts.find? test = counts.find? (fun zc => surviving zc.1 ≤ gmdr) :=
    List.find?_congr htest
  rw [zoneGMDRResult, List.find?_map]
  cases hfound : counts.find? (fun zc => surviving zc.1 ≤ gmdr) with
  | none => simpa [hfound] using hnone (hfind.trans hfound)
  | some zc => simpa [hfound] using hsome zc (mem_of_find?_eq_some hfound) (hfind.trans hfound)

def upToDateZones (g : GlobalContext) : List String := (upToDateDiskfulCountPerZone g).map (·.1)

theorem mem_upToDateZones {zone : String} :
    zone ∈ upToDateZones g ↔ (inZone g isUpToDateDiskful zone).Nonempty := by
  simp only [upToDateZones, upToDateDiskfulCountPerZone, mem_map, mem_countPerZone]
  constructor
  · rintro ⟨zc, ⟨hzone, -⟩, rfl⟩
    exact hzone
  · intro hzone
    exact ⟨(zone, (inZone g isUpToDateDiskful zone).card), ⟨hzone, rfl⟩, rfl⟩

include hgmdr htopology in
theorem guardZoneGMDRPreservedBytes_search :
    guardZoneGMDRPreservedBytes g (g.replicas id) =
      zoneGMDRResult (fun zone => (upToDateWithoutZone g id zone).card)
        g.configuration.guaranteedMinimumDataRedundancy (upToDateZones g) := by
  have hzones : (upToDateDiskfulBytesPerZone g).map (·.1) = upToDateZones g := by
    simp [upToDateDiskfulBytesPerZone, upToDateZones, Function.comp_def]
  unfold guardZoneGMDRPreservedBytes
  rw [if_neg (not_not.mpr htopology), ← hzones]
  refine zoneGMDRResult_of_counts _ (fun zc => adjustedTotal g (g.replicas id) -
    adjustedZoneUTD (g.replicas id) zc ≤ targetGMDRByte g) (fun zc hzc => ?_) (fun h => ?_)
    (fun zc hzc h => ?_)
  · simp only [UInt8.le_iff_toNat_le, surviving_toNat hzc, targetGMDRByte_toNat hgmdr]
  · simp only [h]
  · simp only [h, surviving_toNat hzc, targetGMDRByte_toNat hgmdr]

def survivingCount (g : GlobalContext) (id : ReplicaID) (zc : String × ℕ) : ℕ :=
  upToDateDiskfulCount g - (if isUpToDateDiskful (g.replicas id) then 1 else 0) -
    (zc.2 - if zc.1 = memberZone (g.replicas id) then
      (if isUpToDateDiskful (g.replicas id) then 1 else 0) else 0)

theorem survivingCount_eq {zc : String × ℕ} (hzc : zc ∈ upToDateDiskfulCountPerZone g) :
    survivingCount g id zc = (upToDateWithoutZone g id zc.1).card := by
  obtain ⟨-, hcount⟩ := mem_countPerZone.mp hzc
  have hsplit := card_upToDateWithoutZone g id zc.1
  rw [card_inZone_erase, card_upToDateWithout] at hsplit
  rw [survivingCount, hcount, ← hsplit]
  omega

include htopology in
theorem guardZoneGMDRPreserved_search :
    guardZoneGMDRPreserved g (g.replicas id) =
      zoneGMDRResult (fun zone => (upToDateWithoutZone g id zone).card)
        g.configuration.guaranteedMinimumDataRedundancy (upToDateZones g) := by
  unfold guardZoneGMDRPreserved
  rw [if_neg (not_not.mpr htopology), upToDateZones]
  refine zoneGMDRResult_of_counts _ (fun zc => survivingCount g id zc ≤
    g.configuration.guaranteedMinimumDataRedundancy) (fun zc hzc => ?_) (fun h => ?_)
    (fun zc hzc h => ?_)
  · rw [survivingCount_eq hzc]
  · unfold survivingCount at h
    simp only [h]
  · rw [← survivingCount_eq hzc]
    unfold survivingCount at h ⊢
    simp only [h]

include hgmdr in
theorem guardZoneGMDRPreservedBytes_eq :
    guardZoneGMDRPreservedBytes g (g.replicas id) = guardZoneGMDRPreserved g (g.replicas id) := by
  by_cases htopology : g.configuration.topology = .transZonal
  · rw [guardZoneGMDRPreservedBytes_search hgmdr htopology, guardZoneGMDRPreserved_search htopology]
  · unfold guardZoneGMDRPreservedBytes guardZoneGMDRPreserved
    rw [if_pos htopology, if_pos htopology]

theorem upToDateWithoutZone_of_empty {zone : String}
    (hzone : ¬ (inZone g isUpToDateDiskful zone).Nonempty) :
    (upToDateWithoutZone g id zone).card = (upToDateWithout g id).card := by
  have hsplit := card_upToDateWithoutZone g id zone
  rw [Finset.not_nonempty_iff_eq_empty.mp hzone] at hsplit
  simpa using hsplit

include htopology in
theorem guards_pass_iff_without_zone : (guardGMDRPreserved g (g.replicas id) = .pass ∧
        guardZoneGMDRPreserved g (g.replicas id) = .pass) ↔
      ∀ zone, g.configuration.guaranteedMinimumDataRedundancy <
        (upToDateWithoutZone g id zone).card := by
  rw [guardGMDRPreserved_pass, guardZoneGMDRPreserved_search htopology, zoneGMDRResult_pass]
  constructor
  · rintro ⟨htotal, hzones⟩ zone
    by_cases hzone : (inZone g isUpToDateDiskful zone).Nonempty
    · exact hzones zone (mem_upToDateZones.mpr hzone)
    · rwa [upToDateWithoutZone_of_empty hzone]
  · intro hall
    exact ⟨(hall "").trans_le (Finset.card_filter_le _ _), fun zone _ => hall zone⟩

end Guards

structure NoWrap (g : GlobalContext) (id : ReplicaID) : Prop where
  total : isUpToDateDiskful (g.replicas id) = true →
    (adjustedTotal g (g.replicas id)).toNat + 1 = (upToDateDiskfulBytes g).toNat
  zone : ∀ zc ∈ upToDateDiskfulBytesPerZone g, isUpToDateDiskful (g.replicas id) = true →
    zc.1 = memberZone (g.replicas id) → (adjustedZoneUTD (g.replicas id) zc).toNat + 1 = zc.2.toNat
  surviving : ∀ zc ∈ upToDateDiskfulBytesPerZone g,
    adjustedZoneUTD (g.replicas id) zc ≤ adjustedTotal g (g.replicas id)

theorem noWrap (g : GlobalContext) (id : ReplicaID) : NoWrap g id where
  total hutd := by
    have hpos := subject_counted hutd
    rw [adjustedTotal_toNat, card_upToDateWithout, if_pos hutd, upToDateDiskfulBytes_toNat]
    omega
  zone zc hzc hutd hzone := by
    obtain ⟨hne, hcount⟩ := mem_upToDateDiskfulBytesPerZone.mp hzc
    have hpos := Finset.card_pos.mpr hne
    rw [adjustedZoneUTD_toNat hzc, card_inZone_erase, if_pos hzone, if_pos hutd, hcount]
    omega
  surviving _ hzc := adjustedZoneUTD_le hzc

/-- Whatever the members, the copies, the zones and the subject, the redundancy guard passes
exactly where more copies than asked for remain without the subject, both guards pass exactly
where this holds without any one zone as well, and no byte wraps. -/
theorem redundancy_guards_exact (g : GlobalContext) (id : ReplicaID)
    (hgmdr : g.configuration.guaranteedMinimumDataRedundancy < 256) :
    (guardGMDRPreservedBytes g (g.replicas id) = .pass ↔
      g.configuration.guaranteedMinimumDataRedundancy < (upToDateWithout g id).card) ∧
    (g.configuration.topology = .transZonal →
      ((guardGMDRPreservedBytes g (g.replicas id) = .pass ∧
          guardZoneGMDRPreservedBytes g (g.replicas id) = .pass) ↔
        ∀ zone, g.configuration.guaranteedMinimumDataRedundancy <
          (upToDateWithoutZone g id zone).card)) ∧
    NoWrap g id := by
  rw [guardGMDRPreservedBytes_eq hgmdr, guardZoneGMDRPreservedBytes_eq hgmdr]
  exact ⟨guardGMDRPreserved_pass, guards_pass_iff_without_zone, noWrap g id⟩

def zonedContext (gmdr : ℕ) (members : List (ReplicaID × MemberType × String)) : GlobalContext :=
  buildContexts
    ⟨members.map fun m => { plainMember m.1 m.2.1 with zone := m.2.2 }, 0, 0, false, [], 0, 5, 0,
      []⟩
    { plainObservation (members.map fun m => plainReplica m.1 .diskful 5) [] with
      configuration := ⟨"pool", .transZonal, 1, gmdr, .any⟩ }

def fourInThreeZones : GlobalContext :=
  zonedContext 1 [(0, .diskful, "a"), (1, .diskful, "a"), (2, .diskful, "b"), (3, .diskful, "c")]

/-- One of the two that share a zone can go: whatever zone is lost then, two copies remain. -/
theorem redundancy_guards_exact_four :
    guardGMDRPreservedBytes fourInThreeZones (fourInThreeZones.replicas 0) = .pass ∧
    guardZoneGMDRPreservedBytes fourInThreeZones (fourInThreeZones.replicas 0) = .pass ∧
    ∀ zone, 1 < (upToDateWithoutZone fourInThreeZones 0 zone).card := by
  have hpass : guardGMDRPreservedBytes fourInThreeZones (fourInThreeZones.replicas 0) = .pass ∧
      guardZoneGMDRPreservedBytes fourInThreeZones (fourInThreeZones.replicas 0) = .pass := by
    decide +kernel
  have hexact := redundancy_guards_exact fourInThreeZones 0 (by decide)
  exact ⟨hpass.1, hpass.2, (hexact.2.1 rfl).mp hpass⟩

end ReplicatedVolume.Datamesh
