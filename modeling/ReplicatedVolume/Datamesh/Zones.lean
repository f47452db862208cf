import ReplicatedVolume.Datamesh.Guards

/-!
# Members by zone

The zone guards count members zone by zone. The counts are the sizes of the
sets they stand for, and a zone is listed exactly where its set is not empty.
-/

namespace ReplicatedVolume.Datamesh
open List

theorem idsWhere_card (p : ReplicaID → Bool) : (idsWhere p).card = (List.finRange 32).countP p := by
  rw [countP_eq_length_filter, ← toFinset_card_of_nodup ((nodup_finRange 32).filter p)]
  congr 1
  ext id
  simp [idsWhere]

def inZone (g : GlobalContext) (included : ReplicaContext → Bool) (zone : String) :
    Finset ReplicaID :=
  idsWhere fun id => included (g.replicas id) && (g.member id).any (·.zone = zone)

variable {g : GlobalContext} {included : ReplicaContext → Bool}

theorem mem_inZone {zone : String} {id : ReplicaID} :
    id ∈ inZone g included zone ↔
      included (g.replicas id) = true ∧ ∃ m, g.member id = some m ∧ m.zone = zone := by
  simp [inZone, idsWhere, Option.any_eq_true]

def zonesOf (g : GlobalContext) (included : ReplicaContext → Bool) : List String :=
  (List.finRange 32).filterMap fun id =>
    if included (g.replicas id) then (g.member id).map (·.zone) else none

theorem count_zonesOf (zone : String) :
    (zonesOf g included).count zone = (inZone g included zone).card := by
  rw [inZone, idsWhere_card, zonesOf, List.count, countP_filterMap]
  congr 1
  funext id
  by_cases hincluded : included (g.replicas id) = true
  · cases hm : g.member id <;> simp [hincluded, BEq.beq]
  · simp [hincluded]

theorem mem_zonesOf {zone : String} :
    zone ∈ zonesOf g included ↔ (inZone g included zone).Nonempty := by
  rw [← count_pos_iff, count_zonesOf, Finset.card_pos]

theorem countPerZone_eq (g : GlobalContext) (included : ReplicaContext → Bool) :
    countPerZone g included = ((zonesOf g included).dedup.insertionSort (· ≤ ·)).map fun zone =>
      (zone, (zonesOf g included).count zone) := rfl

theorem mem_countPerZone {zc : String × ℕ} :
    zc ∈ countPerZone g included ↔
      (inZone g included zc.1).Nonempty ∧ zc.2 = (inZone g included zc.1).card := by
  obtain ⟨zone, n⟩ := zc
  simp only [countPerZone_eq, mem_map, mem_insertionSort, mem_dedup, mem_zonesOf,
    count_zonesOf, Prod.mk.injEq]
  constructor
  · rintro ⟨z, hz, rfl, rfl⟩
    exact ⟨hz, rfl⟩
  · rintro ⟨hz, rfl⟩
    exact ⟨zone, hz, rfl, rfl⟩

theorem findZoneCount_countPerZone (zone : String) :
    findZoneCount (countPerZone g included) zone = (inZone g included zone).card := by
  unfold findZoneCount
  cases hfind : (countPerZone g included).find? (·.1 = zone) with
  | none =>
    have hnone := List.find?_eq_none.mp hfind
    rw [Option.map_none, Option.getD_none, eq_comm, Finset.card_eq_zero,
      ← Finset.not_nonempty_iff_eq_empty]
    intro hzone
    exact hnone (zone, (inZone g included zone).card) (mem_countPerZone.mpr ⟨hzone, rfl⟩)
      (decide_eq_true rfl)
  | some zc =>
    have hzone : zc.1 = zone := by simpa using List.find?_some hfind
    rw [Option.map_some, Option.getD_some, ← hzone]
    exact (mem_countPerZone.mp (mem_of_find?_eq_some hfind)).2

end ReplicatedVolume.Datamesh
