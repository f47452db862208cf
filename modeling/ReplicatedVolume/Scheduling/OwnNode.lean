import ReplicatedVolume.Scheduling.Selection

/-!
# A replica that already has a node

The zones are compared with the replica counted in the zone of its own node. Where the emptiest zone
is preferred, the replica may have to yield to itself.
-/

namespace ReplicatedVolume.Scheduling
open List

section Zones
variable {zones : ReplicasByZone} {cmp : Finset ReplicaID → Finset ReplicaID → Ordering}
  {f : Finset ReplicaID → ℤ} (h : ∀ a b, cmp a b = compare (f a) (f b))
include h

theorem bestReplicas_eq_argmax : bestReplicas zones cmp = (zones.map (·.2)).argmax f := by
  unfold bestReplicas argmax
  rw [foldl_map]
  congr 1
  funext best p
  cases best with
  | none => rfl
  | some b => simp only [argAux, h, compare_gt_iff_gt]

theorem mem_computePreferredZones {zone : String} : zone ∈ computePreferredZones zones cmp ↔
    ∃ p ∈ zones, p.1 = zone ∧ ∀ q ∈ zones, f q.2 ≤ f p.2 := by
  unfold computePreferredZones
  rw [bestReplicas_eq_argmax h]
  cases hbest : (zones.map (·.2)).argmax f with
  | none =>
    obtain rfl : zones = [] := by simpa using argmax_eq_none.mp hbest
    simp
  | some best =>
    have hle : ∀ q ∈ zones, f q.2 ≤ f best := fun q hq =>
      le_of_mem_argmax (mem_map_of_mem hq) hbest
    obtain ⟨b, hb, rfl⟩ := mem_map.mp (argmax_mem hbest)
    simp only [mem_map, mem_filter, h, decide_eq_true_eq, compare_eq_iff_eq]
    constructor
    · rintro ⟨p, ⟨hp, heq⟩, rfl⟩
      exact ⟨p, hp, rfl, fun q hq => heq ▸ hle q hq⟩
    · rintro ⟨p, hp, rfl, hmax⟩
      exact ⟨p, ⟨hp, le_antisymm (hle p hp) (hmax b hb)⟩, rfl⟩

end Zones

section Keeps
variable {sctx : SchedulingContext} {rvr : ReplicaSpec} {node : EligibleNode} {lvg : EligibleLVG}
  {ext : Extender}

def SchedulingContext.others (sctx : SchedulingContext) (id : ReplicaID) : SchedulingContext :=
  { sctx with replicasByZone := sctx.replicasByZone.map fun p => (p.1, p.2.erase id) }

/-- How much a zone is preferred for a diskful replica, by the diskful replicas in it. -/
def SchedulingContext.zoneRank (sctx : SchedulingContext) (replicas : Finset ReplicaID) : ℤ :=
  match sctx.topology with
  | .zonal => (replicas ∩ sctx.diskful).card
  | .transZonal => -(replicas ∩ sctx.diskful).card
  | .ignored => 0

theorem mem_preferredZones (hdiskful : rvr.type = .diskful) {zone : String} :
    zone ∈ preferredZones sctx rvr ↔ ∃ p ∈ sctx.replicasByZone, p.1 = zone ∧
      ∀ q ∈ sctx.replicasByZone, sctx.zoneRank q.2 ≤ sctx.zoneRank p.2 := by
  cases htopology : sctx.topology with
  | zonal =>
    simp only [preferredZones, htopology]
    refine mem_computePreferredZones fun a b => ?_
    simp only [zonalCompare, SchedulingContext.zoneRank, htopology, ← cmp_eq_compare,
      Nat.strictMono_cast.cmp_map_eq]
  | transZonal =>
    simp only [preferredZones, htopology]
    refine mem_computePreferredZones fun a b => ?_
    simp only [transZonalCompare, hdiskful, decide_true, if_true, SchedulingContext.zoneRank,
      htopology, ← cmp_eq_compare, cmp_swap]
    exact (Nat.strictMono_cast.neg.cmp_map_eq _ _).symm
  | ignored => simp [preferredZones, htopology, SchedulingContext.zoneRank]

/-- The extender answers without duplicates, and gives a volume group that it is asked about a
positive score. -/
def Extender.Grants (ext : Extender) (key : LVGKey) : Prop :=
  ∀ queries, ∃ scored, ext.filterAndScore queries = some scored ∧
    (scored.map (·.key)).Nodup ∧ (key ∈ queries → ∃ s ∈ scored, s.key = key ∧ 0 < s.score)

/-- The node of a replica is ready and has a volume group that the extender grants; the replica is
counted in the zone of the node only. -/
structure Suitable (ext : Extender) (sctx : SchedulingContext) (rvr : ReplicaSpec)
    (node : EligibleNode) (lvg : EligibleLVG) : Prop where
  diskful : rvr.type = .diskful
  assigned : rvr.nodeName ≠ ""
  keys : ((takeLVGsFromEligibleNodes sctx.eligibleNodes).map (·.key)).Nodup
  names : (sctx.eligibleNodes.map (·.nodeName)).Nodup
  mem : node ∈ sctx.eligibleNodes
  name : node.nodeName = rvr.nodeName
  ready : nodeIsReady ⟨node, none, 0⟩ = true
  lvgMem : lvg ∈ node.lvmVolumeGroups
  lvgReady : lvgIsReady ⟨node, some lvg, 0⟩ = true
  grants : ext.Grants (CandidateEntry.key ⟨node, some lvg, 0⟩)
  confirms : ∀ key, ext.narrowReservation key = true
  counted : rvr.id ∈ sctx.diskful
  zones : (sctx.replicasByZone.map (·.1)).Nodup
  zone : node.zoneName ∈ sctx.replicasByZone.map (·.1)
  within : ∀ p ∈ sctx.replicasByZone, rvr.id ∈ p.2 ↔ p.1 = node.zoneName

theorem node_of_admitted {e : CandidateEntry} (hassigned : rvr.nodeName ≠ "")
    (h : e ∈ admitted sctx rvr) : e.node.nodeName = rvr.nodeName := by
  obtain ⟨-, hall⟩ := mem_filter.mp h
  simp only [Admitted, nodeIsOpen, if_neg hassigned, Bool.and_eq_true, decide_eq_true_eq] at hall
  exact hall.1.2

theorem node_of_scoredCandidates {scored : List ScoredLVG} {best : CandidateEntry}
    (h : best ∈ scoredCandidates sctx rvr scored) :
    ∃ e ∈ admitted sctx rvr, best.node = e.node := by
  simp only [scoredCandidates, mem_map, mem_filterMap, scoredBy] at h
  obtain ⟨left, ⟨e, he, hsome⟩, rfl⟩ := h
  obtain ⟨s, -, hs⟩ := Option.bind_eq_some_iff.mp hsome
  split at hs
  · obtain rfl := Option.some.inj hs
    exact ⟨e, he, rfl⟩
  · cases hs

theorem Suitable.mem_admitted (h : Suitable ext sctx rvr node lvg)
    (hopen : zoneIsOpen sctx rvr ⟨node, none, 0⟩ = true) :
    (⟨node, some lvg, 0⟩ : CandidateEntry) ∈ admitted sctx rvr := by
  refine mem_filter.mpr ⟨?_, ?_⟩
  · simp only [takeLVGsFromEligibleNodes, mem_flatMap, mem_map]
    exact ⟨node, h.mem, lvg, h.lvgMem, rfl⟩
  · have hnodeOpen : nodeIsOpen sctx rvr ⟨node, some lvg, 0⟩ = true := by
      simp [nodeIsOpen, h.assigned, h.name]
    simp only [Admitted, h.lvgReady, hnodeOpen, Bool.and_true, Bool.and_eq_true]
    exact ⟨h.ready, hopen⟩

/-- Nothing but its zone can keep the replica from its node. -/
theorem Suitable.placed_iff (h : Suitable ext sctx rvr node lvg) :
    (∃ best, reconcileOneRVRScheduling ext sctx rvr = .placed best ∧
      best.node.nodeName = rvr.nodeName) ↔ zoneIsOpen sctx rvr ⟨node, none, 0⟩ = true := by
  obtain ⟨scored, hanswer, hscored, hgranted⟩ := h.grants ((admitted sctx rvr).map (·.key))
  rcases reconcileOne_cases h.diskful h.keys hanswer hscored with
    ⟨hnil, hfailed⟩ | ⟨best, hbest, -, houtcome⟩
  · rw [hfailed]
    refine ⟨by simp, fun hopen => ?_⟩
    obtain ⟨s, hs, hkey, hpos⟩ := hgranted (mem_map_of_mem (h.mem_admitted hopen))
    have hscoredBy : scoredBy scored ⟨node, some lvg, 0⟩ = some ⟨node, some lvg, s.score⟩ := by
      rw [scoredBy, (Keyed.find?_eq_some hscored).mpr ⟨hs, hkey⟩]
      simp [hpos]
    simp only [scoredCandidates, map_eq_nil_iff, filterMap_eq_nil_iff] at hnil
    exact absurd (hnil _ (h.mem_admitted hopen)) (by simp [hscoredBy])
  · obtain ⟨e, he, hsame⟩ := node_of_scoredCandidates hbest
    have hon := node_of_admitted h.assigned he
    rw [if_pos (h.confirms _)] at houtcome
    refine ⟨fun _ => ?_, fun _ => ⟨best, houtcome, hsame ▸ hon⟩⟩
    obtain ⟨hsource, hall⟩ := mem_filter.mp he
    obtain ⟨node', hnode', lvg', -, rfl⟩ := lvg_isSome_of_mem hsource
    obtain rfl := inj_on_of_nodup_map h.names hnode' h.mem (hon.trans h.name.symm)
    exact (Bool.and_eq_true _ _ ▸ hall).2

theorem preferredZones_sublist :
    (preferredZones sctx rvr).Sublist (sctx.replicasByZone.map (·.1)) := by
  have hpart (cmp) : (computePreferredZones sctx.replicasByZone cmp).Sublist
      (sctx.replicasByZone.map (·.1)) := by
    unfold computePreferredZones
    split
    · exact nil_sublist _
    · exact filter_sublist.map _
  unfold preferredZones
  split
  · exact hpart _
  · exact hpart _
  · exact .refl _

/-- The zone is open only if it is preferred: otherwise it is one that is not. -/
theorem Suitable.zoneIsOpen_iff (h : Suitable ext sctx rvr node lvg) :
    zoneIsOpen sctx rvr ⟨node, none, 0⟩ = true ↔ node.zoneName ∈ preferredZones sctx rvr := by
  simp only [zoneIsOpen, decide_eq_true_eq]
  refine ⟨fun hopen => by_contra fun hnot => hnot (hopen ?_), fun hmem _ => hmem⟩
  have hsub : (preferredZones sctx rvr).Sublist _ := preferredZones_sublist
  refine lt_of_le_of_ne (by simpa using hsub.length_le) fun hlen => hnot ?_
  rw [hsub.eq_of_length (by simpa using hlen)]
  exact h.zone

/-- The replica is one more in the zone of its node, and is not counted in another. -/
theorem Suitable.card_eq (h : Suitable ext sctx rvr node lvg) {p : String × Finset ReplicaID}
    (hp : p ∈ sctx.replicasByZone) : (p.2 ∩ sctx.diskful).card =
      (p.2.erase rvr.id ∩ sctx.diskful).card + if p.1 = node.zoneName then 1 else 0 := by
  rw [Finset.erase_inter]
  split
  · next hzone =>
      rw [Finset.card_erase_add_one]
      exact Finset.mem_inter.mpr ⟨(h.within p hp).mpr hzone, h.counted⟩
  · next hzone =>
      rw [Finset.erase_eq_of_notMem, Nat.add_zero]
      exact fun hmem => hzone ((h.within p hp).mp (Finset.mem_inter.mp hmem).1)

/-- A replica whose zone the others prefer keeps its node, unless the emptiest zone is preferred and
another one has as few of the others: counted itself, it then makes its own zone the fuller one. -/
theorem own_node_kept_iff (h : Suitable ext sctx rvr node lvg)
    (hpreferred : node.zoneName ∈ preferredZones (sctx.others rvr.id) rvr) :
    (∃ best, reconcileOneRVRScheduling ext sctx rvr = .placed best ∧
      best.node.nodeName = rvr.nodeName) ↔
      (sctx.topology = .transZonal → ∀ own ∈ (sctx.others rvr.id).replicasByZone,
        own.1 = node.zoneName → ∀ p ∈ (sctx.others rvr.id).replicasByZone, p.1 ≠ node.zoneName →
          (own.2 ∩ sctx.diskful).card < (p.2 ∩ sctx.diskful).card) := by
  rw [h.placed_iff, h.zoneIsOpen_iff]
  rw [mem_preferredZones h.diskful] at hpreferred ⊢
  simp only [SchedulingContext.others, mem_map, exists_exists_and_eq_and, forall_exists_index,
    and_imp, forall_apply_eq_imp_iff₂] at hpreferred ⊢
  obtain ⟨own, hown, hzone, hmost⟩ := hpreferred
  have honly : ∀ p ∈ sctx.replicasByZone, p.1 = node.zoneName → p = own := fun p hp hname =>
    inj_on_of_nodup_map h.zones hp hown (hname.trans hzone.symm)
  have hmax : (∃ p ∈ sctx.replicasByZone, p.1 = node.zoneName ∧
      ∀ q ∈ sctx.replicasByZone, sctx.zoneRank q.2 ≤ sctx.zoneRank p.2) ↔
      ∀ q ∈ sctx.replicasByZone, sctx.zoneRank q.2 ≤ sctx.zoneRank own.2 :=
    ⟨fun ⟨p, hp, hname, hall⟩ => honly p hp hname ▸ hall, fun hall => ⟨own, hown, hzone, hall⟩⟩
  have hcard := h.card_eq hown
  rw [if_pos hzone] at hcard
  rw [hmax]
  cases htopology : sctx.topology with
  | zonal =>
    simp only [SchedulingContext.zoneRank, htopology] at hmost ⊢
    refine iff_of_true (fun q hq => ?_) (fun h => by cases h)
    have := h.card_eq hq
    have := hmost q hq
    split at * <;> omega
  | transZonal =>
    simp only [SchedulingContext.zoneRank, htopology, neg_le_neg_iff, Nat.cast_le]
    constructor
    · intro hall _ p hp hname q hq hne
      obtain rfl := honly p hp hname
      have hother := h.card_eq hq
      rw [if_neg hne] at hother
      have := hall q hq
      omega
    · intro hfewer q hq
      by_cases hname : q.1 = node.zoneName
      · rw [honly q hq hname]
      · have := hfewer trivial own hown hzone q hq hname
        have := h.card_eq hq
        omega
  | ignored => simp [SchedulingContext.zoneRank, htopology]

end Keeps

def retyped (nodeName : String) : ReplicaSpec := ⟨0, .diskful, nodeName, "", ""⟩

def twoZones : List EligibleNode := [readyNode "a" "A" ["vg-a"], readyNode "b" "B" ["vg-b"]]

def generous : Extender :=
  ⟨fun queries => some (queries.dedup.map fun key => ⟨key, 5⟩), fun _ => true⟩

theorem generous_grants (key : LVGKey) : generous.Grants key := fun queries =>
  ⟨_, rfl, by simpa [Function.comp_def] using nodup_dedup queries, fun h =>
    ⟨⟨key, 5⟩, mem_map.mpr ⟨key, mem_dedup.mpr h, rfl⟩, rfl, by simp⟩⟩

/-- Zone `B` has a replica of its own if `other`. -/
def pairContext (other : Bool) : SchedulingContext :=
  computeSchedulingContext ⟨"pool", .transZonal, 0, 1, .any⟩ .lvm twoZones
    (retyped "a" :: if other then [⟨1, .diskful, "b", "vg-b", ""⟩] else []) []

theorem pair_suitable (other : Bool) : Suitable generous (pairContext other)
    (retyped "a") (readyNode "a" "A" ["vg-a"]) ⟨"vg-a", "", false, true⟩ where
  diskful := rfl
  assigned := by decide
  keys := by cases other <;> decide +kernel
  names := by cases other <;> decide +kernel
  mem := by cases other <;> decide +kernel
  name := rfl
  ready := rfl
  lvgMem := by decide
  lvgReady := rfl
  grants := generous_grants _
  confirms _ := rfl
  counted := by cases other <;> decide +kernel
  zones := by cases other <;> decide +kernel
  zone := by cases other <;> decide +kernel
  within := by cases other <;> decide +kernel

theorem own_node_kept_fewer :
    ∃ best, reconcileOneRVRScheduling generous (pairContext true) (retyped "a") = .placed best ∧
      best.node.nodeName = "a" :=
  (own_node_kept_iff (pair_suitable true) (by decide +kernel)).mpr fun _ => by decide +kernel

/-- The only replica is on a ready node of the one zone that has a replica: itself. -/
theorem competes_with_itself : Suitable generous (pairContext false) (retyped "a")
    (readyNode "a" "A" ["vg-a"]) ⟨"vg-a", "", false, true⟩ ∧
      "A" ∈ preferredZones ((pairContext false).others 0) (retyped "a") ∧
      reconcileOneRVRScheduling generous (pairContext false) (retyped "a") =
        .schedulingFailed :=
  ⟨pair_suitable false, by decide +kernel, by decide +kernel⟩

end ReplicatedVolume.Scheduling
