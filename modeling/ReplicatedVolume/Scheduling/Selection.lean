import ReplicatedVolume.Library.Keyed
import ReplicatedVolume.Scheduling.Pipeline

/-!
# What the pipeline selects

The stages of the pipeline amount to one filter, one score and one minimum. A replica that has a
node keeps it unless the zones are preferred for having few replicas, where it counts against
its own zone.
-/

namespace ReplicatedVolume.Scheduling
open List

section Join
variable {entries : List CandidateEntry} {scored : List ScoredLVG}

/-- The entry with a positive score that the extender gave to its volume group. -/
def scoredBy (scored : List ScoredLVG) (e : CandidateEntry) : Option CandidateEntry :=
  (scored.find? (·.key = e.key)).bind fun s =>
    if 0 < s.score then some { e with score := s.score } else none

theorem scoredBy_cons_ne {e : CandidateEntry} {s : ScoredLVG} (h : e.key ≠ s.key) :
    scoredBy (s :: scored) e = scoredBy scored e := by
  simp [scoredBy, h.symm]

theorem filterMap_scoredBy_above {s : ScoredLVG} (h : ∀ e ∈ entries, s.key < e.key) :
    entries.filterMap (scoredBy (s :: scored)) = entries.filterMap (scoredBy scored) :=
  filterMap_congr fun e he => scoredBy_cons_ne (h e he).ne'

theorem filterMap_scoredBy_below (h : ∀ e ∈ entries, ∀ s ∈ scored, e.key < s.key) :
    entries.filterMap (scoredBy scored) = [] := by
  refine filterMap_eq_nil_iff.mpr fun e he => ?_
  have hnone : scored.find? (·.key = e.key) = none :=
    List.find?_eq_none.mpr fun s hs => by simpa using (h e he s hs).ne'
  rw [scoredBy, hnone, Option.bind_none]

/-- The two cursors meet exactly at the entries that have a score. -/
theorem joinScores_eq (hentries : entries.Pairwise (·.key < ·.key))
    (hscored : scored.Pairwise (·.key < ·.key)) :
    joinScores entries scored = entries.filterMap (scoredBy scored) := by
  induction scored generalizing entries with
  | nil => rw [joinScores, filterMap_scoredBy_below (by simp)]
  | cons s scored ih =>
    obtain ⟨hs, hscored⟩ := pairwise_cons.mp hscored
    -- the entries that the inner loop passes have no score
    have hpassed : (entries.takeWhile (·.key < s.key)).filterMap (scoredBy (s :: scored)) = [] := by
      refine filterMap_scoredBy_below fun e he s' hs' => ?_
      have hlt : e.key < s.key := by simpa using mem_takeWhile_imp he
      rcases mem_cons.mp hs' with rfl | hs'
      · exact hlt
      · exact hlt.trans (hs s' hs')
    have hsplit := takeWhile_append_dropWhile (p := fun e => decide (e.key < s.key)) (l := entries)
    have hrest := hentries.sublist (dropWhile_sublist fun e => decide (e.key < s.key))
    rw [← hsplit, filterMap_append, hpassed, nil_append, hsplit, joinScores]
    cases hdrop : entries.dropWhile (·.key < s.key) with
    | nil => exact ih List.Pairwise.nil hscored
    | cons e rest =>
      rw [hdrop] at hrest
      have hge : ¬e.key < s.key := by
        have hhead := List.head?_dropWhile_not (fun e => decide (e.key < s.key)) entries
        rw [hdrop] at hhead
        simpa using hhead
      obtain ⟨he, hrest'⟩ := pairwise_cons.mp hrest
      by_cases hkey : e.key = s.key
      · have habove : ∀ e' ∈ rest, s.key < e'.key := fun e' he' => hkey ▸ he e' he'
        rw [filterMap_cons, filterMap_scoredBy_above habove, ← ih hrest' hscored]
        by_cases hpos : 0 < s.score <;> simp [scoredBy, hkey, hpos]
      · have hlt : s.key < e.key := lt_of_le_of_ne (not_lt.mp hge) (Ne.symm hkey)
        have habove : ∀ e' ∈ e :: rest, s.key < e'.key := by
          intro e' he'
          rcases mem_cons.mp he' with rfl | he'
          · exact hlt
          · exact hlt.trans (he e' he')
        simp only [if_neg hkey]
        rw [filterMap_scoredBy_above habove, ih hrest hscored]

theorem pairwise_key_lt {α : Type} {key : α → LVGKey} {l : List α} (h : (l.map key).Nodup) :
    (l.insertionSort (key · ≤ key ·)).Pairwise (key · < key ·) := by
  have hsorted := pairwise_insertionSort (fun a b => key a ≤ key b) l
  have hne : (l.insertionSort (key · ≤ key ·)).Pairwise (key · ≠ key ·) :=
    pairwise_map.mp (((perm_insertionSort _ l).map key).nodup_iff.mpr h)
  exact hsorted.imp₂ (fun _ _ hle hne => lt_of_le_of_ne hle hne) hne

/-- The answers may come in any order. -/
theorem scoredBy_perm {scored' : List ScoredLVG} (hperm : scored'.Perm scored)
    (h : (scored.map (·.key)).Nodup) : scoredBy scored' = scoredBy scored := by
  have h' : (scored'.map (·.key)).Nodup := (hperm.map _).nodup_iff.mpr h
  funext e
  have hfind : scored'.find? (·.key = e.key) = scored.find? (·.key = e.key) := by
    refine Option.ext fun s => ?_
    rw [Keyed.find?_eq_some h', Keyed.find?_eq_some h, hperm.mem_iff]
  rw [scoredBy, hfind, scoredBy]

end Join

section Groups
variable {keyFn : CandidateEntry → String} {scoreFn : List CandidateEntry → ℤ}

def groupScore (keyFn : CandidateEntry → String) (scoreFn : List CandidateEntry → ℤ)
    (all : List CandidateEntry) (e : CandidateEntry) : ℤ :=
  scoreFn (all.filter (keyFn · = keyFn e))

/-- A scoring looks at nodes, not at the scores that an earlier stage changed. -/
structure ScoreFree (keyFn : CandidateEntry → String) (scoreFn : List CandidateEntry → ℤ) :
    Prop where
  key : ∀ n e, keyFn (CandidateEntry.bump n e) = keyFn e
  score : ∀ (f : CandidateEntry → ℤ) es, scoreFn (es.map fun e => e.bump (f e)) = scoreFn es

theorem ScoreFree.groupScore_map (h : ScoreFree keyFn scoreFn) (f : CandidateEntry → ℤ) (n : ℤ)
    (all : List CandidateEntry) (e : CandidateEntry) :
    groupScore keyFn scoreFn (all.map fun e => e.bump (f e)) (e.bump n) =
      groupScore keyFn scoreFn all e := by
  have hcomp : ((fun e' => decide (keyFn e' = keyFn e)) ∘ fun e => e.bump (f e)) =
      fun e' => decide (keyFn e' = keyFn e) := by
    funext e'
    simp [h.key]
  rw [groupScore, h.key, filter_map, hcomp, h.score, groupScore]

theorem bump_bump (m n : ℤ) (e : CandidateEntry) : (e.bump m).bump n = e.bump (m + n) := by
  simp [CandidateEntry.bump, add_assoc]

theorem bump_zero (e : CandidateEntry) : e.bump 0 = e := by simp [CandidateEntry.bump]

/-- Every entry is in one group, so it is scored once. -/
theorem foldl_scoreGroup (h : ScoreFree keyFn scoreFn) {keys : List String} (hkeys : keys.Nodup)
    (all : List CandidateEntry) :
    keys.foldl (scoreGroup keyFn scoreFn) all = all.map fun e =>
      e.bump (if keyFn e ∈ keys then groupScore keyFn scoreFn all e else 0) := by
  induction keys generalizing all with
  | nil => simp [bump_zero]
  | cons key keys ih =>
    obtain ⟨hnot, hkeys⟩ := nodup_cons.mp hkeys
    have hstep : scoreGroup keyFn scoreFn all key = all.map fun e =>
        e.bump (if keyFn e = key then groupScore keyFn scoreFn all e else 0) := by
      refine map_congr_left fun e _ => ?_
      split
      · rename_i hkey
        rw [groupScore, hkey]
      · rw [bump_zero]
    rw [foldl_cons, ih hkeys, hstep, map_map]
    refine map_congr_left fun e _ => ?_
    simp only [Function.comp_apply, h.groupScore_map, h.key, bump_bump, mem_cons]
    by_cases hkey : keyFn e = key
    · simp [hkey, hnot]
    · simp [hkey]

theorem seq_withGroupScore (h : ScoreFree keyFn scoreFn) (c : Prop) [Decidable c] {p : Pipeline}
    {left : List CandidateEntry} {a : CandidateEntry → ℤ}
    (hp : p.seq = left.map fun e => e.bump (a e)) :
    (if c then withGroupScore p keyFn scoreFn else p).seq = left.map fun e =>
      e.bump (a e + if c then groupScore keyFn scoreFn left e else 0) := by
  split
  · have hseq : (withGroupScore p keyFn scoreFn).seq =
        (groupKeys keyFn p.seq).foldl (scoreGroup keyFn scoreFn) p.seq := by
      simp [withGroupScore, Pipeline.seq]
    have hscored : (withGroupScore p keyFn scoreFn).seq = p.seq.map fun e =>
        e.bump (groupScore keyFn scoreFn p.seq e) := by
      rw [hseq, groupKeys, foldl_scoreGroup h (nodup_reverse.mpr (nodup_dedup _))]
      refine map_congr_left fun e he => ?_
      rw [if_pos (by simpa using ⟨e, he, rfl⟩)]
    rw [hscored, hp, map_map]
    refine map_congr_left fun e _ => ?_
    rw [Function.comp_apply, h.groupScore_map, bump_bump]
  · simpa using hp

end Groups

/-- The order of the selection: higher scores, then smaller node and volume group names. -/
def rank (e : CandidateEntry) : ℤ ×ₗ String ×ₗ String :=
  toLex (-e.score, toLex (e.node.nodeName, e.lvgName))

theorem isBetter_iff {a b : CandidateEntry} : isBetter a b = true ↔ rank a < rank b := by
  simp only [isBetter, rank, Prod.Lex.toLex_lt_toLex, neg_lt_neg_iff, neg_inj]
  split
  · rename_i hscore
    simp [hscore]
  · rename_i hscore
    split
    · rename_i hname
      simp_all
    · simp_all

theorem selectBest_eq_argmin (p : Pipeline) : selectBest p = p.seq.argmin rank := by
  unfold selectBest List.argmin
  congr 1
  funext best e
  cases best with
  | none => rfl
  | some b => simp only [List.argAux, isBetter_iff]

/-- A higher score beats, then a smaller node name, then a smaller volume group name. -/
def Beats (a b : CandidateEntry) : Prop :=
  b.score < a.score ∨ a.score = b.score ∧ (a.node.nodeName < b.node.nodeName ∨
    a.node.nodeName = b.node.nodeName ∧ a.lvgName < b.lvgName)

theorem beats_iff {a b : CandidateEntry} : Beats a b ↔ rank a < rank b := by
  simp [Beats, rank, Prod.Lex.toLex_lt_toLex]

section Meaning
variable (sctx : SchedulingContext) (rvr : ReplicaSpec)

def Admitted (e : CandidateEntry) : Bool :=
  nodeIsReady e && lvgIsReady e && nodeIsOpen sctx rvr e && zoneIsOpen sctx rvr e

def admitted : List CandidateEntry :=
  (takeLVGsFromEligibleNodes sctx.eligibleNodes).filter (Admitted sctx rvr)

/-- The terms of the score, given the candidates that are left with a positive score. -/
def totalScore (left : List CandidateEntry) (e : CandidateEntry) : ℤ :=
  e.score + (if e.node.nodeName ∈ sctx.attachToNodes then 1000 else 0) +
    (if sctx.volumeAccess ≠ .any ∧ 1 < left.countP (·.node.nodeName = e.node.nodeName) then 2
      else 0) -
    (if sctx.topology = .zonal ∧ ((left.filter (·.node.zoneName = e.node.zoneName)).map
      (·.node.nodeName)).toFinset.card < remainingDemand sctx then 800 else 0)

def scoredCandidates (scored : List ScoredLVG) : List CandidateEntry :=
  let left := (admitted sctx rvr).filterMap (scoredBy scored)
  left.map fun e => { e with score := totalScore sctx left e }

variable {sctx rvr}

theorem seq_admittedPipeline (hdiskful : rvr.type = .diskful) :
    (admittedPipeline sctx rvr).seq = admitted sctx rvr := by
  rw [admitted, ← filterMap_eq_filter]
  simp only [admittedPipeline, hdiskful, if_true, withPredicate, Pipeline.seq]
  refine filterMap_congr fun e _ => ?_
  cases hn : nodeIsReady e <;> cases hl : lvgIsReady e <;> cases ho : nodeIsOpen sctx rvr e <;>
    cases hz : zoneIsOpen sctx rvr e <;> simp [Option.guard, Admitted, hn, hl, ho, hz]

theorem multiLVGBonus_scoreFree : ScoreFree (·.node.nodeName) multiLVGBonus where
  key _ _ := rfl
  score f es := by simp [multiLVGBonus]

theorem zonePenalty_scoreFree (sctx : SchedulingContext) :
    ScoreFree (·.node.zoneName) (zonePenalty sctx) where
  key _ _ := rfl
  score f es := by simp [zonePenalty, CandidateEntry.bump, Function.comp_def]

theorem seq_adjustScores (left : List CandidateEntry) :
    (adjustScores sctx ⟨left, []⟩).seq =
      left.map fun e => { e with score := totalScore sctx left e } := by
  -- the predicate with the bonus is applied by the one iteration that follows it
  have hattach : (if sctx.attachToNodes ≠ [] then
      withPredicate ⟨left, []⟩ (some ∘ attachBonus sctx) else ⟨left, []⟩ : Pipeline).seq =
        left.map fun e => e.bump (if e.node.nodeName ∈ sctx.attachToNodes then 1000 else 0) := by
    split
    · rw [← filterMap_eq_map]
      refine filterMap_congr fun e _ => ?_
      simp only [nil_append, foldlM_cons, foldlM_nil, Function.comp_apply,
        attachBonus, withPredicate]
      split <;> simp [bump_zero]
    · rename_i hnil
      simp [Pipeline.seq, not_not.mp hnil, bump_zero]
  have hnode := seq_withGroupScore multiLVGBonus_scoreFree (sctx.volumeAccess ≠ .any) hattach
  have hzone := seq_withGroupScore (zonePenalty_scoreFree sctx)
    (sctx.topology = .zonal ∧ 0 < remainingDemand sctx) hnode
  rw [adjustScores]
  refine hzone.trans (map_congr_left fun e _ => ?_)
  simp only [CandidateEntry.bump, groupScore, multiLVGBonus, zonePenalty, totalScore,
    countP_eq_length_filter]
  congr 1
  split_ifs <;> grind

theorem scoredCandidates_perm {left left' : List CandidateEntry} (h : left.Perm left') :
    (left.map fun e => { e with score := totalScore sctx left e }).Perm
      (left'.map fun e => { e with score := totalScore sctx left' e }) := by
  have htotal : totalScore sctx left = totalScore sctx left' := by
    funext e
    unfold totalScore
    rw [h.countP_eq, toFinset_eq_of_perm _ _ ((h.filter _).map _)]
  rw [htotal]
  exact h.map _

theorem lvg_isSome_of_mem {nodes : List EligibleNode} {e : CandidateEntry}
    (h : e ∈ takeLVGsFromEligibleNodes nodes) : ∃ node ∈ nodes, ∃ lvg ∈ node.lvmVolumeGroups,
      e = ⟨node, some lvg, 0⟩ := by
  simp only [takeLVGsFromEligibleNodes, mem_flatMap, mem_map] at h
  obtain ⟨node, hnode, lvg, hlvg, rfl⟩ := h
  exact ⟨node, hnode, lvg, hlvg, rfl⟩

variable {ext : Extender} {scored : List ScoredLVG} (hdiskful : rvr.type = .diskful)
  (hkeys : ((takeLVGsFromEligibleNodes sctx.eligibleNodes).map (·.key)).Nodup)
  (hanswer : ext.filterAndScore ((admitted sctx rvr).map (·.key)) = some scored)
  (hscored : (scored.map (·.key)).Nodup)
include hdiskful hkeys hanswer hscored

theorem filteredAndScored_spec :
    ∃ left, filteredAndScored (admittedPipeline sctx rvr) ext = some ⟨left, []⟩ ∧
      left.Perm ((admitted sctx rvr).filterMap (scoredBy scored)) := by
  have hqueries : (admitted sctx rvr).filterMap (fun e => e.lvg.map fun _ => e.key) =
      (admitted sctx rvr).map (·.key) := by
    rw [← filterMap_eq_map]
    refine filterMap_congr fun e he => ?_
    obtain ⟨node, -, lvg, -, rfl⟩ := lvg_isSome_of_mem (mem_filter.mp he).1
    rfl
  have hadmitted : ((admitted sctx rvr).map (·.key)).Nodup := hkeys.sublist (filter_sublist.map _)
  rw [filteredAndScored, seq_admittedPipeline hdiskful, hqueries]
  by_cases hnil : admitted sctx rvr = []
  · exact ⟨[], by simp [hnil]⟩
  · have hperm := perm_insertionSort (fun a b : ScoredLVG => a.key ≤ b.key) scored
    refine ⟨_, by simp only [map_eq_nil_iff, if_neg hnil, hanswer, Option.map_some]; rfl, ?_⟩
    rw [joinScores_eq (pairwise_key_lt hadmitted) (pairwise_key_lt hscored),
      scoredBy_perm hperm hscored]
    exact (perm_insertionSort _ _).filterMap _

/-- One candidate among those left is a minimum of the order, and it is asked for. -/
theorem reconcileOne_cases :
    scoredCandidates sctx rvr scored = [] ∧
        reconcileOneRVRScheduling ext sctx rvr = .schedulingFailed ∨
      ∃ best ∈ scoredCandidates sctx rvr scored,
        (∀ c ∈ scoredCandidates sctx rvr scored, ¬rank c < rank best) ∧
        reconcileOneRVRScheduling ext sctx rvr =
          if ext.narrowReservation best.key then .placed best else unconfirmed := by
  obtain ⟨left, hleft, hperm⟩ := filteredAndScored_spec hdiskful hkeys hanswer hscored
  have hcandidates : (adjustScores sctx ⟨left, []⟩).seq.Perm (scoredCandidates sctx rvr scored) := by
    rw [seq_adjustScores]
    exact scoredCandidates_perm hperm
  rw [reconcileOneRVRScheduling, if_pos hdiskful, hleft]
  simp only [selectBest_eq_argmin]
  cases hbest : (adjustScores sctx ⟨left, []⟩).seq.argmin rank with
  | none =>
    rw [argmin_eq_none] at hbest
    rw [hbest] at hcandidates
    exact .inl ⟨hcandidates.nil_eq.symm, rfl⟩
  | some best =>
    refine .inr ⟨best, hcandidates.mem_iff.mp (argmin_mem hbest), fun c hc => ?_, rfl⟩
    exact not_lt_of_mem_argmin (hcandidates.mem_iff.mpr hc) hbest

/-- Nothing is dropped, kept twice or scored twice on the way to the selection. -/
theorem placement_is_best :
    scoredCandidates sctx rvr scored = [] ∧
        reconcileOneRVRScheduling ext sctx rvr = .schedulingFailed ∨
      ∃ best ∈ scoredCandidates sctx rvr scored,
        (∀ c ∈ scoredCandidates sctx rvr scored, ¬Beats c best) ∧
        reconcileOneRVRScheduling ext sctx rvr =
          if ext.narrowReservation best.key then .placed best else unconfirmed := by
  simp only [beats_iff]
  exact reconcileOne_cases hdiskful hkeys hanswer hscored

end Meaning

def readyNode (nodeName zoneName : String) (lvgs : List String) : EligibleNode :=
  ⟨nodeName, zoneName, lvgs.map fun name => ⟨name, "", false, true⟩, false, true, true⟩

def newReplica : ReplicaSpec := ⟨0, .diskful, "", "", ""⟩

def openContext : SchedulingContext :=
  computeSchedulingContext ⟨"pool", .zonal, 0, 1, .eventuallyLocal⟩ .lvm
    [readyNode "b" "z" ["vg-b"], readyNode "a" "z" ["vg-a1", "vg-a0"]] [newReplica] ["b"]

/-- One volume group is left out of the answer, and one in it is unknown. -/
def someScores : List ScoredLVG :=
  [⟨toLex ("vg-b", ""), 5⟩, ⟨toLex ("vg-x", ""), 9⟩, ⟨toLex ("vg-a0", ""), 7⟩]

theorem placement_is_best_open :
    ∃ best ∈ scoredCandidates openContext newReplica someScores,
      (∀ c ∈ scoredCandidates openContext newReplica someScores, ¬Beats c best) ∧
      reconcileOneRVRScheduling ⟨fun _ => some someScores, fun _ => true⟩ openContext newReplica =
        if true then .placed best else unconfirmed :=
  (placement_is_best rfl (by decide +kernel) rfl (by decide +kernel)).resolve_left fun h =>
    absurd h.1 (by decide +kernel)

end ReplicatedVolume.Scheduling
