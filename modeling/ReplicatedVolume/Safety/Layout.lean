import ReplicatedVolume.Datamesh.Layout
import ReplicatedVolume.Mesh.Contexts
import ReplicatedVolume.Safety.Quorum

/-!
# The effective layout of the members written back

The layout should count the members that the cycle has just written back. It
reads them through pointers into the list as it was before, whose places the
write-back has filled anew.
-/

namespace ReplicatedVolume.Datamesh
open Dmte Option

inductive LayoutClass where
  | voter | tieBreaker | other
  deriving DecidableEq

def layoutClass (type : MemberType) : LayoutClass :=
  if type.isVoter then .voter else if type = .tieBreaker then .tieBreaker else .other

theorem layoutClass_voter (type : MemberType) :
    layoutClass type = .voter ↔ type.isVoter = true := by
  cases type <;> decide

theorem layoutClass_tieBreaker (type : MemberType) :
    layoutClass type = .tieBreaker ↔ type = .tieBreaker := by
  cases type <;> decide

def layoutFor (q qmr : ℕ) (type : ReplicaID → Option MemberType) (rvrs : List RVR) :
    EffectiveLayout :=
  layoutOf q qmr (classify type (rvrOf rvrs))

def Status.layout (st : Status) (rvrs : List RVR) : EffectiveLayout :=
  layoutFor st.quorum st.quorumMinimumRedundancy
    (fun id => (memberOf st.members id).map (·.type)) rvrs

def pointedLayout (written : List DatameshMember) (g : GlobalContext) (rvrs : List RVR) :
    EffectiveLayout :=
  layoutFor g.quorum g.quorumMinimumRedundancy
    (fun id => (pointedMember written g id).map (·.type)) rvrs

def EffectiveLayout.figures (el : EffectiveLayout) : List ℤ × Option ℤ × Option ℤ :=
  ([el.totalVoters, el.reachableVoters, el.upToDateVoters, el.totalTieBreakers,
    el.reachableTieBreakers], el.failuresToTolerate, el.guaranteedMinimumDataRedundancy)

/-- The write-back keeps the surviving members in their order and appends the added ones, so the
place of a member may hold one of another class. -/
def Displaced (written : List DatameshMember) (g : GlobalContext) (id : ReplicaID) : Prop :=
  ∃ m i m', g.member id = some m ∧ (g.replicas id).memberIdx = some i ∧ written[i]? = some m' ∧
    layoutClass m'.type ≠ layoutClass m.type

instance (written : List DatameshMember) (g : GlobalContext) (id : ReplicaID) :
    Decidable (Displaced written g id) :=
  decidable_of_iff
    (((g.member id).any fun m => ((g.replicas id).memberIdx.bind (written[·]?)).any fun m' =>
      layoutClass m'.type ≠ layoutClass m.type) = true)
    (by
      simp only [Displaced, any_eq_true, bind_eq_some_iff, decide_eq_true_eq]
      constructor
      · rintro ⟨m, hm, m', ⟨i, hi, hw⟩, hne⟩
        exact ⟨m, i, m', hm, hi, hw, hne⟩
      · rintro ⟨m, i, m', hm, hi, hw, hne⟩
        exact ⟨m, hm, m', ⟨i, hi, hw⟩, hne⟩)

section
variable {type type' : ReplicaID → Option MemberType} {rvr : ReplicaID → Option RVR}

theorem any_isVoter_eq (x : Option MemberType) :
    x.any (·.isVoter) = decide (x.map layoutClass = some .voter) := by
  cases x with
  | none => rfl
  | some t => simp [layoutClass_voter]

theorem eq_tieBreaker_iff (x : Option MemberType) :
    x = some .tieBreaker ↔ x.map layoutClass = some .tieBreaker := by
  cases x with
  | none => simp
  | some t => simp [layoutClass_tieBreaker]

theorem classify_congr
    (h : ∀ id, (rvr id).isSome = true → (type id).map layoutClass = (type' id).map layoutClass) :
    classify type rvr = classify type' rvr := by
  have hvoters : (fun id => (type id).any (·.isVoter) && (rvr id).isSome) =
      fun id => (type' id).any (·.isVoter) && (rvr id).isSome := by
    funext id
    cases hrvr : (rvr id).isSome with
    | false => simp
    | true => rw [any_isVoter_eq, any_isVoter_eq, h id hrvr]
  have htbs : (fun id => decide (type id = some .tieBreaker) && (rvr id).isSome) =
      fun id => decide (type' id = some .tieBreaker) && (rvr id).isSome := by
    funext id
    cases hrvr : (rvr id).isSome with
    | false => simp
    | true =>
      have hiff : type id = some .tieBreaker ↔ type' id = some .tieBreaker := by
        rw [eq_tieBreaker_iff (type id), eq_tieBreaker_iff (type' id), h id hrvr]
      simp only [hiff]
  unfold classify
  simp only [hvoters, htbs]

end

theorem countOf_singleton (id : ReplicaID) : countOf {id} = 1 := by
  unfold countOf
  rw [Finset.card_singleton]
  rfl

theorem countOf_empty : countOf ∅ = 0 := by
  unfold countOf
  rw [Finset.card_empty]
  rfl

section
variable (q qmr : ℕ) (type : ReplicaID → Option MemberType) (rvrs : List RVR)

theorem layoutFor_totalVoters : (layoutFor q qmr type rvrs).totalVoters =
    countOf (idsWhere fun id => (type id).any (·.isVoter) && (rvrOf rvrs id).isSome) := by
  unfold layoutFor layoutOf classify
  dsimp only

theorem layoutFor_totalTieBreakers : (layoutFor q qmr type rvrs).totalTieBreakers =
    countOf (idsWhere fun id => type id = some .tieBreaker && (rvrOf rvrs id).isSome) := by
  unfold layoutFor layoutOf classify
  dsimp only

end

theorem totals_of_report (q qmr : ℕ) (type : ReplicaID → Option MemberType) (report : RVR) :
    (layoutFor q qmr type [report]).totalVoters =
        (if (type report.id).map layoutClass = some .voter then 1 else 0) ∧
      (layoutFor q qmr type [report]).totalTieBreakers =
        (if (type report.id).map layoutClass = some .tieBreaker then 1 else 0) := by
  have hrvr : ∀ id, (rvrOf [report] id).isSome = decide (report.id = id) := by
    intro id
    by_cases h : report.id = id <;> simp [rvrOf, h]
  have hcount : ∀ p : ReplicaID → Bool,
      countOf (idsWhere fun id => p id && (rvrOf [report] id).isSome) =
        if p report.id = true then 1 else 0 := by
    intro p
    have hset : (idsWhere fun id => p id && (rvrOf [report] id).isSome) =
        if p report.id = true then {report.id} else ∅ := by
      ext id
      rw [mem_idsWhere, hrvr, Bool.and_eq_true, decide_eq_true_eq]
      split
      · next hp =>
          rw [Finset.mem_singleton]
          exact ⟨fun h => h.2.symm, fun h => ⟨h ▸ hp, h.symm⟩⟩
      · next hp =>
          simp only [Finset.notMem_empty, iff_false]
          rintro ⟨h, rfl⟩
          exact hp h
    rw [hset]
    split
    · exact countOf_singleton _
    · exact countOf_empty
  constructor
  · rw [layoutFor_totalVoters, hcount fun id => (type id).any (·.isVoter)]
    simp only [any_isVoter_eq, decide_eq_true_eq]
  · rw [layoutFor_totalTieBreakers, hcount fun id => decide (type id = some .tieBreaker)]
    simp only [decide_eq_true_eq, eq_tieBreaker_iff]

theorem class_of_totals {q qmr : ℕ} {type type' : ReplicaID → Option MemberType} {report : RVR}
    {t t' : MemberType} (ht : type report.id = some t) (ht' : type' report.id = some t')
    (h : (layoutFor q qmr type [report]).figures = (layoutFor q qmr type' [report]).figures) :
    layoutClass t = layoutClass t' := by
  obtain ⟨hvoters, htbs⟩ := totals_of_report q qmr type report
  obtain ⟨hvoters', htbs'⟩ := totals_of_report q qmr type' report
  rw [ht, map_some] at hvoters htbs
  rw [ht', map_some] at hvoters' htbs'
  simp only [EffectiveLayout.figures, Prod.mk.injEq, List.cons.injEq] at h
  obtain ⟨⟨hv, -, -, htb, -⟩, -⟩ := h
  rw [hvoters, hvoters'] at hv
  rw [htbs, htbs'] at htb
  generalize layoutClass t = a at hv htb ⊢
  generalize layoutClass t' = b at hv htb ⊢
  revert hv htb
  cases a <;> cases b <;> simp

theorem pointedMember_class_iff {written : List DatameshMember} {g : GlobalContext}
    {id : ReplicaID} :
    ((pointedMember written g id).map (·.type)).map layoutClass =
      ((g.member id).map (·.type)).map layoutClass ↔ ¬Displaced written g id := by
  cases hm : g.member id with
  | none =>
    simp only [pointedMember, hm, map_none, true_iff]
    rintro ⟨m, i, m', hm', -⟩
    cases hm.symm.trans hm'
  | some m =>
    simp only [pointedMember, hm, map_some, some.injEq]
    cases hi : (g.replicas id).memberIdx with
    | none =>
      simp only [bind_none, getD_none, true_iff]
      rintro ⟨_, i, _, -, hi', -⟩
      cases hi.symm.trans hi'
    | some i =>
      cases hw : written[i]? with
      | none =>
        simp only [bind_some, hw, getD_none, true_iff]
        rintro ⟨_, i', m', -, hi', hw', -⟩
        rw [hi] at hi'
        cases hi'
        cases hw.symm.trans hw'
      | some m' =>
        simp only [bind_some, hw, getD_some]
        constructor
        · rintro hclass ⟨m1, i', m2, hm1, hi', hw', hne⟩
          rw [hi] at hi'
          cases hi'
          cases hm.symm.trans hm1
          cases hw.symm.trans hw'
          exact hne hclass
        · intro hnot
          by_contra hne
          exact hnot ⟨m, i, m', hm, hi, hw, hne⟩

section
variable {obs : Observation} {st : Status} {e : Engine GlobalContext} {changed : Bool}

theorem finishCycle_types (h : Finished obs st e changed) (zones : Bool) (id : ReplicaID) :
    (memberOf (finishCycle obs st e changed zones).status.members id).map (·.type) =
      (e.global.member id).map (·.type) := by
  have hcontent : (finishCycle obs st e changed zones).status.content = e.global.content :=
    finishCycle_content h.anchored h.quiet
  have hseat := congrArg (fun c => (c.seats id).map Seat.type) hcontent
  simp only [Status.content, GlobalContext.content, map_map] at hseat
  exact hseat

theorem finishCycle_layout (h : Finished obs st e changed) (zones : Bool) (rvrs : List RVR) :
    (finishCycle obs st e changed zones).status.layout rvrs =
      layoutFor e.global.quorum e.global.quorumMinimumRedundancy
        (fun id => (e.global.member id).map (·.type)) rvrs := by
  have hcontent : (finishCycle obs st e changed zones).status.content = e.global.content :=
    finishCycle_content h.anchored h.quiet
  have hq := congrArg Content.quorum hcontent
  have hqmr := congrArg Content.quorumMinimumRedundancy hcontent
  have htypes := funext (finishCycle_types h zones)
  simp only [Status.content, GlobalContext.content] at hq hqmr
  unfold Status.layout
  rw [hq, hqmr, htypes]

theorem pointedLayout_eq {written : List DatameshMember} {rvrs : List RVR}
    (h : ∀ id, (rvrOf rvrs id).isSome = true → ¬Displaced written e.global id) :
    pointedLayout written e.global rvrs =
      layoutFor e.global.quorum e.global.quorumMinimumRedundancy
        (fun id => (e.global.member id).map (·.type)) rvrs := by
  unfold pointedLayout layoutFor
  rw [classify_congr fun id hid => pointedMember_class_iff.mpr (h id hid)]

end

/-- Whatever the replicas report, the layout of a cycle describes the members it
wrote back, exactly when no member that kept its place in the old list has its
place taken by one of another class; and for the reports of the cycle itself it
does so when this holds of the members with an object. -/
theorem layout_describes_written_iff {obs : Observation} {st : Status} {el : EffectiveLayout}
    {v : VolumeResult} (h : processVolume obs st el = some v) :
    ∃ e changed, process domain (startCycle obs st).1 = some (e, changed) ∧
      v.layout = pointedLayout v.cycle.status.members e.global obs.rvrs ∧
      ((∀ rvrs, (pointedLayout v.cycle.status.members e.global rvrs).figures =
          (v.cycle.status.layout rvrs).figures) ↔
        ∀ id, ¬Displaced v.cycle.status.members e.global id) ∧
      ((∀ id, (rvrOf obs.rvrs id).isSome = true → ¬Displaced v.cycle.status.members e.global id) →
        v.layout = v.cycle.status.layout obs.rvrs) := by
  unfold processVolume at h
  split at h
  · simp only [bind_eq_bind, bind_eq_some_iff, some.injEq, Prod.exists] at h
    obtain ⟨e, changed, hprocess, rfl⟩ := h
    have hfinished : Finished obs st e changed := process_finished hprocess
    have hlayout : ∀ written, (updateEffectiveLayout written e.global el).1 =
        pointedLayout written e.global obs.rvrs := by
      intro written
      unfold updateEffectiveLayout pointedLayout layoutFor
      rw [funext hfinished.rvr]
    refine ⟨e, changed, hprocess, hlayout _, ⟨fun hall id hdisplaced => ?_, fun hnone rvrs => ?_⟩,
      fun hnone => ?_⟩
    · -- One object alone makes the totals wrong.
      obtain ⟨m, i, m', hm, hi, hw, hne⟩ := hdisplaced
      have hone := hall [plainReplica id .diskful 0]
      rw [finishCycle_layout hfinished] at hone
      refine hne (class_of_totals ?_ ?_ hone)
      · change (pointedMember _ e.global id).map (·.type) = some m'.type
        simp only [pointedMember, hm, hi, map_some, bind_some, hw, getD_some]
      · change (e.global.member id).map (·.type) = some m.type
        rw [hm]
        rfl
    · rw [finishCycle_layout hfinished, pointedLayout_eq fun id _ => hnone id]
    · rw [hlayout, finishCycle_layout hfinished]
      exact pointedLayout_eq hnone
  · cases h

def mixedMembers (ids : List ReplicaID) (types : List MemberType) : Status :=
  ⟨List.zipWith plainMember ids types, 1, 1, false, [], 0, 5, 0, []⟩

def accessLeaves : Observation :=
  plainObservation [plainReplica 0 .access 5, plainReplica 1 .diskful 5,
    plainReplica 2 .tieBreaker 5] [plainRequest 0 .leave]

/-- With the leaving member at the end of the list nobody is displaced. -/
theorem layout_describes_last_leaver :
    ∃ v, processVolume accessLeaves
        (mixedMembers [1, 2, 0] [.diskful, .tieBreaker, .access]) .zero = some v ∧
      v.layout = v.cycle.status.layout accessLeaves.rvrs ∧ v.layout.totalVoters = 1 := by
  have hrun : (processVolume accessLeaves
      (mixedMembers [1, 2, 0] [.diskful, .tieBreaker, .access]) .zero).any (fun v =>
        (process domain (startCycle accessLeaves
          (mixedMembers [1, 2, 0] [.diskful, .tieBreaker, .access])).1).any fun x =>
            decide ((∀ id, ¬Displaced v.cycle.status.members x.1.global id) ∧
              v.layout.totalVoters = 1)) = true := by
    decide +kernel
  obtain ⟨v, hv, hrun⟩ := (any_eq_true _ _).mp hrun
  obtain ⟨x, hx, hnone, htotal⟩ := exists_of_decide hrun
  obtain ⟨e, changed, hprocess, -, -, hdescribes⟩ := layout_describes_written_iff hv
  obtain rfl : x = (e, changed) := some.inj (hx.symm.trans hprocess)
  exact ⟨v, hv, hdescribes fun id _ => hnone id, htotal⟩

/-- The diskful member is read where the tie-breaker now is: no voter is counted
for a status that has one. -/
theorem layout_loses_voter :
    ∃ v, processVolume accessLeaves
        (mixedMembers [0, 1, 2] [.access, .diskful, .tieBreaker]) .zero = some v ∧
      v.cycle.status.members.map (fun m => (m.id, m.type)) = [(1, .diskful), (2, .tieBreaker)] ∧
      v.layout.totalVoters = 0 ∧ (v.cycle.status.layout accessLeaves.rvrs).totalVoters = 1 ∧
      v.layout.failuresToTolerate = none ∧
      (v.cycle.status.layout accessLeaves.rvrs).failuresToTolerate = some 0 := by
  exact exists_of_decide (by decide +kernel)

end ReplicatedVolume.Datamesh
