import ReplicatedVolume.Datamesh.Sizes
import ReplicatedVolume.Mesh.Course
import ReplicatedVolume.Safety.Exclusion

/-!
# The published size

The size of the datamesh is written at the creation of a resize, and only to a larger value for
which every reporting disk has room. This is so for sizes whose lower volume is a positive number
of 64 bits; beyond, the guard compares the disks with a negative number and passes.
-/

namespace ReplicatedVolume.Datamesh
open Dmte List Option

variable {g : GlobalContext} {e e' : Engine GlobalContext} {rctx : Option Ref} {as : List Apply}
  {o : Observation} {x : Option ReplicaID} {ev : Event GlobalContext} {r : CycleResult}
  {spec : PlanSpec} {st : Status} {t : Transition}

section
variable {g g' : GlobalContext} {rctx : Option Ref} {c : Bool}

theorem apply_sizes {a : Apply} (h : a.run g rctx = some (g', c)) :
    g'.datameshSize = (if a = .applyResizeVolume then alignTo4Ki g.size else g.datameshSize) ∧
      g'.size = g.size := by
  have hspares := apply_spares h
  have hsize := congrArg GlobalContext.size hspares.masked
  exact ⟨hspares.size, hsize⟩

theorem applies_sizes (h : runApplies as g rctx = some (g', c)) :
    g'.datameshSize = (if .applyResizeVolume ∈ as then alignTo4Ki g.size else g.datameshSize) ∧
      g'.size = g.size := by
  induction as generalizing g c with
  | nil =>
    cases h
    exact ⟨rfl, rfl⟩
  | cons a as ih =>
    obtain ⟨g1, c1, c2, h1, h2, rfl⟩ := runApplies_cons h
    obtain ⟨hfirst, hsize⟩ := apply_sizes h1
    obtain ⟨hrest, hsize'⟩ := ih h2
    refine ⟨?_, hsize'.trans hsize⟩
    rw [hrest, hsize, hfirst]
    by_cases ha : a = .applyResizeVolume
    · subst ha
      simp
    · simp [ha, eq_comm (a := Apply.applyResizeVolume)]

end

theorem sizes_of_bare {g' : GlobalContext} (h : g'.bare = g.bare) :
    g'.datameshSize = g.datameshSize ∧ g'.size = g.size := by
  have hdatamesh := congrArg GlobalContext.datameshSize h
  have hvolume := congrArg GlobalContext.size h
  exact ⟨hdatamesh, hvolume⟩

variable {b : Books}

theorem Works.sizes (h : Works e e' rctx b as) :
    e'.global.datameshSize =
        (if .applyResizeVolume ∈ as then alignTo4Ki e.global.size else e.global.datameshSize) ∧
      e'.global.size = e.global.size := by
  obtain ⟨g, g', c, hstart, -, hrun, hend⟩ := h
  obtain ⟨hwritten, hkept⟩ := applies_sizes hrun
  obtain ⟨hstart1, hstart2⟩ := sizes_of_bare hstart
  obtain ⟨hend1, hend2⟩ := sizes_of_bare hend
  rw [hend1, hend2, hwritten, hkept, hstart1, hstart2]
  exact ⟨rfl, rfl⟩

theorem registry_resize : ∀ spec ∈ registry, ∀ s ∈ spec.steps,
    .applyResizeVolume ∉ s.onComplete ∧
    (.applyResizeVolume ∈ s.apply → spec.transitionType = .resizeVolume ∧
      spec.planID = .resize ∧ spec.scope = .global ∧ spec.group = .resize ∧
      .guardBackingVolumesGrown ∈ spec.guards ∧ spec.steps.length = 1) := by
  decide +kernel

theorem decided_resize {planID : PlanID} (h : Decided domain g (.global .resizeVolume planID)) :
    g.datameshSize < alignTo4Ki g.size := by
  cases decided_reached h with
  | network htype => simp at htype
  | resize hsize => exact hsize

theorem guardBackingVolumesGrown_pass {result : GuardResult}
    (h : guardBackingVolumesGrown g = some result) (hpass : result.blocked = false) :
    ∃ target, lowerVolumeSize (alignTo4Ki g.size) = some target ∧
      ∀ id m rvr, g.member id = some m → m.type.hasBackingVolume = true → g.rvr id = some rvr →
        ∃ lowerSize, rvr.backingVolume.bind (·.size) = some lowerSize ∧ target ≤ lowerSize := by
  simp only [guardBackingVolumesGrown, bind_eq_bind, bind_eq_some_iff, some.injEq] at h
  obtain ⟨target, htarget, rfl⟩ := h
  refine ⟨target, htarget, fun id m rvr hm htype hrvr => ?_⟩
  have hmem : (id, rvr) ∈ diskRVRs g := by
    refine mem_filterMap.mpr ⟨id, mem_finRange id, ?_⟩
    rw [hm, any_some, htype, if_pos rfl, hrvr]
    rfl
  split at hpass
  · next hnone =>
    have hdisk := List.findSome?_eq_none_iff.mp hnone _ hmem
    split at hdisk
    · cases hdisk
    · next lowerSize hsize =>
      split at hdisk
      · cases hdisk
      · next hle => exact ⟨lowerSize, hsize, not_lt.mp hle⟩
  · simp [GuardResult.block] at hpass

theorem Starts.grown
    (h : Starts e spec rctx x g t) (hguard : .guardBackingVolumesGrown ∈ spec.guards) :
    ∃ target, lowerVolumeSize (alignTo4Ki e.global.size) = some target ∧
      ∀ id m rvr, e.global.member id = some m → m.type.hasBackingVolume = true →
        e.global.rvr id = some rvr →
        ∃ lowerSize, rvr.backingVolume.bind (·.size) = some lowerSize ∧ target ≤ lowerSize := by
  obtain ⟨result, hguards, hpass⟩ := h.guards
  obtain ⟨g1, g2, result1, hsilent, hrun, hpass1⟩ := evaluateGuards_pass hguards hpass _ hguard
  simp only [Guard.run, map_eq_some_iff, Prod.mk.injEq] at hrun
  obtain ⟨result2, hrun, rfl, -⟩ := hrun
  have hbare := bare_of_silent hsilent
  have hmatch := matching_of_bare hbare
  have hgrown := guardBackingVolumesGrown_pass hrun hpass1
  rw [(sizes_of_bare hbare).2, hmatch.member, hmatch.rvr] at hgrown
  exact hgrown

/-- The disks that report have room for the new size, and no transition that gives a replica a
disk is live. -/
structure Grown (ev : Event GlobalContext) : Prop where
  room : ∀ id m rvr, ev.before.global.member id = some m → m.type.hasBackingVolume = true →
    ev.before.global.rvr id = some rvr →
      ∃ lowerSize, rvr.backingVolume.bind (·.size) = some lowerSize ∧
        ev.after.global.datameshSize ≤ usableSize lowerSize
  alone : ∀ t ∈ ev.after.active, isDiskGainingTransition t = false

def SizeKept (ev : Event GlobalContext) : Prop :=
  ev.before.global.datameshSize ≤ ev.after.global.datameshSize ∧
    (ev.before.global.datameshSize < ev.after.global.datameshSize → Grown ev)

theorem sizeKept_of_eq
    (h : ev.after.global.datameshSize = ev.before.global.datameshSize) : SizeKept ev :=
  ⟨h.ge, fun hlt => absurd h hlt.ne'⟩

structure Measured (g : GlobalContext) : Prop where
  size : g.size ≤ maxVolumeSize
  disks : ∀ id rvr lowerSize, g.rvr id = some rvr →
    rvr.backingVolume.bind (·.size) = some lowerSize → 4096 ∣ lowerSize ∧ lowerSize < 2 ^ 63

theorem Measured.congr {g' : GlobalContext} (h : Measured g) (hsize : g'.size = g.size)
    (hrvr : g'.rvr = g.rvr) : Measured g' := by
  constructor
  · rw [hsize]
    exact h.size
  · rw [hrvr]
    exact h.disks

def Logged (start : ℤ) (e : Engine GlobalContext) : Prop :=
  start ≤ e.global.datameshSize ∧ (start < e.global.datameshSize → ∃ ev ∈ e.log,
    ev.before.global.datameshSize < ev.after.global.datameshSize ∧
      ev.after.global.datameshSize = e.global.datameshSize)

variable {start : ℤ}

theorem Logged.congr (h : Logged start e)
    (hsize : e'.global.datameshSize = e.global.datameshSize) (hlog : e.log ⊆ e'.log) :
    Logged start e' := by
  unfold Logged
  rw [hsize]
  refine ⟨h.1, fun hlt => ?_⟩
  obtain ⟨ev, hev, hgrows⟩ := h.2 hlt
  exact ⟨ev, hlog hev, hgrows⟩

structure Sized (start : ℤ) (e : Engine GlobalContext) : Prop where
  measured : Measured e.global
  logged : Logged start e
  kept : ∀ ev ∈ e.log, SizeKept ev

theorem Sized.extend (h : Sized start e)
    (hsize : e'.global.size = e.global.size) (hrvr : e'.global.rvr = e.global.rvr)
    (hsame : e'.global.datameshSize = e.global.datameshSize) (hlog : e'.log = ev :: e.log)
    (hev : ev.after.global.datameshSize = ev.before.global.datameshSize) : Sized start e' where
  measured := h.measured.congr hsize hrvr
  logged := h.logged.congr hsame (by rw [hlog]; exact subset_cons_self _ _)
  kept := by
    rw [hlog]
    exact forall_mem_cons.mpr ⟨sizeKept_of_eq hev, h.kept⟩

theorem Rests.sized (h : Rests e e') :
    e'.global.datameshSize = e.global.datameshSize ∧ e'.global.size = e.global.size ∧
      e'.global.rvr = e.global.rvr := by
  obtain ⟨hdatamesh, hvolume⟩ := sizes_of_bare h.bare
  exact ⟨hdatamesh, hvolume, (matching_of_bare h.bare).rvr⟩

theorem Works.rvr (h : Works e e' rctx b as)
    (he : Anchored e.global) (hx : Denotes rctx x) : e'.global.rvr = e.global.rvr := by
  obtain ⟨g, g', c, hstart, -, hrun, hend⟩ := h
  have hmatch := matching_of_bare hstart
  have hfixed := (applies_applied (hmatch.anchored he) hx hrun).fixed
  rw [(matching_of_bare hend).rvr, ← hmatch.rvr]
  funext id
  exact (fixed_ids hfixed id).2.2

theorem Starts.resize_grown
    (h : Starts e spec rctx x g t) (hmeasured : Measured e.global) (he' : Orderly e')
    (hguard : .guardBackingVolumesGrown ∈ spec.guards) (hgroup : spec.group = .resize)
    (hwritten : e'.global.datameshSize = alignTo4Ki e.global.size)
    (htrans : e'.transitions = e.transitions ++ [e.next])
    (hhead : headerOf (e'.heap e.next) = headerOf t) :
    Grown ⟨.created, e'.heap e.next, ({ e with global := g } : Engine GlobalContext).snapshot,
      e'.snapshot⟩ := by
  constructor
  · intro id m rvr hm htype hrvr
    have hmatch := matching_of_bare h.matching
    change g.member id = some m at hm
    change g.rvr id = some rvr at hrvr
    rw [hmatch.member] at hm
    rw [hmatch.rvr] at hrvr
    obtain ⟨target, htarget, hgrown⟩ := h.grown hguard
    obtain ⟨lowerSize, hlower, hle⟩ := hgrown id m rvr hm htype hrvr
    obtain ⟨hblocks, hsmall⟩ := hmeasured.disks id rvr lowerSize hrvr hlower
    refine ⟨lowerSize, hlower, ?_⟩
    change e'.global.datameshSize ≤ _
    rw [hwritten]
    exact alignTo4Ki_le_usableSize hmeasured.size htarget hblocks hsmall hle
  · intro t' ht'
    have hlive : e'.heap e.next ∈ e'.active := mem_map.mpr ⟨e.next, by rw [htrans]; simp, rfl⟩
    have hresize : (e'.heap e.next).group = .resize := by
      rw [(head_of_header hhead).2.2.1, h.started.group, hgroup]
    rw [← Bool.not_eq_true]
    exact fun hgain => he'.exclusion.resizeGain ⟨⟨_, hlive, hresize⟩, t', ht', hgain⟩

theorem OrderlyMove.sized (h : OrderlyMove e e') (hsized : Sized start e) : Sized start e' := by
  obtain ⟨he, he', hmove⟩ := h
  cases hmove with
  | rest hrests hlog =>
    obtain ⟨hsame, hsize, hrvr⟩ := hrests.sized
    refine ⟨hsized.measured.congr hsize hrvr, hsized.logged.congr hsame ?_, ?_⟩
    · rw [hlog]
      exact List.Subset.refl _
    · rw [hlog]
      exact hsized.kept
  | note hrests _ hbefore hafter hlog =>
    obtain ⟨hsame, hsize, hrvr⟩ := hrests.sized
    refine hsized.extend hsize hrvr hsame hlog ?_
    rwa [hbefore, hafter]
  | @advance k spec s s' rctx hsettles hnext hworks _ _ _ _ hlog =>
    obtain ⟨hreg, -⟩ := hsettles.registered
    have hquiet : .applyResizeVolume ∉ s.onComplete ++ s'.apply := by
      rw [mem_append, not_or]
      refine ⟨(registry_resize spec hreg s hsettles.step_mem).1, fun hmem => ?_⟩
      have hsingle := (registry_resize spec hreg s' (mem_of_getElem? hnext)).2 hmem
      have hlt := (List.getElem?_eq_some_iff.mp hnext).1
      omega
    obtain ⟨hsame, hsize⟩ := hworks.sizes
    rw [if_neg hquiet] at hsame
    exact hsized.extend hsize (hworks.rvr he.linked.anchored hsettles.subject) hsame hlog hsame
  | @complete k spec s rctx hsettles hlast hworks _ _ hlog =>
    obtain ⟨hreg, -⟩ := hsettles.registered
    obtain ⟨hsame, hsize⟩ := hworks.sizes
    rw [if_neg (registry_resize spec hreg s hsettles.step_mem).1] at hsame
    exact hsized.extend hsize (hworks.rvr he.linked.anchored hsettles.subject) hsame hlog hsame
  | @create spec s rctx x t g hstarts hstep hworks htrans hhead _ _ hlog =>
    have hreg := hstarts.registered
    obtain ⟨hwritten, hsize⟩ := hworks.sizes
    have hrvr := hworks.rvr he.linked.anchored hstarts.subject
    obtain ⟨hseen, -⟩ := sizes_of_bare hstarts.matching
    by_cases hmem : .applyResizeVolume ∈ s.apply
    · obtain ⟨htype, hplan, hscope, hgroup, hguard, -⟩ :=
        (registry_resize spec hreg s (mem_of_getElem? hstep)).2 hmem
      rw [if_pos hmem] at hwritten
      have hgrows : e.global.datameshSize < e'.global.datameshSize := by
        have hdecided := hstarts.decided hscope
        rw [htype] at hdecided
        rw [hwritten]
        exact decided_resize hdecided
      refine ⟨hsized.measured.congr hsize hrvr, ⟨hsized.logged.1.trans hgrows.le, fun _ => ?_⟩, ?_⟩
      · refine ⟨_, by rw [hlog]; exact mem_cons_self, ?_, rfl⟩
        exact hseen.trans_lt hgrows
      · rw [hlog]
        refine forall_mem_cons.mpr ⟨⟨(hseen.trans_lt hgrows).le, fun _ => ?_⟩, hsized.kept⟩
        exact hstarts.resize_grown hsized.measured he' hguard hgroup hwritten htrans hhead
    · rw [if_neg hmem] at hwritten
      exact hsized.extend hsize hrvr hwritten hlog (hwritten.trans hseen.symm)

theorem sized_of_chain (h : Relation.ReflTransGen OrderlyMove e e')
    (hsized : Sized start e) : Sized start e' := by
  induction h with
  | refl => exact hsized
  | tail _ hmove ih => exact hmove.sized ih

structure Observation.Measured (o : Observation) : Prop where
  size : o.size ≤ maxVolumeSize
  disks : ∀ rvr ∈ o.rvrs, ∀ lowerSize, rvr.backingVolume.bind (·.size) = some lowerSize →
    4096 ∣ lowerSize ∧ lowerSize < 2 ^ 63

theorem startEngine_measured (st : Status) (h : o.Measured) :
    Measured (startEngine o st).global := by
  have hbare := startEngine_bare o st
  refine Measured.congr (g := startContext o st) ⟨h.size, ?_⟩ (sizes_of_bare hbare).2
    (matching_of_bare hbare).rvr
  intro id rvr lowerSize hrvr hsize
  refine h.disks rvr ?_ lowerSize hsize
  have hfind : o.rvrs.reverse.find? (·.id = id) = some rvr := hrvr
  exact mem_reverse.mp (mem_of_find?_eq_some hfind)

theorem startEngine_sized (st : Status) (h : o.Measured) : Sized st.size (startEngine o st) := by
  have hsize : (startEngine o st).global.datameshSize = st.size :=
    (sizes_of_bare (startEngine_bare o st)).1
  refine ⟨startEngine_measured st h, ⟨hsize.ge, fun hlt => absurd hsize hlt.ne'⟩, ?_⟩
  exact fun ev hev => absurd hev not_mem_nil

theorem finishCycle_size {obs : Observation} {changed : Bool}
    (h : Moves (startEngine obs st) e changed) (zones : Bool) :
    (finishCycle obs st e changed zones).status.size = e.global.datameshSize := by
  cases changed with
  | true => rfl
  | false =>
    have hsame := (sizes_of_bare (h.quiet rfl).bare).1
    rw [(sizes_of_bare (startEngine_bare obs st)).1] at hsame
    rw [hsame]
    cases zones <;> rfl

structure SizeStep (p : Status) (r : CycleResult) : Prop where
  grows : p.size ≤ r.status.size
  logged : p.size < r.status.size → ∃ ev ∈ r.log,
    ev.before.global.datameshSize < ev.after.global.datameshSize ∧
      ev.after.global.datameshSize = r.status.size
  kept : ∀ ev ∈ r.log, SizeKept ev

theorem cycle_size {p : Status} (hp : p.Orderly)
    (ho : o.Measured) (h : processTransitions o p = some r) : SizeStep p r := by
  obtain ⟨e, changed, hmoves, -, rfl⟩ := cycle_moves hp h
  obtain ⟨-, hlogged, hkept⟩ := sized_of_chain hmoves.chain (startEngine_sized p ho)
  have hsize := finishCycle_size hmoves (startCycle o p).2
  refine ⟨hsize ▸ hlogged.1, fun hlt => ?_, hkept⟩
  rw [hsize] at hlt
  obtain ⟨ev, hev, hgrows, hafter⟩ := hlogged.2 hlt
  exact ⟨ev, hev, hgrows, hafter.trans hsize.symm⟩

theorem run_split {obs : List Observation} {later earlier : List CycleResult}
    (hrun : run st obs = some (later ++ r :: earlier)) :
    ∃ o ∈ obs, ∃ obs', run st obs' = some earlier ∧
      processTransitions o (lastStatus st earlier) = some r := by
  induction obs generalizing later with
  | nil => simp [run] at hrun
  | cons o obs ih =>
    obtain ⟨results, hresults, r', hr', hsplit⟩ := run_cons hrun
    cases later with
    | nil =>
      obtain ⟨rfl, rfl⟩ := List.cons.inj hsplit
      exact ⟨o, mem_cons_self, obs, hresults, hr'⟩
    | cons r1 later =>
      obtain ⟨rfl, rfl⟩ := List.cons.inj hsplit
      obtain ⟨o', ho', hrest⟩ := ih hresults
      exact ⟨o', mem_cons_of_mem o ho', hrest⟩

/-- In every run with sizes that are small enough the published size only grows, each growth is
the creation of a resize that every reporting disk has room for, and no resize is live together
with a transition that gives a replica a disk. -/
theorem published_size_grows_and_fits (st : Status) (obs : List Observation)
    (results : List CycleResult) (hst : st.Formed) (hobs : ∀ o ∈ obs, o.Measured)
    (hrun : run st obs = some results) :
    (∀ later r earlier, results = later ++ r :: earlier → SizeStep (lastStatus st earlier) r) ∧
    ∀ p ∈ published st results, ¬((∃ t ∈ p.transitions, t.group = .resize) ∧
      ∃ t ∈ p.transitions, isDiskGainingTransition t = true) := by
  obtain ⟨hpublished, -⟩ := run_orderly hst.orderly hrun
  constructor
  · rintro later r earlier rfl
    obtain ⟨o, ho, obs', hearlier, hcycle⟩ := run_split hrun
    have hp := (run_orderly hst.orderly hearlier).1 _ (lastStatus_mem st earlier)
    exact cycle_size hp (hobs o ho) hcycle
  · intro p hp
    have hp' := hpublished p hp
    exact (exclusion_of_coherent hp'.coherent.apart hp'.apart).resizeGain

/-- One ready diskful member on a disk of a gibibyte, and a size that is asked for. -/
def onGibibyte (size : ℕ) : Observation :=
  let disk : RVR :=
    { plainReplica 0 .diskful 5 with
      conditions := [⟨"Ready", some true, 1, "", ""⟩]
      backingVolume := some ⟨some (2 ^ 30), .upToDate⟩ }
  { plainObservation [disk] [] with size := size }

def oneDiskful : Status := ⟨[plainMember 0 .diskful], 1, 1, false, [], 4096, 5, 0, []⟩

/-- The lower volume of the largest size below `2 ^ 63` is a negative number of 64 bits, so
that the guard passes. -/
theorem size_beyond_disk_published :
    oneDiskful.Formed ∧ ∃ results, run oneDiskful [onGibibyte (2 ^ 63 - 4096)] = some results ∧
      lowerVolumeSize (alignTo4Ki (2 ^ 63 - 4096)) = some (-9221401291021037568) ∧
      (lastStatus oneDiskful results).size = 2 ^ 63 - 4096 ∧
      usableSize (2 ^ 30) < (lastStatus oneDiskful results).size := by
  refine ⟨.inl rfl, ?_⟩
  exact exists_of_decide (by decide +kernel)

theorem onGibibyte_measured : (onGibibyte (2 ^ 29)).Measured := by
  refine ⟨by decide +kernel, fun rvr hrvr lowerSize hsize => ?_⟩
  obtain rfl := mem_singleton.mp hrvr
  obtain rfl := some.inj hsize
  decide

/-- Half a gibibyte fits. -/
theorem published_size_half :
    ∃ results, run oneDiskful [onGibibyte (2 ^ 29)] = some results ∧
      (lastStatus oneDiskful results).size = 2 ^ 29 ∧
      ∀ later r earlier, results = later ++ r :: earlier →
        SizeStep (lastStatus oneDiskful earlier) r := by
  have hrun : (run oneDiskful [onGibibyte (2 ^ 29)]).any (fun results => decide
      ((lastStatus oneDiskful results).size = 2 ^ 29)) = true := by
    decide +kernel
  obtain ⟨results, hresults, hsize⟩ := exists_of_decide hrun
  refine ⟨results, hresults, hsize, ?_⟩
  exact (published_size_grows_and_fits oneDiskful [onGibibyte (2 ^ 29)] results (.inl rfl)
    (fun o ho => mem_singleton.mp ho ▸ onGibibyte_measured) hresults).1

end ReplicatedVolume.Datamesh
