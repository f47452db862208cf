import ReplicatedVolume.Safety.Ownership

/-!
# Finalizers that are owed

The list of volumes to release is a write-ahead record: a name is written before the volume gets
the agent's finalizer, and goes after the finalizer is gone. It is right in every run in which a
pass reads the stored DRBDResource, no read of a volume misses a finalizer that is there, and a
DRBDResource that is deleted while in use was held by the agent before.
-/

namespace ReplicatedVolume.Agent
open Interaction List Option Function

variable {answer : Except ApiError DRBDResource} {llv : LLV} {obj : DRBDResource} {x : String}

def World.Carries (w : World) (x : String) : Prop :=
  ∃ llv, w.llvs x = some llv ∧ agentFinalizer ∈ llv.finalizers

/-- A volume that carries the agent's finalizer is recorded in the stored DRBDResource, and the
DRBDResource carries the agent's finalizer too. -/
def Recorded (w : World) : Prop :=
  ∀ x, w.Carries x → ∃ drbdr, w.drbdr = some drbdr ∧ agentFinalizer ∈ drbdr.finalizers ∧
    x ∈ drbdr.llvFinalizersToRelease

/-- Volumes are stored under their names, a finalizer is there once, and versions name contents. -/
structure Orderly (w : World) : Prop where
  named : ∀ x, ∀ o ∈ w.llvs x :: w.llvPast x, ∀ llv, o = some llv → llv.name = x
  unnamed : w.llvs "" = none
  single : ∀ x llv, some llv ∈ w.llvs x :: w.llvPast x → llv.finalizers.count agentFinalizer ≤ 1
  version : ∀ x llv, some llv ∈ w.llvs x :: w.llvPast x → llv.resourceVersion ≤ w.revision
  versioned : ∀ x stored llv, w.llvs x = some stored → some llv ∈ w.llvPast x →
    stored.resourceVersion = llv.resourceVersion → stored = llv
  drbdrVersion : ∀ drbdr, w.drbdr = some drbdr → drbdr.resourceVersion ≤ w.revision

def Sound (w : World) : Prop := Orderly w ∧ Recorded w

section Store

variable {w : World}

theorem carries_storeLLV {y : String} : (w.storeLLV x llv).Carries y ↔
      (y = x ∧ agentFinalizer ∈ llv.finalizers) ∨ (y ≠ x ∧ w.Carries y) := by
  by_cases hy : y = x
  · subst hy
    simp only [World.Carries, World.storeLLV, update_self, true_and, ne_eq,
      not_true_eq_false, false_and, or_false]
    split
    · rename_i hgone
      simp [hgone.2]
    · simp
  · simp [World.Carries, World.storeLLV, hy]

theorem mem_storeLLV {y : String} {found : LLV}
    (h : some found ∈ (w.storeLLV x llv).llvs y :: (w.storeLLV x llv).llvPast y) :
    (y = x ∧ found = llv) ∨ some found ∈ w.llvs y :: w.llvPast y := by
  by_cases hy : y = x
  · subst hy
    simp only [World.storeLLV, update_self, mem_cons] at h
    rcases h with hnew | hold
    · split at hnew
      · cases hnew
      · exact .inl ⟨rfl, some.inj hnew⟩
    · exact .inr (mem_cons.mpr hold)
  · simp only [World.storeLLV, update_of_ne hy] at h
    exact .inr h

theorem orderly_storeLLV (ho : Orderly w) (hx : x ≠ "")
    (hname : llv.name = x) (hsingle : llv.finalizers.count agentFinalizer ≤ 1)
    (hversion : llv.resourceVersion = w.revision + 1) : Orderly (w.storeLLV x llv) where
  named y o ho' found hfound := by
    subst hfound
    rcases mem_storeLLV ho' with ⟨rfl, rfl⟩ | hold
    · exact hname
    · exact ho.named y _ hold found rfl
  unnamed := by
    simp only [World.storeLLV, update_of_ne (Ne.symm hx)]
    exact ho.unnamed
  single y found h := by
    rcases mem_storeLLV h with ⟨rfl, rfl⟩ | hold
    · exact hsingle
    · exact ho.single y found hold
  version y found h := by
    rcases mem_storeLLV h with ⟨rfl, rfl⟩ | hold
    · exact hversion.le
    · exact (ho.version y found hold).trans (Nat.le_succ _)
  versioned y stored found hstored hpast heq := by
    by_cases hy : y = x
    · -- The new version is above all that came before.
      subst hy
      simp only [World.storeLLV, update_self] at hstored hpast
      have hold := ho.version y found hpast
      split at hstored
      · cases hstored
      · obtain rfl := some.inj hstored
        omega
    · simp only [World.storeLLV, update_of_ne hy] at hstored hpast
      exact ho.versioned y stored found hstored hpast heq
  drbdrVersion drbdr h := (ho.drbdrVersion drbdr h).trans (Nat.le_succ _)

variable {drbdr : DRBDResource}

theorem storeDRBDR_eq_some {found : DRBDResource}
    (h : (w.storeDRBDR drbdr).drbdr = some found) : found = drbdr := by
  simp only [World.storeDRBDR] at h
  split at h
  · cases h
  · exact (some.inj h).symm

theorem storeDRBDR_of_mem {f : String} (h : f ∈ drbdr.finalizers) :
    (w.storeDRBDR drbdr).drbdr = some drbdr := by
  have hne : drbdr.finalizers ≠ [] := ne_nil_of_mem h
  simp [World.storeDRBDR, hne]

theorem orderly_storeDRBDR (ho : Orderly w)
    (hversion : drbdr.resourceVersion = w.revision + 1) : Orderly (w.storeDRBDR drbdr) where
  named := ho.named
  unnamed := ho.unnamed
  single := ho.single
  version x llv h := (ho.version x llv h).trans (Nat.le_succ _)
  versioned := ho.versioned
  drbdrVersion found h := by
    rw [storeDRBDR_eq_some h]
    exact hversion.le

theorem recorded_storeDRBDR (hkept : ∀ x, w.Carries x → agentFinalizer ∈ drbdr.finalizers ∧
      x ∈ drbdr.llvFinalizersToRelease) : Recorded (w.storeDRBDR drbdr) := by
  intro x hx
  obtain ⟨hfinalizer, hlist⟩ := hkept x hx
  exact ⟨drbdr, storeDRBDR_of_mem hfinalizer, hfinalizer, hlist⟩

end Store

/-- Others add no finalizer of the agent. They keep a DRBDResource that carries it with its
status, and whatever they write of it is a new version. -/
structure Foreign (w w' : World) : Prop where
  revision : w.revision ≤ w'.revision
  carries : ∀ x, w'.Carries x → w.Carries x
  held : ∀ drbdr, w.drbdr = some drbdr → agentFinalizer ∈ drbdr.finalizers →
    ∃ drbdr', w'.drbdr = some drbdr' ∧ agentFinalizer ∈ drbdr'.finalizers ∧
      drbdr'.status = drbdr.status
  drbdr : w'.drbdr = w.drbdr ∨ ∀ drbdr', w'.drbdr = some drbdr' →
    w.revision < drbdr'.resourceVersion

section Foreign

variable {w w' w'' : World}

theorem Foreign.of_drbdr (hrevision : w.revision ≤ w'.revision)
    (hcarries : ∀ x, w'.Carries x → w.Carries x) (hdrbdr : w'.drbdr = w.drbdr) :
    Foreign w w' where
  revision := hrevision
  carries := hcarries
  held drbdr h hfinalizer := ⟨drbdr, hdrbdr.trans h, hfinalizer, rfl⟩
  drbdr := .inl hdrbdr

theorem Foreign.refl (w : World) : Foreign w w := .of_drbdr le_rfl (fun _ h => h) rfl

theorem Foreign.trans (h : Foreign w w') (h' : Foreign w' w'') : Foreign w w'' where
  revision := h.revision.trans h'.revision
  carries x hx := h.carries x (h'.carries x hx)
  held drbdr hdrbdr hfinalizer := by
    obtain ⟨d', hd', hf', hstatus'⟩ := h.held drbdr hdrbdr hfinalizer
    obtain ⟨d'', hd'', hf'', hstatus''⟩ := h'.held d' hd' hf'
    exact ⟨d'', hd'', hf'', hstatus''.trans hstatus'⟩
  drbdr := by
    rcases h'.drbdr with heq | hnew
    · rw [heq]
      exact h.drbdr
    · exact .inr fun d hd => lt_of_le_of_lt h.revision (hnew d hd)

theorem Foreign.recorded (h : Foreign w w') (hrecorded : Recorded w) : Recorded w' := by
  intro x hx
  obtain ⟨drbdr, hdrbdr, hfinalizer, hlist⟩ := hrecorded x (h.carries x hx)
  obtain ⟨d', hd', hf', hstatus⟩ := h.held drbdr hdrbdr hfinalizer
  refine ⟨d', hd', hf', ?_⟩
  unfold DRBDResource.llvFinalizersToRelease
  rwa [hstatus]

theorem foreign_storeLLV
    (hcarries : agentFinalizer ∈ llv.finalizers → w.Carries x) : Foreign w (w.storeLLV x llv) := by
  refine .of_drbdr (Nat.le_succ _) (fun y hy => ?_) rfl
  rcases carries_storeLLV.mp hy with ⟨rfl, hmem⟩ | ⟨-, hold⟩
  · exact hcarries hmem
  · exact hold

theorem Orderly.name_ne (ho : Orderly w) (h : w.llvs x = some llv) : x ≠ "" := by
  rintro rfl
  rw [ho.unnamed] at h
  cases h

theorem foreign_lockedPatchLLV (ho : Orderly w) {finalizers : List String}
    (hread : some llv ∈ w.llvs llv.name :: w.llvPast llv.name)
    (hcount : finalizers.count agentFinalizer = llv.finalizers.count agentFinalizer)
    (hpatch : w.lockedPatchLLV { llv with finalizers := finalizers } llv = some w') :
    Orderly w' ∧ Foreign w w' := by
  have hversion : ∀ stored, w.llvs llv.name = some stored →
      stored.resourceVersion = llv.resourceVersion → stored = llv := by
    intro stored hstored heq
    rcases mem_cons.mp hread with hsame | hpast
    · exact some.inj (hstored.symm.trans hsame.symm)
    · exact ho.versioned llv.name stored llv hstored hpast heq
  obtain ⟨hstored, rfl⟩ := lockedPatchLLV_eq_some hpatch hversion
  have hlist : (llv.patched { llv with finalizers := finalizers } llv
      (w.revision + 1)).finalizers.count agentFinalizer = llv.finalizers.count agentFinalizer := by
    simp only [LLV.patched, mergeValue]
    split
    · rfl
    · exact hcount
  refine ⟨orderly_storeLLV ho (ho.name_ne hstored) rfl ?_ rfl, foreign_storeLLV fun hmem => ?_⟩
  · rw [hlist]
    exact ho.single llv.name llv (mem_cons.mpr (.inl hstored.symm))
  · refine ⟨llv, hstored, count_pos_iff.mp ?_⟩
    rw [← hlist]
    exact count_pos_iff.mpr hmem

theorem ControllerWrite.foreign (ho : Orderly w) (h : ControllerWrite w w') :
    Orderly w' ∧ Foreign w w' := by
  have hne : agentFinalizer ≠ rvrControllerFinalizer := by decide
  cases h with
  | @create x llv hx hnone hname hdeleting hfinalizers hversion =>
    have hnot : agentFinalizer ∉ llv.finalizers := by
      rw [hfinalizers]
      exact fun hmem => hne (mem_singleton.mp hmem)
    refine ⟨orderly_storeLLV ho hx hname ?_ hversion, foreign_storeLLV fun hmem => absurd hmem hnot⟩
    rw [count_eq_zero.mpr hnot]
    exact Nat.zero_le _
  | metadata hread hpatch =>
    refine foreign_lockedPatchLLV ho hread ?_ hpatch
    unfold addFinalizer
    split
    · rfl
    · rw [count_append, count_singleton]
      simp [Ne.symm hne]
  | letGo hread hpatch =>
    refine foreign_lockedPatchLLV ho hread ?_ hpatch
    exact count_erase_of_ne hne
  | @delete x stored hstored =>
    have hmem : some stored ∈ w.llvs x :: w.llvPast x := mem_cons.mpr (.inl hstored.symm)
    exact ⟨orderly_storeLLV ho (ho.name_ne hstored) (ho.named x _ hmem stored rfl)
      (ho.single x stored hmem) rfl, foreign_storeLLV fun hf => ⟨stored, hstored, hf⟩⟩

theorem OtherWrite.foreign (ho : Orderly w) (h : OtherWrite w w') : Orderly w' ∧ Foreign w w' := by
  cases h with
  | controller h => exact h.foreign ho
  | @llv x stored llv hstored hname hfinalizers hversion =>
    refine ⟨orderly_storeLLV ho (ho.name_ne hstored) hname ?_ hversion,
      foreign_storeLLV fun hmem => ⟨stored, hstored, ?_⟩⟩
    · rw [hfinalizers]
      exact ho.single x stored (mem_cons.mpr (.inl hstored.symm))
    · rw [← count_pos_iff, ← hfinalizers]
      exact count_pos_iff.mpr hmem
  | createLLV hx hnone hname hfinalizers hversion =>
    refine ⟨orderly_storeLLV ho hx hname ?_ hversion,
      foreign_storeLLV fun hmem => absurd hmem hfinalizers⟩
    rw [count_eq_zero.mpr hfinalizers]
    exact Nat.zero_le _
  | @drbdr stored drbdr hstored hstatus hfinalizers hversion =>
    refine ⟨orderly_storeDRBDR ho hversion, Nat.le_succ _, fun _ h => h, ?_, .inr ?_⟩
    · intro d hd hmem
      obtain rfl := some.inj (hd.symm.trans hstored)
      have hmem' : agentFinalizer ∈ drbdr.finalizers := by
        rw [← count_pos_iff, hfinalizers]
        exact count_pos_iff.mpr hmem
      exact ⟨drbdr, storeDRBDR_of_mem hmem', hmem', hstatus⟩
    · intro d hd
      rw [storeDRBDR_eq_some hd, hversion]
      exact Nat.lt_succ_self _
  | @createDRBDR drbdr hnone hfinalizers hlist hversion =>
    refine ⟨orderly_storeDRBDR ho hversion, Nat.le_succ _, fun _ h => h, ?_, .inr ?_⟩
    · intro d hd
      rw [hnone] at hd
      cases hd
    · intro d hd
      rw [storeDRBDR_eq_some hd, hversion]
      exact Nat.lt_succ_self _
  | node lvgs resources minor disks =>
    exact ⟨⟨ho.named, ho.unnamed, ho.single, ho.version, ho.versioned, ho.drbdrVersion⟩,
      .of_drbdr le_rfl (fun _ h => h) rfl⟩

theorem Meanwhile.foreign (ho : Orderly w) (h : Meanwhile w w') : Orderly w' ∧ Foreign w w' := by
  induction h with
  | refl => exact ⟨ho, .refl w⟩
  | tail _ hstep ih =>
    obtain ⟨ho', hforeign⟩ := hstep.foreign ih.1
    exact ⟨ho', ih.2.trans hforeign⟩

def Call.isPatch : Call → Bool
  | .patchLLV _ _ | .patchDRBDR _ _ _ | .patchDRBDRStatus _ _ _ => true
  | _ => false

theorem Reply.node {kernel : Kernel} {c : Call} {answer : c.Answer}
    (hreply : Reply kernel w c answer w') (hc : c.isPatch = false) :
    ∃ resources minor disks, w' =
      { w with resources := resources, allocatedMinor := minor, disks := disks } := by
  have hsame : ∃ resources minor disks, w =
      { w with resources := resources, allocatedMinor := minor, disks := disks } :=
    ⟨w.resources, w.allocatedMinor, w.disks, rfl⟩
  cases c with
  | execute action =>
    rcases Reply.executed hreply with rfl | rfl
    · exact hsame
    · cases action <;> exact ⟨_, _, _, rfl⟩
  | rename oldName newName =>
    rcases hreply with ⟨-, rfl⟩ | ⟨rfl, -⟩
    · exact ⟨_, _, _, rfl⟩
    · exact hsame
  | patchLLV | patchDRBDR | patchDRBDRStatus => cases hc
  | _ => rw [Reply.read hreply rfl]; exact hsame

end Foreign

/-- The DRBDResource is read as it is stored; one that is read as being deleted while it is up
and held by others carries the agent's finalizer. A read of a volume shows the agent's finalizer
where the volume has it. -/
def Current (w : World) : (c : Call) → c.Answer → Prop
  | .getDRBDR _, answer => ∀ found, answer = .ok found → found = w.drbdr ∧
      ∀ drbdr, found = some drbdr → isUpAndNotInCleanup drbdr = true → drbdr.deleting = true →
        agentFinalizer ∈ drbdr.finalizers
  | .getLLV x, answer => ∀ found, answer = .ok found → w.Carries x →
      ∃ llv, found = some llv ∧ agentFinalizer ∈ llv.finalizers
  | _, _ => True

def tracked (kernel : Kernel) : Act agentInterface World := fun w c answer w' =>
  ∃ w₁, Meanwhile w w₁ ∧ Reply kernel w₁ c answer w' ∧ Current w₁ c answer

/-- What a pass that goes on with `drbdr` relies on: the object is what is stored or outdated,
every volume that carries the finalizer is in its list, and where it carries the finalizer the
stored object does, with the same status. -/
structure Passing (drbdr : DRBDResource) (w : World) : Prop where
  orderly : Orderly w
  recorded : Recorded w
  version : drbdr.resourceVersion ≤ w.revision
  versioned : Versioned w drbdr
  covered : ∀ x, w.Carries x → x ∈ drbdr.llvFinalizersToRelease
  owned : agentFinalizer ∈ drbdr.finalizers →
    ∃ stored, w.drbdr = some stored ∧ agentFinalizer ∈ stored.finalizers ∧
      stored.status = drbdr.status

section Passing

variable {kernel : Kernel} {drbdr : DRBDResource} {h : List AgentEvent} {w w' : World}

theorem Passing.sound (hp : Passing drbdr w) : Sound w := ⟨hp.orderly, hp.recorded⟩

theorem Passing.foreign (hp : Passing drbdr w) (hforeign : Foreign w w') (ho : Orderly w') :
    Passing drbdr w' where
  orderly := ho
  recorded := hforeign.recorded hp.recorded
  version := hp.version.trans hforeign.revision
  versioned stored hstored heq := by
    rcases hforeign.drbdr with hsame | hnew
    · exact hp.versioned stored (hsame.symm.trans hstored) heq
    · have hlt := hnew stored hstored
      have hle := hp.version
      omega
  covered x hx := hp.covered x (hforeign.carries x hx)
  owned hmem := by
    obtain ⟨stored, hstored, hfinalizer, hstatus⟩ := hp.owned hmem
    obtain ⟨d', hd', hf', hstatus'⟩ := hforeign.held stored hstored hfinalizer
    exact ⟨d', hd', hf', hstatus'.trans hstatus⟩

structure Stable (I : World → Prop) : Prop where
  sound : ∀ w, I w → Sound w
  foreign : ∀ w w', Foreign w w' → Orderly w' → I w → I w'

theorem stable_sound : Stable Sound :=
  ⟨fun _ hs => hs, fun _ _ hforeign ho hs => ⟨ho, hforeign.recorded hs.2⟩⟩

theorem stable_passing (drbdr : DRBDResource) : Stable (Passing drbdr) :=
  ⟨fun _ hp => hp.sound, fun _ _ hforeign ho hp => hp.foreign hforeign ho⟩

variable {I : World → Prop}

theorem Stable.and_within (hI : Stable I) (names : String → Prop) :
    Stable fun w => I w ∧ ∀ x, w.Carries x → names x :=
  ⟨fun w hw => hI.sound w hw.1, fun w w' hforeign ho hw =>
    ⟨hI.foreign w w' hforeign ho hw.1, fun x hx => hw.2 x (hforeign.carries x hx)⟩⟩

variable {c : Call}

theorem tracked_served (hI : Stable I) (hw : I w)
    {answer : c.Answer} (hact : tracked kernel w c answer w') :
    ∃ w1, I w1 ∧ Foreign w w1 ∧ Reply kernel w1 c answer w' ∧ Current w1 c answer := by
  obtain ⟨w1, hmeanwhile, hreply, hcurrent⟩ := hact
  obtain ⟨ho, hforeign⟩ := hmeanwhile.foreign (hI.sound w hw).1
  exact ⟨w1, hI.foreign w w1 hforeign ho hw, hforeign, hreply, hcurrent⟩

theorem tracked_node (hI : Stable I) (hw : I w)
    {answer : c.Answer} (hc : c.isPatch = false) (hact : tracked kernel w c answer w') :
    I w' ∧ Foreign w w' := by
  obtain ⟨w1, hw1, hforeign, hreply, -⟩ := tracked_served hI hw hact
  obtain ⟨resources, minor, disks, rfl⟩ := Reply.node hreply hc
  obtain ⟨ho, hnode⟩ := (OtherWrite.node w1.lvgs resources minor disks).foreign (hI.sound w1 hw1).1
  exact ⟨hI.foreign w1 _ hnode ho hw1, hforeign.trans hnode⟩

abbrev SoundPass {α : Type} (kernel : Kernel) (post : α → List AgentEvent → World → Prop)
    (p : Prog α) (h : List AgentEvent) (w : World) : Prop :=
  Holds (tracked kernel) (fun _ w _ => Sound w) post p h w

variable {α : Type}

theorem holds_stable {p : Prog α} (hI : Stable I)
    (hp : CallsOnly (fun c => c.isPatch = false) p) (hw : I w) :
    SoundPass kernel (fun _ _ w' => I w') p h w :=
  Calls.holds hp (fun _ w _ _ hinv => hI.sound w hinv)
    (fun _ _ _ _ _ hc hinv hact => (tracked_node hI hinv hc hact).1) hw

theorem read_not_isPatch (c : Call) (hread : c.isRead = true) : c.isPatch = false := by
  cases c <;> first | rfl | cases hread

theorem WriteReply.cases {missing : Prop} {result : Option (α × World)}
    {answer : Except ApiError α} (hreply : WriteReply w missing result answer w') :
    (w' = w ∧ ∀ obj, answer ≠ .ok obj) ∨
    ∃ obj, result = some (obj, w') ∧ ∀ told, answer = .ok told → told = obj := by
  rcases hreply with ⟨obj, hresult, rfl⟩ | ⟨err, rfl, -, rfl | ⟨obj, hresult⟩⟩
  · exact .inr ⟨obj, hresult, fun told heq => (Except.ok.inj heq).symm⟩
  · exact .inl ⟨rfl, fun _ h => nomatch h⟩
  · exact .inr ⟨obj, hresult, fun _ h => nomatch h⟩

theorem locked_patchDRBDR (hp : Passing drbdr w)
    (hreply : Reply kernel w (.patchDRBDR obj drbdr true) answer w') :
    (w' = w ∧ ∀ result, answer ≠ .ok result) ∨
    (w.drbdr = some drbdr ∧ w' = w.storeDRBDR (drbdr.patched obj drbdr (w.revision + 1)) ∧
      ∀ result, answer = .ok result → result = drbdr.patched obj drbdr (w.revision + 1)) := by
  rcases WriteReply.cases hreply with hrefused | ⟨written, hwritten, htold⟩
  · exact .inl hrefused
  · obtain ⟨stored, hstored, hlock, rfl, rfl⟩ := written_eq_some hwritten
    obtain rfl := hp.versioned stored hstored (hlock rfl)
    exact .inr ⟨hstored, rfl, htold⟩

theorem mergeStatus_self (b o : DRBDResourceStatus) : mergeStatus b o b = o := by
  have hvalue : ∀ {α : Type} [DecidableEq α] (b o : α), mergeValue b o b = o := by
    intro α _ b o
    unfold mergeValue
    split
    · rename_i heq
      exact heq.symm
    · rfl
  have hactive : mergeActiveConfiguration b.activeConfiguration o.activeConfiguration
      b.activeConfiguration = o.activeConfiguration := by
    cases hb : b.activeConfiguration <;> cases ho : o.activeConfiguration <;>
      simp [mergeActiveConfiguration, hvalue]
  simp [mergeStatus, hvalue, hactive]

theorem passing_storeDRBDR (ho : Orderly w) (hversion : obj.resourceVersion = w.revision + 1)
    (hkept : ∀ x, w.Carries x → agentFinalizer ∈ obj.finalizers ∧
      x ∈ obj.llvFinalizersToRelease) : Passing obj (w.storeDRBDR obj) where
  orderly := orderly_storeDRBDR ho hversion
  recorded := recorded_storeDRBDR hkept
  version := hversion.le
  versioned := versioned_store w obj
  covered x hx := (hkept x hx).2
  owned hmem := ⟨obj, storeDRBDR_of_mem hmem, hmem, rfl⟩

theorem Passing.owes (hp : Passing drbdr w) (hstored : w.drbdr = some drbdr)
    (hx : w.Carries x) : agentFinalizer ∈ drbdr.finalizers ∧ x ∈ drbdr.llvFinalizersToRelease := by
  obtain ⟨d, hd, hfinalizer, hlist⟩ := hp.recorded x hx
  obtain rfl := some.inj (hd.symm.trans hstored)
  exact ⟨hfinalizer, hlist⟩

end Passing

section Phases

variable {kernel : Kernel} {drbdr : DRBDResource} {h : List AgentEvent} {w : World} {w' : World}

theorem sound_patchName (hs : Sound w)
    (hreply : Reply kernel w (.patchDRBDR obj drbdr false) answer w')
    (hfinalizers : obj.finalizers = drbdr.finalizers) : Sound w' := by
  rcases WriteReply.cases hreply with ⟨rfl, -⟩ | ⟨written, hwritten, -⟩
  · exact hs
  · obtain ⟨stored, hstored, -, rfl, rfl⟩ := written_eq_some hwritten
    refine ⟨orderly_storeDRBDR hs.1 rfl, recorded_storeDRBDR fun x hx => ?_⟩
    obtain ⟨d, hd, hfinalizer, hlist⟩ := hs.2 x hx
    obtain rfl := some.inj (hd.symm.trans hstored)
    simp only [DRBDResource.patched, mergeValue, hfinalizers, if_true]
    exact ⟨hfinalizer, hlist⟩

theorem holds_reconcileClearActualName (hs : Sound w) :
    SoundPass kernel (fun _ _ w' => Sound w') (reconcileClearActualName drbdr) h w := by
  unfold reconcileClearActualName
  refine holds_ask_bind hs fun answer w' hact => ?_
  obtain ⟨w1, hs1, -, hreply, -⟩ := tracked_served stable_sound hs hact
  have hs' : Sound w' := sound_patchName hs1 hreply rfl
  cases answer <;> exact hs'

theorem holds_reconcileActualNameOnTheNode (hs : Sound w) :
    SoundPass kernel (fun _ _ w' => Sound w') (reconcileActualNameOnTheNode drbdr) h w := by
  unfold reconcileActualNameOnTheNode
  refine holds_ask_bind hs fun answer w1 hact => ?_
  have hs1 := (tracked_node stable_sound hs rfl hact).1
  rcases answer with (_ | _ | _) | _
  · refine holds_ask_bind hs1 fun answer w2 hact2 => ?_
    have hs2 := (tracked_node stable_sound hs1 rfl hact2).1
    cases answer
    · exact hs2
    · exact holds_reconcileClearActualName hs2
  · exact hs1
  · exact hs1
  · exact holds_reconcileClearActualName hs1

def InUseHeld (drbdr : DRBDResource) : Prop :=
  isUpAndNotInCleanup drbdr = true → agentFinalizer ∈ drbdr.finalizers

variable (up : Bool) (r : Reconciler) (maintenance : Bool) (hp : Passing drbdr w)
  (hdeleted : isUpAndNotInCleanup drbdr = true → drbdr.deleting = true → agentFinalizer ∈ drbdr.finalizers)
  (name : String)

include hp hdeleted in
theorem holds_reconcileFinalizer_add :
    SoundPass kernel
      (fun result _ w' => Sound w' ∧ ∀ obj, result = .ok obj → Passing obj w' ∧ InUseHeld obj)
      (reconcileFinalizer drbdr true (isUpAndNotInCleanup drbdr)) h w := by
  unfold reconcileFinalizer
  dsimp only
  split
  · rename_i hsame
    refine ⟨hp.sound, fun obj hobj => ?_⟩
    obtain rfl := Except.ok.inj hobj
    refine ⟨hp, fun hup => ?_⟩
    by_cases hdel : drbdr.deleting = true
    · exact hdeleted hup hdel
    · rw [← hsame]
      simp [ensureFinalizer, hup, hdel, mem_addFinalizer]
  · rename_i hchanged
    refine holds_ask_bind hp.sound fun answer w' hact => ?_
    obtain ⟨w1, hp1, -, hreply, -⟩ := tracked_served (stable_passing drbdr) hp hact
    rcases locked_patchDRBDR hp1 hreply with ⟨rfl, hrefused⟩ | ⟨hstored, rfl, htold⟩
    · rcases answer with (_ | _) | result
      iterate 2 exact ⟨hp1.sound, fun _ h => nomatch h⟩
      · exact absurd rfl (hrefused result)
    · -- Only the finalizer of an object in use is added.
      have hmem : agentFinalizer ∈ (drbdr.patched
          { drbdr with finalizers := ensureFinalizer drbdr true (isUpAndNotInCleanup drbdr) }
          drbdr (w1.revision + 1)).finalizers := by
        simp only [DRBDResource.patched, mergeValue, if_neg hchanged]
        unfold ensureFinalizer at hchanged ⊢
        split at hchanged
        · rename_i hadd
          rw [if_pos hadd]
          exact mem_addFinalizer.mpr (.inr rfl)
        · simp at hchanged
      have hpassing := passing_storeDRBDR hp1.orderly rfl fun x hx =>
        ⟨hmem, (hp1.owes hstored hx).2⟩
      rcases answer with (_ | _) | result
      iterate 2 exact ⟨hpassing.sound, fun _ h => nomatch h⟩
      · refine ⟨hpassing.sound, fun obj hobj => ?_⟩
        obtain rfl := Except.ok.inj hobj
        rw [htold _ rfl]
        exact ⟨hpassing, fun _ => hmem⟩

include hp in
theorem patchDRBDRStatus_passing
    (hreply : Reply kernel w (.patchDRBDRStatus obj drbdr true) answer w')
    (hlist : ∀ x, w.Carries x → x ∈ obj.llvFinalizersToRelease) :
    Sound w' ∧ (∀ x, w'.Carries x → w.Carries x) ∧
      ∀ result, answer = .ok result → Passing result w' ∧ result.finalizers = drbdr.finalizers := by
  rcases WriteReply.cases hreply with ⟨rfl, hrefused⟩ | ⟨written, hwritten, htold⟩
  · exact ⟨hp.sound, fun _ hx => hx, fun result heq => absurd heq (hrefused result)⟩
  · obtain ⟨stored, hstored, hlock, rfl, rfl⟩ := written_eq_some hwritten
    obtain rfl := hp.versioned stored hstored (hlock rfl)
    have hpassing : Passing (stored.statusPatched obj stored (w.revision + 1))
        (w.storeDRBDR (stored.statusPatched obj stored (w.revision + 1))) := by
      refine passing_storeDRBDR hp.orderly rfl fun x hx => ⟨(hp.owes hstored hx).1, ?_⟩
      unfold DRBDResource.llvFinalizersToRelease DRBDResource.statusPatched
      rw [mergeStatus_self]
      exact hlist x hx
    refine ⟨hpassing.sound, fun _ hx => hx, fun result heq => ?_⟩
    rw [htold result heq]
    exact ⟨hpassing, rfl⟩

theorem holds_reconcileAddresses (ports : String → ℕ) (hp : Passing drbdr w) :
    SoundPass kernel
      (fun result _ w' => Sound w' ∧ ∀ obj, result = .ok obj → Passing obj w' ∧
        obj.finalizers = drbdr.finalizers)
      (reconcileAddresses r drbdr ports) h w := by
  unfold reconcileAddresses
  refine holds_ask_bind hp.sound fun answer w1 hact => ?_
  have hp1 := (tracked_node (stable_passing drbdr) hp rfl hact).1
  cases answer with
  | error err => exact ⟨hp1.sound, fun _ h => nomatch h⟩
  | ok node =>
    refine (holds_stable (stable_passing drbdr)
      (computeIntendedPorts_calls read_not_isPatch _ _) hp1).bind ?_
    rintro ⟨found, portErr⟩ h2 w2 hp2
    dsimp only
    split
    · exact ⟨hp2.sound, fun _ h => nomatch h⟩
    · split
      · refine ⟨hp2.sound, fun obj hobj => ?_⟩
        obtain rfl := Except.ok.inj hobj
        exact ⟨hp2, rfl⟩
      · refine holds_ask_bind hp2.sound fun answer w' hact => ?_
        obtain ⟨w3, hp3, -, hreply, -⟩ := tracked_served (stable_passing drbdr) hp2 hact
        obtain ⟨hs, -, hpassing⟩ := patchDRBDRStatus_passing hp3 hreply hp3.covered
        cases answer with
        | error err => exact ⟨hs, fun _ h => nomatch h⟩
        | ok result =>
          refine ⟨hs, fun obj hobj => ?_⟩
          obtain rfl := Except.ok.inj hobj
          exact hpassing _ rfl

include hp in
theorem holds_reconcileLLVFinalizersToRelease :
    SoundPass kernel
      (fun result _ w' => Sound w' ∧ ∀ list, result = .ok list → Passing drbdr w' ∧
        list = drbdr.llvFinalizersToRelease ∧
        (maintenance = false → up = true → drbdr.spec.type = .diskful →
          drbdr.spec.lvmLogicalVolumeName ≠ "" → drbdr.spec.lvmLogicalVolumeName ∈ list))
      (reconcileLLVFinalizersToRelease drbdr up maintenance) h w := by
  unfold reconcileLLVFinalizersToRelease
  dsimp only
  split
  · refine holds_ask_bind hp.sound fun answer w' hact => ?_
    obtain ⟨w1, hp1, -, hreply, -⟩ := tracked_served (stable_passing drbdr) hp hact
    obtain ⟨hs, -⟩ := patchDRBDRStatus_passing hp1 hreply fun x hx =>
      mem_append_left _ (hp1.covered x hx)
    cases answer <;> exact ⟨hs, fun _ h => nomatch h⟩
  · rename_i hnot
    refine ⟨hp.sound, fun list hlist => ?_⟩
    obtain rfl := Except.ok.inj hlist
    refine ⟨hp, rfl, fun hmaintenance hup htype hname => ?_⟩
    by_contra hmissing
    exact hnot ⟨by simp [hmaintenance], hup, htype, hname, hmissing⟩

theorem Orderly.read_name (ho : Orderly w)
    (hreply : Reply kernel w (.getLLV x) (.ok (some llv)) w') :
    w' = w ∧ llv.name = x ∧ llv.finalizers.count agentFinalizer ≤ 1 := by
  obtain ⟨rfl, ⟨found, hfound, heq⟩ | ⟨err, heq⟩⟩ := hreply
  · obtain rfl := Except.ok.inj heq
    exact ⟨rfl, ho.named x _ hfound llv rfl, ho.single x llv hfound⟩
  · cases heq

variable {answer : Except ApiError LLV}

include hp in
theorem passing_add (hheld : agentFinalizer ∈ drbdr.finalizers)
    (hlist : llv.name ∈ drbdr.llvFinalizersToRelease) (hnot : agentFinalizer ∉ llv.finalizers)
    (hreply : Reply kernel w (.patchLLV
      { llv with finalizers := addFinalizer llv.finalizers agentFinalizer } llv) answer w') :
    Passing drbdr w' := by
  rcases WriteReply.cases hreply with ⟨rfl, -⟩ | ⟨written, hwritten, -⟩
  · exact hp
  obtain ⟨stored, hstored, rfl, rfl⟩ := patchLLV_eq_some hwritten
  have hname : stored.name = llv.name :=
    hp.orderly.named llv.name _ (mem_cons.mpr (.inl hstored.symm)) stored rfl
  have hadded : (stored.patched { llv with finalizers := addFinalizer llv.finalizers agentFinalizer }
      llv (w.revision + 1)).finalizers = llv.finalizers ++ [agentFinalizer] := by
    simp [LLV.patched, mergeValue, addFinalizer, hnot]
  have hcovered : ∀ x, (w.storeLLV llv.name (stored.patched
      { llv with finalizers := addFinalizer llv.finalizers agentFinalizer } llv
      (w.revision + 1))).Carries x → x ∈ drbdr.llvFinalizersToRelease := by
    intro x hx
    rcases carries_storeLLV.mp hx with ⟨rfl, -⟩ | ⟨-, hold⟩
    · exact hlist
    · exact hp.covered x hold
  obtain ⟨owner, howner, hfinalizer, hstatus⟩ := hp.owned hheld
  exact {
    orderly := by
      refine orderly_storeLLV hp.orderly (hp.orderly.name_ne hstored) hname ?_ rfl
      rw [hadded, count_append, count_eq_zero.mpr hnot]
      simp
    recorded := fun x hx => ⟨owner, howner, hfinalizer, by
      unfold DRBDResource.llvFinalizersToRelease
      rw [hstatus]
      exact hcovered x hx⟩
    version := hp.version.trans (Nat.le_succ _)
    versioned := hp.versioned
    covered := hcovered
    owned := hp.owned }

theorem holds_reconcileLLVFinalizerAdd_tracked (attachedDisk : Option Device)
    (hheld : agentFinalizer ∈ drbdr.finalizers)
    (hlist : name ≠ "" → name ∈ drbdr.llvFinalizersToRelease) (hp : Passing drbdr w) :
    SoundPass kernel (fun _ _ w' => Passing drbdr w')
      (reconcileLLVFinalizerAdd name attachedDisk) h w := by
  unfold reconcileLLVFinalizerAdd getLVMLogicalVolume
  split
  · exact hp
  · rename_i hne
    refine holds_bind.mpr (holds_ask_bind hp.sound fun answer w1 hact => ?_)
    have hp1 := (tracked_node (stable_passing drbdr) hp rfl hact).1
    obtain ⟨w0, hp0, -, hreply, -⟩ := tracked_served (stable_passing drbdr) hp hact
    rcases answer with err | _ | llv
    · exact hp1
    · exact hp1
    obtain ⟨-, hname, -⟩ := hp0.orderly.read_name hreply
    change Holds _ _ _ (if llv.deleting then _ else _) _ _
    split
    · split <;> exact hp1
    · split
      · exact holds_stable (stable_passing drbdr) (llvDevicePath_calls read_not_isPatch llv) hp1
      · rename_i hnot
        refine holds_ask_bind hp1.sound fun answer w2 hact2 => ?_
        obtain ⟨w3, hp3, -, hreply2, -⟩ := tracked_served (stable_passing drbdr) hp1 hact2
        have hp2 : Passing drbdr w2 :=
          passing_add hp3 hheld (by rw [hname]; exact hlist hne) hnot hreply2
        cases answer with
        | error err => exact hp2
        | ok llv =>
          exact holds_stable (stable_passing drbdr) (llvDevicePath_calls read_not_isPatch _) hp2

include hp in
theorem passing_release (hmem : agentFinalizer ∈ llv.finalizers)
    (hsingle : llv.finalizers.count agentFinalizer ≤ 1) (hreply : Reply kernel w (.patchLLV
      { llv with finalizers := removeFinalizer llv.finalizers agentFinalizer } llv) answer w') :
    Passing drbdr w' ∧ (∀ x, w'.Carries x → w.Carries x) ∧
      ((∃ result, answer = .ok result) ∨ (∃ message, answer = .error (.notFound message)) →
        ¬ w'.Carries llv.name) := by
  have hpatched : ∀ stored : LLV, agentFinalizer ∉ (stored.patched
      { llv with finalizers := removeFinalizer llv.finalizers agentFinalizer } llv
      (w.revision + 1)).finalizers := by
    intro stored
    have hremoved : agentFinalizer ∉ removeFinalizer llv.finalizers agentFinalizer := by
      refine count_eq_zero.mp ?_
      rw [removeFinalizer, count_erase_self]
      omega
    simp only [LLV.patched, mergeValue]
    split
    · rename_i heq
      rw [heq] at hremoved
      exact absurd hmem hremoved
    · exact hremoved
  rcases WriteReply.cases hreply with ⟨rfl, hrefused⟩ | ⟨written, hwritten, -⟩
  · refine ⟨hp, fun _ hx => hx, ?_⟩
    rintro (⟨result, rfl⟩ | ⟨message, rfl⟩)
    · exact absurd rfl (hrefused result)
    · rintro ⟨found, hfound, -⟩
      rcases hreply with ⟨obj, -, heq⟩ | ⟨err, heq, hmissing, -⟩
      · cases heq
      · obtain rfl := Except.error.inj heq
        have hnone : w'.llvs llv.name = none := hmissing rfl
        rw [hnone] at hfound
        cases hfound
  · obtain ⟨stored, hstored, rfl, hw'⟩ := patchLLV_eq_some hwritten
    have hname : stored.name = llv.name :=
      hp.orderly.named llv.name _ (mem_cons.mpr (.inl hstored.symm)) stored rfl
    have ho : Orderly w' := by
      rw [hw']
      refine orderly_storeLLV hp.orderly (hp.orderly.name_ne hstored) hname ?_ rfl
      rw [count_eq_zero.mpr (hpatched stored)]
      exact Nat.zero_le _
    have hforeign : Foreign w w' := by
      rw [hw']
      exact foreign_storeLLV fun hin => absurd hin (hpatched stored)
    refine ⟨hp.foreign hforeign ho, hforeign.carries, fun _ hcarries => ?_⟩
    rw [hw'] at hcarries
    rcases carries_storeLLV.mp hcarries with ⟨-, hin⟩ | ⟨hne, -⟩
    · exact hpatched stored hin
    · exact hne rfl

theorem holds_releaseLLVFinalizer_tracked (x : String) (hp : Passing drbdr w) :
    SoundPass kernel
      (fun err _ w' => Passing drbdr w' ∧ (∀ y, w'.Carries y → w.Carries y) ∧
        (err = [] → ¬ w'.Carries x))
      (releaseLLVFinalizer x) h w := by
  unfold releaseLLVFinalizer getLVMLogicalVolume
  split
  · rename_i hx
    refine ⟨hp, fun _ hy => hy, fun _ ⟨llv, hllv, _⟩ => ?_⟩
    rw [hx, hp.orderly.unnamed] at hllv
    cases hllv
  · refine holds_bind.mpr (holds_ask_bind hp.sound fun answer w1 hact => ?_)
    obtain ⟨w0, hp0, hforeign, hreply, hcurrent⟩ := tracked_served (stable_passing drbdr) hp hact
    obtain rfl : w1 = w0 := Reply.read hreply rfl
    rcases answer with err | _ | llv
    · exact ⟨hp0, hforeign.carries, fun herr => by simp [failure] at herr⟩
    · refine ⟨hp0, hforeign.carries, fun _ hcarries => ?_⟩
      obtain ⟨llv, hllv, -⟩ := hcurrent none rfl hcarries
      cases hllv
    · obtain ⟨-, hname, hsingle⟩ := hp0.orderly.read_name hreply
      change Holds _ _ _ (if agentFinalizer ∈ llv.finalizers then _ else _) _ _
      split
      · rename_i hmem
        refine holds_ask_bind hp0.sound fun answer w2 hact2 => ?_
        obtain ⟨w3, hp3, hforeign3, hreply2, -⟩ := tracked_served (stable_passing drbdr) hp0 hact2
        obtain ⟨hp2, hfewer, hgone⟩ := passing_release hp3 hmem hsingle hreply2
        rw [hname] at hgone
        have hless : ∀ y, w2.Carries y → w.Carries y :=
          fun y hy => hforeign.carries y (hforeign3.carries y (hfewer y hy))
        rcases answer with (message | message) | result
        · exact ⟨hp2, hless, fun _ => hgone (.inr ⟨message, rfl⟩)⟩
        · exact ⟨hp2, hless, fun herr => by simp [failure] at herr⟩
        · exact ⟨hp2, hless, fun _ => hgone (.inl ⟨result, rfl⟩)⟩
      · rename_i hnot
        refine ⟨hp0, hforeign.carries, fun _ hcarries => ?_⟩
        obtain ⟨found, hfound, hin⟩ := hcurrent (some llv) rfl hcarries
        rw [← some.inj hfound] at hin
        exact hnot hin

theorem holds_releaseLLVFinalizers_tracked (keep : String → Bool) (list : List String)
    (hp : Passing drbdr w) :
    SoundPass kernel
      (fun result _ w' => Passing drbdr w' ∧ (∀ y, w'.Carries y → w.Carries y) ∧
        ∀ x ∈ list, w'.Carries x → x ∈ result.1)
      (releaseLLVFinalizers keep list) h w := by
  induction list generalizing h w with
  | nil => exact ⟨hp, fun _ hy => hy, fun x hx => absurd hx not_mem_nil⟩
  | cons name rest ih =>
    unfold releaseLLVFinalizers
    split
    · refine (ih hp).bind ?_
      rintro ⟨kept, errs⟩ h1 w1 ⟨hp1, hless, hkept⟩
      refine ⟨hp1, hless, fun x hx hcarries => ?_⟩
      rcases mem_cons.mp hx with rfl | hrest
      · exact mem_cons_self
      · exact mem_cons_of_mem _ (hkept x hrest hcarries)
    · refine (holds_releaseLLVFinalizer_tracked name hp).bind ?_
      rintro err h1 w1 ⟨hp1, hless1, hgone⟩
      refine (ih hp1).bind ?_
      rintro ⟨kept, errs⟩ h2 w2 ⟨hp2, hless2, hkept⟩
      refine ⟨hp2, fun y hy => hless1 y (hless2 y hy), fun x hx hcarries => ?_⟩
      change x ∈ if err = [] then kept else name :: kept
      by_cases herr : err = []
      · rw [if_pos herr]
        rcases mem_cons.mp hx with rfl | hrest
        · exact absurd (hless2 x hcarries) (hgone herr)
        · exact hkept x hrest hcarries
      · rw [if_neg herr]
        rcases mem_cons.mp hx with rfl | hrest
        · exact mem_cons_self
        · exact mem_cons_of_mem _ (hkept x hrest hcarries)

theorem holds_dropFinalizer (obj : DRBDResource) (aState : Option ActualState)
    (kept : List String) (up : Bool) (err : Failures) (hs : Sound w)
    (hkept : ∀ x, w.Carries x → x ∈ kept) :
    SoundPass kernel (fun _ _ w' => Sound w') (dropFinalizer obj aState kept up err) h w := by
  unfold dropFinalizer
  split
  · rename_i hdone
    have hnone : Sound w ∧ ∀ x, w.Carries x → False := by
      refine ⟨hs, fun x hx => ?_⟩
      have hin := hkept x hx
      rw [hdone.1] at hin
      cases hin
    have hstable := stable_sound.and_within fun _ => False
    refine Holds.bind (Calls.holds
      (reconcileFinalizer_calls (P := fun c => ∃ o b, c = .patchDRBDR o b true) obj false up
        fun o => ⟨o, obj, rfl⟩)
      (fun _ w _ _ (hinv : Sound w ∧ ∀ x, w.Carries x → False) => hinv.1) ?_ hnone) ?_
    · rintro h1 w1 c answer w2 ⟨o, b, rfl⟩ hinv hact
      obtain ⟨w3, hinv3, -, hreply, -⟩ := tracked_served hstable hinv hact
      rcases WriteReply.cases hreply with ⟨rfl, -⟩ | ⟨written, hwritten, -⟩
      · exact hinv3
      · obtain ⟨stored, -, -, rfl, rfl⟩ := written_eq_some hwritten
        exact ⟨⟨orderly_storeDRBDR hinv3.1.1 rfl,
          recorded_storeDRBDR fun x hx => (hinv3.2 x hx).elim⟩, hinv3.2⟩
    · rintro result h1 w1 ⟨hs1, -⟩
      rcases result with (_ | _ | _) | _ <;> exact hs1
  · exact hs

theorem holds_reportAndRelease_tracked (converged : Converged) (list : List String)
    (err : Failures) (up maintenance : Bool) (hp : Passing drbdr w)
    (hlist : list = drbdr.llvFinalizersToRelease) :
    SoundPass kernel (fun _ _ w' => Sound w')
      (reportAndRelease drbdr converged list err up maintenance) h w := by
  unfold reportAndRelease
  refine (holds_stable (stable_passing drbdr)
    (computeActualLLVName_calls read_not_isPatch _) hp).bind fun current h1 w1 hp1 => ?_
  refine (holds_releaseLLVFinalizers_tracked _ list hp1).bind ?_
  rintro ⟨kept, releaseErr⟩ h2 w2 ⟨hp2, -, hkept⟩
  have hwithin : ∀ x, w2.Carries x → x ∈ kept := fun x hx => by
    refine hkept x ?_ hx
    rw [hlist]
    exact hp2.covered x hx
  have hpatched : ∀ obj : DRBDResource, obj.llvFinalizersToRelease = kept → ∀ errs,
      SoundPass kernel
        (fun _ _ w' => Sound w' ∧ ∀ x, w'.Carries x → x ∈ kept)
        (patchReportedStatus obj drbdr errs) h2 w2 := by
    intro obj hobj errs
    unfold patchReportedStatus
    split
    · exact ⟨hp2.sound, hwithin⟩
    · refine holds_ask_bind hp2.sound fun answer w3 hact => ?_
      obtain ⟨w4, ⟨hp4, hwithin4⟩, -, hreply, -⟩ :=
        tracked_served ((stable_passing drbdr).and_within (· ∈ kept)) ⟨hp2, hwithin⟩ hact
      obtain ⟨hs, hless, -⟩ := patchDRBDRStatus_passing hp4 hreply fun x hx => by
        rw [hobj]
        exact hwithin4 x hx
      have hpost : Sound w3 ∧ ∀ x, w3.Carries x → x ∈ kept :=
        ⟨hs, fun x hx => hwithin4 x (hless x hx)⟩
      cases answer with
      | error err =>
        dsimp only
        split <;> exact hpost
      | ok obj => exact hpost
  refine (hpatched _ rfl _).bind ?_
  rintro ⟨obj, errs⟩ h3 w3 ⟨hs, hwithin3⟩
  exact holds_dropFinalizer obj converged.aState kept up errs hs hwithin3

theorem holds_reconcileHeld_tracked (observed : Option ActualState × Failures)
    (list : List String) (up maintenance : Bool) (hp : Passing drbdr w)
    (hheld : up = true → agentFinalizer ∈ drbdr.finalizers)
    (hlist : list = drbdr.llvFinalizersToRelease)
    (hspec : maintenance = false → up = true → drbdr.spec.type = .diskful →
      drbdr.spec.lvmLogicalVolumeName ≠ "" → drbdr.spec.lvmLogicalVolumeName ∈ list) :
    SoundPass kernel (fun _ _ w' => Sound w')
      (reconcileHeld r drbdr observed list up maintenance) h w := by
  unfold reconcileHeld
  have hadd : SoundPass kernel (fun _ _ w' => Passing drbdr w')
      (if !maintenance ∧ drbdr.spec.type = .diskful ∧ up then
        reconcileLLVFinalizerAdd drbdr.spec.lvmLogicalVolumeName (actualBackingDisk observed.1)
      else return (none, [])) h w := by
    split
    · rename_i hcond
      obtain ⟨hmaintenance, htype, hup⟩ := hcond
      refine holds_reconcileLLVFinalizerAdd_tracked _ _ (hheld hup) (fun hne => ?_) hp
      rw [← hlist]
      exact hspec (by simpa using hmaintenance) hup htype hne
    · exact hp
  refine hadd.bind fun disk h1 w1 hp1 => ?_
  refine (holds_stable (stable_passing drbdr) (reconcileDRBDState_calls
    read_not_isPatch r drbdr observed disk.1 up maintenance fun _ => rfl) hp1).bind
    fun converged h2 w2 hp2 => ?_
  exact holds_reportAndRelease_tracked converged list disk.2 up maintenance hp2 hlist

include hp in
theorem holds_reconcileFinalized_tracked (hheld : InUseHeld drbdr) :
    SoundPass kernel (fun _ _ w' => Sound w') (reconcileFinalized r drbdr maintenance) h w := by
  unfold reconcileFinalized
  refine (holds_stable (stable_passing drbdr)
    (observeActualDRBDState_calls read_not_isPatch _) hp).bind fun observed h1 w1 hp1 => ?_
  refine (holds_reconcileAddresses r _ hp1).bind ?_
  rintro result h2 w2 ⟨hs2, hresult⟩
  cases result with
  | error outcome => exact hs2
  | ok obj =>
    obtain ⟨hp2, hfinalizers⟩ := hresult obj rfl
    refine (holds_reconcileLLVFinalizersToRelease _ maintenance hp2).bind ?_
    rintro result h3 w3 ⟨hs3, hresult3⟩
    cases result with
    | error outcome => exact hs3
    | ok list =>
      obtain ⟨hp3, hlist, hspec⟩ := hresult3 list rfl
      refine holds_reconcileHeld_tracked r _ list _ maintenance hp3 (fun hup => ?_) hlist hspec
      rw [hfinalizers]
      exact hheld hup

include hp hdeleted in
theorem holds_reconcileDRBDR_tracked :
    SoundPass kernel (fun _ _ w' => Sound w') (reconcileDRBDR r drbdr) h w := by
  unfold reconcileDRBDR
  split
  · exact holds_reconcileActualNameOnTheNode hp.sound
  · refine (holds_reconcileFinalizer_add hp hdeleted).bind ?_
    rintro result h1 w1 ⟨hs1, hresult⟩
    cases result with
    | error outcome => exact hs1
    | ok obj =>
      obtain ⟨hp1, hheld⟩ := hresult obj rfl
      exact holds_reconcileFinalized_tracked r _ hp1 hheld

theorem reconcileOrphanDRBD_calls :
    CallsOnly (fun c => c.isPatch = false) (reconcileOrphanDRBD name) := by
  unfold reconcileOrphanDRBD
  refine calls_ask_bind rfl fun answer => ?_
  rcases answer with _ | _ | _
  · trivial
  · trivial
  · exact calls_ask_bind rfl fun _ => (executeAction_calls (P := fun c => c.isPatch = false)
      _ rfl).bind fun _ => trivial

theorem holds_reconcile_tracked (hs : Sound w) :
    SoundPass kernel (fun _ _ w' => Sound w') (reconcile r name) h w := by
  unfold reconcile
  refine holds_ask_bind hs fun answer w1 hact => ?_
  obtain ⟨w0, hs0, -, hreply, hcurrent⟩ := tracked_served stable_sound hs hact
  obtain rfl : w1 = w0 := Reply.read hreply rfl
  rcases answer with err | _ | drbdr
  · exact hs0
  · exact holds_stable stable_sound (reconcileOrphanDRBD_calls name) hs0
  · obtain ⟨hstored, hdeleted⟩ := hcurrent (some drbdr) rfl
    change Holds _ _ _ (if drbdr.spec.nodeName ≠ r.nodeName then _ else _) _ _
    split
    · exact hs0
    · -- The object read is the stored one, so its list has all that is owed.
      refine holds_reconcileDRBDR_tracked r ?_ (hdeleted drbdr rfl)
      exact {
        orderly := hs0.1
        recorded := hs0.2
        version := hs0.1.drbdrVersion drbdr hstored.symm
        versioned := fun stored h _ => some.inj (h.symm.trans hstored.symm)
        covered := fun x hx => by
          obtain ⟨d, hd, -, hlist⟩ := hs0.2 x hx
          obtain rfl := some.inj (hd.symm.trans hstored.symm)
          exact hlist
        owned := fun hmem => ⟨drbdr, hstored.symm, hmem, rfl⟩ }

end Phases

/-- A run goes on by a pass of the agent that ends anywhere, at its end or in a crash, or by a
write of others. `act` says how calls are served. -/
inductive RunStep (act : Act agentInterface World) (r : Reconciler) (name : String) (w : World) :
    World → Prop where
  | pass {h' : List AgentEvent} {w' : World} {p' : Prog Outcome}
      (hrun : Runs act [] w (reconcile r name) h' w' p') : RunStep act r name w w'
  | other {w' : World} (hwrite : OtherWrite w w') : RunStep act r name w w'

theorem RunStep.sound {kernel : Kernel} {r : Reconciler} {name : String} {w w' : World}
    (hstep : RunStep (tracked kernel) r name w w') (hs : Sound w) : Sound w' := by
  cases hstep with
  | @pass h' w' p' hrun =>
    have hpass := (holds_reconcile_tracked r name hs).run hrun
    cases p' with
    | ret outcome => exact hpass
    | call c k => exact hpass.1
  | other hwrite =>
    obtain ⟨ho, hforeign⟩ := hwrite.foreign hs.1
    exact ⟨ho, hforeign.recorded hs.2⟩

/-- In every run of passes that crash or end anywhere, with writes that fail before or after they
took effect and with others writing between any two calls, every volume that carries the agent's
finalizer is recorded in the stored DRBDResource, which carries the finalizer as well, as long as
the reads are current enough. -/
theorem finalizers_recorded_while_reads_current (kernel : Kernel) (r : Reconciler)
    (name : String) (w : World) (horderly : Orderly w) (hrecorded : Recorded w) {w' : World}
    (hrun : Relation.ReflTransGen (RunStep (tracked kernel) r name) w w') : Recorded w' := by
  have hsound : Sound w' := by
    induction hrun with
    | refl => exact ⟨horderly, hrecorded⟩
    | tail _ hstep ih => exact hstep.sound ih
  exact hsound.2

def earlierLLV : LLV := { llvA with resourceVersion := 0, finalizers := [] }

/-- The retyped replica, with the earlier version of its volume still in the cache. -/
def laggingWorld : World :=
  { retypedWorld with llvPast := update (fun _ => []) "llv-a" [some earlierLLV] }

def volumesLag (w : World) : (c : Call) → c.Answer × World
  | .getLLV name => (.ok (((w.llvPast name).head?).getD (w.llvs name)), w)
  | c => respond plainKernel w c

theorem volumesLag_reply (w : World) (c : Call) :
    Reply plainKernel w c (volumesLag w c).1 (volumesLag w c).2 := by
  cases c with
  | getLLV name =>
    refine ⟨rfl, .inl ⟨_, ?_, rfl⟩⟩
    cases hpast : w.llvPast name with
    | nil => simp
    | cons old rest => simp
  | _ => exact respond_reply plainKernel w _

theorem laggingWorld_versions (h : some llv ∈ laggingWorld.llvs x :: laggingWorld.llvPast x) :
    x = "llv-a" ∧ (llv = llvA ∨ llv = earlierLLV) := by
  by_cases hx : x = "llv-a"
  · subst hx
    have hboth : some llv = some llvA ∨ some llv = some earlierLLV := by
      simpa [laggingWorld, retypedWorld, plainWorld] using h
    exact ⟨rfl, hboth.imp some.inj some.inj⟩
  · simp [laggingWorld, retypedWorld, plainWorld, hx] at h

theorem laggingWorld_orderly : Orderly laggingWorld where
  named x o ho llv hllv := by
    subst hllv
    obtain ⟨rfl, rfl | rfl⟩ := laggingWorld_versions ho <;> rfl
  unnamed := by decide
  single x llv h := by obtain ⟨-, rfl | rfl⟩ := laggingWorld_versions h <;> decide
  version x llv h := by obtain ⟨-, rfl | rfl⟩ := laggingWorld_versions h <;> decide
  versioned x stored llv hstored hpast heq := by
    obtain ⟨rfl, -⟩ := laggingWorld_versions (mem_cons_of_mem _ hpast)
    obtain rfl : earlierLLV = llv := by simpa [laggingWorld, eq_comm] using hpast
    obtain rfl : llvA = stored := by simpa [laggingWorld, retypedWorld, plainWorld] using hstored
    exact absurd heq (by decide)
  drbdrVersion drbdr h := by
    rw [← some.inj h]
    decide

theorem laggingWorld_recorded : Recorded laggingWorld := by
  rintro x ⟨llv, hllv, -⟩
  obtain ⟨rfl, -⟩ := laggingWorld_versions (mem_cons.mpr (.inl hllv.symm))
  exact ⟨retypedResource, rfl, by decide, by decide⟩

theorem not_recorded {w : World} (hcarries : (w.llvs x).any (agentFinalizer ∈ ·.finalizers) = true)
    (hlost : w.drbdr.all (fun d => agentFinalizer ∉ d.finalizers ∨
      x ∉ d.llvFinalizersToRelease) = true) : ¬ Recorded w := by
  intro hrecorded
  have hx : w.Carries x := by
    cases hllv : w.llvs x with
    | none => simp [hllv] at hcarries
    | some llv => exact ⟨llv, hllv, by simpa [hllv] using hcarries⟩
  obtain ⟨drbdr, hdrbdr, hfinalizer, hlist⟩ := hrecorded x hx
  have hor : agentFinalizer ∉ drbdr.finalizers ∨ x ∉ drbdr.llvFinalizersToRelease := by
    simpa [hdrbdr] using hlost
  exact hor.elim (absurd hfinalizer) (absurd hlist)

/-- The read of the volume misses the finalizer, so nothing is released, and the record goes. -/
theorem outdated_volume_read_drops_record :
    Orderly laggingWorld ∧ Recorded laggingWorld ∧
    ∃ h' w' outcome, Runs (interleaved plainKernel) [] laggingWorld
        (reconcile plainReconciler "r1") h' w' (.ret outcome) ∧
      w'.llvs "llv-a" = some llvA ∧ agentFinalizer ∈ llvA.finalizers ∧
      w'.drbdr.map (·.llvFinalizersToRelease) = some [] ∧ ¬ Recorded w' := by
  have hdone : (afterCalls volumesLag 12 (reconcile plainReconciler "r1")
      laggingWorld).2.2.result.isSome = true := by
    decide +kernel
  have hvolume : (afterCalls volumesLag 12 (reconcile plainReconciler "r1")
      laggingWorld).2.1.llvs "llv-a" = some llvA := by
    decide +kernel
  obtain ⟨outcome, houtcome⟩ := isSome_iff_exists.mp hdone
  have hrun := runs_afterCalls volumesLag volumesLag_reply 12 (reconcile plainReconciler "r1")
    laggingWorld
  rw [Program.result_eq_some houtcome] at hrun
  exact ⟨laggingWorld_orderly, laggingWorld_recorded, _, _, outcome, runs_interleaved hrun,
    hvolume, by decide, by decide +kernel, not_recorded (x := "llv-a") (by decide +kernel)
      (by decide +kernel)⟩

/-- A node on which nothing is held yet: the stored DRBDResource and its version before. -/
def unheldWorld (drbdr past : DRBDResource) : World :=
  { plainWorld with
    revision := 2
    drbdr := some drbdr
    drbdrPast := [some past]
    llvs := update (fun _ => none) "llv-a" (some earlierLLV) }

theorem unheldWorld_recorded (drbdr past : DRBDResource) : Recorded (unheldWorld drbdr past) := by
  rintro x ⟨llv, hllv, hmem⟩
  by_cases hx : x = "llv-a"
  · subst hx
    obtain rfl : earlierLLV = llv := by simpa [unheldWorld] using hllv
    exact absurd hmem (by decide)
  · simp [unheldWorld, hx] at hllv

def releasedResource : DRBDResource :=
  { retypedResource with
    resourceVersion := 2
    status := { retypedResource.status with activeConfiguration := some .empty } }

/-- Everything works, but the DRBDResource is read in the version before the last. -/
def resourceLags (w : World) : (c : Call) → c.Answer × World
  | .getDRBDR _ => (.ok ((w.drbdrPast.head?).getD w.drbdr), w)
  | c => respond plainKernel w c

theorem resourceLags_reply (w : World) (c : Call) :
    Reply plainKernel w c (resourceLags w c).1 (resourceLags w c).2 := by
  cases c with
  | getDRBDR name =>
    refine ⟨rfl, .inl ⟨_, ?_, rfl⟩⟩
    cases w.drbdrPast <;> simp
  | _ => exact respond_reply plainKernel w _

/-- The version read still records the volume, so the pass adds the finalizer; the stored one
does not. -/
theorem outdated_resource_read_holds_unrecorded :
    Recorded (unheldWorld releasedResource plainResource) ∧
    ∃ h' w' p', Runs (interleaved plainKernel) [] (unheldWorld releasedResource plainResource)
      (reconcile plainReconciler "r1") h' w' p' ∧ ¬ Recorded w' :=
  ⟨unheldWorld_recorded _ _, _, _, _, runs_interleaved (runs_afterCalls resourceLags
    resourceLags_reply 5 _ _), not_recorded (x := "llv-a") (by decide +kernel) (by decide +kernel)⟩

def deletedResource : DRBDResource :=
  { plainResource with
    resourceVersion := 2, deleting := true, finalizers := [rvrControllerFinalizer] }

theorem deleted_resource_holds_volume :
    Recorded (unheldWorld deletedResource plainResource) ∧
    ∃ h' w' p', Runs (interleaved plainKernel) [] (unheldWorld deletedResource plainResource)
      (reconcile plainReconciler "r1") h' w' p' ∧ ¬ Recorded w' :=
  ⟨unheldWorld_recorded _ _, _, _, _, runs_interleaved (runs_afterCalls (respond plainKernel)
    (respond_reply plainKernel) 5 _ _), not_recorded (x := "llv-a") (by decide +kernel)
      (by decide +kernel)⟩

def respondCurrent (w : World) : (c : Call) → c.Answer × World
  | .getDRBDR _ => if w.drbdr.any (·.deleting) then (.error "not served", w) else (.ok w.drbdr, w)
  | c => respond plainKernel w c

theorem respondCurrent_tracked (w : World) (c : Call) :
    tracked plainKernel w c (respondCurrent w c).1 (respondCurrent w c).2 := by
  refine ⟨w, .refl, ?_⟩
  cases c with
  | getDRBDR name =>
    simp only [respondCurrent]
    split
    · exact ⟨⟨rfl, .inr ⟨_, rfl⟩⟩, fun _ h => nomatch h⟩
    · rename_i hlive
      refine ⟨⟨rfl, .inl ⟨_, mem_cons_self, rfl⟩⟩, fun found hfound => ?_⟩
      obtain rfl := Except.ok.inj hfound
      refine ⟨rfl, fun drbdr hdrbdr _ hdeleting => absurd ?_ hlive⟩
      simp [hdrbdr, hdeleting]
  | getLLV name =>
    refine ⟨respond_reply plainKernel w _, fun found hfound hcarries => ?_⟩
    obtain rfl := Except.ok.inj hfound
    exact hcarries
  | _ => exact ⟨respond_reply plainKernel w _, trivial⟩

theorem unheldWorld_orderly : Orderly (unheldWorld plainResource plainResource) := by
  have hversions : ∀ x llv, some llv ∈ (unheldWorld plainResource plainResource).llvs x ::
      (unheldWorld plainResource plainResource).llvPast x → x = "llv-a" ∧ llv = earlierLLV := by
    intro x llv h
    by_cases hx : x = "llv-a"
    · subst hx
      exact ⟨rfl, by simpa [unheldWorld, plainWorld] using h⟩
    · simp [unheldWorld, plainWorld, hx] at h
  exact {
    named := fun x o ho llv hllv => by
      subst hllv
      obtain ⟨rfl, rfl⟩ := hversions x llv ho
      rfl
    unnamed := by decide
    single := fun x llv h => by
      rw [(hversions x llv h).2]
      decide
    version := fun x llv h => by
      rw [(hversions x llv h).2]
      decide
    versioned := fun x stored llv _ hpast => absurd hpast (by simp [unheldWorld, plainWorld])
    drbdrVersion := fun drbdr h => by
      rw [← some.inj h]
      decide }

/-- A pass that reads what is stored adds the finalizer to a recorded volume. -/
theorem current_reads_hold_recorded :
    ∃ w', Relation.ReflTransGen (RunStep (tracked plainKernel) plainReconciler "r1")
        (unheldWorld plainResource plainResource) w' ∧
      w'.Carries "llv-a" ∧ Recorded w' := by
  have hvolume : (afterCalls respondCurrent 5 (reconcile plainReconciler "r1")
      (unheldWorld plainResource plainResource)).2.1.llvs "llv-a" =
      some { llvA with resourceVersion := 3 } := by
    decide +kernel
  have hrun : Relation.ReflTransGen (RunStep (tracked plainKernel) plainReconciler "r1")
      (unheldWorld plainResource plainResource)
      (afterCalls respondCurrent 5 (reconcile plainReconciler "r1")
        (unheldWorld plainResource plainResource)).2.1 :=
    .single (.pass (runs_steps (fun _ w c => respondCurrent_tracked w c) 5 _ [] _))
  exact ⟨_, hrun, ⟨_, hvolume, by decide⟩, finalizers_recorded_while_reads_current plainKernel
    plainReconciler "r1" _ unheldWorld_orderly (unheldWorld_recorded _ _) hrun⟩

end ReplicatedVolume.Agent
