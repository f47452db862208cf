import ReplicatedVolume.Safety.Metadata

/-!
# Releasing a logical volume

The release at the end of a pass spares the volume whose device is attached. Which one that is comes
from a lookup that gives the same empty name for a resource without a disk and for one that could
not be observed. While all queries of the pass are answered, what is released is not attached.
-/

namespace ReplicatedVolume.Agent
open Interaction List Option Function

variable {c : Call} {w w' : World} {action : Action} {a : ActualState} {answer : c.Answer}
  {e : AgentEvent} {α : Type}

def failedQuery : AgentEvent → Bool
  | ⟨.status _, .error _⟩ => true
  | ⟨.showConfig _, .error _⟩ => true
  | ⟨.listLVGs, .error _⟩ => true
  | ⟨.listLLVs _, .error _⟩ => true
  | _ => false

def QueriesAnswered (h : List AgentEvent) : Prop := ∀ e ∈ h, failedQuery e = false

def Call.releases : Call → Option String
  | .patchLLV obj base =>
    if agentFinalizer ∈ base.finalizers ∧
        obj.finalizers = removeFinalizer base.finalizers agentFinalizer then some obj.name
    else none
  | _ => none

def World.DeviceOf (w : World) (x : String) (dev : Device) : Prop :=
  ∃ llv lvg, w.llvs x = some llv ∧ lvg ∈ w.lvgs ∧ lvg.name = llv.lvmVolumeGroupName ∧
    dev = formatLVMDevicePath lvg.actualVGNameOnTheNode llv.actualLVNameOnTheNode

def World.Backs (w : World) (n : String) (dev : Device) : Prop :=
  ∃ k, w.resources n = some k ∧ ∃ v ∈ k.volumes, v.backingDisk = some dev

/-- No volume released in the history backs the resource. The objects are those at the start of
the pass, the kernel is the one of `w`. -/
def ReleasedDetached (start : World) (n : String) (h : List AgentEvent) (w : World) : Prop :=
  ∀ e ∈ h, ∀ x, e.1.releases = some x → ∀ dev, start.DeviceOf x dev → ¬ w.Backs n dev

/-- Names of volume groups and places of volumes are unique, objects are stored under their
names, and the resource has at most one volume. -/
structure Identified (w : World) (n : String) : Prop where
  groups : ∀ a ∈ w.lvgs, ∀ b ∈ w.lvgs, a.actualVGNameOnTheNode = b.actualVGNameOnTheNode → a = b
  volumes : ∀ x y a b, w.llvs x = some a → w.llvs y = some b →
    a.lvmVolumeGroupName = b.lvmVolumeGroupName →
    a.actualLVNameOnTheNode = b.actualLVNameOnTheNode → x = y
  named : ∀ x, ∀ o ∈ w.llvs x :: w.llvPast x, ∀ llv, o = some llv → llv.name = x
  single : ∀ k, w.resources n = some k → k.volumes.length ≤ 1

def Call.Quiet (c : Call) : Prop :=
  c.isRead = true ∨ (∃ obj base lock, c = .patchDRBDR obj base lock) ∨
  (∃ obj base lock, c = .patchDRBDRStatus obj base lock) ∨
  ∃ llv : LLV, agentFinalizer ∉ llv.finalizers ∧ c = .patchLLV
    { llv with finalizers := addFinalizer llv.finalizers agentFinalizer } llv

theorem Call.Quiet.releases (hquiet : c.Quiet) : c.releases = none := by
  rcases hquiet with hread | ⟨obj, base, lock, rfl⟩ | ⟨obj, base, lock, rfl⟩ | ⟨llv, hnot, rfl⟩
  · cases c <;> first | rfl | cases hread
  · rfl
  · rfl
  · exact if_neg fun hboth => hnot hboth.1

def LLV.place (llv : LLV) : String × String × String :=
  (llv.name, llv.lvmVolumeGroupName, llv.actualLVNameOnTheNode)

/-- The volume objects of `start` are still there, at the same places and under their names. -/
structure SameVolumes (start w : World) : Prop where
  lvgs : w.lvgs = start.lvgs
  places : ∀ x, (w.llvs x).map LLV.place = (start.llvs x).map LLV.place
  named : ∀ x, ∀ o ∈ w.llvs x :: w.llvPast x, ∀ llv, o = some llv → llv.name = x

theorem named_storeLLV {stored llv : LLV} {name : String}
    (hnamed : ∀ x, ∀ o ∈ w.llvs x :: w.llvPast x, ∀ llv, o = some llv → llv.name = x)
    (hstored : w.llvs name = some stored) (hname : llv.name = stored.name) :
    ∀ x, ∀ o ∈ (w.storeLLV name llv).llvs x :: (w.storeLLV name llv).llvPast x,
      ∀ llv, o = some llv → llv.name = x := by
  have hself : llv.name = name := hname.trans (hnamed name _ mem_cons_self stored hstored)
  intro x o ho found hfound
  by_cases hx : x = name
  · subst hx
    simp only [World.storeLLV, update_self, mem_cons] at ho
    rcases ho with rfl | rfl | ho
    · split at hfound
      · cases hfound
      · rwa [← some.inj hfound]
    · exact hnamed x _ mem_cons_self found hfound
    · exact hnamed x o (mem_cons_of_mem _ ho) found hfound
  · simp only [World.storeLLV, update_of_ne hx] at ho
    exact hnamed x o ho found hfound

theorem patchLLV_eq_some {obj base result : LLV} (h : w.patchLLV obj base = some (result, w')) :
    ∃ stored, w.llvs obj.name = some stored ∧
      result = stored.patched obj base (w.revision + 1) ∧ w' = w.storeLLV obj.name result := by
  obtain ⟨stored, hstored, heq⟩ := map_eq_some_iff.mp h
  obtain ⟨rfl, rfl⟩ := Prod.mk.inj heq
  exact ⟨stored, hstored, rfl, rfl⟩

theorem WriteReply.world {missing : Prop} {result : Option (α × World)}
    {answer : Except ApiError α} (h : WriteReply w missing result answer w') :
    w' = w ∨ ∃ obj, result = some (obj, w') := by
  rcases h with ⟨obj, hresult, -⟩ | ⟨err, -, -, hworld⟩
  · exact .inr ⟨obj, hresult⟩
  · exact hworld

theorem addFinalizer_ne_nil (finalizers : List String) (finalizer : String) :
    addFinalizer finalizers finalizer ≠ [] := by
  unfold addFinalizer
  split
  · rename_i hmem
    exact ne_nil_of_mem hmem
  · simp

theorem Reply.quiet {kernel : Kernel} {start : World}
    (hreply : Reply kernel w c answer w') (hquiet : c.Quiet) (hsame : SameVolumes start w) :
    w'.resources = w.resources ∧ SameVolumes start w' := by
  rcases hquiet with hread | ⟨obj, base, lock, rfl⟩ | ⟨obj, base, lock, rfl⟩ | ⟨llv, hnot, rfl⟩
  · rw [Reply.read hreply hread]
    exact ⟨rfl, hsame⟩
  iterate 2
    · rcases WriteReply.world hreply with rfl | ⟨result, hresult⟩
      · exact ⟨rfl, hsame⟩
      · obtain ⟨stored, -, -, -, rfl⟩ := written_eq_some hresult
        exact ⟨rfl, hsame.lvgs, hsame.places, hsame.named⟩
  · rcases WriteReply.world hreply with rfl | ⟨result, hresult⟩
    · exact ⟨rfl, hsame⟩
    · obtain ⟨stored, hstored, hpatched, rfl⟩ := patchLLV_eq_some hresult
      have hname : result.name = stored.name := by rw [hpatched]; rfl
      refine ⟨rfl, hsame.lvgs, fun x => ?_, named_storeLLV hsame.named hstored hname⟩
      by_cases hx : x = llv.name
      · subst hx
        -- The patched list holds the agent's finalizer, so the object stays.
        have hfinalizers : result.finalizers ≠ [] := by
          rw [hpatched]
          have hchanged : addFinalizer llv.finalizers agentFinalizer ≠ llv.finalizers := by
            simp [addFinalizer, hnot]
          simp only [LLV.patched, mergeValue, if_neg hchanged]
          exact addFinalizer_ne_nil _ _
        have hkeep : (w.storeLLV llv.name result).llvs llv.name = some result := by
          simp [World.storeLLV, hfinalizers]
        rw [show (w.storeLLV _ result).llvs llv.name = some result from hkeep,
          ← hsame.places llv.name, hstored, hpatched]
        rfl
      · rw [← hsame.places x]
        simp only [World.storeLLV, update_of_ne hx]

section Pass

variable {kernel : Kernel} {start : World} {n : String} {h : List AgentEvent} {w : World}

theorem QueriesAnswered.mono {h h' : List AgentEvent} (hh' : QueriesAnswered h')
    (hsub : ∀ e ∈ h, e ∈ h') : QueriesAnswered h :=
  fun e he => hh' e (hsub e he)

theorem not_queriesAnswered (hfailed : failedQuery e = true) : ¬ QueriesAnswered (h ++ [e]) := by
  intro hanswered
  have := hanswered e (mem_append_right _ mem_cons_self)
  rw [hfailed] at this
  cases this

def ReleasePre (start : World) (n : String) (h : List AgentEvent) (w : World) : Prop :=
  QueriesAnswered h → ReleasedDetached start n h w

abbrev Releases {α : Type} (kernel : Kernel) (start : World) (n : String)
    (post : α → List AgentEvent → World → Prop) (p : Prog α) (h : List AgentEvent) (w : World) : Prop :=
  Holds (answers kernel) (fun h w _ => ReleasePre start n h w) post p h w

def NoRelease (h : List AgentEvent) : Prop := ∀ e ∈ h, e.1.releases = none

theorem NoRelease.pre (hnone : NoRelease h) : ReleasePre start n h w := by
  intro _ e he x hx
  rw [hnone e he] at hx
  cases hx

theorem NoRelease.append (hnone : NoRelease h) (he : e.1.releases = none) :
    NoRelease (h ++ [e]) := by
  intro e' he'
  rcases mem_append.mp he' with hold | hnew
  · exact hnone e' hold
  · rwa [mem_singleton.mp hnew]

theorem holds_quiet {p : Prog α} (hp : CallsOnly Call.Quiet p)
    (hsame : SameVolumes start w) (hnone : NoRelease h) :
    Releases kernel start n
      (fun _ h' w' => (∀ e ∈ h, e ∈ h') ∧ w'.resources = w.resources ∧ SameVolumes start w' ∧
        NoRelease h') p h w := by
  refine Calls.holds hp (fun _ _ _ _ hinv => hinv.2.2.2.pre) ?_ ⟨fun e he => he, rfl, hsame, hnone⟩
  rintro h1 w1 c answer w' hquiet ⟨hsub, hresources, hsame1, hnone1⟩ hreply
  obtain ⟨hkernel, hsame'⟩ := Reply.quiet hreply hquiet hsame1
  exact ⟨fun e he => mem_append_left _ (hsub e he), hkernel.trans hresources, hsame',
    hnone1.append hquiet.releases⟩

theorem quiet_read (c : Call) (hread : c.isRead = true) : c.Quiet := .inl hread

def Observes (w : World) (n : String) (a : ActualState) : Prop :=
  a.status = (w.resources n).map (·.status) ∧ a.shown = (w.resources n).map (·.shown)

theorem Observes.of_resources (hobs : Observes w n a)
    (hresources : w'.resources = w.resources) : Observes w' n a := by
  unfold Observes
  rwa [hresources]

theorem observeActualDRBDState_observes (n : String) :
    Yields (answers kernel)
      (fun result h' w' => w' = w ∧
        (∀ a, result.1 = some a → result.2 = [] ∧ Observes w n a) ∧
        (QueriesAnswered h' → result.1.isSome = true))
      (observeActualDRBDState n) h w := by
  unfold observeActualDRBDState
  refine holds_ask_bind trivial fun answer w1 hreply => ?_
  obtain ⟨rfl, hanswer⟩ := hreply
  rcases answer with err | status
  · exact ⟨rfl, nofun, fun hq => absurd hq (not_queriesAnswered rfl)⟩
  have hstatus : status = (w1.resources n).map (·.status) := answered_eq hanswer
  cases status with
  | none =>
    refine ⟨rfl, fun a ha => ⟨rfl, ?_⟩, fun _ => rfl⟩
    have hnone : w1.resources n = none := by simpa using hstatus.symm
    obtain rfl := some.inj ha
    simp [Observes, hnone]
  | some status =>
    refine holds_ask_bind trivial fun answer w2 hreply => ?_
    obtain ⟨rfl, hanswer⟩ := hreply
    rcases answer with err | sh
    · exact ⟨rfl, nofun, fun hq => absurd hq (not_queriesAnswered rfl)⟩
    refine ⟨rfl, fun a ha => ⟨rfl, ?_⟩, fun _ => rfl⟩
    obtain rfl := some.inj ha
    exact ⟨hstatus, answered_eq hanswer⟩

variable (flant : Bool) (fresh : String) (r : Reconciler) (drbdr : DRBDResource)
  (maintenance : Bool) (hname : drbdResourceNameOnTheNode drbdr = n) (i : IntendedState)
  (aState : Option ActualState) (actions : List Action) (hid : Identified start n)
  (hsame : SameVolumes start w) (observed : Option ActualState × Failures) (dev : Option Device)
  (list : List String) (up : Bool)

theorem observeDisk_observes
    (uuid : String) (hobserved : ∀ a, observed.1 = some a → observed.2 = [] ∧ Observes w n a) :
    Yields (answers kernel)
      (fun result _ w' => w' = w ∧ result.1.isSome = observed.1.isSome ∧
        ∀ a, result.1 = some a → Observes w n a)
      (observeDisk observed dev uuid) h w := by
  obtain ⟨aState, err⟩ := observed
  cases aState with
  | none => exact ⟨rfl, rfl, nofun⟩
  | some a =>
    obtain ⟨rfl, hobs⟩ := hobserved a rfl
    have hprobe : Holds (answers kernel) (MetadataPre "") _ (observeActualDiskState a dev uuid) h w :=
      holds_observeActualDiskState a dev uuid
    refine holds_bind.mpr (hprobe.mono (fun _ _ _ _ => trivial) ?_)
    rintro ⟨a', diskErr⟩ h' w' ⟨rfl, hst, hsh, -⟩
    refine ⟨rfl, rfl, fun b hb => ?_⟩
    obtain rfl := some.inj hb
    exact ⟨hst.trans hobs.1, hsh.trans hobs.2⟩

def World.volumeCount (w : World) (n : String) : ℕ :=
  ((w.resources n).map (·.volumes.length)).getD 0

theorem Observes.backs (hobs : Observes w n a) (hcount : w.volumeCount n ≤ 1)
    {dev : Device} (hbacks : w.Backs n dev) : actualBackingDisk (some a) = some dev := by
  obtain ⟨k, hk, v, hv, hdev⟩ := hbacks
  obtain ⟨hstatus, hshown⟩ := hobs
  rw [hk, map_some] at hstatus hshown
  have hone : k.volumes = [v] := by
    have hlength : k.volumes.length ≤ 1 := by simpa [World.volumeCount, hk] using hcount
    match hvolumes : k.volumes with
    | [] => simp [hvolumes] at hv
    | [v'] =>
      rw [hvolumes] at hv
      rw [mem_singleton.mp hv]
    | v1 :: v2 :: rest => simp [hvolumes] at hlength
  simp [actualBackingDisk, ActualState.volumes, ActualState.showVolume, hstatus, hshown,
    KernelResource.status, KernelResource.shown, hone, ActualVolume.backingDisk, hdev]

def Action.createsMinor : Action → Bool
  | .newMinor _ _ _ => true
  | _ => false

theorem effect_volumeCount (action : Action) :
    (w.effect kernel action).volumeCount n ≤
      w.volumeCount n + if action.createsMinor then 1 else 0 := by
  have honResource : ∀ (name : String) (f : KernelResource → KernelResource) (d : ℕ),
      (∀ k, (f k).volumes.length ≤ k.volumes.length + d) →
      (w.onResource name f).volumeCount n ≤ w.volumeCount n + d := by
    intro name f d hf
    by_cases hname : n = name
    · subst hname
      cases hk : w.resources n with
      | none => simp [World.volumeCount, World.onResource, hk]
      | some k => simpa [World.volumeCount, World.onResource, hk] using hf k
    · simp [World.volumeCount, World.onResource, update_of_ne hname]
  have honMinor : ∀ (minor : Minor) (f : KernelVolume → KernelVolume),
      (w.onMinor minor f).volumeCount n ≤ w.volumeCount n := by
    intro minor f
    cases hk : w.resources n <;> simp [World.volumeCount, World.onMinor, KernelResource.onMinor, hk]
  cases action with
  | newResource name nodeID =>
    by_cases hname : n = name
    · subst hname
      simp [World.volumeCount, World.effect, newResource]
    · simp [World.volumeCount, World.effect, update_of_ne hname]
  | newMinor name volume diskless =>
    exact honResource name _ 1 fun k => by simp [KernelResource.addVolume]
  | down name =>
    by_cases hname : n = name
    · subst hname
      simp [World.volumeCount, World.effect]
    · simp [World.volumeCount, World.effect, update_of_ne hname]
  | fail | writeDeviceUUID | createMetadata | applyAL | forgetPeer | ensureDeviceSymlink
  | removeDeviceSymlink =>
    exact le_rfl
  | attach minor | diskOptions minor | detach minor | resize minor => exact honMinor minor _
  | _ => exact honResource _ _ 0 fun k => le_rfl

theorem effect_sameVolumes (action : Action) (hsame : SameVolumes start w) :
    SameVolumes start (w.effect kernel action) := by
  obtain ⟨hlvgs, hplaces, hnamed⟩ := hsame
  cases action <;> exact ⟨hlvgs, hplaces, hnamed⟩

theorem Reply.executed {answer : (Call.execute action).Answer}
    (hreply : Reply kernel w (.execute action) answer w') :
    w' = w ∨ w' = w.effect kernel action := by
  rcases hreply with ⟨-, heq⟩ | ⟨err, -, heq | heq⟩
  · exact .inr heq
  · exact .inl heq
  · exact .inr heq

theorem convergeDRBDState_fail (err : Failures) (rest : List Action) :
    convergeDRBDState false (.fail err :: rest) =
      if err = [] then (convergeDRBDState false rest).bind fun result => .ret (true, result.2)
      else .ret (false, err) := by
  by_cases herr : err = []
  · rw [if_pos herr, herr]
    rfl
  · rw [if_neg herr]
    exact if_pos herr

include hsame in
theorem holds_converge_count (hnone : NoRelease h) :
    Releases kernel start n
      (fun _ h' w' => (∀ e ∈ h, e ∈ h') ∧ SameVolumes start w' ∧ NoRelease h' ∧
        w'.volumeCount n ≤ w.volumeCount n + actions.countP (·.createsMinor))
      (convergeDRBDState maintenance actions) h w := by
  induction actions generalizing h w with
  | nil => exact ⟨fun e he => he, hsame, hnone, Nat.le_add_right _ _⟩
  | cons action rest ih =>
    cases maintenance with
    | true =>
      rw [convergeDRBDState_maintenance]
      exact ⟨fun e he => he, hsame, hnone, Nat.le_add_right _ _⟩
    | false =>
      rw [countP_cons]
      by_cases hfail : ∃ err, action = .fail err
      · obtain ⟨err, rfl⟩ := hfail
        rw [convergeDRBDState_fail]
        by_cases herr : err = []
        · rw [if_pos herr]
          exact holds_bind.mpr (ih hsame hnone)
        · rw [if_neg herr]
          exact ⟨fun e he => he, hsame, hnone, Nat.le_add_right _ _⟩
      · refine holds_converge_cons (fun err heq => hfail ⟨err, heq⟩) hnone.pre
          fun answer w' hreply => ?_
        have hsub : ∀ e ∈ h, e ∈ h ++ [⟨.execute action, answer⟩] :=
          fun e he => mem_append_left _ he
        have hnone' : NoRelease (h ++ [⟨.execute action, answer⟩]) := hnone.append rfl
        have hstep : SameVolumes start w' ∧ w'.volumeCount n ≤
            w.volumeCount n + if action.createsMinor then 1 else 0 := by
          rcases Reply.executed hreply with rfl | rfl
          · exact ⟨hsame, Nat.le_add_right _ _⟩
          · exact ⟨effect_sameVolumes action hsame, effect_volumeCount action⟩
        split
        · refine (ih hstep.1 hnone').imp fun _ h2 w2 hpost => ?_
          exact ⟨fun e he => hpost.1 e (hsub e he), hpost.2.1, hpost.2.2.1, by
            have := hpost.2.2.2; omega⟩
        · exact ⟨hsub, hstep.1, hnone', by omega⟩

theorem holds_converge_first :
    Yields (answers kernel)
      (fun result _ w' => result.1 = false →
        w' = w ∨ ∃ action rest, actions = action :: rest ∧ w' = w.effect kernel action)
      (convergeDRBDState maintenance actions) h w := by
  cases maintenance with
  | true =>
    rw [convergeDRBDState_maintenance]
    exact fun _ => .inl rfl
  | false =>
    cases actions with
    | nil => exact fun _ => .inl rfl
    | cons action rest =>
      have hgoesOn : ∀ (h : List AgentEvent) (w' : World),
          Yields (answers kernel)
            (fun _ _ w' => true = false →
              w' = w ∨ ∃ a l, action :: rest = a :: l ∧ w' = w.effect kernel a)
            (convergeDRBDState false rest) h w' := fun h w' =>
        Calls.holds (calls_any _) (fun _ _ _ _ _ => trivial)
          (fun _ _ _ _ _ _ _ _ heq => Bool.noConfusion heq) fun heq => Bool.noConfusion heq
      by_cases hfail : ∃ err, action = .fail err
      · obtain ⟨err, rfl⟩ := hfail
        rw [convergeDRBDState_fail]
        by_cases herr : err = []
        · rw [if_pos herr]
          exact holds_bind.mpr (hgoesOn h w)
        · rw [if_neg herr]
          exact fun _ => .inl rfl
      · refine holds_converge_cons (fun err heq => hfail ⟨err, heq⟩) trivial
          fun answer w' hreply => ?_
        split
        · exact hgoesOn _ w'
        · intro _
          rcases Reply.executed hreply with heq | heq
          · exact .inl heq
          · exact .inr ⟨action, rest, rfl, heq⟩

def Action.opens : Action → Bool
  | .newResource _ _ | .resourceOptions _ _ | .newMinor _ _ _ | .ensureDeviceSymlink _ _
  | .removeDeviceSymlink _ => true
  | _ => false

theorem effect_backs (hopens : action.opens = true) {dev : Device}
    (hbacks : (w.effect kernel action).Backs n dev) : w.Backs n dev := by
  obtain ⟨k, hk, v, hv, hdev⟩ := hbacks
  cases action with
  | newResource name nodeID =>
    by_cases hname : n = name
    · subst hname
      simp only [World.effect, update_self, some.injEq] at hk
      rw [← hk] at hv
      cases hv
    · simp only [World.effect, update_of_ne hname] at hk
      exact ⟨k, hk, v, hv, hdev⟩
  | resourceOptions name o =>
    by_cases hname : n = name
    · subst hname
      simp only [World.effect, World.onResource, update_self] at hk
      obtain ⟨k', hk', rfl⟩ := map_eq_some_iff.mp hk
      exact ⟨k', hk', v, hv, hdev⟩
    · simp only [World.effect, World.onResource, update_of_ne hname] at hk
      exact ⟨k, hk, v, hv, hdev⟩
  | newMinor name volume diskless =>
    by_cases hname : n = name
    · subst hname
      simp only [World.effect, World.onResource, update_self] at hk
      obtain ⟨k', hk', rfl⟩ := map_eq_some_iff.mp hk
      rcases mem_append.mp hv with hold | hnew
      · exact ⟨k', hk', v, hold, hdev⟩
      · rw [mem_singleton.mp hnew] at hdev
        cases hdev
    · simp only [World.effect, World.onResource, update_of_ne hname] at hk
      exact ⟨k, hk, v, hv, hdev⟩
  | ensureDeviceSymlink name minor => exact ⟨k, hk, v, hv, hdev⟩
  | removeDeviceSymlink name => exact ⟨k, hk, v, hv, hdev⟩
  | _ => cases hopens

/-- The first target action leaves the disk alone: what opens the resource, its options, its
minor and the link come before the disk. -/
theorem computeTargetDRBDActions_head {flant : Bool} {fresh : String} {i : IntendedState}
    {aState : Option ActualState} {rest : List Action}
    (heq : computeTargetDRBDActions flant fresh i aState = action :: rest) :
    action.opens = true := by
  cases aState with
  | none => cases heq
  | some a =>
    simp only [computeTargetDRBDActions] at heq
    split at heq
    · rw [← (List.cons.inj heq).1]
      rfl
    · simp only [computeBringUpActions] at heq
      -- The head is in the first of the lists that is not empty, at the latest the link.
      have hbefore : ∀ x ∈
          (if a.resourceExists then [] else [Action.newResource i.resourceName i.nodeID]) ++
          computeResourceOptions flant i.resourceName i a ++
          (computeMinorActions i.resourceName i a).2 ++
          [.ensureDeviceSymlink i.symlinkName (computeMinorActions i.resourceName i a).1],
          x.opens = true := by
        simp only [computeResourceOptions, computeResourceOptionsAction,
          computeResourceOptionsActionReconcile, computeMinorActions]
        intro x hx
        simp only [mem_append, mem_singleton] at hx
        rcases hx with ((hx | hx) | hx) | rfl
        case inr => rfl
        all_goals
          repeat' split at hx
          all_goals first
            | exact absurd hx not_mem_nil
            | rw [mem_singleton.mp hx]; rfl
      revert heq hbefore
      generalize (if a.resourceExists then [] else
        [Action.newResource i.resourceName i.nodeID]) ++
          computeResourceOptions flant i.resourceName i a ++
          (computeMinorActions i.resourceName i a).2 = opening
      intro heq hbefore
      cases opening with
      | nil =>
        rw [← (List.cons.inj heq).1]
        rfl
      | cons x xs =>
        rw [← (List.cons.inj heq).1]
        exact hbefore x mem_cons_self

theorem computeTargetDRBDActions_minors (a : ActualState) :
    (computeTargetDRBDActions flant fresh i (some a)).countP (·.createsMinor) ≤
      if a.volumes = [] then 1 else 0 := by
  have hstaged : ∀ {stage : Stage} {actions : List Action}, Staged stage actions →
      stage ≠ .minor → actions.countP (·.createsMinor) = 0 := by
    intro stage actions hstaged hstage
    refine countP_eq_zero.mpr fun action haction hcreates => hstage ?_
    have heq := hstaged action haction
    cases action <;> first | exact heq.symm | cases hcreates
  have hminor : (computeMinorActions i.resourceName i a).2.countP (·.createsMinor) ≤
      if a.volumes = [] then 1 else 0 := by
    unfold computeMinorActions
    split
    · exact Nat.zero_le _
    · rename_i hnone
      rw [if_pos hnone]
      exact le_rfl
  have hresource : (if a.resourceExists then [] else
      [Action.newResource i.resourceName i.nodeID]).countP (·.createsMinor) = 0 := by
    split <;> rfl
  unfold computeTargetDRBDActions
  dsimp only
  split
  · refine le_of_eq_of_le ?_ (Nat.zero_le _)
    rw [countP_cons]
    split <;> rfl
  · unfold computeBringUpActions
    simp only [countP_append, hresource,
      hstaged (computeResourceOptions_staged flant i.resourceName i a) (by decide),
      hstaged (computeDiskActions_staged flant fresh _ i a) (by decide),
      hstaged (computePeerActions_staged i.resourceName i a) (by decide),
      hstaged (computeResizeAction_staged i a) (by decide),
      hstaged (computeRoleAction_staged i.resourceName i a) (by decide)]
    simpa [Action.createsMinor] using hminor

theorem Observes.volumes_eq_nil (hobs : Observes w n a) : a.volumes = [] ↔ w.volumeCount n = 0 := by
  cases hk : w.resources n with
  | none => simp [ActualState.volumes, World.volumeCount, hobs.1, hk]
  | some k => simp [ActualState.volumes, World.volumeCount, hobs.1, hk, KernelResource.status]

theorem holds_converge_single
    (hobs : ∀ a, aState = some a → Observes w n a) (hcount : w.volumeCount n ≤ 1)
    (hsame : SameVolumes start w) (hnone : NoRelease h) :
    Releases kernel start n
      (fun _ h' w' => (∀ e ∈ h, e ∈ h') ∧ SameVolumes start w' ∧ NoRelease h' ∧
        w'.volumeCount n ≤ 1)
      (convergeDRBDState maintenance (computeTargetDRBDActions flant fresh i aState)) h w := by
  refine (holds_converge_count maintenance _ hsame hnone).imp ?_
  rintro result h' w' ⟨hsub, hsame', hnone', hcount'⟩
  refine ⟨hsub, hsame', hnone', hcount'.trans ?_⟩
  cases aState with
  | none => simpa [computeTargetDRBDActions] using hcount
  | some a =>
    have hminors := computeTargetDRBDActions_minors flant fresh i a
    have hempty := (hobs a rfl).volumes_eq_nil
    split at hminors
    · rename_i hvolumes
      have hzero := hempty.mp hvolumes
      omega
    · omega

def KnowsDisk (w : World) (n : String) (aState : Option ActualState) : Prop :=
  ∀ dev, w.Backs n dev → actualBackingDisk aState = some dev

/-- The state observed last knows the disk: nothing was executed since it was taken, or the first
action was tried, and that one leaves the disk alone. -/
theorem refreshState_knows (result : Bool × Failures) (hname : drbdResourceNameOnTheNode drbdr = n)
    (hcount : w.volumeCount n ≤ 1)
    (hkept : result.1 = false → observed.1.isSome = true → KnowsDisk w n observed.1)
    (hobserved : QueriesAnswered h → observed.1.isSome = true) :
    Yields (answers kernel)
      (fun converged h' w' => (∀ e ∈ h, e ∈ h') ∧ w' = w ∧
        (QueriesAnswered h' → KnowsDisk w' n converged.aState))
      (refreshState drbdr observed dev result) h w := by
  have hresolved : Yields (answers kernel)
      (fun resolved h' w' => (∀ e ∈ h, e ∈ h') ∧ w' = w ∧ drbdResourceNameOnTheNode resolved.1 = n)
      (ensureLocalPortConflictResolved drbdr result.2) h w := by
    unfold ensureLocalPortConflictResolved
    split
    · exact ⟨fun e he => he, rfl, hname⟩
    · split
      · exact ⟨fun e he => he, rfl, hname⟩
      · refine holds_ask_bind trivial fun answer w1 hreply => ?_
        obtain rfl : w1 = w := hreply
        cases answer <;> exact ⟨fun e he => mem_append_left _ he, rfl, hname⟩
  unfold refreshState
  refine hresolved.bind ?_
  rintro ⟨resolved, drbdErr⟩ h1 w1 ⟨hsub1, rfl, hname1⟩
  dsimp only at hname1 ⊢
  split
  · rw [hname1]
    refine ((reads_keep (observeActualDRBDState_calls (fun _ h => h) n)).and_post
      (observeActualDRBDState_observes n)).bind ?_
    rintro again h2 w2 ⟨⟨rfl, hsub2⟩, -, hagain, hsome⟩
    refine ((reads_keep (observeDisk_calls (fun _ h => h) again dev _)).and_post
      (observeDisk_observes again dev _ hagain)).bind ?_
    rintro final h3 w3 ⟨⟨rfl, hsub3⟩, -, hfinal, hobs⟩
    refine ⟨fun e he => hsub3 e (hsub2 e (hsub1 e he)), rfl, fun hq => ?_⟩
    have hisSome : final.1.isSome = true := hfinal.trans (hsome (hq.mono hsub3))
    obtain ⟨a, ha⟩ := isSome_iff_exists.mp hisSome
    intro d hd
    exact (congrArg actualBackingDisk ha).trans ((hobs a ha).backs hcount hd)
  · rename_i hexecuted
    exact ⟨hsub1, rfl, fun hq => hkept (by simpa using hexecuted) (hobserved (hq.mono hsub1))⟩

theorem holds_reconcileDRBDState_knows (maintenance : Bool)
    (hname : drbdResourceNameOnTheNode drbdr = n)
    (hobs : ∀ a, observed.1 = some a → observed.2 = [] ∧ Observes w n a)
    (hobserved : QueriesAnswered h → observed.1.isSome = true) (hcount : w.volumeCount n ≤ 1)
    (hsame : SameVolumes start w) (hnone : NoRelease h) :
    Releases kernel start n
      (fun converged h' w' => SameVolumes start w' ∧ NoRelease h' ∧
        (QueriesAnswered h' → KnowsDisk w' n converged.aState))
      (reconcileDRBDState r drbdr observed dev up maintenance) h w := by
  unfold reconcileDRBDState
  refine ((holds_quiet (observeDisk_calls quiet_read observed dev _) hsame
    hnone).and_post (observeDisk_observes observed dev _ hobs)).bind ?_
  rintro probed h1 w1 ⟨⟨hsub1, -, hsame1, hnone1⟩, rfl, hisSome, hobs1⟩
  refine ((holds_quiet (readDiscardGranularity_calls quiet_read dev) hsame1
    hnone1).and_post (reads_keep (readDiscardGranularity_calls (fun _ h => h) dev))).bind ?_
  rintro granularity h2 w2 ⟨⟨-, -, hsame2, hnone2⟩, rfl, hsub2⟩
  refine holds_ask_bind hnone2.pre fun fresh w3 hreply => ?_
  obtain rfl : w3 = w2 := hreply
  have hnone3 : NoRelease (h2 ++ [⟨.generateDeviceUUID, fresh⟩]) := hnone2.append rfl
  refine ((holds_converge_single r.flant fresh maintenance
    (computeIntendedDRBDState drbdr dev up granularity) probed.1 hobs1 hcount hsame2
    hnone3).and_post (holds_converge_first maintenance _)).bind ?_
  rintro result h4 w4 ⟨⟨hsub4, hsame4, hnone4, hcount4⟩, hfirst⟩
  refine ((holds_quiet (refreshState_calls quiet_read drbdr probed dev result) hsame4
    hnone4).and_post (refreshState_knows drbdr probed dev result hname hcount4 ?_ ?_)).imp ?_
  · intro hexecuted hsome d hd
    obtain ⟨a, ha⟩ := isSome_iff_exists.mp hsome
    have hbefore : w3.Backs n d := by
      rcases hfirst hexecuted with rfl | ⟨action, rest, heq, rfl⟩
      · exact hd
      · exact effect_backs (computeTargetDRBDActions_head heq) hd
    exact (congrArg actualBackingDisk ha).trans ((hobs1 a ha).backs hcount hbefore)
  · intro hq
    have hold : QueriesAnswered h := hq.mono fun e he =>
      hsub4 e (mem_append_left _ (hsub2 e (hsub1 e he)))
    exact hisSome.trans (hobserved hold)
  · rintro converged h5 w5 ⟨⟨-, -, hsame5, hnone5⟩, -, -, hknows⟩
    exact ⟨hsame5, hnone5, hknows⟩

theorem getLLVsForLVGs_lists (lvgs : List LVG) :
    Yields (answers kernel)
      (fun result h' w' => w' = w ∧ (QueriesAnswered h' → ∃ llvs, result = some llvs ∧
        ∀ llv, llv ∈ llvs ↔ w.llvs llv.name = some llv ∧
          ∃ lvg ∈ lvgs, llv.lvmVolumeGroupName = lvg.name))
      (getLLVsForLVGs lvgs) h w := by
  induction lvgs generalizing h with
  | nil => exact ⟨rfl, fun _ => ⟨[], rfl, by simp⟩⟩
  | cons lvg rest ih =>
    refine holds_ask_bind trivial fun answer w1 hreply => ?_
    obtain ⟨rfl, hanswer⟩ := hreply
    cases answer with
    | error err => exact ⟨rfl, fun hq => absurd hq (not_queriesAnswered rfl)⟩
    | ok llvs =>
      have hlisted : ∀ llv, llv ∈ llvs ↔
          w1.llvs llv.name = some llv ∧ llv.lvmVolumeGroupName = lvg.name := by
        rcases hanswer with ⟨found, heq, hfound⟩ | ⟨err, heq⟩
        · rwa [Except.ok.inj heq]
        · cases heq
      refine ih.bind ?_
      rintro more h2 w2 ⟨rfl, hmore⟩
      cases more with
      | none =>
        refine ⟨rfl, fun hq => ?_⟩
        obtain ⟨found, heq, -⟩ := hmore hq
        cases heq
      | some more =>
        refine ⟨rfl, fun hq => ⟨llvs ++ more, rfl, fun llv => ?_⟩⟩
        obtain ⟨found, heq, hfound⟩ := hmore hq
        obtain rfl := some.inj heq
        rw [mem_append, hlisted, hfound, exists_mem_cons_iff]
        exact and_or_left.symm

theorem computeLLVNameFromDiskPath_eq {lvgs : List LVG} {llvs : List LLV} {x : String}
    (llv : LLV) {lvg : LVG} (hgroups : ∀ a ∈ lvgs, ∀ b ∈ lvgs,
      a.actualVGNameOnTheNode = b.actualVGNameOnTheNode → a = b)
    (hvolumes : ∀ other ∈ llvs, other.lvmVolumeGroupName = llv.lvmVolumeGroupName →
      other.actualLVNameOnTheNode = llv.actualLVNameOnTheNode → other.name = x)
    (hllv : llv ∈ llvs) (hlvg : lvg ∈ lvgs) (hname : lvg.name = llv.lvmVolumeGroupName) :
    computeLLVNameFromDiskPath
      (formatLVMDevicePath lvg.actualVGNameOnTheNode llv.actualLVNameOnTheNode) lvgs llvs = x := by
  have hgroup : lvgs.find? (·.actualVGNameOnTheNode = lvg.actualVGNameOnTheNode) = some lvg := by
    obtain ⟨found, hfound⟩ := isSome_iff_exists.mp (List.find?_isSome
      (p := fun g : LVG => decide (g.actualVGNameOnTheNode = lvg.actualVGNameOnTheNode)) |>.mpr
      ⟨lvg, hlvg, by simp⟩)
    rw [hfound, hgroups found (mem_of_find?_eq_some hfound) lvg hlvg
      (by simpa using List.find?_some hfound)]
  obtain ⟨found, hfound⟩ := isSome_iff_exists.mp (List.find?_isSome
    (p := fun o : LLV => decide (o.lvmVolumeGroupName = lvg.name ∧
      o.actualLVNameOnTheNode = llv.actualLVNameOnTheNode)) |>.mpr
    ⟨llv, hllv, by simp [hname]⟩)
  have hplace : found.lvmVolumeGroupName = lvg.name ∧
      found.actualLVNameOnTheNode = llv.actualLVNameOnTheNode := by
    simpa using List.find?_some hfound
  simp only [computeLLVNameFromDiskPath, formatLVMDevicePath, hgroup, hfound, map_some, getD_some]
  exact hvolumes found (mem_of_find?_eq_some hfound) (hplace.1.trans hname) hplace.2

include hid hsame in
theorem computeActualLLVName_names :
    Yields (answers kernel)
      (fun current h' w' => (∀ e ∈ h, e ∈ h') ∧ w' = w ∧
        (QueriesAnswered h' → ∀ dev, actualBackingDisk aState = some dev →
          ∀ x, start.DeviceOf x dev → current = x))
      (computeActualLLVName aState) h w := by
  suffices hnames : Yields (answers kernel)
      (fun current h' _ => QueriesAnswered h' → ∀ dev, actualBackingDisk aState = some dev →
        ∀ x, start.DeviceOf x dev → current = x) (computeActualLLVName aState) h w from
    ((reads_keep (computeActualLLVName_calls (fun _ h => h) aState)).and_post hnames).imp
      fun _ _ _ hpost => ⟨hpost.1.2, hpost.1.1, hpost.2⟩
  unfold computeActualLLVName
  cases hdisk : actualBackingDisk aState with
  | none => exact nofun
  | some dev =>
    refine holds_ask_bind trivial fun answer w1 hreply => ?_
    obtain ⟨rfl, hanswer⟩ := hreply
    cases answer with
    | error err => exact fun hq => absurd hq (not_queriesAnswered rfl)
    | ok lvgs =>
      obtain rfl : lvgs = w1.lvgs := answered_eq hanswer
      refine (getLLVsForLVGs_lists w1.lvgs).bind ?_
      rintro listed h2 w2 ⟨rfl, hlisted⟩
      have hname : ∀ llvs, listed = some llvs → QueriesAnswered h2 →
          ∀ d, some dev = some d → ∀ x, start.DeviceOf x d →
            computeLLVNameFromDiskPath dev w2.lvgs llvs = x := by
        rintro llvs rfl hq d hd x ⟨llv0, lvg, hllv0, hlvg, hgroup, hpath⟩
        obtain ⟨found, heq, hfound⟩ := hlisted hq
        obtain rfl := some.inj heq
        -- The object at the end of the pass has the place of the one at its start.
        have hplace := hsame.places x
        rw [hllv0, map_some] at hplace
        obtain ⟨llv, hllv, hsamePlace⟩ := map_eq_some_iff.mp hplace
        obtain ⟨-, hlvgName, hlvName⟩ : llv.name = llv0.name ∧
            llv.lvmVolumeGroupName = llv0.lvmVolumeGroupName ∧
            llv.actualLVNameOnTheNode = llv0.actualLVNameOnTheNode := by
          simpa [LLV.place] using hsamePlace
        have hllvName : llv.name = x := hsame.named x _ mem_cons_self llv hllv
        rw [some.inj hd, hpath, ← hlvName]
        refine computeLLVNameFromDiskPath_eq llv ?_ ?_ ?_ ?_ (hgroup.trans hlvgName.symm)
        · rw [hsame.lvgs]
          exact hid.groups
        · intro other hother hgroupEq hlvEq
          obtain ⟨hstored, -⟩ := (hfound other).mp hother
          have hotherPlace := hsame.places other.name
          rw [hstored, map_some] at hotherPlace
          obtain ⟨other0, hother0, hplaceEq⟩ := map_eq_some_iff.mp hotherPlace.symm
          obtain ⟨-, hg, hl⟩ : other0.name = other.name ∧
              other0.lvmVolumeGroupName = other.lvmVolumeGroupName ∧
              other0.actualLVNameOnTheNode = other.actualLVNameOnTheNode := by
            simpa [LLV.place] using hplaceEq
          exact hid.volumes other.name x other0 llv0 hother0 hllv0
            (hg.trans (hgroupEq.trans hlvgName)) (hl.trans (hlvEq.trans hlvName))
        · refine (hfound llv).mpr ⟨by rw [hllvName]; exact hllv, lvg, ?_, ?_⟩
          · rwa [hsame.lvgs]
          · exact hlvgName.trans hgroup.symm
        · rwa [hsame.lvgs]
      cases listed with
      | none =>
        intro hq
        obtain ⟨found, heq, -⟩ := hlisted hq
        cases heq
      | some llvs => exact hname llvs rfl

/-- While releases are made: the kernel is the one the lookup was made in, and the volume it
named is not released. -/
structure Releasing (current : String) (h₀ : List AgentEvent) (w₀ : World)
    (h : List AgentEvent) (w : World) : Prop where
  before : ∀ e ∈ h₀, e ∈ h
  resources : w.resources = w₀.resources
  named : ∀ x, ∀ o ∈ w.llvs x :: w.llvPast x, ∀ llv, o = some llv → llv.name = x
  spared : ∀ e ∈ h, ∀ x, e.1.releases = some x → x ≠ current

section Release

variable {current : String} {h0 : List AgentEvent} {w0 : World}

theorem Releasing.pre (hrel : Releasing current h0 w0 h w)
    (hcurrent : QueriesAnswered h0 → ∀ dev, w0.Backs n dev → ∀ x, start.DeviceOf x dev →
      current = x) : ReleasePre start n h w := by
  rintro hq e he x hx dev hdev ⟨k, hk, v, hv, hback⟩
  rw [hrel.resources] at hk
  exact hrel.spared e he x hx (hcurrent (hq.mono hrel.before) dev ⟨k, hk, v, hv, hback⟩ x hdev).symm

theorem Releasing.quiet (hrel : Releasing current h0 w0 h w)
    (hquiet : c.Quiet) (hreply : Reply kernel w c answer w') :
    Releasing current h0 w0 (h ++ [⟨c, answer⟩]) w' := by
  obtain ⟨hresources, hsame⟩ := Reply.quiet hreply hquiet ⟨rfl, fun _ => rfl, hrel.named⟩
  refine ⟨fun e he => mem_append_left _ (hrel.before e he),
    hresources.trans hrel.resources, hsame.named, fun e he x hx => ?_⟩
  rcases mem_append.mp he with hold | hnew
  · exact hrel.spared e hold x hx
  · rw [mem_singleton.mp hnew, hquiet.releases] at hx
    cases hx

theorem Releasing.patch {obj base : LLV} {answer : (Call.patchLLV obj base).Answer}
    (hrel : Releasing current h0 w0 h w) (hname : obj.name ≠ current)
    (hreply : Reply kernel w (.patchLLV obj base) answer w') :
    Releasing current h0 w0 (h ++ [⟨.patchLLV obj base, answer⟩]) w' := by
  have hworld : w'.resources = w.resources ∧
      ∀ x, ∀ o ∈ w'.llvs x :: w'.llvPast x, ∀ llv, o = some llv → llv.name = x := by
    rcases WriteReply.world hreply with rfl | ⟨result, hresult⟩
    · exact ⟨rfl, hrel.named⟩
    · obtain ⟨stored, hstored, hpatched, rfl⟩ := patchLLV_eq_some hresult
      exact ⟨rfl, named_storeLLV hrel.named hstored (by rw [hpatched]; rfl)⟩
  refine ⟨fun e he => mem_append_left _ (hrel.before e he),
    hworld.1.trans hrel.resources, hworld.2, fun e he x hx => ?_⟩
  rcases mem_append.mp he with hold | hnew
  · exact hrel.spared e hold x hx
  · rw [mem_singleton.mp hnew] at hx
    simp only [Call.releases] at hx
    split at hx
    · rwa [← some.inj hx]
    · cases hx

variable (hcurrent : QueriesAnswered h0 → ∀ dev, w0.Backs n dev →
  ∀ x, start.DeviceOf x dev → current = x)
include hcurrent

theorem holds_releaseLLVFinalizer {x : String} (hx : x ≠ current)
    (hrel : Releasing current h0 w0 h w) :
    Releases kernel start n
      (fun _ h' w' => Releasing current h0 w0 h' w') (releaseLLVFinalizer x) h w := by
  unfold releaseLLVFinalizer getLVMLogicalVolume
  split
  · exact hrel
  · refine holds_bind.mpr (holds_ask_bind (hrel.pre hcurrent) fun answer w1 hreply => ?_)
    have hread := hrel.quiet (.inl rfl) hreply
    obtain ⟨rfl, hanswer⟩ := hreply
    rcases answer with err | _ | llv
    · exact hread
    · exact hread
    · have hname : llv.name = x := by
        rcases hanswer with ⟨found, hfound, heq⟩ | ⟨err, heq⟩
        · exact hrel.named x found hfound llv (Except.ok.inj heq).symm
        · cases heq
      change Holds _ _ _ (if agentFinalizer ∈ llv.finalizers then _ else _) _ _
      split
      · refine holds_ask_bind (hread.pre hcurrent) fun answer w2 hreply => ?_
        have hpatch := hread.patch (by rw [← hname] at hx; exact hx) hreply
        rcases answer with (_ | _) | _ <;> exact hpatch
      · exact hread

theorem holds_releaseLLVFinalizers {keep : String → Bool} (hkeep : keep current = true)
    (list : List String) (hrel : Releasing current h0 w0 h w) :
    Releases kernel start n
      (fun _ h' w' => Releasing current h0 w0 h' w') (releaseLLVFinalizers keep list) h w := by
  induction list generalizing h w with
  | nil => exact hrel
  | cons x rest ih =>
    unfold releaseLLVFinalizers
    split
    · exact holds_bind.mpr (ih hrel)
    · rename_i hnot
      have hx : x ≠ current := by
        rintro rfl
        exact hnot hkeep
      refine (holds_releaseLLVFinalizer hcurrent hx hrel).bind ?_
      intro err h1 w1 hrel1
      exact holds_bind.mpr (ih hrel1)

theorem holds_quiet_releasing {p : Prog α} (hp : CallsOnly Call.Quiet p)
    (hrel : Releasing current h0 w0 h w) :
    Releases kernel start n (fun _ h' w' => Releasing current h0 w0 h' w') p h w :=
  Calls.holds hp (fun _ _ _ _ hinv => hinv.pre hcurrent)
    (fun _ _ _ _ _ hquiet hinv hreply => hinv.quiet hquiet hreply) hrel

end Release

theorem holds_reportAndRelease (statusBase : DRBDResource) (converged : Converged)
    (list : List String) (err : Failures) (up maintenance : Bool) (hid : Identified start n)
    (hsame : SameVolumes start w) (hnone : NoRelease h)
    (hknows : QueriesAnswered h → KnowsDisk w n converged.aState) :
    Releases kernel start n
      (fun _ h' w' => ReleasePre start n h' w')
      (reportAndRelease statusBase converged list err up maintenance) h w := by
  unfold reportAndRelease
  refine ((holds_quiet (computeActualLLVName_calls quiet_read _) hsame
    hnone).and_post (computeActualLLVName_names converged.aState hid hsame)).bind ?_
  rintro current h1 w1 ⟨⟨-, -, hsame1, hnone1⟩, hsub1, rfl, hnames⟩
  have hcurrent : QueriesAnswered h1 → ∀ dev, w1.Backs n dev → ∀ x, start.DeviceOf x dev →
      current = x := fun hq dev hdev => hnames hq dev (hknows (hq.mono hsub1) dev hdev)
  have hrel : Releasing current h1 w1 h1 w1 := by
    refine ⟨fun e he => he, rfl, hsame1.named, fun e he x hx => ?_⟩
    rw [hnone1 e he] at hx
    cases hx
  refine (holds_releaseLLVFinalizers hcurrent ?_ list hrel).bind ?_
  · simp [keepsFinalizer]
  rintro ⟨kept, releaseErr⟩ h2 w2 hrel2
  refine (holds_quiet_releasing hcurrent (patchReportedStatus_calls _ _ _
    (.inr (.inr (.inl ⟨_, _, _, rfl⟩)))) hrel2).bind ?_
  intro patched h3 w3 hrel3
  refine (holds_quiet_releasing hcurrent (dropFinalizer_calls _ _ _ _ _ fun _ _ =>
    .inr (.inl ⟨_, _, _, rfl⟩)) hrel3).imp ?_
  exact fun _ _ _ hrel4 => hrel4.pre hcurrent

theorem holds_reconcileHeld_release (maintenance : Bool)
    (hname : drbdResourceNameOnTheNode drbdr = n) (hid : Identified start n)
    (hobs : ∀ a, observed.1 = some a → observed.2 = [] ∧ Observes w n a)
    (hobserved : QueriesAnswered h → observed.1.isSome = true) (hcount : w.volumeCount n ≤ 1)
    (hsame : SameVolumes start w) (hnone : NoRelease h) :
    Releases kernel start n
      (fun _ h' w' => ReleasePre start n h' w')
      (reconcileHeld r drbdr observed list up maintenance) h w := by
  unfold reconcileHeld
  refine (holds_quiet ?_ hsame hnone).bind ?_
  · split
    · exact reconcileLLVFinalizerAdd_calls quiet_read _ _ fun llv hnot =>
        .inr (.inr (.inr ⟨llv, hnot, rfl⟩))
    · trivial
  rintro disk h1 w1 ⟨hsub1, hresources1, hsame1, hnone1⟩
  have hcount1 : w1.volumeCount n ≤ 1 := by
    unfold World.volumeCount
    rwa [hresources1]
  refine (holds_reconcileDRBDState_knows r drbdr observed disk.1 up maintenance
    hname (fun a ha => ⟨(hobs a ha).1, (hobs a ha).2.of_resources hresources1⟩)
    (fun hq => hobserved (hq.mono hsub1)) hcount1 hsame1 hnone1).bind ?_
  rintro converged h2 w2 ⟨hsame2, hnone2, hknows⟩
  exact holds_reportAndRelease drbdr converged list disk.2 up maintenance hid hsame2 hnone2 hknows

include hname hid in
theorem holds_reconcileFinalized_release
    (hversion : Versioned w drbdr) (hcount : w.volumeCount n ≤ 1) (hsame : SameVolumes start w)
    (hnone : NoRelease h) :
    Releases kernel start n
      (fun _ h' w' => ReleasePre start n h' w') (reconcileFinalized r drbdr maintenance) h w := by
  unfold reconcileFinalized
  rw [hname]
  refine ((holds_quiet (observeActualDRBDState_calls quiet_read n) hsame
    hnone).and_post (observeActualDRBDState_observes n)).bind ?_
  rintro ⟨aState, aErr⟩ h1 w1 ⟨⟨-, -, hsame1, hnone1⟩, rfl, hobs, hsome⟩
  refine ((holds_quiet (reconcileAddresses_calls quiet_read r drbdr _
    fun _ => .inr (.inr (.inl ⟨_, _, _, rfl⟩))) hsame1 hnone1).and_post
    (reconcileAddresses_hands_on r drbdr _ hversion)).bind ?_
  rintro result h2 w2 ⟨⟨hsub2, hresources2, hsame2, hnone2⟩, hresult⟩
  cases result with
  | error outcome => exact hnone2.pre
  | ok obj =>
    refine (holds_quiet ?_ hsame2 hnone2).bind ?_
    · exact reconcileLLVFinalizersToRelease_calls obj _ _ fun _ => .inr (.inr (.inl ⟨_, _, _, rfl⟩))
    rintro list h3 w3 ⟨hsub3, hresources3, hsame3, hnone3⟩
    have hresources : w3.resources = w1.resources := hresources3.trans hresources2
    cases list with
    | error outcome => exact hnone3.pre
    | ok list =>
      refine holds_reconcileHeld_release r obj _ list _ maintenance
        ((hresult obj rfl).1.nameOnTheNode.trans hname) hid (fun a ha => ?_) (fun hq => ?_) ?_
        hsame3 hnone3
      · obtain ⟨herr, hobserves⟩ := hobs a ha
        exact ⟨by rw [show aErr = [] from herr]; rfl, hobserves.of_resources hresources⟩
      · exact hsome (hq.mono fun e he => hsub3 e (hsub2 e he))
      · unfold World.volumeCount
        rwa [hresources]

include hname in
theorem holds_reconcileDRBDR_release (hid : Identified w n)
    (hversion : Versioned w drbdr) :
    Holds (answers kernel) (fun h' w' _ => ReleasePre w n h' w')
      (fun _ h' w' => ReleasePre w n h' w') (reconcileDRBDR r drbdr) [] w := by
  have hsame : SameVolumes w w := ⟨rfl, fun _ => rfl, hid.named⟩
  have hnone : NoRelease [] := fun e he => absurd he not_mem_nil
  have hcount : w.volumeCount n ≤ 1 := by
    cases hk : w.resources n with
    | none => simp [World.volumeCount, hk]
    | some k => simpa [World.volumeCount, hk] using hid.single k hk
  unfold reconcileDRBDR
  split
  · -- Renaming releases nothing; it is the end of the pass.
    have hcalls : CallsOnly (fun c => c.releases = none) (reconcileActualNameOnTheNode drbdr) :=
      reconcileActualNameOnTheNode_calls (fun c hread => (quiet_read c hread).releases) drbdr
        (fun _ _ => rfl) fun _ => rfl
    refine (Calls.holds hcalls (fun _ _ _ _ hinv => hinv.pre) ?_ hnone).imp fun _ _ _ hinv =>
      NoRelease.pre hinv
    exact fun _ _ _ _ _ hc hinv _ => NoRelease.append hinv hc
  · refine ((holds_quiet (reconcileFinalizer_calls drbdr true _
      fun _ => .inr (.inl ⟨_, _, _, rfl⟩)) hsame hnone).and_post
      (reconcileFinalizer_hands_on drbdr true _ hversion)).bind ?_
    rintro result h1 w1 ⟨⟨-, hresources1, hsame1, hnone1⟩, hresult⟩
    cases result with
    | error outcome => exact hnone1.pre
    | ok obj =>
      refine holds_reconcileFinalized_release r obj _
        ((hresult obj rfl).1.nameOnTheNode.trans hname) hid (hresult obj rfl).2 ?_ hsame1 hnone1
      unfold World.volumeCount
      rwa [hresources1]

end Pass

def retypedResource : DRBDResource :=
  { plainResource with
    spec := { plainSpec with type := .diskless, lvmLogicalVolumeName := "", size := none } }

def attachedKernelResource : KernelResource :=
  { newResource plainKernel (drbdResourceNameOnTheNode plainResource) 1 with
    volumes := [attached plainKernel diskA (newVolume plainKernel 0 1 false)] }

def retypedWorld : World :=
  { plainWorld with
    drbdr := some retypedResource
    resources := update (fun _ => none) (drbdResourceNameOnTheNode retypedResource)
      (some attachedKernelResource) }

def statusFails (w : World) : (c : Call) → c.Answer × World
  | .status _ => (.error "exit status 20", w)
  | c => respond plainKernel w c

theorem statusFails_reply (w : World) (c : Call) :
    Reply plainKernel w c (statusFails w c).1 (statusFails w c).2 := by
  cases c with
  | status name => exact ⟨rfl, .inr ⟨_, rfl⟩⟩
  | _ => exact respond_reply plainKernel w _

theorem retypedWorld_versioned : Versioned retypedWorld retypedResource :=
  fun _ hstored _ => (some.inj hstored).symm

theorem retypedWorld_llvs {x : String} {llv : LLV} (h : retypedWorld.llvs x = some llv) :
    x = "llv-a" ∧ llv = llvA := by
  by_cases hx : x = "llv-a"
  · subst hx
    exact ⟨rfl, (some.inj h).symm⟩
  · simp [retypedWorld, plainWorld, update_of_ne hx] at h

theorem retypedWorld_identified :
    Identified retypedWorld (drbdResourceNameOnTheNode retypedResource) where
  groups a ha b hb _ := (mem_singleton.mp ha).trans (mem_singleton.mp hb).symm
  volumes x y a b ha hb _ _ := (retypedWorld_llvs ha).1.trans (retypedWorld_llvs hb).1.symm
  named x o ho llv hllv := by
    obtain rfl : o = retypedWorld.llvs x := mem_singleton.mp ho
    obtain ⟨rfl, rfl⟩ := retypedWorld_llvs hllv
    rfl
  single k hk := by
    obtain rfl : attachedKernelResource = k := by simpa [retypedWorld] using hk
    decide

end ReplicatedVolume.Agent
