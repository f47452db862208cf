import ReplicatedVolume.Agent.Node

/-!
# What each phase calls

The phases of a pass by the calls they can make, whatever the answers are. A read leaves the
world as it is, so most of a phase is of no concern to a property of the world: what remains are
the patches and the executed actions.
-/

namespace ReplicatedVolume.Agent
open Interaction List Option

variable {w w' : World} {c : Call} {obj stored : DRBDResource} {lock : Bool} {action : Action}
  {actions : List Action} {act : Act agentInterface World} {base result : DRBDResource}
  {drbdr : DRBDResource} {more : List Action} {α : Type}

abbrev AgentEvent : Type := Event agentInterface

abbrev CallsOnly (P : Call → Prop) {α : Type} (p : Prog α) : Prop := Calls (I := agentInterface) P p

abbrev answers (kernel : Kernel) : Act agentInterface World := Reply kernel

def Call.isRead : Call → Bool
  | .execute _ | .rename _ _ | .patchLLV _ _ | .patchDRBDR _ _ _ | .patchDRBDRStatus _ _ _ => false
  | _ => true

theorem Reply.read {kernel : Kernel} {answer : c.Answer} (hreply : Reply kernel w c answer w')
    (hread : c.isRead = true) : w' = w := by
  cases c <;> first | exact hreply.1 | exact hreply | cases hread

variable {pre : List AgentEvent → World → Call → Prop} {h : List AgentEvent}

theorem holds_ask_bind
    {post : α → List AgentEvent → World → Prop}
    {f : c.Answer → Prog α} (hpre : pre h w c)
    (hnext : ∀ answer w', act w c answer w' → Holds act pre post (f answer) (h ++ [⟨c, answer⟩])
      w') : Holds act pre post ((ask c).bind f) h w :=
  ⟨hpre, hnext⟩

def afterCalls {α : Type} (answer : World → (c : Call) → c.Answer × World) (n : ℕ) (p : Prog α)
    (w : World) : List AgentEvent × World × Prog α :=
  Program.steps (I := agentInterface) (fun _ w c => answer w c) n p [] w

theorem runs_afterCalls {kernel : Kernel}
    (answer : World → (c : Call) → c.Answer × World)
    (hreply : ∀ w c, Reply kernel w c (answer w c).1 (answer w c).2) (n : ℕ) (p : Prog α)
    (w : World) :
    Runs (answers kernel) [] w p (afterCalls answer n p w).1 (afterCalls answer n p w).2.1
      (afterCalls answer n p w).2.2 :=
  runs_steps (fun _ w c => hreply w c) n p [] w

theorem answered_eq {ε : Type} {told truth : α}
    (h : (Except.ok told : Except ε α) = .ok truth ∨ ∃ err, (Except.ok told : Except ε α) = .error err) :
    told = truth := by
  rcases h with heq | ⟨err, heq⟩
  · exact Except.ok.inj heq
  · cases heq

theorem lockedDRBDR_eq_some (h : w.lockedDRBDR base lock = some stored) :
    w.drbdr = some stored ∧ (lock = true → stored.resourceVersion = base.resourceVersion) := by
  obtain ⟨hstored, hlock⟩ := filter_eq_some_iff.mp h
  refine ⟨hstored, fun htrue => ?_⟩
  simpa [htrue] using hlock

/-- Both patches write what they make of the stored object. -/
theorem written_eq_some {write : DRBDResource → DRBDResource}
    (h : (w.lockedDRBDR base lock).map (fun stored => (write stored, w.storeDRBDR (write stored))) =
      some (result, w')) :
    ∃ stored, w.drbdr = some stored ∧
      (lock = true → stored.resourceVersion = base.resourceVersion) ∧
      result = write stored ∧ w' = w.storeDRBDR result := by
  obtain ⟨stored, hstored, heq⟩ := map_eq_some_iff.mp h
  obtain ⟨hsome, hlock⟩ := lockedDRBDR_eq_some hstored
  obtain ⟨rfl, rfl⟩ := Prod.mk.inj heq
  exact ⟨stored, hsome, hlock, rfl, rfl⟩

theorem WriteReply.ok {missing : Prop} {result : Option (α × World)} {obj : α}
    (h : WriteReply w missing result (.ok obj) w') : result = some (obj, w') := by
  rcases h with ⟨obj', hresult, heq⟩ | ⟨err, heq, -⟩
  · rw [hresult, Except.ok.inj heq]
  · cases heq

section Calls

variable {P : Call → Prop}

theorem calls_ask_bind {f : c.Answer → Prog α} (hc : P c)
    (hf : ∀ answer, CallsOnly P (f answer)) : CallsOnly P ((ask c).bind f) :=
  ⟨hc, hf⟩

theorem reconcileFinalizer_calls (drbdr : DRBDResource) (adding up : Bool)
    (hpatch : ∀ obj, P (.patchDRBDR obj drbdr true)) :
    CallsOnly P (reconcileFinalizer drbdr adding up) := by
  unfold reconcileFinalizer
  dsimp only
  split
  · trivial
  · refine calls_ask_bind (hpatch _) fun answer => ?_
    rcases answer with (_ | _) | _ <;> trivial

theorem reconcileClearActualName_calls (drbdr : DRBDResource)
    (hpatch : ∀ obj, P (.patchDRBDR obj drbdr false)) :
    CallsOnly P (reconcileClearActualName drbdr) := by
  unfold reconcileClearActualName
  refine calls_ask_bind (hpatch _) fun answer => ?_
  cases answer <;> trivial

variable (hread : ∀ c : Call, c.isRead = true → P c)
include hread

theorem reconcileActualNameOnTheNode_calls (drbdr : DRBDResource)
    (hrename : ∀ old new, P (.rename old new)) (hpatch : ∀ obj, P (.patchDRBDR obj drbdr false)) :
    CallsOnly P (reconcileActualNameOnTheNode drbdr) := by
  unfold reconcileActualNameOnTheNode
  refine calls_ask_bind (hrename _ _) fun answer => ?_
  rcases answer with (_ | _ | _) | _
  · refine calls_ask_bind (hread _ rfl) fun answer => ?_
    cases answer
    · trivial
    · exact reconcileClearActualName_calls drbdr hpatch
  · trivial
  · trivial
  · exact reconcileClearActualName_calls drbdr hpatch

variable (observed : Option ActualState × Failures) (dev : Option Device) (r : Reconciler)
  (name : String)

theorem observeActualDRBDState_calls : CallsOnly P (observeActualDRBDState name) := by
  unfold observeActualDRBDState
  refine calls_ask_bind (hread _ rfl) fun answer => ?_
  rcases answer with _ | _ | status
  · trivial
  · trivial
  · refine calls_ask_bind (hread _ rfl) fun answer => ?_
    cases answer <;> trivial

theorem observeActualDiskState_calls (a : ActualState) (dev : Option Device) (uuid : String) :
    CallsOnly P (observeActualDiskState a dev uuid) := by
  unfold observeActualDiskState
  cases dev with
  | none => trivial
  | some dev =>
    dsimp only
    split
    · split
      · refine calls_ask_bind (hread _ rfl) fun answer => ?_
        cases answer <;> trivial
      · trivial
    · refine calls_ask_bind (hread _ rfl) fun answer => ?_
      cases answer with
      | error err => trivial
      | ok hasMD =>
        dsimp only
        split
        · refine calls_ask_bind (hread _ rfl) fun answer => ?_
          cases answer <;> trivial
        · trivial

theorem computeIntendedPorts_calls (ports : String → ℕ) (addresses : List Address) :
    CallsOnly P (computeIntendedPorts ports addresses) := by
  induction addresses with
  | nil => trivial
  | cons addr rest ih =>
    unfold computeIntendedPorts
    dsimp only
    generalize (if addr.port = 0 then ports addr.ipv4 else addr.port) = known
    split
    · refine calls_ask_bind (hread _ rfl) fun answer => ?_
      cases answer
      · exact ih.bind fun _ => trivial
      · exact ih.bind fun _ => trivial
    · exact ih.bind fun _ => trivial

theorem reconcileAddresses_calls (drbdr : DRBDResource) (ports : String → ℕ)
    (hpatch : ∀ addresses, P (.patchDRBDRStatus
      { drbdr with status := { drbdr.status with addresses := addresses } } drbdr true)) :
    CallsOnly P (reconcileAddresses r drbdr ports) := by
  unfold reconcileAddresses
  refine calls_ask_bind (hread _ rfl) fun answer => ?_
  cases answer with
  | error err => trivial
  | ok node =>
    refine (computeIntendedPorts_calls hread _ _).bind fun ports => ?_
    dsimp only
    split
    · trivial
    · split
      · trivial
      · refine calls_ask_bind (hpatch _) fun answer => ?_
        cases answer <;> trivial

theorem getLVMLogicalVolume_calls : CallsOnly P (getLVMLogicalVolume name) := by
  unfold getLVMLogicalVolume
  split
  · trivial
  · refine calls_ask_bind (hread _ rfl) fun answer => ?_
    cases answer <;> trivial

theorem llvDevicePath_calls (llv : LLV) : CallsOnly P (llvDevicePath llv) := by
  unfold llvDevicePath getRequiredLVG
  refine Calls.bind ?_ fun answer => ?_
  · split
    · trivial
    · refine calls_ask_bind (hread _ rfl) fun answer => ?_
      rcases answer with _ | _ | _ <;> trivial
  · cases answer <;> trivial

theorem reconcileLLVFinalizerAdd_calls (attachedDisk : Option Device)
    (hadd : ∀ llv : LLV, agentFinalizer ∉ llv.finalizers → P (.patchLLV
      { llv with finalizers := addFinalizer llv.finalizers agentFinalizer } llv)) :
    CallsOnly P (reconcileLLVFinalizerAdd name attachedDisk) := by
  unfold reconcileLLVFinalizerAdd
  split
  · trivial
  · refine (getLVMLogicalVolume_calls hread name).bind fun answer => ?_
    rcases answer with _ | _ | llv
    · trivial
    · trivial
    · dsimp only
      split
      · split <;> trivial
      · split
        · exact llvDevicePath_calls hread llv
        · rename_i hnot
          refine calls_ask_bind (hadd llv hnot) fun answer => ?_
          cases answer
          · trivial
          · exact llvDevicePath_calls hread _

theorem releaseLLVFinalizer_calls
    (hrelease : ∀ llv : LLV, agentFinalizer ∈ llv.finalizers → P (.patchLLV
      { llv with finalizers := removeFinalizer llv.finalizers agentFinalizer } llv)) :
    CallsOnly P (releaseLLVFinalizer name) := by
  unfold releaseLLVFinalizer
  refine (getLVMLogicalVolume_calls hread name).bind fun answer => ?_
  rcases answer with _ | _ | llv
  · trivial
  · trivial
  · dsimp only
    split
    · rename_i hmem
      refine calls_ask_bind (hrelease llv hmem) fun answer => ?_
      rcases answer with (_ | _) | _ <;> trivial
    · trivial

theorem releaseLLVFinalizers_calls (keep : String → Bool) (list : List String)
    (hrelease : ∀ llv : LLV, agentFinalizer ∈ llv.finalizers → P (.patchLLV
      { llv with finalizers := removeFinalizer llv.finalizers agentFinalizer } llv)) :
    CallsOnly P (releaseLLVFinalizers keep list) := by
  induction list with
  | nil => trivial
  | cons name rest ih =>
    unfold releaseLLVFinalizers
    split
    · exact ih.bind fun _ => trivial
    · refine (releaseLLVFinalizer_calls hread name hrelease).bind fun _ => ?_
      exact ih.bind fun _ => trivial

theorem getLLVsForLVGs_calls (lvgs : List LVG) : CallsOnly P (getLLVsForLVGs lvgs) := by
  induction lvgs with
  | nil => trivial
  | cons lvg rest ih =>
    unfold getLLVsForLVGs
    refine calls_ask_bind (hread _ rfl) fun answer => ?_
    cases answer with
    | error err => trivial
    | ok llvs =>
      refine ih.bind fun more => ?_
      cases more <;> trivial

theorem computeActualLLVName_calls (aState : Option ActualState) :
    CallsOnly P (computeActualLLVName aState) := by
  unfold computeActualLLVName
  split
  · trivial
  · refine calls_ask_bind (hread _ rfl) fun answer => ?_
    cases answer with
    | error err => trivial
    | ok lvgs =>
      refine (getLLVsForLVGs_calls hread lvgs).bind fun llvs => ?_
      cases llvs <;> trivial

theorem ensureLocalPortConflictResolved_calls (drbdr : DRBDResource) (err : Failures) :
    CallsOnly P (ensureLocalPortConflictResolved drbdr err) := by
  unfold ensureLocalPortConflictResolved
  split
  · trivial
  · split
    · trivial
    · refine calls_ask_bind (hread _ rfl) fun answer => ?_
      cases answer <;> trivial

theorem observeDisk_calls (uuid : String) : CallsOnly P (observeDisk observed dev uuid) := by
  unfold observeDisk
  split
  · exact (observeActualDiskState_calls hread _ dev uuid).bind fun _ => trivial
  · trivial

theorem readDiscardGranularity_calls : CallsOnly P (readDiscardGranularity dev) := by
  cases dev with
  | none => trivial
  | some d => exact calls_ask.mpr (hread _ rfl)

theorem refreshState_calls (drbdr : DRBDResource) (observed : Option ActualState × Failures)
    (dev : Option Device) (result : Bool × Failures) :
    CallsOnly P (refreshState drbdr observed dev result) := by
  unfold refreshState
  refine (ensureLocalPortConflictResolved_calls hread drbdr result.2).bind fun resolved => ?_
  dsimp only
  split
  · refine (observeActualDRBDState_calls hread _).bind fun again => ?_
    exact (observeDisk_calls hread again dev _).bind fun _ => trivial
  · trivial

omit hread in
theorem executeAction_calls (action : Action) (hexec : P (.execute action)) :
    CallsOnly P (executeAction action) := by
  cases action <;> first | trivial | exact ⟨hexec, fun _ => trivial⟩

omit hread in
theorem convergeDRBDState_calls (maintenance : Bool) (actions : List Action)
    (hexec : ∀ action ∈ actions, P (.execute action)) :
    CallsOnly P (convergeDRBDState maintenance actions) := by
  induction actions with
  | nil => trivial
  | cons action rest ih =>
    have hrest := ih fun a ha => hexec a (mem_cons_of_mem _ ha)
    unfold convergeDRBDState
    split
    · exact hrest
    · refine (executeAction_calls action (hexec action mem_cons_self)).bind fun err => ?_
      split
      · trivial
      · exact hrest.bind fun _ => trivial

theorem reconcileDRBDState_calls (drbdr : DRBDResource)
    (observed : Option ActualState × Failures) (dev : Option Device) (up maintenance : Bool)
    (hexec : ∀ action, P (.execute action)) :
    CallsOnly P (reconcileDRBDState r drbdr observed dev up maintenance) := by
  unfold reconcileDRBDState
  refine (observeDisk_calls hread observed dev _).bind fun probed => ?_
  refine (readDiscardGranularity_calls hread dev).bind fun granularity => ?_
  refine calls_ask_bind (hread _ rfl) fun fresh => ?_
  refine (convergeDRBDState_calls maintenance _ fun action _ => hexec action).bind fun result => ?_
  exact refreshState_calls hread drbdr probed dev result

omit hread in
theorem reconcileLLVFinalizersToRelease_calls (drbdr : DRBDResource) (up maintenance : Bool)
    (hpatch : ∀ obj, P (.patchDRBDRStatus obj drbdr true)) :
    CallsOnly P (reconcileLLVFinalizersToRelease drbdr up maintenance) := by
  unfold reconcileLLVFinalizersToRelease
  dsimp only
  split
  · refine calls_ask_bind (hpatch _) fun answer => ?_
    cases answer <;> trivial
  · trivial

omit hread in
theorem patchReportedStatus_calls (drbdr statusBase : DRBDResource) (err : Failures)
    (hpatch : P (.patchDRBDRStatus drbdr statusBase true)) :
    CallsOnly P (patchReportedStatus drbdr statusBase err) := by
  unfold patchReportedStatus
  split
  · trivial
  · refine calls_ask_bind hpatch fun answer => ?_
    cases answer with
    | error err =>
      dsimp only
      split <;> trivial
    | ok obj => trivial

omit hread in
theorem dropFinalizer_calls (drbdr : DRBDResource) (aState : Option ActualState)
    (kept : List String) (up : Bool) (err : Failures)
    (hpatch : ∀ obj base, P (.patchDRBDR obj base true)) :
    CallsOnly P (dropFinalizer drbdr aState kept up err) := by
  unfold dropFinalizer
  split
  · refine (reconcileFinalizer_calls drbdr false up fun obj => hpatch obj drbdr).bind
      fun result => ?_
    rcases result with (_ | _ | _) | _ <;> trivial
  · trivial

theorem reportAndRelease_calls (statusBase : DRBDResource) (converged : Converged)
    (list : List String) (err : Failures) (up maintenance : Bool)
    (hrelease : ∀ llv : LLV, agentFinalizer ∈ llv.finalizers → P (.patchLLV
      { llv with finalizers := removeFinalizer llv.finalizers agentFinalizer } llv))
    (hstatus : ∀ obj base, P (.patchDRBDRStatus obj base true))
    (hpatch : ∀ obj base, P (.patchDRBDR obj base true)) :
    CallsOnly P (reportAndRelease statusBase converged list err up maintenance) := by
  unfold reportAndRelease
  refine (computeActualLLVName_calls hread converged.aState).bind fun current => ?_
  refine (releaseLLVFinalizers_calls hread _ list hrelease).bind fun released => ?_
  refine (patchReportedStatus_calls _ _ _ (hstatus _ _)).bind fun patched => ?_
  exact dropFinalizer_calls _ _ _ _ _ hpatch

end Calls

def Versioned (w : World) (drbdr : DRBDResource) : Prop :=
  ∀ stored, w.drbdr = some stored → stored.resourceVersion = drbdr.resourceVersion → stored = drbdr

theorem versioned_store (w : World) (drbdr : DRBDResource) :
    Versioned (w.storeDRBDR drbdr) drbdr := by
  intro stored hstored _
  simp only [World.storeDRBDR] at hstored
  split at hstored
  · cases hstored
  · exact (some.inj hstored).symm

structure Refreshed (drbdr obj : DRBDResource) : Prop where
  name : obj.name = drbdr.name
  spec : obj.spec = drbdr.spec
  status : obj.status = { drbdr.status with addresses := obj.status.addresses }

theorem Refreshed.refl (drbdr : DRBDResource) : Refreshed drbdr drbdr := ⟨rfl, rfl, rfl⟩

theorem Refreshed.deviceUUID (h : Refreshed drbdr obj) :
    obj.status.deviceUUID = drbdr.status.deviceUUID := by
  rw [h.status]

theorem Refreshed.nameOnTheNode (h : Refreshed drbdr obj) :
    drbdResourceNameOnTheNode obj = drbdResourceNameOnTheNode drbdr := by
  simp only [drbdResourceNameOnTheNode, h.name, h.spec]

def HandsOn (drbdr : DRBDResource) (result : Except Outcome DRBDResource) (w : World) : Prop :=
  ∀ obj, result = .ok obj → Refreshed drbdr obj ∧ Versioned w obj

section HandsOn

variable {kernel : Kernel} {h : List AgentEvent} {w : World}

theorem patched_refreshed (finalizers : List String) (revision : ℕ) :
    Refreshed stored (stored.patched { stored with finalizers := finalizers } stored revision) := by
  refine ⟨rfl, ?_, rfl⟩
  simp [DRBDResource.patched, mergeValue]

theorem statusPatched_refreshed (addresses : List Address) (revision : ℕ) :
    Refreshed stored (stored.statusPatched
      { stored with status := { stored.status with addresses := addresses } } stored
      revision) := by
  refine ⟨rfl, rfl, ?_⟩
  cases hac : stored.status.activeConfiguration <;>
    simp [DRBDResource.statusPatched, mergeStatus, mergeValue, mergeActiveConfiguration, hac]

theorem reconcileFinalizer_hands_on (drbdr : DRBDResource) (adding up : Bool)
    (hversion : Versioned w drbdr) :
    Yields (answers kernel) (fun result _ w' => HandsOn drbdr result w')
      (reconcileFinalizer drbdr adding up) h w := by
  unfold reconcileFinalizer
  dsimp only
  split
  · intro obj hobj
    obtain rfl := Except.ok.inj hobj
    exact ⟨.refl _, hversion⟩
  · refine holds_ask_bind trivial fun answer w' hreply => ?_
    rcases answer with (_ | _) | result
    · exact fun _ h => nomatch h
    · exact fun _ h => nomatch h
    · obtain ⟨stored, hstored, hlock, hresult, rfl⟩ := written_eq_some (WriteReply.ok hreply)
      intro obj hobj
      obtain rfl := Except.ok.inj hobj
      refine ⟨?_, versioned_store w result⟩
      rw [hresult, hversion stored hstored (hlock rfl)]
      exact patched_refreshed _ _

theorem reads_keep {p : Prog α} (hp : CallsOnly (fun c => c.isRead = true) p) :
    Yields (answers kernel) (fun _ h' w' => w' = w ∧ ∀ e ∈ h, e ∈ h') p h w := by
  refine Calls.holds hp (fun _ _ _ _ _ => trivial) ?_ ⟨rfl, fun e he => he⟩
  rintro h1 w1 c answer w' hread ⟨rfl, hsub⟩ hreply
  exact ⟨Reply.read hreply hread, fun e he => mem_append_left _ (hsub e he)⟩

theorem reconcileAddresses_hands_on (r : Reconciler) (drbdr : DRBDResource) (ports : String → ℕ)
    (hversion : Versioned w drbdr) :
    Yields (answers kernel) (fun result _ w' => HandsOn drbdr result w')
      (reconcileAddresses r drbdr ports) h w := by
  unfold reconcileAddresses
  refine holds_ask_bind trivial fun answer w1 hreply => ?_
  obtain rfl : w1 = w := hreply
  cases answer with
  | error err => exact fun _ h => nomatch h
  | ok node =>
    refine (reads_keep (computeIntendedPorts_calls (fun _ h => h) _ _)).bind ?_
    rintro ⟨found, portErr⟩ h2 w2 ⟨rfl, -⟩
    dsimp only
    split
    · exact fun _ h => nomatch h
    · split
      · intro obj hobj
        obtain rfl := Except.ok.inj hobj
        exact ⟨.refl _, hversion⟩
      · refine holds_ask_bind trivial fun answer w' hreply => ?_
        cases answer with
        | error err => exact fun _ h => nomatch h
        | ok result =>
          obtain ⟨stored, hstored, hlock, hresult, rfl⟩ :=
            written_eq_some (WriteReply.ok hreply)
          intro obj hobj
          obtain rfl := Except.ok.inj hobj
          refine ⟨?_, versioned_store _ result⟩
          rw [hresult, hversion stored hstored (hlock rfl)]
          exact statusPatched_refreshed _ _

end HandsOn

inductive Stage where
  | resource | minor | link | disk | peer | size | role
  deriving DecidableEq

def Action.stage : Action → Stage
  | .newResource _ _ | .resourceOptions _ _ | .down _ => .resource
  | .newMinor _ _ _ => .minor
  | .ensureDeviceSymlink _ _ | .removeDeviceSymlink _ => .link
  | .fail _ | .writeDeviceUUID _ _ _ | .createMetadata _ _ | .applyAL _ _ | .attach _ _ _ _
  | .diskOptions _ _ | .detach _ _ => .disk
  | .newPeer _ _ _ | .netOptions _ _ _ | .peerDeviceOptions _ _ _ _ | .newPath _ _ _ _
  | .connect _ _ | .disconnect _ _ | .delPath _ _ _ _ | .delPeer _ _ | .forgetPeer _ _ => .peer
  | .resize _ _ => .size
  | .primary _ _ | .secondary _ _ => .role

def Staged (stage : Stage) (actions : List Action) : Prop :=
  ∀ action ∈ actions, action.stage = stage

section Staged

variable {s : Stage}

theorem staged_nil : Staged s [] := fun _ h => absurd h not_mem_nil

theorem Staged.cons (h : action.stage = s) (hrest : Staged s actions) :
    Staged s (action :: actions) :=
  forall_mem_cons.mpr ⟨h, hrest⟩

theorem Staged.append (h : Staged s actions) (hmore : Staged s more) : Staged s (actions ++ more) :=
  forall_mem_append.mpr ⟨h, hmore⟩

theorem staged_single (h : action.stage = s) : Staged s [action] := staged_nil.cons h

theorem staged_ite {p : Prop} [Decidable p] (h : Staged s actions)
    (hmore : Staged s more) : Staged s (if p then actions else more) := by
  split
  · exact h
  · exact hmore

variable {l : List α}

theorem staged_flatMap {f : α → List Action}
    (h : ∀ a, Staged s (f a)) : Staged s (l.flatMap f) := by
  intro action haction
  obtain ⟨a, -, hin⟩ := mem_flatMap.mp haction
  exact h a action hin

theorem staged_map {f : α → Action} (h : ∀ a, (f a).stage = s) : Staged s (l.map f) := by
  intro action haction
  obtain ⟨a, -, rfl⟩ := mem_map.mp haction
  exact h a

variable (flant : Bool) (fresh : String) (minor : Minor) (name : String) (i : IntendedState)
  (a : ActualState)

theorem computeResourceOptions_staged : Staged .resource (computeResourceOptions flant name i a) :=
  staged_ite (staged_single (by rfl)) (staged_ite staged_nil (staged_single (by rfl)))

theorem computeMinorActions_staged : Staged .minor (computeMinorActions name i a).2 := by
  unfold computeMinorActions
  split
  · exact staged_nil
  · exact staged_single (by rfl)

theorem computeAttachActions_staged (uuid : String) (minor : Minor) (dev : Device) :
    Staged .disk (computeAttachActions fresh a uuid minor dev) := by
  have hlast : Staged .disk [Action.applyAL minor dev, .attach minor dev dev "internal"] :=
    (staged_single (by rfl)).cons (by rfl)
  refine staged_ite (staged_ite hlast (staged_ite (staged_single (by rfl)) (staged_ite hlast
    (staged_ite ?_ ?_)))) ?_
  · exact hlast.cons (by rfl)
  · exact hlast.cons (by rfl)
  · exact ((staged_single (by rfl)).cons (by rfl)).cons (by rfl)

theorem computeDiskActions_staged : Staged .disk (computeDiskActions flant fresh minor i a) := by
  unfold computeDiskActions
  dsimp only
  split
  · exact staged_single (by rfl)
  · split
    · exact staged_ite ((computeAttachActions_staged _ _ _ _ _).append (staged_single (by rfl)))
        staged_nil
    · exact staged_nil
    · intro action haction
      obtain ⟨vol, -, hvol⟩ := mem_filterMap.mp haction
      split at hvol
      · exact absurd hvol (by simp)
      · dsimp only at hvol
        split at hvol
        · exact absurd hvol (by simp)
        · rw [← some.inj hvol]
          rfl

theorem computePathActions_staged (i : IntendedPeer) (a : Option ActualPeer) :
    Staged .peer (computePathActions name i a) :=
  (staged_map fun _ => by rfl).append (staged_map fun _ => by rfl)

theorem computePeerActions_staged : Staged .peer (computePeerActions name i a) := by
  refine ((staged_flatMap fun iPeer => ?_).append (staged_flatMap fun pair => ?_)).append
    (staged_flatMap fun aPeer => ?_)
  · exact (((staged_single (by rfl)).cons (by rfl)).append
      (computePathActions_staged name iPeer none)).append (staged_single (by rfl))
  · exact (((staged_ite staged_nil (staged_single (by rfl))).append
      (staged_ite staged_nil (staged_single (by rfl)))).append
      (computePathActions_staged name pair.1 (some pair.2))).append
      (staged_ite (staged_single (by rfl)) staged_nil)
  · exact ((staged_single (by rfl)).cons (by rfl)).cons (by rfl)

theorem computeResizeAction_staged : Staged .size (computeResizeAction i a) := by
  unfold computeResizeAction
  refine staged_ite staged_nil ?_
  split
  · exact staged_nil
  · exact staged_ite staged_nil (staged_ite (staged_single (by rfl)) staged_nil)

theorem computeRoleAction_staged : Staged .role (computeRoleAction name i a) :=
  (staged_ite (staged_single (by rfl)) staged_nil).append
    (staged_ite (staged_single (by rfl)) staged_nil)

end Staged

theorem convergeDRBDState_append (actions more : List Action) :
    convergeDRBDState false (actions ++ more) =
      (convergeDRBDState false actions).bind fun result =>
        if result.2 ≠ [] then .ret result
        else (convergeDRBDState false more).bind fun rest => .ret (result.1 || rest.1, rest.2) := by
  induction actions with
  | nil => exact (Program.bind_ret _).symm
  | cons action rest ih =>
    simp only [cons_append, convergeDRBDState, Bool.false_eq_true, if_false,
      Program.bind_eq, Program.bind_assoc, Program.pure_eq]
    congr 1
    funext err
    by_cases herr : err = []
    · simp only [herr, ne_eq, not_true_eq_false, if_false, ih, Program.bind_assoc]
      congr 1
      funext result
      by_cases hresult : result.2 = []
      · simp only [hresult, not_true_eq_false, if_false, Program.bind_assoc, Program.ret_bind,
          Bool.true_or]
      · simp only [hresult, not_false_eq_true, if_true, Program.ret_bind]
    · simp [herr]

theorem convergeDRBDState_maintenance (actions : List Action) :
    convergeDRBDState true actions = .ret (false, []) := by
  induction actions with
  | nil => rfl
  | cons action rest ih => exact ih

theorem executeAction_eq (haction : ∀ err, action ≠ .fail err) :
    executeAction action =
      (ask (.execute action)).bind fun answer => .ret (actionError action answer) := by
  cases action <;> first | rfl | exact absurd rfl (haction _)

theorem holds_converge_cons
    {post : Bool × Failures → List AgentEvent → World → Prop} {rest : List Action}
    (haction : ∀ err, action ≠ .fail err) (hpre : pre h w (.execute action))
    (hnext : ∀ answer w', act w (.execute action) answer w' → if actionError action answer = []
      then Holds act pre (fun result => post (true, result.2)) (convergeDRBDState false rest) (h
      ++ [⟨.execute action, answer⟩]) w' else post (false, actionError action answer) (h ++
      [⟨.execute action, answer⟩]) w') :
    Holds act pre post (convergeDRBDState false (action :: rest)) h w := by
  have heq : convergeDRBDState false (action :: rest) = (executeAction action).bind fun err =>
      if err ≠ [] then .ret (false, err)
      else (convergeDRBDState false rest).bind fun result => .ret (true, result.2) := rfl
  rw [heq, executeAction_eq haction, Program.bind_assoc]
  refine holds_bind.mpr ⟨hpre, fun answer w' hact => ?_⟩
  have hcase := hnext answer w' hact
  simp only [holds_ret, Program.ret_bind]
  split at hcase
  · rename_i herr
    rw [if_neg (not_not.mpr herr)]
    exact holds_bind.mpr hcase
  · rename_i herr
    rwa [if_pos herr]

end ReplicatedVolume.Agent
