import ReplicatedVolume.Agent.Writers
import ReplicatedVolume.Safety.Release

/-!
# Whose finalizer a patch changes

A merge patch of a changed list carries the whole list. The replica controller locks its patches to
the version it read. The agent does not: it writes the list it read with its own finalizer added or
removed, whatever the others have written since.
-/

namespace ReplicatedVolume.Agent
open Interaction List

variable {f finalizer : String} {finalizers : List String} {obj base : LLV}

/-- The patched volume differs from the stored one in the agent's finalizer at most. -/
def ChangesOwnFinalizerOnly (stored patched : LLV) : Prop :=
  { patched with finalizers := stored.finalizers, resourceVersion := stored.resourceVersion } =
      stored ∧
    ∀ f, f ≠ agentFinalizer → (f ∈ patched.finalizers ↔ f ∈ stored.finalizers)

def SameOthers (a b : LLV) : Prop := ∀ f, f ≠ agentFinalizer → (f ∈ a.finalizers ↔ f ∈ b.finalizers)

def AgentPatch (obj base : LLV) : Prop :=
  (agentFinalizer ∉ base.finalizers ∧
    obj = { base with finalizers := addFinalizer base.finalizers agentFinalizer }) ∨
  (agentFinalizer ∈ base.finalizers ∧
    obj = { base with finalizers := removeFinalizer base.finalizers agentFinalizer })

theorem mem_addFinalizer :
    f ∈ addFinalizer finalizers finalizer ↔ f ∈ finalizers ∨ f = finalizer := by
  unfold addFinalizer
  split
  · rename_i hmem
    constructor
    · exact .inl
    · rintro (h | rfl)
      · exact h
      · exact hmem
  · simp

theorem mem_removeFinalizer_of_ne
    (h : f ≠ finalizer) : f ∈ removeFinalizer finalizers finalizer ↔ f ∈ finalizers :=
  mem_erase_of_ne h

theorem AgentPatch.others (h : AgentPatch obj base) : SameOthers obj base := by
  intro f hf
  rcases h with ⟨-, rfl⟩ | ⟨-, rfl⟩
  · simp [mem_addFinalizer, hf]
  · exact mem_removeFinalizer_of_ne hf

theorem AgentPatch.changed (h : AgentPatch obj base) : obj.finalizers ≠ base.finalizers := by
  rcases h with ⟨hnot, rfl⟩ | ⟨hmem, rfl⟩
  · simp [addFinalizer, hnot]
  · intro heq
    have hlength : (base.finalizers.erase agentFinalizer).length = base.finalizers.length :=
      congrArg List.length heq
    rw [length_erase_of_mem hmem] at hlength
    have := length_pos_of_mem hmem
    omega

/-- The patch replaces the stored list, so the others keep theirs exactly where the read had
them. -/
theorem AgentPatch.own_iff (h : AgentPatch obj base) (stored : LLV)
    (revision : ℕ) :
    ChangesOwnFinalizerOnly stored (stored.patched obj base revision) ↔ SameOthers base stored := by
  have hlist : (stored.patched obj base revision).finalizers = obj.finalizers := if_neg h.changed
  unfold ChangesOwnFinalizerOnly
  rw [hlist]
  constructor
  · rintro ⟨-, hown⟩ f hf
    exact (h.others f hf).symm.trans (hown f hf)
  · intro hsame
    exact ⟨rfl, fun f hf => (h.others f hf).trans (hsame f hf)⟩

section Pass

variable {act : Act agentInterface World} {h : List AgentEvent} {w : World}

def OwnPatch (h : List AgentEvent) (c : Call) : Prop :=
  ∀ obj base, c = .patchLLV obj base →
    (∃ x, (⟨.getLLV x, .ok (some base)⟩ : AgentEvent) ∈ h) ∧ AgentPatch obj base

theorem ownPatch_of_ne {c : Call} (hc : ∀ obj base, c ≠ .patchLLV obj base) : OwnPatch h c :=
  fun obj base heq => absurd heq (hc obj base)

theorem read_not_patch (c : Call) (hread : c.isRead = true) (obj base : LLV) :
    c ≠ .patchLLV obj base := by
  rintro rfl
  cases hread

abbrev PatchesOwn {α : Type} (act : Act agentInterface World) (p : Prog α) (h : List AgentEvent)
    (w : World) : Prop :=
  Holds act (fun h _ c => OwnPatch h c) (fun _ _ _ => True) p h w

theorem holds_no_patch {α : Type} {p : Prog α}
    (hp : CallsOnly (fun c => ∀ obj base, c ≠ .patchLLV obj base) p) :
    PatchesOwn act p h w :=
  Calls.holds hp (fun _ _ _ hc _ => ownPatch_of_ne hc) (fun _ _ _ _ _ _ _ _ => trivial) trivial

theorem holds_getLVMLogicalVolume_bind {α : Type} {post : α → List AgentEvent → World → Prop}
    {name : String} {f : Except String (Option LLV) → Prog α}
    (hf : ∀ answer h' w', (∀ llv, answer = .ok (some llv) →
      (⟨.getLLV name, .ok (some llv)⟩ : AgentEvent) ∈ h') →
      Holds act (fun h _ c => OwnPatch h c) post (f answer) h' w') :
    Holds act (fun h _ c => OwnPatch h c) post ((getLVMLogicalVolume name).bind f) h w := by
  unfold getLVMLogicalVolume
  split
  · exact hf _ h w fun llv hllv => by simp at hllv
  · refine holds_bind.mpr (holds_ask_bind (ownPatch_of_ne nofun) fun answer w' _ => ?_)
    cases answer with
    | error err => exact hf _ _ w' nofun
    | ok found =>
      refine hf _ _ w' fun llv hllv => ?_
      rw [Except.ok.inj hllv]
      exact mem_append_right _ mem_cons_self

variable (name : String) (r : Reconciler) (drbdr : DRBDResource)

theorem holds_reconcileLLVFinalizerAdd_own (attachedDisk : Option Device) :
    PatchesOwn act (reconcileLLVFinalizerAdd name attachedDisk) h w := by
  unfold reconcileLLVFinalizerAdd
  split
  · trivial
  · refine holds_getLVMLogicalVolume_bind fun answer h1 w1 hread => ?_
    rcases answer with _ | _ | llv
    · trivial
    · trivial
    · dsimp only
      split
      · split <;> trivial
      · split
        · exact holds_no_patch (llvDevicePath_calls read_not_patch llv)
        · rename_i hnot
          refine holds_ask_bind ?_ fun answer w2 _ => ?_
          · rintro obj base heq
            obtain ⟨rfl, rfl⟩ := Call.patchLLV.inj heq
            exact ⟨⟨name, hread _ rfl⟩, .inl ⟨hnot, rfl⟩⟩
          · cases answer with
            | error err => trivial
            | ok llv => exact holds_no_patch (llvDevicePath_calls read_not_patch _)

theorem holds_releaseLLVFinalizer_own : PatchesOwn act (releaseLLVFinalizer name) h w := by
  unfold releaseLLVFinalizer
  refine holds_getLVMLogicalVolume_bind fun answer h1 w1 hread => ?_
  rcases answer with _ | _ | llv
  · trivial
  · trivial
  · dsimp only
    split
    · rename_i hmem
      refine holds_ask_bind ?_ fun answer w2 _ => ?_
      · rintro obj base heq
        obtain ⟨rfl, rfl⟩ := Call.patchLLV.inj heq
        exact ⟨⟨name, hread _ rfl⟩, .inr ⟨hmem, rfl⟩⟩
      · rcases answer with (_ | _) | _ <;> trivial
    · trivial

theorem holds_releaseLLVFinalizers_own (keep : String → Bool) (list : List String) :
    PatchesOwn act (releaseLLVFinalizers keep list) h w := by
  induction list generalizing h w with
  | nil => trivial
  | cons name rest ih =>
    unfold releaseLLVFinalizers
    split
    · exact ih.bind fun _ _ _ _ => trivial
    · refine (holds_releaseLLVFinalizer_own name).bind fun _ _ _ _ => ?_
      exact ih.bind fun _ _ _ _ => trivial

theorem holds_reconcileHeld_own
    (observed : Option ActualState × Failures) (list : List String) (up maintenance : Bool) :
    PatchesOwn act (reconcileHeld r drbdr observed list up maintenance) h w := by
  unfold reconcileHeld reportAndRelease
  have hadd : PatchesOwn act
      (if !maintenance ∧ drbdr.spec.type = .diskful ∧ up then
        reconcileLLVFinalizerAdd drbdr.spec.lvmLogicalVolumeName (actualBackingDisk observed.1)
      else return (none, [])) h w := by
    split
    · exact holds_reconcileLLVFinalizerAdd_own _ _
    · trivial
  refine hadd.bind fun disk h1 w1 _ => ?_
  refine (holds_no_patch (reconcileDRBDState_calls read_not_patch r drbdr observed
    disk.1 up maintenance fun _ _ _ => nofun)).bind fun converged h2 w2 _ => ?_
  refine (holds_no_patch (computeActualLLVName_calls read_not_patch _)).bind
    fun current h3 w3 _ => ?_
  refine (holds_releaseLLVFinalizers_own _ list).bind fun released h4 w4 _ => ?_
  refine (holds_no_patch (patchReportedStatus_calls _ _ _
    fun _ _ => nofun)).bind fun patched h5 w5 _ => ?_
  exact holds_no_patch (dropFinalizer_calls _ _ _ _ _ fun _ _ _ _ => nofun)

theorem holds_reconcileDRBDR_own : PatchesOwn act (reconcileDRBDR r drbdr) h w := by
  unfold reconcileDRBDR reconcileFinalized
  split
  · exact holds_no_patch (reconcileActualNameOnTheNode_calls read_not_patch drbdr
      (fun _ _ _ _ => nofun) fun _ _ _ => nofun)
  refine (holds_no_patch (reconcileFinalizer_calls drbdr true _
    fun _ _ _ => nofun)).bind fun result h1 w1 _ => ?_
  cases result with
  | error outcome => trivial
  | ok obj =>
    refine (holds_no_patch (observeActualDRBDState_calls read_not_patch _)).bind
      fun observed h2 w2 _ => ?_
    refine (holds_no_patch (reconcileAddresses_calls read_not_patch r obj _
      fun _ _ _ => nofun)).bind fun result h3 w3 _ => ?_
    cases result with
    | error outcome => trivial
    | ok obj =>
      refine (holds_no_patch (reconcileLLVFinalizersToRelease_calls obj _ _
        fun _ _ _ => nofun)).bind fun result h4 w4 _ => ?_
      cases result with
      | error outcome => trivial
      | ok list => exact holds_reconcileHeld_own r obj _ list _ _

end Pass

/-- Whenever a pass is about to patch a volume, whatever the others have written and still write
before the patch arrives, it patches a version it read, and what arrives changes the agent's own
finalizer alone exactly when the others' finalizers are still those of the read. -/
theorem agent_patch_own_iff_others_unchanged (kernel : Kernel) (r : Reconciler)
    (drbdr : DRBDResource) (w : World) {h' : List AgentEvent} {w' : World} {obj base : LLV}
    {k : (Call.patchLLV obj base).Answer → Prog Outcome}
    (hrun : Runs (interleaved kernel) [] w (reconcileDRBDR r drbdr) h' w'
      (.call (.patchLLV obj base) k)) :
    (∃ x, (⟨.getLLV x, .ok (some base)⟩ : AgentEvent) ∈ h') ∧
    ∀ w₁, Meanwhile w' w₁ → ∀ stored, w₁.llvs obj.name = some stored →
      (ChangesOwnFinalizerOnly stored (stored.patched obj base (w₁.revision + 1)) ↔
        SameOthers base stored) ∧
      ∀ answer w₂, Reply kernel w₁ (.patchLLV obj base) answer w₂ → w₂ = w₁ ∨
        w₂ = w₁.storeLLV obj.name (stored.patched obj base (w₁.revision + 1)) := by
  obtain ⟨hread, hpatch⟩ := (holds_reconcileDRBDR_own r drbdr).about_to_call hrun obj base rfl
  refine ⟨hread, fun w₁ _ stored hstored => ⟨hpatch.own_iff stored _, fun answer w₂ hreply => ?_⟩⟩
  rcases WriteReply.world hreply with heq | ⟨result, hresult⟩
  · exact .inl heq
  · obtain ⟨found, hfound, rfl, rfl⟩ := patchLLV_eq_some hresult
    obtain rfl : found = stored := Option.some.inj (hfound.symm.trans hstored)
    exact .inr rfl

/-- The volume of the retyped replica, held by the agent and by the replica controller. -/
def sharedLLV : LLV := { llvA with finalizers := [agentFinalizer, rvrControllerFinalizer] }

def sharedWorld : World :=
  { retypedWorld with llvs := Function.update (fun _ => none) "llv-a" (some sharedLLV) }

def sharedPatch : LLV := { sharedLLV with finalizers := [rvrControllerFinalizer] }

def ownedLLV (revision : ℕ) : LLV := { llvA with resourceVersion := revision }

theorem sharedWorld_release :
    ∃ h' w' k, Runs (interleaved plainKernel) [] sharedWorld
        (reconcileDRBDR plainReconciler retypedResource) h' w'
        (.call (.patchLLV sharedPatch sharedLLV) k) ∧
      w'.llvs "llv-a" = some sharedLLV := by
  have hnext : (afterCalls (respond plainKernel) 10
      (reconcileDRBDR plainReconciler retypedResource) sharedWorld).2.2.next =
      some (.patchLLV sharedPatch sharedLLV) := by
    decide +kernel
  have hstored : (afterCalls (respond plainKernel) 10
      (reconcileDRBDR plainReconciler retypedResource) sharedWorld).2.1.llvs "llv-a" =
      some sharedLLV := by
    decide +kernel
  obtain ⟨k, hk⟩ := Program.next_eq_some hnext
  have hrun := hk ▸ runs_afterCalls (respond plainKernel) (respond_reply plainKernel) 10
    (reconcileDRBDR plainReconciler retypedResource) sharedWorld
  exact ⟨_, _, k, runs_interleaved hrun, hstored⟩

/-- The replica controller gives up its finalizer after the agent's read; the agent's patch
brings it back. -/
theorem release_restores_controller_finalizer :
    ∃ h' w' k w₁ stored, Runs (interleaved plainKernel) [] sharedWorld
        (reconcileDRBDR plainReconciler retypedResource) h' w'
        (.call (.patchLLV sharedPatch sharedLLV) k) ∧
      ControllerWrite w' w₁ ∧ w₁.llvs "llv-a" = some stored ∧
      rvrControllerFinalizer ∉ stored.finalizers ∧
      rvrControllerFinalizer ∈ (stored.patched sharedPatch sharedLLV (w₁.revision + 1)).finalizers ∧
      ¬ ChangesOwnFinalizerOnly stored
        (stored.patched sharedPatch sharedLLV (w₁.revision + 1)) := by
  obtain ⟨h', w', k, hrun, hstored⟩ := sharedWorld_release
  have hpatch : w'.lockedPatchLLV { sharedLLV with finalizers := [agentFinalizer] } sharedLLV =
      some (w'.storeLLV "llv-a" (ownedLLV (w'.revision + 1))) := by
    have hname : sharedLLV.name = "llv-a" := rfl
    simp only [World.lockedPatchLLV, hname, hstored, Option.filter_some, decide_true, if_true,
      Option.map_some]
    rfl
  have hread : some sharedLLV ∈ w'.llvs sharedLLV.name :: w'.llvPast sharedLLV.name :=
    mem_cons.mpr (.inl hstored.symm)
  have hgone : rvrControllerFinalizer ∉ (ownedLLV (w'.revision + 1)).finalizers :=
    show rvrControllerFinalizer ∉ [agentFinalizer] by decide
  have hback : rvrControllerFinalizer ∈ ((ownedLLV (w'.revision + 1)).patched sharedPatch
      sharedLLV ((w'.storeLLV "llv-a" (ownedLLV (w'.revision + 1))).revision + 1)).finalizers :=
    show rvrControllerFinalizer ∈ mergeValue [agentFinalizer, rvrControllerFinalizer]
      [rvrControllerFinalizer] [agentFinalizer] by decide
  refine ⟨h', w', k, _, ownedLLV (w'.revision + 1), hrun, .letGo hread hpatch, ?_, hgone, hback, ?_⟩
  · simp [World.storeLLV, ownedLLV, llvA]
  · rintro ⟨-, hown⟩
    exact hgone ((hown rvrControllerFinalizer (by decide)).mp hback)

/-- With nothing written in between the same patch takes the agent's finalizer off and leaves
the controller's. -/
theorem release_keeps_controller_finalizer :
    ∃ h' w' k, Runs (interleaved plainKernel) [] sharedWorld
        (reconcileDRBDR plainReconciler retypedResource) h' w'
        (.call (.patchLLV sharedPatch sharedLLV) k) ∧
      w'.llvs "llv-a" = some sharedLLV ∧
      ChangesOwnFinalizerOnly sharedLLV
        (sharedLLV.patched sharedPatch sharedLLV (w'.revision + 1)) := by
  obtain ⟨h', w', k, hrun, hstored⟩ := sharedWorld_release
  exact ⟨h', w', k, hrun, hstored,
    ((agent_patch_own_iff_others_unchanged plainKernel plainReconciler retypedResource
      sharedWorld hrun).2 w' .refl sharedLLV hstored).1.mpr fun f _ => Iff.rfl⟩

end ReplicatedVolume.Agent
