import ReplicatedVolume.Agent.Phases
import Mathlib.Logic.Relation

/-!
# The other writers

The replica controller holds the same logical volumes by a finalizer of its own, with patches
locked to the version they were computed from. All other data of the shared objects belongs to
others. All of them may write between any two calls of the agent.
-/

namespace ReplicatedVolume.Agent
open Interaction

def rvrControllerFinalizer : String := "sds-replicated-volume.deckhouse.io/rvr-controller"

/-- `patchLLV` of the replica controller: it is refused unless the stored volume is the version
the patch was computed from. -/
def World.lockedPatchLLV (w : World) (obj base : LLV) : Option World :=
  ((w.llvs obj.name).filter (·.resourceVersion = base.resourceVersion)).map fun stored =>
    w.storeLLV obj.name (stored.patched obj base (w.revision + 1))

theorem lockedPatchLLV_eq_some {w w' : World} {obj base : LLV}
    (h : w.lockedPatchLLV obj base = some w') (hversion : ∀ stored, w.llvs obj.name = some stored →
      stored.resourceVersion = base.resourceVersion → stored = base) :
    w.llvs obj.name = some base ∧
      w' = w.storeLLV obj.name (base.patched obj base (w.revision + 1)) := by
  obtain ⟨stored, hlocked, rfl⟩ := Option.map_eq_some_iff.mp h
  obtain ⟨hstored, hlock⟩ := Option.filter_eq_some_iff.mp hlocked
  obtain rfl := hversion stored hstored (by simpa using hlock)
  exact ⟨hstored, rfl⟩

/-- What the replica controller writes to volumes. Labels and owner references are not modelled,
a patch of them changes the version alone. -/
inductive ControllerWrite (w : World) : World → Prop where
  | create {x : String} {llv : LLV} (hx : x ≠ "") (hnone : w.llvs x = none) (hname : llv.name = x)
      (hdeleting : llv.deleting = false) (hfinalizers : llv.finalizers = [rvrControllerFinalizer])
      (hversion : llv.resourceVersion = w.revision + 1) : ControllerWrite w (w.storeLLV x llv)
  /-- `applyLLVMetadata` and the patch of the size. -/
  | metadata {llv : LLV} {w' : World} (hread : some llv ∈ w.llvs llv.name :: w.llvPast llv.name)
      (hpatch : w.lockedPatchLLV
        { llv with finalizers := addFinalizer llv.finalizers rvrControllerFinalizer } llv =
          some w') : ControllerWrite w w'
  /-- The finalizer goes in `reconcileLLVsDeletion` and from volumes that are being deleted. -/
  | letGo {llv : LLV} {w' : World} (hread : some llv ∈ w.llvs llv.name :: w.llvPast llv.name)
      (hpatch : w.lockedPatchLLV
        { llv with finalizers := removeFinalizer llv.finalizers rvrControllerFinalizer } llv =
          some w') : ControllerWrite w w'
  | delete {x : String} {stored : LLV} (hstored : w.llvs x = some stored) :
      ControllerWrite w
        (w.storeLLV x { stored with deleting := true, resourceVersion := w.revision + 1 })

/-- Anything others may write: they leave the agent's finalizers and the status of the
DRBDResource alone. The kernel and the disks may change in any way. -/
inductive OtherWrite (w : World) : World → Prop where
  | controller {w' : World} (h : ControllerWrite w w') : OtherWrite w w'
  | llv {x : String} {stored llv : LLV} (hstored : w.llvs x = some stored) (hname : llv.name = x)
      (hfinalizers : llv.finalizers.count agentFinalizer = stored.finalizers.count agentFinalizer)
      (hversion : llv.resourceVersion = w.revision + 1) : OtherWrite w (w.storeLLV x llv)
  | createLLV {x : String} {llv : LLV} (hx : x ≠ "") (hnone : w.llvs x = none)
      (hname : llv.name = x) (hfinalizers : agentFinalizer ∉ llv.finalizers)
      (hversion : llv.resourceVersion = w.revision + 1) : OtherWrite w (w.storeLLV x llv)
  | drbdr {stored drbdr : DRBDResource} (hstored : w.drbdr = some stored)
      (hstatus : drbdr.status = stored.status)
      (hfinalizers :
        drbdr.finalizers.count agentFinalizer = stored.finalizers.count agentFinalizer)
      (hversion : drbdr.resourceVersion = w.revision + 1) : OtherWrite w (w.storeDRBDR drbdr)
  | createDRBDR {drbdr : DRBDResource} (hnone : w.drbdr = none)
      (hfinalizers : agentFinalizer ∉ drbdr.finalizers)
      (hlist : drbdr.llvFinalizersToRelease = [])
      (hversion : drbdr.resourceVersion = w.revision + 1) : OtherWrite w (w.storeDRBDR drbdr)
  | node (lvgs : List LVG) (resources : String → Option KernelResource) (minor : ℕ)
      (disks : Device → Option String) :
      OtherWrite w { w with lvgs := lvgs, resources := resources, allocatedMinor := minor
                            disks := disks }

def Meanwhile : World → World → Prop := Relation.ReflTransGen OtherWrite

def interleaved (kernel : Kernel) : Act agentInterface World := fun w c answer w' =>
  ∃ w₁, Meanwhile w w₁ ∧ Reply kernel w₁ c answer w'

theorem runs_interleaved {α : Type} {kernel : Kernel} {h h' : List AgentEvent} {w w' : World}
    {p p' : Prog α} (hrun : Runs (answers kernel) h w p h' w' p') :
    Runs (interleaved kernel) h w p h' w' p' := by
  induction hrun with
  | stop h w p => exact .stop h w p
  | step hreply hrest ih => exact .step ⟨_, .refl, hreply⟩ ih

end ReplicatedVolume.Agent
