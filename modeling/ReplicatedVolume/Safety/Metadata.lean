import ReplicatedVolume.Agent.Phases

/-!
# Metadata of the backing disk

Before the agent attaches a disk it probes it for metadata and its device uuid. The answers fill two
fields that are false and empty by default; creating metadata, writing a uuid and attaching follow
from them. A probe that fails leaves the defaults, and the pass goes on to act on them.
-/

namespace ReplicatedVolume.Agent
open Interaction List Option

variable {w : World} {action : Action} {actions : List Action} {minor : Minor} {dev : Device}
  {a : ActualState} {more : List Action} {α : Type}

def failedProbe : AgentEvent → Bool
  | ⟨.checkMD _ _, .error _⟩ => true
  | ⟨.readDevUUID _, .error _⟩ => true
  | _ => false

def ProbesAnswered (h : List AgentEvent) : Prop := ∀ e ∈ h, failedProbe e = false

def checkedEmpty (dev : Device) : AgentEvent → Bool
  | ⟨.checkMD _ d, .ok hasMD⟩ => d = dev && !hasMD
  | _ => false

def readUUID (dev : Device) (uuid : String) : AgentEvent → Bool
  | ⟨.readDevUUID d, .ok found⟩ => d = dev && found = uuid
  | _ => false

def createdMetadata (dev : Device) : AgentEvent → Bool
  | ⟨.execute (.createMetadata _ d), .ok _⟩ => d = dev
  | _ => false

/-- What a call may do to the metadata of a disk, given the answers received before it in the
same pass: metadata is created where the check reported none, a uuid is written to metadata the
pass created or whose uuid it read as empty, and a disk that carries another uuid than the one
expected is not attached. -/
def MetadataKept (statusUUID : String) (h : List AgentEvent) (w : World) : Call → Prop
  | .execute (.createMetadata _ dev) => ∃ e ∈ h, checkedEmpty dev e = true
  | .execute (.writeDeviceUUID _ dev _) =>
    ∃ e ∈ h, createdMetadata dev e = true ∨ readUUID dev "" e = true
  | .execute (.attach _ dev _ _) =>
    ∀ uuid, w.disks dev = some uuid → uuid ≠ "" → statusUUID ≠ "" → uuid = statusUUID
  | _ => True

def MetadataPre (statusUUID : String) (h : List AgentEvent) (w : World) (c : Call) : Prop :=
  ProbesAnswered h → MetadataKept statusUUID h w c

abbrev Careful {α : Type} (kernel : Kernel) (statusUUID : String)
    (post : α → List AgentEvent → World → Prop) (p : Prog α) (h : List AgentEvent) (w : World) : Prop :=
  Holds (answers kernel) (MetadataPre statusUUID) post p h w

theorem metadataPre_read {statusUUID : String} {h : List AgentEvent} {c : Call}
    (hread : c.isRead = true) : MetadataPre statusUUID h w c := by
  intro _
  cases c <;> trivial

theorem ProbesAnswered.mono {h h' : List AgentEvent} (hh' : ProbesAnswered h')
    (hsub : ∀ e ∈ h, e ∈ h') : ProbesAnswered h :=
  fun e he => hh' e (hsub e he)

def Action.harmless : Action → Bool
  | .createMetadata _ _ | .writeDeviceUUID _ _ _ | .attach _ _ _ _ => false
  | _ => true

theorem effect_disks {kernel : Kernel} (hharmless : action.harmless = true) :
    (w.effect kernel action).disks = w.disks := by
  cases action <;> first | rfl | cases hharmless

theorem metadataPre_harmless {statusUUID : String} {h : List AgentEvent}
    (hharmless : action.harmless = true) : MetadataPre statusUUID h w (.execute action) := by
  intro _
  cases action <;> trivial

def Harmless (actions : List Action) : Prop := ∀ action ∈ actions, action.harmless = true

theorem Harmless.append (h : Harmless actions) (hmore : Harmless more) :
    Harmless (actions ++ more) := by
  intro action haction
  rcases mem_append.mp haction with hin | hin
  · exact h action hin
  · exact hmore action hin

theorem harmless_nil : Harmless [] := fun _ h => absurd h not_mem_nil

theorem harmless_single (h : action.harmless = true) : Harmless [action] := by
  intro x hx
  rwa [mem_singleton.mp hx]

theorem harmless_ite {p : Prop} [Decidable p] (h : Harmless actions)
    (hmore : Harmless more) : Harmless (if p then actions else more) := by
  split
  · exact h
  · exact hmore

theorem Staged.harmless {stage : Stage} (hstaged : Staged stage actions) (hstage : stage ≠ .disk) :
    Harmless actions := by
  intro action haction
  have heq := hstaged action haction
  cases action <;> first | rfl | exact absurd heq.symm hstage

/-- The disk actions leave disks alone, or they attach the intended disk to a volume that has
none. -/
theorem computeDiskActions_cases (flant : Bool) (fresh : String) (minor : Minor)
    (i : IntendedState) (a : ActualState) :
    Harmless (computeDiskActions flant fresh minor i a) ∨
    ∃ dev after, computeDiskActions flant fresh minor i a =
        computeAttachActions fresh a i.statusDeviceUUID minor dev ++ after ∧ Harmless after ∧
      i.backingDisk = some dev ∧ actualBackingDisk (some a) = none := by
  unfold computeDiskActions
  dsimp only
  split
  · exact .inl (harmless_single rfl)
  · split
    · rename_i dev hactual hintended
      split
      · exact .inr ⟨dev, _, rfl, harmless_single rfl, hintended, hactual⟩
      · exact .inl harmless_nil
    · exact .inl harmless_nil
    · refine .inl fun action haction => ?_
      obtain ⟨vol, -, hvol⟩ := mem_filterMap.mp haction
      split at hvol
      · exact absurd hvol (by simp)
      · dsimp only at hvol
        split at hvol
        · exact absurd hvol (by simp)
        · rw [← some.inj hvol]
          rfl

theorem computeTargetDRBDActions_cases (flant : Bool) (fresh : String) (i : IntendedState)
    (a : ActualState) :
    Harmless (computeTargetDRBDActions flant fresh i (some a)) ∨
    ∃ before minor dev after, computeTargetDRBDActions flant fresh i (some a) =
        before ++ (computeAttachActions fresh a i.statusDeviceUUID minor dev ++ after) ∧
      Harmless before ∧ Harmless after ∧ i.backingDisk = some dev ∧
      actualBackingDisk (some a) = none := by
  unfold computeTargetDRBDActions
  dsimp only
  split
  · exact .inl ((harmless_single rfl).append (harmless_ite (harmless_single rfl) harmless_nil))
  · unfold computeBringUpActions
    dsimp only
    have hbefore : Harmless
        ((if a.resourceExists then [] else [Action.newResource i.resourceName i.nodeID]) ++
          computeResourceOptions flant i.resourceName i a ++
          (computeMinorActions i.resourceName i a).2 ++
          [.ensureDeviceSymlink i.symlinkName (computeMinorActions i.resourceName i a).1]) :=
      (((harmless_ite harmless_nil (harmless_single rfl)).append
        ((computeResourceOptions_staged _ _ _ _).harmless (by decide))).append
        ((computeMinorActions_staged _ _ _).harmless (by decide))).append (harmless_single rfl)
    have hafter : Harmless (computePeerActions i.resourceName i a ++ computeResizeAction i a ++
        computeRoleAction i.resourceName i a) :=
      (((computePeerActions_staged _ _ _).harmless (by decide)).append
        ((computeResizeAction_staged _ _).harmless (by decide))).append
        ((computeRoleAction_staged _ _ _).harmless (by decide))
    rcases computeDiskActions_cases flant fresh (computeMinorActions i.resourceName i a).1 i a with
      hdisk | ⟨dev, after, hdisk, hharmless, hintended, hactual⟩
    · left
      have hall := (hbefore.append hdisk).append hafter
      simpa only [append_assoc] using hall
    · right
      refine ⟨_, (computeMinorActions i.resourceName i a).1, dev, _, ?_, hbefore,
        hharmless.append hafter, hintended, hactual⟩
      rw [hdisk]
      simp only [append_assoc]

section Converge

variable {kernel : Kernel} {statusUUID : String} {h : List AgentEvent} {w : World}

theorem holds_after_failed_probe (p : Prog α) (hfailed : ¬ ProbesAnswered h) :
    Careful kernel statusUUID (fun _ _ _ => True) p h w := by
  have hall : Careful kernel statusUUID (fun _ h _ => ¬ ProbesAnswered h) p h w :=
    Calls.holds (calls_any p) (fun h w c _ hinv hanswered => absurd hanswered hinv)
      (fun h w c answer w' _ hinv _ hanswered =>
        hinv (hanswered.mono fun e he => mem_append_left _ he)) hfailed
  exact hall.imp fun _ _ _ _ => trivial

theorem holds_converge_harmless (maintenance : Bool) (hharmless : Harmless actions) :
    Careful kernel statusUUID
      (fun _ h' w' => (∀ e ∈ h, e ∈ h') ∧ w'.disks = w.disks)
      (convergeDRBDState maintenance actions) h w := by
  refine Calls.holds
    (convergeDRBDState_calls (P := fun c => ∃ a : Action, a.harmless = true ∧ c = .execute a)
      maintenance actions fun a ha => ⟨a, hharmless a ha, rfl⟩) ?_ ?_
    ⟨fun e he => he, rfl⟩
  · rintro h w c ⟨a, ha, rfl⟩ -
    exact metadataPre_harmless ha
  · rintro h1 w1 c answer w' ⟨a, ha, rfl⟩ ⟨hsub, hdisks⟩ hreply
    refine ⟨fun e he => mem_append_left _ (hsub e he), ?_⟩
    rcases hreply with ⟨-, rfl⟩ | ⟨err, -, rfl | rfl⟩
    · rw [effect_disks ha, hdisks]
    · exact hdisks
    · rw [effect_disks ha, hdisks]

def Action.strict (action : Action) : Prop :=
  (∀ err, action ≠ .fail err) ∧ ∀ err, actionError action (.error err) ≠ []

theorem holds_converge_strict {rest : List Action} (hstrict : action.strict)
    (hpre : MetadataPre statusUUID h w (.execute action))
    (hrest : Careful kernel statusUUID (fun _ _ _ => True)
      (convergeDRBDState false rest) (h ++ [⟨.execute action, .ok ()⟩]) (w.effect kernel action)) :
    Careful kernel statusUUID (fun _ _ _ => True)
      (convergeDRBDState false (action :: rest)) h w := by
  refine holds_converge_cons hstrict.1 hpre fun answer w' hreply => ?_
  rcases hreply with ⟨rfl, rfl⟩ | ⟨err, rfl, -⟩
  · exact hrest
  · rw [if_neg (hstrict.2 err)]
    trivial

theorem strict_createMetadata (minor : Minor) (dev : Device) :
    (Action.createMetadata minor dev).strict :=
  ⟨fun _ => Action.noConfusion, fun err => by cases err <;> simp [actionError]⟩

theorem strict_writeDeviceUUID (minor : Minor) (dev : Device) (uuid : String) :
    (Action.writeDeviceUUID minor dev uuid).strict :=
  ⟨fun _ => Action.noConfusion, fun err => by cases err <;> simp [actionError]⟩

theorem strict_applyAL (minor : Minor) (dev : Device) : (Action.applyAL minor dev).strict :=
  ⟨fun _ => Action.noConfusion, fun err => by cases err <;> simp [actionError]⟩

theorem strict_attach (minor : Minor) (dev metaDev : Device) (metaIdx : String) :
    (Action.attach minor dev metaDev metaIdx).strict :=
  ⟨fun _ => Action.noConfusion, fun err => by cases err <;> simp [actionError]⟩

/-- What the observed state says about the intended disk is what the probes answered and what
the disk carries. -/
structure Probed (a : ActualState) (dev : Device) (h : List AgentEvent) (w : World) : Prop where
  empty : a.hasMetadata = false → (∃ e ∈ h, checkedEmpty dev e = true) ∧ w.disks dev = none
  read : a.hasMetadata = true →
    (∃ e ∈ h, readUUID dev a.diskDeviceUUID e = true) ∧ w.disks dev = some a.diskDeviceUUID

section
variable (hdisk : ∀ uuid, w.disks dev = some uuid → uuid ≠ "" → statusUUID ≠ "" → uuid = statusUUID)
include hdisk

theorem holds_attach :
    Careful kernel statusUUID (fun _ _ _ => True)
      (convergeDRBDState false [.attach minor dev dev "internal"]) h w :=
  holds_converge_strict (strict_attach _ _ _ _) (fun _ => hdisk) trivial

theorem holds_applyAL_attach :
    Careful kernel statusUUID (fun _ _ _ => True)
      (convergeDRBDState false [.applyAL minor dev, .attach minor dev dev "internal"]) h w :=
  holds_converge_strict (strict_applyAL _ _) (fun _ => trivial) (holds_attach hdisk)

end

theorem written_disk {uuid : String} :
    ∀ found, (w.effect kernel (.writeDeviceUUID minor dev uuid)).disks dev = some found →
      found = uuid := by
  intro found hfound
  have hmap : (w.disks dev).map (fun _ => uuid) = some found := by simpa [World.effect] using hfound
  obtain ⟨old, -, hold⟩ := map_eq_some_iff.mp hmap
  exact hold.symm

theorem holds_converge_attach (fresh : String) (minor : Minor)
    (hprobed : Probed a dev h w) :
    Careful kernel statusUUID (fun _ _ _ => True)
      (convergeDRBDState false (computeAttachActions fresh a statusUUID minor dev)) h w := by
  unfold computeAttachActions
  dsimp only
  by_cases hmeta : a.hasMetadata = true
  · obtain ⟨hread, hdisk⟩ := hprobed.read hmeta
    rw [if_pos hmeta]
    by_cases hmatch : a.diskDeviceUUID ≠ "" ∧ statusUUID = a.diskDeviceUUID
    · rw [if_pos hmatch]
      refine holds_applyAL_attach fun uuid huuid _ _ => ?_
      rw [hdisk] at huuid
      exact (some.inj huuid).symm.trans hmatch.2.symm
    · rw [if_neg hmatch]
      by_cases hforeign : a.diskDeviceUUID ≠ "" ∧ statusUUID ≠ "" ∧ statusUUID ≠ a.diskDeviceUUID
      · rw [if_pos hforeign]
        trivial
      · rw [if_neg hforeign]
        by_cases hadopt : a.diskDeviceUUID ≠ "" ∧ statusUUID = ""
        · rw [if_pos hadopt]
          exact holds_applyAL_attach fun _ _ _ hstatus => absurd hadopt.2 hstatus
        · -- The remaining rows have an empty uuid on the disk.
          rw [if_neg hadopt]
          have hempty : a.diskDeviceUUID = "" := by
            by_contra hne
            by_cases hs : statusUUID = ""
            · exact hadopt ⟨hne, hs⟩
            · by_cases heq : statusUUID = a.diskDeviceUUID
              · exact hmatch ⟨hne, heq⟩
              · exact hforeign ⟨hne, hs, heq⟩
          rw [hempty] at hread
          have hwrite : ∃ e ∈ h, createdMetadata dev e = true ∨ readUUID dev "" e = true :=
            hread.imp fun e he => ⟨he.1, .inr he.2⟩
          by_cases hs : statusUUID = ""
          · rw [if_neg fun hboth => hboth.2 hs]
            exact holds_converge_strict (strict_writeDeviceUUID _ _ _) (fun _ => hwrite)
              (holds_applyAL_attach fun _ _ _ hstatus => absurd hs hstatus)
          · rw [if_pos ⟨hempty, hs⟩]
            exact holds_converge_strict (strict_writeDeviceUUID _ _ _) (fun _ => hwrite)
              (holds_applyAL_attach fun uuid huuid _ _ => written_disk uuid huuid)
  · rw [if_neg hmeta]
    obtain ⟨hchecked, -⟩ := hprobed.empty (by simpa using hmeta)
    refine holds_converge_strict (strict_createMetadata _ _) (fun _ => hchecked) ?_
    refine holds_converge_strict (strict_writeDeviceUUID _ _ _)
      (fun _ => ⟨_, mem_append_right _ mem_cons_self, .inl (by simp [createdMetadata])⟩)
      ?_
    refine holds_attach fun uuid huuid _ hstatus => ?_
    rw [written_disk uuid huuid, if_neg hstatus]

end Converge

section Pass

variable {kernel : Kernel} {statusUUID : String} {h : List AgentEvent} {w : World}

theorem Probed.mono {h' : List AgentEvent} (hprobed : Probed a dev h w)
    (hsub : ∀ e ∈ h, e ∈ h') {w' : World} (hdisks : w'.disks = w.disks) : Probed a dev h' w' where
  empty hmeta := by
    obtain ⟨⟨e, he, hchecked⟩, hdisk⟩ := hprobed.empty hmeta
    exact ⟨⟨e, hsub e he, hchecked⟩, by rw [hdisks, hdisk]⟩
  read hmeta := by
    obtain ⟨⟨e, he, hread⟩, hdisk⟩ := hprobed.read hmeta
    exact ⟨⟨e, hsub e he, hread⟩, by rw [hdisks, hdisk]⟩

theorem not_answered {e : AgentEvent} (hfailed : failedProbe e = true) :
    ¬ ProbesAnswered (h ++ [e]) := by
  intro hanswered
  have := hanswered e (mem_append_right _ mem_cons_self)
  rw [hfailed] at this
  cases this

/-- Observing the disk keeps what is known of the resource. With nothing attached, answered
probes make the observed state the truth about the disk. -/
theorem holds_observeActualDiskState (a : ActualState) (dev : Option Device) (uuid : String) :
    Careful kernel statusUUID
      (fun result h' w' => w' = w ∧ result.1.status = a.status ∧ result.1.shown = a.shown ∧
        ∀ d, dev = some d → actualBackingDisk (some a) = none → ProbesAnswered h' →
          Probed result.1 d h' w')
      (observeActualDiskState a dev uuid) h w := by
  unfold observeActualDiskState
  cases dev with
  | none => exact ⟨rfl, rfl, rfl, nofun⟩
  | some dev =>
    dsimp only
    by_cases hattached : (actualBackingDisk (some a)).isSome = true
    · -- An attached disk is only read, and nothing is attached to it afterwards.
      have hnone : ∀ {Q : Prop}, actualBackingDisk (some a) = none → Q := fun hn => by
        rw [hn] at hattached
        cases hattached
      rw [if_pos hattached]
      split
      · refine ⟨metadataPre_read rfl, fun answer w' hreply => ?_⟩
        cases answer with
        | error | ok => exact ⟨hreply.1, rfl, rfl, fun _ _ hn => hnone hn⟩
      · exact ⟨rfl, rfl, rfl, fun _ _ hn => hnone hn⟩
    · rw [if_neg hattached]
      refine ⟨metadataPre_read rfl, fun answer w' hreply => ?_⟩
      obtain ⟨rfl, hreply⟩ := hreply
      cases answer with
      | error err =>
        exact ⟨rfl, rfl, rfl, fun _ _ _ hanswered => absurd hanswered (not_answered rfl)⟩
      | ok hasMD =>
        have hdisk : hasMD = (w'.disks dev).isSome := answered_eq hreply
        cases hasMD with
        | false =>
          refine ⟨rfl, rfl, rfl, fun d hd _ _ => ?_⟩
          rw [← some.inj hd]
          refine ⟨fun _ => ⟨⟨_, mem_append_right _ mem_cons_self,
            by simp [checkedEmpty]⟩, ?_⟩, fun hmeta => Bool.noConfusion hmeta⟩
          exact not_isSome_iff_eq_none.mp (by rw [← hdisk]; exact Bool.noConfusion)
        | true =>
          refine ⟨metadataPre_read rfl, fun answer w'' hreply => ?_⟩
          obtain ⟨rfl, hreply⟩ := hreply
          cases answer with
          | error err =>
            exact ⟨rfl, rfl, rfl, fun _ _ _ hanswered => absurd hanswered (not_answered rfl)⟩
          | ok found =>
            refine ⟨rfl, rfl, rfl, fun d hd _ _ => ?_⟩
            rw [← some.inj hd]
            refine ⟨fun hmeta => Bool.noConfusion hmeta,
              fun _ => ⟨⟨_, mem_append_right _ mem_cons_self, by simp [readUUID]⟩, ?_⟩⟩
            rcases hreply with ⟨uuid, hdev, heq⟩ | ⟨err, heq⟩
            · rw [hdev]
              exact congrArg some (Except.ok.inj heq).symm
            · cases heq

theorem holds_reads {p : Prog α} (hp : CallsOnly (fun c => c.isRead = true) p) :
    Careful kernel statusUUID (fun _ h' w' => w' = w ∧ ∀ e ∈ h, e ∈ h') p h w := by
  refine Calls.holds hp (fun h w c hread _ => metadataPre_read hread) ?_ ⟨rfl, fun e he => he⟩
  rintro h1 w1 c answer w' hread ⟨rfl, hsub⟩ hreply
  exact ⟨Reply.read hreply hread, fun e he => mem_append_left _ (hsub e he)⟩

theorem holds_converge_target (flant : Bool) (fresh : String) (maintenance : Bool)
    (i : IntendedState) (a : ActualState) (hstatus : i.statusDeviceUUID = statusUUID)
    (hprobed : ∀ d, i.backingDisk = some d → actualBackingDisk (some a) = none →
      ProbesAnswered h → Probed a d h w) :
    Careful kernel statusUUID (fun _ _ _ => True)
      (convergeDRBDState maintenance (computeTargetDRBDActions flant fresh i (some a))) h w := by
  cases maintenance with
  | true =>
    rw [convergeDRBDState_maintenance]
    trivial
  | false =>
    by_cases hanswered : ProbesAnswered h
    · rcases computeTargetDRBDActions_cases flant fresh i a with
        hharmless | ⟨before, minor, dev, after, heq, hbefore, hafter, hdev, hnone⟩
      · exact (holds_converge_harmless false hharmless).imp fun _ _ _ _ => trivial
      · have hdisk := hprobed dev hdev hnone hanswered
        rw [heq, hstatus, convergeDRBDState_append]
        refine (holds_converge_harmless false hbefore).bind ?_
        rintro result h1 w1 ⟨hsub, hdisks⟩
        split
        · trivial
        rw [convergeDRBDState_append]
        refine holds_bind.mpr (holds_bind.mpr
          ((holds_converge_attach fresh minor (hdisk.mono hsub hdisks)).imp ?_))
        intro result h2 w2 _
        split
        · trivial
        · exact (holds_converge_harmless false hafter).bind fun _ _ _ _ => trivial
    · exact holds_after_failed_probe _ hanswered

end Pass

section Whole

variable {kernel : Kernel} {statusUUID : String} {h : List AgentEvent} {w : World}

theorem metadataPre_other {c : Call} (hother : ∀ action, c ≠ .execute action) :
    MetadataPre statusUUID h w c := by
  intro _
  cases c <;> first | trivial | exact absurd rfl (hother _)

theorem holds_others {p : Prog α}
    (hp : CallsOnly (fun c => ∀ action, c ≠ .execute action) p) :
    Careful kernel statusUUID (fun _ _ _ => True) p h w :=
  Calls.holds hp (fun _ _ _ hother _ => metadataPre_other hother)
    (fun _ _ _ _ _ _ _ _ => trivial) trivial

theorem read_not_execute (c : Call) (hread : c.isRead = true) (action : Action) :
    c ≠ .execute action := by
  rintro rfl
  cases hread

theorem actualBackingDisk_congr {a b : ActualState} (hstatus : a.status = b.status)
    (hshown : a.shown = b.shown) :
    actualBackingDisk (some a) = actualBackingDisk (some b) := by
  have hvolumes : a.volumes = b.volumes := by
    simp only [ActualState.volumes, ActualState.showVolume, hstatus, hshown]
  change a.volumes.head?.bind _ = b.volumes.head?.bind _
  rw [hvolumes]

variable (r : Reconciler) (drbdr : DRBDResource) (observed : Option ActualState × Failures)

theorem holds_observeDisk (dev : Option Device)
    (uuid : String) (hobserved : ∀ a, observed.1 = some a → observed.2 = []) :
    Careful kernel statusUUID
      (fun result h' w' => w' = w ∧ ∀ a, result.1 = some a → ∀ d, dev = some d →
        actualBackingDisk (some a) = none → ProbesAnswered h' → Probed a d h' w')
      (observeDisk observed dev uuid) h w := by
  obtain ⟨aState, err⟩ := observed
  cases aState with
  | none => exact ⟨rfl, nofun⟩
  | some a =>
    obtain rfl : err = [] := hobserved a rfl
    refine (holds_observeActualDiskState a dev _).bind ?_
    rintro ⟨a', diskErr⟩ h' w' ⟨rfl, hst, hsh, hprobed⟩
    refine ⟨rfl, fun b hb d hd hnone hanswered => ?_⟩
    obtain rfl := some.inj hb
    exact hprobed d hd ((actualBackingDisk_congr hst hsh).symm.trans hnone) hanswered

theorem holds_reconcileDRBDState (dev : Option Device) (up maintenance : Bool)
    (hobserved : ∀ a, observed.1 = some a → observed.2 = [])
    (hstatus : drbdr.status.deviceUUID = statusUUID) :
    Careful kernel statusUUID (fun _ _ _ => True)
      (reconcileDRBDState r drbdr observed dev up maintenance) h w := by
  unfold reconcileDRBDState
  refine (holds_observeDisk observed dev _ hobserved).bind ?_
  rintro ⟨aState, aErr⟩ h1 w1 ⟨rfl, hprobed⟩
  refine (holds_reads (readDiscardGranularity_calls (fun _ h => h) dev)).bind ?_
  rintro granularity h2 w2 ⟨rfl, hsub2⟩
  refine holds_ask_bind (metadataPre_read rfl) fun fresh w3 hreply => ?_
  obtain rfl : w3 = w2 := hreply
  refine holds_bind.mpr ?_
  have hconverge : Careful kernel statusUUID (fun _ _ _ => True)
      (convergeDRBDState maintenance (computeTargetDRBDActions r.flant fresh
        (computeIntendedDRBDState drbdr dev up granularity) aState))
      (h2 ++ [⟨.generateDeviceUUID, fresh⟩]) w3 := by
    cases aState with
    | none => exact (holds_converge_harmless maintenance harmless_nil).imp fun _ _ _ _ => trivial
    | some a =>
      refine holds_converge_target _ _ _ _ a hstatus fun d hd hnone hanswered => ?_
      have hsub : ∀ e ∈ h1, e ∈ h2 ++ [⟨.generateDeviceUUID, fresh⟩] :=
        fun e he => mem_append_left _ (hsub2 e he)
      exact (hprobed a rfl d hd hnone (hanswered.mono hsub)).mono hsub rfl
  exact hconverge.imp fun result h4 w4 _ =>
    (holds_reads (refreshState_calls (fun _ h => h) drbdr _ dev result)).imp fun _ _ _ _ => trivial

theorem holds_observeActualDRBDState (name : String) :
    Careful kernel statusUUID
      (fun result _ w' => w' = w ∧ ∀ a, result.1 = some a → result.2 = [])
      (observeActualDRBDState name) h w := by
  unfold observeActualDRBDState
  refine holds_ask_bind (metadataPre_read rfl) fun answer w1 hreply => ?_
  obtain rfl := hreply.1
  rcases answer with _ | _ | status
  · exact ⟨rfl, nofun⟩
  · exact ⟨rfl, fun a _ => rfl⟩
  · refine holds_ask_bind (metadataPre_read rfl) fun answer w2 hreply => ?_
    obtain rfl := hreply.1
    cases answer
    · exact ⟨rfl, nofun⟩
    · exact ⟨rfl, fun a _ => rfl⟩

theorem holds_reconcileHeld (list : List String) (up maintenance : Bool)
    (hobserved : ∀ a, observed.1 = some a → observed.2 = [])
    (hstatus : drbdr.status.deviceUUID = statusUUID) :
    Careful kernel statusUUID (fun _ _ _ => True)
      (reconcileHeld r drbdr observed list up maintenance) h w := by
  unfold reconcileHeld
  refine Holds.bind (holds_others ?_) fun disk h1 w1 _ => ?_
  · split
    · exact reconcileLLVFinalizerAdd_calls read_not_execute _ _ fun _ _ _ => nofun
    · trivial
  · refine Holds.bind
      (holds_reconcileDRBDState r drbdr observed disk.1 up maintenance hobserved hstatus)
      fun converged h2 w2 _ => ?_
    exact holds_others (reportAndRelease_calls read_not_execute _ _ _ _ _ _
      (fun _ _ _ => nofun) (fun _ _ _ => nofun) fun _ _ _ => nofun)

theorem holds_reconcileFinalized (maintenance : Bool)
    (hstatus : drbdr.status.deviceUUID = statusUUID) (hversion : Versioned w drbdr) :
    Careful kernel statusUUID (fun _ _ _ => True) (reconcileFinalized r drbdr maintenance) h w := by
  unfold reconcileFinalized
  refine (holds_observeActualDRBDState _).bind ?_
  rintro ⟨aState, aErr⟩ h1 w1 ⟨rfl, hobserved⟩
  refine ((holds_others (reconcileAddresses_calls read_not_execute r drbdr _
    fun _ _ => nofun)).and_post (reconcileAddresses_hands_on r drbdr _ hversion)).bind ?_
  rintro result h2 w2 ⟨-, hresult⟩
  cases result with
  | error outcome => trivial
  | ok obj =>
    refine Holds.bind (holds_others ?_) fun list h3 w3 _ => ?_
    · exact reconcileLLVFinalizersToRelease_calls obj _ _ fun _ _ => nofun
    · cases list with
      | error outcome => trivial
      | ok list =>
        refine holds_reconcileHeld r obj _ list _ maintenance (fun a ha => ?_)
          ((hresult obj rfl).1.deviceUUID.trans hstatus)
        obtain rfl : aErr = [] := hobserved a ha
        rfl

theorem holds_reconcileDRBDR (hversion : Versioned w drbdr) :
    Holds (answers kernel) (MetadataPre drbdr.status.deviceUUID) (fun _ _ _ => True)
      (reconcileDRBDR r drbdr) h w := by
  unfold reconcileDRBDR
  split
  · exact holds_others (reconcileActualNameOnTheNode_calls read_not_execute drbdr
      (fun _ _ _ => nofun) fun _ _ => nofun)
  · refine ((holds_others (reconcileFinalizer_calls drbdr true _
      fun _ _ => nofun)).and_post (reconcileFinalizer_hands_on drbdr true _ hversion)).bind ?_
    rintro result h1 w1 ⟨-, hresult⟩
    cases result with
    | error outcome => trivial
    | ok obj =>
      exact holds_reconcileFinalized r obj _ (hresult obj rfl).1.deviceUUID (hresult obj rfl).2

end Whole

/-- In every pass, whatever the answers, a call made while all probes were answered respects the
metadata of the disk it is about. The world is arbitrary, so this holds for each pass of any
sequence of passes. -/
theorem metadata_kept_when_probes_answer (kernel : Kernel) (r : Reconciler)
    (drbdr : DRBDResource) (w : World) (hversion : Versioned w drbdr) {h' : List AgentEvent}
    {w' : World} {c : Call} {k : c.Answer → Prog Outcome}
    (hrun : Runs (answers kernel) [] w (reconcileDRBDR r drbdr) h' w' (.call c k))
    (hanswered : ProbesAnswered h') : MetadataKept drbdr.status.deviceUUID h' w' c :=
  (holds_reconcileDRBDR r drbdr hversion).about_to_call hrun hanswered

def plainKernel : Kernel where
  options :=
    { autoPromote := true, quorum := "off", quorumMinimumRedundancy := "off"
      onNoQuorum := "suspend-io", onNoDataAccessible := "io-error"
      onSuspendedPrimaryOutdated := "disconnect", quorumDynamicVoters := true }
  disk :=
    { isNone := false, discardZeroesIfAligned := true, rsDiscardGranularity := "0"
      nonVoting := false }
  net :=
    { protocol := "C", sharedSecret := "", cramHMACAlg := "", allowTwoPrimaries := false
      allowRemoteRead := true, verifyAlg := "", rrConflict := "disconnect" }
  peerDevice :=
    { bitmap := true, cPlanAhead := "20", cDelayTarget := "10", cFillTarget := "100s"
      cMaxRate := "102400k", cMinRate := "250k" }
  attachedState := "UpToDate"
  connectingState := "Unconnected"
  capacity := fun _ => 1024

def diskA : Device := .lvm "vg" "a"

def plainSpec : DRBDResourceSpec where
  nodeName := "n1"
  actualNameOnTheNode := ""
  state := .up
  maintenance := false
  systemNetworks := []
  type := .diskful
  lvmLogicalVolumeName := "llv-a"
  nodeID := 1
  size := some 1048576
  quorum := 0
  quorumMinimumRedundancy := 0
  allowTwoPrimaries := false
  nonVoting := false
  role := some .secondary
  peers := []

def plainResource : DRBDResource where
  name := "r1"
  generation := 1
  resourceVersion := 1
  deleting := false
  finalizers := [agentFinalizer]
  spec := plainSpec
  status :=
    { device := "", deviceIOSuspended := none, deviceOpen := none, size := none, addresses := []
      activeConfiguration := some { ActiveConfiguration.empty with
        llvFinalizersToRelease := ["llv-a"] }
      peers := [], diskState := "", quorum := none, deviceUUID := "0000000000000001"
      conditions := [] }

def llvA : LLV where
  name := "llv-a"
  resourceVersion := 1
  deleting := false
  finalizers := [agentFinalizer]
  lvmVolumeGroupName := "lvg"
  actualLVNameOnTheNode := "a"

/-- The node after a reboot: no DRBD resource, metadata of this replica on the disk. -/
def plainWorld : World where
  revision := 1
  drbdr := some plainResource
  drbdrPast := []
  llvs := Function.update (fun _ => none) "llv-a" (some llvA)
  llvPast := fun _ => []
  lvgs := [{ name := "lvg", actualVGNameOnTheNode := "vg" }]
  resources := fun _ => none
  allocatedMinor := 0
  disks := Function.update (fun _ => none) diskA (some "0000000000000001")

def plainReconciler : Reconciler := { nodeName := "n1", flant := true }

def checkFails (w : World) : (c : Call) → c.Answer × World
  | .checkMD _ _ => (.error "exit status 20", w)
  | c => respond plainKernel w c

theorem checkFails_reply (w : World) (c : Call) :
    Reply plainKernel w c (checkFails w c).1 (checkFails w c).2 := by
  cases c with
  | checkMD minor dev => exact ⟨rfl, .inr ⟨_, rfl⟩⟩
  | _ => exact respond_reply plainKernel w _

theorem plainWorld_versioned : Versioned plainWorld plainResource :=
  fun _ hstored _ => (some.inj hstored).symm

/-- The check of a disk that carries the replica's metadata fails, and the pass formats it. -/
theorem failed_check_recreates_metadata :
    plainWorld.disks diskA = some plainResource.status.deviceUUID ∧
    ∃ h' w' c k, Runs (answers plainKernel) [] plainWorld
        (reconcileDRBDR plainReconciler plainResource) h' w' (.call c k) ∧
      c = .execute (.createMetadata .allocated diskA) ∧
      ¬ MetadataKept plainResource.status.deviceUUID h' w' c := by
  refine ⟨rfl, ?_⟩
  have hnext : (afterCalls checkFails 11 (reconcileDRBDR plainReconciler plainResource)
      plainWorld).2.2.next = some (.execute (.createMetadata .allocated diskA)) := by
    decide +kernel
  have hhistory : (afterCalls checkFails 11 (reconcileDRBDR plainReconciler plainResource)
      plainWorld).1.all (fun e => !checkedEmpty diskA e) = true := by
    decide +kernel
  obtain ⟨k, hk⟩ := Program.next_eq_some hnext
  refine ⟨_, _, _, k, hk ▸ runs_afterCalls checkFails checkFails_reply 11 _ plainWorld, rfl, ?_⟩
  rintro ⟨e, he, hempty⟩
  have := all_eq_true.mp hhistory e he
  rw [hempty] at this
  cases this

/-- With the check answered the same pass attaches the disk with its metadata. -/
theorem answered_check_keeps_metadata :
    ∃ h' w' c k, Runs (answers plainKernel) [] plainWorld
        (reconcileDRBDR plainReconciler plainResource) h' w' (.call c k) ∧
      c = .execute (.attach .allocated diskA diskA "internal") ∧
      w'.disks diskA = some "0000000000000001" ∧ ProbesAnswered h' ∧
      MetadataKept plainResource.status.deviceUUID h' w' c := by
  have hnext : (afterCalls (respond plainKernel) 13
      (reconcileDRBDR plainReconciler plainResource) plainWorld).2.2.next =
      some (.execute (.attach .allocated diskA diskA "internal")) := by
    decide +kernel
  have hhistory : (afterCalls (respond plainKernel) 13
      (reconcileDRBDR plainReconciler plainResource) plainWorld).1.all
      (fun e => !failedProbe e) = true := by
    decide +kernel
  have hanswered : ProbesAnswered (afterCalls (respond plainKernel) 13
      (reconcileDRBDR plainReconciler plainResource) plainWorld).1 :=
    fun e he => by simpa using all_eq_true.mp hhistory e he
  obtain ⟨k, hk⟩ := Program.next_eq_some hnext
  have hrun := hk ▸ runs_afterCalls (respond plainKernel) (respond_reply plainKernel) 13
    (reconcileDRBDR plainReconciler plainResource) plainWorld
  exact ⟨_, _, _, k, hrun, rfl, by decide +kernel, hanswered,
    metadata_kept_when_probes_answer plainKernel plainReconciler plainResource plainWorld
      plainWorld_versioned hrun hanswered⟩

end ReplicatedVolume.Agent
