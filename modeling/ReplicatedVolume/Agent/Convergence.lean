import ReplicatedVolume.Agent.Settings

/-!
# What the target actions achieve

Carried out with their documented effects the actions of a pass change the resource stage by
stage, the volume first, then the connection to each peer. A step function says what a stage makes
of its part, and a lemma beside it when comparing that part with the spec again gives no action.
-/

namespace ReplicatedVolume.Agent
open List

variable {action : Action} {actions : List Action} {id : ℕ}

def World.effects (kernel : Kernel) (w : World) (actions : List Action) : World :=
  actions.foldl (World.effect kernel) w

theorem World.effects_append (kernel : Kernel) (w : World) (actions more : List Action) :
    w.effects kernel (actions ++ more) = (w.effects kernel actions).effects kernel more :=
  foldl_append

/-- What an action does to a resource that stays: to one it names, or to one whose device has
the minor it names. -/
def Action.on (kernel : Kernel) (minorOf : Minor → ℕ) : Action → KernelResource → KernelResource
  | .resourceOptions _ o, k => { k with options := applyResourceOptions o k.options }
  | .attach minor dev _ _, k => k.onMinor (minorOf minor) (attached kernel dev)
  | .diskOptions minor o, k =>
    k.onMinor (minorOf minor) fun v => { v with disk := applyDiskOptions o v.disk }
  | .newPeer _ peer o, k =>
    { k with connections := k.connections ++ [newConnection kernel k.volumes peer o] }
  | .netOptions _ peer o, k => k.onPeer peer fun c => { c with net := applyNetOptions o c.net }
  | .peerDeviceOptions _ peer volumeNr o, k =>
    k.onPeer peer (·.onVolume volumeNr (applyPeerDeviceOptions o))
  | .newPath _ peer localAddr remoteAddr, k => k.onPeer peer fun c =>
    { c with paths := c.paths ++
        [{ thisHost := localAddr, remoteHost := remoteAddr, established := false }] }
  | .connect _ peer, k =>
    k.onPeer peer fun c => { c with connectionState := kernel.connectingState }
  | .disconnect _ peer, k => k.onPeer peer fun c => { c with connectionState := "StandAlone" }
  | .delPath _ peer localAddr remoteAddr, k => k.onPeer peer fun c =>
    { c with paths := c.paths.filter (·.key ≠ (localAddr, remoteAddr)) }
  | .delPeer _ peer, k => { k with connections := k.connections.filter (·.peerNodeID ≠ peer) }
  | .detach minor intentionalDiskless, k => k.onMinor (minorOf minor) (detached intentionalDiskless)
  | .primary _ _, k => { k with role := "Primary" }
  | .secondary _ _, k => { k with role := "Secondary" }
  | .resize minor sizeBytes, k => k.onMinor (minorOf minor) (resized kernel sizeBytes)
  | _, k => k

def Action.within (n : String) : Action → Bool
  | .newResource _ _ | .newMinor _ _ _ | .down _ => false
  | .resourceOptions name _ | .newPeer name _ _ | .netOptions name _ _
  | .peerDeviceOptions name _ _ _ | .newPath name _ _ _ | .connect name _ | .disconnect name _
  | .delPath name _ _ _ | .delPeer name _ | .primary name _ | .secondary name _ => name = n
  | _ => true

theorem effect_within (kernel : Kernel) {n : String} (w : World) (h : action.within n = true) :
    (w.effect kernel action).resources n = (w.resources n).map (action.on kernel w.minorOf) ∧
      (w.effect kernel action).allocatedMinor = w.allocatedMinor := by
  cases action <;> simp only [Action.within, decide_eq_true_eq, Bool.false_eq_true] at h <;>
    first
    | (subst h; exact ⟨Function.update_self _ _ _, rfl⟩)
    | exact ⟨rfl, rfl⟩
    | exact ⟨Option.map_id'.symm ▸ rfl, rfl⟩

def KernelResource.after (kernel : Kernel) (minorOf : Minor → ℕ) (k : KernelResource)
    (actions : List Action) : KernelResource :=
  actions.foldl (fun k action => action.on kernel minorOf k) k

theorem effects_within (kernel : Kernel) {n : String} (w : World)
    (h : ∀ action ∈ actions, action.within n = true) :
    (w.effects kernel actions).resources n =
        (w.resources n).map (·.after kernel w.minorOf actions) ∧
      (w.effects kernel actions).allocatedMinor = w.allocatedMinor := by
  induction actions generalizing w with
  | nil => exact ⟨by simp [World.effects, KernelResource.after], rfl⟩
  | cons action rest ih =>
    obtain ⟨hfirst, hminor⟩ := effect_within kernel w (h action mem_cons_self)
    obtain ⟨hrest, hminor'⟩ := ih (w.effect kernel action) fun a ha => h a (mem_cons_of_mem _ ha)
    have hsame : (w.effect kernel action).minorOf = w.minorOf := by
      funext m
      cases m with
      | existing minor => rfl
      | allocated => exact hminor
    refine ⟨?_, hminor'.trans hminor⟩
    rw [hsame, hfirst, Option.map_map] at hrest
    exact hrest

section After

variable {kernel : Kernel} {minorOf : Minor → ℕ} {k : KernelResource}

@[simp] theorem after_nil : k.after kernel minorOf [] = k := rfl

@[simp] theorem after_cons (action : Action) (rest : List Action) :
    k.after kernel minorOf (action :: rest) =
      (action.on kernel minorOf k).after kernel minorOf rest := rfl

@[simp] theorem after_append (actions more : List Action) :
    k.after kernel minorOf (actions ++ more) =
      (k.after kernel minorOf actions).after kernel minorOf more :=
  foldl_append

theorem onMinor_single {v : KernelVolume} (hv : k.volumes = [v])
    (f : KernelVolume → KernelVolume) : k.onMinor v.minor f = { k with volumes := [f v] } := by
  simp [KernelResource.onMinor, hv]

theorem after_attachActions {fresh uuid : String} {a : ActualState} {minor : Minor} {dev : Device}
    (hfail : ∀ err, Action.fail err ∉ computeAttachActions fresh a uuid minor dev) :
    k.after kernel minorOf (computeAttachActions fresh a uuid minor dev) =
      k.onMinor (minorOf minor) (attached kernel dev) := by
  unfold computeAttachActions at hfail ⊢
  dsimp only at hfail ⊢
  split
  · split
    · rfl
    · split
      · rename_i hfirst hforeign
        rw [if_pos ‹_›, if_neg hfirst, if_pos hforeign] at hfail
        exact absurd mem_cons_self (hfail _)
      · split
        · rfl
        · split <;> rfl
  · rfl

variable {flant : Bool} {fresh : String} {i : IntendedState} {a : ActualState} {minor : Minor}
  {v : KernelVolume}

/-- What the disk actions make of the volume: a wrong disk is detached, a missing one attached,
the options of the right one are brought up to date. -/
def diskStep (kernel : Kernel) (flant : Bool) (i : IntendedState) (v : KernelVolume) :
    KernelVolume :=
  if v.backingDisk.isSome ∧ v.backingDisk ≠ i.backingDisk then detached (i.type = .diskless) v
  else
    match v.backingDisk, i.backingDisk with
    | none, some dev =>
      if i.type = .diskful then
        { attached kernel dev v with
          disk := applyDiskOptions (newDiskOptions flant i) (attached kernel dev v).disk }
      else v
    | none, none => v
    | some _, _ =>
      { v with disk := applyDiskOptions (changedDiskOptions flant i (actualVolume v)) v.disk }

theorem diskStep_minor (v : KernelVolume) : (diskStep kernel flant i v).minor = v.minor := by
  unfold diskStep
  split
  · rfl
  · split
    · split <;> rfl
    · rfl
    · rfl

theorem after_diskActions (hv : k.volumes = [v]) (hdisk : actualBackingDisk (some a) = v.backingDisk)
    (hvolumes : v.backingDisk.isSome = true → a.volumes = [actualVolume v])
    (hminor : minorOf minor = v.minor) (hexisting : minorOf (.existing v.minor) = v.minor)
    (hfail : ∀ err, Action.fail err ∉ computeDiskActions flant fresh minor i a) :
    k.after kernel minorOf (computeDiskActions flant fresh minor i a) =
      { k with volumes := [diskStep kernel flant i v] } := by
  unfold computeDiskActions at hfail ⊢
  unfold diskStep
  rw [hdisk] at hfail ⊢
  dsimp only at hfail ⊢
  split
  · rw [after_cons, after_nil]
    show k.onMinor (minorOf minor) _ = _
    rw [hminor, onMinor_single hv]
  · rename_i hsame
    rw [if_neg hsame] at hfail
    match hactual : v.backingDisk, hintended : i.backingDisk with
    | none, none =>
      show k = _
      rw [← hv]
    | none, some dev =>
      rw [hactual, hintended] at hfail
      dsimp only at hfail ⊢
      split
      · rename_i hfull
        rw [if_pos hfull] at hfail
        rw [after_append, after_attachActions fun err herr =>
          hfail err (mem_append_left _ herr), hminor, onMinor_single hv]
        show KernelResource.onMinor _ (minorOf minor) _ = _
        rw [hminor]
        exact onMinor_single (v := attached kernel dev v) rfl _
      · rw [after_nil, ← hv]
    | some dev, _ =>
      dsimp only
      rw [computeDiskOptionsActionReconcile, hvolumes (by rw [hactual]; rfl)]
      simp only [filterMap_cons, filterMap_nil, actualVolume_backingDisk, hactual,
        Option.isNone_some, Bool.false_eq_true, if_false]
      by_cases hsettled : changedDiskOptions flant i (actualVolume v) = .unchanged
      · rw [if_pos hsettled, hsettled, ← hactual]
        show k = { k with volumes := [v] }
        rw [← hv]
      · rw [if_neg hsettled]
        show k.onMinor (minorOf (.existing v.minor)) _ = _
        rw [hexisting, onMinor_single hv, hactual]

def sizeStep (kernel : Kernel) (i : IntendedState) (observed v : KernelVolume) : KernelVolume :=
  if i.type = .diskful ∧ i.sizeBytes ≠ 0 ∧ observed.backingDisk.isSome ∧
      observed.diskState ≠ "Diskless" ∧ observed.size * 1024 < i.sizeBytes then
    resized kernel i.sizeBytes v
  else v

theorem computeResizeAction_single (ha : a.volumes = [actualVolume v]) :
    computeResizeAction i a =
      if i.type = .diskful ∧ i.sizeBytes ≠ 0 ∧ v.backingDisk.isSome ∧
          v.diskState ≠ "Diskless" ∧ v.size * 1024 < i.sizeBytes then
        [.resize (.existing v.minor) i.sizeBytes]
      else [] := by
  unfold computeResizeAction
  rw [ha]
  simp only [actualVolume_backingDisk]
  by_cases hfull : i.type = .diskful
  · by_cases hzero : i.sizeBytes = 0
    · simp [hzero]
    · by_cases hdisk : v.backingDisk = none
      · simp [hdisk]
      · obtain ⟨dev, hdev⟩ := Option.ne_none_iff_exists'.mp hdisk
        by_cases hstate : v.diskState = "Diskless"
        · simp [actualVolume, hstate]
        · simp [actualVolume, hfull, hzero, hdev, hstate]
  · simp [hfull]

theorem after_resizeAction {current : KernelVolume} (hv : k.volumes = [current])
    (hsame : current.minor = v.minor) (hexisting : minorOf (.existing v.minor) = v.minor)
    (ha : a.volumes = [actualVolume v] ∨ (a.volumes = [] ∧ v.backingDisk = none)) :
    k.after kernel minorOf (computeResizeAction i a) =
      { k with volumes := [sizeStep kernel i v current] } := by
  unfold sizeStep
  rcases ha with ha | ⟨ha, hnone⟩
  · rw [computeResizeAction_single ha]
    split
    · show k.onMinor (minorOf (.existing v.minor)) _ = _
      rw [hexisting, ← hsame, onMinor_single hv]
    · rw [after_nil, ← hv]
  · have hempty : computeResizeAction i a = [] := by
      unfold computeResizeAction
      rw [ha]
      exact ite_self _
    rw [hempty, after_nil, if_neg (by simp [hnone]), ← hv]

def DiskSettled (flant : Bool) (i : IntendedState) (v : KernelVolume) : Prop :=
  match v.backingDisk with
  | none => i.type = .diskful → i.backingDisk = none
  | some dev => i.backingDisk = some dev ∧ DiskFits flant i v.disk

theorem computeDiskActions_eq_nil (ha : a.volumes = [actualVolume v]) :
    computeDiskActions flant fresh minor i a = [] ↔ DiskSettled flant i v := by
  have hdisk : actualBackingDisk (some a) = v.backingDisk := by simp [actualBackingDisk, ha]
  unfold computeDiskActions DiskSettled
  rw [hdisk]
  dsimp only
  cases hactual : v.backingDisk with
  | none =>
    cases hintended : i.backingDisk with
    | none => simp
    | some dev => by_cases hfull : i.type = .diskful <;> simp [hfull, computeDiskOptionsAction]
  | some dev =>
    generalize hintended : i.backingDisk = intended
    by_cases hsame : intended = some dev
    · subst hsame
      simp only [Option.isSome_some, ne_eq, not_true_eq_false, and_false, if_false, true_and,
        computeDiskOptionsActionReconcile, ha, filterMap_cons, filterMap_nil,
        actualVolume_backingDisk, hactual, Option.isNone_some, Bool.false_eq_true]
      rw [← changedDiskOptions_eq_unchanged]
      split <;> simp_all
    · simp [Ne.symm hsame, hsame]

/-- The disk attached before the pass, if any, is not to be replaced by another one. -/
def DiskKept (i : IntendedState) (v : KernelVolume) : Prop :=
  i.type = .diskful → i.backingDisk.isSome → v.backingDisk.isSome → v.backingDisk = i.backingDisk

theorem diskStep_settled (v : KernelVolume) :
    DiskSettled flant i (diskStep kernel flant i v) ↔ DiskKept i v := by
  unfold diskStep DiskKept
  match hactual : v.backingDisk, hintended : i.backingDisk with
  | none, none => simp [DiskSettled, hactual, hintended]
  | none, some dev =>
    by_cases hfull : i.type = .diskful
    · simp [DiskSettled, hfull, hintended, attached, diskFits_attached]
    · simp [DiskSettled, hfull, hactual]
  | some dev, none => simp [DiskSettled, detached, hintended]
  | some dev, some dev' =>
    by_cases hsame : dev = dev'
    · subst hsame
      simp [DiskSettled, hintended, diskFits_applied]
    · simp [DiskSettled, detached, hsame, hintended]

theorem sizeStep_eq (kernel : Kernel) (i : IntendedState) (observed v : KernelVolume) :
    ∃ size, sizeStep kernel i observed v = { v with size := size } := by
  unfold sizeStep resized
  split
  · split
    · exact ⟨v.size, rfl⟩
    · split
      · exact ⟨_, rfl⟩
      · exact ⟨v.size, rfl⟩
  · exact ⟨v.size, rfl⟩

/-- The size the spec asks for is reached: a disk attached now is large enough as it is, one
attached before is large enough or can be grown to the size, which is one of whole KiB. -/
def SizeReached (kernel : Kernel) (i : IntendedState) (v : KernelVolume) : Prop :=
  i.type = .diskful → ∀ dev, i.backingDisk = some dev →
    if v.backingDisk = some dev then
      v.diskState = "Diskless" ∨ i.sizeBytes ≤ v.size * 1024 ∨
        (1024 ∣ i.sizeBytes ∧ i.sizeBytes / 1024 ≤ kernel.capacity dev)
    else kernel.attachedState = "Diskless" ∨ i.sizeBytes ≤ kernel.capacity dev * 1024

theorem sizeStep_settled (hkept : DiskKept i v)
    (ha : a.volumes = [actualVolume (sizeStep kernel i v (diskStep kernel flant i v))]) :
    computeResizeAction i a = [] ↔ SizeReached kernel i v := by
  rw [computeResizeAction_single ha, ite_eq_right_iff]
  simp only [cons_ne_self, imp_false]
  unfold SizeReached
  by_cases hfull : i.type = .diskful
  swap
  · simp [hfull]
  simp only [hfull, true_and, true_implies]
  match hactual : v.backingDisk, hintended : i.backingDisk with
  | none, none => simp [sizeStep, diskStep, hactual, hintended]
  | some dev, none => simp [sizeStep, diskStep, hactual, hintended, detached, resized]
  | none, some dev =>
    have hstep : sizeStep kernel i v (diskStep kernel flant i v) = diskStep kernel flant i v := by
      simp [sizeStep, hactual]
    rw [hstep]
    by_cases hstate : kernel.attachedState = "Diskless"
    · simp [diskStep, hactual, hintended, hfull, attached, hstate]
    · simp [diskStep, hactual, hintended, hfull, attached, hstate]
      omega
  | some dev, some dev' =>
    obtain rfl : dev = dev' := by
      have hsame := hkept hfull (by rw [hintended]; rfl) (by rw [hactual]; rfl)
      rw [hactual, hintended] at hsame
      exact Option.some.inj hsame
    have hstep : diskStep kernel flant i v =
        { v with disk := applyDiskOptions (changedDiskOptions flant i (actualVolume v)) v.disk } := by
      simp [diskStep, hactual, hintended]
    rw [hstep]
    by_cases hstate : v.diskState = "Diskless"
    · simp [sizeStep, hstate]
    by_cases hgrow : v.size * 1024 < i.sizeBytes
    · have hne : i.sizeBytes ≠ 0 := by omega
      by_cases hcapacity : i.sizeBytes / 512 / 2 ≤ kernel.capacity dev
      all_goals
        simp [sizeStep, resized, hfull, hne, hactual, hstate, hgrow, hcapacity]
        omega
    · simp [sizeStep, hfull, hactual, hstate, hgrow]
      omega

end After

def KernelResource.peer (k : KernelResource) (id : ℕ) : Option KernelConnection :=
  k.connections.find? (·.peerNodeID = id)

def Action.peerID : Action → Option ℕ
  | .newPeer _ peer _ | .netOptions _ peer _ | .peerDeviceOptions _ peer _ _
  | .newPath _ peer _ _ | .connect _ peer | .disconnect _ peer | .delPath _ peer _ _
  | .delPeer _ peer | .forgetPeer _ peer => some peer
  | _ => none

def Action.onConnection (kernel : Kernel) (volumes : List KernelVolume) :
    Action → Option KernelConnection → Option KernelConnection
  | .newPeer _ peer o, c => c.or (some (newConnection kernel volumes peer o))
  | .netOptions _ _ o, c => c.map fun c => { c with net := applyNetOptions o c.net }
  | .peerDeviceOptions _ _ volumeNr o, c => c.map (·.onVolume volumeNr (applyPeerDeviceOptions o))
  | .newPath _ _ localAddr remoteAddr, c => c.map fun c =>
    { c with paths := c.paths ++
        [{ thisHost := localAddr, remoteHost := remoteAddr, established := false }] }
  | .connect _ _, c => c.map fun c => { c with connectionState := kernel.connectingState }
  | .disconnect _ _, c => c.map fun c => { c with connectionState := "StandAlone" }
  | .delPath _ _ localAddr remoteAddr, c => c.map fun c =>
    { c with paths := c.paths.filter (·.key ≠ (localAddr, remoteAddr)) }
  | .delPeer _ _, _ => none
  | _, c => c

section Peers

variable {kernel : Kernel} {minorOf : Minor → ℕ} {k : KernelResource}
  {f : KernelConnection → KernelConnection}

theorem peer_onPeer (k : KernelResource) (peer id : ℕ) (hf : ∀ c, (f c).peerNodeID = c.peerNodeID) :
    (k.onPeer peer f).peer id = if peer = id then (k.peer id).map f else k.peer id := by
  have hkey : ((fun c : KernelConnection => decide (c.peerNodeID = id)) ∘
      fun c => if c.peerNodeID = peer then f c else c) = fun c => decide (c.peerNodeID = id) := by
    funext c
    by_cases hc : c.peerNodeID = peer <;> simp [hc, hf]
  simp only [KernelResource.peer, KernelResource.onPeer, List.find?_map, hkey]
  cases hfind : k.connections.find? (·.peerNodeID = id) with
  | none => simp
  | some c =>
    have hid : c.peerNodeID = id := by simpa using List.find?_some hfind
    subst hid
    by_cases hpeer : peer = c.peerNodeID
    · simp [hpeer]
    · simp [hpeer, Ne.symm hpeer]

theorem peer_on (kernel : Kernel) (minorOf : Minor → ℕ) (h : action.stage = .peer)
    (k : KernelResource) (id : ℕ) :
    (action.on kernel minorOf k).peer id =
        (if action.peerID = some id then action.onConnection kernel k.volumes (k.peer id)
          else k.peer id) ∧
      action.on kernel minorOf k =
        { k with connections := (action.on kernel minorOf k).connections } := by
  cases action <;> simp only [Action.stage, reduceCtorEq] at h <;> refine ⟨?_, rfl⟩
  case newPeer name peer o =>
    simp only [Action.on, Action.peerID, Action.onConnection, KernelResource.peer,
      List.find?_append, Option.some.injEq]
    by_cases hid : peer = id
    · simp [hid, newConnection]
    · simp [hid, newConnection]
  case delPeer name peer =>
    simp only [Action.on, Action.peerID, Action.onConnection, KernelResource.peer,
      List.find?_filter, Option.some.injEq]
    by_cases hid : peer = id
    · subst hid
      simp
    · rw [if_neg hid]
      congr 1
      funext c
      by_cases hc : c.peerNodeID = id
      · simp [hc, Ne.symm hid]
      · simp [hc]
  case forgetPeer name peer => simp [Action.on, Action.onConnection]
  all_goals
    simp only [Action.on, Action.peerID, Action.onConnection, Option.some.injEq]
    exact peer_onPeer k _ id fun _ => rfl

theorem peer_after (h : Staged .peer actions) (k : KernelResource) (id : ℕ) :
    (k.after kernel minorOf actions).peer id =
        (actions.filter (·.peerID = some id)).foldl
          (fun c action => action.onConnection kernel k.volumes c) (k.peer id) ∧
      k.after kernel minorOf actions =
        { k with connections := (k.after kernel minorOf actions).connections } := by
  induction actions generalizing k with
  | nil => exact ⟨rfl, rfl⟩
  | cons action rest ih =>
    obtain ⟨hfirst, hrest⟩ := forall_mem_cons.mp h
    obtain ⟨hpeer, hframe⟩ := peer_on kernel minorOf hfirst k id
    obtain ⟨ihpeer, ihframe⟩ := ih hrest (action.on kernel minorOf k)
    have hvolumes : (action.on kernel minorOf k).volumes = k.volumes := by rw [hframe]
    rw [after_cons]
    constructor
    · rw [ihpeer, hvolumes, hpeer, filter_cons]
      by_cases hid : action.peerID = some id <;> simp [hid]
    · rw [ihframe, hframe]

theorem after_frame (kernel : Kernel) (minorOf : Minor → ℕ) (h : Staged .peer actions)
    (k : KernelResource) :
    k.after kernel minorOf actions =
      { k with connections := (k.after kernel minorOf actions).connections } :=
  (peer_after h k 0).2

theorem filter_flatMap_peer {α : Type} {l : List α} {f : α → List Action} {key : α → ℕ}
    (h : ∀ a, ∀ action ∈ f a, action.peerID = some (key a)) (id : ℕ) :
    (l.flatMap f).filter (·.peerID = some id) = (l.filter (key · = id)).flatMap f := by
  induction l with
  | nil => rfl
  | cons a l ih =>
    rw [flatMap_cons, filter_append, ih, filter_cons]
    by_cases hid : key a = id
    · rw [filter_eq_self.mpr fun action haction => by simp [h a action haction, hid]]
      simp [hid]
    · rw [filter_eq_nil_iff.mpr fun action haction => by simp [h a action haction, hid]]
      simp [hid]

variable {n : String} {i : IntendedState} {a : ActualState} {p : IntendedPeer} {ap : ActualPeer}

def Action.between (n : String) (id : ℕ) (action : Action) : Prop :=
  action.peerID = some id ∧ action.within n = true

variable (hconnect : kernel.connectingState ≠ "StandAlone")
  (hp : p ∈ lastByKey IntendedPeer.nodeID i.peers) (hap : ap ∈ lastByKey ActualPeer.nodeID a.peers)
  (o : Option ActualPeer)

theorem computePathActions_between :
    ∀ action ∈ computePathActions n p o, action.between n p.nodeID := by
  intro action haction
  rcases mem_append.mp haction with h | h
  all_goals
    obtain ⟨path, -, rfl⟩ := mem_map.mp h
    exact ⟨rfl, decide_eq_true rfl⟩

theorem computeNewPeerActions_between (p : IntendedPeer) :
    ∀ action ∈ computeNewPeerActions n i p, action.between n p.nodeID := by
  intro action haction
  simp only [computeNewPeerActions, computeNetOptionsAction, cons_append, nil_append,
    mem_cons, mem_append, not_mem_nil, or_false] at haction
  rcases haction with rfl | rfl | hpath | rfl
  case inr.inr.inl => exact computePathActions_between none action hpath
  all_goals exact ⟨rfl, decide_eq_true rfl⟩

theorem computeExistingPeerActions_between (pair : IntendedPeer × ActualPeer) :
    ∀ action ∈ computeExistingPeerActions n i pair.1 pair.2, action.between n pair.1.nodeID := by
  intro action haction
  simp only [computeExistingPeerActions, computeNetOptionsActionReconcile,
    computePeerDeviceOptionsAction, mem_append] at haction
  rcases haction with ((h | h) | h) | h
  case inl.inr => exact computePathActions_between _ action h
  all_goals
    split at h
    all_goals first
      | exact absurd h not_mem_nil
      | rw [mem_singleton.mp h]; exact ⟨rfl, decide_eq_true rfl⟩

theorem computeRemovedPeerActions_between (ap : ActualPeer) :
    ∀ action ∈ computeRemovedPeerActions n ap, action.between n ap.nodeID := by
  intro action haction
  simp only [computeRemovedPeerActions, mem_cons, not_mem_nil, or_false] at haction
  rcases haction with rfl | rfl | rfl <;> exact ⟨rfl, by simp [Action.within]⟩

theorem computePeerActions_within :
    ∀ action ∈ computePeerActions n i a, action.within n = true := by
  intro action haction
  simp only [computePeerActions, mem_append, mem_flatMap] at haction
  rcases haction with (⟨p, -, hin⟩ | ⟨pair, -, hin⟩) | ⟨ap, -, hin⟩
  · exact (computeNewPeerActions_between p action hin).2
  · exact (computeExistingPeerActions_between pair action hin).2
  · exact (computeRemovedPeerActions_between ap action hin).2

/-- The peers to add, to keep and to remove. -/
abbrev matchedPeers (i : IntendedState) (a : ActualState) :=
  intersect i.peers IntendedPeer.nodeID a.peers ActualPeer.nodeID

theorem computePeerActions_filter (id : ℕ) :
    (computePeerActions n i a).filter (·.peerID = some id) =
      (((matchedPeers i a).1.filter (·.nodeID = id)).flatMap (computeNewPeerActions n i) ++
        ((matchedPeers i a).2.1.filter (·.1.nodeID = id)).flatMap fun pair =>
          computeExistingPeerActions n i pair.1 pair.2) ++
        ((matchedPeers i a).2.2.filter (·.nodeID = id)).flatMap (computeRemovedPeerActions n) := by
  simp only [computePeerActions, filter_append]
  rw [filter_flatMap_peer fun p action h => (computeNewPeerActions_between p action h).1,
    filter_flatMap_peer fun pair action h => (computeExistingPeerActions_between pair action h).1,
    filter_flatMap_peer fun ap action h => (computeRemovedPeerActions_between ap action h).1]

theorem none_added (h : (∀ p ∈ i.peers, p.nodeID ≠ id) ∨ ∃ ap ∈ a.peers, ap.nodeID = id) :
    (matchedPeers i a).1.filter (·.nodeID = id) = [] := by
  refine filter_eq_nil_iff.mpr fun p hp hid => ?_
  obtain ⟨hmem, hnone⟩ := mem_intersect_left.mp hp
  rcases h with h | ⟨ap, hap, heq⟩
  · exact h p (mem_of_mem_lastByKey hmem) (of_decide_eq_true hid)
  · exact hnone ap hap (heq.trans (of_decide_eq_true hid).symm)

theorem none_kept (h : (∀ p ∈ i.peers, p.nodeID ≠ id) ∨ ∀ ap ∈ a.peers, ap.nodeID ≠ id) :
    (matchedPeers i a).2.1.filter (·.1.nodeID = id) = [] := by
  refine filter_eq_nil_iff.mpr fun pair hpair hid => ?_
  obtain ⟨hp, hap, heq⟩ := mem_intersect_both.mp hpair
  rcases h with h | h
  · exact h pair.1 (mem_of_mem_lastByKey hp) (of_decide_eq_true hid)
  · exact h pair.2 (mem_of_mem_lastByKey hap) (heq.trans (of_decide_eq_true hid))

theorem none_removed (h : (∀ ap ∈ a.peers, ap.nodeID ≠ id) ∨ ∃ p ∈ i.peers, p.nodeID = id) :
    (matchedPeers i a).2.2.filter (·.nodeID = id) = [] := by
  refine filter_eq_nil_iff.mpr fun ap hap hid => ?_
  obtain ⟨hmem, hnone⟩ := mem_intersect_right.mp hap
  rcases h with h | ⟨p, hp, heq⟩
  · exact h ap (mem_of_mem_lastByKey hmem) (of_decide_eq_true hid)
  · exact hnone p hp (heq.trans (of_decide_eq_true hid).symm)

include hp in
theorem computePeerActions_new (hnone : ∀ ap ∈ a.peers, ap.nodeID ≠ p.nodeID) :
    (computePeerActions n i a).filter (·.peerID = some p.nodeID) = computeNewPeerActions n i p := by
  have hadd := Keyed.filter_eq_single _ intersect_left_nodup (mem_intersect_left.mpr ⟨hp, hnone⟩)
  rw [computePeerActions_filter, hadd, none_kept (.inr hnone), none_removed (.inl hnone)]
  simp

include hp hap in
theorem computePeerActions_existing (hid : ap.nodeID = p.nodeID) :
    (computePeerActions n i a).filter (·.peerID = some p.nodeID) =
      computeExistingPeerActions n i p ap := by
  have hboth := Keyed.filter_eq_single (fun pair : IntendedPeer × ActualPeer => pair.1.nodeID)
    intersect_both_nodup (mem_intersect_both.mpr ⟨hp, hap, hid⟩)
  rw [computePeerActions_filter, none_added (.inr ⟨ap, mem_of_mem_lastByKey hap, hid⟩), hboth,
    none_removed (.inr ⟨p, mem_of_mem_lastByKey hp, rfl⟩)]
  simp

include hap in
theorem computePeerActions_removed (hnone : ∀ p ∈ i.peers, p.nodeID ≠ ap.nodeID) :
    (computePeerActions n i a).filter (·.peerID = some ap.nodeID) =
      computeRemovedPeerActions n ap := by
  have hremove := Keyed.filter_eq_single _ intersect_right_nodup
    (mem_intersect_right.mpr ⟨hap, hnone⟩)
  rw [computePeerActions_filter, none_added (.inl hnone), none_kept (.inl hnone), hremove]
  simp

theorem computePeerActions_neither (hp : ∀ p ∈ i.peers, p.nodeID ≠ id)
    (hap : ∀ ap ∈ a.peers, ap.nodeID ≠ id) :
    (computePeerActions n i a).filter (·.peerID = some id) = [] := by
  rw [computePeerActions_filter, none_added (.inl hp), none_kept (.inl hp), none_removed (.inl hap)]
  rfl

def newPath (p : IntendedPath) : Path where
  thisHost := p.key.1
  remoteHost := p.key.2
  established := false

/-- The paths to delete, without the last established one of an active connection. -/
def deletedPaths (p : IntendedPeer) (active : Bool) (paths : List Path) : List Path :=
  let toRemove := (intersect p.paths IntendedPath.key paths Path.key).2.2
  toRemove.filter fun path =>
    !(active && path.established && establishedRetained paths toRemove = 0)

def pathStep (p : IntendedPeer) (active : Bool) (paths : List Path) : List Path :=
  let toAdd := (intersect p.paths IntendedPath.key paths Path.key).1
  (paths ++ toAdd.map newPath).filter fun path => path.key ∉ (deletedPaths p active paths).map Path.key

variable {volumes : List KernelVolume}

def connectionAfter (kernel : Kernel) (volumes : List KernelVolume) (c : Option KernelConnection)
    (actions : List Action) : Option KernelConnection :=
  actions.foldl (fun c action => action.onConnection kernel volumes c) c

@[simp] theorem connectionAfter_append (c : Option KernelConnection) (actions more : List Action) :
    connectionAfter kernel volumes c (actions ++ more) =
      connectionAfter kernel volumes (connectionAfter kernel volumes c actions) more :=
  foldl_append

theorem connectionAfter_newPaths (id : ℕ) (c : KernelConnection) (l : List IntendedPath) :
    connectionAfter kernel volumes (some c)
        (l.map fun path => .newPath n id path.key.1 path.key.2) =
      some { c with paths := c.paths ++ l.map newPath } := by
  induction l generalizing c with
  | nil => simp [connectionAfter]
  | cons path l ih =>
    have hstep := ih { c with paths := c.paths ++ [newPath path] }
    simpa [connectionAfter, Action.onConnection, newPath] using hstep

theorem connectionAfter_delPaths (id : ℕ) (c : KernelConnection) (l : List Path) :
    connectionAfter kernel volumes (some c)
        (l.map fun path => .delPath n id path.key.1 path.key.2) =
      some { c with paths := c.paths.filter fun path => path.key ∉ l.map Path.key } := by
  induction l generalizing c with
  | nil => simp [connectionAfter]
  | cons path l ih =>
    have hstep := ih { c with paths := c.paths.filter (·.key ≠ path.key) }
    simp only [filter_filter] at hstep
    refine hstep.trans ?_
    congr 3
    funext other
    by_cases hkey : other.key = path.key <;> simp [hkey]

theorem connectionAfter_pathActions (c : KernelConnection)
    (hpaths : (o.map (·.paths)).getD [] = c.paths) :
    connectionAfter kernel volumes (some c) (computePathActions n p o) =
      some { c with
        paths := pathStep p (o.any fun ap => ap.connectionState ≠ "StandAlone") c.paths } := by
  unfold computePathActions
  rw [hpaths]
  dsimp only
  rw [connectionAfter_append, connectionAfter_newPaths, connectionAfter_delPaths]
  rfl

theorem computePathActions_eq_nil (c : KernelConnection) :
    computePathActions n p (some (actualPeer c)) = [] ↔
      (∀ q ∈ p.paths, ∃ path ∈ c.paths, path.key = q.key) ∧
        deletedPaths p (c.connectionState ≠ "StandAlone") c.paths = [] := by
  unfold computePathActions deletedPaths
  simp only [Option.map_some, actualPeer_paths, Option.getD_some, Option.any_some,
    actualPeer_connectionState, append_eq_nil_iff, map_eq_nil_iff]
  refine and_congr_left fun _ => ?_
  rw [eq_nil_iff_forall_not_mem]
  constructor
  · intro hempty q hq
    obtain ⟨r, hr, hkey⟩ := exists_mem_lastByKey IntendedPath.key q hq
    by_contra hmissing
    refine hempty r (mem_intersect_left.mpr ⟨hr, fun path hpath heq => hmissing ?_⟩)
    exact ⟨path, hpath, heq.trans hkey⟩
  · intro hall q hq
    obtain ⟨hmem, hnone⟩ := mem_intersect_left.mp hq
    obtain ⟨path, hpath, hkey⟩ := hall q (mem_of_mem_lastByKey hmem)
    exact hnone path hpath hkey

section Guard

variable {active : Bool} {paths : List Path} {path : Path}

theorem mem_pathStep :
    path ∈ pathStep p active paths ↔
      (path ∈ paths ∨ ∃ q ∈ (intersect p.paths IntendedPath.key paths Path.key).1,
        newPath q = path) ∧ ∀ del ∈ deletedPaths p active paths, del.key ≠ path.key := by
  simp [pathStep, or_and_right]

theorem mem_deletedPaths (h : path ∈ deletedPaths p active paths) :
    path ∈ paths ∧ ∀ q ∈ p.paths, q.key ≠ path.key := by
  obtain ⟨hmem, hnone⟩ := mem_intersect_right.mp (mem_of_mem_filter h)
  exact ⟨mem_of_mem_lastByKey hmem, hnone⟩

theorem pathStep_complete {q : IntendedPath} (hq : q ∈ p.paths) :
    ∃ path ∈ pathStep p active paths, path.key = q.key := by
  have hkept : ∀ del ∈ deletedPaths p active paths, del.key ≠ q.key :=
    fun del hdel heq => (mem_deletedPaths hdel).2 q hq heq.symm
  by_cases hold : ∃ path ∈ paths, path.key = q.key
  · obtain ⟨path, hpath, hkey⟩ := hold
    exact ⟨path, mem_pathStep.mpr ⟨.inl hpath, fun del hdel => hkey ▸ hkept del hdel⟩, hkey⟩
  · obtain ⟨r, hr, hkey⟩ := exists_mem_lastByKey IntendedPath.key q hq
    have hadd : r ∈ (intersect p.paths IntendedPath.key paths Path.key).1 :=
      mem_intersect_left.mpr ⟨hr, fun path hpath heq => hold ⟨path, hpath, heq.trans hkey⟩⟩
    have hnew : (newPath r).key = q.key := hkey
    exact ⟨newPath r, mem_pathStep.mpr ⟨.inr ⟨r, hadd, rfl⟩, fun del hdel => hnew ▸ hkept del hdel⟩,
      hnew⟩

/-- A path that is left although it is not intended is an established one of an active connection
whose intended paths are all down, and it was there before. -/
theorem pathStep_left (hnodup : (paths.map Path.key).Nodup)
    (hpath : path ∈ pathStep p active paths) (hnot : ∀ q ∈ p.paths, q.key ≠ path.key) :
    active = true ∧ path.established = true ∧
      ∀ other ∈ pathStep p active paths, other.established = true →
        ∀ q ∈ p.paths, q.key ≠ other.key := by
  obtain ⟨hold | ⟨q, hq, rfl⟩, hkept⟩ := mem_pathStep.mp hpath
  swap
  · exact absurd rfl (hnot q (mem_of_mem_lastByKey (mem_intersect_left.mp hq).1))
  have hremove : path ∈ (intersect p.paths IntendedPath.key paths Path.key).2.2 := by
    refine mem_intersect_right.mpr ⟨?_, hnot⟩
    rwa [lastByKey_eq_self hnodup]
  have hguard : (active && path.established && decide (establishedRetained paths
      (intersect p.paths IntendedPath.key paths Path.key).2.2 = 0)) = true := by
    by_contra hfree
    refine hkept path (mem_filter.mpr ⟨hremove, ?_⟩) rfl
    rwa [Bool.not_eq_true', ← Bool.not_eq_true]
  simp only [Bool.and_eq_true, decide_eq_true_eq] at hguard
  obtain ⟨⟨hactive, hestablished⟩, hzero⟩ := hguard
  refine ⟨hactive, hestablished, fun other hother hup q hq heq => ?_⟩
  obtain ⟨hother' | ⟨r, -, rfl⟩, -⟩ := mem_pathStep.mp hother
  · have hcount := countP_eq_zero.mp hzero other hother'
    refine hcount (Bool.and_eq_true_iff.mpr ⟨?_, hup⟩)
    rw [Bool.not_eq_true', any_eq_false]
    intro gone hgone hkey
    exact (mem_intersect_right.mp hgone).2 q hq (heq.trans (of_decide_eq_true hkey).symm)
  · cases hup

theorem pathStep_settled (hnodup : (paths.map Path.key).Nodup) {active' : Bool}
    (hactive : active = true → active' = true) :
    deletedPaths p active' (pathStep p active paths) = [] := by
  rw [eq_nil_iff_forall_not_mem]
  intro path hpath
  obtain ⟨hmem, hnot⟩ := mem_deletedPaths hpath
  obtain ⟨hact, hestablished, hdown⟩ := pathStep_left hnodup hmem hnot
  have hzero : establishedRetained (pathStep p active paths)
      (intersect p.paths IntendedPath.key (pathStep p active paths) Path.key).2.2 = 0 := by
    refine countP_eq_zero.mpr fun other hother hretained => ?_
    rw [Bool.and_eq_true_iff, Bool.not_eq_true', any_eq_false] at hretained
    obtain ⟨gone, hgone, hkey⟩ := exists_mem_lastByKey Path.key other hother
    refine hretained.1 gone (mem_intersect_right.mpr ⟨hgone, fun q hq heq => ?_⟩)
      (decide_eq_true hkey)
    exact hdown other hother hretained.2 q hq (heq.trans hkey)
  have hfree := (mem_filter.mp hpath).2
  simp [hactive hact, hestablished, hzero] at hfree

end Guard

structure PeerSettled (i : IntendedState) (p : IntendedPeer) (c : KernelConnection) : Prop where
  net : NetFits p i.allowTwoPrimaries c.net
  device : (actualPeer c).peerDeviceDisk = some (intendedPeerDevice p)
  paths : ∀ q ∈ p.paths, ∃ path ∈ c.paths, path.key = q.key
  kept : deletedPaths p (c.connectionState ≠ "StandAlone") c.paths = []
  connected : c.connectionState ≠ "StandAlone"

theorem computeExistingPeerActions_eq_nil (c : KernelConnection) :
    computeExistingPeerActions n i p (actualPeer c) = [] ↔ PeerSettled i p c := by
  have hnet : computeNetOptionsActionReconcile n p (actualPeer c) i.allowTwoPrimaries = [] ↔
      NetFits p i.allowTwoPrimaries c.net := by
    rw [← changedNetOptions_eq_unchanged]
    unfold computeNetOptionsActionReconcile
    dsimp only
    split <;> simp_all
  have hdevice : computePeerDeviceOptionsAction n p (actualPeer c) = [] ↔
      (actualPeer c).peerDeviceDisk = some (intendedPeerDevice p) := by
    rw [← changedPeerDeviceOptions_eq_unchanged]
    unfold computePeerDeviceOptionsAction
    dsimp only
    split <;> simp_all
  have hconnect : (if (actualPeer c).connectionState = "StandAlone" then
      [Action.connect n p.nodeID] else []) = [] ↔ c.connectionState ≠ "StandAlone" := by
    rw [actualPeer_connectionState]
    split <;> simp_all
  simp only [computeExistingPeerActions, append_eq_nil_iff, hnet, hdevice, hconnect,
    computePathActions_eq_nil]
  constructor
  · rintro ⟨⟨⟨h1, h2⟩, h3, h4⟩, h5⟩
    exact ⟨h1, h2, h3, h4, h5⟩
  · rintro ⟨h1, h2, h3, h4, h5⟩
    exact ⟨⟨⟨h1, h2⟩, h3, h4⟩, h5⟩

def connectedPeer (kernel : Kernel) (volumes : List KernelVolume) (i : IntendedState)
    (p : IntendedPeer) : KernelConnection where
  peerNodeID := p.nodeID
  name := "peer-" ++ toString p.nodeID
  connectionState := kernel.connectingState
  net :=
    { protocol := if p.protocol = "" then kernel.net.protocol else p.protocol
      sharedSecret := if p.sharedSecret = "" then kernel.net.sharedSecret else p.sharedSecret
      cramHMACAlg :=
        if p.sharedSecretAlg = "" then kernel.net.cramHMACAlg else p.sharedSecretAlg.toLower
      allowTwoPrimaries := i.allowTwoPrimaries
      allowRemoteRead := p.allowRemoteRead
      verifyAlg := verifyAlg
      rrConflict := rrConflict }
  paths := pathStep p false []
  peerDevices := volumes.map fun v =>
    { volumeNr := v.volumeNr, peerDiskState := "DUnknown", replicationState := "Off"
      disk := kernel.peerDevice }

theorem connectionAfter_newPeer :
    connectionAfter kernel volumes none (computeNewPeerActions n i p) =
      some (connectedPeer kernel volumes i p) := by
  have hnet : connectionAfter kernel volumes none (computeNewPeerActions n i p) =
      connectionAfter kernel volumes (some { connectedPeer kernel volumes i p with
        connectionState := "StandAlone", paths := [] })
        (computePathActions n p none ++ [.connect n p.nodeID]) := by
    unfold computeNewPeerActions
    rw [cons_append, cons_append, append_assoc]
    simp [connectionAfter, computeNetOptionsAction, Action.onConnection, newConnection,
      applyNewPeerOptions, applyNetOptions, connectedPeer, rrConflict]
  rw [hnet, connectionAfter_append, connectionAfter_pathActions none _ rfl]
  rfl

/-- A new peer gets what the spec says: what the spec leaves empty is the kernel's default, and so
are the settings of the peer device, which are not set on a new peer. -/
structure NewPeerFits (kernel : Kernel) (p : IntendedPeer) : Prop where
  protocol : p.protocol = "" → kernel.net.protocol = ""
  sharedSecret : p.sharedSecret = "" → kernel.net.sharedSecret = ""
  sharedSecretAlg : p.sharedSecretAlg = "" → equalFold "" kernel.net.cramHMACAlg = true
  device : kernel.peerDevice = intendedPeerDevice p

include hconnect in
theorem connectedPeer_settled {v : KernelVolume} :
    PeerSettled i p (connectedPeer kernel [v] i p) ↔ NewPeerFits kernel p := by
  constructor
  · intro hsettled
    refine ⟨fun hempty => ?_, fun hempty => ?_, fun hempty => ?_, ?_⟩
    · simpa [connectedPeer, hempty] using hsettled.net.protocol.symm
    · simpa [connectedPeer, hempty] using hsettled.net.sharedSecret.symm
    · simpa [connectedPeer, hempty] using hsettled.net.sharedSecretAlg
    · exact Option.some.inj hsettled.device
  · rintro ⟨hprotocol, hsecret, halg, hdevice⟩
    refine ⟨⟨?_, ?_, ?_, rfl, rfl, rfl⟩, congrArg some hdevice, fun q hq => pathStep_complete hq,
      pathStep_settled (show (([] : List Path).map Path.key).Nodup from nodup_nil)
        nofun, hconnect⟩
    · by_cases hempty : p.protocol = ""
      · simp [connectedPeer, hempty, hprotocol hempty]
      · simp [connectedPeer, hempty]
    · by_cases hempty : p.sharedSecret = ""
      · simp [connectedPeer, hempty, hsecret hempty]
      · simp [connectedPeer, hempty]
    · by_cases hempty : p.sharedSecretAlg = ""
      · simp [connectedPeer, hempty, halg hempty]
      · simp [connectedPeer, hempty, equalFold_toLower]

/-- What the actions on a connected peer make of its connection, which was observed as `seen`. -/
def existingPeer (kernel : Kernel) (i : IntendedState) (p : IntendedPeer)
    (seen c : KernelConnection) : KernelConnection :=
  let net := applyNetOptions (changedNetOptions p (actualPeer seen) i.allowTwoPrimaries) c.net
  let c := { c with net := net }
  let c := c.onVolume 0 (applyPeerDeviceOptions (changedPeerDeviceOptions p (actualPeer seen)))
  { c with
    paths := pathStep p (seen.connectionState ≠ "StandAlone") c.paths
    connectionState :=
      if seen.connectionState = "StandAlone" then kernel.connectingState
      else c.connectionState }

theorem onVolume_unchanged (c : KernelConnection) (volumeNr : ℕ) :
    c.onVolume volumeNr (applyPeerDeviceOptions .unchanged) = c := by
  have hsame : (c.peerDevices.map fun pd => if pd.volumeNr = volumeNr then
      { pd with disk := applyPeerDeviceOptions .unchanged pd.disk } else pd) = c.peerDevices := by
    conv_rhs => rw [← map_id c.peerDevices]
    refine map_congr_left fun pd _ => ?_
    exact ite_self _
  rw [KernelConnection.onVolume, hsame]

theorem connectionAfter_existing {seen c : KernelConnection} (hpaths : c.paths = seen.paths) :
    connectionAfter kernel volumes (some c) (computeExistingPeerActions n i p (actualPeer seen)) =
      some (existingPeer kernel i p seen c) := by
  have hnet : connectionAfter kernel volumes (some c)
      (computeNetOptionsActionReconcile n p (actualPeer seen) i.allowTwoPrimaries) =
      some { c with
        net := applyNetOptions (changedNetOptions p (actualPeer seen) i.allowTwoPrimaries) c.net } := by
    unfold computeNetOptionsActionReconcile
    dsimp only
    split
    · rename_i hsame
      rw [hsame]
      rfl
    · rfl
  have hdevice : ∀ c : KernelConnection, connectionAfter kernel volumes (some c)
      (computePeerDeviceOptionsAction n p (actualPeer seen)) =
      some (c.onVolume 0 (applyPeerDeviceOptions
        (changedPeerDeviceOptions p (actualPeer seen)))) := by
    intro c
    unfold computePeerDeviceOptionsAction
    dsimp only
    split
    · rename_i hsame
      rw [hsame, onVolume_unchanged]
      rfl
    · rfl
  unfold computeExistingPeerActions
  rw [connectionAfter_append, connectionAfter_append, connectionAfter_append, hnet, hdevice,
    connectionAfter_pathActions (some (actualPeer seen)), actualPeer_connectionState]
  · unfold existingPeer
    split <;> rfl
  · exact hpaths.symm

include hconnect in
theorem existingPeer_settled {seen c : KernelConnection} {pd : KernelPeerDevice}
    (hc : c = { seen with peerDevices := [pd] }) (hnodup : (seen.paths.map Path.key).Nodup)
    (hseen : (actualPeer seen).peerDeviceDisk = some pd.disk ∨
      (actualPeer seen).peerDeviceDisk = none) :
    PeerSettled i p (existingPeer kernel i p seen c) ↔
      pd.volumeNr = 0 ∨ pd.disk = intendedPeerDevice p := by
  subst hc
  have hdevice : (actualPeer (existingPeer kernel i p seen
      { seen with peerDevices := [pd] })).peerDeviceDisk =
      some (if pd.volumeNr = 0 then intendedPeerDevice p else pd.disk) := by
    rw [← applyPeerDeviceOptions_changed hseen]
    by_cases hzero : pd.volumeNr = 0 <;>
      simp [existingPeer, KernelConnection.onVolume, actualPeer, ActualPeer.peerDeviceDisk, hzero]
  constructor
  · intro hsettled
    have hfits := Option.some.inj (hdevice.symm.trans hsettled.device)
    by_cases hzero : pd.volumeNr = 0
    · exact .inl hzero
    · rw [if_neg hzero] at hfits
      exact .inr hfits
  · intro hfits
    refine ⟨netFits_applied seen, ?_, fun q hq => pathStep_complete hq, ?_, ?_⟩
    · rw [hdevice]
      rcases hfits with hzero | hsame
      · rw [if_pos hzero]
      · rw [hsame, ite_self]
    · refine pathStep_settled hnodup fun hactive => ?_
      have hup : seen.connectionState ≠ "StandAlone" := of_decide_eq_true hactive
      simp [existingPeer, hup, KernelConnection.onVolume]
    · unfold existingPeer
      dsimp only
      split
      · exact hconnect
      · assumption

theorem peer_eq_some (hnodup : (k.connections.map (·.peerNodeID)).Nodup) {c : KernelConnection} :
    k.peer id = some c ↔ c ∈ k.connections ∧ c.peerNodeID = id :=
  Keyed.find?_eq_some hnodup

theorem peer_eq_none : k.peer id = none ↔ ∀ c ∈ k.connections, c.peerNodeID ≠ id := by
  simp [KernelResource.peer]

theorem unobserved_peer (ha : a.peers = k.connections.map actualPeer) (hpeer : k.peer id = none) :
    ∀ ap ∈ a.peers, ap.nodeID ≠ id := by
  rw [ha]
  intro ap hap
  obtain ⟨c, hc, rfl⟩ := mem_map.mp hap
  exact peer_eq_none.mp hpeer c hc

theorem observed_peer (hnodup : (k.connections.map (·.peerNodeID)).Nodup)
    (ha : a.peers = k.connections.map actualPeer) {c : KernelConnection} (hc : c ∈ k.connections) :
    actualPeer c ∈ lastByKey ActualPeer.nodeID a.peers := by
  have hkeys : (a.peers.map ActualPeer.nodeID).Nodup := by
    rwa [ha, map_map]
  rw [lastByKey_eq_self hkeys, ha]
  exact mem_map_of_mem hc

theorem computePeerActions_eq_nil (hnodup : (k.connections.map (·.peerNodeID)).Nodup)
    (ha : a.peers = k.connections.map actualPeer) :
    computePeerActions n i a = [] ↔
      (∀ p ∈ lastByKey IntendedPeer.nodeID i.peers,
        ∃ c, k.peer p.nodeID = some c ∧ PeerSettled i p c) ∧
      ∀ c ∈ k.connections, ∃ p ∈ i.peers, p.nodeID = c.peerNodeID := by
  constructor
  · intro hempty
    have hfilter : ∀ id, (computePeerActions n i a).filter (·.peerID = some id) = [] := by
      intro id
      rw [hempty]
      rfl
    constructor
    · intro p hp
      cases hpeer : k.peer p.nodeID with
      | none =>
        have hnew := hfilter p.nodeID
        rw [computePeerActions_new hp (unobserved_peer ha hpeer)] at hnew
        cases hnew
      | some c =>
        obtain ⟨hc, hid⟩ := (peer_eq_some hnodup).mp hpeer
        have hexisting := hfilter p.nodeID
        rw [computePeerActions_existing hp (observed_peer hnodup ha hc) hid] at hexisting
        exact ⟨c, rfl, (computeExistingPeerActions_eq_nil c).mp hexisting⟩
    · intro c hc
      by_contra hmissing
      have hremoved := hfilter (actualPeer c).nodeID
      rw [computePeerActions_removed (observed_peer hnodup ha hc)
        fun p hp heq => hmissing ⟨p, hp, heq⟩] at hremoved
      cases hremoved
  · rintro ⟨hsettled, hintended⟩
    unfold computePeerActions
    dsimp only
    rw [append_eq_nil_iff, append_eq_nil_iff, flatMap_eq_nil_iff,
      flatMap_eq_nil_iff, flatMap_eq_nil_iff]
    refine ⟨⟨fun p hp => ?_, fun pair hpair => ?_⟩, fun ap hap => ?_⟩
    · obtain ⟨hmem, hnone⟩ := mem_intersect_left.mp hp
      obtain ⟨c, hpeer, -⟩ := hsettled p hmem
      obtain ⟨hc, hid⟩ := (peer_eq_some hnodup).mp hpeer
      refine absurd hid (hnone (actualPeer c) ?_)
      rw [ha]
      exact mem_map_of_mem hc
    · obtain ⟨p, ap⟩ := pair
      obtain ⟨hmem, hap, hkey⟩ := mem_intersect_both.mp hpair
      have hap' := mem_of_mem_lastByKey hap
      rw [ha] at hap'
      obtain ⟨c, hc, rfl⟩ := mem_map.mp hap'
      obtain ⟨c', hpeer, hfits⟩ := hsettled p hmem
      obtain rfl : c = c' := Option.some.inj
        (((peer_eq_some hnodup).mpr ⟨hc, hkey⟩).symm.trans hpeer)
      exact (computeExistingPeerActions_eq_nil c).mpr hfits
    · obtain ⟨hmem, hnone⟩ := mem_intersect_right.mp hap
      have hap' := mem_of_mem_lastByKey hmem
      rw [ha] at hap'
      obtain ⟨c, hc, rfl⟩ := mem_map.mp hap'
      obtain ⟨p, hp, hid⟩ := hintended c hc
      exact absurd hid (hnone p hp)

/-- A peer ends up as intended: a new one by the kernel's defaults, a connected one where its
peer device has the number the agent names, or fits already. -/
def PeerReached (kernel : Kernel) (k : KernelResource) (p : IntendedPeer) : Prop :=
  match k.peer p.nodeID with
  | none => NewPeerFits kernel p
  | some c => ∀ pd ∈ c.peerDevices, pd.volumeNr = 0 ∨ pd.disk = intendedPeerDevice p

def Action.newPeerID : Action → Option ℕ
  | .newPeer _ peer _ => some peer
  | _ => none

theorem onPeer_ids (k : KernelResource) (peer : ℕ) (hf : ∀ c, (f c).peerNodeID = c.peerNodeID) :
    (k.onPeer peer f).connections.map (·.peerNodeID) = k.connections.map (·.peerNodeID) := by
  simp only [KernelResource.onPeer, map_map]
  refine map_congr_left fun c _ => ?_
  by_cases hc : c.peerNodeID = peer <;> simp [hc, hf]

theorem ids_on (h : action.stage = .peer) (k : KernelResource) :
    ((action.on kernel minorOf k).connections.map (·.peerNodeID)).Sublist
      (k.connections.map (·.peerNodeID) ++ action.newPeerID.toList) := by
  cases action <;> simp only [Action.stage, reduceCtorEq] at h
  case newPeer name peer o => simp [Action.on, Action.newPeerID, newConnection]
  case delPeer name peer => simpa [Action.on, Action.newPeerID] using filter_sublist.map _
  case forgetPeer name peer => simp [Action.on, Action.newPeerID]
  all_goals
    simp only [Action.on, Action.newPeerID, Option.toList_none, append_nil]
    refine (onPeer_ids k _ ?_) ▸ List.Sublist.refl _
    exact fun _ => rfl

theorem ids_after (h : Staged .peer actions) (k : KernelResource) :
    ((k.after kernel minorOf actions).connections.map (·.peerNodeID)).Sublist
      (k.connections.map (·.peerNodeID) ++ actions.filterMap Action.newPeerID) := by
  induction actions generalizing k with
  | nil => simp
  | cons action rest ih =>
    obtain ⟨hfirst, hrest⟩ := forall_mem_cons.mp h
    rw [after_cons]
    refine (ih hrest _).trans (((ids_on hfirst k).append_right _).trans ?_)
    rw [append_assoc]
    refine List.Sublist.append_left ?_ _
    cases hnew : action.newPeerID <;> simp [hnew]

theorem newPeerID_eq_none (h : ∀ action ∈ actions, ∀ name peer o, action ≠ .newPeer name peer o) :
    actions.filterMap Action.newPeerID = [] := by
  refine filterMap_eq_nil_iff.mpr fun action haction => ?_
  cases action <;> first | rfl | exact absurd rfl (h _ haction _ _ _)

theorem computePathActions_newPeerID :
    (computePathActions n p o).filterMap Action.newPeerID = [] := by
  refine newPeerID_eq_none fun action haction name peer opts heq => ?_
  subst heq
  rcases mem_append.mp haction with hadd | hdel
  · obtain ⟨path, -, hpath⟩ := mem_map.mp hadd
    cases hpath
  · obtain ⟨path, -, hpath⟩ := mem_map.mp hdel
    cases hpath

theorem computePeerActions_newPeerID :
    (computePeerActions n i a).filterMap Action.newPeerID =
      (intersect i.peers IntendedPeer.nodeID a.peers ActualPeer.nodeID).1.map
        IntendedPeer.nodeID := by
  have hnew : ∀ p, (computeNewPeerActions n i p).filterMap Action.newPeerID = [p.nodeID] := by
    intro p
    show p.nodeID :: (computeNetOptionsAction n p i.allowTwoPrimaries ++
      computePathActions n p none ++ [Action.connect n p.nodeID]).filterMap Action.newPeerID = _
    rw [filterMap_append, filterMap_append, computePathActions_newPeerID]
    rfl
  have hexisting : ∀ pair : IntendedPeer × ActualPeer,
      (computeExistingPeerActions n i pair.1 pair.2).filterMap Action.newPeerID = [] := by
    intro pair
    simp only [computeExistingPeerActions, filterMap_append, computePathActions_newPeerID,
      computeNetOptionsActionReconcile, computePeerDeviceOptionsAction]
    split <;> split <;> split <;> rfl
  have hremoved : ∀ ap, (computeRemovedPeerActions n ap).filterMap Action.newPeerID = [] :=
    fun _ => rfl
  have hnil : ∀ {α : Type} (l : List α), l.flatMap (fun _ => ([] : List ℕ)) = [] :=
    fun l => flatMap_eq_nil_iff.mpr fun _ _ => rfl
  simp only [computePeerActions, filterMap_append, filterMap_flatMap, hnew, hexisting,
    hremoved, hnil, append_nil]
  exact flatMap_pure_eq_map IntendedPeer.nodeID _

section Stage

variable {k0 : KernelResource} {v : KernelVolume} {g : KernelConnection → KernelConnection}
  (hnodup : (k0.connections.map (·.peerNodeID)).Nodup)
  (ha : a.peers = k0.connections.map actualPeer)
  (hconnections : k.connections = k0.connections.map g)
  (hdevices : ∀ c ∈ k0.connections, ∃ pd, g c = { c with peerDevices := [pd] } ∧
    ((actualPeer c).peerDeviceDisk = some pd.disk ∨ (actualPeer c).peerDeviceDisk = none))

include hconnections hdevices in
theorem ids_map : k.connections.map (·.peerNodeID) = k0.connections.map (·.peerNodeID) := by
  rw [hconnections, map_map]
  refine map_congr_left fun c hc => ?_
  obtain ⟨pd, hg, -⟩ := hdevices c hc
  simp [hg]

include hnodup hconnections hdevices in
theorem peer_map (id : ℕ) : k.peer id = (k0.peer id).map g := by
  have hids := ids_map hconnections hdevices
  cases hpeer : k0.peer id with
  | none =>
    refine peer_eq_none.mpr fun c hc => ?_
    rw [hconnections] at hc
    obtain ⟨c0, hc0, rfl⟩ := mem_map.mp hc
    obtain ⟨pd, hg, -⟩ := hdevices c0 hc0
    rw [hg]
    exact peer_eq_none.mp hpeer c0 hc0
  | some c0 =>
    obtain ⟨hc0, hid⟩ := (peer_eq_some hnodup).mp hpeer
    obtain ⟨pd, hg, -⟩ := hdevices c0 hc0
    refine (peer_eq_some (hids ▸ hnodup)).mpr ⟨?_, by rw [hg]; exact hid⟩
    rw [hconnections]
    exact mem_map_of_mem hc0

include hnodup ha hconnections hdevices in
theorem after_peerActions_ids (kernel : Kernel) (minorOf : Minor → ℕ) (n : String)
    (i : IntendedState) :
    ((k.after kernel minorOf (computePeerActions n i a)).connections.map (·.peerNodeID)).Nodup := by
  refine List.Nodup.sublist (ids_after (computePeerActions_staged n i a) k) ?_
  rw [computePeerActions_newPeerID, ids_map hconnections hdevices]
  refine nodup_append.mpr ⟨hnodup, intersect_left_nodup, ?_⟩
  rintro id hold _ hnew rfl
  obtain ⟨c, hc, rfl⟩ := mem_map.mp hold
  obtain ⟨p, hp, hid⟩ := mem_map.mp hnew
  refine (mem_intersect_left.mp hp).2 (actualPeer c) ?_ hid.symm
  rw [ha]
  exact mem_map_of_mem hc

include hnodup ha hconnections hdevices in
theorem after_peerActions_peer (kernel : Kernel) (minorOf : Minor → ℕ) (n : String)
    (i : IntendedState) (hv : k.volumes = [v]) :
    (∀ p ∈ lastByKey IntendedPeer.nodeID i.peers,
      (k.after kernel minorOf (computePeerActions n i a)).peer p.nodeID =
        match k0.peer p.nodeID with
        | none => some (connectedPeer kernel [v] i p)
        | some c => some (existingPeer kernel i p c (g c))) ∧
    ∀ id, (∀ p ∈ i.peers, p.nodeID ≠ id) →
      (k.after kernel minorOf (computePeerActions n i a)).peer id = none := by
  have hafter : ∀ id, (k.after kernel minorOf (computePeerActions n i a)).peer id =
      connectionAfter kernel [v] ((k0.peer id).map g)
        ((computePeerActions n i a).filter (·.peerID = some id)) := by
    intro id
    rw [(peer_after (computePeerActions_staged n i a) k id).1, hv,
      peer_map hnodup hconnections hdevices]
    rfl
  constructor
  · intro p hp
    rw [hafter]
    cases hpeer : k0.peer p.nodeID with
    | none =>
      rw [computePeerActions_new hp (unobserved_peer ha hpeer)]
      exact connectionAfter_newPeer
    | some c =>
      obtain ⟨hc, hid⟩ := (peer_eq_some hnodup).mp hpeer
      obtain ⟨pd, hg, -⟩ := hdevices c hc
      rw [computePeerActions_existing hp (observed_peer hnodup ha hc) hid]
      exact connectionAfter_existing (by rw [hg])
  · intro id hnone
    rw [hafter]
    cases hpeer : k0.peer id with
    | none =>
      rw [computePeerActions_neither hnone (unobserved_peer ha hpeer)]
      rfl
    | some c =>
      obtain ⟨hc, rfl⟩ := (peer_eq_some hnodup).mp hpeer
      have hremoved : (computePeerActions n i a).filter (·.peerID = some c.peerNodeID) =
          computeRemovedPeerActions n (actualPeer c) :=
        computePeerActions_removed (observed_peer hnodup ha hc) hnone
      rw [hremoved]
      rfl

include hnodup ha hconnections hdevices in
theorem peerActions_settled (hconnect : kernel.connectingState ≠ "StandAlone")
    (hv : k.volumes = [v]) (hpaths : ∀ c ∈ k0.connections, (c.paths.map Path.key).Nodup)
    (hnumbers : ∀ c ∈ k0.connections, ∀ pd, (g c).peerDevices = [pd] →
      c.peerDevices = [pd] ∨ (c.peerDevices = [] ∧ pd.volumeNr = 0)) {b : ActualState}
    (hb : b.peers =
      (k.after kernel minorOf (computePeerActions n i a)).connections.map actualPeer) :
    computePeerActions n i b = [] ↔
      ∀ p ∈ lastByKey IntendedPeer.nodeID i.peers, PeerReached kernel k0 p := by
  have hids := after_peerActions_ids hnodup ha hconnections hdevices kernel minorOf n i
  obtain ⟨hpeer, hnone⟩ :=
    after_peerActions_peer hnodup ha hconnections hdevices kernel minorOf n i hv
  have heach : ∀ p ∈ lastByKey IntendedPeer.nodeID i.peers,
      (∃ c, (k.after kernel minorOf (computePeerActions n i a)).peer p.nodeID = some c ∧
        PeerSettled i p c) ↔ PeerReached kernel k0 p := by
    intro p hp
    rw [hpeer p hp]
    unfold PeerReached
    cases hc : k0.peer p.nodeID with
    | none => simp [connectedPeer_settled hconnect]
    | some c =>
      obtain ⟨hmem, -⟩ := (peer_eq_some hnodup).mp hc
      obtain ⟨pd, hg, hseen⟩ := hdevices c hmem
      simp only [Option.some.injEq, exists_eq_left']
      rw [existingPeer_settled hconnect hg (hpaths c hmem) hseen]
      rcases hnumbers c hmem pd (by rw [hg]) with hsame | ⟨hempty, hzero⟩
      · simp [hsame]
      · simp [hempty, hzero]
  rw [computePeerActions_eq_nil hids hb]
  constructor
  · rintro ⟨hall, -⟩ p hp
    exact (heach p hp).mp (hall p hp)
  · intro hall
    refine ⟨fun p hp => (heach p hp).mpr (hall p hp), fun c hc => ?_⟩
    by_contra hmissing
    have hgone := hnone c.peerNodeID fun p hp heq => hmissing ⟨p, hp, heq⟩
    exact peer_eq_none.mp hgone c hc rfl

end Stage

end Peers

end ReplicatedVolume.Agent
