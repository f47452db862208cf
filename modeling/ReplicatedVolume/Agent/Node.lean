import ReplicatedVolume.Agent.Reconcile
import Mathlib.Logic.Function.Basic

/-!
# The world around the agent

The stored Kubernetes objects with their earlier versions, the DRBD resources of the kernel and the
metadata on the disks. `Reply` says what a call may answer: queries of the node tell the truth or
fail, reads may return an earlier version, a write that fails may still have taken effect.
-/

namespace ReplicatedVolume.Agent
open Interaction Function

structure KernelVolume where
  volumeNr : ℕ
  minor : ℕ
  backingDisk : Option Device
  disk : ShowVolumeDisk
  diskState : String
  opened : Bool
  quorum : Bool
  size : ℕ
  deriving DecidableEq

structure KernelPeerDevice where
  volumeNr : ℕ
  peerDiskState : String
  replicationState : String
  disk : ShowConnectionVolumeDisk
  deriving DecidableEq

structure KernelConnection where
  peerNodeID : ℕ
  name : String
  connectionState : String
  net : ShowNet
  paths : List Path
  peerDevices : List KernelPeerDevice
  deriving DecidableEq

structure KernelResource where
  name : String
  nodeID : ℕ
  role : String
  suspended : Bool
  options : ShowOptions
  volumes : List KernelVolume
  connections : List KernelConnection
  deriving DecidableEq

namespace KernelResource

def status (k : KernelResource) : StatusResource where
  name := k.name
  nodeID := k.nodeID
  role := k.role
  suspended := k.suspended
  devices := k.volumes.map fun v =>
    { volume := v.volumeNr, minor := v.minor, diskState := v.diskState, opened := v.opened
      quorum := v.quorum, size := v.size }
  connections := k.connections.map fun c =>
    { peerNodeID := c.peerNodeID, name := c.name, connectionState := c.connectionState
      paths := c.paths
      peerDevices := c.peerDevices.map fun p =>
        { volume := p.volumeNr, peerDiskState := p.peerDiskState
          replicationState := p.replicationState } }

def shown (k : KernelResource) : ShowResource where
  resource := k.name
  nodeID := k.nodeID
  options := k.options
  volumes := k.volumes.map fun v =>
    { volumeNr := v.volumeNr, backingDisk := v.backingDisk, disk := v.disk }
  connections := k.connections.map fun c =>
    { peerNodeID := c.peerNodeID, net := c.net
      volumes := c.peerDevices.map fun p => { volumeNr := p.volumeNr, disk := p.disk } }

end KernelResource

/-- The settings of the kernel module for what a command leaves open, the states that follow an
attach and a connect, and the usable size of each device in KiB. -/
structure Kernel where
  options : ShowOptions
  disk : ShowVolumeDisk
  net : ShowNet
  peerDevice : ShowConnectionVolumeDisk
  attachedState : String
  connectingState : String
  capacity : Device → ℕ

def applyResourceOptions (o : ResourceOptions) (s : ShowOptions) : ShowOptions where
  autoPromote := o.autoPromote.getD s.autoPromote
  quorum := (o.quorum.map quorumText).getD s.quorum
  quorumMinimumRedundancy :=
    (o.quorumMinimumRedundancy.map quorumText).getD s.quorumMinimumRedundancy
  onNoQuorum := if o.onNoQuorum = "" then s.onNoQuorum else o.onNoQuorum
  onNoDataAccessible :=
    if o.onNoDataAccessible = "" then s.onNoDataAccessible else o.onNoDataAccessible
  onSuspendedPrimaryOutdated :=
    if o.onSuspendedPrimaryOutdated = "" then s.onSuspendedPrimaryOutdated
    else o.onSuspendedPrimaryOutdated
  quorumDynamicVoters := o.quorumDynamicVoters.getD s.quorumDynamicVoters

def applyDiskOptions (o : DiskOptions) (s : ShowVolumeDisk) : ShowVolumeDisk where
  isNone := s.isNone
  discardZeroesIfAligned := o.discardZeroesIfAligned.getD s.discardZeroesIfAligned
  rsDiscardGranularity := (o.rsDiscardGranularity.map toString).getD s.rsDiscardGranularity
  nonVoting := o.nonVoting.getD s.nonVoting

def applyNewPeerOptions (o : NewPeerOptions) (s : ShowNet) : ShowNet :=
  { s with
    protocol := if o.protocol = "" then s.protocol else o.protocol
    sharedSecret := if o.sharedSecret = "" then s.sharedSecret else o.sharedSecret
    cramHMACAlg := if o.cramHMACAlg = "" then s.cramHMACAlg else o.cramHMACAlg.toLower
    rrConflict := if o.rrConflict = "" then s.rrConflict else o.rrConflict
    verifyAlg := if o.verifyAlg = "" then s.verifyAlg else o.verifyAlg }

def applyNetOptions (o : NetOptions) (s : ShowNet) : ShowNet :=
  { s with
    protocol := o.protocol.getD s.protocol
    sharedSecret := o.sharedSecret.getD s.sharedSecret
    cramHMACAlg := o.cramHMACAlg.getD s.cramHMACAlg
    allowTwoPrimaries := o.allowTwoPrimaries.getD s.allowTwoPrimaries
    allowRemoteRead := o.allowRemoteRead.getD s.allowRemoteRead
    verifyAlg := o.verifyAlg.getD s.verifyAlg }

def applyPeerDeviceOptions (o : PeerDeviceOptions) (s : ShowConnectionVolumeDisk) :
    ShowConnectionVolumeDisk where
  bitmap := o.bitmap.getD s.bitmap
  cPlanAhead := o.cPlanAhead.getD s.cPlanAhead
  cDelayTarget := o.cDelayTarget.getD s.cDelayTarget
  cFillTarget := o.cFillTarget.getD s.cFillTarget
  cMaxRate := o.cMaxRate.getD s.cMaxRate
  cMinRate := o.cMinRate.getD s.cMinRate

def newConnection (kernel : Kernel) (volumes : List KernelVolume) (peerNodeID : ℕ)
    (o : NewPeerOptions) : KernelConnection where
  peerNodeID := peerNodeID
  name := o.name
  connectionState := "StandAlone"
  net := applyNewPeerOptions o kernel.net
  paths := []
  peerDevices := volumes.map fun v =>
    { volumeNr := v.volumeNr, peerDiskState := "DUnknown", replicationState := "Off"
      disk := kernel.peerDevice }

def newVolume (kernel : Kernel) (volumeNr minor : ℕ) (diskless : Bool) : KernelVolume where
  volumeNr := volumeNr
  minor := minor
  backingDisk := none
  disk := { kernel.disk with isNone := diskless }
  diskState := "Diskless"
  opened := false
  quorum := false
  size := 0

def KernelResource.addVolume (kernel : Kernel) (k : KernelResource) (v : KernelVolume) :
    KernelResource :=
  { k with
    volumes := k.volumes ++ [v]
    connections := k.connections.map fun c =>
      { c with peerDevices := c.peerDevices ++
          [{ volumeNr := v.volumeNr, peerDiskState := "DUnknown", replicationState := "Off"
             disk := kernel.peerDevice }] } }

def KernelResource.onMinor (k : KernelResource) (minor : ℕ) (f : KernelVolume → KernelVolume) :
    KernelResource :=
  { k with volumes := k.volumes.map fun v => if v.minor = minor then f v else v }

def KernelResource.onPeer (k : KernelResource) (peerNodeID : ℕ)
    (f : KernelConnection → KernelConnection) : KernelResource :=
  { k with connections := k.connections.map fun c => if c.peerNodeID = peerNodeID then f c else c }

def newResource (kernel : Kernel) (name : String) (nodeID : ℕ) : KernelResource where
  name := name
  nodeID := nodeID
  role := "Secondary"
  suspended := false
  options := kernel.options
  volumes := []
  connections := []

def attached (kernel : Kernel) (dev : Device) (v : KernelVolume) : KernelVolume :=
  { v with
    backingDisk := some dev
    disk := { kernel.disk with isNone := false }
    diskState := kernel.attachedState
    size := kernel.capacity dev }

def detached (intentionalDiskless : Bool) (v : KernelVolume) : KernelVolume :=
  { v with
    backingDisk := none
    disk := { v.disk with isNone := intentionalDiskless }
    diskState := "Diskless" }

/-- The size is passed in sectors and printed in KiB; a device that has not grown keeps it. -/
def resized (kernel : Kernel) (sizeBytes : ℕ) (v : KernelVolume) : KernelVolume :=
  match v.backingDisk with
  | none => v
  | some dev =>
    if sizeBytes / 512 / 2 ≤ kernel.capacity dev then { v with size := sizeBytes / 512 / 2 }
    else v

def KernelConnection.onVolume (c : KernelConnection) (volumeNr : ℕ)
    (f : ShowConnectionVolumeDisk → ShowConnectionVolumeDisk) : KernelConnection :=
  { c with peerDevices := c.peerDevices.map fun p =>
      if p.volumeNr = volumeNr then { p with disk := f p.disk } else p }

/-- `allocatedMinor` is the minor the last `new-minor` gave out; `disks` holds the device uuid of
each device that has DRBD metadata. -/
structure World where
  revision : ℕ
  drbdr : Option DRBDResource
  drbdrPast : List (Option DRBDResource)
  llvs : String → Option LLV
  llvPast : String → List (Option LLV)
  lvgs : List LVG
  resources : String → Option KernelResource
  allocatedMinor : ℕ
  disks : Device → Option String

namespace World

def minorOf (w : World) : Minor → ℕ
  | .existing minor => minor
  | .allocated => w.allocatedMinor

def onResource (w : World) (name : String) (f : KernelResource → KernelResource) : World :=
  { w with resources := update w.resources name ((w.resources name).map f) }

def onMinor (w : World) (minor : Minor) (f : KernelVolume → KernelVolume) : World :=
  { w with resources := fun name => (w.resources name).map (·.onMinor (w.minorOf minor) f) }

def renamed (w : World) (oldName newName : String) : World :=
  let renamed := (w.resources oldName).map fun k => { k with name := newName }
  { w with resources := update (update w.resources newName renamed) oldName none }

/-- The documented effect of each action. Links to devices are not modelled, `apply-al` changes
nothing that is read back, `forget-peer` only metadata of the bitmap. -/
def effect (kernel : Kernel) (w : World) : Action → World
  | .newResource name nodeID =>
    { w with resources :=
        update w.resources name (some (Agent.newResource kernel name nodeID)) }
  | .resourceOptions name o =>
    w.onResource name fun k => { k with options := applyResourceOptions o k.options }
  | .newMinor name volume diskless =>
    { w.onResource name (fun k =>
        k.addVolume kernel (newVolume kernel volume (w.allocatedMinor + 1) diskless)) with
      allocatedMinor := w.allocatedMinor + 1 }
  | .fail _ => w
  | .writeDeviceUUID _ dev uuid =>
    { w with disks := update w.disks dev ((w.disks dev).map fun _ => uuid) }
  | .createMetadata _ dev => { w with disks := update w.disks dev (some "") }
  | .applyAL _ _ => w
  | .attach minor dev _ _ => w.onMinor minor (attached kernel dev)
  | .diskOptions minor o => w.onMinor minor fun v => { v with disk := applyDiskOptions o v.disk }
  | .newPeer name peer o =>
    w.onResource name fun k =>
      { k with connections := k.connections ++ [newConnection kernel k.volumes peer o] }
  | .netOptions name peer o =>
    w.onResource name (·.onPeer peer fun c => { c with net := applyNetOptions o c.net })
  | .peerDeviceOptions name peer volumeNr o =>
    w.onResource name (·.onPeer peer (·.onVolume volumeNr (applyPeerDeviceOptions o)))
  | .newPath name peer localAddr remoteAddr =>
    w.onResource name (·.onPeer peer fun c =>
      { c with paths := c.paths ++
          [{ thisHost := localAddr, remoteHost := remoteAddr, established := false }] })
  | .connect name peer =>
    w.onResource name (·.onPeer peer fun c => { c with connectionState := kernel.connectingState })
  | .disconnect name peer =>
    w.onResource name (·.onPeer peer fun c => { c with connectionState := "StandAlone" })
  | .delPath name peer localAddr remoteAddr =>
    w.onResource name (·.onPeer peer fun c =>
      { c with paths := c.paths.filter (·.key ≠ (localAddr, remoteAddr)) })
  | .delPeer name peer =>
    w.onResource name fun k => { k with connections := k.connections.filter (·.peerNodeID ≠ peer) }
  | .forgetPeer _ _ => w
  | .down name => { w with resources := update w.resources name none }
  | .detach minor intentionalDiskless => w.onMinor minor (detached intentionalDiskless)
  | .primary name _ => w.onResource name fun k => { k with role := "Primary" }
  | .secondary name _ => w.onResource name fun k => { k with role := "Secondary" }
  | .resize minor sizeBytes => w.onMinor minor (resized kernel sizeBytes)
  | .ensureDeviceSymlink _ _ => w
  | .removeDeviceSymlink _ => w

end World

/-- A JSON merge patch carries a value only where the new object differs from its base. -/
def mergeValue {α : Type} [DecidableEq α] (base obj stored : α) : α :=
  if obj = base then stored else obj

def mergeActiveConfiguration :
    Option ActiveConfiguration → Option ActiveConfiguration → Option ActiveConfiguration →
      Option ActiveConfiguration
  | some b, some o, some s => some
    { state := mergeValue b.state o.state s.state
      role := mergeValue b.role o.role s.role
      quorum := mergeValue b.quorum o.quorum s.quorum
      quorumMinimumRedundancy := mergeValue b.quorumMinimumRedundancy o.quorumMinimumRedundancy
        s.quorumMinimumRedundancy
      allowTwoPrimaries := mergeValue b.allowTwoPrimaries o.allowTwoPrimaries s.allowTwoPrimaries
      nonVoting := mergeValue b.nonVoting o.nonVoting s.nonVoting
      type := mergeValue b.type o.type s.type
      lvmLogicalVolumeName := mergeValue b.lvmLogicalVolumeName o.lvmLogicalVolumeName
        s.lvmLogicalVolumeName
      llvFinalizersToRelease := mergeValue b.llvFinalizersToRelease o.llvFinalizersToRelease
        s.llvFinalizersToRelease }
  | b, o, s => mergeValue b o s

def mergeStatus (b o s : DRBDResourceStatus) : DRBDResourceStatus where
  device := mergeValue b.device o.device s.device
  deviceIOSuspended := mergeValue b.deviceIOSuspended o.deviceIOSuspended s.deviceIOSuspended
  deviceOpen := mergeValue b.deviceOpen o.deviceOpen s.deviceOpen
  size := mergeValue b.size o.size s.size
  addresses := mergeValue b.addresses o.addresses s.addresses
  activeConfiguration := mergeActiveConfiguration b.activeConfiguration o.activeConfiguration
    s.activeConfiguration
  peers := mergeValue b.peers o.peers s.peers
  diskState := mergeValue b.diskState o.diskState s.diskState
  quorum := mergeValue b.quorum o.quorum s.quorum
  deviceUUID := mergeValue b.deviceUUID o.deviceUUID s.deviceUUID
  conditions := mergeValue b.conditions o.conditions s.conditions

def LLV.patched (stored obj base : LLV) (revision : ℕ) : LLV :=
  { stored with
    finalizers := mergeValue base.finalizers obj.finalizers stored.finalizers
    resourceVersion := revision }

def DRBDResource.patched (stored obj base : DRBDResource) (revision : ℕ) : DRBDResource :=
  let name := mergeValue base.spec.actualNameOnTheNode obj.spec.actualNameOnTheNode
    stored.spec.actualNameOnTheNode
  { stored with
    finalizers := mergeValue base.finalizers obj.finalizers stored.finalizers
    spec := { stored.spec with actualNameOnTheNode := name }
    generation :=
      if name = stored.spec.actualNameOnTheNode then stored.generation else stored.generation + 1
    resourceVersion := revision }

def DRBDResource.statusPatched (stored obj base : DRBDResource) (revision : ℕ) : DRBDResource :=
  { stored with
    status := mergeStatus base.status obj.status stored.status
    resourceVersion := revision }

namespace World

def storeLLV (w : World) (name : String) (llv : LLV) : World :=
  { w with
    revision := w.revision + 1
    llvs := update w.llvs name
      (if llv.deleting ∧ llv.finalizers = [] then none else some llv)
    llvPast := update w.llvPast name (w.llvs name :: w.llvPast name) }

def storeDRBDR (w : World) (drbdr : DRBDResource) : World :=
  { w with
    revision := w.revision + 1
    drbdr := if drbdr.deleting ∧ drbdr.finalizers = [] then none else some drbdr
    drbdrPast := w.drbdr :: w.drbdrPast }

/-- What a patch answers and the world it leaves; none where the object is missing or, with the
optimistic lock, is not the version the patch is based on. -/
def patchLLV (w : World) (obj base : LLV) : Option (LLV × World) :=
  (w.llvs obj.name).map fun stored =>
    let llv := stored.patched obj base (w.revision + 1)
    (llv, w.storeLLV obj.name llv)

def lockedDRBDR (w : World) (base : DRBDResource) (optimisticLock : Bool) : Option DRBDResource :=
  w.drbdr.filter fun stored => !optimisticLock || stored.resourceVersion = base.resourceVersion

def patchDRBDR (w : World) (obj base : DRBDResource) (optimisticLock : Bool) :
    Option (DRBDResource × World) :=
  (w.lockedDRBDR base optimisticLock).map fun stored =>
    let drbdr := stored.patched obj base (w.revision + 1)
    (drbdr, w.storeDRBDR drbdr)

def patchDRBDRStatus (w : World) (obj base : DRBDResource) (optimisticLock : Bool) :
    Option (DRBDResource × World) :=
  (w.lockedDRBDR base optimisticLock).map fun stored =>
    let drbdr := stored.statusPatched obj base (w.revision + 1)
    (drbdr, w.storeDRBDR drbdr)

end World

/-- A write either succeeds, or fails with or without its effect. `missing` tells whether the
object is not there, the only case in which not-found is answered. -/
def WriteReply {α : Type} (w : World) (missing : Prop) (result : Option (α × World))
    (answer : Except ApiError α) (w' : World) : Prop :=
  (∃ obj, result = some (obj, w') ∧ answer = .ok obj) ∨
  (∃ err, answer = .error err ∧ (err.isNotFound = true → missing) ∧
    (w' = w ∨ ∃ obj, result = some (obj, w')))

def Reply (kernel : Kernel) (w : World) : (c : Call) → c.Answer → World → Prop
  | .status name, answer, w' => w' = w ∧
      (answer = .ok ((w.resources name).map (·.status)) ∨ ∃ err, answer = .error err)
  | .showConfig name, answer, w' => w' = w ∧
      (answer = .ok ((w.resources name).map (·.shown)) ∨ ∃ err, answer = .error err)
  | .checkMD _ dev, answer, w' => w' = w ∧
      (answer = .ok (w.disks dev).isSome ∨ ∃ err, answer = .error err)
  | .readDevUUID dev, answer, w' => w' = w ∧
      ((∃ uuid, w.disks dev = some uuid ∧ answer = .ok uuid) ∨ ∃ err, answer = .error err)
  | .readDiscardGranularity _, _, w' => w' = w
  | .generateDeviceUUID, _, w' => w' = w
  | .execute action, answer, w' =>
    (answer = .ok () ∧ w' = w.effect kernel action) ∨
    ∃ err, answer = .error err ∧ (w' = w ∨ w' = w.effect kernel action)
  | .rename oldName newName, answer, w' =>
    (answer = .ok () ∧ w' = w.renamed oldName newName) ∨
    (w' = w ∧ ∃ err, answer = .error err)
  | .getNode, _, w' => w' = w
  | .allocatePort _, _, w' => w' = w
  | .getDRBDR _, answer, w' => w' = w ∧
      ((∃ drbdr ∈ w.drbdr :: w.drbdrPast, answer = .ok drbdr) ∨ ∃ err, answer = .error err)
  | .getLLV name, answer, w' => w' = w ∧
      ((∃ llv ∈ w.llvs name :: w.llvPast name, answer = .ok llv) ∨ ∃ err, answer = .error err)
  | .getLVG name, answer, w' => w' = w ∧
      (answer = .ok (w.lvgs.find? (·.name = name)) ∨ ∃ err, answer = .error err)
  | .listLVGs, answer, w' => w' = w ∧ (answer = .ok w.lvgs ∨ ∃ err, answer = .error err)
  | .listLLVs lvgName, answer, w' => w' = w ∧
      ((∃ llvs, answer = .ok llvs ∧ ∀ llv, llv ∈ llvs ↔
        w.llvs llv.name = some llv ∧ llv.lvmVolumeGroupName = lvgName) ∨
        ∃ err, answer = .error err)
  | .patchLLV obj base, answer, w' =>
    WriteReply w (w.llvs obj.name = none) (w.patchLLV obj base) answer w'
  | .patchDRBDR obj base lock, answer, w' =>
    WriteReply w (w.drbdr = none) (w.patchDRBDR obj base lock) answer w'
  | .patchDRBDRStatus obj base lock, answer, w' =>
    WriteReply w (w.drbdr = none) (w.patchDRBDRStatus obj base lock) answer w'

def writeThrough {α : Type} (w : World) (refusal : ApiError) (result : Option (α × World)) :
    Except ApiError α × World :=
  match result with
  | some (obj, w') => (.ok obj, w')
  | none => (.error refusal, w)

/-- The answers of a world in which everything works, but volumes cannot be listed. Discard
granularity, fresh uuids and ports are constants. -/
def respond (kernel : Kernel) (w : World) : (c : Call) → c.Answer × World
  | .status name => (.ok ((w.resources name).map (·.status)), w)
  | .showConfig name => (.ok ((w.resources name).map (·.shown)), w)
  | .checkMD _ dev => (.ok (w.disks dev).isSome, w)
  | .readDevUUID dev =>
    match w.disks dev with
    | some uuid => (.ok uuid, w)
    | none => (.error "no valid metadata found", w)
  | .readDiscardGranularity _ => ((0 : ℕ), w)
  | .generateDeviceUUID => ("00000000000000FF", w)
  | .execute action => (.ok (), w.effect kernel action)
  | .rename oldName newName => (.ok (), w.renamed oldName newName)
  | .getNode => (.ok [], w)
  | .allocatePort _ => (.ok 7000, w)
  | .getDRBDR _ => (.ok w.drbdr, w)
  | .getLLV name => (.ok (w.llvs name), w)
  | .getLVG name => (.ok (w.lvgs.find? (·.name = name)), w)
  | .listLVGs => (.ok w.lvgs, w)
  | .listLLVs _ => (.error "volumes cannot be listed", w)
  | .patchLLV obj base => writeThrough w (.other "not patched") (w.patchLLV obj base)
  | .patchDRBDR obj base lock => writeThrough w (.other "conflict") (w.patchDRBDR obj base lock)
  | .patchDRBDRStatus obj base lock =>
    writeThrough w (.other "conflict") (w.patchDRBDRStatus obj base lock)

theorem writeThrough_reply {α : Type} (w : World) (missing : Prop) (message : String)
    (result : Option (α × World)) :
    WriteReply w missing result (writeThrough w (.other message) result).1
      (writeThrough w (.other message) result).2 := by
  cases result with
  | none => exact .inr ⟨_, rfl, nofun, .inl rfl⟩
  | some pair => exact .inl ⟨pair.1, rfl, rfl⟩

theorem respond_reply (kernel : Kernel) (w : World) (c : Call) :
    Reply kernel w c (respond kernel w c).1 (respond kernel w c).2 := by
  cases c with
  | readDevUUID dev =>
    cases hdisk : w.disks dev with
    | none => simp only [respond, hdisk]; exact ⟨rfl, .inr ⟨_, rfl⟩⟩
    | some uuid => simp only [respond, hdisk]; exact ⟨rfl, .inl ⟨uuid, hdisk, rfl⟩⟩
  | execute action => exact .inl ⟨rfl, rfl⟩
  | rename oldName newName => exact .inl ⟨rfl, rfl⟩
  | readDiscardGranularity dev => rfl
  | generateDeviceUUID => rfl
  | getNode => rfl
  | allocatePort ip => rfl
  | getDRBDR | getLLV => exact ⟨rfl, .inl ⟨_, List.mem_cons_self, rfl⟩⟩
  | listLLVs lvgName => exact ⟨rfl, .inr ⟨_, rfl⟩⟩
  | patchLLV | patchDRBDR | patchDRBDRStatus => exact writeThrough_reply _ _ _ _
  | _ => exact ⟨rfl, .inl rfl⟩

end ReplicatedVolume.Agent
