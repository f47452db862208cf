import ReplicatedVolume.Agent.Objects
import Mathlib.Data.List.Sort

/-!
# The observed DRBD state

`drbdsetup status` and `drbdsetup show` each print one half of what the kernel knows about a
resource. The agent keeps both halves side by side, either of which may be absent, and reads
every setting through accessors that fall back to a zero value.
-/

namespace ReplicatedVolume.Agent

structure Host where
  address : String
  port : ℕ
  deriving DecidableEq

structure Path where
  thisHost : Host
  remoteHost : Host
  established : Bool
  deriving DecidableEq

structure PeerDevice where
  volume : ℕ
  peerDiskState : String
  replicationState : String
  deriving DecidableEq

structure Connection where
  peerNodeID : ℕ
  name : String
  connectionState : String
  paths : List Path
  peerDevices : List PeerDevice
  deriving DecidableEq

structure DeviceStatus where
  volume : ℕ
  minor : ℕ
  diskState : String
  opened : Bool
  quorum : Bool
  size : ℕ
  deriving DecidableEq

structure StatusResource where
  name : String
  nodeID : ℕ
  role : String
  suspended : Bool
  devices : List DeviceStatus
  connections : List Connection
  deriving DecidableEq

structure ShowOptions where
  autoPromote : Bool
  quorum : String
  quorumMinimumRedundancy : String
  onNoQuorum : String
  onNoDataAccessible : String
  onSuspendedPrimaryOutdated : String
  quorumDynamicVoters : Bool
  deriving DecidableEq

structure ShowVolumeDisk where
  isNone : Bool
  discardZeroesIfAligned : Bool
  rsDiscardGranularity : String
  nonVoting : Bool
  deriving DecidableEq

structure ShowVolume where
  volumeNr : ℕ
  backingDisk : Option Device
  disk : ShowVolumeDisk
  deriving DecidableEq

structure ShowNet where
  protocol : String
  sharedSecret : String
  cramHMACAlg : String
  allowTwoPrimaries : Bool
  allowRemoteRead : Bool
  verifyAlg : String
  rrConflict : String
  deriving DecidableEq

structure ShowConnectionVolumeDisk where
  bitmap : Bool
  cPlanAhead : String
  cDelayTarget : String
  cFillTarget : String
  cMaxRate : String
  cMinRate : String
  deriving DecidableEq

structure ShowConnectionVolume where
  volumeNr : ℕ
  disk : ShowConnectionVolumeDisk
  deriving DecidableEq

structure ShowConnection where
  peerNodeID : ℕ
  net : ShowNet
  volumes : List ShowConnectionVolume
  deriving DecidableEq

structure ShowResource where
  resource : String
  nodeID : ℕ
  options : ShowOptions
  volumes : List ShowVolume
  connections : List ShowConnection
  deriving DecidableEq

structure ActualVolume where
  minor : ℕ
  volumeNr : ℕ
  diskState : String
  hasQuorum : Bool
  sizeBytes : ℕ
  showVolume : Option ShowVolume
  deriving DecidableEq

namespace ActualVolume

def backingDisk (v : ActualVolume) : Option Device := v.showVolume.bind (·.backingDisk)

def discardZeroesIfAligned (v : ActualVolume) : Bool :=
  (v.showVolume.map (·.disk.discardZeroesIfAligned)).getD false

def rsDiscardGranularity (v : ActualVolume) : String :=
  (v.showVolume.map (·.disk.rsDiscardGranularity)).getD ""

def nonVoting (v : ActualVolume) : Bool := (v.showVolume.map (·.disk.nonVoting)).getD false

end ActualVolume

structure ActualPeer where
  connection : Connection
  showConnection : Option ShowConnection
  deriving DecidableEq

namespace ActualPeer

def nodeID (p : ActualPeer) : ℕ := p.connection.peerNodeID

def connectionState (p : ActualPeer) : String := p.connection.connectionState

def protocol (p : ActualPeer) : String := (p.showConnection.map (·.net.protocol)).getD ""

def sharedSecret (p : ActualPeer) : String :=
  (p.showConnection.map (·.net.sharedSecret)).getD ""

def sharedSecretAlg (p : ActualPeer) : String :=
  (p.showConnection.map (·.net.cramHMACAlg)).getD ""

def allowTwoPrimaries (p : ActualPeer) : Bool :=
  (p.showConnection.map (·.net.allowTwoPrimaries)).getD false

def allowRemoteRead (p : ActualPeer) : Bool :=
  (p.showConnection.map (·.net.allowRemoteRead)).getD false

def verifyAlg (p : ActualPeer) : String := (p.showConnection.map (·.net.verifyAlg)).getD ""

def peerDeviceDisk (p : ActualPeer) : Option ShowConnectionVolumeDisk :=
  p.showConnection.bind fun c => (c.volumes.head?).map (·.disk)

def bitmap (p : ActualPeer) : Option Bool := p.peerDeviceDisk.map (·.bitmap)

def cPlanAhead (p : ActualPeer) : String := (p.peerDeviceDisk.map (·.cPlanAhead)).getD ""

def cDelayTarget (p : ActualPeer) : String := (p.peerDeviceDisk.map (·.cDelayTarget)).getD ""

def cFillTarget (p : ActualPeer) : String := (p.peerDeviceDisk.map (·.cFillTarget)).getD ""

def cMaxRate (p : ActualPeer) : String := (p.peerDeviceDisk.map (·.cMaxRate)).getD ""

def cMinRate (p : ActualPeer) : String := (p.peerDeviceDisk.map (·.cMinRate)).getD ""

def paths (p : ActualPeer) : List Path := p.connection.paths

end ActualPeer

/-- The zero state of the source, a failed observation, is an absent `ActualState`. -/
structure ActualState where
  status : Option StatusResource
  shown : Option ShowResource
  hasMetadata : Bool
  diskDeviceUUID : String
  deriving DecidableEq

namespace ActualState

def resourceExists (a : ActualState) : Bool := a.status.isSome || a.shown.isSome

def role (a : ActualState) : String := (a.status.map (·.role)).getD ""

def autoPromote (a : ActualState) : Bool := (a.shown.map (·.options.autoPromote)).getD false

def quorum (a : ActualState) : String := (a.shown.map (·.options.quorum)).getD ""

def quorumMinimumRedundancy (a : ActualState) : String :=
  (a.shown.map (·.options.quorumMinimumRedundancy)).getD ""

def onNoQuorum (a : ActualState) : String := (a.shown.map (·.options.onNoQuorum)).getD ""

def onNoDataAccessible (a : ActualState) : String :=
  (a.shown.map (·.options.onNoDataAccessible)).getD ""

def onSuspendedPrimaryOutdated (a : ActualState) : String :=
  (a.shown.map (·.options.onSuspendedPrimaryOutdated)).getD ""

def quorumDynamicVoters (a : ActualState) : Bool :=
  (a.shown.map (·.options.quorumDynamicVoters)).getD false

def showVolume (a : ActualState) (volumeNr : ℕ) : Option ShowVolume :=
  a.shown.bind fun s => s.volumes.reverse.find? (·.volumeNr = volumeNr)

def showConnection (a : ActualState) (peerNodeID : ℕ) : Option ShowConnection :=
  a.shown.bind fun s => s.connections.reverse.find? (·.peerNodeID = peerNodeID)

def volumes (a : ActualState) : List ActualVolume :=
  match a.status with
  | none => []
  | some status => status.devices.map fun dev =>
    { minor := dev.minor
      volumeNr := dev.volume
      diskState := dev.diskState
      hasQuorum := dev.quorum
      sizeBytes := dev.size * 1024
      showVolume := a.showVolume dev.volume }

def peers (a : ActualState) : List ActualPeer :=
  match a.status with
  | none => []
  | some status => status.connections.map fun conn =>
    { connection := conn, showConnection := a.showConnection conn.peerNodeID }

end ActualState

def actualBackingDisk (aState : Option ActualState) : Option Device :=
  aState.bind fun a => a.volumes.head?.bind (·.backingDisk)

def parseByte (s : String) : Option ℕ :=
  if s ≠ "" ∧ s.toList.all Char.isDigit then
    let n := s.toList.foldl (fun n c => n * 10 + (c.toNat - '0'.toNat)) 0
    if n < 256 then some n else none
  else none

def reportedQuorum (s : String) : Option ℕ :=
  if s ≠ "" ∧ s ≠ "off" then parseByte s else none

/-- A volume without a backing disk is diskless; one the show output does not list is not. -/
def reportedType (a : ActualState) (vol : DeviceStatus) : ResourceType :=
  match a.shown.bind fun s => s.volumes.find? (·.volumeNr = vol.volume) with
  | some sv => if sv.disk.isNone || sv.backingDisk.isNone then .diskless else .diskful
  | none => .diskful

def reportActiveConfiguration (a : ActualState) (volumes : List DeviceStatus)
    (ac : ActiveConfiguration) : ActiveConfiguration :=
  { ac with
    state := some .up
    role := a.role
    quorum := a.shown.bind fun s => reportedQuorum s.options.quorum
    quorumMinimumRedundancy := a.shown.bind fun s =>
      reportedQuorum s.options.quorumMinimumRedundancy
    allowTwoPrimaries := a.shown.bind fun s =>
      s.connections.head?.map (·.net.allowTwoPrimaries)
    nonVoting := a.shown.bind fun s => s.volumes.head?.bind fun v =>
      if v.disk.isNone then none else some v.disk.nonVoting
    type := volumes.head?.map (reportedType a) }

def replicationStates : List String :=
  ["Off", "Established", "StartingSyncS", "StartingSyncT", "WFBitMapS", "WFBitMapT",
    "WFSyncUUID", "SyncSource", "SyncTarget", "PausedSyncS", "PausedSyncT", "VerifyS",
    "VerifyT", "Ahead", "Behind", "Unknown"]

def reportedReplicationState (raw : String) : String :=
  if raw = "" then "" else if raw ∈ replicationStates then raw else "Unknown"

/-- Paths of one network are merged, an established one takes the place of one that is not. -/
def reportPath (addresses : List Address) (reported : List PathStatus) (path : Path) :
    List PathStatus :=
  match addresses.find? (·.ipv4 = path.thisHost.address) with
  | none => reported
  | some addr =>
    let new : PathStatus :=
      { systemNetworkName := addr.systemNetworkName
        ipv4 := path.thisHost.address
        port := path.thisHost.port
        established := path.established }
    if reported.any (·.systemNetworkName = addr.systemNetworkName) then
      reported.map fun p =>
        if p.systemNetworkName = addr.systemNetworkName ∧ path.established ∧ !p.established
        then new else p
    else reported ++ [new]

def reportPeer (drbdr : DRBDResource) (conn : Connection) : PeerStatus :=
  let peerDiskState := (conn.peerDevices.head?.map (·.peerDiskState)).getD ""
  { name := ((drbdr.spec.peers.find? (·.nodeID = conn.peerNodeID)).map (·.name)).getD conn.name
    nodeID := conn.peerNodeID
    type :=
      if peerDiskState = "Diskless" then some .diskless
      else if peerDiskState ≠ "" then some .diskful else none
    connectionState := conn.connectionState
    diskState := peerDiskState
    replicationState :=
      reportedReplicationState ((conn.peerDevices.head?.map (·.replicationState)).getD "")
    paths := conn.paths.foldl (reportPath drbdr.status.addresses) [] }

def reportPeers (a : ActualState) (drbdr : DRBDResource) : List PeerStatus :=
  match a.status with
  | none => []
  | some status =>
    (status.connections.map (reportPeer drbdr)).insertionSort (fun p q => p.name ≤ q.name)

def reportedSize (vol : DeviceStatus) : Option ℕ :=
  if vol.diskState = "Diskless" ∨ vol.size * 1024 = 0 then none else some (vol.size * 1024)

def reportVolume (drbdr : DRBDResource) (volumes : List DeviceStatus)
    (status : DRBDResourceStatus) : DRBDResourceStatus :=
  match volumes with
  | [] => { status with device := "", size := none, diskState := "", quorum := none }
  | vol :: _ =>
    { status with
      device := deviceSymlinkPath drbdr.name
      diskState := vol.diskState
      quorum := some vol.quorum
      size := reportedSize vol }

def reportDevice (a : ActualState) (volumes : List DeviceStatus) (status : DRBDResourceStatus) :
    DRBDResourceStatus :=
  match a.status, volumes with
  | some s, vol :: _ =>
    if s.role = "Primary" then
      { status with deviceOpen := some vol.opened, deviceIOSuspended := some s.suspended }
    else { status with deviceOpen := none, deviceIOSuspended := none }
  | _, _ => { status with deviceOpen := none, deviceIOSuspended := none }

/-- Fills the status from the observed state; anything but exactly one volume is an error. -/
def report (aState : Option ActualState) (drbdr : DRBDResource) : DRBDResource × Failures :=
  match aState with
  | none => (drbdr, failure "unable to retrieve actual state")
  | some a =>
    if a.status.isNone ∧ a.shown.isNone then
      ({ drbdr with status := { drbdr.status with
          device := "", size := none, diskState := "", quorum := none, peers := []
          deviceOpen := none, deviceIOSuspended := none
          activeConfiguration :=
            some { ensureActiveConfiguration drbdr with state := some .down } } }, [])
    else
      let volumes := (a.status.map (·.devices)).getD []
      let err :=
        if volumes.length = 0 then failure "expected 1 volume, got 0"
        else if volumes.length > 1 then
          failure ("expected 1 volume, got " ++ toString volumes.length)
        else []
      let status := reportDevice a volumes (reportVolume drbdr volumes drbdr.status)
      let status := { status with
        activeConfiguration :=
          some (reportActiveConfiguration a volumes (ensureActiveConfiguration drbdr))
        peers := reportPeers a drbdr
        deviceUUID :=
          if a.diskDeviceUUID ≠ "" ∧ drbdr.status.deviceUUID = "" then a.diskDeviceUUID
          else drbdr.status.deviceUUID }
      ({ drbdr with status := status }, err)

def getConfiguredReason (err : Failures) : String := (err.findSome? (·.reason)).getD "Failed"

def applyConfiguredCondition (drbdr : DRBDResource) (err : Failures) (maintenanceMode : Bool) :
    DRBDResource :=
  let cond : Condition :=
    if err ≠ [] then
      { type := "Configured", status := some false, observedGeneration := 0
        reason := getConfiguredReason err, message := err.text }
    else if maintenanceMode then
      { type := "Configured", status := some false, observedGeneration := 0
        reason := "InMaintenance"
        message := "DRBD resource reconciliation is paused due to maintenance mode" }
    else
      { type := "Configured", status := some true, observedGeneration := 0
        reason := "Configured", message := "" }
  setStatusCondition drbdr cond

/-- The error of the report stays out of the result: it goes into the condition only. -/
def ensureReportState (aState : Option ActualState) (drbdr : DRBDResource)
    (statusLLVName : String) (err : Failures) (maintenanceMode : Bool) : DRBDResource :=
  let (drbdr, reportErr) := report aState drbdr
  let drbdr := applyConfiguredCondition drbdr (err ++ reportErr) maintenanceMode
  { drbdr with status := { drbdr.status with
      activeConfiguration :=
        some { ensureActiveConfiguration drbdr with lvmLogicalVolumeName := statusLLVName } } }

end ReplicatedVolume.Agent
