import ReplicatedVolume.Agent.Actual

/-!
# From the intended state to DRBD actions

The agent compares what the spec intends with what it observed and lists the commands that are
missing. Go maps are written as lists in the order of the spec, with the last element of a key.
-/

namespace ReplicatedVolume.Agent

structure IntendedPath where
  systemNetworkName : String
  localIPv4 : String
  localPort : ℕ
  remoteIPv4 : String
  remotePort : ℕ
  deriving DecidableEq

def IntendedPath.key (p : IntendedPath) : Host × Host :=
  (⟨p.localIPv4, p.localPort⟩, ⟨p.remoteIPv4, p.remotePort⟩)

def Path.key (p : Path) : Host × Host := (p.thisHost, p.remoteHost)

structure IntendedPeer where
  name : String
  nodeID : ℕ
  type : ResourceType
  protocol : String
  sharedSecret : String
  sharedSecretAlg : String
  allowRemoteRead : Bool
  paths : List IntendedPath
  deriving DecidableEq

structure IntendedState where
  isUpAndNotInCleanup : Bool
  resourceName : String
  symlinkName : String
  nodeID : ℕ
  type : ResourceType
  backingDisk : Option Device
  rsDiscardGranularity : ℕ
  quorum : ℕ
  quorumMinimumRedundancy : ℕ
  allowTwoPrimaries : Bool
  nonVoting : Bool
  role : Option Role
  sizeBytes : ℕ
  peers : List IntendedPeer
  statusDeviceUUID : String
  deriving DecidableEq

def rrConflict : String := "retry-connect"
def verifyAlg : String := "crct10dif-pclmul"

def defaultCPlanAhead : String := "20"
def defaultCDelayTarget : String := "1"
def defaultCFillTarget : String := "4096s"
def defaultCMaxRate : String := "625000k"
def defaultCMinRate : String := "12500k"

/-- The resource options that do not depend on the spec. `flant` tells whether the kernel module
supports the Flant extensions. -/
def intendedAutoPromote : Bool := false
def intendedOnNoQuorum : String := "suspend-io"
def intendedOnNoDataAccessible : String := "suspend-io"
def intendedOnSuspendedPrimaryOutdated : String := "force-secondary"
def intendedQuorumDynamicVoters (flant : Bool) : Bool := !flant
def intendedDiscardZeroesIfAligned : Bool := true

def intendedPath (addresses : List Address) (p : Address) : IntendedPath :=
  let localAddr := addresses.reverse.find? (·.systemNetworkName = p.systemNetworkName)
  { systemNetworkName := p.systemNetworkName
    localIPv4 := (localAddr.map (·.ipv4)).getD ""
    localPort := (localAddr.map (·.port)).getD 0
    remoteIPv4 := p.ipv4
    remotePort := p.port }

/-- `discardGranularity` is what sysfs tells about the backing disk, zero without one. -/
def computeIntendedDRBDState (drbdr : DRBDResource) (backingDisk : Option Device)
    (isUpAndNotInCleanup : Bool) (discardGranularity : ℕ) : IntendedState where
  isUpAndNotInCleanup := isUpAndNotInCleanup
  resourceName := drbdResourceNameOnTheNode drbdr
  symlinkName := drbdr.name
  nodeID := drbdr.spec.nodeID
  type := drbdr.spec.type
  backingDisk := backingDisk
  rsDiscardGranularity := if backingDisk.isSome then discardGranularity else 0
  quorum := drbdr.spec.quorum
  quorumMinimumRedundancy := drbdr.spec.quorumMinimumRedundancy
  allowTwoPrimaries := drbdr.spec.allowTwoPrimaries
  nonVoting := drbdr.spec.nonVoting
  role := drbdr.spec.role
  sizeBytes := drbdr.spec.size.getD 0
  peers := drbdr.spec.peers.map fun peer =>
    { name := peer.name
      nodeID := peer.nodeID
      type := peer.type
      protocol := peer.protocol
      sharedSecret := peer.sharedSecret
      sharedSecretAlg := peer.sharedSecretAlg
      allowRemoteRead := peer.allowRemoteRead
      paths := peer.paths.map (intendedPath drbdr.status.addresses) }
  statusDeviceUUID := drbdr.status.deviceUUID

/-- The minor of an existing device, or the one `NewMinorAction` of the same pass allocates. -/
inductive Minor where
  | existing (minor : ℕ)
  | allocated
  deriving DecidableEq

structure ResourceOptions where
  autoPromote : Option Bool
  onNoQuorum : String
  onNoDataAccessible : String
  onSuspendedPrimaryOutdated : String
  quorum : Option ℕ
  quorumMinimumRedundancy : Option ℕ
  quorumDynamicVoters : Option Bool
  deriving DecidableEq

structure DiskOptions where
  discardZeroesIfAligned : Option Bool
  rsDiscardGranularity : Option ℕ
  nonVoting : Option Bool
  deriving DecidableEq

structure NewPeerOptions where
  name : String
  protocol : String
  sharedSecret : String
  cramHMACAlg : String
  rrConflict : String
  verifyAlg : String
  deriving DecidableEq

structure NetOptions where
  protocol : Option String
  sharedSecret : Option String
  cramHMACAlg : Option String
  allowTwoPrimaries : Option Bool
  allowRemoteRead : Option Bool
  verifyAlg : Option String
  deriving DecidableEq

structure PeerDeviceOptions where
  bitmap : Option Bool
  cPlanAhead : Option String
  cDelayTarget : Option String
  cFillTarget : Option String
  cMaxRate : Option String
  cMinRate : Option String
  deriving DecidableEq

inductive Action where
  | newResource (resourceName : String) (nodeID : ℕ)
  | resourceOptions (resourceName : String) (options : ResourceOptions)
  | newMinor (resourceName : String) (volume : ℕ) (diskless : Bool)
  | fail (err : Failures)
  | writeDeviceUUID (minor : Minor) (backingDev : Device) (uuid : String)
  | createMetadata (minor : Minor) (backingDev : Device)
  | applyAL (minor : Minor) (backingDev : Device)
  | attach (minor : Minor) (lowerDev metaDev : Device) (metaIdx : String)
  | diskOptions (minor : Minor) (options : DiskOptions)
  | newPeer (resourceName : String) (peerNodeID : ℕ) (options : NewPeerOptions)
  | netOptions (resourceName : String) (peerNodeID : ℕ) (options : NetOptions)
  | peerDeviceOptions (resourceName : String) (peerNodeID volumeNr : ℕ)
      (options : PeerDeviceOptions)
  | newPath (resourceName : String) (peerNodeID : ℕ) (localAddr remoteAddr : Host)
  | connect (resourceName : String) (peerNodeID : ℕ)
  | disconnect (resourceName : String) (peerNodeID : ℕ)
  | delPath (resourceName : String) (peerNodeID : ℕ) (localAddr remoteAddr : Host)
  | delPeer (resourceName : String) (peerNodeID : ℕ)
  | forgetPeer (resourceName : String) (peerNodeID : ℕ)
  | down (resourceName : String)
  | detach (minor : Minor) (intentionalDiskless : Bool)
  | primary (resourceName : String) (force : Bool)
  | secondary (resourceName : String) (force : Bool)
  | resize (minor : Minor) (sizeBytes : ℕ)
  | ensureDeviceSymlink (name : String) (minor : Minor)
  | removeDeviceSymlink (name : String)
  deriving DecidableEq

def Action.failureReason : Action → Option String
  | .newResource .. => some "NewResourceFailed"
  | .resourceOptions .. => some "ResourceOptionsFailed"
  | .newMinor .. => some "NewMinorFailed"
  | .fail _ => none
  | .writeDeviceUUID .. => some "WriteDevUUIDFailed"
  | .createMetadata .. => some "CreateMetadataFailed"
  | .applyAL .. => some "ApplyALFailed"
  | .attach .. => some "AttachFailed"
  | .diskOptions .. => some "DiskOptionsFailed"
  | .newPeer .. => some "NewPeerFailed"
  | .netOptions .. => some "NetOptionsFailed"
  | .peerDeviceOptions .. => some "PeerDeviceOptionsFailed"
  | .newPath .. => some "NewPathFailed"
  | .connect .. => some "ConnectFailed"
  | .disconnect .. => some "DisconnectFailed"
  | .delPath .. => some "DelPathFailed"
  | .delPeer .. => some "DelPeerFailed"
  | .forgetPeer .. => some "ForgetPeerFailed"
  | .down .. => some "DownFailed"
  | .detach .. => some "DetachFailed"
  | .primary .. => some "PrimaryFailed"
  | .secondary .. => some "SecondaryFailed"
  | .resize .. => some "ResizeFailed"
  | .ensureDeviceSymlink .. => some "SymlinkFailed"
  | .removeDeviceSymlink .. => some "SymlinkFailed"

def lastByKey {α κ : Type} [DecidableEq κ] (key : α → κ) : List α → List α
  | [] => []
  | a :: l => if l.any (key · = key a) then lastByKey key l else a :: lastByKey key l

/-- `maps.IntersectItersKeyFunc`: only on the left, on both sides, only on the right. -/
def intersect {α β κ : Type} [DecidableEq κ] (left : List α) (leftKey : α → κ)
    (right : List β) (rightKey : β → κ) : List α × List (α × β) × List β :=
  let left := lastByKey leftKey left
  let right := lastByKey rightKey right
  (left.filter fun a => !right.any (rightKey · = leftKey a),
    left.filterMap fun a => (right.find? (rightKey · = leftKey a)).map (a, ·),
    right.filter fun b => !left.any (leftKey · = rightKey b))

def quorumText (n : ℕ) : String := if n = 0 then "off" else toString n

def quorumMatches (intended : ℕ) (actual : String) : Bool := actual = quorumText intended

def computeResourceOptionsAction (flant : Bool) (resourceName : String) (iState : IntendedState) :
    List Action :=
  [.resourceOptions resourceName
    { autoPromote := some intendedAutoPromote
      onNoQuorum := intendedOnNoQuorum
      onNoDataAccessible := intendedOnNoDataAccessible
      onSuspendedPrimaryOutdated := intendedOnSuspendedPrimaryOutdated
      quorum := some iState.quorum
      quorumMinimumRedundancy := some iState.quorumMinimumRedundancy
      quorumDynamicVoters :=
        if flant || !intendedQuorumDynamicVoters flant then some (intendedQuorumDynamicVoters flant)
        else none }]

def changedResourceOptions (flant : Bool) (iState : IntendedState) (aState : ActualState) :
    ResourceOptions where
  quorum := if quorumMatches iState.quorum aState.quorum then none else some iState.quorum
  quorumMinimumRedundancy :=
    if quorumMatches iState.quorumMinimumRedundancy aState.quorumMinimumRedundancy then none
    else some iState.quorumMinimumRedundancy
  autoPromote := if intendedAutoPromote ≠ aState.autoPromote then some intendedAutoPromote else none
  onNoQuorum := if intendedOnNoQuorum ≠ aState.onNoQuorum then intendedOnNoQuorum else ""
  onNoDataAccessible :=
    if intendedOnNoDataAccessible ≠ aState.onNoDataAccessible then intendedOnNoDataAccessible
    else ""
  onSuspendedPrimaryOutdated :=
    if intendedOnSuspendedPrimaryOutdated ≠ aState.onSuspendedPrimaryOutdated then
      intendedOnSuspendedPrimaryOutdated
    else ""
  quorumDynamicVoters :=
    if flant || !intendedQuorumDynamicVoters flant then
      if intendedQuorumDynamicVoters flant ≠ aState.quorumDynamicVoters then
        some (intendedQuorumDynamicVoters flant)
      else none
    else none

def ResourceOptions.unchanged : ResourceOptions where
  autoPromote := none
  onNoQuorum := ""
  onNoDataAccessible := ""
  onSuspendedPrimaryOutdated := ""
  quorum := none
  quorumMinimumRedundancy := none
  quorumDynamicVoters := none

def computeResourceOptionsActionReconcile (flant : Bool) (resourceName : String)
    (iState : IntendedState) (aState : ActualState) : List Action :=
  let options := changedResourceOptions flant iState aState
  if options = .unchanged then [] else [.resourceOptions resourceName options]

def computeResourceOptions (flant : Bool) (resourceName : String) (iState : IntendedState)
    (aState : ActualState) : List Action :=
  if !aState.resourceExists then computeResourceOptionsAction flant resourceName iState
  else computeResourceOptionsActionReconcile flant resourceName iState aState

def computeMinorActions (resourceName : String) (iState : IntendedState) (aState : ActualState) :
    Minor × List Action :=
  match aState.volumes with
  | vol :: _ => (.existing vol.minor, [])
  | [] => (.allocated, [.newMinor resourceName 0 (iState.type = .diskless)])

def foreignDiskError (backingDev : Device) (diskUUID statusUUID : String) : Failures :=
  configuredReasonError
    (failure ("backing device " ++ backingDev.path ++ " has device-uuid " ++ diskUUID ++
      ", DRBDResource expects " ++ statusUUID))
    "ForeignDiskDetected"

/-- The device-uuid decision table. `fresh` is the uuid `generateDeviceUUID` would draw. -/
def computeAttachActions (fresh : String) (aState : ActualState) (statusUUID : String)
    (minor : Minor) (backingDev : Device) : List Action :=
  let diskUUID := aState.diskDeviceUUID
  let attach : Action := .attach minor backingDev backingDev "internal"
  if aState.hasMetadata then
    if diskUUID ≠ "" ∧ statusUUID = diskUUID then [.applyAL minor backingDev, attach]
    else if diskUUID ≠ "" ∧ statusUUID ≠ "" ∧ statusUUID ≠ diskUUID then
      [.fail (foreignDiskError backingDev diskUUID statusUUID)]
    else if diskUUID ≠ "" ∧ statusUUID = "" then [.applyAL minor backingDev, attach]
    else if diskUUID = "" ∧ statusUUID ≠ "" then
      [.writeDeviceUUID minor backingDev statusUUID, .applyAL minor backingDev, attach]
    else [.writeDeviceUUID minor backingDev fresh, .applyAL minor backingDev, attach]
  else
    [.createMetadata minor backingDev,
      .writeDeviceUUID minor backingDev (if statusUUID = "" then fresh else statusUUID), attach]

def computeDiskOptionsAction (flant : Bool) (minor : Minor) (iState : IntendedState) :
    List Action :=
  [.diskOptions minor
    { discardZeroesIfAligned := some intendedDiscardZeroesIfAligned
      rsDiscardGranularity := some iState.rsDiscardGranularity
      nonVoting := if flant || iState.nonVoting then some iState.nonVoting else none }]

def changedDiskOptions (flant : Bool) (iState : IntendedState) (vol : ActualVolume) :
    DiskOptions where
  discardZeroesIfAligned :=
    if intendedDiscardZeroesIfAligned ≠ vol.discardZeroesIfAligned then
      some intendedDiscardZeroesIfAligned
    else none
  rsDiscardGranularity :=
    if toString iState.rsDiscardGranularity ≠ vol.rsDiscardGranularity then
      some iState.rsDiscardGranularity
    else none
  nonVoting :=
    if flant || iState.nonVoting then
      if iState.nonVoting ≠ vol.nonVoting then some iState.nonVoting else none
    else none

def DiskOptions.unchanged : DiskOptions where
  discardZeroesIfAligned := none
  rsDiscardGranularity := none
  nonVoting := none

def computeDiskOptionsActionReconcile (flant : Bool) (iState : IntendedState)
    (aState : ActualState) : List Action :=
  aState.volumes.filterMap fun vol =>
    if vol.backingDisk.isNone then none
    else
      let options := changedDiskOptions flant iState vol
      if options = .unchanged then none else some (.diskOptions (.existing vol.minor) options)

def computeDiskActions (flant : Bool) (fresh : String) (minor : Minor) (iState : IntendedState)
    (aState : ActualState) : List Action :=
  let actualDisk := actualBackingDisk (some aState)
  if actualDisk.isSome ∧ actualDisk ≠ iState.backingDisk then
    [.detach minor (iState.type = .diskless)]
  else
    match actualDisk, iState.backingDisk with
    | none, some intendedDisk =>
      if iState.type = .diskful then
        computeAttachActions fresh aState iState.statusDeviceUUID minor intendedDisk ++
          computeDiskOptionsAction flant minor iState
      else []
    | none, none => []
    | some _, _ => computeDiskOptionsActionReconcile flant iState aState

def equalFold (a b : String) : Bool := a.toLower = b.toLower

def computeNetOptionsAction (resourceName : String) (iPeer : IntendedPeer)
    (allowTwoPrimaries : Bool) : List Action :=
  [.netOptions resourceName iPeer.nodeID
    { protocol := none
      sharedSecret := none
      cramHMACAlg := none
      allowTwoPrimaries := some allowTwoPrimaries
      allowRemoteRead := some iPeer.allowRemoteRead
      verifyAlg := some verifyAlg }]

def changedNetOptions (iPeer : IntendedPeer) (aPeer : ActualPeer) (allowTwoPrimaries : Bool) :
    NetOptions where
  protocol := if iPeer.protocol ≠ aPeer.protocol then some iPeer.protocol else none
  sharedSecret := if iPeer.sharedSecret ≠ aPeer.sharedSecret then some iPeer.sharedSecret else none
  cramHMACAlg :=
    if !equalFold iPeer.sharedSecretAlg aPeer.sharedSecretAlg then
      some iPeer.sharedSecretAlg.toLower
    else none
  allowTwoPrimaries :=
    if allowTwoPrimaries ≠ aPeer.allowTwoPrimaries then some allowTwoPrimaries else none
  allowRemoteRead :=
    if iPeer.allowRemoteRead ≠ aPeer.allowRemoteRead then some iPeer.allowRemoteRead else none
  verifyAlg := if verifyAlg ≠ aPeer.verifyAlg then some verifyAlg else none

def NetOptions.unchanged : NetOptions where
  protocol := none
  sharedSecret := none
  cramHMACAlg := none
  allowTwoPrimaries := none
  allowRemoteRead := none
  verifyAlg := none

def computeNetOptionsActionReconcile (resourceName : String) (iPeer : IntendedPeer)
    (aPeer : ActualPeer) (allowTwoPrimaries : Bool) : List Action :=
  let options := changedNetOptions iPeer aPeer allowTwoPrimaries
  if options = .unchanged then [] else [.netOptions resourceName iPeer.nodeID options]

def changedPeerDeviceOptions (iPeer : IntendedPeer) (aPeer : ActualPeer) : PeerDeviceOptions where
  cPlanAhead := if aPeer.cPlanAhead ≠ defaultCPlanAhead then some defaultCPlanAhead else none
  cDelayTarget :=
    if aPeer.cDelayTarget ≠ defaultCDelayTarget then some defaultCDelayTarget else none
  cFillTarget := if aPeer.cFillTarget ≠ defaultCFillTarget then some defaultCFillTarget else none
  cMaxRate := if aPeer.cMaxRate ≠ defaultCMaxRate then some defaultCMaxRate else none
  cMinRate := if aPeer.cMinRate ≠ defaultCMinRate then some defaultCMinRate else none
  bitmap :=
    let intendedBitmap : Bool := iPeer.type ≠ .diskless
    if aPeer.bitmap ≠ some intendedBitmap then some intendedBitmap else none

def PeerDeviceOptions.unchanged : PeerDeviceOptions where
  bitmap := none
  cPlanAhead := none
  cDelayTarget := none
  cFillTarget := none
  cMaxRate := none
  cMinRate := none

def computePeerDeviceOptionsAction (resourceName : String) (iPeer : IntendedPeer)
    (aPeer : ActualPeer) : List Action :=
  let options := changedPeerDeviceOptions iPeer aPeer
  if options = .unchanged then []
  else [.peerDeviceOptions resourceName iPeer.nodeID 0 options]

def establishedRetained (actualPaths removed : List Path) : ℕ :=
  actualPaths.countP fun p => !removed.any (·.key = p.key) && p.established

def computePathActions (resourceName : String) (iPeer : IntendedPeer)
    (aPeer : Option ActualPeer) : List Action :=
  let actualPaths := (aPeer.map (·.paths)).getD []
  let (toAdd, _, toRemove) := intersect iPeer.paths IntendedPath.key actualPaths Path.key
  let connectionActive := aPeer.any fun p => p.connectionState ≠ "StandAlone"
  (toAdd.map fun p => .newPath resourceName iPeer.nodeID p.key.1 p.key.2) ++
    (toRemove.filter fun p => !(connectionActive && p.established &&
      establishedRetained actualPaths toRemove = 0)).map fun p =>
        .delPath resourceName iPeer.nodeID p.key.1 p.key.2

def computeNewPeerActions (resourceName : String) (iState : IntendedState)
    (iPeer : IntendedPeer) : List Action :=
  .newPeer resourceName iPeer.nodeID
    { name := "peer-" ++ toString iPeer.nodeID
      protocol := iPeer.protocol
      sharedSecret := iPeer.sharedSecret
      cramHMACAlg := iPeer.sharedSecretAlg
      rrConflict := rrConflict
      verifyAlg := verifyAlg } ::
    computeNetOptionsAction resourceName iPeer iState.allowTwoPrimaries ++
    computePathActions resourceName iPeer none ++
    [.connect resourceName iPeer.nodeID]

def computeExistingPeerActions (resourceName : String) (iState : IntendedState)
    (iPeer : IntendedPeer) (aPeer : ActualPeer) : List Action :=
  computeNetOptionsActionReconcile resourceName iPeer aPeer iState.allowTwoPrimaries ++
    computePeerDeviceOptionsAction resourceName iPeer aPeer ++
    computePathActions resourceName iPeer (some aPeer) ++
    if aPeer.connectionState = "StandAlone" then [.connect resourceName iPeer.nodeID] else []

def computeRemovedPeerActions (resourceName : String) (aPeer : ActualPeer) : List Action :=
  [.disconnect resourceName aPeer.nodeID, .delPeer resourceName aPeer.nodeID,
    .forgetPeer resourceName aPeer.nodeID]

def computePeerActions (resourceName : String) (iState : IntendedState) (aState : ActualState) :
    List Action :=
  let (toAdd, existing, toRemove) :=
    intersect iState.peers IntendedPeer.nodeID aState.peers ActualPeer.nodeID
  toAdd.flatMap (computeNewPeerActions resourceName iState) ++
    (existing.flatMap fun pair => computeExistingPeerActions resourceName iState pair.1 pair.2) ++
    toRemove.flatMap (computeRemovedPeerActions resourceName)

def computeResizeAction (iState : IntendedState) (aState : ActualState) : List Action :=
  if iState.type ≠ .diskful ∨ iState.sizeBytes = 0 then []
  else
    match aState.volumes with
    | [] => []
    | vol :: _ =>
      if vol.backingDisk.isNone ∨ vol.diskState = "Diskless" then []
      else if iState.sizeBytes > vol.sizeBytes then [.resize (.existing vol.minor) iState.sizeBytes]
      else []

def computeRoleAction (resourceName : String) (iState : IntendedState) (aState : ActualState) :
    List Action :=
  (if iState.role = some .primary ∧ aState.role ≠ "Primary" then
    [.primary resourceName false] else []) ++
  (if iState.role = some .secondary ∧ aState.role ≠ "Secondary" then
    [.secondary resourceName false] else [])

def computeBringUpActions (flant : Bool) (fresh : String) (iState : IntendedState)
    (aState : ActualState) : List Action :=
  let resourceName := iState.resourceName
  let (minor, minorActions) := computeMinorActions resourceName iState aState
  (if aState.resourceExists then [] else [.newResource resourceName iState.nodeID]) ++
    computeResourceOptions flant resourceName iState aState ++
    minorActions ++
    [.ensureDeviceSymlink iState.symlinkName minor] ++
    computeDiskActions flant fresh minor iState aState ++
    computePeerActions resourceName iState aState ++
    computeResizeAction iState aState ++
    computeRoleAction resourceName iState aState

def computeTargetDRBDActions (flant : Bool) (fresh : String) (iState : IntendedState)
    (aState : Option ActualState) : List Action :=
  match aState with
  | none => []
  | some aState =>
    if !iState.isUpAndNotInCleanup then
      .removeDeviceSymlink iState.symlinkName ::
        if aState.resourceExists then [.down iState.resourceName] else []
    else computeBringUpActions flant fresh iState aState

end ReplicatedVolume.Agent
