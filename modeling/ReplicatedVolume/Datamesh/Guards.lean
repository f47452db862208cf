import ReplicatedVolume.Datamesh.Network

/-!
# Guards

Each guard of the plans, with the message it blocks with. Guards read the
context and never change it, except for the quorum check, which is computed
on its first use in a cycle and kept.
-/

namespace ReplicatedVolume.Datamesh
open Dmte

abbrev ReplicaGuard := GlobalContext → ReplicaContext → GuardResult

def blockIf (blocked : Bool) (message : String) (details : Option String) : GuardResult :=
  if blocked then .block message details else .pass

def quoted (s : String) : String := "\"" ++ s ++ "\""

def MemberType.toString : MemberType → String
  | .diskful => "Diskful"
  | .liminalDiskful => "LiminalDiskful"
  | .shadowDiskful => "ShadowDiskful"
  | .liminalShadowDiskful => "LiminalShadowDiskful"
  | .tieBreaker => "TieBreaker"
  | .access => "Access"

/-- Members that satisfy a test, counted by zone, in the order of zone names. -/
def countPerZone (g : GlobalContext) (included : ReplicaContext → Bool) : List (String × ℕ) :=
  let zones := (List.finRange 32).filterMap fun id =>
    if included (g.replicas id) then (g.member id).map (·.zone) else none
  (zones.dedup.insertionSort (· ≤ ·)).map fun zone => (zone, zones.count zone)

def findZoneCount (zones : List (String × ℕ)) (zone : String) : ℕ :=
  ((zones.find? (·.1 = zone)).map (·.2)).getD 0

def voterCountPerZone (g : GlobalContext) : List (String × ℕ) :=
  countPerZone g (·.member.any (·.type.isVoter))

def upToDateDiskfulCountPerZone (g : GlobalContext) : List (String × ℕ) :=
  countPerZone g isUpToDateDiskful

def tbCountPerZone (g : GlobalContext) : List (String × ℕ) :=
  countPerZone g (·.member.any (·.type = .tieBreaker))

def memberZone (rc : ReplicaContext) : String := (rc.member.map (·.zone)).getD ""

def replicaZone (g : GlobalContext) (rc : ReplicaContext) : Option String :=
  match rc.member with
  | some m => some m.zone
  | none => (getEligibleNode g rc).map (·.zoneName)

def maxDiskMembers : ℕ := 8

def gainsDisk (t : Transition) : Bool :=
  (t.type = .changeReplicaType &&
      (t.toReplicaType = some .diskful || t.toReplicaType = some .shadowDiskful)) ||
    (t.type = .addReplica &&
      (t.replicaType = some .diskful || t.replicaType = some .shadowDiskful))

def guardMaxDiskMembers : ReplicaGuard := fun g _ =>
  let current := (memberWhere g (·.type.needsBackingVolume)).card
  let pending := (idsWhere fun id => (g.member id).any (!·.type.needsBackingVolume) &&
    (g.replicas id).membershipTransition.any (gainsDisk ·.header)).card
  let total := current + pending
  blockIf (maxDiskMembers ≤ total)
    ("maximum disk members reached (" ++ toString total ++ "/" ++ toString maxDiskMembers ++
      ", " ++ toString current ++ " current + " ++ toString pending ++ " pending)") none

def guardRVNotDeleting : ReplicaGuard := fun g _ =>
  blockIf g.deleting "volume is being deleted" none

def guardAddressesPopulated : ReplicaGuard := fun _ rc =>
  blockIf (rc.rvr.all (·.addresses = [])) "waiting for replica addresses to be populated" none

def guardNoMemberOnSameNode : ReplicaGuard := fun g rc =>
  match ((List.finRange 32).filterMap fun id => (g.member id).map (id, ·)).find?
      (fun m => (g.replicas m.1).nodeName = rc.nodeName) with
  | none => .pass
  | some (id, m) => .block (MemberType.toString m.type ++ " member " ++ g.displayName id ++
      " already present on node " ++ rc.nodeName) none

def rspMissing : String := "waiting for ReplicatedStoragePool to be available"

def guardRSPAvailable : ReplicaGuard := fun g _ => blockIf g.rsp.isNone rspMissing none

def guardNodeEligible : ReplicaGuard := fun g rc =>
  if g.rsp.isNone then .block rspMissing none
  else blockIf (getEligibleNode g rc).isNone
    ("node " ++ rc.nodeName ++ " is not in eligible nodes") none

def guardNodeHasAllSystemNetworks : ReplicaGuard := fun _ _ => .pass

def guardShadowDiskfulSupported : ReplicaGuard := fun g _ =>
  blockIf (!g.features.shadowDiskful)
    "ShadowDiskful not supported (requires Flant DRBD extension, non-voting disk option)" none

def guardVolumeAccessNotLocal : ReplicaGuard := fun g _ =>
  blockIf (g.configuration.volumeAccess = .localAccess) "volumeAccess is Local" none

def TransitionType.lowerName : TransitionType → String
  | .attach => "attach"
  | .detach => "detach"
  | .forceDetach => "forcedetach"
  | _ => ""

def guardNotAttached : ReplicaGuard := fun _ rc =>
  if rc.member.any (·.attached) then .block "replica is attached, detach required first" none
  else
    match rc.attachmentTransition with
    | none => .pass
    | some t => .block (TransitionType.lowerName t.header.type ++ " transition in progress") none

def guardVolumeAccessLocalForDemotion : ReplicaGuard := fun g rc =>
  blockIf (rc.member.any (·.attached) && g.configuration.volumeAccess = .localAccess)
    "volumeAccess=Local requires Diskful on attached node" none

def guardGMDRPreserved : ReplicaGuard := fun g rc =>
  let targetGMDR := g.configuration.guaranteedMinimumDataRedundancy
  let adr := upToDateDiskfulCount g - if isUpToDateDiskful rc then 1 else 0
  blockIf (adr ≤ targetGMDR) ("would violate GMDR (ADR=" ++ toString adr ++ ", need > " ++
    toString targetGMDR ++ ")") none

def guardFTTPreserved : ReplicaGuard := fun g _ =>
  let dMin := intendedDiskfulCount g.configuration.failuresToTolerate
    g.configuration.guaranteedMinimumDataRedundancy
  blockIf (voterCount g ≤ dMin) ("would violate FTT (Diskful=" ++ toString (voterCount g) ++
    ", need > " ++ toString dMin ++ ")") none

def guardZoneGMDRPreserved : ReplicaGuard := fun g rc =>
  if g.configuration.topology ≠ .transZonal then .pass
  else
    let targetGMDR := g.configuration.guaranteedMinimumDataRedundancy
    let subject := if isUpToDateDiskful rc then 1 else 0
    let adjustedTotal := upToDateDiskfulCount g - subject
    let surviving (zc : String × ℕ) : ℕ :=
      adjustedTotal - (zc.2 - if zc.1 = memberZone rc then subject else 0)
    match (upToDateDiskfulCountPerZone g).find? (fun zc => surviving zc ≤ targetGMDR) with
    | none => .pass
    | some zc => .block ("would violate zone GMDR (losing zone " ++ quoted zc.1 ++
        " after removal would leave " ++ toString (surviving zc) ++
        " UpToDate Diskful, need > " ++ toString targetGMDR ++ ")") none

def evaluateZoneFTT (subjectBecomesTieBreaker : Bool) : ReplicaGuard := fun g rc =>
  if g.configuration.topology ≠ .transZonal ∨ voterCount g = 0 then .pass
  else
    let votersAfter := voterCount g - 1
    let qAfter := computeTargetQ votersAfter
    let removedZone := memberZone rc
    let dSurviving (zc : String × ℕ) : ℕ :=
      votersAfter - (zc.2 - if zc.1 = removedZone then 1 else 0)
    let tbSurviving (zc : String × ℕ) : ℕ :=
      tbCount g - findZoneCount (tbCountPerZone g) zc.1 +
        if subjectBecomesTieBreaker ∧ zc.1 ≠ removedZone then 1 else 0
    match (voterCountPerZone g).find? (fun zc => dSurviving zc < qAfter ∧
        ¬(dSurviving zc = qAfter - 1 ∧ 0 < tbSurviving zc)) with
    | none => .pass
    | some zc => .block ("would violate zone FTT (losing zone " ++ quoted zc.1 ++
        " would leave " ++ toString (dSurviving zc) ++ " Diskful voters, q=" ++
        toString qAfter ++ ", TB=" ++ toString (tbSurviving zc) ++ ")") none

def guardZoneFTTPreserved : ReplicaGuard := evaluateZoneFTT false

def guardZoneFTTPreservedForRetypeToTieBreaker : ReplicaGuard := evaluateZoneFTT true

def operationalTieBreakerCount (g : GlobalContext) (excludeID : ReplicaID) : ℕ × List String :=
  let reports := (List.finRange 32).filterMap fun id => do
    let m ← g.member id
    if m.type ≠ .tieBreaker ∨ id = excludeID then none
    else some ((memberTieBreakerDefect g id m).map fun why => g.displayName id ++ ": " ++ why)
  (reports.count none, (reports.filterMap id).insertionSort (· ≤ ·))

def guardTBSufficient : ReplicaGuard := fun g rc =>
  let targetFTT := g.configuration.failuresToTolerate
  let tbMin := tieBreakersForDiskful (voterCount g) targetFTT
  let (operational, notOperational) := operationalTieBreakerCount g rc.id
  blockIf (operational < tbMin)
    ("TieBreaker required for quorum (Diskful=" ++ toString (voterCount g) ++ " even, FTT=" ++
      toString targetFTT ++ "): " ++ toString operational ++
      " operational TieBreaker(s) would remain, need " ++ toString tbMin ++
      String.join (notOperational.map ("; " ++ ·))) none

def guardZoneTBSufficient : ReplicaGuard := fun g rc =>
  blockIf (g.configuration.topology = .transZonal &&
      tieBreakersForDiskful (voterCount g) g.configuration.failuresToTolerate ≠ 0 &&
      tbCount g ≤ 1)
    ("would violate zone TB coverage (zone " ++ quoted (memberZone rc) ++ ")") none

def guardMemberUnreachable : ReplicaGuard := fun g rc =>
  let connectedFrom := idsWhere fun id => id ≠ rc.id && (g.member id).isSome &&
    (g.rvr id).any fun rvr => isAgentReady rvr &&
      rvr.peers.any fun peer => rc.named && peer.id = rc.id && peer.connectionState = .connected
  blockIf (connectedFrom ≠ ∅) ("member is reachable (connected from " ++
    toString connectedFrom.card ++ " replica(s): [" ++ idSetString connectedFrom ++ "])") none

def guardZonalSameZone : ReplicaGuard := fun g rc =>
  if g.configuration.topology ≠ .zonal ∨ voterCountPerZone g = [] then .pass
  else
    match replicaZone g rc with
    | none => .pass
    | some zone =>
      let maxCount := (voterCountPerZone g).foldl (fun n zc => max n zc.2) 0
      blockIf (!(voterCountPerZone g).any fun zc => zc.1 = zone && zc.2 = maxCount)
        ("zone " ++ quoted zone ++ " is not the primary zone for Zonal topology") none

def guardTransZonalVoterPlacement : ReplicaGuard := fun g rc =>
  if g.configuration.topology ≠ .transZonal then .pass
  else
    match replicaZone g rc with
    | none => .pass
    | some addedZone =>
      let votersAfter := voterCount g + 1
      let qAfter := computeTargetQ votersAfter
      let qmr := g.quorumMinimumRedundancy
      let perZone := voterCountPerZone g
      let isNew := !perZone.any (·.1 = addedZone)
      let tbSurviving (zone : String) := tbCount g - findZoneCount (tbCountPerZone g) zone
      let fttFails (d tb : ℕ) : Bool := d < qAfter && (d ≠ qAfter - 1 || tb = 0)
      let counts := perZone.map fun zc => (zc.1, zc.2 + if zc.1 = addedZone then 1 else 0)
      let problem (zc : String × ℕ) : Option String :=
        let d := votersAfter - zc.2
        if fttFails d (tbSurviving zc.1) then
          some ("adding to zone " ++ quoted addedZone ++ " would violate zone FTT (losing zone " ++
            quoted zc.1 ++ " would leave " ++ toString d ++ " Diskful voters, q=" ++
            toString qAfter ++ ", TB=" ++ toString (tbSurviving zc.1) ++ ")")
        else if d < qmr then
          some ("adding to zone " ++ quoted addedZone ++ " would violate zone GMDR (losing zone " ++
            quoted zc.1 ++ " would leave " ++ toString d ++ " Diskful voters, need >= " ++
            toString qmr ++ ")")
        else none
      let newZoneProblem : Option String :=
        let d := votersAfter - 1
        if !isNew then none
        else if fttFails d (tbSurviving addedZone) then
          some ("adding to new zone " ++ quoted addedZone ++
            " would violate zone FTT (losing it would leave " ++ toString d ++
            " Diskful voters, q=" ++ toString qAfter ++ ")")
        else if d < qmr then
          some ("adding to new zone " ++ quoted addedZone ++
            " would violate zone GMDR (losing it would leave " ++ toString d ++
            " Diskful voters, need >= " ++ toString qmr ++ ")")
        else none
      match (counts.findSome? problem).or newZoneProblem with
      | none => .pass
      | some message => .block message none

def guardTransZonalTBPlacement : ReplicaGuard := fun g rc =>
  if g.configuration.topology ≠ .transZonal then .pass
  else
    match replicaZone g rc with
    | none => .pass
    | some tbZone =>
      let votersInTBZone := findZoneCount (voterCountPerZone g) tbZone
      blockIf (1 < votersInTBZone) ("zone " ++ quoted tbZone ++ " already has " ++
        toString votersInTBZone ++ " Diskful voters (TB zone must have at most 1)") none

def guardVotersEven : ReplicaGuard := fun g _ =>
  blockIf (voterCount g % 2 ≠ 0)
    ("internal check: expected even voter count, got " ++ toString (voterCount g)) none

def guardVotersOdd : ReplicaGuard := fun g _ =>
  blockIf (voterCount g % 2 = 0)
    ("internal check: expected odd voter count, got " ++ toString (voterCount g)) none

def guardQMRRaiseNeeded : ReplicaGuard := fun g _ =>
  let targetQMR := g.configuration.quorumMinimumRedundancy
  blockIf (targetQMR ≤ g.quorumMinimumRedundancy)
    ("internal check: qmr raise not needed (qmr=" ++ toString g.quorumMinimumRedundancy ++
      " >= target " ++ toString targetQMR ++ ")") none

def guardQMRLowerNeeded : ReplicaGuard := fun g _ =>
  let targetQMR := g.configuration.quorumMinimumRedundancy
  blockIf (g.quorumMinimumRedundancy ≤ targetQMR)
    ("internal check: qmr lower not needed (qmr=" ++ toString g.quorumMinimumRedundancy ++
      " <= target " ++ toString targetQMR ++ ")") none

def guardAttachNotDeleting : ReplicaGuard := fun g _ =>
  blockIf g.deleting "volume is being deleted" (some "ReplicatedVolumeTerminating")

def guardSlotAvailable : ReplicaGuard := fun g _ =>
  blockIf (g.maxAttachments ≤ g.potentiallyAttached.card)
    ("waiting for attachment slot (" ++ toString g.potentiallyAttached.card ++ "/" ++
      toString g.maxAttachments ++ " occupied)") (some "Pending")

def guardNodeOperational : ReplicaGuard := fun g rc =>
  if g.rsp.isNone then .block rspMissing (some "Pending")
  else
    match getEligibleNode g rc with
    | none =>
      .block ("node " ++ rc.nodeName ++ " is not eligible for " ++
        if g.replicatedStorageClassName = "" then
          "pool " ++ g.configuration.replicatedStoragePoolName
        else "storage class " ++ g.replicatedStorageClassName ++ " (pool " ++
          g.configuration.replicatedStoragePoolName ++ ")") (some "NodeNotEligible")
    | some en =>
      if !en.nodeReady then .block "node is not ready" (some "Pending")
      else blockIf (!en.agentReady) "agent is not ready on node" (some "Pending")

def guardRVRReady : ReplicaGuard := fun _ rc =>
  match rc.rvr with
  | none => .block "waiting for replica" (some "WaitingForReplica")
  | some rvr =>
    match rvr.condition "Ready" with
    | none => .block "waiting for replica to become Ready" (some "WaitingForReplica")
    | some cond => blockIf (cond.status ≠ some true)
        ("waiting for replica to become Ready" ++
          if cond.message = "" then "" else ": " ++ cond.reason ++ " — " ++ cond.message)
        (some "WaitingForReplica")

def guardVolumeAccessLocalForAttach : ReplicaGuard := fun g rc =>
  let satisfied := match rc.member with
    | some m => m.type.hasBackingVolume
    | none => rc.rvr.any (·.type = .diskful)
  blockIf (g.configuration.volumeAccess = .localAccess && !satisfied)
    ("no Diskful replica on this node (volumeAccess is Local" ++
      if g.replicatedStorageClassName = "" then ")"
      else " for storage class " ++ g.replicatedStorageClassName ++ ")")
    (some "VolumeAccessLocalityNotSatisfied")

def guardMemberExists : ReplicaGuard := fun _ rc =>
  if rc.member.isSome then .pass
  else
    let waiting := "waiting for replica [#" ++ toString rc.id.val ++ "] to join datamesh"
    let message := match rc.rvr, rc.membershipRequest with
      | none, _ => "waiting for replica on node"
      | some rvr, request =>
        match request.filter (·.operation = .join), rvr.condition "Ready" with
        | some req, _ => waiting ++ ": " ++ req.message
        | none, some cond =>
          if cond.message = "" then waiting
          else waiting ++ ": " ++ cond.reason ++ " — " ++ cond.message
        | none, none => waiting
    .block message (some "WaitingForReplica")

def guardNoActiveMembershipTransition : ReplicaGuard := fun _ rc =>
  blockIf rc.membershipTransition.isSome "waiting for membership transition to complete"
    (some "WaitingForReplica")

def guardDeviceNotInUse : ReplicaGuard := fun _ rc =>
  blockIf (rc.rvr.any (·.attachment = some true)) "device is in use" (some "Detaching")

/-- The first voter with a ready agent and quorum decides; otherwise the
diagnostic names the voters without quorum and those without an agent. -/
def computeQuorumCheck (g : GlobalContext) : Bool × String :=
  let voterRVR (id : ReplicaID) (p : RVR → Bool) : Bool :=
    (g.member id).any (·.type.isVoter) && (g.rvr id).any p
  let agentNotReady (rvr : RVR) : Bool := rvr.conditionReason "Ready" "AgentNotReady"
  let noQuorum := idsWhere fun id => voterRVR id fun rvr =>
    !agentNotReady rvr && rvr.quorum ≠ some true
  let notReady := idsWhere fun id => voterRVR id agentNotReady
  if (List.finRange 32).any fun id => voterRVR id fun rvr =>
      !agentNotReady rvr && rvr.quorum = some true then (true, "")
  else if noQuorum ≠ ∅ ∧ notReady ≠ ∅ then
    (false, "no quorum on [" ++ idSetString noQuorum ++ "]; agent not ready on [" ++
      idSetString notReady ++ "]")
  else if noQuorum ≠ ∅ then (false, "no quorum on [" ++ idSetString noQuorum ++ "]")
  else if notReady ≠ ∅ then (false, "agent not ready on [" ++ idSetString notReady ++ "]")
  else (false, "no voter members")

def guardQuorumSatisfied (g : GlobalContext) : GuardResult × GlobalContext :=
  let check := g.quorumCheck.getD (computeQuorumCheck g)
  (blockIf (!check.1) ("quorum not satisfied: " ++ check.2) (some "Pending"),
    { g with quorumCheck := some check })

def guardMaxAttachmentsAllowsMultiattach (g : GlobalContext) : GuardResult :=
  blockIf (g.maxAttachments ≤ 1) "maxAttachments is 1" none

def guardCanDisableMultiattach (g : GlobalContext) : GuardResult :=
  blockIf (1 < g.potentiallyAttached.card)
    (toString g.potentiallyAttached.card ++ " nodes potentially attached") none

def bitmapSectors (capacitySectors : ℕ) : ℕ :=
  let bits := alignTo (alignTo capacitySectors 8 / 8) 64
  alignTo (bits / 8 * 7) 4096 / 512

def metadataSectors (lowerSectors : ℕ) : ℕ := bitmapSectors lowerSectors + 8 + 64

/-- The fixpoint search of `LowerVolumeSize`; `none` when it does not converge. -/
def lowerSectorsFrom (usableSectors : ℕ) : ℕ → ℕ → Option ℕ
  | 0, _ => none
  | fuel + 1, lowerSectors =>
    let required := alignTo (usableSectors + metadataSectors lowerSectors) 8
    if required ≤ lowerSectors then some required
    else lowerSectorsFrom usableSectors fuel required

/-- The conversion of an unsigned 64-bit number to a signed one, and back. -/
def toInt64 (n : ℕ) : ℤ := (n : ℤ).bmod (2 ^ 64)

def toUInt64 (n : ℤ) : ℕ := (n % 2 ^ 64).toNat

/-- The number of bytes is converted to a signed one, as the quantity is made from it. -/
def lowerVolumeSize (usableSize : ℤ) : Option ℤ :=
  let usableSectors := toUInt64 usableSize / 512
  (lowerSectorsFrom usableSectors 10 usableSectors).map fun n => toInt64 (n * 512)

def usableSize (lowerSize : ℕ) : ℤ :=
  let lowerSectors := lowerSize / 512
  toInt64 ((lowerSectors + (2 ^ 64 - metadataSectors lowerSectors)) % 2 ^ 64 * 512)

def diskRVRs (g : GlobalContext) : List (ReplicaID × RVR) :=
  (List.finRange 32).filterMap fun id =>
    if (g.member id).any (·.type.hasBackingVolume) then (g.rvr id).map (id, ·) else none

def guardHasReadyDiskfulMember (g : GlobalContext) : GuardResult :=
  blockIf (!(diskRVRs g).any fun x => (x.2.condition "Ready").any (·.status = some true))
    "no ready diskful member" none

def ReplicationState.isSyncingState : ReplicationState → Bool
  | .syncSource | .syncTarget | .startingSyncSource | .startingSyncTarget | .pausedSyncSource
  | .pausedSyncTarget | .wfBitMapSource | .wfBitMapTarget | .wfSyncUUID => true
  | _ => false

def ReplicationState.toString : ReplicationState → String
  | .off => "Off"
  | .established => "Established"
  | .startingSyncSource => "StartingSyncS"
  | .startingSyncTarget => "StartingSyncT"
  | .wfBitMapSource => "WFBitMapS"
  | .wfBitMapTarget => "WFBitMapT"
  | .wfSyncUUID => "WFSyncUUID"
  | .syncSource => "SyncSource"
  | .syncTarget => "SyncTarget"
  | .pausedSyncSource => "PausedSyncS"
  | .pausedSyncTarget => "PausedSyncT"
  | .verifySource => "VerifyS"
  | .verifyTarget => "VerifyT"
  | .ahead => "Ahead"
  | .behind => "Behind"
  | .unknown => "Unknown"

def guardNoActiveResync (g : GlobalContext) : GuardResult :=
  match (diskRVRs g).findSome? fun x =>
      (x.2.peers.find? (·.replicationState.isSyncingState)).map (x.1, ·) with
  | none => .pass
  | some (id, peer) => .block ("replica " ++ g.displayName id ++ " has peer " ++
      g.displayName peer.id ++ " in state " ++ peer.replicationState.toString) none

/-- Blocks on the first disk that is not known to have grown. A size search
that does not converge panics. -/
def guardBackingVolumesGrown (g : GlobalContext) : Option GuardResult := do
  let target ← lowerVolumeSize (alignTo4Ki g.size)
  let problem := (diskRVRs g).findSome? fun x =>
    match x.2.backingVolume.bind (·.size) with
    | none => some ("backing volume size not yet reported on replica " ++ g.displayName x.1)
    | some size =>
      if (size : ℤ) < target then
        some ("backing volume on replica " ++ g.displayName x.1 ++ " not grown yet (" ++
          toString size ++ ", need >= " ++ toString target ++ ")")
      else none
  some (match problem with
    | none => .pass
    | some message => .block message none)

def guardNodesHaveAddedNetworks (_ : GlobalContext) : GuardResult := .pass

def guardRemainingNetworksConnected (g : GlobalContext) : GuardResult :=
  match g.rsp with
  | none => .block "waiting for ReplicatedStoragePool (needed to verify network connectivity)" none
  | some rsp =>
    let common := rsp.systemNetworkNames.filter (· ∈ g.systemNetworkNames)
    if common = [] then .block "no common system networks between datamesh and configuration" none
    else blockIf (!common.any fun net =>
        allMembersHaveFullConnectivity g 0 (peerConnectedOnNetwork net))
      ("no remaining network with full connectivity (checked " ++ toString common.length ++
        " networks)") none

def bracketed (names : List String) : String := "[" ++ " ".intercalate names ++ "]"

def networkMismatch (g : GlobalContext) (id : ReplicaID) : Option String := do
  let _ ← g.member id
  let rvr ← g.rvr id
  let missing := g.systemNetworkNames.filter fun net =>
    (findAddressByNetwork rvr.addresses net).isNone
  let extra := (rvr.addresses.map (·.systemNetworkName)).filter (· ∉ g.systemNetworkNames)
  if rvr.addresses = [] ∨ (missing = [] ∧ extra = []) then none
  else
    let parts := (if missing = [] then [] else ["missing: " ++ bracketed missing]) ++
      if extra = [] then [] else ["extra: " ++ bracketed extra]
    some ("replica " ++ g.displayName id ++ ": system networks out of sync (" ++
      ", ".intercalate parts ++ ")")

def guardReplicasMatchTargetNetworks (g : GlobalContext) : GuardResult :=
  if g.systemNetworkNames = [] then .pass
  else
    match (List.finRange 32).findSome? (networkMismatch g) with
    | none => .pass
    | some message => .block message none

end ReplicatedVolume.Datamesh
