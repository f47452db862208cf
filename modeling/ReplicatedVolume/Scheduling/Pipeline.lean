import ReplicatedVolume.Datamesh.Context
import ReplicatedVolume.Scheduling.Candidates

/-!
# The scheduling of one replica

Predicates filter the candidates while they are iterated, the scorings collect them first, and the
best candidate that is left is the placement. The zones to prefer are read off all replicas that
have a node, the one to be placed among them.
-/

namespace ReplicatedVolume.Scheduling
open Datamesh (Configuration Topology VolumeAccess intendedDiskfulCount)

structure ReplicaSpec where
  id : ReplicaID
  type : ReplicaType
  nodeName : String
  lvmVolumeGroupName : String
  lvmVolumeGroupThinPoolName : String
  deriving DecidableEq

def isReplicaScheduled (rvr : ReplicaSpec) (poolType : PoolType) : Bool :=
  match rvr.type with
  | .tieBreaker => true
  | .access => false
  | _ => rvr.lvmVolumeGroupName ≠ "" &&
    match poolType with
    | .lvmThin => rvr.lvmVolumeGroupThinPoolName ≠ ""
    | .lvm => rvr.lvmVolumeGroupThinPoolName = ""

/-- Keyed by the zone; a Go map is iterated in any order, and no result below depends on it. -/
abbrev ReplicasByZone := List (String × Finset ReplicaID)

def addToZone (zone : String) (id : ReplicaID) : ReplicasByZone → ReplicasByZone
  | [] => [(zone, {id})]
  | p :: zones =>
    if p.1 = zone then (p.1, insert id p.2) :: zones else p :: addToZone zone id zones

def addReplica (eligibleNodes : List EligibleNode) (zones : ReplicasByZone) (rvr : ReplicaSpec) :
    ReplicasByZone :=
  if rvr.nodeName = "" then zones
  else match eligibleNodes.find? (·.nodeName = rvr.nodeName) with
    | none => zones
    | some node => addToZone node.zoneName rvr.id zones

def computeReplicasByZone (eligibleNodes : List EligibleNode) (rvrs : List ReplicaSpec) :
    ReplicasByZone :=
  rvrs.foldl (addReplica eligibleNodes) ((eligibleNodes.map (·.zoneName)).dedup.map (·, ∅))

/-- The parts of the context that the placement of one replica reads. -/
structure SchedulingContext where
  eligibleNodes : List EligibleNode
  occupiedNodes : List String
  attachToNodes : List String
  topology : Topology
  replicasByZone : ReplicasByZone
  failuresToTolerate : ℕ
  guaranteedMinimumDataRedundancy : ℕ
  volumeAccess : VolumeAccess
  diskful : Finset ReplicaID
  tieBreaker : Finset ReplicaID
  scheduled : Finset ReplicaID

def computeSchedulingContext (c : Configuration) (poolType : PoolType) (nodes : List EligibleNode)
    (rvrs : List ReplicaSpec) (attachToNodes : List String) : SchedulingContext :=
  let eligibleNodes := nodes.insertionSort (·.nodeName ≤ ·.nodeName)
  let ids (keep : ReplicaSpec → Bool) := ((rvrs.filter keep).map (·.id)).toFinset
  { eligibleNodes
    occupiedNodes := (rvrs.map (·.nodeName)).filter (· ≠ "")
    attachToNodes
    topology := c.topology
    replicasByZone := computeReplicasByZone eligibleNodes rvrs
    failuresToTolerate := c.failuresToTolerate
    guaranteedMinimumDataRedundancy := c.guaranteedMinimumDataRedundancy
    volumeAccess := c.volumeAccess
    diskful := ids (·.type = .diskful)
    tieBreaker := ids (·.type = .tieBreaker)
    scheduled := ids fun rvr => rvr.nodeName ≠ "" && isReplicaScheduled rvr poolType }

def SchedulingContext.update (sctx : SchedulingContext) (id : ReplicaID) (entry : CandidateEntry) :
    SchedulingContext :=
  { sctx with
    occupiedNodes := entry.node.nodeName :: sctx.occupiedNodes
    scheduled := insert id sctx.scheduled
    replicasByZone := addToZone entry.node.zoneName id sctx.replicasByZone }

def bestReplicas (zones : ReplicasByZone)
    (cmp : Finset ReplicaID → Finset ReplicaID → Ordering) : Option (Finset ReplicaID) :=
  zones.foldl (fun best p => match best with
    | none => some p.2
    | some b => if cmp p.2 b = .gt then some p.2 else some b) none

def computePreferredZones (zones : ReplicasByZone)
    (cmp : Finset ReplicaID → Finset ReplicaID → Ordering) : List String :=
  match bestReplicas zones cmp with
  | none => []
  | some best => (zones.filter fun p => cmp p.2 best = .eq).map (·.1)

def zonalCompare (sctx : SchedulingContext) (a b : Finset ReplicaID) : Ordering :=
  compare (a ∩ sctx.diskful).card (b ∩ sctx.diskful).card

def transZonalCompare (sctx : SchedulingContext) (isDiskful : Bool) (a b : Finset ReplicaID) :
    Ordering :=
  if isDiskful then (compare (a ∩ sctx.diskful).card (b ∩ sctx.diskful).card).swap
  else
    let allReplicas := sctx.diskful ∪ sctx.tieBreaker
    (compare (a ∩ allReplicas).card (b ∩ allReplicas).card).swap.then
      (compare (a ∩ sctx.tieBreaker).card (b ∩ sctx.tieBreaker).card).swap

/-- What the last eager stage holds, and the predicates that the next iteration applies. Every
pipeline is iterated once, by the next eager stage or by the selection. -/
structure Pipeline where
  entries : List CandidateEntry
  pending : List (CandidateEntry → Option CandidateEntry)

def Pipeline.seq (p : Pipeline) : List CandidateEntry :=
  p.entries.filterMap fun e => p.pending.foldlM (fun e fn => fn e) e

def withPredicate (p : Pipeline) (fn : CandidateEntry → Option CandidateEntry) : Pipeline :=
  { p with pending := p.pending ++ [fn] }

def nodeIsReady (e : CandidateEntry) : Bool :=
  !e.node.unschedulable && e.node.nodeReady && e.node.agentReady

def lvgIsReady (e : CandidateEntry) : Bool := e.lvg.all fun lvg => !lvg.unschedulable && lvg.ready

def nodeIsOpen (sctx : SchedulingContext) (rvr : ReplicaSpec) (e : CandidateEntry) : Bool :=
  if rvr.nodeName = "" then e.node.nodeName ∉ sctx.occupiedNodes
  else e.node.nodeName = rvr.nodeName

def preferredZones (sctx : SchedulingContext) (rvr : ReplicaSpec) : List String :=
  match sctx.topology with
  | .zonal => computePreferredZones sctx.replicasByZone (zonalCompare sctx)
  | .transZonal =>
    computePreferredZones sctx.replicasByZone (transZonalCompare sctx (rvr.type = .diskful))
  | .ignored => sctx.replicasByZone.map (·.1)

def zoneIsOpen (sctx : SchedulingContext) (rvr : ReplicaSpec) (e : CandidateEntry) : Bool :=
  (preferredZones sctx rvr).length < sctx.replicasByZone.length →
    e.node.zoneName ∈ preferredZones sctx rvr

def admittedPipeline (sctx : SchedulingContext) (rvr : ReplicaSpec) : Pipeline :=
  let p : Pipeline := if rvr.type = .diskful then ⟨takeLVGsFromEligibleNodes sctx.eligibleNodes, []⟩
    else ⟨takeOnlyNodesFromEligibleNodes sctx.eligibleNodes, []⟩
  let p := withPredicate p (Option.guard nodeIsReady)
  let p := if rvr.type = .diskful then withPredicate p (Option.guard lvgIsReady) else p
  let p := withPredicate p (Option.guard (nodeIsOpen sctx rvr))
  withPredicate p (Option.guard (zoneIsOpen sctx rvr))

/-- A volume group with its thin pool, in the order that both sides of the join are sorted by. -/
abbrev LVGKey := String ×ₗ String

def CandidateEntry.key (e : CandidateEntry) : LVGKey := toLex (e.lvgName, e.thinPoolName)

structure ScoredLVG where
  key : LVGKey
  score : ℤ

structure Extender where
  filterAndScore : List LVGKey → Option (List ScoredLVG)
  narrowReservation : LVGKey → Bool

/-- The loop over the answers; its inner loop moves the cursor past the smaller entries. -/
def joinScores (entries : List CandidateEntry) : List ScoredLVG → List CandidateEntry
  | [] => []
  | s :: scored =>
    match entries.dropWhile (·.key < s.key) with
    | [] => joinScores [] scored
    | e :: rest =>
      if e.key = s.key then
        if 0 < s.score then { e with score := s.score } :: joinScores rest scored
        else joinScores rest scored
      else joinScores (e :: rest) scored

def filteredAndScored (p : Pipeline) (ext : Extender) : Option Pipeline :=
  let entries := p.seq
  let queries := entries.filterMap fun e => e.lvg.map fun _ => e.key
  if queries = [] then some ⟨[], []⟩
  else (ext.filterAndScore queries).map fun scored =>
    ⟨joinScores (entries.insertionSort (·.key ≤ ·.key)) (scored.insertionSort (·.key ≤ ·.key)), []⟩

def CandidateEntry.bump (n : ℤ) (e : CandidateEntry) : CandidateEntry :=
  { e with score := e.score + n }

def groupKeys (keyFn : CandidateEntry → String) (all : List CandidateEntry) : List String :=
  (all.map keyFn).reverse.dedup.reverse

def scoreGroup (keyFn : CandidateEntry → String) (scoreFn : List CandidateEntry → ℤ)
    (all : List CandidateEntry) (key : String) : List CandidateEntry :=
  all.map fun e =>
    if keyFn e = key then e.bump (scoreFn (all.filter (keyFn · = key))) else e

def withGroupScore (p : Pipeline) (keyFn : CandidateEntry → String)
    (scoreFn : List CandidateEntry → ℤ) : Pipeline :=
  ⟨(groupKeys keyFn p.seq).foldl (scoreGroup keyFn scoreFn) p.seq, []⟩

def withZoneScore (p : Pipeline) := withGroupScore p (·.node.zoneName)

def withNodeScore (p : Pipeline) := withGroupScore p (·.node.nodeName)

def isBetter (a b : CandidateEntry) : Bool :=
  if a.score ≠ b.score then b.score < a.score
  else if a.node.nodeName ≠ b.node.nodeName then a.node.nodeName < b.node.nodeName
  else a.lvgName < b.lvgName

def selectBest (p : Pipeline) : Option CandidateEntry :=
  p.seq.foldl (fun best e => match best with
    | none => some e
    | some b => if isBetter e b then some e else some b) none

def attachBonus (sctx : SchedulingContext) (e : CandidateEntry) : CandidateEntry :=
  if e.node.nodeName ∈ sctx.attachToNodes then e.bump 1000 else e

def multiLVGBonus (group : List CandidateEntry) : ℤ := if 1 < group.length then 2 else 0

def remainingDemand (sctx : SchedulingContext) : ℕ :=
  intendedDiskfulCount sctx.failuresToTolerate sctx.guaranteedMinimumDataRedundancy -
    (sctx.scheduled ∩ sctx.diskful).card

def zonePenalty (sctx : SchedulingContext) (group : List CandidateEntry) : ℤ :=
  if (group.map (·.node.nodeName)).toFinset.card < remainingDemand sctx then -800 else 0

def adjustScores (sctx : SchedulingContext) (p : Pipeline) : Pipeline :=
  let p := if sctx.attachToNodes ≠ [] then withPredicate p (some ∘ attachBonus sctx) else p
  let p := if sctx.volumeAccess ≠ .any then withNodeScore p multiLVGBonus else p
  if sctx.topology = .zonal ∧ 0 < remainingDemand sctx then withZoneScore p (zonePenalty sctx)
  else p

inductive SchedulingOutcome where
  | extenderUnavailable (message : String)
  | schedulingFailed
  | placed (best : CandidateEntry)
  deriving DecidableEq

def unconfirmed : SchedulingOutcome := .extenderUnavailable
  "Scheduling is temporarily unavailable: failed to confirm capacity reservation"

def reconcileOneRVRScheduling (ext : Extender) (sctx : SchedulingContext) (rvr : ReplicaSpec) :
    SchedulingOutcome :=
  if rvr.type = .diskful then
    match filteredAndScored (admittedPipeline sctx rvr) ext with
    | none => .extenderUnavailable
        "Scheduling is temporarily unavailable: capacity scoring service is unreachable"
    | some p =>
      match selectBest (adjustScores sctx p) with
      | none => .schedulingFailed
      | some best => if ext.narrowReservation best.key then .placed best else unconfirmed
  else match selectBest (admittedPipeline sctx rvr) with
    | none => .schedulingFailed
    | some best => .placed best

end ReplicatedVolume.Scheduling
