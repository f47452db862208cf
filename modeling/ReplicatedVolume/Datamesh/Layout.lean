import ReplicatedVolume.Datamesh.Cycle

/-!
# The effective layout

The last step of `ProcessTransitions` counts the voters and tie-breakers that are there, reachable
and up to date. It runs after the write-back and reads the members through the pointers that the
replica contexts hold into the old member list.
-/

namespace ReplicatedVolume.Datamesh
open Dmte

structure EffectiveLayout where
  totalVoters : ℤ
  reachableVoters : ℤ
  upToDateVoters : ℤ
  totalTieBreakers : ℤ
  reachableTieBreakers : ℤ
  staleAgents : ℤ
  failuresToTolerate : Option ℤ
  guaranteedMinimumDataRedundancy : Option ℤ
  message : String
  deriving DecidableEq

def EffectiveLayout.zero : EffectiveLayout := ⟨0, 0, 0, 0, 0, 0, none, none, ""⟩

def int8 (n : ℤ) : ℤ := Int.bmod n 256

/-- The sets of the single pass over the contexts, from the type of the member
and the object of each replica. -/
structure LayoutSets where
  voters : Finset ReplicaID
  tbs : Finset ReplicaID
  ready : Finset ReplicaID
  quorumTrue : Finset ReplicaID
  diskUpToDate : Finset ReplicaID
  peerConnected : Finset ReplicaID
  peerUpToDate : Finset ReplicaID

def classify (type : ReplicaID → Option MemberType) (rvr : ReplicaID → Option RVR) : LayoutSets :=
  let voters := idsWhere fun id => (type id).any (·.isVoter) && (rvr id).isSome
  let tbs := idsWhere fun id => type id = some .tieBreaker && (rvr id).isSome
  let ready := idsWhere fun id => (id ∈ voters || id ∈ tbs) &&
    (rvr id).any fun rvr => isAgentReady rvr && rvr.quorum.isSome
  let reported (p : RVR → Bool) := idsWhere fun id => id ∈ ready && (rvr id).any p
  let seen (p : PeerStatus → Bool) := idsWhere fun id => (List.finRange 32).any fun from_ =>
    from_ ∈ ready && (rvr from_).any fun rvr => rvr.peers.any fun peer => peer.id = id && p peer
  { voters := voters
    tbs := tbs
    ready := ready
    quorumTrue := reported (·.quorum = some true)
    diskUpToDate := reported fun rvr => rvr.backingVolume.any (·.state = .upToDate)
    peerConnected := seen (·.connectionState = .connected)
    peerUpToDate := seen (·.backingVolumeState = .upToDate) }

namespace LayoutSets

def staleVoters (s : LayoutSets) : Finset ReplicaID := s.voters \ s.ready

def staleTBs (s : LayoutSets) : Finset ReplicaID := s.tbs \ s.ready

def reachableVoters (s : LayoutSets) : Finset ReplicaID :=
  (s.voters ∩ s.quorumTrue) ∪ (s.staleVoters ∩ s.peerConnected)

def upToDateVoters (s : LayoutSets) : Finset ReplicaID :=
  (s.voters ∩ s.diskUpToDate) ∪ (s.staleVoters ∩ s.peerUpToDate)

def reachableTBs (s : LayoutSets) : Finset ReplicaID := s.tbs ∩ (s.ready ∪ s.peerConnected)

end LayoutSets

def countOf (s : Finset ReplicaID) : ℤ := int8 s.card

def staleNote (s : Finset ReplicaID) : String :=
  if s = ∅ then "" else " (" ++ toString s.card ++ " stale [" ++ idSetString s ++ "])"

def effectiveLayoutMessage (s : LayoutSets) (ftt gmdr : Option ℤ) : String :=
  let of_ (part total : Finset ReplicaID) := toString (countOf part) ++ "/" ++ toString (countOf total)
  (if 0 < countOf s.voters then
    of_ s.reachableVoters s.voters ++ " voters reachable" ++ staleNote s.staleVoters ++ ", " ++
      of_ s.upToDateVoters s.voters ++ " UpToDate"
  else "No voters") ++
  (if 0 < countOf s.tbs then
    ", " ++ of_ s.reachableTBs s.tbs ++ " TB reachable" ++ staleNote s.staleTBs
  else "") ++
  match ftt, gmdr with
  | some ftt, some gmdr => "; FTT=" ++ toString ftt ++ ", GMDR=" ++ toString gmdr
  | _, _ =>
    if countOf s.voters = 0 then "; FTT and GMDR unavailable: no voter members"
    else "; FTT and GMDR unavailable: no fresh agent data"

def layoutOf (q qmr : ℕ) (s : LayoutSets) : EffectiveLayout :=
  let reachableD := countOf s.reachableVoters
  let upToDateD := countOf s.upToDateVoters
  let reachableTB := countOf s.reachableTBs
  let canCompute : Bool := s.voters ≠ ∅ && s.ready ≠ ∅
  let tbBonus : ℤ := if reachableD % 2 = 0 ∧ 0 < reachableTB then 1 else 0
  let ftt := if canCompute then
    some (min (int8 (reachableD - int8 q + tbBonus)) (int8 (upToDateD - int8 qmr))) else none
  let gmdr := if canCompute then some (int8 (min upToDateD (int8 qmr) - 1)) else none
  { totalVoters := countOf s.voters
    reachableVoters := reachableD
    upToDateVoters := upToDateD
    totalTieBreakers := countOf s.tbs
    reachableTieBreakers := reachableTB
    staleAgents := int8 (s.staleVoters.card + s.staleTBs.card)
    failuresToTolerate := ftt
    guaranteedMinimumDataRedundancy := gmdr
    message := effectiveLayoutMessage s ftt gmdr }

/-- The member that the pointer of a context denotes after the write-back. The
compacted list and the members appended to it reuse the array of the old list,
so a pointer to place `i` reads what was written there; behind the end of the
new list the old entry is still in place. -/
def pointedMember (written : List DatameshMember) (g : GlobalContext) (id : ReplicaID) :
    Option DatameshMember :=
  (g.member id).map fun m => ((g.replicas id).memberIdx.bind (written[·]?)).getD m

def updateEffectiveLayout (written : List DatameshMember) (g : GlobalContext)
    (el : EffectiveLayout) : EffectiveLayout × Bool :=
  let el' := layoutOf g.quorum g.quorumMinimumRedundancy
    (classify (fun id => (pointedMember written g id).map (·.type)) g.rvr)
  (el', el' != el)

structure VolumeResult where
  cycle : CycleResult
  layout : EffectiveLayout
  changed : Bool

def processVolume (obs : Observation) (st : Status) (el : EffectiveLayout) :
    Option VolumeResult :=
  if st.transitions.all trackable then do
    let (e, zonesChanged) := startCycle obs st
    let (e, changed) ← process domain e
    let r := finishCycle obs st e changed zonesChanged
    let (el', layoutChanged) := updateEffectiveLayout r.status.members e.global el
    some ⟨r, el', r.changed || layoutChanged⟩
  else none

end ReplicatedVolume.Datamesh
