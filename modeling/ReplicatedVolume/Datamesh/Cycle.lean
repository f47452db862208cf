import ReplicatedVolume.Datamesh.Dispatch

/-!
# One cycle and runs of cycles

`processTransitions` is one reconciliation of the datamesh; one that panics has no result. A run
feeds each cycle the status its predecessor left, under an arbitrary new observation.
-/

namespace ReplicatedVolume.Datamesh
open Dmte

def updateMemberZonesFromRSP (g : GlobalContext) : GlobalContext × Bool :=
  let zone (rc : ReplicaContext) (m : DatameshMember) : String :=
    ((getEligibleNode g rc).map (·.zoneName)).getD m.zone
  ({ g with replicas := fun id =>
      let rc := g.replicas id
      { rc with member := rc.member.map fun m => { m with zone := zone rc m } } },
    (List.finRange 32).any fun id =>
      (g.member id).any fun m => zone (g.replicas id) m != m.zone)

def indexedMember (g : GlobalContext) (id : ReplicaID) : Option DatameshMember :=
  if g.indexed id then g.member id else none

/-- Members still at their place in the persisted list keep their order; the
others follow by id. -/
def writebackMembersFromContexts (members : List DatameshMember) (g : GlobalContext) :
    List DatameshMember :=
  let surviving := members.zipIdx.filterMap fun x =>
    if (g.replicas x.1.id).memberIdx = some x.2 then indexedMember g x.1.id else none
  surviving ++ ((List.finRange 32).filterMap (indexedMember g)).filter fun m =>
    m.id ∉ surviving.map (·.id)

def writebackRequestMessagesFromContexts (requests : List ReplicaRequest) (g : GlobalContext) :
    List ReplicaRequest :=
  requests.map fun req =>
    let rc := g.replicas req.id
    if g.indexed req.id ∧ rc.membershipRequest = some req then
      { req with message := rc.membershipMessage } else req

structure CycleResult where
  changed : Bool
  status : Status
  requests : List ReplicaRequest
  log : List (Event GlobalContext)

def startCycle (obs : Observation) (st : Status) : Engine GlobalContext × Bool :=
  let (g, zonesChanged) := updateMemberZonesFromRSP (buildContexts st obs)
  (newEngine domain (newConcurrencyTracker g) st.datameshRevision st.transitions, zonesChanged)

def finishCycle (obs : Observation) (st : Status) (e : Engine GlobalContext)
    (changed zonesChanged : Bool) : CycleResult :=
  let g := e.global
  let st := { st with datameshRevision := e.revision, transitions := finalize e }
  let st := if changed || zonesChanged then
    { st with members := writebackMembersFromContexts st.members g } else st
  let st := if changed then
    { st with
      quorum := g.quorum
      quorumMinimumRedundancy := g.quorumMinimumRedundancy
      multiattach := g.multiattach
      systemNetworkNames := g.systemNetworkNames
      size := g.datameshSize
      baselineGMDR := g.baselineGMDR } else st
  let requests := writebackRequestMessagesFromContexts obs.requests g
  ⟨changed || zonesChanged || requests != obs.requests, st, requests, e.log⟩

def processTransitions (obs : Observation) (st : Status) : Option CycleResult :=
  if st.transitions.all trackable then do
    let (e, zonesChanged) := startCycle obs st
    let (e, changed) ← process domain e
    some (finishCycle obs st e changed zonesChanged)
  else none

/-- The results of a run, the last cycle first; `none` when a cycle panics. -/
def run (st : Status) : List Observation → Option (List CycleResult)
  | [] => some []
  | obs :: earlier => do
      let results ← run st earlier
      let current := (results.head?.map (·.status)).getD st
      let result ← processTransitions obs current
      some (result :: results)

end ReplicatedVolume.Datamesh
