import ReplicatedVolume.Datamesh.Context

/-!
# The concurrency tracker

The tracker is a set of flags and id sets in the global context. It is filled
from the members and the persisted transitions at the start of a cycle, and
follows every creation and deletion inside it. Admission reads nothing else.
-/

namespace ReplicatedVolume.Datamesh
open Dmte

def newConcurrencyTracker (g : GlobalContext) : GlobalContext :=
  { g with potentiallyAttached := Finset.univ.filter fun id =>
      (g.member id).any (·.attached) = true }

def isDiskGainingTransition (t : Transition) : Bool :=
  match t.type with
  | .addReplica => t.replicaType = some .diskful || t.replicaType = some .shadowDiskful
  | .changeReplicaType => t.toReplicaType = some .diskful || t.toReplicaType = some .shadowDiskful
  | _ => false

/-- The groups whose bookkeeping needs a replica id; `ReplicaID` panics on a
transition of such a group without a replica name. -/
def TransitionGroup.ofReplica : TransitionGroup → Bool
  | .votingMembership | .nonVotingMembership | .attachment | .emergency => true
  | _ => false

def trackable (t : Transition) : Bool := !TransitionGroup.ofReplica t.group || t.replica.isSome

def idOf (t : Transition) : Finset ReplicaID := t.replica.toFinset

def diskGainingIDs (t : Transition) : Finset ReplicaID :=
  if isDiskGainingTransition t then idOf t else ∅

def trackerAdd (g : GlobalContext) (t : Transition) : GlobalContext :=
  match t.group with
  | .formation => { g with hasFormationTransition := true }
  | .quorum => { g with hasQuorumTransition := true }
  | .multiattach => { g with hasMultiattachTransition := true }
  | .network =>
    { g with
      hasNetworkTransition := true
      changeSystemNetworksTransition :=
        if t.type = .changeSystemNetworks then some t else g.changeSystemNetworksTransition }
  | .resize => { g with hasResizeTransition := true }
  | .votingMembership =>
    { g with
      votingMembershipTransitions := g.votingMembershipTransitions ∪ idOf t
      diskGainingMembershipTransitions := g.diskGainingMembershipTransitions ∪ diskGainingIDs t }
  | .nonVotingMembership =>
    { g with
      nonVotingMembershipTransitions := g.nonVotingMembershipTransitions ∪ idOf t
      diskGainingMembershipTransitions := g.diskGainingMembershipTransitions ∪ diskGainingIDs t }
  | .attachment =>
    { g with
      attachmentTransitions := g.attachmentTransitions ∪ idOf t
      potentiallyAttached := g.potentiallyAttached ∪ idOf t }
  | .emergency => { g with emergencyTransitions := g.emergencyTransitions ∪ idOf t }

def trackerRemove (g : GlobalContext) (t : Transition) : GlobalContext :=
  match t.group with
  | .formation => { g with hasFormationTransition := false }
  | .quorum => { g with hasQuorumTransition := false }
  | .multiattach => { g with hasMultiattachTransition := false }
  | .network => { g with hasNetworkTransition := false, changeSystemNetworksTransition := none }
  | .resize => { g with hasResizeTransition := false }
  | .votingMembership =>
    { g with
      votingMembershipTransitions := g.votingMembershipTransitions \ idOf t
      diskGainingMembershipTransitions := g.diskGainingMembershipTransitions \ diskGainingIDs t }
  | .nonVotingMembership =>
    { g with
      nonVotingMembershipTransitions := g.nonVotingMembershipTransitions \ idOf t
      diskGainingMembershipTransitions := g.diskGainingMembershipTransitions \ diskGainingIDs t }
  | .attachment =>
    { g with
      attachmentTransitions := g.attachmentTransitions \ idOf t
      potentiallyAttached :=
        if t.type = .detach then g.potentiallyAttached \ idOf t else g.potentiallyAttached }
  | .emergency => { g with emergencyTransitions := g.emergencyTransitions \ idOf t }

def allow : Admission := ⟨true, "", none⟩

def refuse (message : String) : Admission := ⟨false, message, none⟩

/-- The per-replica half of admission: one membership and one attachment
transition for each replica. -/
def admitReplica (g : GlobalContext) (t : Transition) : Admission :=
  match t.replica with
  | none => allow
  | some id =>
    if (t.group = .votingMembership ∨ t.group = .nonVotingMembership) ∧
        (id ∈ g.votingMembershipTransitions ∨ id ∈ g.nonVotingMembershipTransitions) then
      refuse "membership transition in progress for this replica"
    else if t.group = .attachment ∧ id ∈ g.attachmentTransitions then
      ⟨false, "attachment transition in progress for this replica", some "Pending"⟩
    else allow

def admitGroup (g : GlobalContext) (t : Transition) : Admission :=
  match t.group with
  | .votingMembership =>
    if g.votingMembershipTransitions ≠ ∅ then refuse "voting membership transition in progress"
    else if g.hasQuorumTransition then refuse "quorum change in progress"
    else if g.hasNetworkTransition then refuse "network transition in progress"
    else if isDiskGainingTransition t && g.hasResizeTransition then refuse "resize in progress"
    else allow
  | .nonVotingMembership =>
    if isDiskGainingTransition t && g.hasResizeTransition then refuse "resize in progress"
    else allow
  | .quorum =>
    if g.hasQuorumTransition then refuse "quorum change in progress"
    else if g.votingMembershipTransitions ≠ ∅ then
      refuse "voting membership transition in progress"
    else if g.hasNetworkTransition then refuse "network transition in progress"
    else allow
  | .attachment =>
    if g.potentiallyAttached \ idOf t ≠ ∅ ∧
        (g.multiattach = false ∨ g.hasMultiattachTransition = true) then
      ⟨false, "waiting for multiattach to be enabled", some "Attaching"⟩
    else allow
  | .multiattach =>
    if g.hasMultiattachTransition then refuse "multiattach transition in progress" else allow
  | .resize =>
    if g.hasResizeTransition then refuse "resize in progress"
    else if g.diskGainingMembershipTransitions ≠ ∅ then
      refuse "disk-gaining membership transition in progress"
    else allow
  | .network => if g.hasNetworkTransition then refuse "network transition in progress" else allow
  | .formation | .emergency => allow

def canAdmit (g : GlobalContext) (t : Transition) : Admission :=
  if g.hasFormationTransition = true ∧ t.group ≠ .network then
    ⟨false, "formation in progress", if t.group = .attachment then some "Pending" else none⟩
  else if t.group = .emergency then allow
  else
    let byReplica := admitReplica g t
    if byReplica.allowed then admitGroup g t else byReplica

end ReplicatedVolume.Datamesh
