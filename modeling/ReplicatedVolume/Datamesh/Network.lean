import ReplicatedVolume.Datamesh.Callbacks

/-!
# Network callbacks

Addresses and system networks of the members, and the connectivity checks on
what replicas report about their peers. A connection counts as verified when
one of its two sides, with a ready agent and at a recent enough revision,
reports it.
-/

namespace ReplicatedVolume.Datamesh
open Dmte

def findAddressByNetwork (addrs : List Address) (network : String) : Option Address :=
  addrs.find? (·.systemNetworkName = network)

def setSystemNetworks (g : GlobalContext) (t : Transition) : Option Transition := do
  let rsp ← g.rsp
  some { t with
    fromSystemNetworkNames := g.systemNetworkNames
    toSystemNetworkNames := rsp.systemNetworkNames }

def addedNetworks (g : GlobalContext) : List String :=
  match g.changeSystemNetworksTransition with
  | none => []
  | some t => t.toSystemNetworkNames.filter (· ∉ t.fromSystemNetworkNames)

def removedNetworks (g : GlobalContext) : List String :=
  match g.changeSystemNetworksTransition with
  | none => []
  | some t => t.fromSystemNetworkNames.filter (· ∉ t.toSystemNetworkNames)

/-- Rewrite the addresses of every member; the flag tells whether one changed. -/
def mapAddresses (f : ReplicaContext → DatameshMember → List Address) (g : GlobalContext) :
    GlobalContext × Bool :=
  ({ g with replicas := fun id =>
      let rc := g.replicas id
      { rc with member := rc.member.map fun m => { m with addresses := f rc m } } },
    (List.finRange 32).any fun id =>
      (g.member id).any fun m => f (g.replicas id) m != m.addresses)

def repairAddresses (g : GlobalContext) : GlobalContext × Bool :=
  mapAddresses (fun rc m =>
    match rc.rvr with
    | none => m.addresses
    | some rvr => g.systemNetworkNames.filterMap (findAddressByNetwork rvr.addresses)) g

def addNewNetworks (g : GlobalContext) : GlobalContext × Bool :=
  let names := (addedNetworks g).foldl
    (fun names net => if net ∈ names then names else names ++ [net]) g.systemNetworkNames
  ({ g with systemNetworkNames := names }, names != g.systemNetworkNames)

def removeOldNetworksAndAddresses (g : GlobalContext) : GlobalContext × Bool :=
  let removed := removedNetworks g
  let names := g.systemNetworkNames.filter (· ∉ removed)
  let (g', addressesChanged) := mapAddresses
    (fun _ m => m.addresses.filter (·.systemNetworkName ∉ removed)) g
  ({ g' with systemNetworkNames := names }, names != g.systemNetworkNames || addressesChanged)

def putAddress (rvrAddrs : List Address) (addrs : List Address) (network : String) :
    List Address :=
  match findAddressByNetwork rvrAddrs network with
  | none => addrs
  | some ra =>
    match addrs.findIdx? (·.systemNetworkName = network) with
    | some n => addrs.set n { ra with systemNetworkName := network }
    | none => addrs ++ [ra]

def addNewAddresses (g : GlobalContext) : GlobalContext × Bool :=
  mapAddresses (fun rc m =>
    match rc.rvr with
    | none => m.addresses
    | some rvr => (addedNetworks g).foldl (putAddress rvr.addresses) m.addresses) g

def needsAddressRepair (g : GlobalContext) : Bool :=
  (List.finRange 32).any fun id =>
    match g.member id, g.rvr id with
    | some m, some rvr =>
      let reported := g.systemNetworkNames.filterMap (findAddressByNetwork rvr.addresses)
      reported.any (fun ra =>
        (findAddressByNetwork m.addresses ra.systemNetworkName).all fun ma =>
          ma.ipv4 != ra.ipv4 || ma.port != ra.port) ||
        m.addresses.length != reported.length
    | _, _ => false

abbrev PeerCheck := RVR → ReplicaID → Bool

def peerConnected : PeerCheck := fun rvr peerID =>
  (rvr.peers.find? (·.id = peerID)).any (·.connectionState = .connected)

def peerConnectedOnNetwork (network : String) : PeerCheck := fun rvr peerID =>
  (rvr.peers.find? (·.id = peerID)).any (network ∈ ·.connectionEstablishedOn)

def expectedPeerIDs (type : MemberType) (id : ReplicaID) (allMembers fmMembers : Finset ReplicaID) :
    Finset ReplicaID :=
  if type.connectsToAllPeers then allMembers \ {id} else fmMembers \ {id}

def sideVerifies (check : PeerCheck) (minRevision : ℕ) (rvr : Option RVR) (peerID : ReplicaID) :
    Bool :=
  rvr.any fun rvr => isAgentReady rvr && minRevision ≤ rvr.datameshRevision && check rvr peerID

def peerConnectionVerified (a b : Option RVR) (aID bID : ReplicaID) (minRevision : ℕ)
    (check : PeerCheck) : Bool :=
  sideVerifies check minRevision a bID || sideVerifies check minRevision b aID

def allConnectionsOfMemberVerified (g : GlobalContext) (id : ReplicaID) (m : DatameshMember)
    (minRevision : ℕ) (check : PeerCheck) : Bool :=
  let expected := expectedPeerIDs m.type id (allMemberIDs g) (fullMeshMemberIDs g)
  (List.finRange 32).all fun peerID => !(peerID ∈ expected) ||
    (g.indexed peerID &&
      peerConnectionVerified (g.rvr id) (g.rvr peerID) id peerID minRevision check)

def allMembersHaveFullConnectivity (g : GlobalContext) (minRevision : ℕ) (check : PeerCheck) :
    Bool :=
  (List.finRange 32).all fun id => (g.member id).all fun m =>
    allConnectionsOfMemberVerified g id m minRevision check

def confirmMembersWhere (ok : ReplicaID → Bool) (g : GlobalContext) (stepRevision : ℕ) :
    ConfirmResult :=
  ⟨allMemberIDs g, (confirmedReplicas g stepRevision ∩ allMemberIDs g).filter fun id =>
    (g.indexed id && ok id) = true⟩

def confirmAllConnected (g : GlobalContext) (stepRevision : ℕ) : ConfirmResult :=
  confirmMembersWhere (fun id => (g.member id).any fun m =>
    allConnectionsOfMemberVerified g id m stepRevision peerConnected) g stepRevision

def confirmAddedAddressesAvailable (g : GlobalContext) (stepRevision : ℕ) : ConfirmResult :=
  confirmMembersWhere (fun id => (g.rvr id).any fun rvr =>
    (addedNetworks g).all fun net => (findAddressByNetwork rvr.addresses net).isSome)
    g stepRevision

def confirmAllConnectedOnAddedNetworks (g : GlobalContext) (stepRevision : ℕ) : ConfirmResult :=
  confirmMembersWhere (fun id => (g.member id).any fun m => (addedNetworks g).all fun net =>
    allConnectionsOfMemberVerified g id m stepRevision (peerConnectedOnNetwork net))
    g stepRevision

def tieBreakerDefect (displayName : ReplicaID → String) (tb : Option RVR)
    (peers : List (ReplicaID × Option RVR)) (datameshRevision : ℕ) : Option String :=
  match tb with
  | none => some "replica object is gone"
  | some tb =>
    if tb.deleting then some "replica is terminating"
    else if tb.datameshRevision < datameshRevision then
      some ("datamesh revision " ++ toString tb.datameshRevision ++ " applied, want " ++
        toString datameshRevision)
    else if !(tb.condition "DRBDConfigured").any (fun c =>
        c.status = some true && c.observedGeneration = tb.generation) then
      some "DRBD is not configured"
    else
      (peers.find? fun peer => peer.1 ≠ tb.id &&
        !peerConnectionVerified (some tb) peer.2 tb.id peer.1 datameshRevision
          peerConnected).map fun peer =>
        "connection to " ++ displayName peer.1 ++ " is not confirmed"

/-- `isTieBreakerOperational`: the peers are the expected ones, in id order. -/
def memberTieBreakerDefect (g : GlobalContext) (id : ReplicaID) (m : DatameshMember) :
    Option String :=
  let expected := expectedPeerIDs m.type id (allMemberIDs g) (fullMeshMemberIDs g)
  let peers := ((List.finRange 32).filter (· ∈ expected)).map fun peerID =>
    (peerID, if g.indexed peerID then g.rvr peerID else none)
  tieBreakerDefect
    (fun peerID => if g.indexed peerID && (g.replicas peerID).named then g.displayName peerID
      else "replica " ++ toString peerID.val)
    (g.rvr id) peers g.datameshRevision

end ReplicatedVolume.Datamesh
