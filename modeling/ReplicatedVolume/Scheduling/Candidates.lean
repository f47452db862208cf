import ReplicatedVolume.Api

/-!
# The candidates of a storage pool

The nodes that a storage pool is eligible on, with their volume groups, and the candidates that
the scheduler takes from them.
-/

namespace ReplicatedVolume.Scheduling

inductive PoolType where
  | lvm | lvmThin
  deriving DecidableEq

structure EligibleLVG where
  name : String
  thinPoolName : String
  unschedulable : Bool
  ready : Bool
  deriving DecidableEq

structure EligibleNode where
  nodeName : String
  zoneName : String
  lvmVolumeGroups : List EligibleLVG
  unschedulable : Bool
  nodeReady : Bool
  agentReady : Bool
  deriving DecidableEq

/-- A node, for a replica with a disk one of its volume groups, and the score so far.
The scores of the extender, 0 to 10, and the bonuses fit the `int` of the source. -/
structure CandidateEntry where
  node : EligibleNode
  lvg : Option EligibleLVG
  score : ℤ
  deriving DecidableEq

def CandidateEntry.lvgName (c : CandidateEntry) : String := (c.lvg.map (·.name)).getD ""

/-- The thin pool of a candidate is set unless its name is empty, which reads as the name. -/
def CandidateEntry.thinPoolName (c : CandidateEntry) : String :=
  (c.lvg.map (·.thinPoolName)).getD ""

def takeLVGsFromEligibleNodes (nodes : List EligibleNode) : List CandidateEntry :=
  nodes.flatMap fun node => node.lvmVolumeGroups.map fun lvg => ⟨node, some lvg, 0⟩

def takeOnlyNodesFromEligibleNodes (nodes : List EligibleNode) : List CandidateEntry :=
  nodes.map fun node => ⟨node, none, 0⟩

end ReplicatedVolume.Scheduling
