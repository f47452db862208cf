import ReplicatedVolume.Safety.SplitBrain
import ReplicatedVolume.Safety.Reporting
import ReplicatedVolume.Safety.DiskLimit
import ReplicatedVolume.Safety.Tolerance
import ReplicatedVolume.Safety.Addresses
import ReplicatedVolume.Safety.Rollout
import ReplicatedVolume.Safety.Finalizers
import ReplicatedVolume.Safety.Configured
import ReplicatedVolume.Safety.ZoneLoss
import ReplicatedVolume.Safety.Resize
import ReplicatedVolume.Safety.Freshness
import ReplicatedVolume.Safety.Convergence
import ReplicatedVolume.Safety.Adjustment
import ReplicatedVolume.Safety.Repair
import ReplicatedVolume.Safety.Retype
import ReplicatedVolume.Safety.Achievable
import ReplicatedVolume.Safety.Requests
import ReplicatedVolume.Safety.Demand
import ReplicatedVolume.Replica.Membership
import ReplicatedVolume.Replica.Peers
import ReplicatedVolume.Scheduling.OwnNode
import ReplicatedVolume.Csi.Attachments
import ReplicatedVolume.Replica.BackingVolume
import ReplicatedVolume.Storage.Requeue
