import Mathlib

/-!
# The requeue of a storage pool

A pool keeps a node that is not ready until its grace period ends and asks for another pass then.
The clock is read once per node and once more after the status was patched. Times are nanoseconds,
0 is the zero time; the pass is modelled from the list of nodes on.
-/

namespace ReplicatedVolume.Storage

structure NodeViewReady where
  status : Bool
  hasCondition : Bool
  lastTransitionTime : ℤ

structure NodeView where
  name : String
  zoneName : String
  unschedulable : Bool
  ready : NodeViewReady

structure EligibleNode (LVG : Type) where
  nodeName : String
  zoneName : String
  nodeReady : Bool
  unschedulable : Bool
  lvmVolumeGroups : List LVG
  agentReady : Bool

inductive Outcome where
  | done | fail | requeueAfter (d : ℤ) | panic
  deriving DecidableEq

/-- Whether the node is ready, whether it is beyond its grace period, when the period ends. -/
def isNodeReadyOrWithinGrace (ready : NodeViewReady) (gracePeriod now : ℤ) :
    Bool × Bool × ℤ :=
  if !ready.hasCondition then (false, false, 0)
  else if ready.status then (true, false, 0)
  else
    let graceExpiresAt := ready.lastTransitionTime + gracePeriod
    if graceExpiresAt < now then (false, true, 0) else (false, false, graceExpiresAt)

/-- The earliest end of a grace period so far. -/
def track (earliest : Option ℤ) (nodeReady : Bool) (graceExpiresAt : ℤ) : Option ℤ :=
  if !nodeReady ∧ graceExpiresAt ≠ 0 ∧ ∀ e ∈ earliest, graceExpiresAt < e then some graceExpiresAt
  else earliest

section
variable {LVG : Type} (lvgByNode : String → List LVG) (agentReadyByNode : String → Bool)
  (gracePeriod : ℤ)

/-- The loop over the nodes, each with the clock at its turn. -/
def computeActualEligibleNodes : List (NodeView × ℤ) → List (EligibleNode LVG) → Option ℤ →
    List (EligibleNode LVG) × Option ℤ
  | [], result, earliest => (result, earliest)
  | (node, now) :: nodes, result, earliest =>
    let (nodeReady, notReadyBeyondGrace, graceExpiresAt) :=
      isNodeReadyOrWithinGrace node.ready gracePeriod now
    if notReadyBeyondGrace then computeActualEligibleNodes nodes result earliest
    else computeActualEligibleNodes nodes
      (result ++ [⟨node.name, node.zoneName, nodeReady, node.unschedulable, lvgByNode node.name,
        agentReadyByNode node.name⟩]) (track earliest nodeReady graceExpiresAt)

def doneAndRequeueAfter (d : ℤ) : Outcome := if d ≤ 0 then .panic else .requeueAfter d

/-- `changed`: the status differs from the computed one; `patched`: its patch goes through. -/
def reconcile (nodes : List (NodeView × ℤ)) (changed : List (EligibleNode LVG) → Bool)
    (patched : Bool) (now : ℤ) : Outcome :=
  let (eligibleNodes, worldStateExpiresAt) :=
    computeActualEligibleNodes lvgByNode agentReadyByNode gracePeriod nodes [] none
  if changed eligibleNodes && !patched then .fail
  else
    match worldStateExpiresAt with
    | some t => doneAndRequeueAfter (t - now)
    | none => .done

/-- A node that is not ready and was found within its grace period. -/
def Waits (x : NodeView × ℤ) : Prop :=
  x.1.ready.hasCondition = true ∧ x.1.ready.status = false ∧
    x.2 ≤ x.1.ready.lastTransitionTime + gracePeriod ∧
    x.1.ready.lastTransitionTime + gracePeriod ≠ 0

theorem before_track_iff (earliest : Option ℤ) (nodeReady : Bool) (expires now : ℤ) :
    (∀ t, track earliest nodeReady expires = some t → now < t) ↔
      (∀ t, earliest = some t → now < t) ∧ (nodeReady = false → expires ≠ 0 → now < expires) := by
  unfold track
  cases earliest <;> cases nodeReady <;> split <;> simp_all <;> omega

/-- The clock is before the earliest expiration when it is before that of every waiting node. -/
theorem before_earliest_iff (nodes : List (NodeView × ℤ)) (result : List (EligibleNode LVG))
    (earliest : Option ℤ) (now : ℤ) :
    (∀ t, (computeActualEligibleNodes lvgByNode agentReadyByNode gracePeriod nodes result
        earliest).2 = some t → now < t) ↔
      (∀ t, earliest = some t → now < t) ∧
      ∀ x ∈ nodes, Waits gracePeriod x → now < x.1.ready.lastTransitionTime + gracePeriod := by
  induction nodes generalizing result earliest with
  | nil => simp [computeActualEligibleNodes]
  | cons x nodes ih =>
    obtain ⟨⟨name, zone, unschedulable, status, hasCondition, since⟩, turn⟩ := x
    rw [List.forall_mem_cons, ← and_assoc, computeActualEligibleNodes]
    generalize (∀ x ∈ nodes, Waits gracePeriod x → _) = rest at ih ⊢
    simp only [isNodeReadyOrWithinGrace, Waits]
    cases hasCondition with
    | false => simp [ih, before_track_iff]
    | true =>
      cases status with
      | true => simp [ih, before_track_iff]
      | false =>
        by_cases hlate : since + gracePeriod < turn
        · simp [hlate, ih, hlate.not_ge]
        · simp [hlate, ih, before_track_iff, not_lt.mp hlate]

/-- A pass panics unless a patch is due and fails, or the clock is then still before the end of
every grace period it found running. -/
theorem no_panic_iff (nodes : List (NodeView × ℤ)) (changed : List (EligibleNode LVG) → Bool)
    (patched : Bool) (now : ℤ) :
    reconcile lvgByNode agentReadyByNode gracePeriod nodes changed patched now ≠ .panic ↔
      changed (computeActualEligibleNodes lvgByNode agentReadyByNode gracePeriod nodes [] none).1 =
        true ∧ patched = false ∨
      ∀ x ∈ nodes, Waits gracePeriod x → now < x.1.ready.lastTransitionTime + gracePeriod := by
  have hearly := before_earliest_iff lvgByNode agentReadyByNode gracePeriod nodes [] none now
  rw [and_iff_right (fun _ h => by cases h)] at hearly
  rw [← hearly]
  unfold reconcile
  cases computeActualEligibleNodes lvgByNode agentReadyByNode gracePeriod nodes [] none with
  | mk eligible expires =>
    dsimp only
    split
    · simp_all
    · next hpatched =>
        rw [or_iff_right (by simpa using hpatched)]
        cases expires with
        | none => simp
        | some t =>
          simp only [doneAndRequeueAfter, Option.some.injEq, forall_eq']
          split <;> simp <;> omega

end

/-- The grace period of a node ends while the status is patched. -/
theorem grace_ends_during_patch :
    reconcile (fun _ => ([] : List String)) (fun _ => true) 50
      [(⟨"node-a", "", false, false, true, 100⟩, 149)] (fun _ => true) true 151 = .panic := by
  decide +kernel

end ReplicatedVolume.Storage
