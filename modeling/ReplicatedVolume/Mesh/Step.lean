import ReplicatedVolume.Mesh.State

/-!
# Steps of the abstract datamesh

One step settles one transition or is a stage of a decision: its announcement,
the cancellation of a transition in the way, the creation of a new one. A step
is labelled by the event that the engine logs for it.
-/

namespace ReplicatedVolume.Datamesh
open Dmte

structure MeshEvent where
  kind : EventKind
  active : Active
  before : Mesh
  after : Mesh

def baseType : MemberType → ReplicaType
  | .diskful | .liminalDiskful => .diskful
  | .shadowDiskful | .liminalShadowDiskful => .shadowDiskful
  | .tieBreaker => .tieBreaker
  | .access => .access

def PlanSpec.callbacks (spec : PlanSpec) : List Apply := spec.steps.flatMap (·.apply)

def PlanSpec.startsAt (spec : PlanSpec) (type : MemberType) : Bool :=
  match spec.init with
  | .setReplicaType source => source = baseType type
  | .setReplicaFromToType source _ => source = baseType type
  | .nothing | .setSystemNetworks => false

def Chosen (env : Env) (m : Mesh) (spec : PlanSpec) (x : Option ReplicaID) : Prop :=
  match spec.transitionType with
  | .addReplica => ∃ id, x = some id ∧ m.content.seats id = none
  | .removeReplica | .changeReplicaType | .forceRemoveReplica =>
    ∃ id s, x = some id ∧ m.content.seats id = some s ∧ spec.startsAt s.type = true
  | .detach | .forceDetach => ∃ id, x = some id ∧ id ∈ m.content.attached
  | .changeQuorum =>
    m.Idle .votingMembership ∧
    spec.planID = selectQuorumPlan (m.content.voters.card / 2 + 1) m.content.quorum
      (m.content.correctQMR env) m.content.quorumMinimumRedundancy
  | .enableMultiattach => m.content.multiattach = false
  | .disableMultiattach => m.content.multiattach = true ∧ m.potentiallyAttached.card ≤ 1
  | .formation | .attach | .changeSystemNetworks | .repairNetworkAddresses | .resizeVolume => True

namespace Active

def gained (a : Active) (s : Finset ReplicaID) : Finset ReplicaID :=
  if a.group = .attachment then s ∪ a.replica.toFinset else s

def released (a : Active) (s : Finset ReplicaID) : Finset ReplicaID :=
  if a.group = .attachment ∧ a.type = .detach then s \ a.replica.toFinset else s

end Active

structure Bump (c c' : Content) (rev rev' : ℕ) : Prop where
  lower : rev ≤ rev'
  upper : rev' ≤ rev + 1
  keep : rev' = rev → c' = c

namespace Mesh

def moved (m : Mesh) (l₁ : List Active) (a : Active) (l₂ : List Active) (c : Content)
    (rev : ℕ) : Mesh :=
  ⟨c, rev, l₁ ++ { a with idx := a.idx + 1, revision := rev } :: l₂, m.potentiallyAttached⟩

def dropped (m : Mesh) (l₁ : List Active) (a : Active) (l₂ : List Active) (c : Content) : Mesh :=
  ⟨c, m.revision, l₁ ++ l₂, a.released m.potentiallyAttached⟩

def extended (m : Mesh) (a : Active) (c : Content) : Mesh :=
  ⟨c, a.revision, m.active ++ [a], a.gained m.potentiallyAttached⟩

end Mesh

inductive Cancels (spec : PlanSpec) (x : Option ReplicaID) : Mesh → List MeshEvent → Mesh → Prop
  | nothing (m : Mesh) : Cancels spec x m [] m
  | cancel {m : Mesh} {l₁ l₂ : List Active} {a : Active} {id : ReplicaID}
      (hactive : m.active = l₁ ++ a :: l₂) (hplan : spec.cancelActiveOnCreate = true)
      (hx : x = some id) (hslot : a.slot = some (spec.slot, id)) :
      Cancels spec x m [⟨.cancelled, a, m, m.dropped l₁ a l₂ m.content⟩]
        (m.dropped l₁ a l₂ m.content)

def PlanSpec.start (spec : PlanSpec) (x : Option ReplicaID) (rev : ℕ) : Active :=
  ⟨spec.transitionType, spec.planID, spec.group, x, 0, rev⟩

/-- A decision that passes its guards and is admitted makes a transition and
applies its first step. -/
inductive Creates (env : Env) (spec : PlanSpec) (x : Option ReplicaID) :
    Mesh → List MeshEvent → Mesh → Prop
  | nothing (m : Mesh) : Creates env spec x m [] m
  | create {m : Mesh} {s : StepSpec} {c : Content} {rev : ℕ}
      (hscope : spec.scope = .replica ↔ x.isSome = true)
      (hguards : ∀ guard ∈ spec.guards, guard.Holds env m x)
      (hfree : ∀ id, x = some id → m.Free spec.slot id)
      (hallowed : Admitted m spec.group x)
      (hstep : spec.steps[0]? = some s)
      (hcontent : c = applyAll env x s.apply m.content)
      (hbump : Bump m.content c m.revision rev) :
      Creates env spec x m
        [⟨.created, spec.start x rev, m, m.extended (spec.start x rev) c⟩]
        (m.extended (spec.start x rev) c)

def Announced (before : List MeshEvent) (spec : PlanSpec) (x : Option ReplicaID) : Prop :=
  ∃ d ∈ before, d.kind = .dispatched ∧ d.active.type = spec.transitionType ∧ d.active.replica = x

inductive MeshStep (env : Env) (before : List MeshEvent) : Mesh → MeshEvent → Mesh → Prop
  | advance {m : Mesh} {l₁ l₂ : List Active} {a : Active} {spec : PlanSpec} {s s' : StepSpec}
      {c c' : Content} {rev : ℕ}
      (hactive : m.active = l₁ ++ a :: l₂) (hspec : a.spec = some spec)
      (hstep : spec.steps[a.idx]? = some s) (hnext : spec.steps[a.idx + 1]? = some s')
      (hconfirm : s.confirm.Holds env m.content a.replica a.revision)
      (hcompleted : c = applyAll env a.replica s.onComplete m.content)
      (hcontent : c' = applyAll env a.replica s'.apply c)
      (hbump : Bump c c' m.revision rev) :
      MeshStep env before m ⟨.advanced, a, m, m.moved l₁ a l₂ c' rev⟩ (m.moved l₁ a l₂ c' rev)
  | complete {m : Mesh} {l₁ l₂ : List Active} {a : Active} {spec : PlanSpec} {s : StepSpec}
      {c : Content}
      (hactive : m.active = l₁ ++ a :: l₂) (hspec : a.spec = some spec)
      (hstep : spec.steps[a.idx]? = some s) (hlast : spec.steps.length = a.idx + 1)
      (hconfirm : s.confirm.Holds env m.content a.replica a.revision)
      (hcompleted : c = applyAll env a.replica s.onComplete m.content) :
      MeshStep env before m ⟨.completed, a, m, m.dropped l₁ a l₂ c⟩ (m.dropped l₁ a l₂ c)
  | dispatch {m : Mesh} {spec : PlanSpec} {x : Option ReplicaID} {a : Active}
      (hspec : spec ∈ registry) (hchosen : Chosen env m spec x)
      (htype : a.type = spec.transitionType) (hreplica : a.replica = x) :
      MeshStep env before m ⟨.dispatched, a, m, m⟩ m
  | cancel {m m' : Mesh} {spec : PlanSpec} {x : Option ReplicaID} {ev : MeshEvent}
      (hspec : spec ∈ registry) (hchosen : Chosen env m spec x)
      (hannounced : Announced before spec x) (hcancel : Cancels spec x m [ev] m') :
      MeshStep env before m ev m'
  | create {m m' : Mesh} {spec : PlanSpec} {x : Option ReplicaID} {ev : MeshEvent}
      (hspec : spec ∈ registry) (hchosen : Chosen env m spec x)
      (hannounced : Announced before spec x) (hcreate : Creates env spec x m [ev] m') :
      MeshStep env before m ev m'

theorem Announced.mono {before before' : List MeshEvent} {spec : PlanSpec} {x : Option ReplicaID}
    (h : Announced before spec x) (hsub : before ⊆ before') : Announced before' spec x := by
  obtain ⟨d, hd, hrest⟩ := h
  exact ⟨d, hsub hd, hrest⟩

variable {ev : MeshEvent}

theorem MeshStep.mono {env : Env} {before before' : List MeshEvent} {m m' : Mesh}
    (h : MeshStep env before m ev m') (hsub : before ⊆ before') :
    MeshStep env before' m ev m' := by
  cases h with
  | advance hactive hspec hstep hnext hconfirm hcompleted hcontent hbump =>
    exact .advance hactive hspec hstep hnext hconfirm hcompleted hcontent hbump
  | complete hactive hspec hstep hlast hconfirm hcompleted =>
    exact .complete hactive hspec hstep hlast hconfirm hcompleted
  | dispatch hspec hchosen htype hreplica => exact .dispatch hspec hchosen htype hreplica
  | cancel hspec hchosen hannounced hcancel =>
    exact .cancel hspec hchosen (hannounced.mono hsub) hcancel
  | create hspec hchosen hannounced hcreate =>
    exact .create hspec hchosen (hannounced.mono hsub) hcreate

inductive MeshRun (env : Env) : Mesh → List MeshEvent → Mesh → Prop
  | refl (m : Mesh) : MeshRun env m [] m
  | step {m m₁ m₂ : Mesh} {evs : List MeshEvent} {ev : MeshEvent} (hrun : MeshRun env m evs m₁)
      (hstep : MeshStep env evs m₁ ev m₂) : MeshRun env m (ev :: evs) m₂

theorem MeshRun.trans {env : Env} {m1 m2 m3 : Mesh} {evs evs' : List MeshEvent}
    (h : MeshRun env m1 evs m2) (h' : MeshRun env m2 evs' m3) :
    MeshRun env m1 (evs' ++ evs) m3 := by
  induction h' with
  | refl => exact h
  | step _ hstep ih => exact .step ih (hstep.mono (List.subset_append_left _ _))

theorem MeshRun.of_append {env : Env} {m m' : Mesh} {post pre : List MeshEvent}
    (h : MeshRun env m (post ++ ev :: pre) m') :
    ∃ m1 m2, MeshRun env m pre m1 ∧ MeshStep env pre m1 ev m2 := by
  induction post generalizing m' with
  | nil =>
    cases h with
    | step hrun hstep => exact ⟨_, _, hrun, hstep⟩
  | cons _ post ih =>
    cases h with
    | step hrun _ => exact ih hrun

def seatOf (m : DatameshMember) : Seat := ⟨m.type, m.attached⟩

def GlobalContext.content (g : GlobalContext) : Content :=
  ⟨fun id => (g.member id).map seatOf, g.quorum, g.quorumMinimumRedundancy,
    g.multiattach, g.baselineGMDR⟩

def GlobalContext.env (g : GlobalContext) : Env :=
  ⟨fun id => (g.rvr id).map (·.datameshRevision),
    fun id => (g.rvr id).any fun rvr => rvr.backingVolume.any (·.state = .upToDate),
    g.configuration.guaranteedMinimumDataRedundancy, g.maxAttachments⟩

def activeOf (t : Transition) : Active :=
  ⟨t.type, t.planID, t.group, t.replica, (findCurrentStepIdx t).getD t.steps.length,
    (((findCurrentStepIdx t).bind (t.steps[·]?)).map (·.datameshRevision)).getD 0⟩

def snapshotMesh (s : Snapshot GlobalContext) : Mesh :=
  ⟨s.global.content, s.revision, s.active.map activeOf, s.global.potentiallyAttached⟩

def meshOf (e : Engine GlobalContext) : Mesh := snapshotMesh e.snapshot

def meshEvent (ev : Event GlobalContext) : MeshEvent :=
  ⟨ev.kind, activeOf ev.transition, snapshotMesh ev.before, snapshotMesh ev.after⟩

end ReplicatedVolume.Datamesh
