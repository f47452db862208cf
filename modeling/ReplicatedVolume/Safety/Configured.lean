import ReplicatedVolume.Agent.Convergence

/-!
# A configured resource is configured

A pass that ends without an error reports `Configured=True`. The report is right exactly where one
pass is enough: no disk to be replaced by another one, new peers that can live with the kernel's
defaults, a size that is reached. `Reaches` collects these conditions on the resource before.
-/

namespace ReplicatedVolume.Agent
open Interaction List Option

variable {uuid : String} {err : Failures} {w' : World} {drbdr : DRBDResource} {flant : Bool}

/-- What DRBD keeps of a resource: a peer has one connection, a path of it appears once, and each
connection has one peer device for each volume. -/
structure KernelResource.Consistent (k : KernelResource) : Prop where
  peers : (k.connections.map (·.peerNodeID)).Nodup
  paths : ∀ c ∈ k.connections, (c.paths.map Path.key).Nodup
  devices : ∀ c ∈ k.connections, c.peerDevices.map (·.volumeNr) = k.volumes.map (·.volumeNr)

def World.startOf (kernel : Kernel) (w : World) (i : IntendedState) : KernelResource :=
  (w.resources i.resourceName).getD (newResource kernel i.resourceName i.nodeID)

def KernelResource.volume (kernel : Kernel) (minor : ℕ) (i : IntendedState) (k : KernelResource) :
    KernelVolume :=
  k.volumes.head?.getD (newVolume kernel 0 minor (i.type = .diskless))

structure Reaches (kernel : Kernel) (i : IntendedState) (k : KernelResource) : Prop where
  disk : DiskKept i (k.volume kernel 0 i)
  size : SizeReached kernel i (k.volume kernel 0 i)
  peers : ∀ p ∈ lastByKey IntendedPeer.nodeID i.peers, PeerReached kernel k p

def OnlyLink (actions : List Action) : Prop := ∃ action, actions = [action] ∧ action.stage = .link

theorem onlyLink_iff {actions : List Action} :
    OnlyLink actions ↔ actions.length = 1 ∧ ∀ action ∈ actions, action.stage = .link := by
  constructor
  · rintro ⟨action, rfl, hstage⟩
    exact ⟨rfl, by simpa using hstage⟩
  · rintro ⟨hlength, hall⟩
    obtain ⟨action, rfl⟩ := length_eq_one_iff.mp hlength
    exact ⟨action, rfl, hall action mem_cons_self⟩

instance (actions : List Action) : Decidable (OnlyLink actions) :=
  decidable_of_iff _ onlyLink_iff.symm

section BringUp

variable {kernel : Kernel} {w : World} {flant : Bool} {fresh : String} {i : IntendedState}
  {a : ActualState}

theorem after_resourceActions (kernel : Kernel) (flant : Bool) (hobs : Observes w i.resourceName a) :
    ∃ options,
      (w.effects kernel ((if a.resourceExists then []
          else [.newResource i.resourceName i.nodeID]) ++
        computeResourceOptions flant i.resourceName i a)).resources i.resourceName =
          some { w.startOf kernel i with options := options } ∧
      (w.effects kernel ((if a.resourceExists then []
          else [.newResource i.resourceName i.nodeID]) ++
        computeResourceOptions flant i.resourceName i a)).allocatedMinor = w.allocatedMinor ∧
      ∀ b : ActualState, b.shown.map (·.options) = some options →
        changedResourceOptions flant i b = .unchanged := by
  unfold computeResourceOptions World.startOf
  rw [hobs.resourceExists]
  cases hk : w.resources i.resourceName with
  | none =>
    obtain ⟨o, ho⟩ : ∃ o, computeResourceOptionsAction flant i.resourceName i =
        [.resourceOptions i.resourceName o] := ⟨_, rfl⟩
    refine ⟨applyResourceOptions o kernel.options, ?_, ?_, fun b hb =>
      changedResourceOptions_created ho hb⟩
    · simp [ho, World.effects, World.effect, World.onResource, newResource]
    · simp [ho, World.effects, World.effect, World.onResource]
  | some k =>
    have hshown := hobs.shown_options hk
    simp only [isSome_some, if_true, nil_append, Bool.not_true, Bool.false_eq_true,
      if_false, computeResourceOptionsActionReconcile, getD_some]
    split
    · rename_i hsame
      refine ⟨k.options, hk, rfl, fun b hb => ?_⟩
      rwa [changedResourceOptions_eq hb, ← changedResourceOptions_eq hshown]
    · refine ⟨applyResourceOptions (changedResourceOptions flant i a) k.options, ?_, rfl, fun b hb =>
        changedResourceOptions_applied hshown hb⟩
      simp [World.effects, World.effect, World.onResource, hk]

/-- What the pass has in hand once the volume exists: the volume `v`, observed or just made, and
the connections, each with its one peer device. -/
structure Prepared (kernel : Kernel) (i : IntendedState) (a : ActualState) (start k : KernelResource)
    (v : KernelVolume) (g : KernelConnection → KernelConnection) : Prop where
  volumes : k.volumes = [v]
  volume : start.volume kernel v.minor i = v
  observed : a.volumes = [actualVolume v] ∨ (a.volumes = [] ∧ v.backingDisk = none)
  connections : k.connections = start.connections.map g
  devices : ∀ c ∈ start.connections, ∃ pd, g c = { c with peerDevices := [pd] } ∧
    ((actualPeer c).peerDeviceDisk = some pd.disk ∨ (actualPeer c).peerDeviceDisk = none)
  numbers : ∀ c ∈ start.connections, ∀ pd, (g c).peerDevices = [pd] →
    c.peerDevices = [pd] ∨ (c.peerDevices = [] ∧ pd.volumeNr = 0)
  role : k.role = start.role

variable {start : KernelResource}

theorem after_minorActions (kernel : Kernel) {w1 : World} {options : ShowOptions}
    (hk : w1.resources i.resourceName = some { start with options := options })
    (hdevices : ∀ c ∈ start.connections,
      c.peerDevices.map (·.volumeNr) = start.volumes.map (·.volumeNr))
    (hvolumes : (start.volumes = [] ∧ a.volumes = []) ∨
      ∃ v, start.volumes = [v] ∧ a.volumes = [actualVolume v]) :
    ∃ k v g, (w1.effects kernel (computeMinorActions i.resourceName i a).2).resources
          i.resourceName = some k ∧
      k.options = options ∧ Prepared kernel i a start k v g ∧
      (w1.effects kernel (computeMinorActions i.resourceName i a).2).minorOf
        (computeMinorActions i.resourceName i a).1 = v.minor := by
  unfold computeMinorActions
  rcases hvolumes with ⟨hnone, ha⟩ | ⟨v, hv, ha⟩
  · rw [ha]
    let made := newVolume kernel 0 (w1.allocatedMinor + 1) (i.type = .diskless)
    let device : KernelPeerDevice :=
      { volumeNr := 0, peerDiskState := "DUnknown", replicationState := "Off"
        disk := kernel.peerDevice }
    refine ⟨KernelResource.addVolume kernel { start with options := options } made, made,
      fun c => { c with peerDevices := c.peerDevices ++ [device] }, ?_, rfl,
      ⟨?_, ?_, .inr ⟨ha, rfl⟩, rfl, ?_, ?_, rfl⟩, rfl⟩
    · simp [World.effects, World.effect, World.onResource, hk, made]
    · simp [KernelResource.addVolume, hnone]
    · rw [KernelResource.volume, hnone]
      rfl
    · intro c hc
      have hempty : c.peerDevices = [] := by simpa [hnone] using hdevices c hc
      exact ⟨_, by rw [hempty]; rfl, .inr (by simp [actualPeer, ActualPeer.peerDeviceDisk, hempty])⟩
    · intro c hc pd hpd
      have hempty : c.peerDevices = [] := by simpa [hnone] using hdevices c hc
      refine .inr ⟨hempty, ?_⟩
      rw [hempty] at hpd
      rw [← (List.cons.inj hpd).1]
  · rw [ha]
    refine ⟨_, v, id, hk, rfl, ⟨hv, ?_, .inl ha, ?_, ?_, ?_, rfl⟩, rfl⟩
    · simp [KernelResource.volume, hv]
    · simp
    · intro c hc
      have hone : c.peerDevices.length = 1 := by simpa [hv] using congrArg length (hdevices c hc)
      obtain ⟨pd, hpd⟩ := length_eq_one_iff.mp hone
      refine ⟨pd, ?_, .inl ?_⟩
      · rw [← hpd]
        rfl
      · simp [actualPeer, ActualPeer.peerDeviceDisk, hpd]
    · exact fun c _ pd hpd => .inl hpd

variable {n : String}

theorem computeRoleAction_within : ∀ action ∈ computeRoleAction n i a, action.within n = true := by
  intro action haction
  unfold computeRoleAction at haction
  rcases mem_append.mp haction with h | h
  all_goals
    split at h
    · rw [mem_singleton.mp h]
      exact decide_eq_true rfl
    · cases h

theorem after_roleAction (kernel : Kernel) (minorOf : Minor → ℕ) (n : String) (i : IntendedState)
    (a : ActualState) (k : KernelResource) :
    k.after kernel minorOf (computeRoleAction n i a) =
      { k with role := (k.after kernel minorOf (computeRoleAction n i a)).role } := by
  unfold computeRoleAction
  split <;> split <;> rfl

variable {minorOf : Minor → ℕ} {k : KernelResource} {b : ActualState}

theorem roleAction_settled (hrole : a.role ≠ "" → k.role = a.role)
    (hb : b.role = (k.after kernel minorOf (computeRoleAction n i a)).role) :
    computeRoleAction n i b = [] := by
  unfold computeRoleAction at hb ⊢
  match hintended : i.role with
  | none => simp
  | some .primary =>
    by_cases hprimary : a.role = "Primary"
    · have hk : k.role = "Primary" := (hrole (by simp [hprimary])).trans hprimary
      simpa [hintended, hprimary, hk] using hb
    · simpa [hintended, hprimary, Action.on] using hb
  | some .secondary =>
    by_cases hsecondary : a.role = "Secondary"
    · have hk : k.role = "Secondary" := (hrole (by simp [hsecondary])).trans hsecondary
      simpa [hintended, hsecondary, hk] using hb
    · simpa [hintended, hsecondary, Action.on] using hb

theorem startOf_consistent (kernel : Kernel)
    (hconsistent : ∀ k, w.resources i.resourceName = some k → k.Consistent) :
    (w.startOf kernel i).Consistent := by
  unfold World.startOf
  cases hk : w.resources i.resourceName with
  | none => exact ⟨nodup_nil, nofun, nofun⟩
  | some k => exact hconsistent k hk

theorem Observes.start_volumes (hobs : Observes w i.resourceName a)
    (hcount : w.volumeCount i.resourceName ≤ 1) :
    ((w.startOf kernel i).volumes = [] ∧ a.volumes = []) ∨
      ∃ v, (w.startOf kernel i).volumes = [v] ∧ a.volumes = [actualVolume v] := by
  unfold World.startOf
  cases hk : w.resources i.resourceName with
  | none =>
    refine .inl ⟨rfl, hobs.volumes_eq_nil.mpr ?_⟩
    simp [World.volumeCount, hk]
  | some k =>
    simp only [World.volumeCount, hk, map_some, getD_some] at hcount
    rcases hvolumes : k.volumes with _ | ⟨v, _ | ⟨v', rest⟩⟩
    · refine .inl ⟨hvolumes, hobs.volumes_eq_nil.mpr ?_⟩
      simp [World.volumeCount, hk, hvolumes]
    · exact .inr ⟨v, hvolumes, hobs.volumes_single hk hvolumes⟩
    · simp [hvolumes] at hcount

theorem Observes.start_peers (hobs : Observes w i.resourceName a)
    (hconsistent : ∀ k, w.resources i.resourceName = some k → k.Consistent) :
    a.peers = (w.startOf kernel i).connections.map actualPeer := by
  unfold World.startOf
  cases hk : w.resources i.resourceName with
  | none => simp [ActualState.peers, hobs.1, hk, newResource]
  | some k => exact hobs.peers hk (hconsistent k hk).peers

theorem Observes.start_role (hobs : Observes w i.resourceName a) (hrole : a.role ≠ "") :
    (w.startOf kernel i).role = a.role := by
  unfold World.startOf
  cases hk : w.resources i.resourceName with
  | none => exact absurd (by simp [ActualState.role, hobs.1, hk]) hrole
  | some k => exact (hobs.role hk).symm

/-- The actions that follow the volume: the link, the disk, the peers, the size and the role. -/
def volumeActions (flant : Bool) (fresh : String) (i : IntendedState) (a : ActualState) :
    List Action :=
  let minor := (computeMinorActions i.resourceName i a).1
  [.ensureDeviceSymlink i.symlinkName minor] ++
    (computeDiskActions flant fresh minor i a ++
      (computePeerActions i.resourceName i a ++
        (computeResizeAction i a ++ computeRoleAction i.resourceName i a)))

theorem computeBringUpActions_eq (flant : Bool) (fresh : String) (i : IntendedState)
    (a : ActualState) :
    computeBringUpActions flant fresh i a =
      ((if a.resourceExists then [] else [.newResource i.resourceName i.nodeID]) ++
        computeResourceOptions flant i.resourceName i a) ++
      ((computeMinorActions i.resourceName i a).2 ++ volumeActions flant fresh i a) := by
  simp only [computeBringUpActions, volumeActions, append_assoc]

theorem Staged.within {stage : Stage} {actions : List Action} (h : Staged stage actions)
    (hstage : stage = .disk ∨ stage = .size ∨ stage = .link) :
    ∀ action ∈ actions, action.within n = true := by
  intro action haction
  have hof := h action haction
  rcases hstage with rfl | rfl | rfl <;> cases action <;> first | rfl | cases hof

theorem volumeActions_within (flant : Bool) (fresh : String) (i : IntendedState) (a : ActualState) :
    ∀ action ∈ volumeActions flant fresh i a, action.within i.resourceName = true := by
  simp only [volumeActions, forall_mem_append]
  refine ⟨?_, ?_, computePeerActions_within, ?_, computeRoleAction_within⟩
  · exact Staged.within (staged_single rfl) (.inr (.inr rfl))
  · exact (computeDiskActions_staged _ _ _ _ _).within (.inl rfl)
  · exact (computeResizeAction_staged i a).within (.inr (.inl rfl))

variable {v : KernelVolume}

theorem after_volumeActions {g : KernelConnection → KernelConnection}
    (hk : Prepared kernel i a start k v g)
    (hminor : minorOf (computeMinorActions i.resourceName i a).1 = v.minor)
    (hexisting : minorOf (.existing v.minor) = v.minor) (hrole : a.role ≠ "" → start.role = a.role)
    (hfail : ∀ err, Action.fail err ∉ volumeActions flant fresh i a) :
    (k.after kernel minorOf (volumeActions flant fresh i a)).options = k.options ∧
    (k.after kernel minorOf (volumeActions flant fresh i a)).volumes =
      [sizeStep kernel i v (diskStep kernel flant i v)] ∧
    (k.after kernel minorOf (volumeActions flant fresh i a)).connections =
      (KernelResource.after kernel minorOf { k with volumes := [diskStep kernel flant i v] }
        (computePeerActions i.resourceName i a)).connections ∧
    ∀ b : ActualState, b.role = (k.after kernel minorOf (volumeActions flant fresh i a)).role →
      computeRoleAction i.resourceName i b = [] := by
  have hdisk : k.after kernel minorOf (computeDiskActions flant fresh
      (computeMinorActions i.resourceName i a).1 i a) =
      { k with volumes := [diskStep kernel flant i v] } := by
    refine after_diskActions hk.volumes ?_ ?_ hminor hexisting fun err herr => hfail err ?_
    · rcases hk.observed with hsame | ⟨hnone, hempty⟩
      · simp [actualBackingDisk, hsame]
      · simp [actualBackingDisk, hnone, hempty]
    · rcases hk.observed with hsame | ⟨-, hempty⟩
      · exact fun _ => hsame
      · exact fun hsome => by rw [hempty] at hsome; cases hsome
    · exact mem_append_right _ (mem_append_left _ herr)
  have hsteps : k.after kernel minorOf (volumeActions flant fresh i a) =
      ((KernelResource.after kernel minorOf { k with volumes := [diskStep kernel flant i v] }
        (computePeerActions i.resourceName i a)).after kernel minorOf
          (computeResizeAction i a)).after kernel minorOf
            (computeRoleAction i.resourceName i a) := by
    have hlink : k.after kernel minorOf [.ensureDeviceSymlink i.symlinkName
        (computeMinorActions i.resourceName i a).1] = k := rfl
    simp only [volumeActions, after_append, hlink, hdisk]
  generalize hpeers : KernelResource.after kernel minorOf
    { k with volumes := [diskStep kernel flant i v] } (computePeerActions i.resourceName i a) = k1
    at hsteps ⊢
  have hframe := after_frame kernel minorOf (computePeerActions_staged i.resourceName i a)
    { k with volumes := [diskStep kernel flant i v] }
  rw [hpeers] at hframe
  have hsize : k1.after kernel minorOf (computeResizeAction i a) =
      { k1 with volumes := [sizeStep kernel i v (diskStep kernel flant i v)] } := by
    refine after_resizeAction (by rw [hframe]) ?_ hexisting hk.observed
    exact diskStep_minor v
  rw [hsize] at hsteps
  have hroleFrame := after_roleAction kernel minorOf i.resourceName i a
    { k1 with volumes := [sizeStep kernel i v (diskStep kernel flant i v)] }
  rw [hsteps]
  refine ⟨?_, ?_, ?_, fun b hb => roleAction_settled ?_ hb⟩
  · rw [hroleFrame, hframe]
  · rw [hroleFrame]
  · rw [hroleFrame]
  · intro hne
    rw [hframe]
    exact hk.role.trans (hrole hne)

theorem diskSettled_uuid :
    DiskSettled flant { i with statusDeviceUUID := uuid } v ↔ DiskSettled flant i v := by
  unfold DiskSettled
  split
  · exact Iff.rfl
  · refine and_congr_right fun _ => ⟨fun h => ?_, fun h => ?_⟩
    all_goals exact ⟨h.discardZeroesIfAligned, h.rsDiscardGranularity, h.nonVoting⟩

theorem volume_minor (kernel : Kernel) (i : IntendedState) (k : KernelResource) (minor : ℕ) :
    (DiskKept i (k.volume kernel minor i) ↔ DiskKept i (k.volume kernel 0 i)) ∧
      (SizeReached kernel i (k.volume kernel minor i) ↔
        SizeReached kernel i (k.volume kernel 0 i)) := by
  unfold KernelResource.volume
  cases k.volumes.head? <;> exact ⟨Iff.rfl, Iff.rfl⟩

/-- The actions of the next pass are the link alone exactly where one pass was enough. The uuid in
the status may be new: it is used for attaching only. -/
theorem bringUp_onlyLink (hconnect : kernel.connectingState ≠ "StandAlone")
    (hobs : Observes w i.resourceName a)
    (hconsistent : ∀ k, w.resources i.resourceName = some k → k.Consistent)
    (hcount : w.volumeCount i.resourceName ≤ 1)
    (hfail : ∀ err, Action.fail err ∉ computeBringUpActions flant fresh i a)
    (hb : Observes (w.effects kernel (computeBringUpActions flant fresh i a)) i.resourceName b)
    (again uuid : String) :
    OnlyLink (computeBringUpActions flant again { i with statusDeviceUUID := uuid } b) ↔
      Reaches kernel i (w.startOf kernel i) := by
  have hstart := startOf_consistent kernel hconsistent
  rw [computeBringUpActions_eq] at hb hfail
  rw [World.effects_append, World.effects_append] at hb
  obtain ⟨options, hresource, -, hsettled⟩ := after_resourceActions kernel flant hobs
  obtain ⟨k, v, g, hk, hoptions, hprepared, hminor⟩ :=
    after_minorActions kernel hresource hstart.devices (hobs.start_volumes hcount)
  generalize (w.effects kernel _).effects kernel (computeMinorActions i.resourceName i a).2 = w2
    at hb hk hminor
  -- The resource that is observed again.
  obtain ⟨hopts, hvolumes, hconnections, hrole⟩ := after_volumeActions hprepared hminor rfl
    (hobs.start_role ·) fun err herr => hfail err (mem_append_right _ (mem_append_right _ herr))
  have hk' := (effects_within kernel w2 (volumeActions_within flant fresh i a)).1
  rw [hk, map_some] at hk'
  generalize k.after kernel w2.minorOf (volumeActions flant fresh i a) = k' at *
  have hdevices := hprepared.devices
  have hids : (k'.connections.map (·.peerNodeID)).Nodup := by
    rw [hconnections]
    exact after_peerActions_ids hstart.peers (hobs.start_peers hconsistent)
      (k := { k with volumes := [diskStep kernel flant i v] }) hprepared.connections hdevices
      kernel w2.minorOf i.resourceName i
  have hbvolumes := hb.volumes_single hk' hvolumes
  have hbpeers := hb.peers hk' hids
  have hbrole := hrole b (hb.role hk')
  have hboptions := hsettled b (by rw [hb.shown_options hk', hopts, hoptions])
  -- What is left of the next difference.
  have hexists : b.resourceExists = true := by
    rw [hb.resourceExists, hk']
    rfl
  have hunchanged : changedResourceOptions flant { i with statusDeviceUUID := uuid } b =
      .unchanged := hboptions
  have hnext : computeBringUpActions flant again { i with statusDeviceUUID := uuid } b =
      .ensureDeviceSymlink i.symlinkName
        (.existing (sizeStep kernel i v (diskStep kernel flant i v)).minor) ::
        (computeDiskActions flant again
            (.existing (sizeStep kernel i v (diskStep kernel flant i v)).minor)
            { i with statusDeviceUUID := uuid } b ++
          computePeerActions i.resourceName i b ++ computeResizeAction i b ++
          computeRoleAction i.resourceName i b) := by
    simp only [computeBringUpActions, computeMinorActions, hbvolumes, hexists, if_true,
      computeResourceOptions, computeResourceOptionsActionReconcile, hunchanged, Bool.not_true,
      Bool.false_eq_true, if_false, nil_append, append_assoc, cons_append]
    rfl
  have honly : OnlyLink (computeBringUpActions flant again { i with statusDeviceUUID := uuid } b) ↔
      computeDiskActions flant again
          (.existing (sizeStep kernel i v (diskStep kernel flant i v)).minor)
          { i with statusDeviceUUID := uuid } b = [] ∧
        computePeerActions i.resourceName i b = [] ∧ computeResizeAction i b = [] := by
    rw [hnext, hbrole, append_nil]
    constructor
    · rintro ⟨action, heq, -⟩
      have hrest := (List.cons.inj heq).2
      simp only [append_eq_nil_iff] at hrest
      exact ⟨hrest.1.1, hrest.1.2, hrest.2⟩
    · rintro ⟨hdisk, hpeers, hsize⟩
      rw [hdisk, hpeers, hsize]
      exact ⟨_, rfl, rfl⟩
  have hdisk : computeDiskActions flant again
      (.existing (sizeStep kernel i v (diskStep kernel flant i v)).minor)
      { i with statusDeviceUUID := uuid } b = [] ↔ DiskKept i v := by
    rw [computeDiskActions_eq_nil hbvolumes, diskSettled_uuid]
    obtain ⟨size, hsize⟩ := sizeStep_eq kernel i v (diskStep kernel flant i v)
    rw [hsize]
    exact diskStep_settled v
  have hpeers : computePeerActions i.resourceName i b = [] ↔
      ∀ p ∈ lastByKey IntendedPeer.nodeID i.peers, PeerReached kernel (w.startOf kernel i) p :=
    peerActions_settled hstart.peers (hobs.start_peers hconsistent)
      (k := { k with volumes := [diskStep kernel flant i v] }) hprepared.connections hdevices
      hconnect rfl hstart.paths hprepared.numbers (by rw [hbpeers, hconnections])
  rw [honly, hdisk, hpeers]
  have hvolume := volume_minor kernel i (w.startOf kernel i) v.minor
  rw [hprepared.volume] at hvolume
  constructor
  · rintro ⟨hkept, hall, hresize⟩
    exact ⟨hvolume.1.mp hkept, hvolume.2.mp ((sizeStep_settled hkept hbvolumes).mp hresize), hall⟩
  · rintro ⟨hkept, hreached, hall⟩
    have hkept' := hvolume.1.mpr hkept
    exact ⟨hkept', hall, (sizeStep_settled hkept' hbvolumes).mpr (hvolume.2.mpr hreached)⟩

theorem reaches_uuid : Reaches kernel { i with statusDeviceUUID := uuid } k ↔ Reaches kernel i k :=
  ⟨fun h => ⟨h.disk, h.size, h.peers⟩, fun h => ⟨h.disk, h.size, h.peers⟩⟩

theorem computeAttachActions_fail {minor : Minor} {dev : Device}
    (h : Action.fail err ∈ computeAttachActions fresh a uuid minor dev) : err ≠ [] := by
  have hforeign : ∀ diskUUID, Action.fail err = .fail (foreignDiskError dev diskUUID uuid) →
      err ≠ [] := by
    intro diskUUID heq
    rw [Action.fail.inj heq]
    exact cons_ne_nil _ _
  unfold computeAttachActions at h
  grind

theorem computeTargetDRBDActions_fail
    (h : Action.fail err ∈ computeTargetDRBDActions flant fresh i (some a)) : err ≠ [] := by
  unfold computeTargetDRBDActions at h
  dsimp only at h
  split at h
  · rcases mem_cons.mp h with heq | hdown
    · cases heq
    · split at hdown <;> simp at hdown
  · have hstage : ∀ {s : Stage} {actions : List Action}, Staged s actions → s ≠ .disk →
        Action.fail err ∉ actions := fun hstaged hne hin => hne (hstaged _ hin).symm
    simp only [computeBringUpActions, mem_append] at h
    rcases h with ((((((h | h) | h) | h) | h) | h) | h) | h
    · split at h <;> simp at h
    · exact absurd h (hstage (computeResourceOptions_staged _ _ _ _) (by decide))
    · exact absurd h (hstage (computeMinorActions_staged _ _ _) (by decide))
    · simp at h
    · -- Only attaching can find out that it must not go on.
      unfold computeDiskActions at h
      grind [computeAttachActions_fail, computeDiskOptionsAction, computeDiskOptionsActionReconcile]
    · exact absurd h (hstage (computePeerActions_staged _ _ _) (by decide))
    · exact absurd h (hstage (computeResizeAction_staged _ _) (by decide))
    · exact absurd h (hstage (computeRoleAction_staged _ _ _) (by decide))

end BringUp

/-- Every DRBD command succeeds with its documented effect, and the discard granularity is a
property of the device. -/
def Exact (granularity : Device → ℕ) : (c : Call) → c.Answer → Prop
  | .execute _, answer => answer = .ok ()
  | .readDiscardGranularity dev, answer => answer = granularity dev
  | _, _ => True

def exactly (kernel : Kernel) (granularity : Device → ℕ) : Act agentInterface World :=
  fun w c answer w' => Reply kernel w c answer w' ∧ Exact granularity c answer

theorem exactly_reply {kernel : Kernel} {granularity : Device → ℕ} (w : World) (c : Call)
    (answer : c.Answer) (w' : World) (h : exactly kernel granularity w c answer w') :
    answers kernel w c answer w' :=
  h.1

section Execution

variable {kernel : Kernel} {granularity : Device → ℕ} {h : List AgentEvent} {w : World}

theorem holds_converge_exactly (actions : List Action)
    (hfail : ∀ err, Action.fail err ∈ actions → err ≠ []) :
    Yields (exactly kernel granularity)
      (fun result _ w' => result.2 = [] → w' = w.effects kernel actions ∧
        (∀ err, Action.fail err ∉ actions) ∧ (result.1 = false → actions = []))
      (convergeDRBDState false actions) h w := by
  induction actions generalizing h w with
  | nil => exact fun _ => ⟨rfl, nofun, fun _ => rfl⟩
  | cons action rest ih =>
    by_cases hcheck : ∃ err, action = .fail err
    · obtain ⟨err, rfl⟩ := hcheck
      have hne := hfail err mem_cons_self
      rw [convergeDRBDState_fail, if_neg hne]
      exact fun hempty => absurd hempty hne
    · refine holds_converge_cons (fun err heq => hcheck ⟨err, heq⟩) trivial
        fun answer w' hreply => ?_
      obtain ⟨hreply, hok⟩ := hreply
      have hok : answer = .ok () := hok
      subst hok
      rcases hreply with ⟨-, rfl⟩ | ⟨err, hnot, -⟩
      · rw [if_pos (show actionError action (.ok ()) = [] from rfl)]
        refine (ih fun err herr => hfail err (mem_cons_of_mem _ herr)).imp ?_
        intro result h2 w2 hrest hempty
        obtain ⟨hworld, hnone, -⟩ := hrest hempty
        refine ⟨hworld, fun err herr => ?_, nofun⟩
        rcases mem_cons.mp herr with heq | hin
        · exact hcheck ⟨err, heq.symm⟩
        · exact hnone err hin
      · cases hnot

def Call.keepsDRBD : Call → Bool
  | .execute _ | .rename _ _ => false
  | _ => true

variable {α : Type}

theorem WriteReply.resources {missing : Prop} {result : Option (α × World)}
    {answer : Except ApiError α} (hreply : WriteReply w missing result answer w')
    (hresult : ∀ obj, result = some (obj, w') → w'.resources = w.resources) :
    w'.resources = w.resources := by
  rcases hreply with ⟨obj, heq, -⟩ | ⟨err, -, -, rfl | ⟨obj, heq⟩⟩
  · exact hresult obj heq
  · rfl
  · exact hresult obj heq

theorem Reply.resources {c : Call} {answer : c.Answer} (hreply : Reply kernel w c answer w')
    (hkeeps : c.keepsDRBD = true) : w'.resources = w.resources := by
  by_cases hread : c.isRead = true
  · rw [Reply.read hreply hread]
  cases c with
  | patchLLV obj base =>
    refine WriteReply.resources hreply fun result hresult => ?_
    obtain ⟨stored, -, heq⟩ := map_eq_some_iff.mp hresult
    rw [← (Prod.mk.inj heq).2]
    rfl
  | patchDRBDR | patchDRBDRStatus =>
    refine WriteReply.resources hreply fun result hresult => ?_
    obtain ⟨stored, -, -, -, rfl⟩ := written_eq_some hresult
    rfl
  | execute action => cases hkeeps
  | rename old new => cases hkeeps
  | _ => exact absurd rfl hread

theorem holds_keeps {p : Prog α} (hp : CallsOnly (fun c => c.keepsDRBD = true) p) :
    Yields (exactly kernel granularity) (fun _ _ w' => w'.resources = w.resources) p h w :=
  Calls.holds hp (fun _ _ _ _ _ => trivial)
    (fun _ _ _ _ _ hkeeps hsame hreply => (Reply.resources hreply.1 hkeeps).trans hsame) rfl

theorem keepsDRBD_read (c : Call) (hread : c.isRead = true) : c.keepsDRBD = true := by
  cases c <;> first | rfl | cases hread

end Execution

structure Report where
  statusBase : DRBDResource
  object : DRBDResource
  aState : Option ActualState
  kept : List String
  reconcileErr : Failures
  intendedDisk : Option Device
  upAndNotInCleanup : Bool

def reportHeld (r : Reconciler) (drbdr : DRBDResource) (observed : Option ActualState × Failures)
    (list : List String) (upAndNotInCleanup maintenanceMode : Bool) : Prog Report := do
  let (intendedDisk, llvErr) ← (
    if !maintenanceMode ∧ drbdr.spec.type = .diskful ∧ upAndNotInCleanup then
      reconcileLLVFinalizerAdd drbdr.spec.lvmLogicalVolumeName (actualBackingDisk observed.1)
    else return (none, []))
  let converged ← reconcileDRBDState r drbdr observed intendedDisk upAndNotInCleanup maintenanceMode
  let currentDiskLLV ← computeActualLLVName converged.aState
  let specLLV := converged.drbdr.spec.lvmLogicalVolumeName
  let (kept, releaseErr) ←
    releaseLLVFinalizers (keepsFinalizer upAndNotInCleanup specLLV currentDiskLLV) list
  let reconcileErr := llvErr ++ releaseErr ++ converged.err
  return {
    statusBase := drbdr
    object := reportedObject converged currentDiskLLV kept reconcileErr maintenanceMode
    aState := converged.aState
    kept := kept
    reconcileErr := reconcileErr
    intendedDisk := intendedDisk
    upAndNotInCleanup := upAndNotInCleanup }

def reconcileToReport (r : Reconciler) (drbdr : DRBDResource) : Prog (Except Outcome Report) := do
  if drbdr.spec.actualNameOnTheNode ≠ "" ∧ !drbdr.spec.maintenance then
    let outcome ← reconcileActualNameOnTheNode drbdr
    return .error outcome
  else
    match ← reconcileFinalizer drbdr true (isUpAndNotInCleanup drbdr) with
    | .error outcome => return .error outcome
    | .ok obj =>
      let upAndNotInCleanup := isUpAndNotInCleanup obj
      let (aState, aErr) ← observeActualDRBDState (drbdResourceNameOnTheNode obj)
      let aErr := configuredReasonError aErr "StateQueryFailed"
      match ← reconcileAddresses r obj (existingPortsFromState aState) with
      | .error outcome => return .error outcome
      | .ok obj =>
        match ← reconcileLLVFinalizersToRelease obj upAndNotInCleanup drbdr.spec.maintenance with
        | .error outcome => return .error outcome
        | .ok list => do
          let report ← reportHeld r obj (aState, aErr) list upAndNotInCleanup drbdr.spec.maintenance
          return .ok report

def finishReport : Except Outcome Report → Prog Outcome
  | .error outcome => return outcome
  | .ok report => do
    let (drbdr, reconcileErr) ←
      patchReportedStatus report.object report.statusBase report.reconcileErr
    dropFinalizer drbdr report.aState report.kept report.upAndNotInCleanup reconcileErr

theorem reconcileHeld_eq (r : Reconciler) (drbdr : DRBDResource)
    (observed : Option ActualState × Failures) (list : List String) (up maintenance : Bool) :
    reconcileHeld r drbdr observed list up maintenance =
      (reportHeld r drbdr observed list up maintenance).bind fun report =>
        finishReport (.ok report) := by
  unfold reconcileHeld reportHeld reportAndRelease finishReport
  simp only [Program.bind_eq, Program.bind_assoc, Program.pure_eq, Program.ret_bind]

theorem reconcileDRBDR_eq (r : Reconciler) (drbdr : DRBDResource) :
    reconcileDRBDR r drbdr = (reconcileToReport r drbdr).bind finishReport := by
  unfold reconcileDRBDR reconcileToReport
  split
  · simp only [Program.bind_eq, Program.bind_assoc, Program.pure_eq, Program.ret_bind, finishReport]
    exact (Program.bind_ret _).symm
  · simp only [Program.bind_eq, Program.bind_assoc]
    congr 1
    funext result
    cases result with
    | error outcome => rfl
    | ok obj =>
      simp only [reconcileFinalized, Program.bind_eq, Program.bind_assoc]
      congr 1
      funext observed
      congr 1
      funext addressed
      cases addressed with
      | error outcome => rfl
      | ok obj =>
        simp only [Program.bind_assoc]
        congr 1
        funext list
        cases list with
        | error outcome => rfl
        | ok list =>
          simp only [Program.bind_assoc, Program.pure_eq, Program.ret_bind, reconcileHeld_eq]

def Report.intended (granularity : Device → ℕ) (report : Report) : IntendedState :=
  computeIntendedDRBDState report.object report.intendedDisk report.upAndNotInCleanup
    ((report.intendedDisk.map granularity).getD 0)

def DRBDResource.Configured (drbdr : DRBDResource) : Prop :=
  ∃ cond ∈ drbdr.status.conditions, cond.type = "Configured" ∧ cond.status = some true ∧
    cond.observedGeneration = drbdr.generation

instance (drbdr : DRBDResource) : Decidable drbdr.Configured :=
  inferInstanceAs (Decidable (∃ cond ∈ drbdr.status.conditions, cond.type = "Configured" ∧
    cond.status = some true ∧ cond.observedGeneration = drbdr.generation))

theorem mem_setStatusCondition {cond c : Condition}
    (h : c ∈ (setStatusCondition drbdr cond).status.conditions) (htype : c.type = cond.type) :
    c = { cond with observedGeneration := drbdr.generation } := by
  unfold setStatusCondition at h
  dsimp only at h
  split at h
  · obtain ⟨old, -, rfl⟩ := mem_map.mp h
    by_cases hold : old.type = cond.type
    · rw [if_pos hold]
    · rw [if_neg hold] at htype
      exact absurd htype hold
  · rename_i hnone
    rcases mem_append.mp h with hold | hnew
    · refine absurd (any_eq_true.mpr ⟨c, hold, ?_⟩) hnone
      exact decide_eq_true htype
    · exact mem_singleton.mp hnew

theorem configured_report {converged : Converged} {current : String} {kept : List String}
    {maintenance : Bool} (h : (reportedObject converged current kept err maintenance).Configured) :
    err = [] ∧ maintenance = false ∧ (report converged.aState converged.drbdr).2 = [] := by
  obtain ⟨cond, hmem, htype, hstatus, -⟩ := h
  have hmem : cond ∈ (applyConfiguredCondition (report converged.aState converged.drbdr).1
      (err ++ (report converged.aState converged.drbdr).2) maintenance).status.conditions := hmem
  unfold applyConfiguredCondition at hmem
  dsimp only at hmem
  split at hmem
  · rw [mem_setStatusCondition hmem htype] at hstatus
    cases hstatus
  · rename_i hnone
    split at hmem
    · rw [mem_setStatusCondition hmem htype] at hstatus
      cases hstatus
    · rename_i hrunning
      obtain ⟨herr, hreport⟩ := append_eq_nil_iff.mp (not_not.mp hnone)
      exact ⟨herr, by simpa using hrunning, hreport⟩

theorem report_ok {aState : Option ActualState} (h : (report aState drbdr).2 = []) :
    ∃ a, aState = some a ∧ (a.status.isSome = true → a.volumes.length = 1) := by
  cases aState with
  | none => cases h
  | some a =>
    refine ⟨a, rfl, fun hsome => ?_⟩
    obtain ⟨status, hstatus⟩ := isSome_iff_exists.mp hsome
    have hlength : a.volumes.length = status.devices.length := by
      simp [ActualState.volumes, hstatus]
    rw [hlength]
    simp only [report, hstatus, isNone_some, Bool.false_eq_true, false_and, if_false,
      map_some, getD_some] at h
    split at h
    · cases h
    · split at h
      · cases h
      · omega

theorem reportedObject_intended (converged : Converged) (current : String) (kept : List String)
    (err : Failures) (maintenance : Bool) (dev : Option Device) (up : Bool) (granularity : ℕ) :
    ∃ uuid, computeIntendedDRBDState (reportedObject converged current kept err maintenance) dev up
        granularity =
      { computeIntendedDRBDState converged.drbdr dev up granularity with
        statusDeviceUUID := uuid } := by
  have hreport : (report converged.aState converged.drbdr).1.name = converged.drbdr.name ∧
      (report converged.aState converged.drbdr).1.spec = converged.drbdr.spec ∧
      (report converged.aState converged.drbdr).1.status.addresses =
        converged.drbdr.status.addresses := by
    unfold report
    split
    · exact ⟨rfl, rfl, rfl⟩
    · split
      · exact ⟨rfl, rfl, rfl⟩
      · refine ⟨rfl, rfl, ?_⟩
        dsimp only [reportDevice, reportVolume]
        split <;> split <;> (try split) <;> rfl
  obtain ⟨hname, hspec, haddresses⟩ := hreport
  refine ⟨(reportedObject converged current kept err maintenance).status.deviceUUID, ?_⟩
  have hname' : (reportedObject converged current kept err maintenance).name =
      converged.drbdr.name := hname
  have hspec' : (reportedObject converged current kept err maintenance).spec =
      converged.drbdr.spec := hspec
  have haddresses' : (reportedObject converged current kept err maintenance).status.addresses =
      converged.drbdr.status.addresses := haddresses
  simp only [computeIntendedDRBDState, drbdResourceNameOnTheNode, hname', hspec', haddresses']

section Reported

variable {kernel : Kernel} {granularity : Device → ℕ} {h : List AgentEvent} {w : World}
  {n : String}

theorem holds_resolved (drbdr : DRBDResource) (err : Failures) :
    Yields (answers kernel)
      (fun resolved _ w' => w' = w ∧ (resolved.2 = [] → err = [] ∧ resolved.1 = drbdr))
      (ensureLocalPortConflictResolved drbdr err) h w := by
  unfold ensureLocalPortConflictResolved
  split
  · exact ⟨rfl, fun hempty => ⟨hempty, rfl⟩⟩
  · rename_i ip hconflict
    have hne : err ≠ [] := by
      rintro rfl
      cases hconflict
    split
    · exact ⟨rfl, fun hempty => absurd hempty hne⟩
    · refine holds_ask_bind trivial fun answer w1 hreply => ?_
      obtain rfl : w1 = w := hreply
      cases answer with
      | error | ok => exact ⟨rfl, fun hempty => absurd (map_eq_nil_iff.mp hempty) hne⟩

variable {i : IntendedState} {fresh : String} {a : ActualState}

theorem computeTargetDRBDActions_ne_nil : computeTargetDRBDActions flant fresh i (some a) ≠ [] := by
  unfold computeTargetDRBDActions
  dsimp only
  split
  · exact cons_ne_nil _ _
  · rw [computeBringUpActions_eq]
    simp [volumeActions]

/-- What convergence has done where it found nothing wrong: all actions for the observed state
were carried out, and the state was observed again. -/
def Done (kernel : Kernel) (flant : Bool) (i : IntendedState) (w : World) (n : String)
    (b : ActualState) (w' : World) : Prop :=
  Observes w' n b ∧ ∃ a fresh, Observes w n a ∧
    (∀ err, Action.fail err ∉ computeTargetDRBDActions flant fresh i (some a)) ∧
    w' = w.effects kernel (computeTargetDRBDActions flant fresh i (some a))

theorem holds_reconcileDRBDState_done (r : Reconciler) (drbdr : DRBDResource)
    (observed : Option ActualState × Failures) (dev : Option Device) (up : Bool)
    (hname : drbdResourceNameOnTheNode drbdr = n)
    (hobs : ∀ a, observed.1 = some a → observed.2 = [] ∧ Observes w n a) :
    Yields (exactly kernel granularity)
      (fun converged _ w' => converged.err = [] → ∀ b, converged.aState = some b →
        converged.drbdr = drbdr ∧ Done kernel r.flant (computeIntendedDRBDState drbdr dev up
          ((dev.map granularity).getD 0)) w n b w')
      (reconcileDRBDState r drbdr observed dev up false) h w := by
  unfold reconcileDRBDState
  refine ((observeDisk_observes observed dev _ hobs).of_act exactly_reply).bind ?_
  rintro probed h1 w1 ⟨rfl, -, hprobed⟩
  have hgranularity : Yields (exactly kernel granularity)
      (fun found _ w' => w' = w1 ∧ found = (dev.map granularity).getD 0)
      (readDiscardGranularity dev) h1 w1 := by
    cases dev with
    | none => exact ⟨rfl, rfl⟩
    | some d => exact ⟨trivial, fun answer w' hreply => ⟨hreply.1, hreply.2⟩⟩
  refine hgranularity.bind ?_
  rintro _ h2 w2 ⟨rfl, rfl⟩
  refine holds_ask_bind trivial fun fresh w3 hreply => ?_
  obtain rfl : w3 = w2 := hreply.1
  obtain ⟨aState, probeErr⟩ := probed
  cases aState with
  | none =>
    -- Nothing was observed, so nothing is done and nothing is known.
    refine holds_bind.mpr ?_
    simp only [computeTargetDRBDActions, convergeDRBDState, Program.pure_eq, holds_ret]
    unfold refreshState
    refine ((holds_resolved drbdr []).of_act exactly_reply).bind ?_
    rintro resolved h4 w4 -
    exact fun _ b hb => by cases hb
  | some a =>
    refine (holds_converge_exactly _ fun err herr =>
      computeTargetDRBDActions_fail herr).bind ?_
    intro result h4 w4 hdone
    unfold refreshState
    refine ((holds_resolved drbdr result.2).of_act exactly_reply).bind ?_
    rintro ⟨resolved, drbdErr⟩ h5 w5 ⟨rfl, hresolved⟩
    dsimp only
    have hfirst : ∀ {Q : Prop}, ¬ drbdErr = [] → ∀ errs : Failures, errs ++ drbdErr = [] → Q :=
      fun hne errs hempty => absurd (append_eq_nil_iff.mp hempty).2 hne
    split
    · refine ((observeActualDRBDState_observes _).of_act exactly_reply).bind ?_
      rintro again h6 w6 ⟨rfl, hagain, -⟩
      refine ((observeDisk_observes again dev _ hagain).of_act exactly_reply).bind ?_
      rintro final h7 w7 ⟨rfl, -, hfinal⟩ herr b hb
      by_cases hclean : drbdErr = []
      · obtain ⟨hresult, hsame⟩ := hresolved hclean
        have hsame : resolved = drbdr := hsame
        obtain ⟨hworld, hnone, -⟩ := hdone hresult
        refine ⟨hsame, ?_, a, fresh, hprobed a rfl, hnone, hworld⟩
        have hlast := hfinal b hb
        rw [hsame, hname] at hlast
        exact hlast
      · exact hfirst hclean _ herr
    · rename_i hexecuted
      intro herr
      by_cases hclean : drbdErr = []
      · obtain ⟨-, -, hnothing⟩ := hdone (hresolved hclean).1
        exact absurd (hnothing (by simpa using hexecuted)) computeTargetDRBDActions_ne_nil
      · exact hfirst hclean _ herr

theorem after_volumes_length (minorOf : Minor → ℕ) (actions : List Action) (k : KernelResource) :
    (k.after kernel minorOf actions).volumes.length = k.volumes.length := by
  induction actions generalizing k with
  | nil => rfl
  | cons action rest ih =>
    rw [after_cons, ih]
    cases action <;> first | rfl | exact length_map _

theorem computeResourceOptions_within :
    ∀ action ∈ computeResourceOptions flant n i a, action.within n = true := by
  intro action haction
  unfold computeResourceOptions computeResourceOptionsAction
    computeResourceOptionsActionReconcile at haction
  dsimp only at haction
  split at haction
  · rw [mem_singleton.mp haction]
    exact decide_eq_true rfl
  · split at haction
    · cases haction
    · rw [mem_singleton.mp haction]
      exact decide_eq_true rfl

variable {b : ActualState}

theorem bringUp_count (hobs : Observes w i.resourceName a)
    (hb : Observes (w.effects kernel (computeBringUpActions flant fresh i a)) i.resourceName b)
    (hone : b.status.isSome = true → b.volumes.length = 1) : w.volumeCount i.resourceName ≤ 1 := by
  by_contra hmany
  cases hk : w.resources i.resourceName with
  | none => simp [World.volumeCount, hk] at hmany
  | some k =>
    have hlength : 1 < k.volumes.length := by simpa [World.volumeCount, hk] using hmany
    have hvolumes : a.volumes ≠ [] := by
      intro hempty
      have hzero := hobs.volumes_eq_nil.mp hempty
      omega
    have hexists : a.resourceExists = true := by
      rw [hobs.resourceExists, hk]
      rfl
    have hwithin : ∀ action ∈ computeBringUpActions flant fresh i a,
        action.within i.resourceName = true := by
      rw [computeBringUpActions_eq, if_pos hexists, nil_append]
      refine forall_mem_append.mpr ⟨computeResourceOptions_within,
        forall_mem_append.mpr ⟨?_, volumeActions_within flant fresh i a⟩⟩
      unfold computeMinorActions
      split
      · exact fun action haction => absurd haction not_mem_nil
      · exact absurd ‹_› hvolumes
    have hk' := (effects_within kernel w hwithin).1
    rw [hk, map_some] at hk'
    have hstatus : b.status = some (KernelResource.status
        (k.after kernel w.minorOf (computeBringUpActions flant fresh i a))) := by
      rw [hb.1, hk']
      rfl
    have hlast := hone (by rw [hstatus]; rfl)
    simp [ActualState.volumes, hstatus, KernelResource.status, after_volumes_length] at hlast
    omega

/-- After a pass that found nothing wrong the link alone is left exactly where one pass was
enough, or where the resource was taken down. -/
theorem Done.onlyLink (hconnect : kernel.connectingState ≠ "StandAlone")
    (hconsistent : ∀ k, w.resources i.resourceName = some k → k.Consistent)
    (hdone : Done kernel flant i w i.resourceName b w')
    (hone : b.status.isSome = true → b.volumes.length = 1) (again uuid : String) :
    OnlyLink (computeTargetDRBDActions flant again { i with statusDeviceUUID := uuid } (some b)) ↔
      (i.isUpAndNotInCleanup = true → Reaches kernel i (w.startOf kernel i)) := by
  obtain ⟨hb, a, fresh, hobs, hfail, rfl⟩ := hdone
  unfold computeTargetDRBDActions at hb hfail ⊢
  dsimp only at hb hfail ⊢
  by_cases hup : i.isUpAndNotInCleanup = true
  · simp only [hup, Bool.not_true, Bool.false_eq_true, if_false, true_implies] at hb hfail ⊢
    exact bringUp_onlyLink hconnect hobs hconsistent (bringUp_count hobs hb hone) hfail hb again
      uuid
  · simp only [hup, Bool.not_false, if_true, Bool.false_eq_true, false_implies, iff_true] at hb ⊢
    have hgone : b.resourceExists = false := by
      rw [hb.resourceExists, hobs.resourceExists]
      cases hk : w.resources i.resourceName with
      | none => simp [World.effects, World.effect, hk]
      | some k => simp [World.effects, World.effect]
    rw [hgone]
    exact ⟨_, rfl, rfl⟩

def ReportedTruly (kernel : Kernel) (granularity : Device → ℕ) (flant : Bool) (w : World)
    (report : Report) : Prop :=
  ∀ fresh, OnlyLink (computeTargetDRBDActions flant fresh (report.intended granularity)
      report.aState) ↔
    (report.upAndNotInCleanup = true →
      Reaches kernel (report.intended granularity) (w.startOf kernel (report.intended granularity)))

theorem holds_any {α : Type} (p : Prog α) :
    Yields (exactly kernel granularity) (fun _ _ _ => True) p h w :=
  Calls.holds (calls_any p) (fun _ _ _ _ _ => trivial) (fun _ _ _ _ _ _ _ _ => trivial) trivial

theorem holds_reportHeld (r : Reconciler) (drbdr : DRBDResource)
    (observed : Option ActualState × Failures) (list : List String) (up maintenance : Bool)
    (hconnect : kernel.connectingState ≠ "StandAlone") (hname : drbdResourceNameOnTheNode drbdr = n)
    (hconsistent : ∀ k, w.resources n = some k → k.Consistent)
    (hobs : ∀ a, observed.1 = some a → observed.2 = [] ∧ Observes w n a) :
    Yields (exactly kernel granularity)
      (fun report _ _ => report.object.Configured →
        ReportedTruly kernel granularity r.flant w report)
      (reportHeld r drbdr observed list up maintenance) h w := by
  unfold reportHeld
  refine (holds_keeps (w := w) ?_).bind ?_
  · split
    · exact reconcileLLVFinalizerAdd_calls keepsDRBD_read _ _ fun _ _ => rfl
    · trivial
  rintro ⟨dev, llvErr⟩ h1 w1 hresources
  cases maintenance with
  | true =>
    refine (holds_any _).bind fun converged h2 w2 _ => ?_
    refine (holds_any _).bind fun current h3 w3 _ => ?_
    refine (holds_any _).bind fun released h4 w4 _ => ?_
    exact fun hconfigured => nomatch (configured_report hconfigured).2.1
  | false =>
    refine (holds_reconcileDRBDState_done r drbdr observed dev up hname fun a ha =>
      ⟨(hobs a ha).1, (hobs a ha).2.of_resources hresources⟩).bind fun converged h2 w2 hdone => ?_
    refine (holds_any _).bind fun current h3 w3 _ => ?_
    refine (holds_any _).bind fun released h4 w4 _ => ?_
    intro hconfigured fresh
    obtain ⟨herr, -, hreport⟩ := configured_report hconfigured
    obtain ⟨b, hb, hone⟩ := report_ok hreport
    obtain ⟨hsame, hdone⟩ := hdone (append_eq_nil_iff.mp herr).2 b hb
    obtain ⟨uuid, hintended⟩ := reportedObject_intended converged current released.1
      (llvErr ++ released.2 ++ converged.err) false dev up ((dev.map granularity).getD 0)
    rw [hsame] at hintended
    have hstart : ∀ i, w1.startOf kernel i = w.startOf kernel i := fun i => by
      rw [World.startOf, World.startOf, hresources]
    show OnlyLink (computeTargetDRBDActions r.flant fresh (computeIntendedDRBDState
      (reportedObject converged current released.1 (llvErr ++ released.2 ++ converged.err) false)
      dev up ((dev.map granularity).getD 0)) converged.aState) ↔ (up = true → Reaches kernel
        (computeIntendedDRBDState (reportedObject converged current released.1
          (llvErr ++ released.2 ++ converged.err) false) dev up ((dev.map granularity).getD 0))
        (w.startOf kernel (computeIntendedDRBDState (reportedObject converged current released.1
          (llvErr ++ released.2 ++ converged.err) false) dev up ((dev.map granularity).getD 0))))
    rw [hintended, hb, reaches_uuid, ← hstart]
    subst hname
    exact Done.onlyLink hconnect (by rw [hresources]; exact hconsistent) hdone hone fresh uuid

theorem ReportedTruly.of_resources {w1 : World} {report : Report}
    (hsame : w1.resources = w.resources) (h : ReportedTruly kernel granularity flant w1 report) :
    ReportedTruly kernel granularity flant w report := by
  intro fresh
  have hstart : w1.startOf kernel (report.intended granularity) =
      w.startOf kernel (report.intended granularity) := by
    rw [World.startOf, World.startOf, hsame]
  rw [← hstart]
  exact h fresh

theorem holds_reconcileToReport (r : Reconciler) (drbdr : DRBDResource)
    (hconnect : kernel.connectingState ≠ "StandAlone")
    (hname : drbdResourceNameOnTheNode drbdr = n) (hversion : Versioned w drbdr)
    (hconsistent : ∀ k, w.resources n = some k → k.Consistent) :
    Yields (exactly kernel granularity)
      (fun result _ _ => ∀ report, result = .ok report → report.object.Configured →
        ReportedTruly kernel granularity r.flant w report)
      (reconcileToReport r drbdr) h w := by
  unfold reconcileToReport
  split
  · refine (holds_any _).bind fun outcome _ _ _ => ?_
    exact fun _ h => nomatch h
  refine ((holds_keeps (w := w) (reconcileFinalizer_calls drbdr true _
    fun _ => rfl)).and_post ((reconcileFinalizer_hands_on drbdr true _ hversion).of_act
      exactly_reply)).bind ?_
  rintro result h1 w1 ⟨hresources1, hresult⟩
  cases result with
  | error outcome => exact fun _ h => nomatch h
  | ok obj =>
    obtain ⟨hobj, hversion1⟩ := hresult obj rfl
    have hname1 := hobj.nameOnTheNode.trans hname
    dsimp only
    rw [hname1]
    refine ((observeActualDRBDState_observes n).of_act exactly_reply).bind ?_
    rintro ⟨aState, aErr⟩ h2 w2 ⟨rfl, hobs, -⟩
    refine ((holds_keeps (w := w2) (reconcileAddresses_calls keepsDRBD_read r obj _
      fun _ => rfl)).and_post ((reconcileAddresses_hands_on r obj _ hversion1).of_act
        exactly_reply)).bind ?_
    rintro result h3 w3 ⟨hresources3, hresult⟩
    cases result with
    | error outcome => exact fun _ h => nomatch h
    | ok obj3 =>
      refine (holds_keeps (w := w3) (reconcileLLVFinalizersToRelease_calls obj3 _ _
        fun _ => rfl)).bind ?_
      intro list h4 w4 hresources4
      have hsame : w4.resources = w2.resources := hresources4.trans hresources3
      cases list with
      | error outcome => exact fun _ h => nomatch h
      | ok list =>
        refine (holds_reportHeld r obj3 _ list _ _ hconnect
          ((hresult obj3 rfl).1.nameOnTheNode.trans hname1) ?_ fun a ha => ?_).bind ?_
        · rwa [hsame, hresources1]
        · obtain ⟨herr, hobserves⟩ := hobs a ha
          exact ⟨by rw [show aErr = [] from herr]; rfl, hobserves.of_resources hsame⟩
        · intro report h5 w5 htruly report' heq hconfigured
          obtain rfl := Except.ok.inj heq
          exact (htruly hconfigured).of_resources (hsame.trans hresources1)

end Reported

/-- A pass that reports `Configured=True` leaves nothing but the link to do exactly where one pass
is enough for the resource it started with, or where it takes the resource down. -/
theorem configured_iff_reaches (kernel : Kernel) (granularity : Device → ℕ)
    (hconnect : kernel.connectingState ≠ "StandAlone") (r : Reconciler) (drbdr : DRBDResource)
    (w : World) (hversion : Versioned w drbdr)
    (hconsistent : ∀ k, w.resources (drbdResourceNameOnTheNode drbdr) = some k → k.Consistent)
    {h' : List AgentEvent} {w' : World} {report : Report}
    (hrun : Runs (exactly kernel granularity) [] w (reconcileToReport r drbdr) h' w'
      (.ret (.ok report))) (hconfigured : report.object.Configured) (fresh : String) :
    OnlyLink (computeTargetDRBDActions r.flant fresh (report.intended granularity) report.aState) ↔
      (report.upAndNotInCleanup = true →
        Reaches kernel (report.intended granularity)
          (w.startOf kernel (report.intended granularity))) :=
  (holds_reconcileToReport r drbdr hconnect rfl hversion hconsistent).returned hrun report rfl
    hconfigured fresh

theorem respond_exactly (kernel : Kernel) (w : World) (c : Call) :
    exactly kernel (fun _ => 0) w c (respond kernel w c).1 (respond kernel w c).2 :=
  ⟨respond_reply kernel w c, by cases c <;> trivial⟩

def reportAfter (n : ℕ) (drbdr : DRBDResource) (w : World) : Option Report :=
  (afterCalls (respond plainKernel) n (reconcileToReport plainReconciler drbdr) w).2.2.result.bind
    Except.toOption

theorem runs_reportAfter {n : ℕ} {w : World} {report : Report}
    (h : reportAfter n drbdr w = some report) :
    ∃ h' w', Runs (exactly plainKernel fun _ => 0) [] w (reconcileToReport plainReconciler drbdr)
      h' w' (.ret (.ok report)) := by
  obtain ⟨result, hresult, hreport⟩ := bind_eq_some_iff.mp h
  cases result with
  | error outcome => cases hreport
  | ok found =>
    obtain rfl := some.inj hreport
    have hrun := runs_steps (fun _ w c => respond_exactly plainKernel w c) n
      (reconcileToReport plainReconciler drbdr) [] w
    have hlast := Program.result_eq_some hresult
    rw [show (Program.steps (fun _ w c => respond plainKernel w c) n
      (reconcileToReport plainReconciler drbdr) [] w).2.2 = .ret (.ok found) from hlast] at hrun
    exact ⟨_, _, hrun⟩

def diskB : Device := .lvm "vg" "b"

def llvB : LLV := { llvA with name := "llv-b", actualLVNameOnTheNode := "b" }

def movedResource : DRBDResource :=
  { plainResource with
    spec := { plainSpec with lvmLogicalVolumeName := "llv-b" }
    status := { plainResource.status with
      activeConfiguration := some { ActiveConfiguration.empty with
        llvFinalizersToRelease := ["llv-a", "llv-b"] } } }

def movedWorld : World :=
  { plainWorld with
    drbdr := some movedResource
    llvs := Function.update plainWorld.llvs "llv-b" (some llvB)
    resources := Function.update (fun _ => none) (drbdResourceNameOnTheNode movedResource)
      (some attachedKernelResource) }

/-- The pass detaches the old disk, attaches nothing and reports `Configured=True`. -/
theorem replaced_disk_reported_configured :
    ∃ h' w' report, Runs (exactly plainKernel fun _ => 0) [] movedWorld
        (reconcileToReport plainReconciler movedResource) h' w' (.ret (.ok report)) ∧
      report.object.Configured ∧ report.intendedDisk = some diskB ∧
      actualBackingDisk report.aState = none ∧
      ¬ OnlyLink (computeTargetDRBDActions plainReconciler.flant ""
        (report.intended fun _ => 0) report.aState) := by
  have hreport : (reportAfter 30 movedResource movedWorld).any (fun report =>
      decide report.object.Configured && decide (report.intendedDisk = some diskB) &&
        decide (actualBackingDisk report.aState = none) &&
        !decide (OnlyLink (computeTargetDRBDActions plainReconciler.flant ""
          (report.intended fun _ => 0) report.aState))) = true := by
    decide +kernel
  obtain ⟨report, hsome, hfacts⟩ := (any_eq_true _ _).mp hreport
  simp only [Bool.and_eq_true, decide_eq_true_eq, Bool.not_eq_true', decide_eq_false_iff_not]
    at hfacts
  obtain ⟨h', w', hrun⟩ := runs_reportAfter hsome
  exact ⟨h', w', report, hrun, hfacts.1.1.1, hfacts.1.1.2, hfacts.1.2, hfacts.2⟩

/-- After a reboot one pass is enough: the disk is attached and nothing is left to do. -/
theorem attached_disk_reported_configured :
    ∃ h' w' report, Runs (exactly plainKernel fun _ => 0) [] plainWorld
        (reconcileToReport plainReconciler plainResource) h' w' (.ret (.ok report)) ∧
      report.object.Configured ∧ report.upAndNotInCleanup = true ∧
      Reaches plainKernel (report.intended fun _ => 0)
        (plainWorld.startOf plainKernel (report.intended fun _ => 0)) := by
  have hreport : (reportAfter 30 plainResource plainWorld).any (fun report =>
      decide report.object.Configured && report.upAndNotInCleanup &&
        decide (OnlyLink (computeTargetDRBDActions plainReconciler.flant ""
          (report.intended fun _ => 0) report.aState))) = true := by
    decide +kernel
  obtain ⟨report, hsome, hfacts⟩ := (any_eq_true _ _).mp hreport
  simp only [Bool.and_eq_true, decide_eq_true_eq] at hfacts
  obtain ⟨h', w', hrun⟩ := runs_reportAfter hsome
  refine ⟨h', w', report, hrun, hfacts.1.1, hfacts.1.2, ?_⟩
  exact (configured_iff_reaches plainKernel (fun _ => 0) (by decide) plainReconciler plainResource
    plainWorld plainWorld_versioned (fun _ h => nomatch h) hrun hfacts.1.1 "").mp hfacts.2
    hfacts.1.2

end ReplicatedVolume.Agent
