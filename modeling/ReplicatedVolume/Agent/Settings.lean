import ReplicatedVolume.Library.Keyed
import ReplicatedVolume.Safety.Release

/-!
# Settings that are set match

The agent passes an option where the observed value differs from the intended one. Applied to the
kernel's value the passed options give the intended ones, so that nothing differs any more.
-/

namespace ReplicatedVolume.Agent
open List

variable {ap : ActualPeer} {o : ShowOptions} {v : KernelVolume}

section Keyed

variable {α β κ : Type} [DecidableEq κ] {key : α → κ} {a : α} {l : List α}

theorem mem_of_mem_lastByKey (h : a ∈ lastByKey key l) : a ∈ l := by
  induction l with
  | nil => exact h
  | cons b l ih =>
    unfold lastByKey at h
    split at h
    · exact mem_cons_of_mem _ (ih h)
    · rcases mem_cons.mp h with rfl | hrest
      · exact mem_cons_self
      · exact mem_cons_of_mem _ (ih hrest)

theorem exists_mem_lastByKey (key : α → κ) : ∀ a ∈ l, ∃ b ∈ lastByKey key l, key b = key a := by
  induction l with
  | nil => exact fun a h => absurd h not_mem_nil
  | cons c l ih =>
    intro a h
    unfold lastByKey
    split
    · rename_i hlater
      obtain ⟨b, hb, heq⟩ := any_eq_true.mp hlater
      rcases mem_cons.mp h with rfl | hrest
      · obtain ⟨d, hd, hkey⟩ := ih b hb
        exact ⟨d, hd, hkey.trans (by simpa using heq)⟩
      · exact ih a hrest
    · rcases mem_cons.mp h with rfl | hrest
      · exact ⟨a, mem_cons_self, rfl⟩
      · obtain ⟨b, hb, hkey⟩ := ih a hrest
        exact ⟨b, mem_cons_of_mem _ hb, hkey⟩

theorem lastByKey_nodup (l : List α) : ((lastByKey key l).map key).Nodup := by
  induction l with
  | nil => exact nodup_nil
  | cons a l ih =>
    unfold lastByKey
    split
    · exact ih
    · rename_i hnot
      refine nodup_cons.mpr ⟨fun hmem => hnot ?_, ih⟩
      obtain ⟨b, hb, heq⟩ := mem_map.mp hmem
      exact any_eq_true.mpr ⟨b, mem_of_mem_lastByKey hb, by simpa using heq⟩

theorem lastByKey_eq_self (h : (l.map key).Nodup) : lastByKey key l = l := by
  induction l with
  | nil => rfl
  | cons a l ih =>
    obtain ⟨hnot, hrest⟩ := nodup_cons.mp h
    unfold lastByKey
    rw [if_neg, ih hrest]
    intro hany
    obtain ⟨b, hb, heq⟩ := any_eq_true.mp hany
    exact hnot (mem_map.mpr ⟨b, hb, by simpa using heq⟩)

variable {left : List α} {right : List β} {rightKey : β → κ}

theorem mem_intersect_left :
    a ∈ (intersect left key right rightKey).1 ↔
      a ∈ lastByKey key left ∧ ∀ b ∈ right, rightKey b ≠ key a := by
  simp only [intersect, mem_filter, Bool.not_eq_true', any_eq_false, decide_eq_true_eq]
  refine and_congr_right fun _ => ⟨fun h b hb => ?_, fun h b hb => h b (mem_of_mem_lastByKey hb)⟩
  obtain ⟨c, hc, hkey⟩ := exists_mem_lastByKey rightKey b hb
  rw [← hkey]
  exact h c hc

variable {b : β}

theorem mem_intersect_right :
    b ∈ (intersect left key right rightKey).2.2 ↔
      b ∈ lastByKey rightKey right ∧ ∀ a ∈ left, key a ≠ rightKey b := by
  simp only [intersect, mem_filter, Bool.not_eq_true', any_eq_false, decide_eq_true_eq]
  refine and_congr_right fun _ => ⟨fun h a ha => ?_, fun h a ha => h a (mem_of_mem_lastByKey ha)⟩
  obtain ⟨c, hc, hkey⟩ := exists_mem_lastByKey key a ha
  rw [← hkey]
  exact h c hc

theorem mem_intersect_both : (a, b) ∈ (intersect left key right rightKey).2.1 ↔
      a ∈ lastByKey key left ∧ b ∈ lastByKey rightKey right ∧ rightKey b = key a := by
  simp only [intersect, mem_filterMap, Option.map_eq_some_iff, Prod.mk.injEq,
    Keyed.find?_eq_some (lastByKey_nodup right)]
  constructor
  · rintro ⟨a', ha', b', hb', rfl, rfl⟩
    exact ⟨ha', hb'⟩
  · rintro ⟨ha, hb⟩
    exact ⟨a, ha, b, hb, rfl, rfl⟩

theorem intersect_left_nodup : ((intersect left key right rightKey).1.map key).Nodup :=
  (lastByKey_nodup left).sublist (filter_sublist.map key)

theorem intersect_right_nodup : ((intersect left key right rightKey).2.2.map rightKey).Nodup :=
  (lastByKey_nodup right).sublist (filter_sublist.map rightKey)

theorem intersect_both_nodup :
    ((intersect left key right rightKey).2.1.map (fun pair => key pair.1)).Nodup := by
  refine (show ((lastByKey key left).map key).Nodup from lastByKey_nodup left).sublist ?_
  simp only [intersect]
  induction lastByKey key left with
  | nil => exact List.Sublist.refl _
  | cons a l ih =>
    rw [filterMap_cons]
    split
    · exact ih.cons _
    · rename_i pair hpair
      obtain ⟨b, -, rfl⟩ := Option.map_eq_some_iff.mp hpair
      exact ih.cons_cons _

end Keyed

def actualVolume (v : KernelVolume) : ActualVolume where
  minor := v.minor
  volumeNr := v.volumeNr
  diskState := v.diskState
  hasQuorum := v.quorum
  sizeBytes := v.size * 1024
  showVolume := some { volumeNr := v.volumeNr, backingDisk := v.backingDisk, disk := v.disk }

def actualPeer (c : KernelConnection) : ActualPeer where
  connection :=
    { peerNodeID := c.peerNodeID, name := c.name, connectionState := c.connectionState
      paths := c.paths
      peerDevices := c.peerDevices.map fun p =>
        { volume := p.volumeNr, peerDiskState := p.peerDiskState
          replicationState := p.replicationState } }
  showConnection := some
    { peerNodeID := c.peerNodeID, net := c.net
      volumes := c.peerDevices.map fun p => { volumeNr := p.volumeNr, disk := p.disk } }

@[simp] theorem actualVolume_backingDisk (v : KernelVolume) :
    (actualVolume v).backingDisk = v.backingDisk := rfl

@[simp] theorem actualPeer_paths (c : KernelConnection) : (actualPeer c).paths = c.paths := rfl

@[simp] theorem actualPeer_connectionState (c : KernelConnection) :
    (actualPeer c).connectionState = c.connectionState := rfl

section Views

variable {w : World} {n : String} {a : ActualState} {k : KernelResource}

section
variable (hobs : Observes w n a)
include hobs

theorem Observes.shown_options (hk : w.resources n = some k) :
    a.shown.map (·.options) = some k.options := by
  rw [hobs.2, hk]
  rfl

theorem Observes.role (hk : w.resources n = some k) : a.role = k.role := by
  simp [ActualState.role, hobs.1, hk, KernelResource.status]

theorem Observes.resourceExists : a.resourceExists = (w.resources n).isSome := by
  cases hk : w.resources n <;> simp [ActualState.resourceExists, hobs.1, hobs.2, hk]

theorem Observes.volumes_single (hk : w.resources n = some k)
    (hv : k.volumes = [v]) : a.volumes = [actualVolume v] := by
  simp [ActualState.volumes, ActualState.showVolume, hobs.1, hobs.2, hk, KernelResource.status,
    KernelResource.shown, hv, actualVolume]

theorem Observes.peers (hk : w.resources n = some k)
    (hnodup : (k.connections.map (·.peerNodeID)).Nodup) :
    a.peers = k.connections.map actualPeer := by
  have hshow : ∀ c ∈ k.connections, a.showConnection c.peerNodeID =
      (actualPeer c).showConnection := by
    intro c hc
    have hfind : (k.connections.reverse).find? (·.peerNodeID = c.peerNodeID) = some c := by
      refine (Keyed.find?_eq_some ?_).mpr ⟨mem_reverse.mpr hc, rfl⟩
      rw [map_reverse]
      exact nodup_reverse.mpr hnodup
    simp only [ActualState.showConnection, hobs.2, hk, Option.map_some, Option.bind_some,
      KernelResource.shown, ← map_reverse, List.find?_map]
    rw [show ((fun x : ShowConnection => decide (x.peerNodeID = c.peerNodeID)) ∘ fun c =>
        ({ peerNodeID := c.peerNodeID, net := c.net, volumes := c.peerDevices.map fun p =>
          { volumeNr := p.volumeNr, disk := p.disk } } : ShowConnection)) =
        fun x : KernelConnection => decide (x.peerNodeID = c.peerNodeID) from rfl, hfind]
    rfl
  simp only [ActualState.peers, hobs.1, hk, Option.map_some, KernelResource.status, map_map]
  refine map_congr_left fun c hc => ?_
  simp only [Function.comp, hshow c hc]
  rfl

end

end Views

section Settings

variable {flant : Bool} {i : IntendedState} {a : ActualState}

theorem changedResourceOptions_eq
    (h : a.shown.map (·.options) = some o) : changedResourceOptions flant i a =
      { quorum := if quorumMatches i.quorum o.quorum then none else some i.quorum
        quorumMinimumRedundancy :=
          if quorumMatches i.quorumMinimumRedundancy o.quorumMinimumRedundancy then none
          else some i.quorumMinimumRedundancy
        autoPromote := if intendedAutoPromote ≠ o.autoPromote then some intendedAutoPromote
          else none
        onNoQuorum := if intendedOnNoQuorum ≠ o.onNoQuorum then intendedOnNoQuorum else ""
        onNoDataAccessible :=
          if intendedOnNoDataAccessible ≠ o.onNoDataAccessible then intendedOnNoDataAccessible
          else ""
        onSuspendedPrimaryOutdated :=
          if intendedOnSuspendedPrimaryOutdated ≠ o.onSuspendedPrimaryOutdated then
            intendedOnSuspendedPrimaryOutdated
          else ""
        quorumDynamicVoters :=
          if flant || !intendedQuorumDynamicVoters flant then
            if intendedQuorumDynamicVoters flant ≠ o.quorumDynamicVoters then
              some (intendedQuorumDynamicVoters flant)
            else none
          else none } := by
  obtain ⟨s, hs, rfl⟩ := Option.map_eq_some_iff.mp h
  simp only [changedResourceOptions, ActualState.quorum, ActualState.quorumMinimumRedundancy,
    ActualState.autoPromote, ActualState.onNoQuorum, ActualState.onNoDataAccessible,
    ActualState.onSuspendedPrimaryOutdated, ActualState.quorumDynamicVoters, hs, Option.map_some,
    Option.getD_some]

theorem text_applied {intended actual : String} (hne : intended ≠ "") :
    (if intended ≠ (if (if intended ≠ actual then intended else "") = "" then actual
      else if intended ≠ actual then intended else "") then intended else "") = "" := by
  by_cases h : intended = actual
  · simp [h]
  · simp [h, hne]

variable {b : ActualState}

theorem changedResourceOptions_applied
    (ha : a.shown.map (·.options) = some o) (hb : b.shown.map (·.options) =
      some (applyResourceOptions (changedResourceOptions flant i a) o)) :
    changedResourceOptions flant i b = .unchanged := by
  rw [changedResourceOptions_eq hb, changedResourceOptions_eq ha]
  simp only [applyResourceOptions, ResourceOptions.unchanged, ResourceOptions.mk.injEq,
    quorumMatches]
  refine ⟨?_, ?_, ?_, ?_, ?_, ?_, ?_⟩
  · by_cases h : intendedAutoPromote = o.autoPromote <;> simp [h]
  · exact text_applied (by decide)
  · exact text_applied (by decide)
  · exact text_applied (by decide)
  · by_cases h : o.quorum = quorumText i.quorum <;> simp [h]
  · by_cases h : o.quorumMinimumRedundancy = quorumText i.quorumMinimumRedundancy <;> simp [h]
  · by_cases hflant : (flant || !intendedQuorumDynamicVoters flant) = true
    · by_cases h : intendedQuorumDynamicVoters flant = o.quorumDynamicVoters <;> simp [hflant, h]
    · simp [hflant]

theorem changedResourceOptions_created {name : String} {options : ResourceOptions}
    (hcreate : computeResourceOptionsAction flant name i = [.resourceOptions name options])
    (hb : b.shown.map (·.options) = some (applyResourceOptions options o)) :
    changedResourceOptions flant i b = .unchanged := by
  simp only [computeResourceOptionsAction, List.cons.injEq, and_true,
    Action.resourceOptions.injEq, true_and] at hcreate
  subst hcreate
  rw [changedResourceOptions_eq hb]
  cases flant <;>
    simp [applyResourceOptions, ResourceOptions.unchanged, quorumMatches,
      intendedOnNoQuorum, intendedOnNoDataAccessible, intendedOnSuspendedPrimaryOutdated,
      intendedQuorumDynamicVoters]

theorem passed_eq_none {α β : Type} {x y : α} {z : β} [Decidable (x ≠ y)] :
    (if x ≠ y then some z else none) = none ↔ x = y := by
  by_cases h : x = y <;> simp [h]

def newDiskOptions (flant : Bool) (i : IntendedState) : DiskOptions where
  discardZeroesIfAligned := some intendedDiscardZeroesIfAligned
  rsDiscardGranularity := some i.rsDiscardGranularity
  nonVoting := if flant || i.nonVoting then some i.nonVoting else none

/-- The options of a disk are those of the spec; voting is set only where the kernel knows it. -/
structure DiskFits (flant : Bool) (i : IntendedState) (disk : ShowVolumeDisk) : Prop where
  discardZeroesIfAligned : intendedDiscardZeroesIfAligned = disk.discardZeroesIfAligned
  rsDiscardGranularity : toString i.rsDiscardGranularity = disk.rsDiscardGranularity
  nonVoting : (flant || i.nonVoting) = true → i.nonVoting = disk.nonVoting

theorem changedDiskOptions_eq_unchanged :
    changedDiskOptions flant i (actualVolume v) = .unchanged ↔ DiskFits flant i v.disk := by
  simp only [changedDiskOptions, DiskOptions.unchanged, DiskOptions.mk.injEq, passed_eq_none]
  constructor
  · rintro ⟨h1, h2, h3⟩
    refine ⟨h1, h2, fun hflant => ?_⟩
    rw [if_pos hflant, passed_eq_none] at h3
    exact h3
  · rintro ⟨h1, h2, h3⟩
    refine ⟨h1, h2, ?_⟩
    by_cases hflant : (flant || i.nonVoting) = true
    · rw [if_pos hflant, passed_eq_none]
      exact h3 hflant
    · rw [if_neg hflant]

theorem diskFits_applied (v : KernelVolume) :
    DiskFits flant i (applyDiskOptions (changedDiskOptions flant i (actualVolume v)) v.disk) where
  discardZeroesIfAligned := by
    simp only [applyDiskOptions, changedDiskOptions]
    split
    · rfl
    · next h => exact not_not.mp h
  rsDiscardGranularity := by
    simp only [applyDiskOptions, changedDiskOptions]
    split
    · rfl
    · next h => exact not_not.mp h
  nonVoting hflant := by
    simp only [applyDiskOptions, changedDiskOptions, if_pos hflant]
    split
    · rfl
    · next h => exact not_not.mp h

theorem diskFits_attached (disk : ShowVolumeDisk) :
    DiskFits flant i (applyDiskOptions (newDiskOptions flant i) disk) where
  discardZeroesIfAligned := rfl
  rsDiscardGranularity := rfl
  nonVoting hflant := by
    simp only [applyDiskOptions, newDiskOptions, if_pos hflant, Option.getD_some]

theorem equalFold_toLower (s : String) : equalFold s s.toLower = true := by
  have hchar : Char.toLower ∘ Char.toLower = Char.toLower := funext fun c => by simp
  simp [equalFold, String.toLower, String.map_map, hchar]

structure NetFits (p : IntendedPeer) (allowTwoPrimaries : Bool) (net : ShowNet) : Prop where
  protocol : p.protocol = net.protocol
  sharedSecret : p.sharedSecret = net.sharedSecret
  sharedSecretAlg : equalFold p.sharedSecretAlg net.cramHMACAlg = true
  allowTwoPrimaries : allowTwoPrimaries = net.allowTwoPrimaries
  allowRemoteRead : p.allowRemoteRead = net.allowRemoteRead
  verifyAlg : Agent.verifyAlg = net.verifyAlg

variable {p : IntendedPeer} {twoPrimaries : Bool}

theorem changedNetOptions_eq_unchanged {c : KernelConnection} :
    changedNetOptions p (actualPeer c) twoPrimaries = .unchanged ↔ NetFits p twoPrimaries c.net := by
  simp only [changedNetOptions, NetOptions.unchanged, NetOptions.mk.injEq, passed_eq_none]
  constructor
  · rintro ⟨h1, h2, h3, h4, h5, h6⟩
    refine ⟨h1, h2, ?_, h4, h5, h6⟩
    by_cases hfold : equalFold p.sharedSecretAlg (actualPeer c).sharedSecretAlg = true
    · exact hfold
    · rw [if_pos (by simpa using hfold)] at h3
      exact nomatch h3
  · rintro ⟨h1, h2, h3, h4, h5, h6⟩
    have hfold : equalFold p.sharedSecretAlg (actualPeer c).sharedSecretAlg = true := h3
    exact ⟨h1, h2, if_neg (by simpa using hfold), h4, h5, h6⟩

theorem netFits_applied (c : KernelConnection) :
    NetFits p twoPrimaries
      (applyNetOptions (changedNetOptions p (actualPeer c) twoPrimaries) c.net) := by
  simp only [changedNetOptions, actualPeer, ActualPeer.protocol, ActualPeer.sharedSecret,
    ActualPeer.sharedSecretAlg, ActualPeer.allowTwoPrimaries, ActualPeer.allowRemoteRead,
    ActualPeer.verifyAlg, Option.map_some, Option.getD_some, applyNetOptions]
  refine ⟨?_, ?_, ?_, ?_, ?_, ?_⟩
  · by_cases h : p.protocol = c.net.protocol <;> simp [h]
  · by_cases h : p.sharedSecret = c.net.sharedSecret <;> simp [h]
  · by_cases h : equalFold p.sharedSecretAlg c.net.cramHMACAlg = true
    · simp [h]
    · simp [h, equalFold_toLower]
  · by_cases h : twoPrimaries = c.net.allowTwoPrimaries <;> simp [h]
  · by_cases h : p.allowRemoteRead = c.net.allowRemoteRead <;> simp [h]
  · by_cases h : verifyAlg = c.net.verifyAlg <;> simp [h]

def intendedPeerDevice (p : IntendedPeer) : ShowConnectionVolumeDisk where
  bitmap := p.type ≠ .diskless
  cPlanAhead := defaultCPlanAhead
  cDelayTarget := defaultCDelayTarget
  cFillTarget := defaultCFillTarget
  cMaxRate := defaultCMaxRate
  cMinRate := defaultCMinRate

theorem changedPeerDeviceOptions_eq_unchanged :
    changedPeerDeviceOptions p ap = .unchanged ↔
      ap.peerDeviceDisk = some (intendedPeerDevice p) := by
  simp only [changedPeerDeviceOptions, PeerDeviceOptions.unchanged, PeerDeviceOptions.mk.injEq,
    passed_eq_none]
  simp only [ActualPeer.cPlanAhead, ActualPeer.cDelayTarget, ActualPeer.cFillTarget,
    ActualPeer.cMaxRate, ActualPeer.cMinRate, ActualPeer.bitmap]
  generalize ap.peerDeviceDisk = seen
  cases seen with
  | none => simp
  | some d =>
    obtain ⟨b, plan, delay, fill, max, min⟩ := d
    simp [intendedPeerDevice]

theorem passed_getD {α : Type} [DecidableEq α] {seen intended actual : α}
    (h : seen = actual ∨ seen ≠ intended) :
    (if seen ≠ intended then some intended else none).getD actual = intended := by
  by_cases heq : seen = intended
  · rcases h with rfl | hne
    · simp [heq]
    · exact absurd heq hne
  · simp [heq]

theorem applyPeerDeviceOptions_changed {d : ShowConnectionVolumeDisk}
    (h : ap.peerDeviceDisk = some d ∨ ap.peerDeviceDisk = none) :
    applyPeerDeviceOptions (changedPeerDeviceOptions p ap) d = intendedPeerDevice p := by
  have htext : ∀ (get : ShowConnectionVolumeDisk → String) (intended : String), intended ≠ "" →
      (ap.peerDeviceDisk.map get).getD "" = get d ∨
        (ap.peerDeviceDisk.map get).getD "" ≠ intended := by
    intro get intended hne
    rcases h with h | h
    · exact .inl (by rw [h]; rfl)
    · exact .inr (by rw [h]; exact hne.symm)
  simp only [changedPeerDeviceOptions, applyPeerDeviceOptions, intendedPeerDevice,
    ShowConnectionVolumeDisk.mk.injEq]
  refine ⟨?_, passed_getD (htext (·.cPlanAhead) _ (by decide)),
    passed_getD (htext (·.cDelayTarget) _ (by decide)),
    passed_getD (htext (·.cFillTarget) _ (by decide)),
    passed_getD (htext (·.cMaxRate) _ (by decide)), passed_getD (htext (·.cMinRate) _ (by decide))⟩
  by_cases hset : ap.bitmap = some (decide (p.type ≠ .diskless))
  · rw [if_neg (not_not.mpr hset), Option.getD_none]
    rcases h with h | h
    · simpa [ActualPeer.bitmap, h] using hset
    · simp [ActualPeer.bitmap, h] at hset
  · rw [if_pos hset, Option.getD_some]

end Settings

end ReplicatedVolume.Agent
