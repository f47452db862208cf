import ReplicatedVolume.Datamesh.Guards

/-!
# The size of a disk under its metadata

A lower volume holds the data and the metadata of DRBD, which grows with it in
steps of eight sectors. Among the sizes that are multiples of eight sectors a
larger lower volume never has less room, and the size that `lowerVolumeSize`
finds has room for what was asked for.
-/

namespace ReplicatedVolume.Datamesh
open Option

theorem metadataSectors_eq (l : ℕ) :
    metadataSectors l = 8 * ((56 * ((l + 511) / 512) + 4095) / 4096) + 72 := by
  simp only [metadataSectors, bitmapSectors, alignTo]
  omega

variable {l l' : ℕ}

theorem metadataSectors_mono (h : l ≤ l') : metadataSectors l ≤ metadataSectors l' := by
  rw [metadataSectors_eq, metadataSectors_eq]
  omega

theorem metadataSectors_step (hl : 8 ∣ l) (hl' : 8 ∣ l') (h : l ≤ l') :
    l + metadataSectors l' ≤ l' + metadataSectors l := by
  rcases h.eq_or_lt with rfl | hlt
  · exact le_rfl
  · rw [metadataSectors_eq, metadataSectors_eq]
    omega

theorem metadataSectors_gap {d : ℕ} (h : l' ≤ l + d) :
    metadataSectors l' ≤ metadataSectors l + 8 * ((56 * ((d + 511) / 512) + 4095) / 4096) := by
  rw [metadataSectors_eq, metadataSectors_eq]
  omega

def HasRoom (usableSectors lowerSectors : ℕ) : Prop :=
  usableSectors + metadataSectors lowerSectors ≤ lowerSectors

variable {usable : ℕ}

theorem HasRoom.mono (h : HasRoom usable l) (hl : 8 ∣ l) (hl' : 8 ∣ l')
    (hle : l ≤ l') : HasRoom usable l' := by
  have hstep := metadataSectors_step hl hl' hle
  unfold HasRoom at h ⊢
  omega

variable {fuel : ℕ}

theorem lowerSectorsFrom_hasRoom {start required : ℕ}
    (h : lowerSectorsFrom usable fuel start = some required) :
    8 ∣ required ∧ HasRoom usable required := by
  induction fuel generalizing start with
  | zero => cases h
  | succ fuel ih =>
    rw [lowerSectorsFrom] at h
    split at h
    · next hle =>
      rw [some.injEq] at h
      have hmono := metadataSectors_mono hle
      subst h
      unfold HasRoom
      have halign : usable + metadataSectors start ≤
          alignTo (usable + metadataSectors start) 8 := by
        unfold alignTo
        omega
      exact ⟨⟨_, Nat.mul_comm _ _⟩, (Nat.add_le_add_left hmono usable).trans halign⟩
    · exact ih h

theorem lowerSectorsFrom_le {start required limit : ℕ} (hlimit : 8 ∣ limit)
    (hroom : HasRoom usable limit) (hstart : start ≤ limit)
    (h : lowerSectorsFrom usable fuel start = some required) : required ≤ limit := by
  induction fuel generalizing start with
  | zero => cases h
  | succ fuel ih =>
    have hnext : alignTo (usable + metadataSectors start) 8 ≤ limit := by
      have hmono := metadataSectors_mono hstart
      unfold HasRoom at hroom
      unfold alignTo
      omega
    rw [lowerSectorsFrom] at h
    split at h
    · rw [some.injEq] at h
      exact h ▸ hnext
    · exact ih hnext h

theorem required_eq (h8 : 8 ∣ usable) (l : ℕ) :
    alignTo (usable + metadataSectors l) 8 = usable + metadataSectors l := by
  rw [metadataSectors_eq]
  unfold alignTo
  omega

theorem lowerSectorsFrom_stop (h8 : 8 ∣ usable) (h : usable + metadataSectors l ≤ l) :
    (lowerSectorsFrom usable (fuel + 1) l).isSome = true := by
  rw [lowerSectorsFrom, required_eq h8, if_pos h]
  rfl

theorem lowerSectorsFrom_succ (h8 : 8 ∣ usable)
    (h : (lowerSectorsFrom usable fuel (usable + metadataSectors l)).isSome = true) :
    (lowerSectorsFrom usable (fuel + 1) l).isSome = true := by
  rw [lowerSectorsFrom, required_eq h8]
  split
  · rfl
  · exact h

/-- The gap between two rounds shrinks until it is below 512 sectors. From there the metadata
grows by one block at most, so that the search stops two rounds later. -/
theorem lowerSectorsFrom_isSome (h8 : 8 ∣ usable) (hu : usable ≤ 2 ^ 53) :
    (lowerSectorsFrom usable 10 usable).isSome = true := by
  obtain ⟨l1, h1⟩ : ∃ l, l = usable + metadataSectors usable := ⟨_, rfl⟩
  obtain ⟨l2, h2⟩ : ∃ l, l = usable + metadataSectors l1 := ⟨_, rfl⟩
  obtain ⟨l3, h3⟩ : ∃ l, l = usable + metadataSectors l2 := ⟨_, rfl⟩
  obtain ⟨l4, h4⟩ : ∃ l, l = usable + metadataSectors l3 := ⟨_, rfl⟩
  obtain ⟨l5, h5⟩ : ∃ l, l = usable + metadataSectors l4 := ⟨_, rfl⟩
  have hfirst : l1 ≤ usable + 1924145348680 := by
    rw [h1, metadataSectors_eq]
    omega
  have hgap1 := metadataSectors_gap hfirst
  have hgap2 := metadataSectors_gap (show l2 ≤ l1 + 411041800 by omega)
  have hgap3 := metadataSectors_gap (show l3 ≤ l2 + 87816 by omega)
  have hgap4 := metadataSectors_gap (show l4 ≤ l3 + 24 by omega)
  have hgap5 := metadataSectors_gap (show l5 ≤ l3 + 512 by omega)
  have hlast : metadataSectors l5 ≤ metadataSectors l4 := by
    rcases Nat.lt_or_ge l4 l5 with hgrew | hsame
    · have hblocks3 := metadataSectors_eq l3
      have hblocks4 := metadataSectors_eq l4
      omega
    · exact metadataSectors_mono hsame
  refine lowerSectorsFrom_succ h8 (h1 ▸ lowerSectorsFrom_succ h8 (h2 ▸ lowerSectorsFrom_succ h8
    (h3 ▸ lowerSectorsFrom_succ h8 (h4 ▸ lowerSectorsFrom_succ h8 (h5 ▸ ?_)))))
  exact lowerSectorsFrom_stop h8 (by omega)

/-- The largest size whose lower volume is still a positive number of 64 bits. -/
def maxVolumeSize : ℕ := 2 ^ 63 - 7 * 2 ^ 48 - 40960

variable {n : ℕ}

theorem toInt64_of_lt (h : n < 2 ^ 63) : toInt64 n = n := by
  unfold toInt64
  rw [Int.bmod_eq_of_le] <;> omega

variable {size : ℕ}

theorem alignTo4Ki_of_le (h : size ≤ maxVolumeSize) : alignTo4Ki size = alignTo size 4096 := by
  unfold alignTo4Ki
  rw [if_pos (h.trans (by unfold maxVolumeSize; omega))]

variable {lowerSize : ℕ}

theorem usableSize_of_room (hsmall : lowerSize < 2 ^ 63) (hroom : HasRoom 0 (lowerSize / 512)) :
    usableSize lowerSize = (lowerSize / 512 - metadataSectors (lowerSize / 512) : ℕ) * 512 := by
  unfold HasRoom at hroom
  have hwrap : (lowerSize / 512 + (2 ^ 64 - metadataSectors (lowerSize / 512))) % 2 ^ 64 =
      lowerSize / 512 - metadataSectors (lowerSize / 512) := by
    omega
  rw [usableSize, hwrap, toInt64_of_lt (by omega)]
  push_cast
  rfl

theorem toUInt64_natCast (h : n < 2 ^ 64) : toUInt64 n = n := by
  unfold toUInt64
  omega

theorem hasRoom_last (h : usable ≤ maxVolumeSize / 512) : HasRoom usable (2 ^ 54 - 8) := by
  unfold HasRoom
  rw [metadataSectors_eq]
  unfold maxVolumeSize at h
  omega

theorem alignTo4Ki_le_usableSize {target : ℤ} (hsize : size ≤ maxVolumeSize)
    (htarget : lowerVolumeSize (alignTo4Ki size) = some target) (hblocks : 4096 ∣ lowerSize)
    (hsmall : lowerSize < 2 ^ 63) (hgrown : target ≤ lowerSize) :
    alignTo4Ki size ≤ usableSize lowerSize := by
  have hle : alignTo size 4096 ≤ maxVolumeSize := by
    unfold maxVolumeSize at hsize ⊢
    unfold alignTo
    omega
  have hmax : maxVolumeSize < 2 ^ 63 := by
    unfold maxVolumeSize
    omega
  rw [alignTo4Ki_of_le hsize] at htarget ⊢
  simp only [lowerVolumeSize, toUInt64_natCast (hle.trans_lt (hmax.trans (by omega))),
    map_eq_some_iff] at htarget
  obtain ⟨required, hrequired, rfl⟩ := htarget
  have hlast := hasRoom_last (Nat.div_le_div_right (c := 512) hle)
  have hlimit := lowerSectorsFrom_le (by omega) hlast ((Nat.le_add_right _ _).trans hlast) hrequired
  obtain ⟨hblock, hroom⟩ := lowerSectorsFrom_hasRoom hrequired
  rw [toInt64_of_lt (by omega)] at hgrown
  have hroom' : HasRoom (alignTo size 4096 / 512) (lowerSize / 512) :=
    hroom.mono hblock (by omega) (by omega)
  have hbare : HasRoom 0 (lowerSize / 512) := by
    unfold HasRoom at hroom' ⊢
    omega
  rw [usableSize_of_room hsmall hbare]
  unfold HasRoom at hroom'
  have haligned : alignTo size 4096 = alignTo size 4096 / 512 * 512 := by
    unfold alignTo
    omega
  omega

theorem toInt64_wrapped {missing : ℕ} (hpos : 0 < missing) (hsmall : missing < 2 ^ 53) :
    toInt64 ((2 ^ 64 - missing) * 512) < 0 := by
  have hsub : (((2 ^ 64 - missing) * 512 : ℕ) : ℤ) =
      -(missing * 512 : ℤ) + ((2 ^ 64 : ℕ) : ℤ) * 512 := by
    omega
  have hmod := Int.add_mul_bmod_self_left (-(missing * 512 : ℤ)) (2 ^ 64) 512
  have hnear := Int.bmod_eq_of_le (n := -(missing * 512 : ℤ)) (m := 2 ^ 64) (by omega) (by omega)
  unfold toInt64
  rw [hsub, hmod, hnear]
  omega

theorem hasRoom_of_usableSize (hsmall : lowerSize < 2 ^ 63) (h8 : 512 ∣ size)
    (h : (size : ℤ) ≤ usableSize lowerSize) : HasRoom (size / 512) (lowerSize / 512) := by
  by_cases hroom : HasRoom 0 (lowerSize / 512)
  · rw [usableSize_of_room hsmall hroom] at h
    unfold HasRoom at hroom ⊢
    omega
  · have hneg : usableSize lowerSize < 0 := by
      unfold HasRoom at hroom
      have hmeta := metadataSectors_eq (lowerSize / 512)
      obtain ⟨missing, hmissing⟩ : ∃ n, n = metadataSectors (lowerSize / 512) - lowerSize / 512 :=
        ⟨_, rfl⟩
      have hwrap : (lowerSize / 512 + (2 ^ 64 - metadataSectors (lowerSize / 512))) % 2 ^ 64 =
          2 ^ 64 - missing := by
        omega
      rw [usableSize, hwrap]
      exact toInt64_wrapped (by omega) (by omega)
    omega

/-- The search ends within its ten rounds, at the least lower volume with room for the size: among
the multiples of 4096 exactly the larger ones have room too. -/
theorem lowerVolumeSize_least {size : ℕ} (hsize : size < 2 ^ 62) :
    (size : ℤ) ≤ alignTo4Ki size ∧ ∃ lower : ℕ, lower < 2 ^ 63 ∧ 4096 ∣ lower ∧
      lowerVolumeSize (alignTo4Ki size) = some (lower : ℤ) ∧
      ∀ b < 2 ^ 63, 4096 ∣ b → (alignTo4Ki size ≤ usableSize b ↔ lower ≤ b) := by
  have hmax : size ≤ maxVolumeSize := by
    unfold maxVolumeSize
    omega
  have haligned := alignTo4Ki_of_le hmax
  have hle : size ≤ alignTo size 4096 ∧ alignTo size 4096 ≤ 2 ^ 62 ∧ 4096 ∣ alignTo size 4096 := by
    unfold alignTo
    omega
  obtain ⟨usable, husable⟩ : ∃ u, u = alignTo size 4096 / 512 := ⟨_, rfl⟩
  have hconverges := lowerSectorsFrom_isSome (show 8 ∣ usable by omega) (by omega)
  obtain ⟨required, hrequired⟩ := isSome_iff_exists.mp hconverges
  obtain ⟨hblock, hroom⟩ := lowerSectorsFrom_hasRoom hrequired
  have hlast := hasRoom_last (show usable ≤ maxVolumeSize / 512 by unfold maxVolumeSize; omega)
  have hlimit := lowerSectorsFrom_le (by omega) hlast ((Nat.le_add_right _ _).trans hlast) hrequired
  have hlower : lowerVolumeSize (alignTo4Ki size) = some ((required * 512 : ℕ) : ℤ) := by
    rw [haligned, lowerVolumeSize, toUInt64_natCast (by omega), ← husable, hrequired,
      map_some, toInt64_of_lt (by omega)]
  refine ⟨by omega, required * 512, by omega, by omega, hlower, fun b hb hblocks => ?_⟩
  constructor
  · intro hfits
    rw [haligned] at hfits
    have hroomb := hasRoom_of_usableSize hb (by omega) hfits
    rw [← husable] at hroomb
    have hleast := lowerSectorsFrom_le (by omega) hroomb ((Nat.le_add_right _ _).trans hroomb)
      hrequired
    omega
  · intro hgrown
    exact alignTo4Ki_le_usableSize hmax hlower hblocks hb (by omega)

theorem lowerVolumeSize_least_mebibyte :
    ∃ lower : ℕ, lowerVolumeSize (alignTo4Ki 1048000) = some (lower : ℤ) ∧
      ∀ b < 2 ^ 63, 4096 ∣ b → (alignTo4Ki 1048000 ≤ usableSize b ↔ lower ≤ b) :=
  let ⟨_, lower, _, _, h, hleast⟩ := lowerVolumeSize_least (show 1048000 < 2 ^ 62 by decide)
  ⟨lower, h, hleast⟩

end ReplicatedVolume.Datamesh
