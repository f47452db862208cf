import Mathlib

/-!
# Rolling out configurations to lagging nodes

A node runs any published configuration not older than its floor. When each change of some aspect
is published only after every live node has reached the previous change, all live nodes run
configurations with at most two neighbouring values of that aspect.
-/

namespace Rollout

variable {Node Conf α : Type*}

/-- What was published so far, each configuration with its revision, and the
oldest revision that each node may still run. -/
structure History (Node Conf : Type*) where
  published : ℕ → Conf → Prop
  floor : Node → ℕ

namespace History

/-- The node may be running this configuration. -/
def View (h : History Node Conf) (n : Node) (c : Conf) : Prop :=
  ∃ r, h.published r c ∧ h.floor n ≤ r

/-- Every configuration from revision `r` on has the property. -/
def Since (h : History Node Conf) (P : Conf → Prop) (r : ℕ) : Prop :=
  ∀ r' c, h.published r' c → r ≤ r' → P c

/-- Every live node has reached revision `r`. -/
def Reached (h : History Node Conf) (live : Node → Prop) (r : ℕ) : Prop :=
  ∀ n, live n → r ≤ h.floor n

def publish (h : History Node Conf) (r : ℕ) (c : Conf) : History Node Conf :=
  { h with published := fun r' c' => h.published r' c' ∨ (r' = r ∧ c' = c) }

def raise (h : History Node Conf) (floor : Node → ℕ) : History Node Conf :=
  { h with floor := fun n => max (h.floor n) (floor n) }

theorem Since.publish {h : History Node Conf} {P : Conf → Prop} {r r' : ℕ} {c : Conf}
    (hsince : h.Since P r) (hc : r ≤ r' → P c) : (h.publish r' c).Since P r := by
  rintro r'' c' (hpub | ⟨rfl, rfl⟩) hle
  · exact hsince r'' c' hpub hle
  · exact hc hle

theorem Reached.raise {h : History Node Conf} {live : Node → Prop} {r : ℕ} (floor : Node → ℕ)
    (hreached : h.Reached live r) : (h.raise floor).Reached live r :=
  fun n hn => (hreached n hn).trans (le_max_left _ _)

end History

/-- The aspect `f` of the configuration has had the value `cur` since revision
`r`, and a neighbour of it back to a revision that every live node has reached. -/
structure Rolling (h : History Node Conf) (live : Node → Prop) (f : Conf → α)
    (adj : α → α → Prop) (cur : α) (r : ℕ) : Prop where
  since : h.Since (fun c => f c = cur) r
  before : ∃ prev r₀, (∀ r' c, h.published r' c → r₀ ≤ r' → r' < r → f c = prev) ∧
    adj prev cur ∧ h.Reached live r₀

namespace Rolling

variable {h : History Node Conf} {live live' : Node → Prop} {f : Conf → α} {adj : α → α → Prop}
  {cur : α} {r r' : ℕ} {c d : Conf}

/-- Two live nodes run equal or neighbouring values. -/
theorem views (hroll : Rolling h live f adj cur r) {m n : Node} (hm : live m) (hn : live n)
    (hc : h.View m c) (hd : h.View n d) :
    f c = f d ∨ adj (f c) (f d) ∨ adj (f d) (f c) := by
  obtain ⟨hsince, prev, r0, hprev, hadj, hreached⟩ := hroll
  have hvalue : ∀ n c, live n → h.View n c → f c = cur ∨ f c = prev := by
    intro n c hlive hview
    obtain ⟨r', hpub, hle⟩ := hview
    by_cases hr : r ≤ r'
    · exact .inl (hsince r' c hpub hr)
    · exact .inr (hprev r' c hpub ((hreached n hlive).trans hle) (not_le.mp hr))
  rcases hvalue m c hm hc with hc | hc <;> rcases hvalue n d hn hd with hd | hd <;> rw [hc, hd]
  · exact .inl rfl
  · exact .inr (.inr hadj)
  · exact .inr (.inl hadj)
  · exact .inl rfl

theorem start (hall : ∀ r' c, h.published r' c → f c = cur) (hrefl : adj cur cur)
    (hreached : h.Reached live r) : Rolling h live f adj cur r := by
  refine ⟨fun r' c hpub _ => hall r' c hpub, cur, r, ?_, hrefl, hreached⟩
  exact fun r' c hpub _ _ => hall r' c hpub

/-- Floors rise, and nodes that become live have reached the current value. -/
theorem mono (hroll : Rolling h live f adj cur r) (floor : Node → ℕ)
    (hlive : ∀ n, live' n → live n ∨ r ≤ max (h.floor n) (floor n)) :
    Rolling (h.raise floor) live' f adj cur r := by
  obtain ⟨hsince, prev, r0, hprev, hadj, hreached⟩ := hroll
  by_cases hle : r0 ≤ r
  · refine ⟨hsince, prev, r0, hprev, hadj, fun n hn => ?_⟩
    rcases hlive n hn with hn | hn
    · exact hreached.raise floor n hn
    · exact hle.trans hn
  · -- nothing between `r0` and `r`, so `r` serves as well
    refine ⟨hsince, prev, r, ?_, hadj, fun n hn => ?_⟩
    · intro r' c _ hr hr'
      exact absurd hr (not_le.mpr hr')
    · rcases hlive n hn with hn | hn
      · exact (not_le.mp hle).le.trans (hreached.raise floor n hn)
      · exact hn

/-- A configuration with the same value is published. -/
theorem keep (hroll : Rolling h live f adj cur r) (hc : f c = cur) (hle : r ≤ r') :
    Rolling (h.publish r' c) live f adj cur r := by
  obtain ⟨hsince, prev, r0, hprev, hadj, hreached⟩ := hroll
  refine ⟨hsince.publish fun _ => hc, prev, r0, ?_, hadj, hreached⟩
  rintro r'' c' (hpub | ⟨rfl, rfl⟩) hr hr'
  · exact hprev r'' c' hpub hr hr'
  · exact absurd hle (not_le.mpr hr')

/-- Once every live node has reached the current value, a neighbour of it may
be published. -/
theorem change (hroll : Rolling h live f adj cur r) (hreached : h.Reached live r)
    (hadj : adj cur (f c)) (hnew : ∀ r'' d, h.published r'' d → r'' < r') :
    Rolling (h.publish r' c) live f adj (f c) r' := by
  refine ⟨?_, cur, r, ?_, hadj, hreached⟩
  · rintro r'' c' (hpub | ⟨rfl, rfl⟩) hle
    · exact absurd hle (not_le.mpr (hnew r'' c' hpub))
    · rfl
  · rintro r'' c' (hpub | ⟨rfl, rfl⟩) hr hr'
    · exact hroll.since r'' c' hpub hr
    · exact absurd hr' (lt_irrefl _)

end Rolling

end Rollout
