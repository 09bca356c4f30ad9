import Mathlib.Algebra.BigOperators.Intervals
import Mathlib.Data.Finset.Lattice.Fold

/-!
# Leaky buckets

A bucket takes in `a i` at step `i` and then drains by `r i`, but not below zero; steps are
numbered from one. Its level looks like a matter of when it ran dry. It is not: the level is the
largest amount by which what came in over a window exceeds what could drain over it, among the
windows that end with the present step.

* **`level_eq_peak`** — the level is the largest excess of a window.
-/

namespace Bucket

/-- The level after `n` steps. -/
def level (a r : ℕ → ℕ) : ℕ → ℕ
  | 0 => 0
  | n + 1 => level a r n + a (n + 1) - r (n + 1)

/-- What came in over the steps `k + 1, …, n`, less what could drain over them. -/
def excess (a r : ℕ → ℕ) (k n : ℕ) : ℤ :=
  ∑ i ∈ Finset.Ioc k n, (a i : ℤ) - ∑ i ∈ Finset.Ioc k n, (r i : ℤ)

/-- The largest excess of the windows that end with step `n`, the empty one among them. -/
def peak (a r : ℕ → ℕ) (n : ℕ) : ℤ :=
  (Finset.range (n + 1)).sup' Finset.nonempty_range_add_one fun k => excess a r k n

variable {a a' r : ℕ → ℕ} {k n : ℕ}

/-- The level only looks at the steps taken. -/
theorem level_congr (h : ∀ i, 1 ≤ i → i ≤ n → a i = a' i) : level a r n = level a' r n := by
  induction n with
  | zero => rfl
  | succ n ih =>
    rw [level, level, ih fun i h1 hi => h i h1 (Nat.le_succ_of_le hi),
      h (n + 1) (Nat.succ_le_succ (Nat.zero_le n)) (Nat.le_refl _)]

theorem excess_self (a r : ℕ → ℕ) (n : ℕ) : excess a r n n = 0 := by simp [excess]

/-- A window one step longer. -/
theorem excess_succ (h : k ≤ n) :
    excess a r k (n + 1) = excess a r k n + a (n + 1) - r (n + 1) := by
  rw [excess, excess, Finset.sum_Ioc_succ_top h, Finset.sum_Ioc_succ_top h]
  omega

theorem excess_le_peak (h : k ≤ n) : excess a r k n ≤ peak a r n :=
  Finset.le_sup' (fun k => excess a r k n) (Finset.mem_range.mpr (Nat.lt_succ_of_le h))

/-- The peak is the excess of some window. -/
theorem exists_peak (a r : ℕ → ℕ) (n : ℕ) : ∃ k ≤ n, peak a r n = excess a r k n := by
  obtain ⟨k, hk, heq⟩ := Finset.exists_mem_eq_sup' Finset.nonempty_range_add_one
    (s := Finset.range (n + 1)) fun k => excess a r k n
  exact ⟨k, Nat.lt_succ_iff.mp (Finset.mem_range.mp hk), heq⟩

theorem peak_zero (a r : ℕ → ℕ) : peak a r 0 = 0 := by
  obtain ⟨k, hk, heq⟩ := exists_peak a r 0
  rw [heq, Nat.le_zero.mp hk, excess_self]

/-- One step on: every old window grows by the step, and the empty window starts afresh. -/
theorem peak_succ (a r : ℕ → ℕ) (n : ℕ) :
    peak a r (n + 1) = max 0 (peak a r n + a (n + 1) - r (n + 1)) := by
  apply le_antisymm
  · -- the window of the new peak is an old one, longer by a step, or empty
    obtain ⟨k, hk, heq⟩ := exists_peak a r (n + 1)
    rw [heq]
    rcases Nat.lt_or_eq_of_le hk with hlt | rfl
    · have hle := Nat.le_of_lt_succ hlt
      have := excess_le_peak (a := a) (r := r) hle
      rw [excess_succ hle]
      omega
    · rw [excess_self]
      exact le_max_left _ _
  · -- both kinds of window are there to be taken
    have hempty := excess_le_peak (a := a) (r := r) (Nat.le_refl (n + 1))
    obtain ⟨k, hk, heq⟩ := exists_peak a r n
    have hold := excess_le_peak (a := a) (r := r) (Nat.le_succ_of_le hk)
    rw [excess_self] at hempty
    rw [excess_succ hk, ← heq] at hold
    exact max_le hempty hold

/-- **The level is the largest excess of a window.** -/
theorem level_eq_peak (a r : ℕ → ℕ) (n : ℕ) : (level a r n : ℤ) = peak a r n := by
  induction n with
  | zero => rw [peak_zero]; rfl
  | succ n ih =>
    -- truncated subtraction is the maximum with zero
    rw [peak_succ, ← ih, level]
    omega

end Bucket
