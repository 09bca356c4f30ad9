import Mathlib.Data.List.Basic
import Mathlib.Logic.Function.Iterate

/-!
# A rank that the steps of a system lower

A rank is a natural number read off the state. When every step lowers it until it is spent, that
many steps spend it.

* **`spent_run`** — whatever the steps are;
* **`spent`** — when they are all the same.
-/

namespace Rank

variable {σ ι : Type*} {Inv : σ → Prop} {rank : σ → ℕ}

/-- **Once lowered by each step, the rank is spent after that many steps.** -/
theorem spent_run {step : σ → ι → σ} (hinv : ∀ s i, Inv s → Inv (step s i))
    (hrank : ∀ s i, Inv s → rank (step s i) ≤ rank s - 1) {s : σ} (h : Inv s) {is : List ι}
    (hn : rank s ≤ is.length) : Inv (is.foldl step s) ∧ rank (is.foldl step s) = 0 := by
  induction is generalizing s with
  | nil => exact ⟨h, Nat.le_zero.mp hn⟩
  | cons i is ih =>
    rw [List.length_cons] at hn
    have := hrank s i h
    exact ih (hinv s i h) (by omega)

/-- Enough steps spend the rank, within the invariant. -/
theorem spent {f : σ → σ} (hinv : ∀ s, Inv s → Inv (f s))
    (hrank : ∀ s, Inv s → rank (f s) ≤ rank s - 1) {s : σ} (h : Inv s) {n : ℕ}
    (hn : rank s ≤ n) : Inv (f^[n] s) ∧ rank (f^[n] s) = 0 := by
  have hrun := @spent_run σ Unit Inv rank (fun s _ => f s) (fun s _ => hinv s)
    (fun s _ => hrank s) s h (List.replicate n ()) (by rwa [List.length_replicate])
  rwa [List.foldl_const, List.length_replicate] at hrun

end Rank
