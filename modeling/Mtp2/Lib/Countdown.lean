import Mathlib.Data.List.Induction
import Mathlib.Data.List.Count

/-!
# A countdown that events restart

A countdown loses one at each tick, and some of the other events set it back to its period. Over
a list of events only one question decides whether it is spent in time: whether a restart came
after the first tick.

* **`spent_iff`** — at the tick that completes the period, the countdown is spent exactly when no
  restart came after a tick.
-/

namespace Countdown

variable {ι : Type*} {tick e : ι} {restart : ι → Bool} {period v : ℕ} {es : List ι}

/-- Some restart comes after a tick. -/
def RestartedLate (tick : ι) (restart : ι → Bool) (es : List ι) : Prop :=
  ∃ before e after, es = before ++ e :: after ∧ tick ∈ before ∧ restart e = true

/-- What has happened in a run has happened in a longer one. -/
theorem RestartedLate.snoc (h : RestartedLate tick restart es) (e : ι) :
    RestartedLate tick restart (es ++ [e]) := by
  obtain ⟨before, e', after, rfl, hmem, he'⟩ := h
  exact ⟨before, e', after ++ [e], by simp, hmem, he'⟩

/-- The last element restarts the timer late, or nothing new has happened. -/
theorem restartedLate_snoc_iff : RestartedLate tick restart (es ++ [e]) ↔
    RestartedLate tick restart es ∨ tick ∈ es ∧ restart e = true := by
  refine ⟨?_, ?_⟩
  · rintro ⟨before, e', after, heq, hmem, he'⟩
    cases after using List.reverseRecOn with
    | nil =>
      obtain ⟨rfl, heq'⟩ := List.append_inj' heq rfl
      cases heq'
      exact .inr ⟨hmem, he'⟩
    | append_singleton after a =>
      rw [← List.cons_append, ← List.append_assoc] at heq
      exact .inl ⟨before, e', after, (List.append_inj' heq rfl).1, hmem, he'⟩
  · rintro (h | ⟨hmem, he⟩)
    · exact h.snoc e
    · exact ⟨es, e, [], rfl, hmem, he⟩

variable [DecidableEq ι]

/-- A late restart comes after a tick. -/
theorem RestartedLate.count_pos (h : RestartedLate tick restart es) : 0 < es.count tick := by
  obtain ⟨before, e, after, rfl, hmem, -⟩ := h
  exact List.count_pos_iff.mpr (List.mem_append_left _ hmem)

/-- What is left of `v` after the events. -/
def left (tick : ι) (restart : ι → Bool) (period v : ℕ) (es : List ι) : ℕ :=
  es.foldl (fun v e => if restart e then period else if e = tick then v - 1 else v) v

/-- What the last element leaves of the period. -/
theorem left_snoc : left tick restart period v (es ++ [e]) =
    if restart e then period
    else if e = tick then left tick restart period v es - 1
    else left tick restart period v es := by
  rw [left, List.foldl_append]
  rfl

theorem count_snoc_tick : (es ++ [tick]).count tick = es.count tick + 1 := by
  rw [List.count_append, List.count_singleton_self]

theorem count_snoc_ne (h : e ≠ tick) : (es ++ [e]).count tick = es.count tick := by
  rw [List.count_append, List.count_cons_of_ne h, List.count_nil, Nat.add_zero]

/-- Every tick ends a prefix. -/
theorem exists_prefix_tick {k : ℕ} (h : k < es.count tick) :
    ∃ p, p ++ [tick] <+: es ∧ p.count tick = k := by
  induction es using List.reverseRecOn with
  | nil => cases h
  | append_singleton es e ih =>
    by_cases hk : k < es.count tick
    · obtain ⟨p, hp, hcount⟩ := ih hk
      exact ⟨p, hp.trans (List.prefix_append es [e]), hcount⟩
    · -- the last event is the tick
      by_cases he : e = tick
      · rw [he, count_snoc_tick] at h
        exact ⟨es, he ▸ List.prefix_refl _, by omega⟩
      · rw [count_snoc_ne he] at h
        exact absurd h hk

/-- The countdown never runs faster than the ticks. -/
theorem le_left_add (hv : v ≤ period) : v ≤ left tick restart period v es + es.count tick := by
  induction es using List.reverseRecOn with
  | nil => exact Nat.le_refl v
  | append_singleton es e ih =>
    rw [left_snoc]
    split
    · exact Nat.le_add_right_of_le hv
    split
    · next heq =>
      rw [heq, count_snoc_tick]
      omega
    · next hne => rwa [count_snoc_ne hne]

theorem count_snoc_restart (ht : restart tick = false) (he : restart e = true) :
    (es ++ [e]).count tick = es.count tick :=
  count_snoc_ne fun heq => by rw [heq, ht] at he; cases he

/-- Without a late restart it runs with the ticks. -/
theorem left_le (ht : restart tick = false) (hv : v ≤ period)
    (h : ¬ RestartedLate tick restart es) :
    left tick restart period v es ≤ period - es.count tick := by
  induction es using List.reverseRecOn with
  | nil => exact hv
  | append_singleton es e ih =>
    have hes := ih fun hlate => h (RestartedLate.snoc hlate e)
    rw [left_snoc]
    split
    · next he =>
      -- no tick came before this restart
      have hnot : tick ∉ es := fun hmem => h (restartedLate_snoc_iff.mpr (.inr ⟨hmem, he⟩))
      rw [count_snoc_restart ht he, List.count_eq_zero_of_not_mem hnot]
      exact Nat.le_refl period
    split
    · next heq =>
      rw [heq, count_snoc_tick]
      omega
    · next hne => rwa [count_snoc_ne hne]

/-- With one it stays behind. -/
theorem lt_left_add (h : RestartedLate tick restart es) :
    period < left tick restart period v es + es.count tick := by
  induction es using List.reverseRecOn with
  | nil =>
    obtain ⟨before, e, after, heq, -⟩ := h
    exact absurd heq (by simp)
  | append_singleton es e ih =>
    rw [left_snoc]
    split
    · next he =>
      have hpos := h.count_pos
      omega
    · next he =>
      have hlate := (restartedLate_snoc_iff.mp h).resolve_right fun h => he h.2
      have hlt := ih hlate
      split
      · next heq =>
        rw [heq, count_snoc_tick]
        omega
      · next hne => rwa [count_snoc_ne hne]

/-- **At the tick that completes the period the countdown is spent exactly when no restart came
after a tick.** -/
theorem spent_iff (ht : restart tick = false) (hv : v ≤ period)
    (hc : es.count tick + 1 = max 1 period) :
    left tick restart period v es ≤ 1 ↔ ¬ RestartedLate tick restart es := by
  refine ⟨fun hle hlate => ?_, fun hlate => ?_⟩
  · have hlt : period < left tick restart period v es + es.count tick := lt_left_add hlate
    have hpos := hlate.count_pos
    omega
  · have hle := left_le ht hv hlate
    omega

end Countdown
