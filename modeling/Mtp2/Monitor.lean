import Mathlib.Algebra.Order.Ring.Nat

/-!
# MTP2 — error-rate monitors (`src/monitor.rs`)

The AERM counts errored signal units while a link is proving; the SUERM is the leaky
bucket of an in-service link. Counters are `u32` in the source and `UInt32` here, with the
`saturating_*` operations of the Rust standard library spelled out.
-/

namespace Mtp2

/-- `u32::saturating_add`. -/
def saturatingAdd (a b : UInt32) : UInt32 :=
  if a.toNat + b.toNat < 2 ^ 32 then a + b else 0xffffffff

/-- `u32::saturating_sub`. -/
def saturatingSub (a b : UInt32) : UInt32 := if b ≤ a then a - b else 0

theorem saturatingAdd_one_toNat (a : UInt32) :
    (saturatingAdd a 1).toNat = min (a.toNat + 1) (2 ^ 32 - 1) := by
  have ha := a.toNat_lt
  unfold saturatingAdd
  split
  · next h =>
    rw [UInt32.toNat_add, Nat.mod_eq_of_lt h]
    exact (Nat.min_eq_left (by simpa using Nat.le_pred_of_lt h)).symm
  · next h =>
    rw [show (1 : UInt32).toNat = 1 from rfl] at h
    rw [show (0xffffffff : UInt32).toNat = 2 ^ 32 - 1 from rfl]
    omega

theorem saturatingSub_one_toNat (a : UInt32) : (saturatingSub a 1).toNat = a.toNat - 1 := by
  unfold saturatingSub
  split
  · next h => exact UInt32.toNat_sub_of_le a 1 h
  · next h =>
    have hlt : a.toNat < 1 := UInt32.lt_iff_toNat_lt.mp (UInt32.not_le.mp h)
    exact (Nat.sub_eq_zero_of_le (Nat.le_of_lt hlt)).symm

/-- Default AERM abort threshold for normal proving. -/
def aermThresholdNormal : UInt32 := 4
/-- Default AERM abort threshold for emergency proving. -/
def aermThresholdEmergency : UInt32 := 1
/-- Default SUERM failure threshold `T`. -/
def suermThreshold : UInt32 := 64
/-- Default SUERM leak interval `D`. -/
def suermDecrementInterval : UInt32 := 256

/-! ## Alignment Error Rate Monitor -/

/-- Errored SUs seen in the present proving attempt, against an abort threshold. -/
structure Aerm where
  count : UInt32
  threshold : UInt32
  deriving Repr, DecidableEq

namespace Aerm

def new (threshold : UInt32) : Aerm := ⟨0, threshold⟩

/-- Reset the counter and set the threshold for a fresh proving attempt. -/
def restart (_ : Aerm) (threshold : UInt32) : Aerm := ⟨0, threshold⟩

def isTripped (a : Aerm) : Bool := a.count ≥ a.threshold

/-- Record one errored SU; `true` once the count has reached the threshold. -/
def recordError (a : Aerm) : Bool × Aerm :=
  let a' := { a with count := saturatingAdd a.count 1 }
  (a'.isTripped, a')

/-- While the count is below the threshold it counts exactly, and the monitor trips on the
error that reaches it (on the first error when the threshold is zero). -/
theorem recordError_spec {a : Aerm} (h : a.count.toNat < max 1 a.threshold.toNat) :
    a.recordError.2.count.toNat = a.count.toNat + 1 ∧
      (a.recordError.1 = true ↔ max 1 a.threshold.toNat ≤ a.count.toNat + 1) := by
  have ht := a.threshold.toNat_lt
  have hc : (saturatingAdd a.count 1).toNat = a.count.toNat + 1 := by
    rw [saturatingAdd_one_toNat]; omega
  refine ⟨hc, ?_⟩
  simp only [recordError, isTripped, ge_iff_le, decide_eq_true_eq, UInt32.le_iff_toNat_le, hc]
  omega

end Aerm

/-! ## Signal Unit Error Rate Monitor -/

/-- The leaky bucket of an in-service link. -/
structure Suerm where
  count : UInt32
  threshold : UInt32
  decrementInterval : UInt32
  receivedSinceLeak : UInt32
  failed : Bool
  deriving Repr, DecidableEq

namespace Suerm

def new (threshold decrementInterval : UInt32) : Suerm :=
  ⟨0, threshold, decrementInterval, 0, false⟩

/-- Reset the monitor for a freshly in-service link. -/
def reset (s : Suerm) : Suerm := { s with count := 0, receivedSinceLeak := 0, failed := false }

/-- Record one received SU; `true` when the failure threshold is reached. -/
def record (s : Suerm) (inError : Bool) : Bool × Suerm :=
  let s := { s with receivedSinceLeak := s.receivedSinceLeak + 1 }
  let s := if inError then { s with count := saturatingAdd s.count 1 } else s
  let s :=
    if s.receivedSinceLeak ≥ s.decrementInterval then
      { s with receivedSinceLeak := 0, count := saturatingSub s.count 1 }
    else s
  let s := if s.count ≥ s.threshold then { s with failed := true } else s
  (s.failed, s)

/-- An empty bucket with a positive threshold stays empty on an error-free SU. -/
theorem record_false_of_empty {s : Suerm} (hc : s.count = 0) (hf : s.failed = false)
    (ht : 1 ≤ s.threshold.toNat) :
    (s.record false).1 = false ∧ (s.record false).2.count = 0 ∧
      (s.record false).2.failed = false ∧ (s.record false).2.threshold = s.threshold := by
  have hlt : ¬ (0 : UInt32) ≥ s.threshold := by
    rw [ge_iff_le, UInt32.le_iff_toNat_le]
    exact Nat.not_le.mpr ht
  have hz : saturatingSub 0 1 = 0 := rfl
  simp only [record, Bool.false_eq_true, if_false]
  split <;> simp [hc, hz, hlt, hf]

/-- Below the threshold, and never at it before. -/
structure Healthy (s : Suerm) : Prop where
  failed : s.failed = false
  below : s.count.toNat < s.threshold.toNat

/-- The count after a report: one in for an error, then one out if a leak is due. -/
def countAfter (s : Suerm) (inError : Bool) : UInt32 :=
  let counted := if inError then saturatingAdd s.count 1 else s.count
  if s.receivedSinceLeak + 1 ≥ s.decrementInterval then saturatingSub counted 1 else counted

/-- The reports since the last leak, after one more. -/
def sinceAfter (s : Suerm) : UInt32 :=
  if s.receivedSinceLeak + 1 ≥ s.decrementInterval then 0 else s.receivedSinceLeak + 1

/-- **A report as one update**: the two counters move, then the monitor looks at the threshold
and remembers a failure. -/
theorem record_eq (s : Suerm) (inError : Bool) :
    s.record inError = (s.failed || s.countAfter inError ≥ s.threshold,
      { s with
        count := s.countAfter inError
        receivedSinceLeak := s.sinceAfter
        failed := s.failed || s.countAfter inError ≥ s.threshold }) := by
  have hlook (count received : UInt32) :
      let s' : Suerm := { s with count := count, receivedSinceLeak := received }
      let s'' := if s'.count ≥ s'.threshold then { s' with failed := true } else s'
      (s''.failed, s'') = (s.failed || decide (count ≥ s.threshold),
        { s' with failed := s.failed || decide (count ≥ s.threshold) }) := by
    dsimp only
    split
    · next h => simp [decide_eq_true h]
    · next h => simp [decide_eq_false h]
  cases inError with
  | true =>
    simp only [record, countAfter, sinceAfter, if_true]
    split <;> exact hlook _ _
  | false =>
    simp only [record, countAfter, sinceAfter, Bool.false_eq_true, if_false]
    split <;> exact hlook _ _

/-- Recording moves the two counters, not upwards without an error, then looks at the
threshold. -/
theorem record_cases (s : Suerm) (inError : Bool) :
    ∃ count received, (inError = false → count.toNat ≤ s.count.toNat) ∧
      (count < s.threshold ∧ s.record inError =
          (s.failed, { s with count := count, receivedSinceLeak := received }) ∨
        s.threshold ≤ count ∧ s.record inError =
          (true, { s with count := count, receivedSinceLeak := received, failed := true })) := by
  refine ⟨s.countAfter inError, s.sinceAfter, fun hgood => ?_, ?_⟩
  · rw [hgood, countAfter]
    simp only [Bool.false_eq_true, if_false]
    split
    · rw [saturatingSub_one_toNat]
      exact Nat.sub_le _ _
    · exact Nat.le_refl _
  · rw [s.record_eq inError]
    by_cases hge : s.threshold ≤ s.countAfter inError
    · exact .inr ⟨hge, by simp [hge]⟩
    · exact .inl ⟨UInt32.not_le.mp hge, by simp [UInt32.not_le.mp hge]⟩

theorem record_threshold (s : Suerm) (inError : Bool) :
    (s.record inError).2.threshold = s.threshold := by
  obtain ⟨count, received, -, ⟨-, heq⟩ | ⟨-, heq⟩⟩ := s.record_cases inError <;> rw [heq]

theorem healthy_reset {s : Suerm} (h : 1 ≤ s.threshold.toNat) : s.reset.Healthy := ⟨rfl, h⟩

/-- An SU that does not trip the monitor leaves it below the threshold. -/
theorem healthy_of_record {s : Suerm} {inError : Bool} (h : (s.record inError).1 = false) :
    (s.record inError).2.Healthy := by
  obtain ⟨count, received, -, ⟨hlt, heq⟩ | ⟨-, heq⟩⟩ := s.record_cases inError <;> rw [heq] at h ⊢
  · exact ⟨h, UInt32.lt_iff_toNat_lt.mp hlt⟩
  · cases h

/-- An SU without error does not trip a healthy monitor. -/
theorem record_false_of_healthy {s : Suerm} (h : s.Healthy) : (s.record false).1 = false := by
  obtain ⟨count, received, hle, ⟨-, heq⟩ | ⟨hge, heq⟩⟩ := s.record_cases false <;> rw [heq]
  · exact h.failed
  · have := UInt32.le_iff_toNat_le.mp hge
    exact absurd (Nat.lt_of_le_of_lt (hle rfl) h.below) (Nat.not_lt.mpr this)

end Suerm

end Mtp2
