import Mtp2.LinkStep
import Mtp2.Transmit

/-!
# MTP2 — the representation invariant of a link

Six timers and four flags are started and stopped by hand all over `link.rs`. `Represented`
says what they are in each state, and how far a guard timer has run: `age` counts the ticks
since the present state was entered.

* **`tick_outcome`** — what a tick of a represented link can do;
* **`Represented.step`** — every public operation keeps the invariant;
* **`represented_run`** — it holds in every reachable state, and no link overstays a guard
  timer.
-/

namespace Mtp2

/-- A guard timer: running in exactly the states it guards, with what is left of its period
after `age` ticks. -/
structure Guards (t : Option UInt32) (on : Prop) (period : UInt32) (age : ℕ) : Prop where
  running : t.isSome = true ↔ on
  left : ∀ r, t = some r → r.toNat = period.toNat - age ∧ age < max 1 period.toNat

/-- A timer that is stopped guards nothing. -/
theorem Guards.off {on : Prop} {period : UInt32} {age : ℕ} (h : ¬ on) :
    Guards none on period age := ⟨by simp [h], by simp⟩

theorem Guards.fresh {on : Prop} {period : UInt32} (h : on) : Guards (some period) on period 0 :=
  ⟨by simp [h], fun r hr => by cases hr; omega⟩

/-- Outside the state it guards a timer does not run. -/
theorem Guards.eq_none {t : Option UInt32} {on : Prop} {period : UInt32} {age : ℕ}
    (h : Guards t on period age) (hoff : ¬ on) : t = none := by
  cases t with
  | none => rfl
  | some r => exact absurd (h.running.mp rfl) hoff

/-- A timer that guards neither the old state nor the new one. -/
theorem Guards.stays_off {t : Option UInt32} {on on' : Prop} {period period' : UInt32}
    {age age' : ℕ} (h : Guards t on period age) (hoff : ¬ on) (hoff' : ¬ on') :
    Guards t on' period' age' := by
  rw [h.eq_none hoff]
  exact .off hoff'

/-- A tick that does not expire the timer leaves it with one tick less. -/
theorem Guards.tick {t : Option UInt32} {on : Prop} {period : UInt32} {age : ℕ}
    (h : Guards t on period age) (hexp : (stepTimer t).1 = false) :
    Guards (stepTimer t).2 on period (age + 1) := by
  cases t with
  | none => exact ⟨h.running, by simp [stepTimer]⟩
  | some r =>
    obtain ⟨hr, hage⟩ := h.left r rfl
    have hgt : ¬ r ≤ 1 := fun hle => by simp [stepTimer, hle] at hexp
    have hgt' : 1 < r.toNat := by
      rw [UInt32.le_iff_toNat_le] at hgt
      simpa using hgt
    have hsub : (r - 1).toNat = r.toNat - 1 :=
      UInt32.toNat_sub_of_le r 1 (UInt32.le_iff_toNat_le.mpr (by simpa using Nat.le_of_lt hgt'))
    rw [stepTimer, if_neg hgt]
    refine ⟨by simpa using h.running, fun r' hr' => ?_⟩
    obtain rfl : r - 1 = r' := Option.some.inj hr'
    omega

/-- A timer that is not running does not expire. -/
theorem stepTimer_none : stepTimer none = (false, none) := rfl

/-- A timer that does not expire runs on if it ran. -/
theorem stepTimer_isSome {t : Option UInt32} (h : (stepTimer t).1 = false) :
    (stepTimer t).2.isSome = true ↔ t.isSome = true := by
  cases t with
  | none => exact Iff.rfl
  | some r =>
    unfold stepTimer at h ⊢
    by_cases hr : r ≤ 1
    · simp [hr] at h
    · simp [hr]

/-- A timer that runs, with `n` ticks left. -/
def Runs (t : Option UInt32) (n : ℕ) : Prop := ∃ r, t = some r ∧ r.toNat = n

namespace Runs

variable {t : Option UInt32} {n : ℕ}

theorem isSome (h : Runs t n) : t.isSome = true := by
  obtain ⟨r, rfl, -⟩ := h
  rfl

/-- It expires with the last tick. -/
theorem expires_iff (h : Runs t n) : (stepTimer t).1 = true ↔ n ≤ 1 := by
  obtain ⟨r, rfl, rfl⟩ := h
  rw [stepTimer, show (1 : ℕ) = (1 : UInt32).toNat from rfl, ← UInt32.le_iff_toNat_le]
  split
  · next hr => exact ⟨fun _ => hr, fun _ => rfl⟩
  · next hr => exact ⟨nofun, fun h => absurd h hr⟩

/-- Otherwise the tick takes one off. -/
theorem step (h : Runs t n) (hexp : (stepTimer t).1 = false) : Runs (stepTimer t).2 (n - 1) := by
  have hn : ¬ n ≤ 1 := fun hle => by rw [h.expires_iff.mpr hle] at hexp; cases hexp
  obtain ⟨r, rfl, rfl⟩ := h
  have hr : ¬ r ≤ 1 := fun hle => hn (UInt32.le_iff_toNat_le.mp hle)
  refine ⟨r - 1, by rw [stepTimer, if_neg hr], ?_⟩
  refine UInt32.toNat_sub_of_le r 1 (UInt32.le_iff_toNat_le.mpr ?_)
  show 1 ≤ r.toNat
  omega

/-- A timer that runs on ran before. -/
theorem of_step (h : Runs (stepTimer t).2 n) : Runs t (n + 1) := by
  obtain ⟨r, hr, rfl⟩ := h
  cases t with
  | none => cases hr
  | some r' =>
    by_cases h1 : r' ≤ 1
    · rw [stepTimer, if_pos h1] at hr
      cases hr
    · rw [stepTimer, if_neg h1] at hr
      cases hr
      have hlt : 1 < r'.toNat := Nat.not_le.mp fun hle => h1 (UInt32.le_iff_toNat_le.mpr hle)
      refine ⟨r', rfl, ?_⟩
      rw [UInt32.toNat_sub_of_le r' 1 (UInt32.le_iff_toNat_le.mpr (Nat.le_of_lt hlt))]
      exact (Nat.sub_add_cancel (Nat.le_of_lt hlt)).symm

/-- A timer that expires runs. -/
theorem of_expired (h : (stepTimer t).1 = true) : ∃ n ≤ 1, Runs t n := by
  cases t with
  | none => cases h
  | some r =>
    have hr : Runs (some r) r.toNat := ⟨r, rfl, rfl⟩
    exact ⟨_, hr.expires_iff.mp h, hr⟩

theorem unique {m : ℕ} (h : Runs t n) (h' : Runs t m) : n = m := by
  obtain ⟨r, rfl, rfl⟩ := h
  obtain ⟨r', hr', rfl⟩ := h'
  rw [Option.some.inj hr']

end Runs

/-- A timer that expires stops. -/
theorem stepTimer_expired {t : Option UInt32} (h : (stepTimer t).1 = true) :
    (stepTimer t).2 = none := by
  cases t with
  | none => rfl
  | some r =>
    by_cases hr : r ≤ 1
    · rw [stepTimer, if_pos hr]
    · rw [stepTimer, if_neg hr] at h
      cases h

namespace Mtp2Link

/-- **The representation invariant.** -/
structure Represented (l : Mtp2Link) (age : ℕ) : Prop where
  t1 : Guards l.t1 (l.state = .AlignedReady) l.config.t1AlignedReady age
  t2 : Guards l.t2 (l.state = .NotAligned) l.config.t2NotAligned age
  t3 : Guards l.t3 (l.state = .Aligned) l.config.t3Aligned age
  t4 : l.t4.isSome = true ↔ l.state = .Proving
  t6 : l.t6.isSome = true ↔ l.state.carriesTraffic = true ∧ l.remoteBusy = true
  t7 : l.t7.isSome = true ↔ l.state.carriesTraffic = true ∧ l.tx.unacked ≠ []
  lpo_clear : l.state = .AlignedReady ∨ l.state = .InService → l.localProcessorOutage = false
  lpo_set : l.state = .AlignedNotReady ∨ l.state = .ProcessorOutage → l.localProcessorOutage = true
  /-- Before service the peer is not busy and nothing is unacknowledged. -/
  before_service : l.state ≠ .OutOfService → l.state.carriesTraffic = false →
    l.remoteBusy = false ∧ l.tx.unacked = []

/-- What the invariant is about: the state, the periods, the timers and what they guard. -/
def guarded (l : Mtp2Link) :=
  (l.state, l.config, l.t1, l.t2, l.t3, l.t4, l.t6, l.t7, l.localProcessorOutage, l.remoteBusy,
    l.tx.unacked)

variable {l l' : Mtp2Link} {age : ℕ}

/-! ## Ticks -/

/-- Every timer one tick further on. -/
def stepTimers (l : Mtp2Link) : Mtp2Link :=
  { l with
    t1 := (stepTimer l.t1).2, t2 := (stepTimer l.t2).2, t3 := (stepTimer l.t3).2
    t4 := (stepTimer l.t4).2, t6 := (stepTimer l.t6).2, t7 := (stepTimer l.t7).2 }

/-- Everything a tick can do to a represented link. -/
inductive Ticked (l : Mtp2Link) : Mtp2Link → Prop where
  | stepped (h1 : (stepTimer l.t1).1 = false) (h2 : (stepTimer l.t2).1 = false)
      (h3 : (stepTimer l.t3).1 = false) (h4 : (stepTimer l.t4).1 = false)
      (h6 : (stepTimer l.t6).1 = false) (h7 : (stepTimer l.t7).1 = false) :
      Ticked l l.stepTimers
  | alignmentFailed {failure : AlignmentFailure}
      (hs : l.state = .NotAligned ∨ l.state = .Aligned ∨ l.state = .AlignedReady) :
      Ticked l (l.failAlignment failure)
  | proved (hs : l.state = .Proving) (h4 : (stepTimer l.t4).1 = true) :
      Ticked l l.provingSucceeded
  | serviceFailed {reason : OutOfServiceReason} (hs : l.state.carriesTraffic = true) :
      Ticked l (l.failOutOfService reason)

/-- Only the timers of the present state run. -/
theorem Represented.timers_off (h : l.Represented age) :
    (l.state ≠ .AlignedReady → l.t1 = none) ∧ (l.state ≠ .NotAligned → l.t2 = none) ∧
      (l.state ≠ .Aligned → l.t3 = none) ∧ (l.state ≠ .Proving → l.t4 = none) ∧
      (l.state.carriesTraffic = false → l.t6 = none ∧ l.t7 = none) := by
  have hnone {t : Option UInt32} : ¬ t.isSome = true → t = none :=
    Option.not_isSome_iff_eq_none.mp
  refine ⟨fun hs => h.t1.eq_none hs, fun hs => h.t2.eq_none hs, fun hs => h.t3.eq_none hs,
    fun hs => hnone fun ht => hs (h.t4.mp ht), fun hs => ⟨hnone fun ht => ?_, hnone fun ht => ?_⟩⟩
  · rw [(h.t6.mp ht).1] at hs; cases hs
  · rw [(h.t7.mp ht).1] at hs; cases hs

/-- A timer that runs in one state only, in a tick that does not end there. -/
theorem not_expired_of {t : Option UInt32} {on : Prop} (hoff : ¬ on → t = none)
    (hgo : ¬ ((stepTimer t).1 = true ∧ on)) : (stepTimer t).1 = false := by
  refine Bool.not_eq_true _ ▸ fun hexp => ?_
  by_cases hon : on
  · exact hgo ⟨hexp, hon⟩
  · rw [hoff hon] at hexp
    cases hexp

/-- **What a tick can do.** -/
theorem tick_outcome (h : l.Represented age) : l.Ticked l.tick := by
  obtain ⟨h1, h2, h3, h4, h67⟩ := h.timers_off
  have h6 (hs : ¬ l.state.carriesTraffic = true) : l.t6 = none := (h67 (by simpa using hs)).1
  have h7 (hs : ¬ l.state.carriesTraffic = true) : l.t7 = none := (h67 (by simpa using hs)).2
  -- the timers in the order of `tick`, each in its own state
  unfold tick
  dsimp only
  split
  · next hs => exact .alignmentFailed (.inl hs.2)
  next hgo2 =>
  split
  · next hs => exact .alignmentFailed (.inr (.inl hs.2))
  next hgo3 =>
  split
  · next hs =>
    have hother : (stepTimer l.t2).2 = l.t2 ∧ (stepTimer l.t3).2 = l.t3 := by
      rw [h2 (by simp [hs.2]), h3 (by simp [hs.2])]
      exact ⟨rfl, rfl⟩
    rw [hother.1, hother.2]
    exact .proved hs.2 hs.1
  next hgo4 =>
  split
  · next hs => exact .alignmentFailed (.inr (.inr hs.2))
  next hgo1 =>
  split
  · next hs => exact .serviceFailed hs.2
  next hgo6 =>
  split
  · next hs => exact .serviceFailed hs.2
  next hgo7 =>
  exact .stepped (not_expired_of h1 hgo1) (not_expired_of h2 hgo2) (not_expired_of h3 hgo3)
    (not_expired_of h4 hgo4) (not_expired_of h6 hgo6) (not_expired_of h7 hgo7)

/-! ## Preservation -/

/-- Out of service nothing runs. -/
theorem Represented.out (hs : l.state = .OutOfService) (ht : l.stopAllTimers = l) :
    l.Represented age where
  t1 := by rw [← ht]; exact .off (by simp [stopAllTimers, hs])
  t2 := by rw [← ht]; exact .off (by simp [stopAllTimers, hs])
  t3 := by rw [← ht]; exact .off (by simp [stopAllTimers, hs])
  t4 := by rw [← ht]; simp [stopAllTimers, hs]
  t6 := by rw [← ht]; simp [stopAllTimers, hs, Mtp2State.carriesTraffic]
  t7 := by rw [← ht]; simp [stopAllTimers, hs, Mtp2State.carriesTraffic]
  lpo_clear := by simp [hs]
  lpo_set := by simp [hs]
  before_service := by simp [hs]

/-- A failed alignment leaves nothing running, whatever ran before. -/
theorem represented_failAlignment (l : Mtp2Link) (failure : AlignmentFailure) (age : ℕ) :
    (l.failAlignment failure).Represented age := .out rfl rfl

theorem represented_failOutOfService (l : Mtp2Link) (reason : OutOfServiceReason) (age : ℕ) :
    (l.failOutOfService reason).Represented age := .out rfl rfl

namespace Represented

/-- What the invariant does not read may change. -/
theorem congr (h : l.Represented age) (heq : l'.guarded = l.guarded) : l'.Represented age := by
  simp only [guarded, Prod.mk.injEq] at heq
  obtain ⟨hs, hc, h1, h2, h3, h4, h6, h7, hlpo, hrb, hu⟩ := heq
  exact {
    t1 := by rw [hs, hc, h1]; exact h.t1
    t2 := by rw [hs, hc, h2]; exact h.t2
    t3 := by rw [hs, hc, h3]; exact h.t3
    t4 := by rw [hs, h4]; exact h.t4
    t6 := by rw [hs, h6, hrb]; exact h.t6
    t7 := by rw [hs, h7, hu]; exact h.t7
    lpo_clear := by rw [hs, hlpo]; exact h.lpo_clear
    lpo_set := by rw [hs, hlpo]; exact h.lpo_set
    before_service := by rw [hs, hrb, hu]; exact h.before_service }

theorem stay (hs : l'.state = l.state) (h : l'.Represented age) :
    l'.Represented (if l'.state = l.state then age else 0) := by rw [if_pos hs]; exact h

theorem moved (hs : l'.state ≠ l.state) (h : l'.Represented 0) :
    l'.Represented (if l'.state = l.state then age else 0) := by rw [if_neg hs]; exact h

end Represented

/-- What the invariant says before service: no timer of the traffic runs, and there is nothing for
it to guard. -/
structure Preparing (l : Mtp2Link) (age : ℕ) : Prop where
  carries : l.state.carriesTraffic = false
  t1 : Guards l.t1 (l.state = .AlignedReady) l.config.t1AlignedReady age
  t2 : Guards l.t2 (l.state = .NotAligned) l.config.t2NotAligned age
  t3 : Guards l.t3 (l.state = .Aligned) l.config.t3Aligned age
  t4 : l.t4.isSome = true ↔ l.state = .Proving
  t6 : l.t6 = none
  t7 : l.t7 = none
  lpo_clear : l.state = .AlignedReady → l.localProcessorOutage = false
  lpo_set : l.state = .AlignedNotReady → l.localProcessorOutage = true
  remoteBusy : l.remoteBusy = false
  unacked : l.tx.unacked = []

/-- What it says of a link that carries traffic: only T6 and T7 may run. -/
structure Carrying (l : Mtp2Link) : Prop where
  carries : l.state.carriesTraffic = true
  t1 : l.t1 = none
  t2 : l.t2 = none
  t3 : l.t3 = none
  t4 : l.t4 = none
  t6 : l.t6.isSome = true ↔ l.remoteBusy = true
  t7 : l.t7.isSome = true ↔ l.tx.unacked ≠ []
  lpo_clear : l.state = .InService → l.localProcessorOutage = false
  lpo_set : l.state = .ProcessorOutage → l.localProcessorOutage = true

/-- The traffic clauses of the invariant are void before service. -/
theorem Preparing.represented (h : l.Preparing age) : l.Represented age := by
  have hne (s : Mtp2State) (hs : s.carriesTraffic = true) : l.state ≠ s := fun heq => by
    have hc := h.carries
    rw [heq, hs] at hc
    cases hc
  exact { h with
    t6 := by simp [h.t6, h.remoteBusy]
    t7 := by simp [h.t7, h.unacked]
    lpo_clear := fun hs => hs.elim h.lpo_clear fun hs => absurd hs (hne _ rfl)
    lpo_set := fun hs => hs.elim h.lpo_set fun hs => absurd hs (hne _ rfl)
    before_service := fun _ _ => ⟨h.remoteBusy, h.unacked⟩ }

/-- At any age: no guard timer runs. -/
theorem Carrying.represented (h : l.Carrying) : l.Represented age := by
  have hne (s : Mtp2State) (hs : s.carriesTraffic = false) : l.state ≠ s := fun heq => by
    have hc := h.carries
    rw [heq, hs] at hc
    cases hc
  exact {
    t1 := by rw [h.t1]; exact .off (hne _ rfl)
    t2 := by rw [h.t2]; exact .off (hne _ rfl)
    t3 := by rw [h.t3]; exact .off (hne _ rfl)
    t4 := by rw [h.t4]; exact ⟨nofun, fun hs => absurd hs (hne _ rfl)⟩
    t6 := by rw [h.t6, h.carries]; simp
    t7 := by rw [h.t7, h.carries]; simp
    lpo_clear := fun hs => hs.elim (fun hs => absurd hs (hne _ rfl)) h.lpo_clear
    lpo_set := fun hs => hs.elim (fun hs => absurd hs (hne _ rfl)) h.lpo_set
    before_service := fun _ hc => by rw [h.carries] at hc; cases hc }

namespace Represented

/-- What a represented link looks like before service. -/
theorem idle (h : l.Represented age) (hs : l.state ≠ .OutOfService)
    (hc : l.state.carriesTraffic = false) :
    l.t6 = none ∧ l.t7 = none ∧ l.remoteBusy = false ∧ l.tx.unacked = [] :=
  ⟨(h.timers_off.2.2.2.2 hc).1, (h.timers_off.2.2.2.2 hc).2, h.before_service hs hc⟩

/-- What a represented link satisfies before service. -/
theorem preparing (h : l.Represented age) (hs : l.state ≠ .OutOfService)
    (hc : l.state.carriesTraffic = false) : l.Preparing age := by
  obtain ⟨h6, h7, hrb, hu⟩ := h.idle hs hc
  exact { h with
    carries := hc
    t6 := h6
    t7 := h7
    lpo_clear := fun hs => h.lpo_clear (.inl hs)
    lpo_set := fun hs => h.lpo_set (.inl hs)
    remoteBusy := hrb
    unacked := hu }

/-- T6 runs over a busy peer only. -/
theorem t6_eq_none (h : l.Represented age) (hb : l.remoteBusy = false) : l.t6 = none := by
  refine Option.not_isSome_iff_eq_none.mp fun ht => ?_
  rw [(h.t6.mp ht).2] at hb
  cases hb

/-- T7 runs over a buffer that is not empty only. -/
theorem t7_eq_none (h : l.Represented age) (hu : l.tx.unacked = []) : l.t7 = none :=
  Option.not_isSome_iff_eq_none.mp fun ht => (h.t7.mp ht).2 hu

/-- What a represented link looks like in service. -/
theorem inTraffic (h : l.Represented age) (hs : l.state.carriesTraffic = true) : l.Carrying := by
  have hne (s : Mtp2State) (hs' : s.carriesTraffic = false) : l.state ≠ s := fun heq => by
    rw [heq, hs'] at hs
    cases hs
  obtain ⟨h1, h2, h3, h4, -⟩ := h.timers_off
  exact {
    carries := hs
    t1 := h1 (hne _ rfl)
    t2 := h2 (hne _ rfl)
    t3 := h3 (hne _ rfl)
    t4 := h4 (hne _ rfl)
    t6 := by rw [h.t6, hs]; simp
    t7 := by rw [h.t7, hs]; simp
    lpo_clear := fun hi => h.lpo_clear (.inr hi)
    lpo_set := fun hp => h.lpo_set (.inr hp) }

/-- Entering service from Aligned Ready. -/
theorem enterInService (h : l.Represented age) (hs : l.state = .AlignedReady) :
    l.enterInService.Carrying := by
  obtain ⟨-, h2, h3, h4, -⟩ := h.timers_off
  obtain ⟨h6, h7, hrb, hu⟩ := h.idle (by simp [hs]) (by rw [hs]; rfl)
  exact {
    carries := rfl
    t1 := rfl
    t2 := h2 (by simp [hs])
    t3 := h3 (by simp [hs])
    t4 := h4 (by simp [hs])
    t6 := by
      show l.t6.isSome = true ↔ l.remoteBusy = true
      simp [h6, hrb]
    t7 := by
      show l.t7.isSome = true ↔ l.tx.unacked ≠ []
      simp [h7, hu]
    lpo_clear := fun _ => h.lpo_clear (.inl hs)
    lpo_set := nofun }

/-- Entering Proving from Aligned or again from Proving, in any mode. -/
theorem enterProving {age' : ℕ} (h : l.Represented age)
    (hs : l.state = .Aligned ∨ l.state = .Proving) (emergency : Bool) :
    { l with t3 := none, emergency := emergency }.enterProving.Represented age' := by
  have hne (s : Mtp2State) (hA : s ≠ .Aligned) (hP : s ≠ .Proving) : l.state ≠ s := by
    rintro rfl
    exact hs.elim hA hP
  have hp := h.preparing (hne _ nofun nofun) (by rcases hs with hs | hs <;> rw [hs] <;> rfl)
  exact Preparing.represented { hp with
    carries := rfl
    t1 := hp.t1.stays_off (hne _ nofun nofun) nofun
    t2 := hp.t2.stays_off (hne _ nofun nofun) nofun
    t3 := .off nofun
    t4 := ⟨fun _ => rfl, fun _ => rfl⟩
    lpo_clear := nofun
    lpo_set := nofun }

/-- Arriving in Aligned, or falling back there, with T3 started. -/
theorem enterAligned (h : l.Represented age) (hs : l.state = .NotAligned ∨ l.state = .Proving) :
    { l with
      t2 := none, t4 := none, state := .Aligned
      t3 := some l.config.t3Aligned }.Represented 0 := by
  have hne (s : Mtp2State) (hA : s ≠ .NotAligned) (hP : s ≠ .Proving) : l.state ≠ s := by
    rintro rfl
    exact hs.elim hA hP
  have hp := h.preparing (hne _ nofun nofun) (by rcases hs with hs | hs <;> rw [hs] <;> rfl)
  exact Preparing.represented { hp with
    carries := rfl
    t1 := hp.t1.stays_off (hne _ nofun nofun) nofun
    t2 := .off nofun
    t3 := .fresh rfl
    t4 := ⟨nofun, nofun⟩
    lpo_clear := nofun
    lpo_set := nofun }

/-- From Proving back to Aligned, T2 does not run. -/
theorem fallBack (h : l.Represented age) (hs : l.state = .Proving) :
    { l with t4 := none, state := .Aligned, t3 := some l.config.t3Aligned }.Represented 0 :=
  (h.enterAligned (.inr hs)).congr (by simp [guarded, h.timers_off.2.1 (by simp [hs])])

/-- Entering Aligned Ready, with T1 started. -/
theorem enterAlignedReady (h : l.Represented age)
    (hs : l.state = .Proving ∨ l.state = .AlignedNotReady) :
    { l with
      t4 := none, localProcessorOutage := false, state := .AlignedReady
      t1 := some l.config.t1AlignedReady }.Represented 0 := by
  have hne (s : Mtp2State) (hP : s ≠ .Proving) (hN : s ≠ .AlignedNotReady) : l.state ≠ s := by
    rintro rfl
    exact hs.elim hP hN
  have hp := h.preparing (hne _ nofun nofun) (by rcases hs with hs | hs <;> rw [hs] <;> rfl)
  exact Preparing.represented { hp with
    carries := rfl
    t1 := .fresh rfl
    t2 := hp.t2.stays_off (hne _ nofun nofun) nofun
    t3 := hp.t3.stays_off (hne _ nofun nofun) nofun
    t4 := ⟨nofun, nofun⟩
    lpo_clear := fun _ => rfl
    lpo_set := nofun }

/-- Entering Aligned Not Ready, which no timer guards. -/
theorem enterAlignedNotReady (h : l.Represented age)
    (hs : l.state = .Proving ∨ l.state = .AlignedReady) :
    { l with
      t1 := none, t4 := none, localProcessorOutage := true
      state := .AlignedNotReady }.Represented 0 := by
  have hne (s : Mtp2State) (hP : s ≠ .Proving) (hR : s ≠ .AlignedReady) : l.state ≠ s := by
    rintro rfl
    exact hs.elim hP hR
  have hp := h.preparing (hne _ nofun nofun) (by rcases hs with hs | hs <;> rw [hs] <;> rfl)
  exact Preparing.represented { hp with
    carries := rfl
    t1 := .off nofun
    t2 := hp.t2.stays_off (hne _ nofun nofun) nofun
    t3 := hp.t3.stays_off (hne _ nofun nofun) nofun
    t4 := ⟨nofun, nofun⟩
    lpo_clear := nofun
    lpo_set := fun _ => rfl }

/-- A status indication keeps the invariant, whatever it does. -/
theorem lssu (h : l.Represented age) {status : StatusIndication} (ho : l.LssuOutcome status l') :
    l'.Represented (if l'.state = l.state then age else 0) := by
  have hup : (l.upgradeEmergency status).Represented age := by
    rw [upgradeEmergency_eq]
    exact h.congr rfl
  have hst : (l.upgradeEmergency status).state = l.state := by rw [upgradeEmergency_eq]
  -- a status that changes the state starts a new age, with the timers of the new state
  cases ho with
  | ignored hi =>
    exact .stay hst hup
  | aligned hs hst' =>
    have hconfig : (l.upgradeEmergency status).config = l.config := by rw [upgradeEmergency_eq]
    have h4 := hup.timers_off.2.2.2.1 (by simp [hst, hs])
    exact .moved (by simp [hs]) ((hup.enterAligned (.inl (hst.trans hs))).congr
      (by simp [guarded, hconfig, h4]))
  | proving hs hst' => exact hup.enterProving (.inl (hst.trans hs)) _
  | reproving hs =>
    have h3 : l.t3 = none := h.timers_off.2.2.1 (by simp [hs])
    exact (h.enterProving (.inr hs) true).congr (by simp [guarded, Mtp2Link.enterProving, h3,
      provingParams])
  | fallback hs => exact .moved (by simp [hs]) (h.fallBack hs)
  | failed hs => exact represented_failAlignment _ _ _
  | serving hs =>
    exact (h.enterInService hs).represented.congr rfl
  | outage hs hr =>
    exact .stay rfl (h.congr rfl)
  | outageAgain hs hr => exact .stay rfl h
  | busy hs hr =>
    exact Carrying.represented { h.inTraffic hs with t6 := by simp [emit] }
  | busyAgain hs hr =>
    exact Carrying.represented { h.inTraffic hs with t6 := by simp [hr] }
  | released hs => exact represented_failOutOfService _ _ _
  | realigned hs hst' => exact represented_failOutOfService _ _ _

/-- Common in-service reception, whatever the SU. -/
theorem processInServiceSu (h : l.Carrying) (header : SuHeader) (msu : Option Payload) :
    (l.processInServiceSu header msu).Represented age := by
  rw [processInServiceSu_eq]
  exact Carrying.represented { h with
    t6 := by
      -- T6 stops with the remote busy condition it guards
      have h6 := h.t6
      cases hrb : l.remoteBusy with
      | true => simp
      | false => simpa [hrb] using h6
    t7 := by
      simp only [TxControl.unackedLen, List.length_eq_zero_iff]
      split
      · next hnil => simp [hnil]
      · next hne => simp [hne] }

/-- A received unit keeps the timers in their states. -/
theorem handleSu (h : l.Represented age) (su : SignalUnit) :
    (l.handleSu su).Represented (if (l.handleSu su).state = l.state then age else 0) := by
  have hw : l.withSuerm.Represented age := h.congr rfl
  rcases l.handleSu_cases su with ⟨-, heq⟩ | heq
  · rw [heq]
    exact represented_failOutOfService _ _ _
  · rw [heq]
    -- the SUERM comes first, and only then the state looks at the unit
    have hfom : ∀ header msu, (l.withSuerm.handleFisuOrMsu header msu).Represented
        (if (l.withSuerm.handleFisuOrMsu header msu).state = l.state then age else 0) := by
      intro header msu
      rcases l.withSuerm.handleFisuOrMsu_cases header msu with ⟨hs, heq⟩ | ⟨hs, heq⟩ | ⟨-, -, heq⟩
      · rw [heq]
        exact processInServiceSu (hw.enterInService hs) header msu
      · rw [heq]
        exact processInServiceSu (hw.inTraffic hs) header msu
      · rw [heq]
        exact .stay rfl hw
    cases su with
    | Lssu header status extended => exact hw.lssu (l.withSuerm.handleLssu_outcome status)
    | Fisu header => exact hfom header none
    | Msu header sio sif => exact hfom header (some (sio, sif))

/-- So does a damaged one, which may end the proving, or the service. -/
theorem corrupted (h : l.Represented age) :
    l.handleCorruptedSu.Represented
      (if l.handleCorruptedSu.state = l.state then age else 0) := by
  have ho := l.handleCorruptedSu_outcome
  generalize l.handleCorruptedSu = l' at ho ⊢
  cases ho with
  | counted hs hr =>
    exact .stay rfl (h.congr rfl)
  | aborted hs hr =>
    unfold provingAborted
    split
    · exact .moved (by simp [hs]) ((h.fallBack hs).congr rfl)
    · exact represented_failAlignment _ _ _
  | recorded hs =>
    exact .stay rfl (h.congr rfl)
  | failed hs => exact represented_failOutOfService _ _ _
  | ignored hp hs => exact .stay rfl h

/-- A poll never empties the buffer, and starts T7 over one that is not empty. -/
theorem pollTransmit (h : l.Represented age) : l.pollTransmit.2.Represented age := by
  rw [pollTransmit_link]
  by_cases hs : l.state = .InService
  · have hc := h.inTraffic (by rw [hs]; rfl)
    set tx' := if l.polls then l.tx.poll.2 else l.tx with htx
    have hpre : l.tx.unacked <+: tx'.unacked := by
      rw [htx]
      split
      · exact l.tx.unacked_prefix_poll
      · exact List.prefix_refl _
    -- T7 guarded a buffer that the poll has not made smaller
    have hne : l.t7 ≠ none → tx'.unacked ≠ [] := fun ht hnil => by
      refine hc.t7.mp (Option.isSome_iff_ne_none.mpr ht) ?_
      rw [hnil] at hpre
      exact List.prefix_nil.mp hpre
    by_cases ht : l.t7 = none
    · by_cases hu : tx'.unacked = []
      · rw [guardT7, if_neg (by simp [TxControl.unackedLen, hu])]
        exact Carrying.represented { hc with t7 := by simp [ht, hu] }
      · rw [guardT7, if_pos ⟨hs, List.length_pos_iff.mpr hu, ht⟩]
        exact Carrying.represented { hc with t7 := by simp [hu] }
    · rw [guardT7, if_neg fun h' => ht h'.2.2]
      exact Carrying.represented { hc with
        t7 := by simp [hne ht, Option.isSome_iff_ne_none, ht] }
  · have hp : l.polls = false := by simp [polls, hs]
    rw [hp, guardT7, if_neg fun h' => hs h'.1]
    exact h

/-- A tick that does not end the state makes it a tick older. -/
theorem ticked (h : l.Represented age) :
    l.tick.Represented (if l.tick.state = l.state then age + 1 else 0) := by
  have ho := tick_outcome h
  generalize l.tick = l' at ho ⊢
  cases ho with
  | stepped h1 h2 h3 h4 h6 h7 =>
    exact .stay rfl {
      t1 := h.t1.tick h1
      t2 := h.t2.tick h2
      t3 := h.t3.tick h3
      t4 := (stepTimer_isSome h4).trans h.t4
      t6 := (stepTimer_isSome h6).trans h.t6
      t7 := (stepTimer_isSome h7).trans h.t7
      lpo_clear := h.lpo_clear
      lpo_set := h.lpo_set
      before_service := h.before_service }
  | alignmentFailed hs => exact represented_failAlignment _ _ _
  | serviceFailed hs => exact represented_failOutOfService _ _ _
  | proved hs h4 =>
    unfold provingSucceeded
    split
    · next hlpo =>
      have h1 : l.t1 = none := h.timers_off.1 (by simp [hs])
      exact .moved (by simp [hs]) ((h.enterAlignedNotReady (.inl hs)).congr
        (by simp [guarded, h1, hlpo]))
    · next hlpo =>
      exact .moved (by simp [hs]) ((h.enterAlignedReady (.inl hs)).congr
        (by simp [guarded, hlpo]))

/-- A start leaves T2 running alone. -/
theorem start (h : l.Represented age) :
    l.start.Represented (if l.start.state = l.state then age else 0) := by
  unfold Mtp2Link.start
  split
  · exact .stay rfl h
  · next hs =>
    rw [ne_eq, not_not] at hs
    exact .moved (by simp [hs]) (Preparing.represented {
      carries := rfl
      t1 := .off nofun
      t2 := .fresh rfl
      t3 := .off nofun
      t4 := ⟨nofun, nofun⟩
      t6 := rfl
      t7 := rfl
      lpo_clear := nofun
      lpo_set := nofun
      remoteBusy := rfl
      unacked := rfl })

/-- A local outage moves a link that is ready or in service, and is remembered elsewhere. -/
theorem localOutage (h : l.Represented age) :
    l.signalLocalProcessorOutage.Represented
      (if l.signalLocalProcessorOutage.state = l.state then age else 0) := by
  rcases l.signalLocalProcessorOutage_cases with ⟨hs, heq⟩ | ⟨hs, heq⟩ | ⟨hi, ha, heq⟩ <;> rw [heq]
  · exact Carrying.represented { h.inTraffic (by rw [hs]; rfl) with
      carries := rfl
      lpo_clear := nofun
      lpo_set := fun _ => rfl }
  · have h4 : l.t4 = none := h.timers_off.2.2.2.1 (by simp [hs])
    exact .moved (by simp [hs]) ((h.enterAlignedNotReady (.inr hs)).congr (by simp [guarded, h4]))
  · exact .stay rfl { h with
      lpo_clear := fun hc => hc.elim (fun hc => absurd hc ha) fun hc => absurd hc hi
      lpo_set := fun _ => rfl }

/-- Its end moves the link back. -/
theorem localRecovered (h : l.Represented age) :
    l.localProcessorRecovered.Represented
      (if l.localProcessorRecovered.state = l.state then age else 0) := by
  rcases l.localProcessorRecovered_cases with ⟨hs, heq⟩ | ⟨hs, heq⟩ | ⟨hp, hn, heq⟩ <;> rw [heq]
  · exact Carrying.represented { h.inTraffic (by rw [hs]; rfl) with
      carries := rfl
      lpo_clear := fun _ => rfl
      lpo_set := nofun }
  · have h4 : l.t4 = none := h.timers_off.2.2.2.1 (by simp [hs])
    exact .moved (by simp [hs]) ((h.enterAlignedReady (.inr hs)).congr (by simp [guarded, h4]))
  · exact .stay rfl { h with
      lpo_clear := fun _ => rfl
      lpo_set := fun hc => hc.elim (fun hc => absurd hc hn) fun hc => absurd hc hp }

end Represented

/-! ## Runs -/

/-- The ticks since the present state was entered, after one more operation. -/
def ageAfter (l : Mtp2Link) (op : Op) (age : ℕ) : ℕ :=
  if (l.step op).state = l.state then (if op = .tick then age + 1 else age) else 0

/-- **Every public operation keeps the representation invariant.** -/
theorem Represented.step (h : l.Represented age) (op : Op) :
    (l.step op).Represented (l.ageAfter op age) := by
  unfold ageAfter
  cases op with
  | tick => exact h.ticked
  | start => exact h.start
  | localProcessorOutage => exact h.localOutage
  | localProcessorRecovered => exact h.localRecovered
  | handleSu su => exact h.handleSu su
  | handleCorruptedSu => exact h.corrupted
  | stop => exact .out rfl rfl
  | setEmergency emergency => exact .stay rfl (h.congr rfl)
  | localBusy => exact .stay rfl (h.congr rfl)
  | localBusyEnded => exact .stay rfl (h.congr rfl)
  | pollEvent => exact .stay rfl (h.congr rfl)
  | submitMsu sio sif =>
    refine .stay (by rw [Mtp2Link.step, submitMsu_eq]) ?_
    show (l.submitMsu sio sif).2.Represented age
    unfold submitMsu
    dsimp only
    split
    · exact h
    · exact h.congr rfl
  | pollTransmit => exact .stay (by rw [Mtp2Link.step, pollTransmit_eq]) h.pollTransmit

/-- A link together with the ticks since its present state was entered. -/
def agedStep (s : Mtp2Link × ℕ) (op : Op) : Mtp2Link × ℕ := (s.1.step op, s.1.ageAfter op s.2)

theorem represented_new (config : Mtp2Config) : (new config).Represented age :=
  .out rfl rfl

/-- The age kept beside the link is that of the invariant. -/
theorem represented_agedRun (config : Mtp2Config) (ops : List Op) :
    (ops.foldl agedStep (new config, 0)).1.Represented (ops.foldl agedStep (new config, 0)).2 :=
  Run.invariant (fun s : Mtp2Link × ℕ => s.1.Represented s.2) (fun _ op h => h.step op)
    (represented_new config) ops

theorem agedRun_fst (s : Mtp2Link × ℕ) (ops : List Op) :
    (ops.foldl agedStep s).1 = s.1.run ops := by
  induction ops generalizing s with
  | nil => rfl
  | cons op ops ih => exact ih (agedStep s op)

/-- Every reachable link is represented, at some age. -/
theorem represented_of_run (config : Mtp2Config) (ops : List Op) :
    ∃ age, ((new config).run ops).Represented age :=
  ⟨_, agedRun_fst (new config, 0) ops ▸ represented_agedRun config ops⟩

/-- **The representation invariant holds in every reachable state**: each timer runs in
exactly the states it guards, the outage flag agrees with the state, and a guard timer has
its period less the ticks since the state was entered left, so the link leaves the state
within that period. -/
theorem represented_run (config : Mtp2Config) (ops : List Op) :
    let l := (new config).run ops
    let age := (ops.foldl agedStep (new config, 0)).2
    (l.t2.isSome = true ↔ l.state = .NotAligned) ∧
      (l.t3.isSome = true ↔ l.state = .Aligned) ∧
      (l.t4.isSome = true ↔ l.state = .Proving) ∧
      (l.t1.isSome = true ↔ l.state = .AlignedReady) ∧
      (l.t6.isSome = true ↔
        (l.state = .InService ∨ l.state = .ProcessorOutage) ∧ l.remoteBusy = true) ∧
      (l.t7.isSome = true ↔
        (l.state = .InService ∨ l.state = .ProcessorOutage) ∧ l.tx.unacked ≠ []) ∧
      (l.state = .AlignedReady ∨ l.state = .InService → l.localProcessorOutage = false) ∧
      (l.state = .AlignedNotReady ∨ l.state = .ProcessorOutage → l.localProcessorOutage = true) ∧
      (∀ r, l.t1 = some r → r.toNat = config.t1AlignedReady.toNat - age) ∧
      (∀ r, l.t2 = some r → r.toNat = config.t2NotAligned.toNat - age) ∧
      (∀ r, l.t3 = some r → r.toNat = config.t3Aligned.toNat - age) ∧
      (l.state = .NotAligned → age < max 1 config.t2NotAligned.toNat) ∧
      (l.state = .Aligned → age < max 1 config.t3Aligned.toNat) ∧
      (l.state = .AlignedReady → age < max 1 config.t1AlignedReady.toNat) := by
  intro l age
  have h : l.Represented age := by
    have := represented_agedRun config ops
    rwa [agedRun_fst] at this
  have hcarry : l.state.carriesTraffic = true ↔
      l.state = .InService ∨ l.state = .ProcessorOutage := by
    cases l.state <;> simp [Mtp2State.carriesTraffic]
  have hconfig : l.config = config := run_config _ ops
  -- a guard timer that runs has not run for its whole period
  have hage {t : Option UInt32} {on : Prop} {period : UInt32} (hg : Guards t on period age)
      (hon : on) : age < max 1 period.toNat := by
    obtain ⟨r, hr⟩ := Option.isSome_iff_exists.mp (hg.running.mpr hon)
    exact (hg.left r hr).2
  rw [← hconfig, ← hcarry]
  exact ⟨h.t2.running, h.t3.running, h.t4, h.t1.running, h.t6, h.t7, h.lpo_clear, h.lpo_set,
    fun r hr => (h.t1.left r hr).1, fun r hr => (h.t2.left r hr).1, fun r hr => (h.t3.left r hr).1,
    hage h.t2, hage h.t3, hage h.t1⟩

end Mtp2Link

end Mtp2
