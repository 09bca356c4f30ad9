import Mtp2.Expiry
import Mtp2.Lib.Bucket
import Mathlib.Algebra.BigOperators.Ring.Finset

/-!
# MTP2 — the error rate of a link in service

The SUERM is reset when the link enters service and records every SU reported from then on. Its
count is the level of a leaky bucket: one in for every SU in error, one out with every `D`-th SU,
so the window ending with the last SU decides when the link is taken out of service.

* **`Counts.record`** — the monitor keeps the level of the bucket;
* **`step_suerm`** — what an operation does to the monitor;
* **`suerm_exact`** — a link leaves service because of its error rate exactly when the errors of
  some window exceed its leaks by `T`.
-/

namespace Mtp2

/-- `e(i)`: the `i`-th report is of an SU in error. Reports are numbered from one. -/
def errorAt (reports : List Bool) (i : ℕ) : ℕ := if reports[i - 1]? = some true then 1 else 0

/-- Every `D`-th report leaks. -/
def leakAt (D i : ℕ) : ℕ := if D ∣ i then 1 else 0

/-- The largest number, over the windows ending with the last report, of errors in the window
less multiples of `D` in it. -/
def windowMax (reports : List Bool) (D : ℕ) : ℤ :=
  (Finset.range (reports.length + 1)).sup' Finset.nonempty_range_add_one fun k =>
    ∑ i ∈ Finset.Ioc k reports.length, (errorAt reports i : ℤ) -
      ((Finset.Ioc k reports.length).filter (D ∣ ·)).card

/-- The window maximum of a list is the peak of the bucket fed with it. -/
theorem windowMax_eq_peak (reports : List Bool) (D : ℕ) :
    windowMax reports D = Bucket.peak (errorAt reports) (leakAt D) reports.length := by
  have hleaks (k n : ℕ) : ∑ i ∈ Finset.Ioc k n, (leakAt D i : ℤ) =
      ((Finset.Ioc k n).filter (D ∣ ·)).card := by
    simp only [leakAt, Nat.cast_ite, Nat.cast_one, Nat.cast_zero, Finset.sum_boole]
  simp only [windowMax, Bucket.peak, Bucket.excess, hleaks]

/-- The level of the bucket after the reports. -/
def bucketLevel (reports : List Bool) (D : ℕ) : ℕ :=
  Bucket.level (errorAt reports) (leakAt D) reports.length

theorem bucketLevel_eq (reports : List Bool) (D : ℕ) :
    (bucketLevel reports D : ℤ) = windowMax reports D := by
  rw [windowMax_eq_peak, bucketLevel, Bucket.level_eq_peak]

/-- One report further. -/
theorem bucketLevel_snoc (reports : List Bool) (inError : Bool) (D : ℕ) :
    bucketLevel (reports ++ [inError]) D = bucketLevel reports D + inError.toNat -
      if D ∣ reports.length + 1 then 1 else 0 := by
  have hold : Bucket.level (errorAt (reports ++ [inError])) (leakAt D) reports.length =
      bucketLevel reports D := by
    refine Bucket.level_congr fun i h1 hi => ?_
    rw [errorAt, errorAt, List.getElem?_append_left (by omega)]
  have hnew : errorAt (reports ++ [inError]) (reports.length + 1) = inError.toNat := by
    rw [errorAt, Nat.add_sub_cancel, List.getElem?_concat_length]
    cases inError <;> rfl
  rw [bucketLevel, List.length_append, List.length_singleton, Bucket.level, hold, hnew, leakAt]

/-! ## The monitor -/

namespace Suerm

/-- A monitor that has recorded the reports since it was reset, and has not tripped. -/
structure Counts (s : Suerm) (reports : List Bool) : Prop where
  failed : s.failed = false
  count_lt : s.count.toNat < max 1 s.threshold.toNat
  since_lt : s.receivedSinceLeak.toNat < max 1 s.decrementInterval.toNat
  count : 1 ≤ s.decrementInterval.toNat →
    s.count.toNat = bucketLevel reports s.decrementInterval.toNat
  since : 1 ≤ s.decrementInterval.toNat →
    s.receivedSinceLeak.toNat = reports.length % s.decrementInterval.toNat

theorem counts_reset (s : Suerm) : s.reset.Counts [] :=
  ⟨rfl, Nat.lt_of_lt_of_le Nat.zero_lt_one (Nat.le_max_left _ _),
    Nat.lt_of_lt_of_le Nat.zero_lt_one (Nat.le_max_left _ _), fun _ => rfl,
    fun _ => (Nat.zero_mod _).symm⟩

/-- The two counters after one report, as numbers: neither saturates nor wraps. -/
theorem counters_after {s : Suerm} (hc : s.count.toNat < max 1 s.threshold.toNat)
    (hr : s.receivedSinceLeak.toNat < max 1 s.decrementInterval.toNat) (inError : Bool) :
    (s.countAfter inError).toNat = s.count.toNat + inError.toNat -
        (if s.decrementInterval.toNat ≤ s.receivedSinceLeak.toNat + 1 then 1 else 0) ∧
      s.sinceAfter.toNat = (if s.decrementInterval.toNat ≤ s.receivedSinceLeak.toNat + 1 then 0
        else s.receivedSinceLeak.toNat + 1) := by
  have ht := s.threshold.toNat_lt
  have hd := s.decrementInterval.toNat_lt
  have hcounted : (if inError then saturatingAdd s.count 1 else s.count).toNat =
      s.count.toNat + inError.toNat := by
    cases inError with
    | true =>
      rw [if_pos rfl, saturatingAdd_one_toNat, Bool.toNat_true]
      omega
    | false => rfl
  have hsince : (s.receivedSinceLeak + 1).toNat = s.receivedSinceLeak.toNat + 1 := by
    rw [UInt32.toNat_add, show (1 : UInt32).toNat = 1 from rfl]
    omega
  have hleaks : s.receivedSinceLeak + 1 ≥ s.decrementInterval ↔
      s.decrementInterval.toNat ≤ s.receivedSinceLeak.toNat + 1 := by
    rw [ge_iff_le, UInt32.le_iff_toNat_le, hsince]
  simp only [countAfter, sinceAfter, hleaks]
  split
  · exact ⟨by rw [saturatingSub_one_toNat, hcounted], rfl⟩
  · exact ⟨hcounted, hsince⟩

namespace Counts

variable {s : Suerm} {reports : List Bool}

/-- The interval since the last leak is full exactly at a multiple of `D`. -/
theorem due_iff (h : s.Counts reports) (hD : 1 ≤ s.decrementInterval.toNat) :
    s.decrementInterval.toNat ≤ s.receivedSinceLeak.toNat + 1 ↔
      s.decrementInterval.toNat ∣ reports.length + 1 := by
  have hlt := Nat.mod_lt reports.length hD
  rw [h.since hD, Nat.dvd_iff_mod_eq_zero, ← Nat.mod_add_mod]
  refine ⟨fun hle => ?_, fun hmod => ?_⟩
  · rw [show reports.length % s.decrementInterval.toNat + 1 = s.decrementInterval.toNat by omega,
      Nat.mod_self]
  · by_contra hgt
    rw [Nat.mod_eq_of_lt (Nat.not_le.mp hgt)] at hmod
    cases hmod

/-- The count a report leaves is the level of the bucket. -/
theorem countAfter_eq (h : s.Counts reports) (hD : 1 ≤ s.decrementInterval.toNat)
    (inError : Bool) : (s.countAfter inError).toNat =
      bucketLevel (reports ++ [inError]) s.decrementInterval.toNat := by
  rw [(counters_after h.count_lt h.since_lt inError).1, bucketLevel_snoc, h.count hD]
  simp only [h.due_iff hD]

/-- The monitor trips exactly when the bucket has reached the threshold. -/
theorem trips_iff (h : s.Counts reports) (hD : 1 ≤ s.decrementInterval.toNat) (inError : Bool) :
    (s.record inError).1 = true ↔
      s.threshold.toNat ≤ bucketLevel (reports ++ [inError]) s.decrementInterval.toNat := by
  rw [← h.countAfter_eq hD, ← UInt32.le_iff_toNat_le, s.record_eq inError, h.failed]
  simp

/-- **A report that does not trip the monitor.** -/
theorem record (h : s.Counts reports) {inError : Bool} (hr : (s.record inError).1 = false) :
    (s.record inError).2.Counts (reports ++ [inError]) := by
  obtain ⟨hcount, hsince⟩ := counters_after h.count_lt h.since_lt inError
  rw [s.record_eq inError] at hr ⊢
  dsimp only at hr ⊢
  have hlt : (s.countAfter inError).toNat < s.threshold.toNat := by
    have := (Bool.or_eq_false_iff.mp hr).2
    rw [← UInt32.lt_iff_toNat_lt, ← UInt32.not_le]
    exact of_decide_eq_false this
  exact {
    failed := hr
    count_lt := Nat.lt_of_lt_of_le hlt (Nat.le_max_right _ _)
    since_lt := by
      show s.sinceAfter.toNat < max 1 s.decrementInterval.toNat
      rw [hsince]
      split <;> omega
    count := fun hD => h.countAfter_eq hD inError
    since := fun hD => by
      show s.sinceAfter.toNat = (reports ++ [inError]).length % s.decrementInterval.toNat
      rw [hsince, List.length_append, List.length_singleton]
      simp only [h.due_iff hD]
      split
      · next hdvd => exact (Nat.mod_eq_zero_of_dvd hdvd).symm
      · next hdvd =>
        have hlt := Nat.mod_lt reports.length hD
        have hnot := mt (h.due_iff hD).mp hdvd
        rw [h.since hD] at hnot ⊢
        rw [← Nat.mod_add_mod, Nat.mod_eq_of_lt (Nat.not_le.mp hnot)] }

end Counts

end Suerm

/-! ## The monitor of a link -/

/-- What an operation reports to the SUERM of a link in service: an SU, in error or not. -/
def Op.report : Op → Option Bool
  | .handleSu _ => some false
  | .handleCorruptedSu => some true
  | _ => none

namespace Mtp2Link

variable {l l' : Mtp2Link} {age : ℕ}

/-- `l'` is `l` after something that neither reports to the monitor nor raises its failure. -/
structure Unmonitored (l l' : Mtp2Link) : Prop where
  suerm : l'.suerm = l.suerm
  events : ∃ es, l'.events = l.events ++ es ∧ Event.OutOfService .SuermFailure ∉ es

namespace Unmonitored

theorem silent (hsuerm : l'.suerm = l.suerm) (he : l'.events = l.events) : l.Unmonitored l' :=
  ⟨hsuerm, [], by rw [he, List.append_nil], List.not_mem_nil⟩

theorem emit (hsuerm : l'.suerm = l.suerm) {e : Event} (he : l'.events = l.events ++ [e])
    (hne : e ≠ .OutOfService .SuermFailure) : l.Unmonitored l' :=
  ⟨hsuerm, [e], he, by simpa using hne.symm⟩

/-- An LSSU may end the service period, but never for its error rate. -/
theorem handleLssu (hs : l.state.carriesTraffic = true) (status : StatusIndication) :
    l.Unmonitored (l.handleLssu status) := by
  have ho := l.handleLssu_outcome status
  have hup := l.upgradeEmergency_eq status
  generalize l.handleLssu status = l' at ho ⊢
  cases ho with
  | ignored _ => rw [hup]; exact silent rfl rfl
  | aligned _ _ | proving _ _ => rw [hup]; exact silent rfl rfl
  | reproving _ | fallback _ | outageAgain _ _ | busyAgain _ _ => exact silent rfl rfl
  | serving hs' => rw [hs'] at hs; cases hs
  | failed _ | outage _ _ | busy _ _ | released _ | realigned _ _ => exact emit rfl rfl (by simp)

theorem handleFisuOrMsu (hs : l.state.carriesTraffic = true) (header : SuHeader)
    (msu : Option Payload) : l.Unmonitored (l.handleFisuOrMsu header msu) := by
  have hne : l.state ≠ .AlignedReady := Mtp2State.ne_of_carriesTraffic hs rfl
  rcases l.handleFisuOrMsu_cases header msu with ⟨ha, -⟩ | ⟨-, heq⟩ | ⟨-, -, heq⟩
  · exact absurd ha hne
  · rw [heq, processInServiceSu_eq]
    refine ⟨rfl, l.clearedEvents ++ outcomeEvents (l.checked header.fsn msu).1, by simp, ?_⟩
    -- busy and outage cleared, then the outcome of the MSU: no event of either part is a failure
    rw [List.mem_append, not_or]
    refine ⟨?_, ?_⟩
    · cases hr : l.remoteProcessorOutage <;> cases hb : l.remoteBusy <;>
        simp [clearedEvents, hr, hb]
    · cases (l.checked header.fsn msu).1 with
      | none => simp [outcomeEvents]
      | some outcome => cases outcome <;> simp [outcomeEvents]
  · rw [heq]
    exact silent rfl rfl

theorem handleUnit (hs : l.state.carriesTraffic = true) (su : SignalUnit) :
    l.Unmonitored (l.handleUnit su) := by
  cases su with
  | Lssu header status extended => exact handleLssu hs status
  | Fisu header => exact handleFisuOrMsu hs header none
  | Msu header sio sif => exact handleFisuOrMsu hs header (some (sio, sif))

theorem tick (h : l.Represented age) (hs : l.state.carriesTraffic = true) :
    l.Unmonitored l.tick := by
  have htick := tick_traffic h hs
  generalize l.tick = l' at htick ⊢
  cases htick with
  | t6 _ | t7 _ _ => exact emit rfl rfl (by simp)
  | stepped _ _ => exact silent rfl rfl

end Unmonitored

/-- What an operation does to the monitor of a link in service. -/
inductive SuermStep (l : Mtp2Link) (op : Op) : Prop where
  | tripped {inError : Bool} (hop : op.report = some inError)
      (hr : (l.suerm.record inError).1 = true)
      (hsuerm : (l.step op).suerm = (l.suerm.record inError).2)
      (hs' : (l.step op).state = .OutOfService) (he : l.raised op = [.OutOfService .SuermFailure])
  | recorded {inError : Bool} (hop : op.report = some inError)
      (hr : (l.suerm.record inError).1 = false)
      (hsuerm : (l.step op).suerm = (l.suerm.record inError).2)
      (he : Event.OutOfService .SuermFailure ∉ l.raised op)
  | idle (hop : op.report = none) (hsuerm : (l.step op).suerm = l.suerm)
      (he : Event.OutOfService .SuermFailure ∉ l.raised op)

/-- A received SU in service: the monitor first, then the arm of the unit. -/
theorem handleSu_traffic (hs : l.state.carriesTraffic = true) (su : SignalUnit) :
    l.handleSu su = if (l.suerm.record false).1 then l.withSuerm.failOutOfService .SuermFailure
      else l.withSuerm.handleUnit su := by
  unfold handleSu withSuerm
  simp only [hs, if_true]
  split
  · rfl
  · cases su <;> rfl

/-- A corrupted SU in service only feeds the monitor. -/
theorem handleCorruptedSu_traffic (hs : l.state.carriesTraffic = true) :
    l.handleCorruptedSu = if (l.suerm.record true).1 then
        { l with suerm := (l.suerm.record true).2 }.failOutOfService .SuermFailure
      else { l with suerm := (l.suerm.record true).2 } := by
  unfold handleCorruptedSu
  cases hst : l.state with
  | InService | ProcessorOutage => rfl
  | _ => rw [hst] at hs; cases hs

/-- An operation that reports nothing. -/
theorem SuermStep.of_unmonitored {op : Op} (hop : op.report = none)
    (h : l.Unmonitored (l.step op)) : l.SuermStep op := by
  obtain ⟨es, he, hne⟩ := h.events
  exact .idle hop h.suerm (by rwa [raised_of_append he])

/-- **What an operation does to the monitor of a link in service.** -/
theorem step_suerm (h : l.Represented age) (hs : l.state.carriesTraffic = true) (op : Op) :
    l.SuermStep op := by
  have hlocal := l.step_local op
  cases op with
  | handleSu su =>
    have heq := handleSu_traffic hs su
    cases hr : (l.suerm.record false).1 with
    | true =>
      rw [hr, if_pos rfl] at heq
      have hsuerm : l.withSuerm.suerm = (l.suerm.record false).2 := by rw [withSuerm, if_pos hs]
      exact .tripped rfl hr (by rw [step, heq, ← hsuerm]; rfl) (by rw [step, heq]; rfl)
        (raised_of_append (by rw [step, heq]; rfl))
    | false =>
      rw [hr, if_neg (by simp)] at heq
      have hunit := Unmonitored.handleUnit (l := l.withSuerm) hs su
      -- the unit is handled by a link that has already recorded it
      obtain ⟨es, he, hne⟩ := hunit.events
      refine .recorded rfl hr ?_ (by rwa [raised_of_append (by rw [step, heq, he]; rfl)])
      rw [step, heq, hunit.suerm, withSuerm, if_pos hs]
  | handleCorruptedSu =>
    have heq := handleCorruptedSu_traffic hs
    cases hr : (l.suerm.record true).1 with
    | true =>
      rw [hr, if_pos rfl] at heq
      exact .tripped rfl hr (by rw [step, heq]; rfl) (by rw [step, heq]; rfl)
        (raised_of_append (by rw [step, heq]; rfl))
    | false =>
      rw [hr, if_neg (by simp)] at heq
      have hnone : l.raised .handleCorruptedSu = [] := raised_of_append (by rw [step, heq]; simp)
      exact .recorded rfl hr (by rw [step, heq]) (by rw [hnone]; exact List.not_mem_nil)
  | tick => exact .of_unmonitored rfl (.tick h hs)
  | start =>
    -- a start does nothing to a link that is up
    have : l.step .start = l := by
      rw [step, start, if_pos (Mtp2State.ne_of_carriesTraffic hs rfl)]
    exact .of_unmonitored rfl (by rw [this]; exact .silent rfl rfl)
  | stop => exact .of_unmonitored rfl (.emit rfl rfl (by simp))
  | pollEvent => exact .idle rfl rfl (by rw [raised_pollEvent]; exact List.not_mem_nil)
  | _ => exact .of_unmonitored rfl (.silent (hlocal rfl).suerm ((hlocal rfl).events (by simp)))

/-- Out of service the monitor rests, until the link is started or enters service. -/
structure SuermRests (l l' : Mtp2Link) : Prop where
  rests : l'.suerm = l.suerm ∨ l'.suerm = l.suerm.reset
  entered : l'.state.carriesTraffic = true → l'.suerm = l.suerm.reset

namespace SuermRests

theorem kept (hsuerm : l'.suerm = l.suerm) (hs' : l'.state.carriesTraffic = false) :
    l.SuermRests l' := ⟨.inl hsuerm, fun h => by rw [hs'] at h; cases h⟩

theorem reset (hsuerm : l'.suerm = l.suerm.reset) : l.SuermRests l' :=
  ⟨.inr hsuerm, fun _ => hsuerm⟩

theorem handleUnit (hs : l.state.carriesTraffic = false) (su : SignalUnit) :
    l.SuermRests (l.handleUnit su) := by
  have hfisu (header : SuHeader) (msu : Option Payload) :
      l.SuermRests (l.handleFisuOrMsu header msu) := by
    rcases l.handleFisuOrMsu_cases header msu with ⟨-, heq⟩ | ⟨hc, -⟩ | ⟨-, -, heq⟩
    · rw [heq, processInServiceSu_eq]
      exact reset rfl
    · rw [hs] at hc; cases hc
    · rw [heq]
      exact kept rfl hs
  cases su with
  | Fisu header => exact hfisu header none
  | Msu header sio sif => exact hfisu header (some (sio, sif))
  | Lssu header status extended =>
    have ho := l.handleLssu_outcome status
    have hup := l.upgradeEmergency_eq status
    rw [Mtp2Link.handleUnit]
    generalize l.handleLssu status = l' at ho ⊢
    cases ho with
    | ignored _ => rw [hup]; exact kept rfl hs
    | aligned _ _ | proving _ _ => rw [hup]; exact kept rfl rfl
    | reproving | fallback | failed | released | realigned => exact kept rfl rfl
    | serving _ => exact reset rfl
    | outage hc _ | outageAgain hc _ | busy hc _ | busyAgain hc _ => rw [hs] at hc; cases hc

end SuermRests

/-- Out of service no operation feeds the monitor; entering service empties it. -/
theorem step_suerm_rests (h : l.Represented age) (hs : l.state.carriesTraffic = false) (op : Op) :
    l.SuermRests (l.step op) := by
  have hlocal := l.step_local op
  cases op with
  | handleSu su =>
    -- out of service the monitor is not asked at all
    rw [step, handleSu_of_not_traffic hs]
    exact .handleUnit hs su
  | handleCorruptedSu =>
    have ho := l.handleCorruptedSu_outcome
    show l.SuermRests l.handleCorruptedSu
    generalize l.handleCorruptedSu = l' at ho ⊢
    cases ho with
    | counted hp _ => exact .kept rfl hs
    | aborted _ _ => unfold provingAborted; split <;> exact .kept rfl rfl
    | ignored _ _ => exact .kept rfl hs
    | recorded hc | failed hc => rw [hs] at hc; cases hc
  | tick =>
    have ho := tick_outcome h
    show l.SuermRests l.tick
    generalize l.tick = l' at ho ⊢
    cases ho with
    | stepped => exact .kept rfl hs
    | alignmentFailed _ | serviceFailed _ => exact .kept rfl rfl
    | proved _ _ => unfold provingSucceeded; split <;> exact .kept rfl rfl
  | start =>
    show l.SuermRests l.start
    unfold start
    split
    · exact .kept rfl hs
    · -- the one effective start empties the monitor
      exact .reset rfl
  | stop => exact .kept rfl rfl
  | _ => exact .kept (hlocal rfl).suerm ((hlocal rfl).carriesTraffic.trans hs)

/-! ## Service periods -/

/-- The monitor has the configured threshold and leak interval. -/
structure Tuned (l : Mtp2Link) : Prop where
  threshold : l.suerm.threshold = l.config.suermThreshold
  interval : l.suerm.decrementInterval = l.config.suermDecrementInterval

theorem Tuned.step (h : l.Tuned) (hr : l.Represented age) (op : Op) : (l.step op).Tuned := by
  have hkept : (l.step op).suerm.threshold = l.suerm.threshold ∧
      (l.step op).suerm.decrementInterval = l.suerm.decrementInterval := by
    -- neither a reset nor a recording touches the two numbers
    cases hs : l.state.carriesTraffic with
    | false =>
      rcases (step_suerm_rests hr hs op).rests with heq | heq <;> rw [heq] <;> exact ⟨rfl, rfl⟩
    | true =>
      cases step_suerm hr hs op with
      | tripped _ _ hsuerm | recorded _ _ hsuerm =>
        rw [hsuerm, Suerm.record_eq]
        exact ⟨rfl, rfl⟩
      | idle _ hsuerm => rw [hsuerm]; exact ⟨rfl, rfl⟩
  exact ⟨hkept.1.trans (by rw [step_config]; exact h.threshold),
    hkept.2.trans (by rw [step_config]; exact h.interval)⟩

/-- No run changes the threshold or the leak interval the monitor was built with. -/
theorem tuned_run (config : Mtp2Config) (ops : List Op) : ((new config).run ops).Tuned := by
  induction ops using List.reverseRecOn with
  | nil => exact ⟨rfl, rfl⟩
  | append_singleton ops op ih =>
    obtain ⟨age, hr⟩ := represented_of_run config ops
    rw [run_snoc]
    exact ih.step hr op

/-- A service period: after `before` the call `enter` takes the link into service, and the link
has been up throughout `ops`. -/
structure ServicePeriod (config : Mtp2Config) (before : List Op) (enter : Op) (ops : List Op) :
    Prop where
  out : ((new config).run before).state.carriesTraffic = false
  up : ∀ p, p <+: ops → ((new config).run (before ++ enter :: p)).state.carriesTraffic = true

variable {config : Mtp2Config} {before ops : List Op} {enter op : Op}

theorem ServicePeriod.of_snoc (h : ServicePeriod config before enter (ops ++ [op])) :
    ServicePeriod config before enter ops :=
  ⟨h.out, fun p hp => h.up p (hp.trans (List.prefix_append _ _))⟩

/-- **Throughout a service period the monitor counts the reports since the link entered
service.** -/
theorem ServicePeriod.counts (h : ServicePeriod config before enter ops) :
    ((new config).run (before ++ enter :: ops)).suerm.Counts (ops.filterMap Op.report) := by
  induction ops using List.reverseRecOn with
  | nil =>
    obtain ⟨age, hr⟩ := represented_of_run config before
    have hup := h.up [] (List.prefix_refl _)
    rw [run_snoc] at hup ⊢
    -- the period opens with an empty monitor
    rw [(step_suerm_rests hr h.out enter).entered hup]
    exact Suerm.counts_reset _
  | append_singleton ops op ih =>
    have hcounts := ih h.of_snoc
    obtain ⟨age, hr⟩ := represented_of_run config (before ++ enter :: ops)
    have hs := h.of_snoc.up ops (List.prefix_refl _)
    have hup := h.up (ops ++ [op]) (List.prefix_refl _)
    rw [← List.cons_append, ← List.append_assoc, run_snoc] at hup ⊢
    rw [List.filterMap_append]
    cases step_suerm hr hs op with
    -- a period that goes on has not tripped
    | tripped _ _ _ hs' => rw [hs'] at hup; cases hup
    | recorded hop hr hsuerm =>
      rw [hsuerm, List.filterMap_cons_some hop]
      exact hcounts.record hr
    | idle hop hsuerm =>
      rw [hsuerm, List.filterMap_cons_none hop, List.filterMap_nil, List.append_nil]
      exact hcounts

/-- **In-service error monitoring is an exact leaky bucket.** At every point of a service period
neither counter can overflow, and with a positive threshold and leak interval the count is the
largest excess of errors over multiples of `D` in a window ending with the last report; it is
below `T`, and the next call takes the link out of service for its error rate exactly when it is
a report that brings this number to `T`. -/
theorem suerm_exact (config : Mtp2Config) (before : List Op) (enter : Op) (ops : List Op)
    (h : ServicePeriod config before enter ops) :
    let l := (new config).run (before ++ enter :: ops)
    let T := config.suermThreshold.toNat
    let D := config.suermDecrementInterval.toNat
    let reports := ops.filterMap Op.report
    (l.suerm.count.toNat + 1 < 2 ^ 32 ∧ l.suerm.receivedSinceLeak.toNat + 1 < 2 ^ 32) ∧
      (1 ≤ T → 1 ≤ D →
        l.suerm.count.toNat = windowMax reports D ∧ windowMax reports D < T ∧
          ∀ op, (l.step op).state = .OutOfService ∧ l.raised op = [.OutOfService .SuermFailure] ↔
            ∃ inError, op.report = some inError ∧ T ≤ windowMax (reports ++ [inError]) D) := by
  intro l T D reports
  have hcounts : l.suerm.Counts reports := h.counts
  have htuned : l.Tuned := tuned_run config _
  have hconfig : l.config = config := run_config _ _
  obtain ⟨age, hr⟩ : ∃ age, l.Represented age := represented_of_run config _
  have hs : l.state.carriesTraffic = true := h.up ops (List.prefix_refl _)
  have hT : l.suerm.threshold.toNat = T := by rw [htuned.threshold, hconfig]
  have hD : l.suerm.decrementInterval.toNat = D := by rw [htuned.interval, hconfig]
  refine ⟨⟨?_, ?_⟩, fun hT1 hD1 => ⟨?_, ?_, fun op => ?_⟩⟩
  · -- the count stays under the threshold, so neither addition wraps
    have := hcounts.count_lt
    have := l.suerm.threshold.toNat_lt
    omega
  · have := hcounts.since_lt
    have := l.suerm.decrementInterval.toNat_lt
    omega
  · rw [← bucketLevel_eq, hcounts.count (by rwa [hD]), hD]
  · have hlt := hcounts.count_lt
    rw [hcounts.count (by rwa [hD]), hD, hT, Nat.max_eq_right hT1] at hlt
    rw [← bucketLevel_eq]
    exact Int.ofNat_lt.mpr hlt
  · -- one more report trips the monitor exactly if the longer list reaches the threshold
    have htrips (inError : Bool) : (l.suerm.record inError).1 = true ↔
        (T : ℤ) ≤ windowMax (reports ++ [inError]) D := by
      rw [hcounts.trips_iff (by rwa [hD]), hT, hD, ← bucketLevel_eq]
      exact Int.ofNat_le.symm
    cases step_suerm hr hs op with
    | tripped hop hrec _ hs' he =>
      exact iff_of_true ⟨hs', he⟩ ⟨_, hop, (htrips _).mp hrec⟩
    -- reported and not tripped: the window of the longer list is below the threshold
    | @recorded inError hop hrec _ he =>
      refine iff_of_false (fun hf => he (by rw [hf.2]; exact List.mem_singleton_self _)) ?_
      rintro ⟨inError', hop', hle⟩
      obtain rfl : inError = inError' := Option.some.inj (hop.symm.trans hop')
      rw [(htrips _).mpr hle] at hrec
      cases hrec
    -- no report, no failure of this kind
    | idle hop _ he =>
      refine iff_of_false (fun hf => he (by rw [hf.2]; exact List.mem_singleton_self _)) ?_
      rintro ⟨inError, hop', -⟩
      rw [hop] at hop'
      cases hop'

/-- SIO, SIN and one tick of proving. -/
def provedRun : List Op :=
  [.start, .handleSu (.Lssu ⟨127, true, 127, true⟩ .OutOfAlignment false),
    .handleSu (.Lssu ⟨127, true, 127, true⟩ .NormalAlignment false), .tick]

/-- With `T = 2` and `D = 4` the second error among the first three reports ends the period. -/
theorem suerm_exact_second_error :
    let fisu : Op := .handleSu (.Fisu ⟨127, true, 127, true⟩)
    let l := (new { t4ProvingNormal := 1, suermThreshold := 2, suermDecrementInterval := 4 }).run
      (provedRun ++ fisu :: [.handleCorruptedSu, fisu])
    l.suerm.count.toNat = windowMax [true, false] 4 ∧
      (l.step .handleCorruptedSu).state = .OutOfService := by
  have hup : ∀ p ∈ [Op.handleCorruptedSu, .handleSu (.Fisu ⟨127, true, 127, true⟩)].inits,
      ((new { t4ProvingNormal := 1, suermThreshold := 2, suermDecrementInterval := 4 }).run
        (provedRun ++ .handleSu (.Fisu ⟨127, true, 127, true⟩) :: p)).state.carriesTraffic =
          true := by decide
  obtain ⟨hcount, -, hfails⟩ := (suerm_exact
    { t4ProvingNormal := 1, suermThreshold := 2, suermDecrementInterval := 4 } provedRun
    (.handleSu (.Fisu ⟨127, true, 127, true⟩))
    [.handleCorruptedSu, .handleSu (.Fisu ⟨127, true, 127, true⟩)]
    ⟨by decide, fun p hp => hup p ((List.mem_inits _ _).mpr hp)⟩).2 (by decide) (by decide)
  exact ⟨hcount, ((hfails .handleCorruptedSu).mpr ⟨true, rfl, by decide⟩).1⟩

end Mtp2Link

end Mtp2
