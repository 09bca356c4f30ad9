import Mtp2.Timers
import Mathlib.Data.List.Induction

/-!
# MTP2 — the proving period

What a link does while it proves, and what decides a proving attempt. T4 and the AERM count
run down together; every other operation leaves both alone, except a received SIE, which
`handle_lssu` answers by entering Proving afresh, also when the mode already is emergency.

* **`step_proving`** — everything one operation can do to a proving link;
* **`decided_iff`** — time and errors alone decide a proving attempt exactly when no SIE is
  received before the decision.
-/

namespace Mtp2

/-- Operations that leave T4 and the AERM of a proving link alone. -/
def Op.keepsProving : Op → Bool
  | .tick | .handleCorruptedSu | .stop => false
  | .handleSu (.Lssu _ status _) =>
    status = .NormalAlignment ∨ status = .ProcessorOutage ∨ status = .Busy
  | _ => true

/-- Operations that end the proving attempt of any link: a stop, or the peer leaving
alignment. -/
def Op.endsProving : Op → Bool
  | .stop => true
  | .handleSu (.Lssu _ status _) => status = .OutOfAlignment ∨ status = .OutOfService
  | _ => false

/-- A received SIE. -/
def Op.isSie : Op → Bool
  | .handleSu (.Lssu _ status _) => status = .EmergencyAlignment
  | _ => false

/-- An SIE is of none of the other kinds. -/
theorem Op.isSie_kind {op : Op} (h : op.isSie = true) :
    op.keepsProving = false ∧ op.endsProving = false ∧ op ≠ .tick ∧ op ≠ .handleCorruptedSu := by
  cases op with
  | handleSu su =>
    cases su with
    | Lssu header status extended =>
      obtain rfl : status = .EmergencyAlignment := by simpa [isSie] using h
      exact ⟨rfl, rfl, nofun, nofun⟩
    | Fisu header | Msu header sio sif => cases h
  | _ => cases h

namespace Mtp2Link

variable {l l' : Mtp2Link}

/-- Everything one operation can do to a proving link. -/
inductive ProvingOutcome (l : Mtp2Link) : Op → Mtp2Link → Prop where
  | kept {op : Op} {l' : Mtp2Link} (hop : op.keepsProving = true) (hs : l'.state = .Proving)
      (ht : l'.t4 = l.t4) (ha : l'.aerm = l.aerm) (hn : l'.provingAttempt = l.provingAttempt)
      (hlpo : op ≠ .localProcessorOutage → op ≠ .localProcessorRecovered →
        l'.localProcessorOutage = l.localProcessorOutage) : ProvingOutcome l op l'
  | ticked (h4 : (stepTimer l.t4).1 = false) : ProvingOutcome l .tick l.stepTimers
  | proved {l' : Mtp2Link} (h4 : (stepTimer l.t4).1 = true)
      (hs : l'.state = if l.localProcessorOutage then .AlignedNotReady else .AlignedReady) :
      ProvingOutcome l .tick l'
  | counted (hr : l.aerm.recordError.1 = false) :
      ProvingOutcome l .handleCorruptedSu { l with aerm := l.aerm.recordError.2 }
  | aborted (hr : l.aerm.recordError.1 = true) :
      ProvingOutcome l .handleCorruptedSu { l with aerm := l.aerm.recordError.2 }.provingAborted
  | restarted {op : Op} (hop : op.isSie = true) :
      ProvingOutcome l op { l with emergency := true }.enterProving
  | ended {op : Op} {l' : Mtp2Link} (hop : op.endsProving = true)
      (hs : l'.state = .Aligned ∨ l'.state = .OutOfService) : ProvingOutcome l op l'

/-- A tick completes the period, or takes one off. -/
theorem tick_proving (hs : l.state = .Proving) : l.ProvingOutcome .tick l.tick := by
  obtain ⟨config, state, active, emergency, lpo, rpo, lb, rb, attempt, tx, rx, aerm, suerm, t1, t2,
    t3, t4, t6, t7, events⟩ := l
  obtain rfl : state = .Proving := hs
  cases h4 : (stepTimer t4).1 with
  | true =>
    refine .proved h4 ?_
    cases lpo <;> simp [tick, h4, provingSucceeded]
  | false =>
    -- no other timer expires in its own state, so every timer is stepped
    have : (Mtp2Link.mk config .Proving active emergency lpo rpo lb rb attempt tx rx aerm suerm t1
        t2 t3 t4 t6 t7 events).tick = (Mtp2Link.mk config .Proving active emergency lpo rpo lb rb
        attempt tx rx aerm suerm t1 t2 t3 t4 t6 t7 events).stepTimers := by
      simp [tick, h4, stepTimers, Mtp2State.carriesTraffic]
    rw [this]
    exact .ticked h4

/-- Before service the SUERM does not count. -/
theorem withSuerm_of_not_traffic (h : l.state.carriesTraffic = false) : l.withSuerm = l := by
  unfold withSuerm
  rw [h]
  rfl

/-- Before service the SUERM is not asked. -/
theorem handleSu_of_not_traffic (h : l.state.carriesTraffic = false) (su : SignalUnit) :
    l.handleSu su = l.handleUnit su := by
  rcases l.handleSu_cases su with ⟨hc, -⟩ | heq
  · rw [h] at hc; cases hc
  · rw [heq, withSuerm_of_not_traffic h]

/-- A unit ends the proving, starts it again, or does nothing to it. -/
theorem handleSu_proving (hs : l.state = .Proving) (su : SignalUnit) :
    l.ProvingOutcome (.handleSu su) (l.handleSu su) := by
  have htraffic : l.state.carriesTraffic = false := by rw [hs]; rfl
  have hkept : ∀ header msu, l.handleFisuOrMsu header msu = l := fun header msu => by
    rw [handleFisuOrMsu, hs]
  rw [handleSu_of_not_traffic htraffic]
  cases su with
  | Fisu header =>
    rw [handleUnit, hkept]
    exact .kept rfl hs rfl rfl rfl fun _ _ => rfl
  | Msu header sio sif =>
    rw [handleUnit, hkept]
    exact .kept rfl hs rfl rfl rfl fun _ _ => rfl
  | Lssu header status extended =>
    rw [handleUnit]
    have ho := l.handleLssu_outcome status
    generalize l.handleLssu status = l' at ho ⊢
    cases ho with
    | reproving _ => exact .restarted rfl
    | fallback _ => exact .ended rfl (.inl rfl)
    | failed _ => exact .ended rfl (.inr rfl)
    | ignored hi =>
      -- the upgrade to emergency is for SIE alone, and SIE is not ignored here
      rw [hs] at hi
      have hsin : l.upgradeEmergency status = l := by
        rw [upgradeEmergency, if_neg]
        rintro ⟨rfl, -⟩
        cases hi
      rw [hsin]
      refine .kept ?_ hs rfl rfl rfl fun _ _ => rfl
      cases status <;> first | rfl | cases hi
    | aligned h _ | proving h _ | serving h => rw [hs] at h; cases h
    | outage h _ | outageAgain h _ | busy h _ | busyAgain h _ | released h | realigned h _ =>
      rw [htraffic] at h; cases h

/-- **What one operation can do to a proving link.** -/
theorem step_proving (hs : l.state = .Proving) (op : Op) : l.ProvingOutcome op (l.step op) := by
  cases op with
  | tick => exact tick_proving hs
  | handleSu su => exact handleSu_proving hs su
  | stop => exact .ended rfl (.inr rfl)
  | handleCorruptedSu =>
    -- the AERM counts the error, and trips at the threshold
    have ho := l.handleCorruptedSu_outcome
    show l.ProvingOutcome .handleCorruptedSu l.handleCorruptedSu
    generalize l.handleCorruptedSu = l' at ho ⊢
    cases ho with
    | counted _ hr => exact .counted hr
    | aborted _ hr => exact .aborted hr
    | recorded h | failed h => rw [hs] at h; cases h
    | ignored hp _ => exact absurd hs hp
  | start =>
    -- only a link out of service starts
    have : l.start = l := by rw [start, if_pos (by rw [hs]; nofun)]
    rw [step, this]
    exact .kept rfl hs rfl rfl rfl fun _ _ => rfl
  | localProcessorOutage =>
    rcases l.signalLocalProcessorOutage_cases with ⟨h, -⟩ | ⟨h, -⟩ | ⟨-, -, heq⟩
    · rw [hs] at h; cases h
    · rw [hs] at h; cases h
    · -- the flag is kept for the end of the proving
      rw [step, heq]
      exact .kept rfl hs rfl rfl rfl fun h => absurd rfl h
  | localProcessorRecovered =>
    rcases l.localProcessorRecovered_cases with ⟨h, -⟩ | ⟨h, -⟩ | ⟨-, -, heq⟩
    · rw [hs] at h; cases h
    · rw [hs] at h; cases h
    · rw [step, heq]
      exact .kept rfl hs rfl rfl rfl fun _ h => absurd rfl h
  | submitMsu sio sif =>
    rw [step, submitMsu_eq]
    exact .kept rfl hs rfl rfl rfl fun _ _ => rfl
  | pollTransmit =>
    rw [step, pollTransmit_eq]
    exact .kept rfl hs rfl rfl rfl fun _ _ => rfl
  | setEmergency emergency => exact .kept rfl hs rfl rfl rfl fun _ _ => rfl
  | localBusy => exact .kept rfl hs rfl rfl rfl fun _ _ => rfl
  | localBusyEnded => exact .kept rfl hs rfl rfl rfl fun _ _ => rfl
  | pollEvent => exact .kept rfl hs rfl rfl rfl fun _ _ => rfl

/-! ## A proving attempt and its two counters -/

/-- The link has been proving over `ops`, with period `P` and error threshold `E`, and
neither has been reached. -/
structure ProvingFor (P E : UInt32) (ops : List Op) (l : Mtp2Link) : Prop where
  state : l.state = .Proving
  threshold : l.aerm.threshold = E
  errors : l.aerm.count.toNat = ops.count .handleCorruptedSu
  errors_lt : ops.count .handleCorruptedSu < max 1 E.toNat
  left : ∃ r, l.t4 = some r ∧ r.toNat = P.toNat - ops.count .tick
  ticks_lt : ops.count .tick < max 1 P.toNat

/-- Both counters start over with the attempt. -/
theorem provingFor_enterProving (l : Mtp2Link) :
    ProvingFor l.provingParams.1 l.provingParams.2 [] l.enterProving :=
  ⟨rfl, rfl, rfl, Nat.lt_of_lt_of_le Nat.one_pos (Nat.le_max_left _ _),
    ⟨_, rfl, by simp only [List.count_nil, Nat.sub_zero]⟩,
    Nat.lt_of_lt_of_le Nat.one_pos (Nat.le_max_left _ _)⟩

namespace ProvingFor

variable {P E : UInt32} {ops : List Op}

/-- What touches neither counter keeps the attempt as it was. -/
theorem congr (h : ProvingFor P E ops l) {op : Op} (ht : op ≠ .tick) (hc : op ≠ .handleCorruptedSu)
    (hs : l'.state = .Proving) (h4 : l'.t4 = l.t4) (ha : l'.aerm = l.aerm) :
    ProvingFor P E (ops ++ [op]) l' := by
  have hct : (ops ++ [op]).count .tick = ops.count .tick := by
    rw [List.count_append, List.count_cons_of_ne ht, List.count_nil, Nat.add_zero]
  have hcc : (ops ++ [op]).count .handleCorruptedSu = ops.count .handleCorruptedSu := by
    rw [List.count_append, List.count_cons_of_ne hc, List.count_nil, Nat.add_zero]
  exact ⟨hs, by rw [ha]; exact h.threshold, by rw [ha, hcc]; exact h.errors,
    by rw [hcc]; exact h.errors_lt, by rw [h4, hct]; exact h.left, by rw [hct]; exact h.ticks_lt⟩

/-- T4 expires on the tick that completes the period. -/
theorem expired_iff (h : ProvingFor P E ops l) :
    (stepTimer l.t4).1 = true ↔ ops.count .tick + 1 = max 1 P.toNat := by
  obtain ⟨r, hr, hleft⟩ := h.left
  have hlt := h.ticks_lt
  have hle : r ≤ 1 ↔ r.toNat ≤ 1 := by rw [UInt32.le_iff_toNat_le]; rfl
  rw [hr, stepTimer]
  by_cases h1 : r ≤ 1
  · rw [if_pos h1]
    rw [hle] at h1
    simp only [true_iff]
    omega
  · rw [if_neg h1]
    rw [hle] at h1
    simp only [Bool.false_eq_true, false_iff]
    omega

/-- A tick before that. -/
theorem tick (h : ProvingFor P E ops l) (h4 : (stepTimer l.t4).1 = false) :
    ProvingFor P E (ops ++ [.tick]) l.stepTimers := by
  have hct : (ops ++ [Op.tick]).count .tick = ops.count .tick + 1 := by
    rw [List.count_append]; rfl
  have hcc : (ops ++ [Op.tick]).count .handleCorruptedSu = ops.count .handleCorruptedSu := by
    rw [List.count_append]; rfl
  have hnot : ¬ ops.count .tick + 1 = max 1 P.toNat := fun heq => by
    rw [h.expired_iff.mpr heq] at h4; cases h4
  have hlt := h.ticks_lt
  obtain ⟨r, hr, hleft⟩ := h.left
  -- something is left of the period, so the decrement does not wrap
  have h1 : (1 : UInt32) ≤ r := by
    rw [UInt32.le_iff_toNat_le]
    show 1 ≤ r.toNat
    omega
  refine ⟨h.state, h.threshold, by rw [hcc]; exact h.errors, by rw [hcc]; exact h.errors_lt,
    ⟨r - 1, ?_, ?_⟩, by omega⟩
  · show (stepTimer l.t4).2 = _
    rw [hr, stepTimer, if_neg]
    rw [hr, stepTimer] at h4
    intro hle
    rw [if_pos hle] at h4
    cases h4
  · rw [UInt32.toNat_sub_of_le _ _ h1, hct, hleft]
    show _ - 1 = _
    omega

/-- A corrupted SU below the threshold, and the one that reaches it. -/
theorem corrupted (h : ProvingFor P E ops l) :
    (l.aerm.recordError.1 = true ↔ ops.count .handleCorruptedSu + 1 = max 1 E.toNat) ∧
      (l.aerm.recordError.1 = false →
        ProvingFor P E (ops ++ [.handleCorruptedSu]) { l with aerm := l.aerm.recordError.2 }) := by
  have hlt := h.errors_lt
  obtain ⟨hcount, htrip⟩ := Aerm.recordError_spec (a := l.aerm)
    (by rw [h.errors, h.threshold]; exact hlt)
  have hiff : l.aerm.recordError.1 = true ↔ ops.count .handleCorruptedSu + 1 = max 1 E.toNat := by
    rw [htrip, h.errors, h.threshold]
    omega
  refine ⟨hiff, fun hf => ?_⟩
  have hct : (ops ++ [Op.handleCorruptedSu]).count .tick = ops.count .tick := by
    rw [List.count_append]; rfl
  have hcc : (ops ++ [Op.handleCorruptedSu]).count .handleCorruptedSu
      = ops.count .handleCorruptedSu + 1 := by
    rw [List.count_append]; rfl
  have hnot : ¬ ops.count .handleCorruptedSu + 1 = max 1 E.toNat := fun heq => by
    rw [hiff.mpr heq] at hf; cases hf
  exact ⟨h.state, h.threshold, by rw [hcc, ← h.errors]; exact hcount, by omega,
    by rw [hct]; exact h.left, by rw [hct]; exact h.ticks_lt⟩

/-- **A proving attempt, one operation further**: it goes on, the period completes, the
threshold is reached, a SIE restarts it, or something else ends it. -/
theorem step (h : ProvingFor P E ops l) (op : Op) :
    ((op = .tick ∨ op = .handleCorruptedSu ∨ op.keepsProving = true) ∧
        ProvingFor P E (ops ++ [op]) (l.step op) ∧
        (l.step op).provingAttempt = l.provingAttempt ∧
        (op ≠ .localProcessorOutage → op ≠ .localProcessorRecovered →
          (l.step op).localProcessorOutage = l.localProcessorOutage)) ∨
      (op = .tick ∧ ops.count .tick + 1 = max 1 P.toNat ∧
        (l.step op).state = if l.localProcessorOutage then .AlignedNotReady else .AlignedReady) ∨
      (op = .handleCorruptedSu ∧ ops.count .handleCorruptedSu + 1 = max 1 E.toNat ∧
        l.step op = { l with aerm := l.aerm.recordError.2 }.provingAborted) ∨
      (op.isSie = true ∧ l.step op = { l with emergency := true }.enterProving) ∨
      (op.endsProving = true ∧
        ((l.step op).state = .Aligned ∨ (l.step op).state = .OutOfService)) := by
  have ho := step_proving h.state op
  generalize l.step op = l' at ho ⊢
  cases ho with
  | kept hop hs ht ha hn hlpo =>
    have htick : op ≠ .tick := by rintro rfl; cases hop
    have hcorr : op ≠ .handleCorruptedSu := by rintro rfl; cases hop
    exact .inl ⟨.inr (.inr hop), h.congr htick hcorr hs ht ha, hn, hlpo⟩
  | ticked h4 => exact .inl ⟨.inl rfl, h.tick h4, rfl, fun _ _ => rfl⟩
  | proved h4 hs => exact .inr (.inl ⟨rfl, h.expired_iff.mp h4, hs⟩)
  | counted hr => exact .inl ⟨.inr (.inl rfl), h.corrupted.2 hr, rfl, fun _ _ => rfl⟩
  | aborted hr => exact .inr (.inr (.inl ⟨rfl, h.corrupted.1.mp hr, rfl⟩))
  | restarted hop => exact .inr (.inr (.inr (.inl ⟨hop, rfl⟩)))
  | ended hop hs => exact .inr (.inr (.inr (.inr ⟨hop, hs⟩)))

end ProvingFor

end Mtp2Link

/-! ## What decides an attempt -/

/-- Operations that go on while a link proves in one mode, with no SIO, SIOS or stop: SIE only
in emergency mode. -/
def Op.whileProving (emergency : Bool) : Op → Bool
  | .tick | .handleCorruptedSu | .pollTransmit => true
  | .handleSu (.Fisu _) | .handleSu (.Msu _ _ _) => true
  | .handleSu (.Lssu _ status _) =>
    status = .NormalAlignment ∨ (status = .EmergencyAlignment ∧ emergency = true)
  | _ => false

/-- What a proving interval is made of does not end it. -/
theorem Op.whileProving_not_ends {op : Op} {emergency : Bool}
    (h : op.whileProving emergency = true) : op.endsProving = false := by
  cases op with
  | handleSu su =>
    cases su with
    | Lssu header status extended => cases status <;> first | rfl | cases h
    | Fisu header | Msu header sio sif => rfl
  | stop => cases h
  | _ => rfl

namespace Mtp2Link

variable {l : Mtp2Link}

/-- The ticks that complete a proving attempt entered from `l`. -/
def provingTicks (l : Mtp2Link) : ℕ := max 1 l.provingParams.1.toNat

/-- The corrupted SUs that abort it. -/
def provingErrors (l : Mtp2Link) : ℕ := max 1 l.provingParams.2.toNat

/-- Neither count has been reached over `ops`. -/
def Undecided (l : Mtp2Link) (ops : List Op) : Prop :=
  ops.count .tick < l.provingTicks ∧ ops.count .handleCorruptedSu < l.provingErrors

instance (l : Mtp2Link) (ops : List Op) : Decidable (l.Undecided ops) :=
  inferInstanceAs (Decidable (_ ∧ _))

/-- **Time and errors alone decide the attempt** that enters Proving from `l` and goes through
`ops`. -/
structure DecidedByTimeAndErrors (l : Mtp2Link) (ops : List Op) : Prop where
  /-- Until a count is reached the attempt goes on, and every error counts once. -/
  goes_on : ∀ p, p <+: ops → l.Undecided p →
    (l.enterProving.run p).state = .Proving ∧
      (l.enterProving.run p).provingAttempt = l.enterProving.provingAttempt ∧
      (l.enterProving.run p).aerm.count.toNat = p.count .handleCorruptedSu
  /-- The tick that completes the period ends it in Aligned Ready (Not Ready). -/
  succeeds : ∀ p, p ++ [.tick] <+: ops → l.Undecided p → p.count .tick + 1 = l.provingTicks →
    (l.enterProving.run (p ++ [.tick])).state =
      if l.localProcessorOutage then .AlignedNotReady else .AlignedReady
  /-- The error that reaches the threshold aborts it. -/
  aborts : ∀ p, p ++ [.handleCorruptedSu] <+: ops → l.Undecided p →
    p.count .handleCorruptedSu + 1 = l.provingErrors →
    (l.enterProving.run (p ++ [.handleCorruptedSu])).state =
      if l.enterProving.provingAttempt < l.config.provingAttempts then .Aligned else .OutOfService

/-- An undecided attempt was undecided before. -/
theorem Undecided.of_snoc {ops : List Op} {op : Op} (h : l.Undecided (ops ++ [op])) :
    l.Undecided ops := by
  have ht : ops.count .tick ≤ (ops ++ [op]).count .tick :=
    (List.sublist_append_left ops [op]).count_le _
  have hc : ops.count .handleCorruptedSu ≤ (ops ++ [op]).count .handleCorruptedSu :=
    (List.sublist_append_left ops [op]).count_le _
  exact ⟨Nat.lt_of_le_of_lt ht h.1, Nat.lt_of_le_of_lt hc h.2⟩

/-- A SIE counts neither as a tick nor as an error. -/
theorem Undecided.sie {ops : List Op} {op : Op} (h : l.Undecided ops) (hop : op.isSie = true) :
    l.Undecided (ops ++ [op]) := by
  obtain ⟨-, -, ht, hc⟩ := Op.isSie_kind hop
  refine ⟨?_, ?_⟩
  · rw [List.count_append, List.count_cons_of_ne ht]; exact h.1
  · rw [List.count_append, List.count_cons_of_ne hc]; exact h.2

/-- What holds of an attempt as long as no SIE restarts it. -/
theorem undecided_run {ops : List Op} (hops : ∀ op ∈ ops, op.whileProving l.emergency = true)
    (hsie : ∀ p op, op.isSie = true → p ++ [op] <+: ops → ¬ l.Undecided p) (p : List Op)
    (hp : p <+: ops) (hu : l.Undecided p) :
    ProvingFor l.provingParams.1 l.provingParams.2 p (l.enterProving.run p) ∧
      (l.enterProving.run p).provingAttempt = l.enterProving.provingAttempt ∧
      (l.enterProving.run p).localProcessorOutage = l.localProcessorOutage ∧
      (l.enterProving.run p).config = l.config := by
  -- what was undecided after the last operation was undecided before it
  induction p using List.reverseRecOn with
  | nil => exact ⟨provingFor_enterProving l, rfl, rfl, rfl⟩
  | append_singleton q op ih =>
    have hq := hu.of_snoc
    obtain ⟨hfor, hattempt, hlpo, hconfig⟩ := ih ((List.prefix_append q [op]).trans hp) hq
    have hmem := hops op (hp.subset (by simp))
    have hout : op ≠ .localProcessorOutage := by rintro rfl; cases hmem
    have hrec : op ≠ .localProcessorRecovered := by rintro rfl; cases hmem
    rw [run_snoc, step_config]
    rcases hfor.step op with ⟨-, h, ha, hl⟩ | ⟨rfl, htick, -⟩ | ⟨rfl, herr, -⟩ | ⟨hs, -⟩ | ⟨he, -⟩
    · exact ⟨h, ha.trans hattempt, (hl hout hrec).trans hlpo, hconfig⟩
    · -- this tick or error decides the attempt, against `hu`
      exact absurd hu.1 (by
        rw [List.count_append, provingTicks, ← htick]; exact Nat.lt_irrefl _)
    · exact absurd hu.2 (by
        rw [List.count_append, provingErrors, ← herr]; exact Nat.lt_irrefl _)
    · exact absurd hq (hsie q op hs hp)
    · -- what ends an attempt at once is not among the operations
      rw [Op.whileProving_not_ends hmem] at he
      cases he

/-- **Time and errors alone decide a proving attempt exactly when no SIE is received before
the decision**: `handle_lssu` answers a SIE by entering Proving afresh, in emergency mode too. -/
theorem decided_iff (l : Mtp2Link) (ops : List Op)
    (hops : ∀ op ∈ ops, op.whileProving l.emergency = true) :
    l.DecidedByTimeAndErrors ops ↔
      ∀ p op, op.isSie = true → p ++ [op] <+: ops → ¬ l.Undecided p := by
  refine ⟨fun h p op hop hp hu => ?_, fun hsie => ⟨fun p hp hu => ?_, fun p hp hu htick => ?_,
    fun p hp hu herr => ?_⟩⟩
  · -- the SIE uses up an attempt
    obtain ⟨hs, ha, -⟩ := h.goes_on p ((List.prefix_append p [op]).trans hp) hu
    obtain ⟨-, ha', -⟩ := h.goes_on (p ++ [op]) hp (hu.sie hop)
    replace hop := Op.isSie_kind hop
    rw [run_snoc] at ha'
    have ho := step_proving hs op
    generalize (l.enterProving.run p).step op = l' at ho ha'
    cases ho with
    | restarted _ =>
      have heq : (l.enterProving.run p).provingAttempt + 1
        = (l.enterProving.run p).provingAttempt := ha'.trans ha.symm
      simp at heq
    | kept hk => rw [hop.1] at hk; cases hk
    | ended he => rw [hop.2.1] at he; cases he
    | ticked | proved => exact hop.2.2.1 rfl
    | counted | aborted => exact hop.2.2.2 rfl
  · -- without a SIE before the decision the counters run undisturbed
    obtain ⟨hfor, ha, -⟩ := undecided_run hops hsie p hp hu
    exact ⟨hfor.state, ha, hfor.errors⟩
  · obtain ⟨hfor, -, hlpo, -⟩ :=
      undecided_run hops hsie p ((List.prefix_append p _).trans hp) hu
    rw [run_snoc, ← hlpo]
    have ho := step_proving hfor.state .tick
    generalize (l.enterProving.run p).step .tick = l' at ho ⊢
    cases ho with
    | proved _ hs => exact hs
    | ticked h4 => rw [hfor.expired_iff.mpr htick] at h4; cases h4
    | kept hop | restarted hop | ended hop => cases hop
  · obtain ⟨hfor, ha, -, hconfig⟩ :=
      undecided_run hops hsie p ((List.prefix_append p _).trans hp) hu
    rw [run_snoc, ← ha, ← hconfig]
    have ho := step_proving hfor.state .handleCorruptedSu
    generalize (l.enterProving.run p).step .handleCorruptedSu = l' at ho ⊢
    cases ho with
    | aborted _ => unfold provingAborted; split <;> rfl
    | counted hr => rw [hfor.corrupted.1.mpr herr] at hr; cases hr
    | kept hop | restarted hop | ended hop => cases hop

/-- The link of `emergency_alignment_uses_emergency_proving`, aligned. -/
def emergencyLink : Mtp2Link :=
  (new { emergency := true, t4ProvingEmergency := 2 }).run
    [.start, .handleSu (.Lssu ⟨0, false, 0, false⟩ .OutOfAlignment false)]

/-- Two ticks complete its proving, polls and SINs between them notwithstanding. -/
theorem decided_without_sie :
    emergencyLink.DecidedByTimeAndErrors
      [.tick, .pollTransmit, .handleSu (.Lssu ⟨0, false, 0, false⟩ .NormalAlignment false),
        .tick] :=
  (decided_iff emergencyLink _ (by decide)).mpr fun p op hop hp _ => by
    have hno : ∀ op ∈ [Op.tick, .pollTransmit,
        .handleSu (.Lssu ⟨0, false, 0, false⟩ .NormalAlignment false), .tick],
        op.isSie = false := by decide
    rw [hno op (hp.subset (by simp))] at hop
    cases hop

/-- The second SIE of a peer in emergency alignment restarts T4: after two ticks of a period
of two the link still proves. -/
theorem sie_prolongs_proving :
    emergencyLink.run [.handleSu (.Lssu ⟨0, false, 0, false⟩ .EmergencyAlignment false)] =
        { emergencyLink with t3 := none }.enterProving ∧
      { emergencyLink with t3 := none }.provingTicks = 2 ∧
      (∀ op ∈ [Op.tick, .handleSu (.Lssu ⟨0, false, 0, false⟩ .EmergencyAlignment false), .tick],
        op.whileProving emergencyLink.emergency = true) ∧
      ({ emergencyLink with t3 := none }.enterProving.run
        [.tick, .handleSu (.Lssu ⟨0, false, 0, false⟩ .EmergencyAlignment false), .tick]).state =
          .Proving ∧
      ¬ { emergencyLink with t3 := none }.DecidedByTimeAndErrors
        [.tick, .handleSu (.Lssu ⟨0, false, 0, false⟩ .EmergencyAlignment false), .tick] := by
  refine ⟨by decide, by decide, by decide, by decide, fun h => ?_⟩
  have hs := h.succeeds [.tick, .handleSu (.Lssu ⟨0, false, 0, false⟩ .EmergencyAlignment false)]
    (List.prefix_refl _) (by decide) (by decide)
  revert hs
  decide

end Mtp2Link

end Mtp2
