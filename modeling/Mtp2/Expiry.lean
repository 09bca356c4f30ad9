import Mtp2.Lib.Countdown
import Mtp2.Moves

/-!
# MTP2 — what T7 bounds

T7 guards the acknowledgement of what a link in service has sent. Every FISU and MSU restarts it
over a buffer that is not empty, whether or not it acknowledges anything, so T7 bounds the time
without acknowledgement only as long as the peer sends neither.

* **`tick_traffic`** — a tick in service: T6, then T7;
* **`step_t7`** — what an operation does to T7;
* **`t7Bounds_iff`** — when the link leaves service on the tick T7 allows.
-/

namespace Mtp2

/-- The reception of a FISU or MSU. -/
def Op.hearsTraffic : Op → Bool
  | .handleSu (.Fisu _) | .handleSu (.Msu _ _ _) => true
  | _ => false

/-- Neither a tick nor the reception of a FISU or MSU. -/
def Op.idlesT7 (op : Op) : Bool := op != .tick && !op.hearsTraffic

namespace Mtp2Link

variable {l l' : Mtp2Link} {age : ℕ} {op : Op}

/-! ## A tick in service -/

/-- What a tick does to a link in service: T6 is looked at first. -/
inductive TrafficTick (l : Mtp2Link) : Mtp2Link → Prop where
  | t6 (h6 : (stepTimer l.t6).1 = true) : TrafficTick l (l.failOutOfService .T6Expired)
  | t7 (h6 : (stepTimer l.t6).1 = false) (h7 : (stepTimer l.t7).1 = true) :
      TrafficTick l (l.failOutOfService .T7Expired)
  | stepped (h6 : (stepTimer l.t6).1 = false) (h7 : (stepTimer l.t7).1 = false) :
      TrafficTick l l.stepTimers

/-- In service T6 and T7 alone can expire. -/
theorem tick_traffic (h : l.Represented age) (hs : l.state.carriesTraffic = true) :
    l.TrafficTick l.tick := by
  obtain ⟨-, h1, h2, h3, h4, -⟩ := h.inTraffic hs
  obtain ⟨config, state, active, emergency, lpo, rpo, lb, rb, attempt, tx, rx, aerm, suerm, t1, t2,
    t3, t4, t6, t7, events⟩ := l
  replace hs : state.carriesTraffic = true := hs
  obtain rfl : t1 = none := h1
  obtain rfl : t2 = none := h2
  obtain rfl : t3 = none := h3
  obtain rfl : t4 = none := h4
  cases h6 : (stepTimer t6).1 with
  | true =>
    simp only [tick, h6, hs, stepTimer_none, Bool.false_eq_true, false_and, and_self, if_false,
      if_true]
    exact .t6 h6
  | false =>
    cases h7 : (stepTimer t7).1 with
    | true =>
      simp only [tick, h6, h7, hs, stepTimer_none, Bool.false_eq_true, false_and, and_self,
        if_false, if_true]
      exact .t7 h6 h7
    | false =>
      simp only [tick, h6, h7, stepTimer_none, Bool.false_eq_true, false_and, if_false]
      exact .stepped h6 h7

/-! ## T7 -/

/-- What an operation does to T7. -/
inductive T7Moves (l : Mtp2Link) : Op → Option UInt32 → Prop where
  | stopped {op : Op} : T7Moves l op none
  | kept {op : Op} (hop : op ≠ .tick)
      (hh : op.hearsTraffic = true → l.state.carriesTraffic = false) : T7Moves l op l.t7
  | guarded (ht : l.t7 = none) : T7Moves l .pollTransmit (some l.config.t7ExcessiveDelay)
  | heard {op : Op} (hh : op.hearsTraffic = true) : T7Moves l op (some l.config.t7ExcessiveDelay)
  | ticked : T7Moves l .tick (stepTimer l.t7).2

/-- Most operations leave T7 alone. -/
theorem T7Moves.idle (hop : op.idlesT7 = true) : l.T7Moves op l.t7 := by
  rw [Op.idlesT7, Bool.and_eq_true] at hop
  refine .kept (fun h => ?_) fun h => ?_
  · rw [h] at hop
    cases hop.1
  · rw [h] at hop
    cases hop.2

/-- A status indication never restarts T7. -/
theorem handleLssu_t7 (l : Mtp2Link) (status : StatusIndication) :
    (l.handleLssu status).t7 = none ∨ (l.handleLssu status).t7 = l.t7 := by
  have ho := l.handleLssu_outcome status
  have hup : (l.upgradeEmergency status).t7 = l.t7 := by rw [upgradeEmergency_eq]
  generalize l.handleLssu status = l' at ho ⊢
  cases ho with
  | ignored _ | aligned _ _ | proving _ _ => exact .inr hup
  | failed _ | released _ | realigned _ _ => exact .inl rfl
  | reproving | fallback | serving | outage | outageAgain | busy | busyAgain => exact .inr rfl

/-- An FISU or MSU restarts T7 over a buffer that is not empty, and stops it otherwise. -/
theorem handleFisuOrMsu_t7 {op : Op} (hh : op.hearsTraffic = true) (header : SuHeader)
    (msu : Option Payload) : l.T7Moves op (l.handleFisuOrMsu header msu).t7 := by
  rcases l.handleFisuOrMsu_cases header msu with ⟨-, heq⟩ | ⟨-, heq⟩ | ⟨-, hc, heq⟩ <;> rw [heq]
  · rw [processInServiceSu_eq]
    show l.T7Moves op (if _ then _ else _)
    split
    · exact .stopped
    · exact .heard hh
  · rw [processInServiceSu_eq]
    show l.T7Moves op (if _ then _ else _)
    split
    · exact .stopped
    · exact .heard hh
  · exact .kept (by rintro rfl; cases hh) fun _ => hc

/-- Counting the unit in the SUERM first makes no difference. -/
theorem T7Moves.withSuerm {t : Option UInt32} (h : l.withSuerm.T7Moves op t) :
    l.T7Moves op t := by
  cases h with
  | stopped => exact .stopped
  | kept hop hh => exact .kept hop hh
  | guarded ht => exact .guarded ht
  | heard hh => exact .heard hh
  | ticked => exact .ticked

/-- **What an operation does to T7.** -/
theorem step_t7 (h : l.Represented age) (op : Op) : l.T7Moves op (l.step op).t7 := by
  have hlocal := l.step_local op
  cases op with
  | start =>
    show l.T7Moves .start l.start.t7
    unfold start
    split
    · exact .idle rfl
    · exact .stopped
  | stop => exact .stopped
  | pollTransmit =>
    rw [step, pollTransmit_link]
    generalize (if l.polls = true then l.tx.poll.2 else l.tx) = tx
    rw [guardT7]
    split
    · next hg => exact .guarded hg.2.2
    · exact .idle rfl
  | handleSu su =>
    rcases l.handleSu_cases su with ⟨-, heq⟩ | heq <;> rw [step, heq]
    · exact .stopped
    cases su with
    | Lssu header status extended =>
      rw [handleUnit]
      rcases l.withSuerm.handleLssu_t7 status with ht | ht <;> rw [ht]
      · exact .stopped
      · exact .idle rfl
    | Fisu header => exact (handleFisuOrMsu_t7 rfl header none).withSuerm
    | Msu header sio sif => exact (handleFisuOrMsu_t7 rfl header (some (sio, sif))).withSuerm
  | handleCorruptedSu =>
    have ho := l.handleCorruptedSu_outcome
    show l.T7Moves .handleCorruptedSu l.handleCorruptedSu.t7
    generalize l.handleCorruptedSu = l' at ho ⊢
    cases ho with
    | counted _ _ | recorded _ | ignored _ _ => exact .idle rfl
    | failed _ => exact .stopped
    | aborted _ _ =>
      unfold provingAborted
      split
      · exact .idle rfl
      · exact .stopped
  | tick =>
    have ho := tick_outcome h
    show l.T7Moves .tick l.tick.t7
    generalize l.tick = l' at ho ⊢
    cases ho with
    | stepped => exact .ticked
    | alignmentFailed _ | serviceFailed _ => exact .stopped
    | proved hs _ =>
      -- T7 does not run while the link proves
      have ht : l.t7 = none := (h.idle (by simp [hs]) (by rw [hs]; rfl)).2.1
      have hp : l.provingSucceeded.t7 = l.t7 := by unfold provingSucceeded; split <;> rfl
      rw [hp, ht]
      exact .stopped
  | _ =>
    rw [(hlocal rfl).t7 (by simp)]
    exact .idle rfl

/-- In service T7 runs over a buffer that is not empty, so a poll that sends nothing new does not
start it. -/
theorem guardT7_eq_self (h : l.Represented age) (hs : l.state.carriesTraffic = true) :
    l.guardT7 = l := if_neg fun hg => by
  have hsome := h.t7.mpr ⟨hs, List.length_pos_iff.mp hg.2.1⟩
  rw [hg.2.2] at hsome
  cases hsome

/-- T7 never has more left than its period. -/
def T7Within (l : Mtp2Link) : Prop :=
  ∀ r, l.t7 = some r → r.toNat ≤ l.config.t7ExcessiveDelay.toNat

/-- T7 has at most its period left, after any operation. -/
theorem T7Within.step (hw : l.T7Within) (h : l.Represented age) (op : Op) :
    (l.step op).T7Within := by
  intro r hr
  rw [step_config]
  have hm := step_t7 h op
  rw [hr] at hm
  generalize ho : some r = o at hm
  cases hm with
  | stopped => cases ho
  | kept _ _ => exact hw r ho.symm
  | guarded _ | heard _ => exact Nat.le_of_eq (congrArg UInt32.toNat (Option.some.inj ho))
  | ticked =>
    cases ht : l.t7 with
    | none => rw [ht] at ho; cases ho
    | some r' =>
      rw [ht, stepTimer] at ho
      split at ho
      · cases ho
      · next hgt =>
        have hle : 1 ≤ r' := UInt32.le_iff_toNat_le.mpr
          (Nat.le_of_lt (Nat.not_le.mp fun h => hgt (UInt32.le_iff_toNat_le.mpr h)))
        rw [Option.some.inj ho, UInt32.toNat_sub_of_le r' 1 hle]
        exact Nat.le_trans (Nat.sub_le _ _) (hw r' ht)

/-- How the timers of a link stand that some run leads to. -/
structure Timed (l : Mtp2Link) : Prop where
  represented : ∃ age, l.Represented age
  t7Within : l.T7Within

theorem Timed.step (h : l.Timed) (op : Op) : (l.step op).Timed := by
  obtain ⟨⟨age, hr⟩, hw⟩ := h
  exact ⟨⟨_, hr.step op⟩, hw.step hr op⟩

theorem Timed.run (h : l.Timed) (ops : List Op) : (l.run ops).Timed :=
  Run.invariant Timed (fun _ op h => h.step op) h ops

theorem timed_run (config : Mtp2Config) (ops : List Op) : ((new config).run ops).Timed :=
  Timed.run ⟨⟨0, represented_new config⟩, nofun⟩ ops

/-! ## The time without acknowledgement -/

/-- In service over unacknowledged MSUs, with nothing announced by the peer to excuse it. -/
def Waiting (l : Mtp2Link) : Prop :=
  l.state = .InService ∧ l.tx.unacked ≠ [] ∧ l.remoteBusy = false ∧
    l.remoteProcessorOutage = false

instance (l : Mtp2Link) : Decidable l.Waiting := inferInstanceAs (Decidable (_ ∧ _))

/-- A received SU frees MSUs from the buffer. -/
def Frees (l : Mtp2Link) : Op → Prop
  | .handleSu su => (l.handleSu su).tx.unacked.length < l.tx.unacked.length
  | _ => False

instance (l : Mtp2Link) (op : Op) : Decidable (l.Frees op) := by
  unfold Frees; split <;> infer_instance

/-- Over `q` the link waits throughout, and nothing it receives frees an MSU. -/
def Unanswered (l : Mtp2Link) (q : List Op) : Prop :=
  Run.Along step (fun l op => l.Waiting ∧ ¬ l.Frees op) l q ∧ (l.run q).Waiting

instance (l : Mtp2Link) (q : List Op) : Decidable (l.Unanswered q) :=
  inferInstanceAs (Decidable (_ ∧ _))

/-- The ticks T7 allows. -/
def t7Ticks (l : Mtp2Link) : ℕ := max 1 l.config.t7ExcessiveDelay.toNat

/-- **T7 bounds the time without acknowledgement**: wherever `ops` has the link wait unanswered,
it has left service by the tick that completes T7. -/
def T7Bounds (l : Mtp2Link) (ops : List Op) : Prop :=
  ∀ q, q ++ [.tick] <+: ops → l.Unanswered q → q.count .tick + 1 = l.t7Ticks →
    (l.run (q ++ [.tick])).state ≠ .InService

theorem Waiting.carriesTraffic (h : l.Waiting) : l.state.carriesTraffic = true := by
  rw [h.1]; rfl

theorem Waiting.t7_isSome (h : l.Waiting) (ht : l.Timed) : l.t7.isSome = true := by
  obtain ⟨age, hr⟩ := ht.represented
  exact hr.t7.mpr ⟨h.carriesTraffic, h.2.1⟩

/-- An unanswered segment was unanswered before. -/
theorem Unanswered.of_snoc {q : List Op} (h : l.Unanswered (q ++ [op])) : l.Unanswered q := by
  obtain ⟨halong, hop, -⟩ := Run.Along.append_iff.mp h.1
  exact ⟨halong, hop.1⟩

/-- T7 of a link that waits, one operation further. -/
theorem Waiting.t7_step {n : ℕ} (h : l.Waiting) (h' : (l.step op).Waiting) (ht : l.Timed)
    (h7 : Runs l.t7 n) :
    Runs (l.step op).t7
      (if op.hearsTraffic then l.config.t7ExcessiveDelay.toNat
        else if op = .tick then n - 1 else n) := by
  have hsome := h'.t7_isSome (ht.step op)
  obtain ⟨age, hr⟩ := ht.represented
  have hm := step_t7 hr op
  generalize (l.step op).t7 = t at hm hsome ⊢
  cases hm with
  | stopped => cases hsome
  | kept hop hh =>
    have hnot : ¬ op.hearsTraffic = true := fun hheard => by
      have hc := hh hheard
      rw [h.carriesTraffic] at hc
      cases hc
    rwa [if_neg hnot, if_neg hop]
  | guarded hnone => rw [hnone] at h7; cases h7.isSome
  | heard hh =>
    rw [if_pos hh]
    exact ⟨_, rfl, rfl⟩
  | ticked =>
    refine h7.step (Bool.not_eq_true _ ▸ fun hexp => ?_)
    rw [stepTimer_expired hexp] at hsome
    cases hsome

/-- T7 counts down over the wait, and every FISU and MSU restarts it. -/
theorem Unanswered.t7_left {v : ℕ} {q : List Op} (h : l.Unanswered q) (ht : l.Timed)
    (h7 : Runs l.t7 v) :
    Runs (l.run q).t7
      (Countdown.left .tick Op.hearsTraffic l.config.t7ExcessiveDelay.toNat v q) := by
  induction q using List.reverseRecOn with
  | nil => exact h7
  | append_singleton q op ih =>
    have hq := h.of_snoc
    have hlast := h.2
    rw [run_snoc] at hlast
    rw [run_snoc, Countdown.left_snoc, ← l.run_config q]
    have := ih hq
    rw [← l.run_config q] at this
    exact hq.2.t7_step hlast (ht.run q) this

/-- A link that waits leaves service on the tick T7 expires. -/
theorem Waiting.tick_iff (h : l.Waiting) (ht : l.Timed) :
    (l.step .tick).state ≠ .InService ↔ (stepTimer l.t7).1 = true := by
  obtain ⟨age, hr⟩ := ht.represented
  -- T6 does not run: the peer is not busy
  have h6 := hr.t6_eq_none h.2.2.1
  have htick := tick_traffic hr h.carriesTraffic
  show l.tick.state ≠ .InService ↔ _
  generalize l.tick = l' at htick ⊢
  cases htick with
  | t6 hexp => rw [h6] at hexp; cases hexp
  | t7 _ hexp => exact ⟨fun _ => hexp, fun _ => nofun⟩
  | stepped _ hexp => exact ⟨fun hne => absurd h.1 hne, fun h => by rw [hexp] at h; cases h⟩

/-- **T7 bounds the time without acknowledgement exactly as long as no FISU or MSU is received
after the first of the ticks it allows and before the last.** Whether the unit acknowledges
anything does not matter. -/
theorem t7Bounds_iff (config : Mtp2Config) (before ops : List Op) :
    ((new config).run before).T7Bounds ops ↔
      ∀ q, q ++ [.tick] <+: ops → ((new config).run before).Unanswered q →
        q.count .tick + 1 = ((new config).run before).t7Ticks →
        ¬ Countdown.RestartedLate .tick Op.hearsTraffic q := by
  have ht := timed_run config before
  generalize (new config).run before = l at ht ⊢
  refine forall_congr' fun q => forall_congr' fun _ => forall_congr' fun hq =>
    forall_congr' fun hcount => ?_
  -- T7 runs at the beginning of the wait, with at most its period left
  have hw : l.Waiting := by
    cases q with
    | nil => exact hq.2
    | cons op q => exact hq.1.1.1
  obtain ⟨r, hr⟩ := Option.isSome_iff_exists.mp (hw.t7_isSome ht)
  have hleft := hq.t7_left ht ⟨r, hr, rfl⟩
  rw [run_snoc, hq.2.tick_iff (ht.run q), hleft.expires_iff]
  exact Countdown.spent_iff rfl (ht.t7Within r hr) hcount

/-- A link in service with an MSU sent and not acknowledged, and T7 of two ticks. -/
def unacknowledgedRun : List Op :=
  [.start, .handleSu (.Lssu ⟨127, true, 127, true⟩ .OutOfAlignment false),
    .handleSu (.Lssu ⟨127, true, 127, true⟩ .NormalAlignment false), .tick,
    .handleSu (.Fisu ⟨127, true, 127, true⟩), .submitMsu 0x83 [1, 2], .pollTransmit]

/-- A FISU that acknowledges nothing, between the two ticks, keeps the link in service. -/
theorem fisu_prolongs_t7 :
    ¬ ∀ (config : Mtp2Config) (before ops : List Op),
      ((new config).run before).T7Bounds ops := by
  intro h
  have hout := h { t4ProvingNormal := 1, t7ExcessiveDelay := 2 } unacknowledgedRun
    [.tick, .handleSu (.Fisu ⟨127, true, 127, true⟩), .tick]
    [.tick, .handleSu (.Fisu ⟨127, true, 127, true⟩)] (List.prefix_refl _) (by decide) (by decide)
  revert hout
  decide

end Mtp2Link

end Mtp2
