import Mtp2.Lib.Run
import Mtp2.ErrorRate

/-!
# MTP2 — restarting a link

A link that is out of service can be started again, whatever it went through before. Nothing of
that shows: the restarted link sends, raises and does what a new one does, except that a local
processor outage still in force stays in force.

The event queue is the one thing that is kept besides; the link never reads it.

* **`step_queue`** — older events change nothing but the queue;
* **`start_eq_new`** — what `start` keeps of a run;
* **`restart_clean`** — every continuation looks the same after a restart as after a first start;
* **`always_recovers`** — one sequence of calls brings every reachable state into service.
-/

namespace Mtp2

namespace Mtp2Link

variable {l l' : Mtp2Link}

/-! ## Older events -/

/-- The link with events left in its queue from before. -/
def queue (l : Mtp2Link) (es : List Event) : Mtp2Link := { l with events := es ++ l.events }

/-- The link with an empty queue. -/
def forget (l : Mtp2Link) : Mtp2Link := { l with events := [] }

theorem forget_queue (l : Mtp2Link) : l.forget.queue l.events = l := by
  show { l with events := l.events ++ [] } = l
  rw [List.append_nil]

section Queue

variable (es : List Event)

theorem failAlignment_queue (failure : AlignmentFailure) :
    (l.queue es).failAlignment failure = (l.failAlignment failure).queue es := by
  simp only [failAlignment, stopAllTimers, queue, emit, List.append_assoc]

theorem failOutOfService_queue (reason : OutOfServiceReason) :
    (l.queue es).failOutOfService reason = (l.failOutOfService reason).queue es := by
  simp only [failOutOfService, stopAllTimers, queue, emit, List.append_assoc]

theorem stop_queue : (l.queue es).stop = l.stop.queue es := by
  simp only [stop, stopAllTimers, queue, emit, List.append_assoc]

theorem enterInService_queue : (l.queue es).enterInService = l.enterInService.queue es := by
  simp only [enterInService, queue, emit, List.append_assoc]

theorem provingSucceeded_queue : (l.queue es).provingSucceeded = l.provingSucceeded.queue es := by
  unfold provingSucceeded
  show (if l.localProcessorOutage then _ else _) = _
  split <;> rfl

theorem provingAborted_queue : (l.queue es).provingAborted = l.provingAborted.queue es := by
  unfold provingAborted
  show (if l.provingAttempt < l.config.provingAttempts then _ else _) = _
  split
  · rfl
  · exact failAlignment_queue es _

theorem start_queue : (l.queue es).start = l.start.queue es := by
  unfold start
  show (if l.state ≠ .OutOfService then _ else _) = _
  split <;> rfl

theorem localProcessorOutage_queue :
    (l.queue es).signalLocalProcessorOutage = l.signalLocalProcessorOutage.queue es := by
  obtain ⟨config, state, _⟩ := l
  cases state <;> rfl

theorem localProcessorRecovered_queue :
    (l.queue es).localProcessorRecovered = l.localProcessorRecovered.queue es := by
  obtain ⟨config, state, _⟩ := l
  cases state <;> rfl

theorem submitMsu_queue (sio : UInt8) (sif : List UInt8) :
    ((l.queue es).submitMsu sio sif).2 = (l.submitMsu sio sif).2.queue es := by
  unfold submitMsu
  dsimp only
  split <;> rfl

theorem guardT7_queue : (l.queue es).guardT7 = l.guardT7.queue es := by
  unfold guardT7
  show (if l.state = .InService ∧ l.tx.unackedLen > 0 ∧ l.t7 = none then _ else _) = _
  split <;> rfl

theorem pollTransmit_queue :
    (l.queue es).pollTransmit = (l.pollTransmit.1, l.pollTransmit.2.queue es) := by
  refine Prod.ext ?_ ?_
  · obtain ⟨config, state, active, emergency, lpo, rpo, lb, rb, _⟩ := l
    cases state with
    | OutOfService => cases active <;> rfl
    | InService => cases lb <;> cases rpo <;> cases rb <;> rfl
    | _ => rfl
  · have hguard := @guardT7_queue { l with tx := if l.polls then l.tx.poll.2 else l.tx } es
    rw [pollTransmit_link, pollTransmit_link]
    exact hguard

theorem processInServiceSu_queue (header : SuHeader) (msu : Option Payload) :
    (l.queue es).processInServiceSu header msu = (l.processInServiceSu header msu).queue es := by
  rw [processInServiceSu_eq, processInServiceSu_eq]
  simp only [queue, List.append_assoc]
  rfl

theorem handleFisuOrMsu_queue (header : SuHeader) (msu : Option Payload) :
    (l.queue es).handleFisuOrMsu header msu = (l.handleFisuOrMsu header msu).queue es := by
  obtain ⟨config, state, _⟩ := l
  cases state with
  | AlignedReady =>
    show ((queue _ es).enterInService.processInServiceSu header msu) = _
    rw [enterInService_queue]
    exact processInServiceSu_queue es header msu
  | InService | ProcessorOutage => exact processInServiceSu_queue es header msu
  | _ => rfl

/-- Each arm appends its events at the end, whatever is in the queue before. -/
theorem handleLssu_queue (status : StatusIndication) :
    (l.queue es).handleLssu status = (l.handleLssu status).queue es := by
  obtain ⟨config, state, active, emergency, lpo, rpo, lb, rb, attempt, tx, rx, aerm, suerm, t1, t2,
    t3, t4, t6, t7, events⟩ := l
  -- every arm writes the queue through `emit`, or leaves it
  cases state <;> cases status <;>
    simp only [handleLssu, upgradeEmergency, queue, reduceCtorEq, false_and, if_false, true_and,
      and_self, if_true, or_self, or_false, or_true, enterProving, failAlignment, failOutOfService,
      enterInService, emit, stopAllTimers, List.append_assoc, provingParams]
  all_goals split <;> rfl

theorem handleUnit_queue (su : SignalUnit) :
    (l.queue es).handleUnit su = (l.handleUnit su).queue es := by
  cases su with
  | Lssu header status extended => exact handleLssu_queue es status
  | Fisu header => exact handleFisuOrMsu_queue es header none
  | Msu header sio sif => exact handleFisuOrMsu_queue es header (some (sio, sif))

theorem handleSu_queue (su : SignalUnit) : (l.queue es).handleSu su = (l.handleSu su).queue es := by
  -- the monitor is asked before the unit is looked at, and neither reads the queue
  have heq (l : Mtp2Link) : l.handleSu su =
      if (if l.state.carriesTraffic then l.suerm.record false else (false, l.suerm)).1 then
        l.withSuerm.failOutOfService .SuermFailure
      else l.withSuerm.handleUnit su := by cases su <;> rfl
  rw [heq, heq, apply_ite (queue · es), ← failOutOfService_queue, ← handleUnit_queue]
  rfl

theorem handleCorruptedSu_queue :
    (l.queue es).handleCorruptedSu = l.handleCorruptedSu.queue es := by
  obtain ⟨config, state, _⟩ := l
  cases state with
  | Proving =>
    simp only [handleCorruptedSu, apply_ite (queue · es), ← provingAborted_queue]
    rfl
  | InService | ProcessorOutage =>
    simp only [handleCorruptedSu, apply_ite (queue · es), ← failOutOfService_queue]
    rfl
  | _ => rfl

theorem tick_queue : (l.queue es).tick = l.tick.queue es := by
  unfold tick
  dsimp only
  simp only [apply_ite (queue · es), ← failAlignment_queue, ← failOutOfService_queue,
    ← provingSucceeded_queue]
  rfl

/-- **Only reading an event looks at the queue.** -/
theorem step_queue {op : Op} (hop : op ≠ .pollEvent) :
    (l.queue es).step op = (l.step op).queue es := by
  cases op with
  | start => exact start_queue es
  | stop => exact stop_queue es
  | localProcessorOutage => exact localProcessorOutage_queue es
  | localProcessorRecovered => exact localProcessorRecovered_queue es
  | submitMsu sio sif => exact submitMsu_queue es sio sif
  | pollTransmit => exact congrArg Prod.snd (pollTransmit_queue es)
  | handleSu su => exact handleSu_queue es su
  | handleCorruptedSu => exact handleCorruptedSu_queue es
  | tick => exact tick_queue es
  | pollEvent => exact absurd rfl hop
  | setEmergency | localBusy | localBusyEnded => rfl

end Queue

/-! ## What is observed -/

/-- What an operation shows: the unit it transmits, the events it raises, and the state after. -/
structure Observation where
  unit : Option SignalUnit
  events : List Event
  state : Mtp2State
  deriving Repr, DecidableEq

def observe (l : Mtp2Link) (op : Op) : Observation where
  unit := if op = .pollTransmit then l.pollTransmit.1 else none
  events := l.raised op
  state := (l.step op).state

/-- Nothing observed depends on the queue. -/
theorem observe_forget (l : Mtp2Link) (op : Op) : l.forget.observe op = l.observe op := by
  have hunit : l.forget.pollTransmit.1 = l.pollTransmit.1 := by
    conv_rhs => rw [← l.forget_queue, pollTransmit_queue]
  -- reading an event is the one call that shows the queue, and it raises nothing
  by_cases hop : op = .pollEvent
  · subst hop
    rw [observe, observe, raised_pollEvent, raised_pollEvent]
    rfl
  · have hstep : l.step op = (l.forget.step op).queue l.events := by
      rw [← step_queue l.events hop, forget_queue]
    have hraised : l.raised op = l.forget.raised op := by
      refine raised_of_append ?_
      rw [hstep]
      rfl
    rw [observe, observe, hunit, hraised, hstep]
    rfl

/-- Nor does anything the link does. -/
theorem step_forget (l : Mtp2Link) (op : Op) :
    (l.forget.step op).forget = (l.step op).forget := by
  by_cases hop : op = .pollEvent
  · subst hop
    rfl
  · conv_rhs => rw [← l.forget_queue, step_queue l.events hop]
    rfl

/-- What a link shows from now on, call by call. -/
def shows (l : Mtp2Link) (ops : List Op) : List Observation := Run.trace step observe l ops

/-- **Links that differ in their queues only show the same.** -/
theorem shows_congr (h : l.forget = l'.forget) (ops : List Op) : l.shows ops = l'.shows ops := by
  refine Run.trace_congr (fun l l' => l.forget = l'.forget) ?_ ?_ h ops
  · rintro s t op hst
    rw [← observe_forget, hst, observe_forget]
  · rintro s t op hst
    rw [← step_forget, hst, step_forget]

/-! ## Restarting -/

/-- **What `start` keeps of a run**: the outage flag and the queue. -/
theorem start_eq_new (h : l.Tuned) (hs : l.state = .OutOfService) :
    l.start = { (new l.config).start with
      localProcessorOutage := l.localProcessorOutage, events := l.events } := by
  -- the monitor is the one thing a start resets instead of building it anew
  have hsuerm : l.suerm.reset =
      (Suerm.new l.config.suermThreshold l.config.suermDecrementInterval).reset := by
    rw [← h.threshold, ← h.interval]
    rfl
  have hnew : (new l.config).start = _ := if_neg (not_not_intro rfl)
  rw [hnew, start, if_neg (not_not_intro hs), hsuerm]
  rfl

/-- **A restart is a fresh start.** After every run that ends out of service, however long and
whatever happened in it: a restarted link shows, whatever is called from then on, what a new link
of the same configuration shows after its first `start`, with a local processor outage that is still
in force signalled again. -/
theorem restart_clean (config : Mtp2Config) (ops : List Op)
    (hdown : ((new config).run ops).state = .OutOfService) (ops' : List Op) :
    let l := (new config).run ops
    let outage := if l.localProcessorOutage then [Op.localProcessorOutage] else []
    (l.step .start).shows ops' = ((new config).run (.start :: outage)).shows ops' := by
  intro l outage
  have hconfig : l.config = config := run_config (new config) ops
  have hstart := start_eq_new (tuned_run config ops) hdown
  refine shows_congr ?_ ops'
  show l.start.forget = _
  rw [hstart]
  show _ = (((new config).start).run outage).forget
  rw [show l.config = config from hconfig]
  cases hlpo : l.localProcessorOutage with
  | true =>
    have hout : outage = [.localProcessorOutage] := if_pos hlpo
    rw [hout]
    rfl
  | false =>
    have hout : outage = [] := if_neg (by rw [hlpo]; simp)
    rw [hout]
    rfl

/-- A link with an outage in force is taken out of service by its peer, and started again. -/
theorem restart_clean_outage :
    let header : SuHeader := ⟨127, true, 127, true⟩
    let config : Mtp2Config := { t4ProvingNormal := 1 }
    let l := (new config).run [.start, .handleSu (.lssu header .OutOfAlignment),
      .handleSu (.lssu header .NormalAlignment), .tick, .handleSu (.fisu header),
      .submitMsu 5 [1, 2], .pollTransmit, .localProcessorOutage,
      .handleSu (.lssu header .OutOfService)]
    let outage := if l.localProcessorOutage then [Op.localProcessorOutage] else []
    (l.step .start).shows [.pollTransmit, .tick] =
        ((new config).run (.start :: outage)).shows [.pollTransmit, .tick] ∧
      outage = [.localProcessorOutage] ∧ l.tx.unackedLen = 1 := by
  intro header config l outage
  exact ⟨restart_clean config _ (by decide +kernel) _, by decide +kernel, by decide +kernel⟩

/-! ## Recovery -/

/-- Proving without an outage, with `n` ticks to go and no other timer running. -/
structure Proves (l : Mtp2Link) (n : ℕ) : Prop where
  state : l.state = .Proving
  available : l.localProcessorOutage = false
  t1 : l.t1 = none
  t2 : l.t2 = none
  t3 : l.t3 = none
  t6 : l.t6 = none
  t7 : l.t7 = none
  t4 : Runs l.t4 n

/-- Left alone, a proving link is ready when its period has run. -/
theorem Proves.ready {n : ℕ} (h : l.Proves n) :
    (l.run (.replicate (max 1 n) .tick)).state = .AlignedReady := by
  have hstep {t : Option UInt32} (ht : t = none) : stepTimer t = (false, none) := by
    rw [ht]
    rfl
  induction n generalizing l with
  -- a period of zero or one expires on the first tick
  | zero =>
    have hexp : (stepTimer l.t4).1 = true := h.t4.expires_iff.mpr (by omega)
    show l.tick.state = _
    rw [tick]
    simp [hstep h.t2, hstep h.t3, hexp, h.state, h.available, provingSucceeded]
  | succ n ih =>
    cases hexp : (stepTimer l.t4).1 with
    | true =>
      have hn : n + 1 ≤ 1 := h.t4.expires_iff.mp hexp
      obtain rfl : n = 0 := by omega
      show l.tick.state = _
      rw [tick]
      simp [hstep h.t2, hstep h.t3, hexp, h.state, h.available, provingSucceeded]
    | false =>
      have hn : ¬ n + 1 ≤ 1 := fun hle => by rw [h.t4.expires_iff.mpr hle] at hexp; cases hexp
      have heq : l.step .tick =
          { l with
            t1 := none, t2 := none, t3 := none, t4 := (stepTimer l.t4).2, t6 := none
            t7 := none } := by
        show l.tick = _
        rw [tick]
        simp [hstep h.t1, hstep h.t2, hstep h.t3, hstep h.t6, hstep h.t7, hexp]
      have hnext : (l.step .tick).Proves n := by
        rw [heq]
        exact ⟨h.state, h.available, rfl, rfl, rfl, rfl, rfl, h.t4.step hexp⟩
      -- more than one tick to go: one passes, and the rest is a shorter proving
      have hlen : max 1 (n + 1) = max 1 n + 1 := by omega
      rw [hlen, List.replicate_succ]
      exact ih hnext

/-- What MTP3 and the peer do to bring a link up, whatever its state: a `stop`, the end of any
local outage, a `start`, the peer's SIO and SIN, the proving period, and the peer's FISU. -/
def recovery (config : Mtp2Config) (header : SuHeader) : List Op :=
  [.stop, .localProcessorRecovered, .start, .handleSu (.lssu header .OutOfAlignment),
    .handleSu (.lssu header .NormalAlignment)] ++
  (.replicate (max 1 (new config).provingParams.1.toNat) .tick ++ [.handleSu (.fisu header)])

/-- **No reachable state is dead**: one sequence of calls brings a link into service from every
state it can get into. -/
theorem always_recovers (config : Mtp2Config) (ops : List Op) (header : SuHeader) :
    ((new config).run (ops ++ recovery config header)).state = .InService := by
  have hready {l : Mtp2Link} (h : l.state = .AlignedReady) :
      (l.step (.handleSu (.fisu header))).state = .InService := by
    have heq : l.step (.handleSu (.fisu header)) =
        l.enterInService.processInServiceSu header none := by
      rw [step, handleSu_of_not_traffic (by rw [h]; rfl)]
      simp only [SignalUnit.fisu, handleUnit, handleFisuOrMsu, h]
    rw [heq, processInServiceSu_eq]
    rfl
  obtain ⟨l, hl⟩ : ∃ l, l = (new config).run (ops ++ [.stop, .localProcessorRecovered]) := ⟨_, rfl⟩
  have hdown : l.state = .OutOfService ∧ l.localProcessorOutage = false := by
    rw [hl, run, List.foldl_append]
    exact ⟨rfl, rfl⟩
  have htuned : l.Tuned := hl ▸ tuned_run config _
  have hconfig : l.config = config := hl ▸ run_config (new config) _
  have hsplit : (new config).run (ops ++ recovery config header) =
      ((l.start.run [.handleSu (.lssu header .OutOfAlignment),
        .handleSu (.lssu header .NormalAlignment)]).run
        (.replicate (max 1 (new config).provingParams.1.toNat) .tick)).step
          (.handleSu (.fisu header)) := by
    simp only [hl, run, recovery, List.foldl_append, List.foldl_cons, List.foldl_nil]
    rfl
  rw [hsplit]
  refine hready (Proves.ready ?_)
  rw [start_eq_new htuned hdown.1, hdown.2, hconfig]
  exact ⟨rfl, rfl, rfl, rfl, rfl, rfl, rfl, ⟨_, rfl, rfl⟩⟩

end Mtp2Link

end Mtp2
