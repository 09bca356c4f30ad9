import Mtp2.Link
import Mtp2.Lib.Run

/-!
# MTP2 — what one operation of a link can do

Each long function of the link is inverted once, guards included; the invariants of the
later modules are case analyses over these lemmas and never unfold the functions again.

* **`handleLssu_outcome`** — the arms of `handle_lssu`;
* **`processInServiceSu_eq`** — common in-service reception, as one record update;
* **`handleSu_cases`** — the SUERM, then the arm of the unit received;
* **`pollTransmit_link`** — what `poll_transmit` leaves behind.
-/

namespace Mtp2

/-! ## Received status indications -/

/-- A status indication of alignment: SIO, SIN or SIE. -/
def StatusIndication.aligning : StatusIndication → Bool
  | .OutOfAlignment | .NormalAlignment | .EmergencyAlignment => true
  | _ => false

/-- The bodies `submit_msu` accepts. -/
def Fits (p : Payload) : Prop := 1 + p.2.length ≤ maxMsuBody

namespace Mtp2Link

/-- The upgrade moves the alignment mode only. -/
theorem upgradeEmergency_eq (l : Mtp2Link) (status : StatusIndication) :
    l.upgradeEmergency status = { l with emergency := (l.upgradeEmergency status).emergency } := by
  unfold upgradeEmergency
  split <;> rfl

/-- The arms of `handle_lssu` without effect. -/
def ignoresLssu : Mtp2State → StatusIndication → Bool
  | .OutOfService, _ => true
  | .NotAligned, status => !status.aligning
  | .Aligned, status => status ≠ .NormalAlignment ∧ status ≠ .EmergencyAlignment ∧
      status ≠ .OutOfService
  | .Proving, status => status ≠ .EmergencyAlignment ∧ status ≠ .OutOfAlignment ∧
      status ≠ .OutOfService
  | .AlignedReady, status => status ≠ .ProcessorOutage ∧ status ≠ .OutOfService
  | .AlignedNotReady, status => status ≠ .OutOfService
  | .InService, _ | .ProcessorOutage, _ => false

/-- Everything `handle_lssu` can do. -/
inductive LssuOutcome (l : Mtp2Link) : StatusIndication → Mtp2Link → Prop where
  | ignored {status : StatusIndication} (h : ignoresLssu l.state status = true) :
      LssuOutcome l status (l.upgradeEmergency status)
  | aligned {status : StatusIndication} (hs : l.state = .NotAligned)
      (hst : status.aligning = true) :
      LssuOutcome l status { l.upgradeEmergency status with
        t2 := none, state := .Aligned, t3 := some l.config.t3Aligned }
  | proving {status : StatusIndication} (hs : l.state = .Aligned)
      (hst : status = .NormalAlignment ∨ status = .EmergencyAlignment) :
      LssuOutcome l status { l.upgradeEmergency status with t3 := none }.enterProving
  | reproving (hs : l.state = .Proving) :
      LssuOutcome l .EmergencyAlignment { l with emergency := true }.enterProving
  | fallback (hs : l.state = .Proving) :
      LssuOutcome l .OutOfAlignment
        { l with t4 := none, state := .Aligned, t3 := some l.config.t3Aligned }
  | failed (hs : l.state = .Aligned ∨ l.state = .Proving ∨ l.state = .AlignedReady ∨
      l.state = .AlignedNotReady) : LssuOutcome l .OutOfService (l.failAlignment .ReceivedSios)
  | serving (hs : l.state = .AlignedReady) :
      LssuOutcome l .ProcessorOutage
        ({ l.enterInService with remoteProcessorOutage := true }.emit .RemoteProcessorOutage)
  | outage (hs : l.state.carriesTraffic = true) (hr : l.remoteProcessorOutage = false) :
      LssuOutcome l .ProcessorOutage
        ({ l with remoteProcessorOutage := true }.emit .RemoteProcessorOutage)
  | outageAgain (hs : l.state.carriesTraffic = true) (hr : l.remoteProcessorOutage = true) :
      LssuOutcome l .ProcessorOutage l
  | busy (hs : l.state.carriesTraffic = true) (hr : l.remoteBusy = false) :
      LssuOutcome l .Busy { { l with remoteBusy := true }.emit .RemoteBusy with
        t6 := some l.config.t6RemoteCongestion }
  | busyAgain (hs : l.state.carriesTraffic = true) (hr : l.remoteBusy = true) :
      LssuOutcome l .Busy { l with t6 := some l.config.t6RemoteCongestion }
  | released (hs : l.state.carriesTraffic = true) :
      LssuOutcome l .OutOfService (l.failOutOfService .ReceivedSios)
  | realigned {status : StatusIndication} (hs : l.state.carriesTraffic = true)
      (hst : status.aligning = true) : LssuOutcome l status (l.failOutOfService .AlignmentLost)

/-- **What a received status indication can do.** -/
theorem handleLssu_outcome (l : Mtp2Link) (status : StatusIndication) :
    l.LssuOutcome status (l.handleLssu status) := by
  obtain ⟨config, state, active, emergency, lpo, rpo, lb, rb, attempt, tx, rx, aerm, suerm, t1, t2,
    t3, t4, t6, t7, events⟩ := l
  cases state with
  | OutOfService => cases status <;> exact .ignored rfl
  | NotAligned =>
    -- SIOS: the peer is not ready yet, T2 guards
    cases status with
    | OutOfAlignment | NormalAlignment | EmergencyAlignment => exact .aligned rfl rfl
    | OutOfService | ProcessorOutage | Busy => exact .ignored rfl
  | Aligned =>
    cases status with
    | NormalAlignment => exact .proving rfl (.inl rfl)
    | EmergencyAlignment => exact .proving rfl (.inr rfl)
    | OutOfService => exact .failed (.inl rfl)
    | OutOfAlignment | ProcessorOutage | Busy => exact .ignored rfl
  | Proving =>
    cases status with
    | EmergencyAlignment => exact .reproving rfl
    | OutOfAlignment => exact .fallback rfl
    | OutOfService => exact .failed (.inr (.inl rfl))
    | NormalAlignment | ProcessorOutage | Busy => exact .ignored rfl
  | AlignedReady =>
    cases status with
    | ProcessorOutage => exact .serving rfl
    | OutOfService => exact .failed (.inr (.inr (.inl rfl)))
    | OutOfAlignment | NormalAlignment | EmergencyAlignment | Busy => exact .ignored rfl
  | AlignedNotReady =>
    cases status with
    | OutOfService => exact .failed (.inr (.inr (.inr rfl)))
    | OutOfAlignment | NormalAlignment | EmergencyAlignment | ProcessorOutage | Busy =>
      exact .ignored rfl
  | InService | ProcessorOutage =>
    cases status with
    | ProcessorOutage =>
      cases rpo with
      | true => exact .outageAgain rfl rfl
      | false => exact .outage rfl rfl
    | Busy =>
      cases rb with
      | true => exact .busyAgain rfl rfl
      | false => exact .busy rfl rfl
    | OutOfService => exact .released rfl
    | OutOfAlignment | NormalAlignment | EmergencyAlignment => exact .realigned rfl rfl

/-! ## Received FISUs and MSUs -/

/-- What the sequence check makes of an SU: nothing for a FISU, nor during a local outage. -/
def checked (l : Mtp2Link) (fsn : UInt8) (msu : Option Payload) : Option RxOutcome × RxControl :=
  match msu with
  | some (sio, sif) =>
    if l.state = .ProcessorOutage then (none, l.rx)
    else
      let received := l.rx.onMsu fsn sio sif
      (some received.1, received.2)
  | none => (none, l.rx)

/-- The event an outcome of the sequence check raises. -/
def outcomeEvents : Option RxOutcome → List Event
  | some (.Accepted sio sif) => [.Msu sio sif]
  | some .RetransmissionRequested => [.RetransmissionRequested]
  | some .Discarded | none => []

/-- The events of the remote conditions that an FISU or MSU ends. -/
def clearedEvents (l : Mtp2Link) : List Event :=
  (if l.remoteProcessorOutage then [.RemoteProcessorRecovered] else []) ++
    (if l.remoteBusy then [.RemoteBusyEnded] else [])

/-- What reception changes: the receive control and the event queue. -/
theorem receiveMsu_eq (l : Mtp2Link) (fsn sio : UInt8) (sif : List UInt8) :
    l.receiveMsu fsn sio sif =
      { l with
        rx := (l.rx.onMsu fsn sio sif).2
        events := l.events ++ outcomeEvents (some (l.rx.onMsu fsn sio sif).1) } := by
  unfold receiveMsu
  obtain ⟨outcome, rx⟩ := l.rx.onMsu fsn sio sif
  cases outcome <;> simp [outcomeEvents, emit]

/-- What in-service reception clears. -/
theorem clearRemote_eq (l : Mtp2Link) :
    l.clearRemote =
      { l with
        remoteProcessorOutage := false
        remoteBusy := false
        t6 := if l.remoteBusy then none else l.t6
        events := l.events ++ l.clearedEvents } := by
  obtain ⟨config, state, active, emergency, lpo, rpo, lb, rb, attempt, tx, rx, aerm, suerm, t1, t2,
    t3, t4, t6, t7, events⟩ := l
  cases rpo <;> cases rb <;> simp [clearRemote, clearedEvents, emit]

/-- **In-service reception as one update**: only the controllers, the remote conditions, T6,
T7 and the event queue change. -/
theorem processInServiceSu_eq (l : Mtp2Link) (header : SuHeader) (msu : Option Payload) :
    l.processInServiceSu header msu =
      { l with
        tx := l.tx.onAck header.bsn header.bib
        rx := (l.checked header.fsn msu).2
        remoteProcessorOutage := false
        remoteBusy := false
        t6 := if l.remoteBusy then none else l.t6
        t7 := if (l.tx.onAck header.bsn header.bib).unackedLen = 0 then none
          else some l.config.t7ExcessiveDelay
        events := l.events ++ l.clearedEvents ++ outcomeEvents (l.checked header.fsn msu).1 } := by
  unfold processInServiceSu
  dsimp only
  -- T7 first, then the remote conditions, then the sequence check
  have hack : { l with tx := l.tx.onAck header.bsn header.bib }.restartT7 =
      { l with
        tx := l.tx.onAck header.bsn header.bib
        t7 := if (l.tx.onAck header.bsn header.bib).unackedLen = 0 then none
          else some l.config.t7ExcessiveDelay } := by
    unfold restartT7
    dsimp only
    split <;> rfl
  rw [hack, clearRemote_eq]
  cases msu with
  | none => simp [checked, outcomeEvents, clearedEvents]
  | some p =>
    obtain ⟨sio, sif⟩ := p
    dsimp only [checked]
    by_cases hs : l.state = .ProcessorOutage
    · rw [if_pos hs, if_pos hs]
      simp [outcomeEvents, clearedEvents]
    · rw [if_neg hs, if_neg hs, receiveMsu_eq]
      rfl

/-! ## Received SUs -/

/-- The link after the SUERM has seen an SU: nothing else changes. -/
def withSuerm (l : Mtp2Link) : Mtp2Link :=
  { l with suerm := (if l.state.carriesTraffic then l.suerm.record false else (false, l.suerm)).2 }

/-- The arm of `handle_su` for an SU the SUERM let pass. -/
def handleUnit (l : Mtp2Link) : SignalUnit → Mtp2Link
  | .Lssu _ status _ => l.handleLssu status
  | .Fisu header => l.handleFisuOrMsu header none
  | .Msu header sio sif => l.handleFisuOrMsu header (some (sio, sif))

/-- **What a received SU can do**: trip the SUERM of a link in service, or take its arm. -/
theorem handleSu_cases (l : Mtp2Link) (su : SignalUnit) :
    (l.state.carriesTraffic = true ∧
        l.handleSu su = l.withSuerm.failOutOfService .SuermFailure) ∨
      l.handleSu su = l.withSuerm.handleUnit su := by
  unfold handleSu withSuerm
  cases hs : l.state.carriesTraffic with
  | true =>
    cases hr : (l.suerm.record false).1 with
    | true => exact .inl ⟨rfl, by simp [hr]⟩
    | false =>
      refine .inr ?_
      simp only [if_true, hr, Bool.false_eq_true, if_false]
      cases su <;> rfl
  | false =>
    refine .inr ?_
    simp only [Bool.false_eq_true, if_false]
    cases su <;> rfl

/-- The arms of `handle_fisu_or_msu`. -/
theorem handleFisuOrMsu_cases (l : Mtp2Link) (header : SuHeader) (msu : Option Payload) :
    (l.state = .AlignedReady ∧
        l.handleFisuOrMsu header msu = l.enterInService.processInServiceSu header msu) ∨
      (l.state.carriesTraffic = true ∧
        l.handleFisuOrMsu header msu = l.processInServiceSu header msu) ∨
      (l.state ≠ .AlignedReady ∧ l.state.carriesTraffic = false ∧
        l.handleFisuOrMsu header msu = l) := by
  unfold handleFisuOrMsu
  cases hs : l.state with
  | AlignedReady => exact .inl ⟨rfl, rfl⟩
  | InService | ProcessorOutage => exact .inr (.inl ⟨rfl, rfl⟩)
  | OutOfService | NotAligned | Aligned | Proving | AlignedNotReady =>
    exact .inr (.inr ⟨by simp, rfl, rfl⟩)

/-- A corrupted SU: it counts in Proving and in service, and nowhere else. -/
inductive CorruptedOutcome (l : Mtp2Link) : Mtp2Link → Prop where
  | counted (hs : l.state = .Proving) (hr : l.aerm.recordError.1 = false) :
      CorruptedOutcome l { l with aerm := l.aerm.recordError.2 }
  | aborted (hs : l.state = .Proving) (hr : l.aerm.recordError.1 = true) :
      CorruptedOutcome l { l with aerm := l.aerm.recordError.2 }.provingAborted
  | recorded (hs : l.state.carriesTraffic = true) :
      CorruptedOutcome l { l with suerm := (l.suerm.record true).2 }
  | failed (hs : l.state.carriesTraffic = true) :
      CorruptedOutcome l
        ({ l with suerm := (l.suerm.record true).2 }.failOutOfService .SuermFailure)
  | ignored (hp : l.state ≠ .Proving) (hs : l.state.carriesTraffic = false) : CorruptedOutcome l l

/-- **What a damaged unit can do.** -/
theorem handleCorruptedSu_outcome (l : Mtp2Link) : l.CorruptedOutcome l.handleCorruptedSu := by
  have hproving : l.state = .Proving → l.CorruptedOutcome
      (if l.aerm.recordError.1 then { l with aerm := l.aerm.recordError.2 }.provingAborted
      else { l with aerm := l.aerm.recordError.2 }) := fun h => by
    split
    · next hr => exact .aborted h hr
    · next hr => exact .counted h (by simpa using hr)
  have htraffic : l.state.carriesTraffic = true → l.CorruptedOutcome
      (if (l.suerm.record true).1 then
        { l with suerm := (l.suerm.record true).2 }.failOutOfService .SuermFailure
      else { l with suerm := (l.suerm.record true).2 }) := fun h => by
    split
    · exact .failed h
    · exact .recorded h
  obtain ⟨config, state, active, emergency, lpo, rpo, lb, rb, attempt, tx, rx, aerm, suerm, t1, t2,
    t3, t4, t6, t7, events⟩ := l
  cases state with
  | Proving => exact hproving rfl
  | InService | ProcessorOutage => exact htraffic rfl
  | OutOfService | NotAligned | Aligned | AlignedReady | AlignedNotReady =>
    exact .ignored Mtp2State.noConfusion rfl

/-! ## Processor outage -/

/-- The arms of `local_processor_outage`. -/
theorem signalLocalProcessorOutage_cases (l : Mtp2Link) :
    (l.state = .InService ∧ l.signalLocalProcessorOutage =
        { l with localProcessorOutage := true, state := .ProcessorOutage }) ∨
      (l.state = .AlignedReady ∧ l.signalLocalProcessorOutage =
        { l with localProcessorOutage := true, t1 := none, state := .AlignedNotReady }) ∨
      (l.state ≠ .InService ∧ l.state ≠ .AlignedReady ∧
        l.signalLocalProcessorOutage = { l with localProcessorOutage := true }) := by
  obtain ⟨config, state, active, emergency, lpo, rpo, lb, rb, attempt, tx, rx, aerm, suerm, t1, t2,
    t3, t4, t6, t7, events⟩ := l
  cases state with
  | InService => exact .inl ⟨rfl, rfl⟩
  | AlignedReady => exact .inr (.inl ⟨rfl, rfl⟩)
  | OutOfService | NotAligned | Aligned | Proving | AlignedNotReady | ProcessorOutage =>
    exact .inr (.inr ⟨nofun, nofun, rfl⟩)

/-- The arms of `local_processor_recovered`. -/
theorem localProcessorRecovered_cases (l : Mtp2Link) :
    (l.state = .ProcessorOutage ∧ l.localProcessorRecovered =
        { l with localProcessorOutage := false, state := .InService }) ∨
      (l.state = .AlignedNotReady ∧ l.localProcessorRecovered =
        { l with
          localProcessorOutage := false
          state := .AlignedReady
          t1 := some l.config.t1AlignedReady }) ∨
      (l.state ≠ .ProcessorOutage ∧ l.state ≠ .AlignedNotReady ∧
        l.localProcessorRecovered = { l with localProcessorOutage := false }) := by
  obtain ⟨config, state, active, emergency, lpo, rpo, lb, rb, attempt, tx, rx, aerm, suerm, t1, t2,
    t3, t4, t6, t7, events⟩ := l
  cases state with
  | ProcessorOutage => exact .inl ⟨rfl, rfl⟩
  | AlignedNotReady => exact .inr (.inl ⟨rfl, rfl⟩)
  | OutOfService | NotAligned | Aligned | Proving | AlignedReady | InService =>
    exact .inr (.inr ⟨nofun, nofun, rfl⟩)

/-! ## Transmission -/

/-- The link polls its transmit control: in service, with nothing holding MTP3 traffic. -/
def polls (l : Mtp2Link) : Bool :=
  l.state = .InService ∧ l.localBusy = false ∧ l.remoteProcessorOutage = false ∧
    l.remoteBusy = false

/-- **What `poll_transmit` leaves behind**: a polled transmit control, and T7. -/
theorem pollTransmit_link (l : Mtp2Link) :
    l.pollTransmit.2 = { l with tx := if l.polls then l.tx.poll.2 else l.tx }.guardT7 := by
  obtain ⟨config, state, active, emergency, lpo, rpo, lb, rb, attempt, tx, rx, aerm, suerm, t1, t2,
    t3, t4, t6, t7, events⟩ := l
  cases state with
  | InService => cases lb <;> cases rpo <;> cases rb <;> rfl
  | OutOfService => cases active <;> rfl
  | NotAligned | Aligned | Proving | AlignedReady | AlignedNotReady | ProcessorOutage => rfl

/-- Guarding T7 touches T7 only. -/
theorem guardT7_eq (l : Mtp2Link) : l.guardT7 = { l with t7 := l.guardT7.t7 } := by
  unfold guardT7; split <;> rfl

theorem guardT7_tx (l : Mtp2Link) : l.guardT7.tx = l.tx := by rw [guardT7_eq]

/-- Besides the transmit control and T7 a poll changes nothing. -/
theorem pollTransmit_eq (l : Mtp2Link) :
    l.pollTransmit.2 =
      { l with
        tx := if l.polls then l.tx.poll.2 else l.tx
        t7 := l.pollTransmit.2.t7 } := by
  conv_lhs => rw [pollTransmit_link, guardT7_eq]
  rw [pollTransmit_link]

theorem pollTransmit_state (l : Mtp2Link) : l.pollTransmit.2.state = l.state := by
  rw [pollTransmit_eq]

/-- A submission only queues an MSU. -/
theorem submitMsu_eq (l : Mtp2Link) (sio : UInt8) (sif : List UInt8) :
    (l.submitMsu sio sif).2 = { l with tx := (l.submitMsu sio sif).2.tx } := by
  unfold submitMsu
  dsimp only
  split <;> rfl

/-- A submission queues an MSU that fits, and rejects any other. -/
theorem submitMsu_cases (l : Mtp2Link) (sio : UInt8) (sif : List UInt8) :
    (Fits (sio, sif) ∧ (l.submitMsu sio sif) = (.ok (), { l with tx := l.tx.submit sio sif })) ∨
      ∃ e, l.submitMsu sio sif = (.error e, l) := by
  unfold submitMsu
  dsimp only
  split
  · exact .inr ⟨_, rfl⟩
  · next h => exact .inl ⟨Nat.not_lt.mp h, rfl⟩

/-- What `poll_transmit` returns: nothing from a dark link, the polled frame, or an LSSU or
FISU with the present sequence state. -/
theorem pollTransmit_unit (l : Mtp2Link) :
    (l.pollTransmit.1 = none ∧ l.state = .OutOfService) ∨
      (l.polls = true ∧ l.pollTransmit.1 = some (l.frameUnit l.tx.poll.1)) ∨
      (l.polls = false ∧
        ((∃ status, l.pollTransmit.1 = some (l.lssu status)) ∨
          (l.state = .AlignedReady ∨ l.state = .InService) ∧
            l.pollTransmit.1 = some (.fisu l.headerForControl))) := by
  unfold pollTransmit polls
  cases hs : l.state with
  | InService =>
    cases hlb : l.localBusy <;> cases hrpo : l.remoteProcessorOutage <;>
      cases hrb : l.remoteBusy <;> simp
  | OutOfService => cases ha : l.active <;> simp
  | AlignedReady => simp
  | NotAligned | Aligned | Proving | AlignedNotReady | ProcessorOutage => simp

/-! ## Runs -/

@[simp] theorem run_cons (l : Mtp2Link) (op : Op) (ops : List Op) :
    l.run (op :: ops) = (l.step op).run ops := rfl

theorem run_append (l : Mtp2Link) (ops ops' : List Op) :
    l.run (ops ++ ops') = (l.run ops).run ops' := List.foldl_append

theorem run_snoc (l : Mtp2Link) (ops : List Op) (op : Op) :
    l.run (ops ++ [op]) = (l.run ops).step op := l.run_append ops [op]

/-! ## The configuration is fixed -/

/-- No operation changes the configuration. -/
theorem LssuOutcome.config {l l' : Mtp2Link} {status : StatusIndication}
    (h : l.LssuOutcome status l') : l'.config = l.config := by
  have hup : (l.upgradeEmergency status).config = l.config := by rw [upgradeEmergency_eq]
  cases h with
  | ignored hi => exact hup
  | aligned hs hst => exact hup
  | proving hs hst => exact hup
  | reproving | fallback | failed | serving | outage | outageAgain | busy | busyAgain | released
  | realigned => rfl

theorem provingSucceeded_config (l : Mtp2Link) : l.provingSucceeded.config = l.config := by
  unfold provingSucceeded; split <;> rfl

theorem provingAborted_config (l : Mtp2Link) : l.provingAborted.config = l.config := by
  unfold provingAborted; split <;> rfl

theorem handleFisuOrMsu_config (l : Mtp2Link) (header : SuHeader) (msu : Option Payload) :
    (l.handleFisuOrMsu header msu).config = l.config := by
  rcases l.handleFisuOrMsu_cases header msu with ⟨-, heq⟩ | ⟨-, heq⟩ | ⟨-, -, heq⟩ <;> rw [heq]
  · rw [processInServiceSu_eq]; rfl
  · rw [processInServiceSu_eq]

theorem handleSu_config (l : Mtp2Link) (su : SignalUnit) : (l.handleSu su).config = l.config := by
  rcases l.handleSu_cases su with ⟨-, heq⟩ | heq <;> rw [heq]
  · rfl
  · cases su with
    | Lssu header status extended => exact (l.withSuerm.handleLssu_outcome status).config
    | Fisu header => exact handleFisuOrMsu_config _ _ _
    | Msu header sio sif => exact handleFisuOrMsu_config _ _ _

theorem handleCorruptedSu_config (l : Mtp2Link) : l.handleCorruptedSu.config = l.config := by
  have ho := l.handleCorruptedSu_outcome
  generalize l.handleCorruptedSu = l' at ho ⊢
  cases ho with
  | aborted hs hr => exact provingAborted_config _
  | counted | recorded | failed | ignored => rfl

theorem tick_config (l : Mtp2Link) : l.tick.config = l.config := by
  unfold tick
  dsimp only
  split
  · rfl
  split
  · rfl
  split
  · exact provingSucceeded_config _
  split
  · rfl
  split
  · rfl
  split <;> rfl

/-- **No operation touches the configuration.** -/
theorem step_config (l : Mtp2Link) (op : Op) : (l.step op).config = l.config := by
  cases op with
  | start => show l.start.config = _; unfold start; split <;> rfl
  | localProcessorOutage =>
    rcases l.signalLocalProcessorOutage_cases with ⟨-, heq⟩ | ⟨-, heq⟩ | ⟨-, -, heq⟩ <;>
      rw [step, heq]
  | localProcessorRecovered =>
    rcases l.localProcessorRecovered_cases with ⟨-, heq⟩ | ⟨-, heq⟩ | ⟨-, -, heq⟩ <;>
      rw [step, heq]
  | submitMsu sio sif =>
    show (l.submitMsu sio sif).2.config = _
    rw [submitMsu_eq]
  | pollTransmit =>
    show l.pollTransmit.2.config = _
    rw [pollTransmit_eq]
  | handleSu su => exact l.handleSu_config su
  | handleCorruptedSu => exact l.handleCorruptedSu_config
  | tick => exact l.tick_config
  | stop | setEmergency | localBusy | localBusyEnded | pollEvent => rfl

theorem run_config (l : Mtp2Link) (ops : List Op) : (l.run ops).config = l.config :=
  Run.invariant (fun l' : Mtp2Link => l'.config = l.config)
    (fun l' op h => (l'.step_config op).trans h) rfl ops

end Mtp2Link

end Mtp2
