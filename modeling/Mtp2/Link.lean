import Mtp2.Monitor
import Mtp2.Retransmission

/-!
# MTP2 — the signalling-link state machine (`src/link.rs`)

`Mtp2Link` is a deterministic, I/O-free engine: it consumes inbound signal units and timer
ticks and produces outbound signal units plus events. Every `&mut self` method of the
source is a function returning the new link, paired with the method's result where it has
one. The event queue is part of the link, with its front at the head, so a run of public
operations is a left fold of `step` over a list of `Op`.
-/

namespace Mtp2

/-- The Link State Control states. -/
inductive Mtp2State where
  | OutOfService
  | NotAligned
  | Aligned
  | Proving
  | AlignedReady
  | AlignedNotReady
  | InService
  | ProcessorOutage
  deriving Repr, DecidableEq

/-- The state carries MTP3 traffic: In Service or Processor Outage. -/
def Mtp2State.carriesTraffic : Mtp2State → Bool
  | .InService | .ProcessorOutage => true
  | _ => false

theorem Mtp2State.ne_of_carriesTraffic {s s' : Mtp2State} (h : s.carriesTraffic = true)
    (h' : s'.carriesTraffic = false) : s ≠ s' := by
  rintro rfl
  rw [h] at h'
  cases h'

/-- Why a link left service. -/
inductive OutOfServiceReason where
  | Stopped
  | ReceivedSios
  | AlignmentLost
  | SuermFailure
  | T6Expired
  | T7Expired
  deriving Repr, DecidableEq

/-- Why initial alignment failed. -/
inductive AlignmentFailure where
  | AermTripped
  | ReceivedSios
  | T2Expired
  | T3Expired
  | T1Expired
  deriving Repr, DecidableEq

/-- Events the link raises for MTP3 and management. -/
inductive Event where
  | InService
  | OutOfService (reason : OutOfServiceReason)
  | AlignmentFailed (failure : AlignmentFailure)
  | Msu (sio : UInt8) (sif : List UInt8)
  | RemoteProcessorOutage
  | RemoteProcessorRecovered
  | RemoteBusy
  | RemoteBusyEnded
  | RetransmissionRequested
  deriving Repr, DecidableEq

/-- Link timers, in ticks, and error-rate monitor parameters. -/
structure Mtp2Config where
  method : RetransmissionMethod := .Basic
  emergency : Bool := false
  t1AlignedReady : UInt32 := 500
  t2NotAligned : UInt32 := 250
  t3Aligned : UInt32 := 20
  t4ProvingNormal : UInt32 := 120
  t4ProvingEmergency : UInt32 := 6
  t6RemoteCongestion : UInt32 := 60
  t7ExcessiveDelay : UInt32 := 20
  aermThresholdNormal : UInt32 := Mtp2.aermThresholdNormal
  aermThresholdEmergency : UInt32 := Mtp2.aermThresholdEmergency
  suermThreshold : UInt32 := Mtp2.suermThreshold
  suermDecrementInterval : UInt32 := Mtp2.suermDecrementInterval
  provingAttempts : UInt32 := 5
  deriving Repr, DecidableEq

/-- Decrement a running timer; `true` if it expired on this step. -/
def stepTimer (t : Option UInt32) : Bool × Option UInt32 :=
  match t with
  | some remaining => if remaining ≤ 1 then (true, none) else (false, some (remaining - 1))
  | none => (false, none)

/-- The MTP2 signalling-link engine. -/
structure Mtp2Link where
  config : Mtp2Config
  state : Mtp2State
  /-- After `start` the link transmits (SIOS while out of service); after `stop` it is dark. -/
  active : Bool
  /-- Effective emergency alignment: local request or a received SIE. -/
  emergency : Bool
  localProcessorOutage : Bool
  remoteProcessorOutage : Bool
  localBusy : Bool
  remoteBusy : Bool
  provingAttempt : UInt32
  tx : TxControl
  rx : RxControl
  aerm : Aerm
  suerm : Suerm
  t1 : Option UInt32
  t2 : Option UInt32
  t3 : Option UInt32
  t4 : Option UInt32
  t6 : Option UInt32
  t7 : Option UInt32
  events : List Event
  deriving Repr, DecidableEq

namespace Mtp2Link

/-- A powered-off link. -/
def new (config : Mtp2Config) : Mtp2Link where
  config := config
  state := .OutOfService
  active := false
  emergency := config.emergency
  localProcessorOutage := false
  remoteProcessorOutage := false
  localBusy := false
  remoteBusy := false
  provingAttempt := 0
  tx := .new config.method
  rx := .new config.method
  aerm := .new config.aermThresholdNormal
  suerm := .new config.suermThreshold config.suermDecrementInterval
  t1 := none
  t2 := none
  t3 := none
  t4 := none
  t6 := none
  t7 := none
  events := []

/-- Pull the next raised event, if any. -/
def pollEvent (l : Mtp2Link) : Option Event × Mtp2Link :=
  (l.events.head?, { l with events := l.events.tail })

def emit (l : Mtp2Link) (e : Event) : Mtp2Link := { l with events := l.events ++ [e] }

def stopAllTimers (l : Mtp2Link) : Mtp2Link :=
  { l with t1 := none, t2 := none, t3 := none, t4 := none, t6 := none, t7 := none }

/-! ## State helpers -/

/-- The proving period and AERM threshold of the effective alignment mode. -/
def provingParams (l : Mtp2Link) : UInt32 × UInt32 :=
  if l.emergency then (l.config.t4ProvingEmergency, l.config.aermThresholdEmergency)
  else (l.config.t4ProvingNormal, l.config.aermThresholdNormal)

/-- `self.proving_attempt += 1` wraps in a release build. -/
def enterProving (l : Mtp2Link) : Mtp2Link :=
  { l with
    state := .Proving
    provingAttempt := l.provingAttempt + 1
    aerm := l.aerm.restart l.provingParams.2
    t4 := some l.provingParams.1 }

def provingSucceeded (l : Mtp2Link) : Mtp2Link :=
  if l.localProcessorOutage then { l with t4 := none, state := .AlignedNotReady }
  else { l with t4 := none, state := .AlignedReady, t1 := some l.config.t1AlignedReady }

def enterInService (l : Mtp2Link) : Mtp2Link :=
  { l with t1 := none, suerm := l.suerm.reset, state := .InService }.emit .InService

def failAlignment (l : Mtp2Link) (failure : AlignmentFailure) : Mtp2Link :=
  { l.stopAllTimers with state := .OutOfService }.emit (.AlignmentFailed failure)

def failOutOfService (l : Mtp2Link) (reason : OutOfServiceReason) : Mtp2Link :=
  { l.stopAllTimers with
    remoteProcessorOutage := false
    remoteBusy := false
    localBusy := false
    state := .OutOfService }.emit (.OutOfService reason)

def provingAborted (l : Mtp2Link) : Mtp2Link :=
  if l.provingAttempt < l.config.provingAttempts then
    -- another proving attempt: re-prove from Aligned
    { l with t4 := none, state := .Aligned, t3 := some l.config.t3Aligned }
  else l.failAlignment .AermTripped

/-! ## MTP3 and management primitives -/

/-- Start initial alignment. No-op unless out of service. -/
def start (l : Mtp2Link) : Mtp2Link :=
  if l.state ≠ .OutOfService then l
  else
    { l.stopAllTimers with
      active := true
      emergency := l.config.emergency
      remoteProcessorOutage := false
      remoteBusy := false
      localBusy := false
      provingAttempt := 0
      tx := .new l.config.method
      rx := .new l.config.method
      suerm := l.suerm.reset
      aerm := l.aerm.restart l.config.aermThresholdNormal
      state := .NotAligned
      t2 := some l.config.t2NotAligned }

/-- Take the link out of service on MTP3's request. -/
def stop (l : Mtp2Link) : Mtp2Link :=
  { l.stopAllTimers with active := false, state := .OutOfService }.emit (.OutOfService .Stopped)

/-- Request emergency alignment for the next or ongoing alignment. -/
def setEmergency (l : Mtp2Link) (emergency : Bool) : Mtp2Link := { l with emergency := emergency }

/-- Signal a local processor outage (`local_processor_outage`; the flag has that name). -/
def signalLocalProcessorOutage (l : Mtp2Link) : Mtp2Link :=
  let l := { l with localProcessorOutage := true }
  match l.state with
  | .InService => { l with state := .ProcessorOutage }
  | .AlignedReady => { l with t1 := none, state := .AlignedNotReady }
  -- `proving_succeeded` looks at the flag later
  | _ => l

/-- Signal that the local processor has recovered. -/
def localProcessorRecovered (l : Mtp2Link) : Mtp2Link :=
  let l := { l with localProcessorOutage := false }
  match l.state with
  | .ProcessorOutage => { l with state := .InService }
  | .AlignedNotReady =>
    { l with state := .AlignedReady, t1 := some l.config.t1AlignedReady }
  | _ => l

/-- Signal local congestion (`local_busy`; the flag has that name). -/
def signalLocalBusy (l : Mtp2Link) : Mtp2Link := { l with localBusy := true }

/-- Signal that local congestion has cleared. -/
def localBusyEnded (l : Mtp2Link) : Mtp2Link := { l with localBusy := false }

/-- Queue an MSU for transmission. Fails only if the body exceeds the link maximum. -/
def submitMsu (l : Mtp2Link) (sio : UInt8) (sif : List UInt8) : Except Mtp2Error Unit × Mtp2Link :=
  let body := 1 + sif.length
  if body > maxMsuBody then (.error (.msuTooLarge body), l)
  else (.ok (), { l with tx := l.tx.submit sio sif })

/-! ## Outbound -/

/-- BSN / BIB acknowledge the peer; FSN / FIB are the current transmit values. -/
def headerForControl (l : Mtp2Link) : SuHeader where
  bsn := l.rx.bsn
  bib := l.rx.bib
  fsn := l.tx.lastFsn
  fib := l.tx.fib

def lssu (l : Mtp2Link) (status : StatusIndication) : SignalUnit :=
  .lssu l.headerForControl status

/-- SIE or SIN, by the effective alignment mode. -/
def alignmentStatus (l : Mtp2Link) : StatusIndication :=
  if l.emergency then .EmergencyAlignment else .NormalAlignment

/-- The frame `tx.poll` chose, as a signal unit. -/
def frameUnit (l : Mtp2Link) (frame : TxFrame) : SignalUnit :=
  let header : SuHeader := ⟨l.rx.bsn, l.rx.bib, frame.fsn, frame.fib⟩
  match frame.body with
  | .Fisu => .fisu header
  | .Msu sio sif =>
    -- the body size was validated at submit
    match SignalUnit.msu header sio sif with
    | .ok su => su
    | .error _ => .fisu header

/-- The end of `poll_transmit`: start T7 over an unacknowledged buffer. -/
def guardT7 (l : Mtp2Link) : Mtp2Link :=
  if l.state = .InService ∧ l.tx.unackedLen > 0 ∧ l.t7 = none then
    { l with t7 := some l.config.t7ExcessiveDelay }
  else l

/-- The next signal unit to transmit; a powered-off link returns `none`. -/
def pollTransmit (l : Mtp2Link) : Option SignalUnit × Mtp2Link :=
  match l.state with
  | .OutOfService => if l.active then (some (l.lssu .OutOfService), l.guardT7) else (none, l)
  | .NotAligned => (some (l.lssu .OutOfAlignment), l.guardT7)
  | .Aligned | .Proving => (some (l.lssu l.alignmentStatus), l.guardT7)
  | .AlignedNotReady | .ProcessorOutage => (some (l.lssu .ProcessorOutage), l.guardT7)
  | .AlignedReady => (some (.fisu l.headerForControl), l.guardT7)
  | .InService =>
    if l.localBusy then (some (l.lssu .Busy), l.guardT7)
    else if l.remoteProcessorOutage ∨ l.remoteBusy then
      -- hold MTP3 traffic; keep the link filled and acknowledging
      (some (.fisu l.headerForControl), l.guardT7)
    else
      let polled := l.tx.poll
      (some (l.frameUnit polled.1), { l with tx := polled.2 }.guardT7)

/-! ## Inbound -/

/-- T7 after an acknowledgement: stopped over an empty buffer, restarted otherwise. -/
def restartT7 (l : Mtp2Link) : Mtp2Link :=
  if l.tx.unackedLen = 0 then { l with t7 := none }
  else { l with t7 := some l.config.t7ExcessiveDelay }

/-- Any FISU / MSU ends a remote processor outage or busy condition. -/
def clearRemote (l : Mtp2Link) : Mtp2Link :=
  let l :=
    if l.remoteProcessorOutage then
      { l with remoteProcessorOutage := false }.emit .RemoteProcessorRecovered
    else l
  if l.remoteBusy then { l with remoteBusy := false, t6 := none }.emit .RemoteBusyEnded else l

/-- The sequence check of a received MSU and the event it raises. -/
def receiveMsu (l : Mtp2Link) (fsn sio : UInt8) (sif : List UInt8) : Mtp2Link :=
  let received := l.rx.onMsu fsn sio sif
  let l := { l with rx := received.2 }
  match received.1 with
  | .Accepted sio sif => l.emit (.Msu sio sif)
  | .RetransmissionRequested => l.emit .RetransmissionRequested
  | .Discarded => l

/-- Common in-service reception: acknowledgement, remote conditions, sequence check. -/
def processInServiceSu (l : Mtp2Link) (header : SuHeader) (msu : Option Payload) : Mtp2Link :=
  let l := { l with tx := l.tx.onAck header.bsn header.bib }.restartT7.clearRemote
  match msu with
  | some (sio, sif) =>
    -- during a local processor outage MTP3 cannot take MSUs; drop the payload
    if l.state = .ProcessorOutage then l else l.receiveMsu header.fsn sio sif
  | none => l

def handleFisuOrMsu (l : Mtp2Link) (header : SuHeader) (msu : Option Payload) : Mtp2Link :=
  match l.state with
  -- the peer finished proving and is transmitting FISUs / MSUs
  | .AlignedReady => l.enterInService.processInServiceSu header msu
  | .InService | .ProcessorOutage => l.processInServiceSu header msu
  -- a FISU / MSU is unexpected during alignment
  | _ => l

/-- A received SIE upgrades alignment to emergency at any alignment phase. -/
def upgradeEmergency (l : Mtp2Link) (status : StatusIndication) : Mtp2Link :=
  if status = .EmergencyAlignment ∧
      (l.state = .NotAligned ∨ l.state = .Aligned ∨ l.state = .Proving) then
    { l with emergency := true }
  else l

def handleLssu (l : Mtp2Link) (status : StatusIndication) : Mtp2Link :=
  let l := l.upgradeEmergency status
  match l.state, status with
  | .NotAligned, .OutOfAlignment | .NotAligned, .NormalAlignment
  | .NotAligned, .EmergencyAlignment =>
    { l with t2 := none, state := .Aligned, t3 := some l.config.t3Aligned }
  | .Aligned, .NormalAlignment | .Aligned, .EmergencyAlignment =>
    { l with t3 := none }.enterProving
  | .Aligned, .OutOfService => l.failAlignment .ReceivedSios
  -- switch to emergency proving; SIE re-enters it also when the mode was emergency before
  | .Proving, .EmergencyAlignment => l.enterProving
  | .Proving, .OutOfAlignment =>
    -- the peer fell back to Not Aligned: return to Aligned
    { l with t4 := none, state := .Aligned, t3 := some l.config.t3Aligned }
  | .Proving, .OutOfService => l.failAlignment .ReceivedSios
  | .AlignedReady, .ProcessorOutage =>
    { l.enterInService with remoteProcessorOutage := true }.emit .RemoteProcessorOutage
  | .AlignedReady, .OutOfService => l.failAlignment .ReceivedSios
  | .AlignedNotReady, .OutOfService => l.failAlignment .ReceivedSios
  | .InService, .ProcessorOutage | .ProcessorOutage, .ProcessorOutage =>
    if l.remoteProcessorOutage then l
    else { l with remoteProcessorOutage := true }.emit .RemoteProcessorOutage
  | .InService, .Busy | .ProcessorOutage, .Busy =>
    -- the event is raised once, T6 restarts on every SIB
    let l := if l.remoteBusy then l else { l with remoteBusy := true }.emit .RemoteBusy
    { l with t6 := some l.config.t6RemoteCongestion }
  | .InService, .OutOfService | .ProcessorOutage, .OutOfService =>
    l.failOutOfService .ReceivedSios
  -- the peer restarted alignment: the link has failed
  | .InService, .OutOfAlignment | .InService, .NormalAlignment
  | .InService, .EmergencyAlignment | .ProcessorOutage, .OutOfAlignment
  | .ProcessorOutage, .NormalAlignment | .ProcessorOutage, .EmergencyAlignment =>
    l.failOutOfService .AlignmentLost
  -- no effect in the current state: Out of Service waits for `start`, SIN while proving
  -- or SIPO / SIB in mid-alignment change nothing, Aligned Ready keeps sending FISUs
  | _, _ => l

/-- Feed a correctly received (CRC-valid) signal unit into the link. -/
def handleSu (l : Mtp2Link) (su : SignalUnit) : Mtp2Link :=
  -- in service, every received SU feeds the SUERM leak counter
  let recorded := if l.state.carriesTraffic then l.suerm.record false else (false, l.suerm)
  let l := { l with suerm := recorded.2 }
  if recorded.1 then l.failOutOfService .SuermFailure
  else
    match su with
    | .Lssu _ status _ => l.handleLssu status
    | .Fisu header => l.handleFisuOrMsu header none
    | .Msu header sio sif => l.handleFisuOrMsu header (some (sio, sif))

/-- Report an SU received with a bad CRC: it feeds the AERM while proving, the SUERM in
service. -/
def handleCorruptedSu (l : Mtp2Link) : Mtp2Link :=
  match l.state with
  | .Proving =>
    let recorded := l.aerm.recordError
    let l := { l with aerm := recorded.2 }
    if recorded.1 then l.provingAborted else l
  | .InService | .ProcessorOutage =>
    let recorded := l.suerm.record true
    let l := { l with suerm := recorded.2 }
    if recorded.1 then l.failOutOfService .SuermFailure else l
  | _ => l

/-! ## Time -/

/-- Advance the timers by one tick. Each timer is stepped whatever the state; a step that
expires in the timer's own state ends the tick there. -/
def tick (l : Mtp2Link) : Mtp2Link :=
  let s2 := stepTimer l.t2
  let l := { l with t2 := s2.2 }
  if s2.1 ∧ l.state = .NotAligned then l.failAlignment .T2Expired
  else
    let s3 := stepTimer l.t3
    let l := { l with t3 := s3.2 }
    if s3.1 ∧ l.state = .Aligned then l.failAlignment .T3Expired
    else
      let s4 := stepTimer l.t4
      let l := { l with t4 := s4.2 }
      if s4.1 ∧ l.state = .Proving then l.provingSucceeded
      else
        let s1 := stepTimer l.t1
        let l := { l with t1 := s1.2 }
        if s1.1 ∧ l.state = .AlignedReady then l.failAlignment .T1Expired
        else
          let s6 := stepTimer l.t6
          let l := { l with t6 := s6.2 }
          if s6.1 ∧ l.state.carriesTraffic then l.failOutOfService .T6Expired
          else
            let s7 := stepTimer l.t7
            let l := { l with t7 := s7.2 }
            if s7.1 ∧ l.state.carriesTraffic then l.failOutOfService .T7Expired
            else l

end Mtp2Link

/-! ## Runs -/

/-- The public operations of a link. -/
inductive Op where
  | start
  | stop
  | setEmergency (emergency : Bool)
  | localProcessorOutage
  | localProcessorRecovered
  | localBusy
  | localBusyEnded
  | submitMsu (sio : UInt8) (sif : List UInt8)
  | pollTransmit
  | pollEvent
  | handleSu (su : SignalUnit)
  | handleCorruptedSu
  | tick
  deriving Repr, DecidableEq

namespace Mtp2Link

/-- One public operation; its result, if any, is dropped. -/
def step (l : Mtp2Link) : Op → Mtp2Link
  | .start => l.start
  | .stop => l.stop
  | .setEmergency emergency => l.setEmergency emergency
  | .localProcessorOutage => l.signalLocalProcessorOutage
  | .localProcessorRecovered => l.localProcessorRecovered
  | .localBusy => l.signalLocalBusy
  | .localBusyEnded => l.localBusyEnded
  | .submitMsu sio sif => (l.submitMsu sio sif).2
  | .pollTransmit => l.pollTransmit.2
  | .pollEvent => l.pollEvent.2
  | .handleSu su => l.handleSu su
  | .handleCorruptedSu => l.handleCorruptedSu
  | .tick => l.tick

/-- A run of public operations. -/
def run (l : Mtp2Link) (ops : List Op) : Mtp2Link := ops.foldl step l

/-- The events an operation raises: what it appends to the queue. -/
def raised (l : Mtp2Link) (op : Op) : List Event := (l.step op).events.drop l.events.length

end Mtp2Link

end Mtp2
