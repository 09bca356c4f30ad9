import Mtp2.Format
import Mtp2.Outbound

/-!
# MTP2 — the Python bindings (`src/python.rs`)

The classes of the wheel: `Fisu`, `Lssu` and `Msu` build and encode signal units, `decode` parses
one back, and `Link` drives the state machine, fed with byte strings. Every `PyResult` is an
`Except PyErr`, and a method of `Link` returns what Python sees together with the new link.

* **`PySu.encode_suToPy`** — the object of a unit encodes as the unit does;
* **`PyLink.run_inner`** — a program drives the core link by the calls that do not raise;
* **`PyLink.program_sound`** — what a Python program can and cannot see.
-/

namespace Mtp2

/-! ## Errors -/

/-- The exception `Mtp2Error` of the package, with its text. -/
structure PyErr where
  text : String
  deriving Repr, DecidableEq

def mtp2Err (e : Mtp2Error) : PyErr := ⟨e.message⟩

/-! ## Enumerations -/

/-- The six status indications. -/
inductive PyStatus where
  | SIO
  | SIN
  | SIE
  | SIOS
  | SIPO
  | SIB
  deriving Repr, DecidableEq

namespace PyStatus

def toCore : PyStatus → StatusIndication
  | SIO => .OutOfAlignment
  | SIN => .NormalAlignment
  | SIE => .EmergencyAlignment
  | SIOS => .OutOfService
  | SIPO => .ProcessorOutage
  | SIB => .Busy

def fromCore : StatusIndication → PyStatus
  | .OutOfAlignment => SIO
  | .NormalAlignment => SIN
  | .EmergencyAlignment => SIE
  | .OutOfService => SIOS
  | .ProcessorOutage => SIPO
  | .Busy => SIB

@[simp] theorem toCore_fromCore (s : StatusIndication) : (fromCore s).toCore = s := by
  cases s <;> rfl

@[simp] theorem fromCore_toCore (s : PyStatus) : fromCore s.toCore = s := by cases s <;> rfl

end PyStatus

/-- The link states, as Python sees them. -/
inductive PyState where
  | OutOfService
  | NotAligned
  | Aligned
  | Proving
  | AlignedReady
  | AlignedNotReady
  | InService
  | ProcessorOutage
  deriving Repr, DecidableEq

def PyState.fromCore : Mtp2State → PyState
  | .OutOfService => .OutOfService
  | .NotAligned => .NotAligned
  | .Aligned => .Aligned
  | .Proving => .Proving
  | .AlignedReady => .AlignedReady
  | .AlignedNotReady => .AlignedNotReady
  | .InService => .InService
  | .ProcessorOutage => .ProcessorOutage

/-! ## Signal units -/

/-- Nothing of these fields is checked before `encode`. -/
structure PyFisu where
  bsn : UInt8 := 127
  bib : Bool := true
  fsn : UInt8 := 127
  fib : Bool := true
  deriving Repr, DecidableEq

structure PyLssu where
  status : PyStatus
  bsn : UInt8 := 127
  bib : Bool := true
  fsn : UInt8 := 127
  fib : Bool := true
  extended : Bool := false
  deriving Repr, DecidableEq

structure PyMsu where
  sio : UInt8
  sif : List UInt8
  bsn : UInt8 := 0
  bib : Bool := true
  fsn : UInt8 := 0
  fib : Bool := true
  deriving Repr, DecidableEq

def header (bsn : UInt8) (bib : Bool) (fsn : UInt8) (fib : Bool) : Except Mtp2Error SuHeader :=
  SuHeader.new bsn bib fsn fib

def PyFisu.encode (o : PyFisu) : Except PyErr (List UInt8) := do
  let h ← (header o.bsn o.bib o.fsn o.fib).mapError mtp2Err
  (SignalUnit.fisu h).encode.mapError mtp2Err

def PyLssu.encode (o : PyLssu) : Except PyErr (List UInt8) := do
  let h ← (header o.bsn o.bib o.fsn o.fib).mapError mtp2Err
  (SignalUnit.Lssu h o.status.toCore o.extended).encode.mapError mtp2Err

def PyMsu.encode (o : PyMsu) : Except PyErr (List UInt8) := do
  let h ← (header o.bsn o.bib o.fsn o.fib).mapError mtp2Err
  let su ← (SignalUnit.msu h o.sio o.sif).mapError mtp2Err
  su.encode.mapError mtp2Err

/-- An object of one of the three classes. -/
inductive PySu where
  | Fisu (o : PyFisu)
  | Lssu (o : PyLssu)
  | Msu (o : PyMsu)
  deriving Repr, DecidableEq

/-- The method `encode` of the object's class. -/
def PySu.encode : PySu → Except PyErr (List UInt8)
  | .Fisu o => o.encode
  | .Lssu o => o.encode
  | .Msu o => o.encode

/-- The Python object for a decoded unit. -/
def suToPy (su : SignalUnit) : PySu :=
  let h := su.header
  match su with
  | .Fisu _ => .Fisu ⟨h.bsn, h.bib, h.fsn, h.fib⟩
  | .Lssu _ status extended => .Lssu ⟨.fromCore status, h.bsn, h.bib, h.fsn, h.fib, extended⟩
  | .Msu _ sio sif => .Msu ⟨sio, sif, h.bsn, h.bib, h.fsn, h.fib⟩

/-- The function `decode` of the module. -/
def decode (data : List UInt8) : Except PyErr PySu := do
  let su ← (SignalUnit.decode data).mapError mtp2Err
  .ok (suToPy su)

/-- The object of a unit encodes to what the unit encodes to. -/
theorem PySu.encode_suToPy {su : SignalUnit} {bytes : List UInt8} (h : su.encode = .ok bytes) :
    (suToPy su).encode = .ok bytes := by
  obtain ⟨hr, hlen, -⟩ := SignalUnit.encode_eq_ok_iff.mp h
  have hnew : ∀ hd : SuHeader, hd.InRange → header hd.bsn hd.bib hd.fsn hd.fib = .ok hd :=
    fun hd hr => SuHeader.new_eq_ok_iff.mpr ⟨hr, rfl⟩
  cases su with
  | Fisu hd =>
    show PyFisu.encode ⟨hd.bsn, hd.bib, hd.fsn, hd.fib⟩ = _
    simp only [PyFisu.encode, hnew hd hr, Except.mapError, bind, Except.bind]
    rw [SignalUnit.fisu, h]
  | Lssu hd status extended =>
    show PyLssu.encode ⟨.fromCore status, hd.bsn, hd.bib, hd.fsn, hd.fib, extended⟩ = _
    simp only [PyLssu.encode, hnew hd hr, Except.mapError, bind, Except.bind,
      PyStatus.toCore_fromCore]
    rw [h]
  | Msu hd sio sif =>
    have hmsu : SignalUnit.msu hd sio sif = .ok (.Msu hd sio sif) := by
      rw [SignalUnit.bodyOctets, List.length_cons] at hlen
      rw [SignalUnit.msu]
      exact if_neg (by omega)
    show PyMsu.encode ⟨sio, sif, hd.bsn, hd.bib, hd.fsn, hd.fib⟩ = _
    simp only [PyMsu.encode, hnew hd hr, Except.mapError, bind, Except.bind, hmsu]
    rw [h]

/-! ## Events -/

structure PyEvent where
  kind : String
  sio : Option UInt8 := none
  sif : Option (List UInt8) := none
  detail : Option String := none
  deriving Repr, DecidableEq

def oosReason : OutOfServiceReason → String
  | .Stopped => "stopped"
  | .ReceivedSios => "received_sios"
  | .AlignmentLost => "alignment_lost"
  | .SuermFailure => "suerm_failure"
  | .T6Expired => "t6_expired"
  | .T7Expired => "t7_expired"

def alignFailure : AlignmentFailure → String
  | .AermTripped => "aerm_tripped"
  | .ReceivedSios => "received_sios"
  | .T2Expired => "t2_expired"
  | .T3Expired => "t3_expired"
  | .T1Expired => "t1_expired"

def eventToPy : Event → PyEvent
  | .InService => { kind := "in_service" }
  | .OutOfService r => { kind := "out_of_service", detail := some (oosReason r) }
  | .AlignmentFailed f => { kind := "alignment_failed", detail := some (alignFailure f) }
  | .Msu sio sif => { kind := "msu", sio := some sio, sif := some sif }
  | .RemoteProcessorOutage => { kind := "remote_processor_outage" }
  | .RemoteProcessorRecovered => { kind := "remote_processor_recovered" }
  | .RemoteBusy => { kind := "remote_busy" }
  | .RemoteBusyEnded => { kind := "remote_busy_ended" }
  | .RetransmissionRequested => { kind := "retransmission_requested" }

/-- No two events look alike from Python. -/
theorem eventToPy_injective : Function.Injective eventToPy := by
  have hreason : Function.Injective oosReason := fun r r' h => by
    cases r <;> cases r' <;> first | rfl | exact absurd h (by decide)
  have hfailure : Function.Injective alignFailure := fun f f' h => by
    cases f <;> cases f' <;> first | rfl | exact absurd h (by decide)
  intro e e' h
  cases e <;> cases e' <;> simp [eventToPy] at h ⊢
  · exact hreason h
  · exact hfailure h
  · exact h

/-! ## Links -/

/-- The keyword arguments of `Link`, with their defaults. -/
structure LinkArgs where
  emergency : Bool := false
  pcrN1 : Nat := 127
  pcrN2 : Nat := 8000
  t1 : Option UInt32 := none
  t2 : Option UInt32 := none
  t3 : Option UInt32 := none
  t4Normal : Option UInt32 := none
  t4Emergency : Option UInt32 := none
  t6 : Option UInt32 := none
  t7 : Option UInt32 := none
  aermNormal : Option UInt32 := none
  aermEmergency : Option UInt32 := none
  suermThreshold : Option UInt32 := none
  suermInterval : Option UInt32 := none
  provingAttempts : Option UInt32 := none
  deriving Repr, DecidableEq

structure PyLink where
  inner : Mtp2Link
  deriving Repr, DecidableEq

/-- What a method returns to Python, or raises. -/
inductive PyReply where
  | none
  | state (s : PyState)
  | su (o : Option PySu)
  | event (e : Option PyEvent)
  | raised (e : PyErr)
  deriving Repr, DecidableEq

/-- The methods of `Link`. -/
inductive PyCall where
  | state
  | start
  | stop
  | setEmergency (emergency : Bool)
  | localProcessorOutage
  | localProcessorRecovered
  | localBusy
  | localBusyEnded
  | submitMsu (sio : UInt8) (sif : List UInt8)
  | pollTransmit
  | handleSu (data : List UInt8)
  | handleCorruptedSu
  | tick
  | pollEvent
  deriving Repr, DecidableEq

namespace PyLink

/-- The configuration the keyword arguments make of the defaults. -/
def config (method : RetransmissionMethod) (args : LinkArgs) : Mtp2Config :=
  let d : Mtp2Config := {}
  { method := method
    emergency := args.emergency
    t1AlignedReady := args.t1.getD d.t1AlignedReady
    t2NotAligned := args.t2.getD d.t2NotAligned
    t3Aligned := args.t3.getD d.t3Aligned
    t4ProvingNormal := args.t4Normal.getD d.t4ProvingNormal
    t4ProvingEmergency := args.t4Emergency.getD d.t4ProvingEmergency
    t6RemoteCongestion := args.t6.getD d.t6RemoteCongestion
    t7ExcessiveDelay := args.t7.getD d.t7ExcessiveDelay
    aermThresholdNormal := args.aermNormal.getD d.aermThresholdNormal
    aermThresholdEmergency := args.aermEmergency.getD d.aermThresholdEmergency
    suermThreshold := args.suermThreshold.getD d.suermThreshold
    suermDecrementInterval := args.suermInterval.getD d.suermDecrementInterval
    provingAttempts := args.provingAttempts.getD d.provingAttempts }

/-- Build a link. `debug` is the `Debug` rendering of strings. -/
def new (debug : String → String) (method : String) (args : LinkArgs) : Except PyErr PyLink :=
  if method = "basic" then .ok ⟨.new (config .Basic args)⟩
  else if method = "pcr" then .ok ⟨.new (config (.Pcr ⟨args.pcrN1, args.pcrN2⟩) args)⟩
  else .error ⟨"unknown retransmission method " ++ debug method ++
    " (expected \"basic\" or \"pcr\")"⟩

def submitMsu (l : PyLink) (sio : UInt8) (sif : List UInt8) : Except PyErr Unit × PyLink :=
  let r := l.inner.submitMsu sio sif
  (r.1.mapError mtp2Err, ⟨r.2⟩)

def pollTransmit (l : PyLink) : Option PySu × PyLink :=
  let r := l.inner.pollTransmit
  (r.1.map suToPy, ⟨r.2⟩)

def handleSu (l : PyLink) (data : List UInt8) : Except PyErr Unit × PyLink :=
  match (SignalUnit.decode data).mapError mtp2Err with
  | .ok su => (.ok (), ⟨l.inner.handleSu su⟩)
  | .error e => (.error e, l)

def pollEvent (l : PyLink) : Option PyEvent × PyLink :=
  let r := l.inner.pollEvent
  (r.1.map eventToPy, ⟨r.2⟩)

/-- The reply of a method that returns nothing or raises. -/
def reply : Except PyErr Unit → PyReply
  | .ok () => .none
  | .error e => .raised e

/-- A call of a method: the reply, and the link after it. -/
def call (l : PyLink) : PyCall → PyReply × PyLink
  | .state => (.state (.fromCore l.inner.state), l)
  | .start => (.none, ⟨l.inner.start⟩)
  | .stop => (.none, ⟨l.inner.stop⟩)
  | .setEmergency emergency => (.none, ⟨l.inner.setEmergency emergency⟩)
  | .localProcessorOutage => (.none, ⟨l.inner.signalLocalProcessorOutage⟩)
  | .localProcessorRecovered => (.none, ⟨l.inner.localProcessorRecovered⟩)
  | .localBusy => (.none, ⟨l.inner.signalLocalBusy⟩)
  | .localBusyEnded => (.none, ⟨l.inner.localBusyEnded⟩)
  | .submitMsu sio sif => ((reply (l.submitMsu sio sif).1), (l.submitMsu sio sif).2)
  | .pollTransmit => (.su l.pollTransmit.1, l.pollTransmit.2)
  | .handleSu data => ((reply (l.handleSu data).1), (l.handleSu data).2)
  | .handleCorruptedSu => (.none, ⟨l.inner.handleCorruptedSu⟩)
  | .tick => (.none, ⟨l.inner.tick⟩)
  | .pollEvent => (.event l.pollEvent.1, l.pollEvent.2)

/-- A Python program: its calls, one after the other. An exception does not end it. -/
def run (l : PyLink) (calls : List PyCall) : PyLink := calls.foldl (fun l c => (l.call c).2) l

end PyLink

/-! ## Programs -/

/-- The operation of the core link behind a call, if there is one. -/
def PyCall.op : PyCall → Option Op
  | .state => none
  | .start => some .start
  | .stop => some .stop
  | .setEmergency emergency => some (.setEmergency emergency)
  | .localProcessorOutage => some .localProcessorOutage
  | .localProcessorRecovered => some .localProcessorRecovered
  | .localBusy => some .localBusy
  | .localBusyEnded => some .localBusyEnded
  | .submitMsu sio sif => some (.submitMsu sio sif)
  | .pollTransmit => some .pollTransmit
  | .handleSu data =>
    match SignalUnit.decode data with
    | .ok su => some (.handleSu su)
    | .error _ => none
  | .handleCorruptedSu => some .handleCorruptedSu
  | .tick => some .tick
  | .pollEvent => some .pollEvent

namespace PyLink

variable {l : PyLink} {calls : List PyCall}

/-- A byte string that decodes reaches the core link. -/
theorem handleSu_ok {data : List UInt8} {su : SignalUnit} (h : SignalUnit.decode data = .ok su) :
    l.handleSu data = (.ok (), ⟨l.inner.handleSu su⟩) := by
  rw [handleSu, h]
  rfl

/-- One that does not leaves the link alone and is reported with the text of the core error. -/
theorem handleSu_error {data : List UInt8} {e : Mtp2Error}
    (h : SignalUnit.decode data = .error e) : l.handleSu data = (.error (mtp2Err e), l) := by
  rw [handleSu, h]
  rfl

theorem submitMsu_ok {sio : UInt8} {sif : List UInt8} (h : 1 + sif.length ≤ maxMsuBody) :
    l.submitMsu sio sif = (.ok (), ⟨{ l.inner with tx := l.inner.tx.submit sio sif }⟩) := by
  have hcore : l.inner.submitMsu sio sif =
      (.ok (), { l.inner with tx := l.inner.tx.submit sio sif }) := if_neg (Nat.not_lt.mpr h)
  rw [submitMsu, hcore]
  rfl

theorem submitMsu_error {sio : UInt8} {sif : List UInt8} (h : maxMsuBody < 1 + sif.length) :
    l.submitMsu sio sif = (.error (mtp2Err (.msuTooLarge (1 + sif.length))), l) := by
  have hcore : l.inner.submitMsu sio sif = (.error (.msuTooLarge (1 + sif.length)), l.inner) :=
    if_pos h
  rw [submitMsu, hcore]
  rfl

/-- A call does to the core link what its operation does. -/
theorem call_inner (l : PyLink) (c : PyCall) :
    (l.call c).2.inner = (c.op.elim l.inner l.inner.step) := by
  cases c with
  | handleSu data =>
    show (l.handleSu data).2.inner = _
    cases hd : SignalUnit.decode data with
    | ok su =>
      rw [handleSu_ok hd, PyCall.op, hd]
      rfl
    | error e =>
      rw [handleSu_error hd, PyCall.op, hd]
      rfl
  | _ => rfl

/-- **A Python program drives the core link** by the operations behind its calls. -/
theorem run_inner (l : PyLink) (calls : List PyCall) :
    (l.run calls).inner = l.inner.run (calls.filterMap PyCall.op) := by
  induction calls generalizing l with
  | nil => rfl
  | cons c calls ih =>
    show ((l.call c).2.run calls).inner = _
    rw [ih, call_inner]
    cases hop : c.op with
    | none => rw [List.filterMap_cons_none hop]; rfl
    | some op => rw [List.filterMap_cons_some hop]; rfl

/-- What reaches the core has passed `decode`, so it is in range. -/
theorem handled_inRange {su : SignalUnit}
    (h : Op.handleSu su ∈ calls.filterMap PyCall.op) : su.header.InRange := by
  obtain ⟨c, -, hop⟩ := List.mem_filterMap.mp h
  cases c with
  | handleSu data =>
    rw [PyCall.op] at hop
    split at hop
    · next hd =>
      cases hop
      exact SignalUnit.decode_inRange hd
    · cases hop
  | _ => cases hop

/-- What a call raises, and that it then leaves the link alone. -/
theorem call_raised {c : PyCall} {e : PyErr} (h : (l.call c).1 = .raised e) :
    (l.call c).2 = l ∧
      ((∃ data e', c = .handleSu data ∧ SignalUnit.decode data = .error e' ∧ e.text = e'.message) ∨
        ∃ sio sif, c = .submitMsu sio sif ∧ maxMsuBody < 1 + sif.length ∧
          e.text = (Mtp2Error.msuTooLarge (1 + sif.length)).message) := by
  cases c with
  | submitMsu sio sif =>
    change reply (l.submitMsu sio sif).1 = .raised e at h
    show (l.submitMsu sio sif).2 = l ∧ _
    -- the only other call that can fail is `submit_msu`, by its length
    rcases Nat.lt_or_ge maxMsuBody (1 + sif.length) with hlen | hlen
    · rw [submitMsu_error hlen] at h ⊢
      cases h
      exact ⟨rfl, .inr ⟨sio, sif, rfl, hlen, rfl⟩⟩
    · rw [submitMsu_ok hlen] at h
      cases h
  | handleSu data =>
    change reply (l.handleSu data).1 = .raised e at h
    show (l.handleSu data).2 = l ∧ _
    cases hd : SignalUnit.decode data with
    | ok su => rw [handleSu_ok hd] at h; cases h
    | error e' =>
      rw [handleSu_error hd] at h ⊢
      cases h
      exact ⟨rfl, .inl ⟨data, e', rfl, hd, rfl⟩⟩
  | _ => cases h

/-- **What a Python program can and cannot see.** Whatever it calls and whatever byte strings it
feeds the link: the core link has made exactly the run of the operations behind its calls; a call
that raises changes nothing, and only an MSU that is too large and a byte string that does not
decode raise, with the text of the core error; and an object `poll_transmit` returns always
encodes, to what the core unit encodes to. -/
theorem program_sound (debug : String → String) (method : String) (args : LinkArgs) {l₀ : PyLink}
    (hnew : new debug method args = .ok l₀) (calls : List PyCall) :
    let l := l₀.run calls
    l.inner = (Mtp2Link.new l₀.inner.config).run (calls.filterMap PyCall.op) ∧
      (∀ c e, (l.call c).1 = .raised e → (l.call c).2 = l ∧
        ((∃ data e', c = .handleSu data ∧ SignalUnit.decode data = .error e' ∧
            e.text = e'.message) ∨
          ∃ sio sif, c = .submitMsu sio sif ∧ maxMsuBody < 1 + sif.length ∧
            e.text = (Mtp2Error.msuTooLarge (1 + sif.length)).message)) ∧
      ∀ o, (l.call .pollTransmit).1 = .su (some o) → ∃ su bytes,
        l.inner.pollTransmit.1 = some su ∧ su.encode = .ok bytes ∧ o.encode = .ok bytes := by
  intro l
  -- a constructor that succeeds has built a new link, of one method or the other
  have hfresh : l₀.inner = Mtp2Link.new l₀.inner.config := by
    unfold new at hnew
    split at hnew
    · cases hnew; rfl
    split at hnew
    · cases hnew; rfl
    · cases hnew
  have hrun : l.inner = (Mtp2Link.new l₀.inner.config).run (calls.filterMap PyCall.op) := by
    rw [← hfresh]
    exact l₀.run_inner calls
  refine ⟨hrun, fun c e => call_raised, fun o ho => ?_⟩
  obtain ⟨su, hsu, hobj⟩ := Option.map_eq_some_iff.mp (PyReply.su.inj ho)
  have hloaded := Mtp2Link.loaded_run l₀.inner.config (calls.filterMap PyCall.op)
  -- only decoded units reach the core, so its sequence numbers stay in range
  have hrx := Mtp2Link.receivedLt_run l₀.inner.config (calls.filterMap PyCall.op)
    fun su => handled_inRange
  rw [← hrun] at hloaded hrx
  obtain ⟨-, bytes, henc⟩ := Mtp2Link.pollTransmit_encodes hloaded hrx hsu
  exact ⟨su, bytes, hsu, henc, hobj ▸ PySu.encode_suToPy henc⟩

/-- A program that is told about an octet string too short for a header, and goes on. -/
theorem program_sound_short :
    let calls : List PyCall := [.start, .handleSu [0x80], .tick, .pollTransmit]
    (run ⟨.new (config .Basic {})⟩ calls).inner =
      (Mtp2Link.new (config .Basic {})).run (calls.filterMap PyCall.op) :=
  (program_sound id "basic" {} rfl _).1

end PyLink

end Mtp2
