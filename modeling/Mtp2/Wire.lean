import Mathlib.Data.List.Forall2
import Mtp2.Python
import Mtp2.Duplex

/-!
# MTP2 — two Python links over byte strings

What the README and the tests do with the bindings: two `Link` objects, each of which is fed the
octets that `poll_transmit().encode()` gave at the other. The pipes hold byte strings, and they may
lose one or damage one.

The codec is exact on the units the links exchange, as long as every SIF has two octets at least,
so the pair of byte pipes simulates the pair of unit pipes of `Mtp2.Duplex`.

* **`PySide.Mirrors`** — one end over byte strings, and over units;
* **`PyPair.mirrors_run`** — the simulation, over every run;
* **`PyPair.decodes`** — what is in flight decodes to what was sent, and only an MSU that is too
  large raises;
* **`PyPair.received_in_order`** — under PCR, what one program reads is what the other submitted.
-/

namespace Mtp2

/-! ## The program -/

namespace PyReply

/-- The octets that go out: those of the polled unit. -/
def bytes : PyReply → List (List UInt8)
  | .su (some o) =>
    match o.encode with
    | .ok bytes => [bytes]
    | .error _ => []
  | _ => []

/-- What the program sees raised, by the call or by `encode`. -/
def errors : PyReply → List PyErr
  | .su (some o) =>
    match o.encode with
    | .ok _ => []
    | .error e => [e]
  | .raised e => [e]
  | _ => []

/-- The MSU of an event whose `kind` says it has one. -/
def payload : PyReply → List Payload
  | .event (some ⟨"msu", some sio, some sif, _⟩) => [(sio, sif)]
  | _ => []

end PyReply

/-- The MSU a call has queued. -/
def PyCall.accepted : PyCall → PyReply → List Payload
  | .submitMsu sio sif, .none => [(sio, sif)]
  | _, _ => []

/-- One end: the link, and what its program has seen. -/
structure PySide where
  link : PyLink
  /-- The byte strings in flight to the other end, oldest first. -/
  out : List (List UInt8)
  submitted : List Payload
  received : List Payload
  raised : List PyErr
  deriving Repr, DecidableEq

/-- A call the program makes of its own accord. -/
def PyCall.isOwn : PyCall → Bool
  | .start | .handleSu _ | .handleCorruptedSu => false
  | _ => true

/-- What can happen at one end, with the pipe that leaves it. -/
inductive WireOp where
  | call (c : PyCall) (own : c.isOwn = true)
  | deliver
  | corrupt
  | lose (i : ℕ)
  deriving Repr, DecidableEq

inductive PyPairOp where
  | atA (op : WireOp)
  | atB (op : WireOp)
  deriving Repr, DecidableEq

namespace PySide

def call (x : PySide) (c : PyCall) : PySide :=
  let r := x.link.call c
  { link := r.2
    out := x.out ++ r.1.bytes
    submitted := x.submitted ++ c.accepted r.1
    received := x.received ++ r.1.payload
    raised := x.raised ++ r.1.errors }

/-- A link just built, after `start`. -/
def started (l : PyLink) : PySide := ⟨(l.call .start).2, [], [], [], []⟩

end PySide

structure PyPair where
  a : PySide
  b : PySide
  deriving Repr, DecidableEq

namespace PyPair

def started (la lb : PyLink) : PyPair := ⟨.started la, .started lb⟩

def swap (p : PyPair) : PyPair := ⟨p.b, p.a⟩

def moveA (p : PyPair) : WireOp → PyPair
  | .call c _ => { p with a := p.a.call c }
  | .deliver =>
    match p.a.out with
    | [] => p
    | bytes :: rest => ⟨{ p.a with out := rest }, p.b.call (.handleSu bytes)⟩
  | .corrupt =>
    match p.a.out with
    | [] => p
    | _ :: rest => ⟨{ p.a with out := rest }, p.b.call .handleCorruptedSu⟩
  | .lose i => { p with a := { p.a with out := p.a.out.eraseIdx i } }

def move (p : PyPair) : PyPairOp → PyPair
  | .atA op => p.moveA op
  | .atB op => (p.swap.moveA op).swap

end PyPair

/-! ## Long payloads -/

/-- A SIF of two octets at least: the MSU then has a Length Indicator of its own. -/
def Long (p : Payload) : Prop := 2 ≤ p.2.length

instance Long.decidable (p : Payload) : Decidable (Long p) :=
  inferInstanceAs (Decidable (2 ≤ p.2.length))

namespace Mtp2Link

variable {l : Mtp2Link}

/-- **What makes the units of a link exact on the wire.** -/
structure Encodable (l : Mtp2Link) : Prop where
  represented : ∃ age, l.Represented age
  loaded : l.tx.Loaded
  received : l.rx.lastReceived < 128
  long : l.tx.Holding Long

namespace Encodable

/-- A link just started has nothing to send but status units. -/
theorem started (config : Mtp2Config) : ((new config).step .start).Encodable :=
  ⟨represented_of_run config [.start], loaded_run config [.start],
    show (127 : UInt8) < 128 by decide, TxControl.holding_new config.method⟩

/-- It stays so, whatever is received in range and submitted with two octets of SIF. -/
theorem step (h : l.Encodable) (op : Op) (hsu : ∀ su, op = .handleSu su → su.header.InRange)
    (hsub : ∀ sio sif, op = .submitMsu sio sif → Long (sio, sif)) : (l.step op).Encodable := by
  obtain ⟨age, hrep⟩ := h.represented
  exact ⟨⟨_, hrep.step op⟩, loaded_step h.loaded op, receivedLt_step hrep h.received hsu,
    holding_step h.long hsub⟩

/-- What is sent encodes, and decodes back. -/
theorem transmits (h : l.Encodable) {su : SignalUnit} (hsu : l.pollTransmit.1 = some su) :
    ∃ bytes, su.encode = .ok bytes ∧ SignalUnit.decode bytes = .ok su := by
  obtain ⟨-, bytes, henc⟩ := pollTransmit_encodes h.loaded h.received hsu
  obtain ⟨hrange, hlen, rfl⟩ := SignalUnit.encode_eq_ok_iff.mp henc
  -- in range and encoded, it decodes to itself unless it is a short MSU
  refine ⟨_, henc, (SignalUnit.decode_bodyOctets hrange hlen).mpr ?_⟩
  rcases l.pollTransmit_unit with ⟨hnone, -⟩ | ⟨hp, hframe⟩ | ⟨-, ⟨status, hlssu⟩ | ⟨-, hfisu⟩⟩
  · rw [hnone] at hsu
    cases hsu
  · cases hb : l.tx.poll.1.body with
    | Fisu =>
      rw [hframe, frameUnit, hb] at hsu
      cases hsu
      exact id
    | Msu sio sif =>
      rw [pollTransmit_msu h.loaded hp hb] at hsu
      cases hsu
      have hlong : 2 ≤ sif.length := h.long.poll.buffered _ (TxControl.poll_frame_mem hb)
      exact Nat.not_lt.mpr hlong
  · rw [hlssu] at hsu
    cases hsu
    exact id
  · rw [hfisu] at hsu
    cases hsu
    exact id

end Encodable

/-- Only reading takes an event off the queue. -/
theorem events_step {age : ℕ} (h : l.Represented age) {op : Op} (hop : op ≠ .pollEvent) :
    (l.step op).events = l.events ++ l.raised op := by
  have hr := step_raised h op
  generalize hl' : l.step op = l' at hr
  have happend {es : List Event} (he : l'.events = l.events ++ es) :
      l'.events = l.events ++ l.raised op := by rw [raised_of_append (hl' ▸ he), he]
  cases hr with
  | quiet _ _ he _ | serving _ he _ | received _ _ he _ => exact happend he
  | polled _ _ => exact absurd rfl hop
  | started hs =>
    have he : l.start.events = l.events ++ [] := by
      rw [start, if_neg (not_not_intro hs), List.append_nil]
      rfl
    exact happend he

end Mtp2Link

/-! ## Pipes with corresponding contents -/

section Corresponding

variable {α β : Type*} {R : α → β → Prop} {xs : List α} {ys : List β}

theorem forall₂_eraseIdx (h : List.Forall₂ R xs ys) (i : ℕ) :
    List.Forall₂ R (xs.eraseIdx i) (ys.eraseIdx i) := by
  induction h generalizing i with
  | nil => exact .nil
  | cons hr hrs ih =>
    cases i with
    | zero => exact hrs
    | succ i => exact .cons hr (ih i)

theorem exists_of_mem (h : List.Forall₂ R xs ys) {x : α} (hx : x ∈ xs) : ∃ y ∈ ys, R x y := by
  induction h with
  | nil => cases hx
  | cons hr hrs ih =>
    rcases List.mem_cons.mp hx with rfl | hx
    · exact ⟨_, List.mem_cons_self, hr⟩
    · obtain ⟨y, hy, hxy⟩ := ih hx
      exact ⟨y, List.mem_cons_of_mem _ hy, hxy⟩

end Corresponding

/-! ## One end over bytes and over units -/

theorem eventToPy_payload (e : Event) :
    (PyReply.event (some (eventToPy e))).payload = e.payload := by
  cases e <;> rfl

/-- A byte string on the pipe and the unit it stands for. -/
structure Carries (bytes : List UInt8) (su : SignalUnit) : Prop where
  encode : su.encode = .ok bytes
  decode : SignalUnit.decode bytes = .ok su

theorem Carries.inRange {bytes : List UInt8} {su : SignalUnit} (h : Carries bytes su) :
    su.header.InRange := (SignalUnit.encode_eq_ok_iff.mp h.encode).1

/-- What Python may see raised: an MSU that is too large. -/
def TooLarge (e : PyErr) : Prop := ∃ n, maxMsuBody < n ∧ e = mtp2Err (.msuTooLarge n)

/-- **An end over byte strings mirrors an end over units**: what the program has read and what
still waits in the event queue is what the link has delivered. -/
structure PySide.Mirrors (x : PySide) (z : Endpoint) : Prop where
  link : x.link.inner = z.link
  out : List.Forall₂ Carries x.out z.out
  submitted : x.submitted = z.submitted
  received : x.received ++ payloads z.link.events = z.delivered
  raised : ∀ e ∈ x.raised, TooLarge e

namespace PySide.Mirrors

variable {x : PySide} {z : Endpoint} {c : PyCall}

theorem started {l : PyLink} {config : Mtp2Config} (h : l.inner = .new config) :
    (PySide.started l).Mirrors (.started config) := by
  refine ⟨?_, .nil, rfl, ?_, by simp [PySide.started]⟩
  · show l.inner.start = _
    rw [h]
    rfl
  · rfl

/-- A call that puts nothing on the pipe and raises nothing. -/
theorem quiet (h : x.Mirrors z) {z' : Endpoint} {r : PyReply} {l : PyLink}
    (hcall : x.link.call c = (r, l)) (hbytes : r.bytes = []) (herrors : r.errors = [])
    (hlink : l.inner = z'.link) (hout : z'.out = z.out)
    (hsub : x.submitted ++ c.accepted r = z'.submitted)
    (hrecv : x.received ++ r.payload ++ payloads z'.link.events = z'.delivered) :
    (x.call c).Mirrors z' := by
  rw [PySide.call, hcall]
  dsimp only
  rw [hbytes, herrors, List.append_nil, List.append_nil]
  exact ⟨hlink, hout ▸ h.out, hsub, hrecv, h.raised⟩

/-- A call of which the program sees nothing at all. -/
theorem act (h : x.Mirrors z) (hz : z.link.Encodable) {op : Op} (hop : c.op = some op)
    (hpoll : op ≠ .pollEvent) (hnone : (x.link.call c).1 = .none) (hacc : c.accepted .none = []) :
    (x.call c).Mirrors (z.act op) := by
  obtain ⟨age, hrep⟩ := hz.represented
  have hlink : (x.link.call c).2.inner = z.link.step op := by
    rw [PyLink.call_inner, hop, h.link]
    rfl
  refine h.quiet (Prod.ext hnone rfl) rfl rfl hlink rfl ?_ ?_
  · rw [hacc, List.append_nil]
    exact h.submitted
  · show x.received ++ [] ++ payloads (z.link.step op).events =
      z.delivered ++ payloads (z.link.raised op)
    rw [List.append_nil, Mtp2Link.events_step hrep hpoll, payloads_append, ← List.append_assoc,
      h.received]

/-- A submission is taken over, or refused, at both. -/
theorem submitMsu (h : x.Mirrors z) (sio : UInt8) (sif : List UInt8) :
    (x.call (.submitMsu sio sif)).Mirrors (z.submit sio sif) := by
  have hstep : z.link.step (.submitMsu sio sif) =
      { z.link with tx := (z.link.submitMsu sio sif).2.tx } := z.link.submitMsu_eq sio sif
  have hrecv : x.received ++ [] ++ payloads (z.link.step (.submitMsu sio sif)).events =
      z.delivered ++ payloads (z.link.raised (.submitMsu sio sif)) := by
    rw [Mtp2Link.raised_silent (by rw [hstep]), hstep, List.append_nil, List.append_nil]
    exact h.received
  rcases Nat.lt_or_ge maxMsuBody (1 + sif.length) with hlen | hlen
  · -- rejected, by both
    have hcore : z.link.submitMsu sio sif = (.error (.msuTooLarge (1 + sif.length)), z.link) :=
      if_pos hlen
    have hcall : x.link.call (.submitMsu sio sif) =
        (.raised (mtp2Err (.msuTooLarge (1 + sif.length))), x.link) := by
      rw [PyLink.call, PyLink.submitMsu_error hlen]
      rfl
    rw [Endpoint.submit, hcore, PySide.call, hcall]
    refine ⟨h.link.trans (congrArg Prod.snd hcore).symm, ?_, ?_, hrecv, fun e he => ?_⟩
    · exact (List.append_nil x.out).symm ▸ h.out
    · exact (List.append_nil _).trans h.submitted
    · rcases List.mem_append.mp he with he | he
      · exact h.raised e he
      · rw [List.mem_singleton.mp he]
        exact ⟨_, hlen, rfl⟩
  · -- queued, by both
    have hcore : z.link.submitMsu sio sif =
        (.ok (), { z.link with tx := z.link.tx.submit sio sif }) := if_neg (Nat.not_lt.mpr hlen)
    have hcall : x.link.call (.submitMsu sio sif) =
        (.none, ⟨{ x.link.inner with tx := x.link.inner.tx.submit sio sif }⟩) := by
      rw [PyLink.call, PyLink.submitMsu_ok hlen]
      rfl
    rw [Endpoint.submit, hcore]
    refine h.quiet hcall rfl rfl ?_ rfl ?_ hrecv
    · show ({ x.link.inner with tx := x.link.inner.tx.submit sio sif } : Mtp2Link) =
        (z.link.submitMsu sio sif).2
      rw [h.link, hcore]
    · show x.submitted ++ [(sio, sif)] = z.submitted ++ [(sio, sif)]
      rw [h.submitted]

/-- A poll puts the bytes of the unit on one pipe and the unit on the other. -/
theorem pollTransmit (h : x.Mirrors z) (hz : z.link.Encodable) :
    (x.call .pollTransmit).Mirrors z.poll := by
  have hevents : (z.link.step .pollTransmit).events = z.link.events := by
    rw [Mtp2Link.step, Mtp2Link.pollTransmit_eq]
  have hrecv : x.received ++ [] ++ payloads (z.link.step .pollTransmit).events =
      z.delivered ++ payloads (z.link.raised .pollTransmit) := by
    rw [Mtp2Link.raised_silent hevents, hevents, List.append_nil, List.append_nil]
    exact h.received
  have hcall : x.link.call .pollTransmit =
      (.su (z.link.pollTransmit.1.map suToPy), ⟨z.link.pollTransmit.2⟩) := by
    rw [PyLink.call, PyLink.pollTransmit, h.link]
  have hout : z.poll.out = z.out ++ z.link.pollTransmit.1.toList := rfl
  cases hsu : z.link.pollTransmit.1 with
  -- a link that is down and silent puts nothing on either pipe
  | none =>
    rw [hsu] at hcall hout
    exact h.quiet hcall rfl rfl rfl (hout.trans (List.append_nil _))
      ((List.append_nil _).trans h.submitted) hrecv
  | some su =>
    rw [hsu] at hcall hout
    -- the object encodes as the core unit does, so the peer decodes what was sent
    obtain ⟨bytes, henc, hdec⟩ := hz.transmits hsu
    have hobj : (suToPy su).encode = .ok bytes := PySu.encode_suToPy henc
    have hbytes : (PyReply.su (some (suToPy su))).bytes = [bytes] := by rw [PyReply.bytes, hobj]
    have herrors : (PyReply.su (some (suToPy su))).errors = [] := by rw [PyReply.errors, hobj]
    rw [PySide.call, hcall]
    refine ⟨rfl, ?_, (List.append_nil _).trans h.submitted, hrecv, ?_⟩
    · show List.Forall₂ Carries (x.out ++ (PyReply.su (some (suToPy su))).bytes) z.poll.out
      rw [hbytes, hout]
      exact List.rel_append h.out (.cons ⟨henc, hdec⟩ .nil)
    · show ∀ e ∈ x.raised ++ (PyReply.su (some (suToPy su))).errors, TooLarge e
      rw [herrors, List.append_nil]
      exact h.raised

/-- **What is read leaves the event queue**, in order. -/
theorem pollEvent (h : x.Mirrors z) : (x.call .pollEvent).Mirrors (z.act .pollEvent) := by
  have hcall : x.link.call .pollEvent =
      (.event (z.link.events.head?.map eventToPy), ⟨z.link.step .pollEvent⟩) := by
    rw [PyLink.call, PyLink.pollEvent, h.link]
    rfl
  refine h.quiet hcall rfl rfl rfl rfl ((List.append_nil _).trans h.submitted) ?_
  have hnone : payloads (z.link.raised .pollEvent) = [] := by
    rw [Mtp2Link.raised_pollEvent]
    rfl
  show _ ++ payloads z.link.events.tail = z.delivered ++ payloads (z.link.raised .pollEvent)
  -- the event read moves from the queue to what the program has received
  rw [hnone, List.append_nil, ← h.received, List.append_assoc]
  cases hev : z.link.events with
  | nil => rfl
  | cons e es =>
    show x.received ++ ((PyReply.event (some (eventToPy e))).payload ++ payloads es) = _
    rw [eventToPy_payload]
    rfl

end PySide.Mirrors

/-! ## The pair over bytes and over units -/

/-- A submission carries two octets of SIF at least. -/
def PyCall.LongSif : PyCall → Prop
  | .submitMsu sio sif => Long (sio, sif)
  | _ => True

def WireOp.LongSif : WireOp → Prop
  | .call c _ => c.LongSif
  | _ => True

def PyPairOp.LongSif : PyPairOp → Prop
  | .atA op | .atB op => op.LongSif

instance PyCall.LongSif.decidable (c : PyCall) : Decidable c.LongSif := by
  cases c <;> unfold PyCall.LongSif <;> infer_instance

instance WireOp.LongSif.decidable (op : WireOp) : Decidable op.LongSif := by
  cases op <;> unfold WireOp.LongSif <;> infer_instance

instance PyPairOp.LongSif.decidable (op : PyPairOp) : Decidable op.LongSif := by
  cases op <;> unfold PyPairOp.LongSif <;> infer_instance

/-- **The pair over byte pipes mirrors the pair over unit pipes.** -/
structure PyPair.Mirrors (p : PyPair) (q : LinkPair) : Prop where
  a : p.a.Mirrors q.a
  b : p.b.Mirrors q.b
  encodableA : q.a.link.Encodable
  encodableB : q.b.link.Encodable

namespace PyPair.Mirrors

variable {p : PyPair} {q : LinkPair}

theorem swap (h : p.Mirrors q) : p.swap.Mirrors q.swap := ⟨h.b, h.a, h.encodableB, h.encodableA⟩

/-- A call at one end is the call of the core link, or reads its state only. -/
theorem call (h : p.Mirrors q) {c : PyCall} (own : c.isOwn = true) (hlong : c.LongSif) :
    ∃ op : Option SideOp, (p.moveA (.call c own)).Mirrors (op.elim q q.moveA) := by
  have hstep (op : Op) (hcall : op.isCall = true) (hx : (p.a.call c).Mirrors (q.a.call op))
      (hsub : ∀ sio sif, op = .submitMsu sio sif → Long (sio, sif)) :
      ∃ op : Option SideOp, (p.moveA (.call c own)).Mirrors (op.elim q q.moveA) := by
    refine ⟨some (.call op hcall), hx, h.b, ?_, h.encodableB⟩
    show (q.a.call op).link.Encodable
    rw [Endpoint.call_link]
    refine h.encodableA.step op ?_ hsub
    rintro su rfl
    cases hcall
  -- the calls that return nothing and accept nothing
  have hact {op : Op} (hcall : op.isCall = true) (hop : c.op = some op) (hpoll : op ≠ .pollEvent)
      (hz : q.a.call op = q.a.act op) (hsub : ∀ sio sif, op ≠ .submitMsu sio sif)
      (hnone : (p.a.link.call c).1 = .none) (hacc : c.accepted .none = []) :=
    hstep op hcall (hz ▸ h.a.act h.encodableA hop hpoll hnone hacc)
      fun sio sif he => absurd he (hsub sio sif)
  cases c with
  | state =>
    -- reading the state is no operation of the core
    refine ⟨none, ?_, h.b, h.encodableA, h.encodableB⟩
    refine h.a.quiet rfl rfl rfl h.a.link rfl ?_ ?_
    · exact (List.append_nil _).trans h.a.submitted
    · exact (List.append_nil p.a.received).symm ▸ h.a.received
  | submitMsu sio sif =>
    refine hstep (.submitMsu sio sif) rfl (h.a.submitMsu sio sif) ?_
    rintro _ _ he
    cases he
    exact hlong
  | pollTransmit => exact hstep .pollTransmit rfl (h.a.pollTransmit h.encodableA) (by simp)
  | pollEvent => exact hstep .pollEvent rfl h.a.pollEvent (by simp)
  -- these come from the pipe, or before the run
  | start | handleSu | handleCorruptedSu => cases own
  | _ => exact hact rfl rfl (by simp) rfl (by simp) rfl rfl

/-- Each operation on the pipes is one of the pair over units, or none. -/
theorem moveA (h : p.Mirrors q) (op : WireOp) (hlong : op.LongSif) :
    ∃ sop : Option SideOp, (p.moveA op).Mirrors (sop.elim q q.moveA) := by
  -- a unit that leaves the pipe
  have hsent {rest : List (List UInt8)} (hrest : List.Forall₂ Carries rest q.a.out.tail) :
      ({ p.a with out := rest } : PySide).Mirrors q.a.sent :=
    ⟨h.a.link, hrest, h.a.submitted, h.a.received, h.a.raised⟩
  cases op with
  | call c own => exact h.call own hlong
  | lose i =>
    have hlost : List.Forall₂ Carries (p.a.out.eraseIdx i) (q.a.out.eraseIdx i) :=
      forall₂_eraseIdx h.a.out i
    exact ⟨some (.lose i), ⟨h.a.link, hlost, h.a.submitted, h.a.received, h.a.raised⟩, h.b,
      h.encodableA, h.encodableB⟩
  | deliver =>
    have hout := h.a.out
    unfold PyPair.moveA
    cases hp : p.a.out with
    | nil => exact ⟨none, h⟩
    | cons bytes rest =>
      rw [hp] at hout
      cases hq : q.a.out with
      | nil => rw [hq] at hout; cases hout
      | cons su units =>
        rw [hq] at hout hsent
        cases hout with
        | cons hc hrest =>
          refine ⟨some .deliver, ?_⟩
          show PyPair.Mirrors _ (q.moveA .deliver)
          rw [LinkPair.moveA_deliver hq]
          refine ⟨hsent hrest, ?_, h.encodableA, h.encodableB.step (.handleSu su) ?_ (by simp)⟩
          · refine h.b.act h.encodableB ?_ (by simp) ?_ rfl
            · rw [PyCall.op, hc.decode]
            · rw [PyLink.call, PyLink.handleSu_ok hc.decode]
              rfl
          · rintro _ he
            cases he
            exact hc.inRange
  | corrupt =>
    have hout := h.a.out
    unfold PyPair.moveA
    cases hp : p.a.out with
    | nil => exact ⟨none, h⟩
    | cons bytes rest =>
      rw [hp] at hout
      cases hq : q.a.out with
      | nil => rw [hq] at hout; cases hout
      | cons su units =>
        rw [hq] at hout hsent
        cases hout with
        | cons hc hrest =>
          refine ⟨some .corrupt, ?_⟩
          show PyPair.Mirrors _ (q.moveA .corrupt)
          rw [LinkPair.moveA_corrupt hq]
          exact ⟨hsent hrest, h.b.act h.encodableB rfl (by simp) rfl rfl, h.encodableA,
            h.encodableB.step .handleCorruptedSu (by simp) (by simp)⟩

theorem move (h : p.Mirrors q) {op : PyPairOp} (hlong : op.LongSif) :
    ∃ dop : Option DuplexOp, (p.move op).Mirrors (dop.elim q q.move) := by
  cases op with
  | atA op =>
    obtain ⟨sop, h'⟩ := h.moveA op hlong
    refine ⟨sop.map .atA, ?_⟩
    cases sop <;> exact h'
  | atB op =>
    obtain ⟨sop, h'⟩ := h.swap.moveA op hlong
    refine ⟨sop.map .atB, ?_⟩
    cases sop <;> exact h'.swap

/-- **Every run over byte strings is a run over units.** -/
theorem run (h : p.Mirrors q) {ops : List PyPairOp} (hlong : ∀ op ∈ ops, op.LongSif) :
    ∃ dops : List DuplexOp, (ops.foldl PyPair.move p).Mirrors (dops.foldl LinkPair.move q) := by
  induction ops generalizing p q with
  | nil => exact ⟨[], h⟩
  | cons op ops ih =>
    -- a call that reads the state stands for no operation
    obtain ⟨dop, h'⟩ := h.move (hlong op List.mem_cons_self)
    obtain ⟨dops, hrun⟩ := ih h' fun op' hop => hlong op' (List.mem_cons_of_mem _ hop)
    refine ⟨dop.toList ++ dops, ?_⟩
    rw [List.foldl_append]
    cases dop <;> exact hrun

theorem started {la lb : PyLink} {ca cb : Mtp2Config} (ha : la.inner = .new ca)
    (hb : lb.inner = .new cb) : (PyPair.started la lb).Mirrors (.started ca cb) :=
  ⟨.started ha, .started hb, .started ca, .started cb⟩

end PyPair.Mirrors

namespace PyLink

variable {debug : String → String} {method : String} {args : LinkArgs} {l : PyLink}

/-- A link just built holds a link of the core with the configuration of its arguments. -/
theorem new_inner (h : new debug method args = .ok l) :
    ∃ m, (method = "basic" ∧ m = .Basic ∨ method = "pcr" ∧ m = .Pcr ⟨args.pcrN1, args.pcrN2⟩) ∧
      l.inner = .new (config m args) := by
  unfold new at h
  split at h
  · next hm => cases h; exact ⟨.Basic, .inl ⟨hm, rfl⟩, rfl⟩
  split at h
  · next hm => cases h; exact ⟨_, .inr ⟨hm, rfl⟩, rfl⟩
  · cases h

end PyLink

namespace PyPair

variable {debug : String → String} {argsA argsB : LinkArgs} {la lb : PyLink}

/-- **Nothing is lost in translation.** Two Python links started once, whatever their methods and
arguments, and every interleaving of the other calls of their programs, of deliveries, losses and
damage, in which every SIF submitted has two octets at least: a byte string in flight decodes to a
unit that encodes to it, and nothing was ever raised but the error of an MSU that is too large. -/
theorem decodes {methodA methodB : String} (ha : PyLink.new debug methodA argsA = .ok la)
    (hb : PyLink.new debug methodB argsB = .ok lb) (ops : List PyPairOp)
    (hlong : ∀ op ∈ ops, op.LongSif) :
    let p := ops.foldl move (started la lb)
    (∀ bytes ∈ p.a.out ++ p.b.out, ∃ su, decode bytes = .ok (suToPy su) ∧ su.encode = .ok bytes) ∧
      ∀ e ∈ p.a.raised ++ p.b.raised, TooLarge e := by
  obtain ⟨ma, -, hla⟩ := PyLink.new_inner ha
  obtain ⟨mb, -, hlb⟩ := PyLink.new_inner hb
  obtain ⟨dops, h⟩ := (Mirrors.started hla hlb).run hlong
  have hcarried {bytes : List UInt8} {xs : List (List UInt8)} {sus : List SignalUnit}
      (hout : List.Forall₂ Carries xs sus) (hmem : bytes ∈ xs) :
      ∃ su, decode bytes = .ok (suToPy su) ∧ su.encode = .ok bytes := by
    obtain ⟨su, -, hc⟩ := exists_of_mem hout hmem
    refine ⟨su, ?_, hc.encode⟩
    rw [decode, hc.decode]
    rfl
  refine ⟨fun bytes hmem => ?_, fun e he => ?_⟩
  · rcases List.mem_append.mp hmem with hmem | hmem
    · exact hcarried h.a.out hmem
    · exact hcarried h.b.out hmem
  · rcases List.mem_append.mp he with he | he
    · exact h.a.raised e he
    · exact h.b.raised e he

/-- One round of `_step`: both poll, hear each other and tick. -/
def round : List PyPairOp :=
  [.atA (.call .pollTransmit rfl), .atB (.call .pollTransmit rfl), .atA .deliver, .atB .deliver,
    .atA (.call .tick rfl), .atB (.call .tick rfl)]

/-- An MSU one octet too large is refused, and the next is on its way. -/
theorem decodes_oversize :
    let args : LinkArgs := { t4Normal := some 1 }
    let link : PyLink := ⟨.new (PyLink.config .Basic args)⟩
    let ops := round ++ round ++ round ++
      [.atA (.call (.submitMsu 5 (List.replicate 273 7)) rfl),
        .atA (.call (.submitMsu 5 [1, 2]) rfl), .atA (.call .pollTransmit rfl)]
    let p := ops.foldl move (started link link)
    ((∀ bytes ∈ p.a.out ++ p.b.out, ∃ su,
        decode bytes = .ok (suToPy su) ∧ su.encode = .ok bytes) ∧
      ∀ e ∈ p.a.raised ++ p.b.raised, TooLarge e) ∧
    p.a.out = [[255, 128, 3, 5, 1, 2]] ∧ p.a.raised.length = 1 := by
  intro args link ops p
  have hnew : PyLink.new id "basic" args = .ok link := rfl
  exact ⟨decodes hnew hnew ops (by decide +kernel), by decide +kernel⟩

/-- **Under PCR the programs read what was submitted.** With `pcr_n1` within the sequence space,
after every such interleaving, so without a second start: the MSUs a program has read with
`poll_event` are the first MSUs the other has submitted, in order. -/
theorem received_in_order (ha : PyLink.new debug "pcr" argsA = .ok la)
    (hb : PyLink.new debug "pcr" argsB = .ok lb) (hna : argsA.pcrN1 ≤ 127)
    (hnb : argsB.pcrN1 ≤ 127) (ops : List PyPairOp) (hlong : ∀ op ∈ ops, op.LongSif) :
    let p := ops.foldl move (started la lb)
    p.b.received <+: p.a.submitted ∧ p.a.received <+: p.b.submitted := by
  intro p
  have hpcr {args : LinkArgs} {l : PyLink} (hnew : PyLink.new debug "pcr" args = .ok l) :
      l.inner = .new (PyLink.config (.Pcr ⟨args.pcrN1, args.pcrN2⟩) args) := by
    obtain ⟨m, ⟨hm, -⟩ | ⟨-, rfl⟩, hl⟩ := PyLink.new_inner hnew
    · exact absurd hm (by decide)
    · exact hl
  obtain ⟨dops, h⟩ := (Mirrors.started (hpcr ha) (hpcr hb)).run hlong
  have hm (args : LinkArgs) : (PyLink.config (.Pcr ⟨args.pcrN1, args.pcrN2⟩) args).method =
      .Pcr ⟨args.pcrN1, args.pcrN2⟩ := rfl
  obtain ⟨w, v, -, -, hd⟩ := (LinkPair.Duplex.started (hm argsA) (hm argsB)).run hna hnb dops
  -- what was read was delivered, and what was delivered was submitted
  have hread {x y : PySide} {z t : Endpoint} (hx : x.Mirrors z) (hy : y.Mirrors t)
      (hf : Faithful z t) : y.received <+: x.submitted := by
    rw [hx.submitted]
    exact List.IsPrefix.trans ⟨_, hy.received⟩ hf.in_order
  exact ⟨hread h.a h.b hd.ab.faithful, hread h.b h.a hd.ba.faithful⟩

/-- An MSU is lost, the sweep brings it over, and the program reads it after `in_service`. -/
theorem received_in_order_lossy :
    let args : LinkArgs := { pcrN1 := 4, t4Normal := some 1 }
    let link : PyLink := ⟨.new (PyLink.config (.Pcr ⟨4, 8000⟩) args)⟩
    let ops := round ++ round ++ round ++
      [.atA (.call (.submitMsu 5 [1, 2]) rfl), .atA (.call .pollTransmit rfl), .atA (.lose 0),
        .atA (.call .pollTransmit rfl), .atA .deliver, .atB (.call .pollEvent rfl),
        .atB (.call .pollEvent rfl)]
    let p := ops.foldl move (started link link)
    (p.b.received <+: p.a.submitted ∧ p.a.received <+: p.b.submitted) ∧
      p.b.received = [(5, [1, 2])] := by
  intro args link ops p
  have hnew : PyLink.new id "pcr" args = .ok link := rfl
  exact ⟨received_in_order hnew hnew (by decide) (by decide) ops (by decide +kernel),
    by decide +kernel⟩

end PyPair

end Mtp2
