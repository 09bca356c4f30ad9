import Mtp2.SignalUnit
import Mathlib.Data.List.TakeWhile

/-!
# MTP2 — error correction (`src/retransmission.rs`)

`TxControl` assigns FSNs and owns the retransmission buffer; `RxControl` checks sequence
and drives BSN / BIB. Both error-correction methods of Q.703 §5 share the receive side and
the positive acknowledgement, and differ in what `poll` sends when a buffer is outstanding:

* **Basic** — the buffer is retransmitted once, from `basicCursor`, after a negative
  acknowledgement;
* **PCR** — the buffer is retransmitted cyclically, from `pcrCursor`, whenever no new MSU
  may go out.

Queues are lists with the front at the head. Buffer indices are guarded where the source
guards them, and each read carries the proof that it is in range.
-/

namespace Mtp2

/-! ## Sequence-number arithmetic -/

/-- Half the sequence space; used for the "is a ahead of b" comparison. -/
def seqHalf : UInt16 := seqModulus / 2

/-- `(a + b) mod 128`. -/
def seqAdd (a b : UInt8) : UInt8 := ((a.toUInt16 + b.toUInt16) % seqModulus).toUInt8

/-- `(a - b) mod 128` — the forward distance from `b` to `a`. The subtraction is on `u16`
and wraps when `b` exceeds `a + 128`. -/
def seqForward (a b : UInt8) : UInt8 :=
  ((a.toUInt16 + seqModulus - b.toUInt16) % seqModulus).toUInt8

/-- Sequence arithmetic is modulo 128. -/
theorem seqAdd_toNat (a b : UInt8) : (seqAdd a b).toNat = (a.toNat + b.toNat) % 128 := by
  have ha := a.toNat_lt
  have hb := b.toNat_lt
  simp only [seqAdd, seqModulus, UInt16.toNat_toUInt8, UInt16.toNat_mod, UInt16.toNat_add,
    UInt8.toNat_toUInt16, show (128 : UInt16).toNat = 128 from rfl]
  omega

/-- The forward distance, also across the wrap. -/
theorem seqForward_toNat (a b : UInt8) :
    (seqForward a b).toNat = (a.toNat + 256 - b.toNat) % 128 := by
  have ha := a.toNat_lt
  have hb := b.toNat_lt
  simp only [seqForward, seqModulus, UInt16.toNat_toUInt8, UInt16.toNat_mod, UInt16.toNat_sub,
    UInt16.toNat_add, UInt8.toNat_toUInt16, show (128 : UInt16).toNat = 128 from rfl]
  omega

theorem toUInt16_lt_seqHalf {d : UInt8} : d.toUInt16 < seqHalf ↔ d.toNat < 64 := by
  rw [UInt16.lt_iff_toNat_lt, UInt8.toNat_toUInt16]
  rfl

/-! ## Methods, MSUs and frames -/

/-- PCR forced-retransmission thresholds: MSUs (`n1`) and octets (`n2`). -/
structure PcrParams where
  n1 : Nat
  n2 : Nat
  deriving Repr, DecidableEq

instance : Inhabited PcrParams := ⟨{ n1 := 127, n2 := 8000 }⟩

/-- The error-correction method a link runs. -/
inductive RetransmissionMethod where
  | Basic
  | Pcr (params : PcrParams)
  deriving Repr, DecidableEq

/-- An MSU as MTP3 hands it over: SIO and SIF. -/
abbrev Payload := UInt8 × List UInt8

/-- One MSU held in the retransmission buffer with the FSN it was sent under. -/
structure BufferedMsu where
  fsn : UInt8
  sio : UInt8
  sif : List UInt8
  deriving Repr, DecidableEq

def BufferedMsu.payload (m : BufferedMsu) : Payload := (m.sio, m.sif)

/-- The body of a frame the transmitter wants to put on the link. -/
inductive TxBody where
  | Fisu
  | Msu (sio : UInt8) (sif : List UInt8)
  deriving Repr, DecidableEq

/-- A frame of the transmit side: the forward fields plus a body. -/
structure TxFrame where
  fsn : UInt8
  fib : Bool
  body : TxBody
  deriving Repr, DecidableEq

/-! ## Transmit side -/

/-- FSN assignment, the retransmission buffer, and the cursors into it. -/
structure TxControl where
  method : RetransmissionMethod
  /-- FSN of the most recently assigned MSU. -/
  lastFsn : UInt8
  fib : Bool
  /-- New MSUs awaiting their first transmission. -/
  pending : List Payload
  /-- Transmitted but unacknowledged MSUs. -/
  unacked : List BufferedMsu
  /-- Basic: index of the next MSU to retransmit after a negative acknowledgement. -/
  basicCursor : Option Nat
  /-- PCR: cursor of the cyclic retransmission. -/
  pcrCursor : Nat
  lastAcked : UInt8
  deriving Repr, DecidableEq

namespace TxControl

/-- Q.703 initial sequence state: FSN 127, FIB 1. -/
def new (method : RetransmissionMethod) : TxControl where
  method := method
  lastFsn := (seqModulus - 1).toUInt8
  fib := true
  pending := []
  unacked := []
  basicCursor := none
  pcrCursor := 0
  lastAcked := (seqModulus - 1).toUInt8

/-- Queue a new MSU for transmission. -/
def submit (t : TxControl) (sio : UInt8) (sif : List UInt8) : TxControl :=
  { t with pending := t.pending ++ [(sio, sif)] }

def unackedLen (t : TxControl) : Nat := t.unacked.length

/-- Total octets currently unacknowledged (for the PCR N2 threshold). -/
def unackedOctets (t : TxControl) : Nat := (t.unacked.map fun m => 1 + m.sif.length).sum

/-- The frame that sends a buffered MSU again. -/
def resend (t : TxControl) (m : BufferedMsu) : TxFrame := ⟨m.fsn, t.fib, .Msu m.sio m.sif⟩

/-- The FISU carrying the current FSN / FIB. -/
def fill (t : TxControl) : TxFrame := ⟨t.lastFsn, t.fib, .Fisu⟩

/-- Assign the next FSN to the MSU popped off `pending` and buffer it. -/
def number (t : TxControl) (sio : UInt8) (sif : List UInt8) (pending : List Payload) : TxControl :=
  let fsn := seqAdd t.lastFsn 1
  { t with lastFsn := fsn, pending := pending, unacked := t.unacked ++ [⟨fsn, sio, sif⟩] }

/-- Steps 2 and 3 of `poll_basic`: a new MSU if one is waiting, else a FISU. -/
def pollNew (t : TxControl) : TxFrame × TxControl :=
  match t.pending with
  | (sio, sif) :: rest => (⟨seqAdd t.lastFsn 1, t.fib, .Msu sio sif⟩, t.number sio sif rest)
  | [] => (t.fill, t)

def pollBasic (t : TxControl) : TxFrame × TxControl :=
  match t.basicCursor with
  | some cursor =>
    if h : cursor < t.unacked.length then
      (t.resend t.unacked[cursor], { t with basicCursor := some (cursor + 1) })
    else
      -- buffer fully retransmitted; resume normal transmission
      { t with basicCursor := none }.pollNew
  | none => t.pollNew

/-- PCR forced retransmission: the backlog has reached `N1` MSUs or `N2` octets. -/
def forced (t : TxControl) (params : PcrParams) : Bool :=
  t.unacked.length ≥ params.n1 ∨ t.unackedOctets ≥ params.n2

/-- The cyclic cursor, wrapped when it has run off the buffer. -/
def wrappedCursor (t : TxControl) : Nat :=
  if t.pcrCursor ≥ t.unacked.length then 0 else t.pcrCursor

/-- Over a buffer that is not empty the cursor points at an entry. -/
theorem wrappedCursor_lt {t : TxControl} (h : t.unacked ≠ []) :
    t.wrappedCursor < t.unacked.length := by
  have := List.length_pos_iff.mpr h
  unfold wrappedCursor
  split <;> omega

/-- The tail of `poll_pcr`: cyclic retransmission, or a FISU when nothing is outstanding. -/
def pollCyclic (t : TxControl) : TxFrame × TxControl :=
  if h : t.unacked = [] then (t.fill, t)
  else
    have := wrappedCursor_lt h
    (t.resend t.unacked[t.wrappedCursor], { t with pcrCursor := t.wrappedCursor + 1 })

def pollPcr (t : TxControl) (params : PcrParams) : TxFrame × TxControl :=
  -- past N1 / N2 new MSUs are held back until the peer acknowledges
  if t.forced params then t.pollCyclic
  else
    match t.pending with
    | (sio, sif) :: rest =>
      -- a fresh MSU restarts the cyclic sweep from the buffer head
      (⟨seqAdd t.lastFsn 1, t.fib, .Msu sio sif⟩, { t.number sio sif rest with pcrCursor := 0 })
    | [] => t.pollCyclic

/-- Decide the next frame to transmit: a FISU when there is nothing else to send. -/
def poll (t : TxControl) : TxFrame × TxControl :=
  match t.method with
  | .Basic => t.pollBasic
  | .Pcr params => t.pollPcr params

/-- The buffer index `poll_basic` reads, when it is in a retransmission round. -/
def basicIndex (t : TxControl) : Option Nat := t.basicCursor.filter (· < t.unacked.length)

/-- The buffer index `poll_pcr` reads, when no new MSU may go out. -/
def pcrIndex (t : TxControl) (params : PcrParams) : Option Nat :=
  if (t.forced params = true ∨ t.pending = []) ∧ t.unacked ≠ [] then some t.wrappedCursor else none

/-- The buffer index `poll` reads, if it reads one. -/
def pollIndex (t : TxControl) : Option Nat :=
  match t.method with
  | .Basic => t.basicIndex
  | .Pcr params => t.pcrIndex params

/-- `bsn` is at or ahead of the buffered `fsn`: the comparison of `on_ack`. -/
def acknowledges (bsn fsn : UInt8) : Bool := (seqForward bsn fsn).toUInt16 < seqHalf

/-- The MSUs the `while` loop of `on_ack` pops off the buffer, in removal order. -/
def freedBy (t : TxControl) (bsn : UInt8) : List BufferedMsu :=
  t.unacked.takeWhile fun m => acknowledges bsn m.fsn

/-- The positive half of `on_ack`: drop every buffered MSU at or before BSN. -/
def freeAcked (t : TxControl) (bsn : UInt8) : TxControl :=
  if t.freedBy bsn = [] then t
  else
    { t with
      unacked := t.unacked.dropWhile fun m => acknowledges bsn m.fsn
      lastAcked := bsn
      pcrCursor := 0
      -- the buffer shrank from the front; `cursor.saturating_sub(1)`
      basicCursor := t.basicCursor.map (· - 1) }

/-- The negative half of `on_ack`, Basic method only: a BIB that differs from the FIB. -/
def nackBy (t : TxControl) (bib : Bool) : TxControl :=
  match t.method with
  | .Basic =>
    -- echo the requested FIB and start over at the head of the buffer
    if bib ≠ t.fib then
      { t with fib := bib, basicCursor := if t.unacked = [] then t.basicCursor else some 0 }
    else t
  | .Pcr _ => t

/-- Apply the peer's acknowledgement carried in every received SU. -/
def onAck (t : TxControl) (bsn : UInt8) (bib : Bool) : TxControl := (t.freeAcked bsn).nackBy bib

end TxControl

/-! ## Receive side -/

/-- The receive side's decision about a signal unit. -/
inductive RxOutcome where
  | Accepted (sio : UInt8) (sif : List UInt8)
  | Discarded
  | RetransmissionRequested
  deriving Repr, DecidableEq

/-- The sequence check, and the BSN / BIB echoed back to the peer. -/
structure RxControl where
  method : RetransmissionMethod
  /-- FSN of the last accepted MSU. -/
  lastReceived : UInt8
  bib : Bool
  /-- Basic: a gap is outstanding and the BIB is already toggled. -/
  nackPending : Bool
  deriving Repr, DecidableEq

namespace RxControl

/-- Q.703 initial sequence state: BSN 127, BIB 1. -/
def new (method : RetransmissionMethod) : RxControl where
  method := method
  lastReceived := (seqModulus - 1).toUInt8
  bib := true
  nackPending := false

/-- The BSN of outgoing SUs: the FSN of the last accepted MSU. -/
def bsn (r : RxControl) : UInt8 := r.lastReceived

/-- Process a received MSU's FSN and payload. -/
def onMsu (r : RxControl) (fsn sio : UInt8) (sif : List UInt8) : RxOutcome × RxControl :=
  let dist := seqForward fsn r.lastReceived
  -- next in sequence: accept and clear any outstanding gap
  if dist = 1 then (.Accepted sio sif, { r with lastReceived := fsn, nackPending := false })
  else
    let isGap : Bool := dist.toUInt16 < seqHalf
    match r.method, isGap with
    | .Basic, true =>
      -- the BIB toggles once a gap
      if r.nackPending then (.RetransmissionRequested, r)
      else (.RetransmissionRequested, { r with bib := !r.bib, nackPending := true })
    -- duplicates under either method, and any out-of-sequence SU under PCR
    | _, _ => (.Discarded, r)

end RxControl

end Mtp2
