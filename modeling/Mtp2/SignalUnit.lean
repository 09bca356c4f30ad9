import Mathlib.Algebra.Order.Ring.Nat
import Mathlib.Data.List.Basic

/-!
# MTP2 — signal-unit framing (`src/signal_unit.rs`, `src/error.rs`)

The three signal units of Q.703 §2 — FISU, LSSU and MSU — with the header octet
layout, the status indications and the `encode` / `decode` pair. A signal unit is the
content *between* the flags and *before* the check bits: three header octets, then the
status field (LSSU) or SIO + SIF (MSU).

```text
 octet 0:  B B B B B B B  | I      BSN (bits 1-7)  + BIB (bit 8)
 octet 1:  F F F F F F F  | I      FSN (bits 1-7)  + FIB (bit 8)
 octet 2:  L L L L L L  | s s      LI  (bits 1-6)  + 2 spare bits
```

Octets are `UInt8`, a byte string is a `List UInt8`, and every `Result` of the source is
an `Except Mtp2Error`.
-/

namespace Mtp2

/-- Maximum MSU body (SIO + SIF) a link carries, in octets. -/
def maxMsuBody : Nat := 273

/-- Errors of framing and parsing signal units. -/
inductive Mtp2Error where
  | tooShort (expected actual : Nat)
  | lengthIndicatorMismatch (li : UInt8) (octets : Nat)
  | invalidStatusIndication (code : UInt8)
  | sequenceNumberOutOfRange (seq : UInt16)
  | msuTooLarge (octets : Nat)
  deriving Repr, DecidableEq

/-- The text `thiserror` derives for each error. -/
def Mtp2Error.message : Mtp2Error → String
  | .tooShort expected actual =>
    s!"signal unit too short: expected at least {expected} octets, got {actual}"
  | .lengthIndicatorMismatch li octets =>
    s!"length indicator {li} inconsistent with a {octets}-octet body"
  | .invalidStatusIndication code => s!"invalid status indication: {code}"
  | .sequenceNumberOutOfRange seq => s!"sequence number {seq} out of range (must be 0..=127)"
  | .msuTooLarge octets =>
    s!"message signal unit body too large: {octets} octets (max {maxMsuBody})"

/-- LI value of a FISU. -/
def liFisu : UInt8 := 0
/-- LI value of a one-octet LSSU. -/
def liLssuOne : UInt8 := 1
/-- LI value of a two-octet LSSU. -/
def liLssuTwo : UInt8 := 2
/-- Largest value of the 6-bit Length Indicator; also the saturating LI of a long MSU. -/
def liMax : UInt8 := 63
/-- Size of the 7-bit sequence-number space. -/
def seqModulus : UInt16 := 128

/-! ## Status indications -/

/-- The six status indications carried in an LSSU. -/
inductive StatusIndication where
  /-- SIO. -/
  | OutOfAlignment
  /-- SIN. -/
  | NormalAlignment
  /-- SIE. -/
  | EmergencyAlignment
  /-- SIOS. -/
  | OutOfService
  /-- SIPO. -/
  | ProcessorOutage
  /-- SIB. -/
  | Busy
  deriving Repr, DecidableEq

namespace StatusIndication

/-- The discriminant (`status as u8`). -/
def toU8 : StatusIndication → UInt8
  | OutOfAlignment => 0
  | NormalAlignment => 1
  | EmergencyAlignment => 2
  | OutOfService => 3
  | ProcessorOutage => 4
  | Busy => 5

/-- Parse the 3-bit status code from an LSSU status octet. -/
def fromU8 (value : UInt8) : Except Mtp2Error StatusIndication :=
  match value &&& 0x07 with
  | 0 => .ok OutOfAlignment
  | 1 => .ok NormalAlignment
  | 2 => .ok EmergencyAlignment
  | 3 => .ok OutOfService
  | 4 => .ok ProcessorOutage
  | 5 => .ok Busy
  | other => .error (.invalidStatusIndication other)

end StatusIndication

/-! ## The header -/

/-- The two sequence numbers with their indicator bits. -/
structure SuHeader where
  bsn : UInt8
  bib : Bool
  fsn : UInt8
  fib : Bool
  deriving Repr, DecidableEq

namespace SuHeader

/-- Build a header, validating that both sequence numbers fit the 7-bit field. -/
def new (bsn : UInt8) (bib : Bool) (fsn : UInt8) (fib : Bool) : Except Mtp2Error SuHeader :=
  if bsn.toUInt16 ≥ seqModulus then .error (.sequenceNumberOutOfRange bsn.toUInt16)
  else if fsn.toUInt16 ≥ seqModulus then .error (.sequenceNumberOutOfRange fsn.toUInt16)
  else .ok ⟨bsn, bib, fsn, fib⟩

/-- The two header sequence octets (BSN+BIB, FSN+FIB). -/
def encodeSeqOctets (h : SuHeader) : UInt8 × UInt8 :=
  ((h.bsn &&& 0x7f) ||| (if h.bib then 0x80 else 0),
   (h.fsn &&& 0x7f) ||| (if h.fib then 0x80 else 0))

/-- BSN/BIB/FSN/FIB from the first two header octets. -/
def decodeSeqOctets (b0 b1 : UInt8) : SuHeader where
  bsn := b0 &&& 0x7f
  bib := b0 &&& 0x80 ≠ 0
  fsn := b1 &&& 0x7f
  fib := b1 &&& 0x80 ≠ 0

/-- Both sequence numbers fit their 7-bit fields: what `new` checks and `decodeSeqOctets`
guarantees. -/
def InRange (h : SuHeader) : Prop := h.bsn < 128 ∧ h.fsn < 128

instance (h : SuHeader) : Decidable h.InRange := inferInstanceAs (Decidable (_ ∧ _))

end SuHeader

/-! ## Signal units -/

/-- The FISU / LSSU / MSU triad. -/
inductive SignalUnit where
  | Fisu (header : SuHeader)
  | Lssu (header : SuHeader) (status : StatusIndication) (extended : Bool)
  | Msu (header : SuHeader) (sio : UInt8) (sif : List UInt8)
  deriving Repr, DecidableEq

namespace SignalUnit

/-- A FISU with the given acknowledgement header. -/
def fisu (header : SuHeader) : SignalUnit := .Fisu header

/-- A one-octet LSSU carrying `status`. -/
def lssu (header : SuHeader) (status : StatusIndication) : SignalUnit := .Lssu header status false

/-- An MSU, validating SIO + SIF against the link maximum. -/
def msu (header : SuHeader) (sio : UInt8) (sif : List UInt8) : Except Mtp2Error SignalUnit :=
  let body := 1 + sif.length
  if body > maxMsuBody then .error (.msuTooLarge body) else .ok (.Msu header sio sif)

/-- The common header of any SU. -/
def header : SignalUnit → SuHeader
  | .Fisu header => header
  | .Lssu header _ _ => header
  | .Msu header _ _ => header

/-- The Length Indicator this SU encodes to; it saturates at `liMax` for a long MSU. -/
def lengthIndicator : SignalUnit → UInt8
  | .Fisu _ => liFisu
  | .Lssu _ _ extended => if extended then liLssuTwo else liLssuOne
  | .Msu _ _ sif =>
    let body := 1 + sif.length
    if body ≥ liMax.toNat then liMax else UInt8.ofNat body

/-- Serialise the SU to its on-link content (header + body). -/
def encode (su : SignalUnit) : Except Mtp2Error (List UInt8) := do
  let header := su.header
  -- a hand-built header can't smuggle an out-of-range value onto the wire
  let _ ← SuHeader.new header.bsn header.bib header.fsn header.fib
  let seq := header.encodeSeqOctets
  let out := [seq.1, seq.2, su.lengthIndicator &&& 0x3f]
  match su with
  | .Fisu _ => .ok out
  | .Lssu _ status extended =>
    .ok (out ++ (status.toU8 &&& 0x07) :: (if extended then [0] else []))
  | .Msu _ sio sif =>
    let body := 1 + sif.length
    if body > maxMsuBody then .error (.msuTooLarge body) else .ok (out ++ sio :: sif)

/-- Parse an SU from its on-link content (header + body). -/
def decode (bytes : List UInt8) : Except Mtp2Error SignalUnit :=
  match bytes with
  | b0 :: b1 :: b2 :: body =>
    let header := SuHeader.decodeSeqOctets b0 b1
    let li := b2 &&& 0x3f
    if li = liFisu then
      if body = [] then .ok (.Fisu header)
      else .error (.lengthIndicatorMismatch li body.length)
    else if li = liLssuOne ∨ li = liLssuTwo then
      match body with
      | s0 :: _ =>
        if body.length ≠ li.toNat then .error (.lengthIndicatorMismatch li body.length)
        else do
          let status ← StatusIndication.fromU8 s0
          .ok (.Lssu header status (li = liLssuTwo))
      | [] => .error (.lengthIndicatorMismatch li 0)
    else
      match body with
      | sio :: sif =>
        if li < liMax ∧ body.length ≠ li.toNat then
          .error (.lengthIndicatorMismatch li body.length)
        -- at 63 the indicator saturates and the frame delimiter gives the length
        else if li = liMax ∧ body.length < liMax.toNat then
          .error (.lengthIndicatorMismatch li body.length)
        else
          let total := 1 + sif.length
          if total > maxMsuBody then .error (.msuTooLarge total)
          else .ok (.Msu header sio sif)
      | [] => .error (.tooShort 4 bytes.length)
  | _ => .error (.tooShort 3 bytes.length)

end SignalUnit

end Mtp2
