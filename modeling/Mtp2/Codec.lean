import Mtp2.SignalUnit
import Mathlib.Tactic.SplitIfs

/-!
# MTP2 — the codec round trip

What `encode` writes and what `decode` makes of it. `encode` derives the Length Indicator
from the body length and `decode` selects the SU kind by it, so the round trip rests on
the three kinds keeping disjoint indicators. They do not: an MSU whose SIO + SIF is one or
two octets long gets an LSSU's indicator.

* **`encode_eq_ok_iff`** — what an accepted unit is encoded to;
* **`decode_inRange`** — what is accepted has sequence numbers in range;
* **`decode_encode_iff`** — the round trip holds exactly off the short MSUs.
-/

namespace Mtp2

/-! ## Octets -/

/-- A 7-bit value survives the sequence mask. -/
theorem and_seqMask_of_lt {b : UInt8} (h : b < 128) : b &&& 0x7f = b := by
  apply UInt8.toNat_inj.mp
  have hb : b.toNat < 2 ^ 7 := by simpa [UInt8.lt_iff_toNat_lt] using h
  rw [UInt8.toNat_and, show (0x7f : UInt8).toNat = 2 ^ 7 - 1 from rfl,
    Nat.and_two_pow_sub_one_of_lt_two_pow hb]

theorem or_and_mask (x y m : UInt8) : (x ||| y) &&& m = (x &&& m) ||| (y &&& m) :=
  UInt8.toBitVec_inj.mp BitVec.and_or_distrib_right

/-- The sequence mask drops the indicator bit again. -/
theorem seqOctet_and_seqMask (b : UInt8) (i : Bool) :
    ((b &&& 0x7f) ||| (if i then 0x80 else 0)) &&& 0x7f = b &&& 0x7f := by
  have h : b &&& 0x7f &&& 0x7f = b &&& 0x7f := by
    rw [UInt8.and_assoc, show (0x7f &&& 0x7f : UInt8) = 0x7f from rfl]
  have h8 : (0x80 &&& 0x7f : UInt8) = 0 := rfl
  cases i <;> simp [or_and_mask, h, h8]

/-- The indicator mask reads the indicator bit back. -/
theorem seqOctet_and_bitMask (b : UInt8) (i : Bool) :
    (((b &&& 0x7f) ||| (if i then 0x80 else 0)) &&& 0x80 ≠ 0) ↔ i = true := by
  have h : b &&& 0x7f &&& 0x80 = 0 := by
    rw [UInt8.and_assoc, show (0x7f &&& 0x80 : UInt8) = 0 from rfl, UInt8.and_zero]
  cases i <;> simp [or_and_mask, h]

namespace SuHeader

/-- A header is made of 7-bit numbers only. -/
theorem new_eq_ok_iff {bsn fsn : UInt8} {bib fib : Bool} {h : SuHeader} :
    SuHeader.new bsn bib fsn fib = .ok h ↔ (bsn < 128 ∧ fsn < 128) ∧ h = ⟨bsn, bib, fsn, fib⟩ := by
  have hle (b : UInt8) : b.toUInt16 ≥ seqModulus ↔ ¬ b < 128 := by
    simp [seqModulus, UInt8.lt_iff_toNat_lt, UInt16.le_iff_toNat_le]
  simp only [SuHeader.new, hle]
  by_cases h1 : bsn < 128 <;> by_cases h2 : fsn < 128 <;> simp [h1, h2, eq_comm]

/-- The two sequence octets carry an in-range header exactly. -/
theorem decodeSeqOctets_encodeSeqOctets {h : SuHeader} (hr : h.InRange) :
    decodeSeqOctets h.encodeSeqOctets.1 h.encodeSeqOctets.2 = h := by
  obtain ⟨hb, hf⟩ := hr
  simp only [decodeSeqOctets, encodeSeqOctets, seqOctet_and_seqMask, seqOctet_and_bitMask,
    Bool.decide_eq_true]
  rw [and_seqMask_of_lt hb, and_seqMask_of_lt hf]

/-- Whatever the octets, the decoded sequence numbers are 7-bit values. -/
theorem decodeSeqOctets_inRange (b0 b1 : UInt8) : (decodeSeqOctets b0 b1).InRange := by
  have h (b : UInt8) : b &&& 0x7f < 128 := by
    rw [UInt8.lt_iff_toNat_lt, UInt8.toNat_and, show (0x7f : UInt8).toNat = 2 ^ 7 - 1 from rfl,
      Nat.and_two_pow_sub_one_eq_mod]
    exact Nat.mod_lt _ (by decide)
  exact ⟨h b0, h b1⟩

end SuHeader

/-- The spare bits of a status field do not matter. -/
theorem StatusIndication.fromU8_toU8 (s : StatusIndication) : fromU8 (s.toU8 &&& 0x07) = .ok s := by
  cases s <;> rfl

namespace SignalUnit

/-! ## The length indicator -/

/-- The body octets `encode` writes after the three header octets. -/
def bodyOctets : SignalUnit → List UInt8
  | .Fisu _ => []
  | .Lssu _ status extended => (status.toU8 &&& 0x07) :: (if extended then [0] else [])
  | .Msu _ sio sif => sio :: sif

/-- LI counts the octets of the body, up to 63. -/
theorem lengthIndicator_toNat (su : SignalUnit) :
    su.lengthIndicator.toNat = min 63 su.bodyOctets.length := by
  cases su with
  | Fisu h => rfl
  | Lssu h s e => cases e <;> rfl
  | Msu h sio sif =>
    simp only [lengthIndicator, bodyOctets, List.length_cons, show liMax.toNat = 63 from rfl]
    split_ifs with hlong
    · rw [show liMax.toNat = 63 from rfl]; omega
    · rw [UInt8.toNat_ofNat', Nat.mod_eq_of_lt (by omega)]; omega

/-- The indicator fits its six bits, so masking the spare bits off changes nothing. -/
theorem lengthIndicator_and (su : SignalUnit) :
    su.lengthIndicator &&& 0x3f = su.lengthIndicator := by
  apply UInt8.toNat_inj.mp
  have h := su.lengthIndicator_toNat
  rw [UInt8.toNat_and, show (0x3f : UInt8).toNat = 2 ^ 6 - 1 from rfl,
    Nat.and_two_pow_sub_one_of_lt_two_pow (by omega)]

/-! ## What `encode` accepts and writes -/

/-- What encodes, and what it encodes to. -/
theorem encode_eq_ok_iff {su : SignalUnit} {bytes : List UInt8} :
    su.encode = .ok bytes ↔ su.header.InRange ∧ su.bodyOctets.length ≤ maxMsuBody ∧
      bytes = su.header.encodeSeqOctets.1 :: su.header.encodeSeqOctets.2 ::
        su.lengthIndicator :: su.bodyOctets := by
  unfold encode
  by_cases hr : su.header.InRange
  · have hnew : SuHeader.new su.header.bsn su.header.bib su.header.fsn su.header.fib
        = .ok su.header := SuHeader.new_eq_ok_iff.mpr ⟨hr, rfl⟩
    simp only [hnew, bind, Except.bind, lengthIndicator_and, hr, true_and]
    cases su with
    | Fisu h => simp [bodyOctets, eq_comm]
    | Lssu h s e => cases e <;> simp [bodyOctets, maxMsuBody, eq_comm]
    | Msu h sio sif =>
      simp only [bodyOctets, List.length_cons]
      split_ifs with hlong
      · simp; omega
      · simp only [Except.ok.injEq, eq_comm, List.cons_append, List.nil_append]
        exact ⟨fun h => ⟨by omega, h⟩, fun h => h.2⟩
  · cases hnew : SuHeader.new su.header.bsn su.header.bib su.header.fsn su.header.fib with
    | error e =>
      simp only [hnew, bind, Except.bind, hr, false_and, reduceCtorEq]
    | ok h => exact absurd (SuHeader.new_eq_ok_iff.mp hnew).1 hr

/-! ## The round trip -/

/-- An MSU whose SIO + SIF is at most two octets: its Length Indicator is an LSSU's. -/
def ShortMsu : SignalUnit → Prop
  | .Msu _ _ sif => sif.length < 2
  | _ => False

/-- A unit that fits is read back, unless its LI is that of a shorter kind of unit. -/
theorem decode_bodyOctets {su : SignalUnit} (hr : su.header.InRange)
    (hlen : su.bodyOctets.length ≤ maxMsuBody) :
    decode (su.header.encodeSeqOctets.1 :: su.header.encodeSeqOctets.2 ::
      su.lengthIndicator :: su.bodyOctets) = .ok su ↔ ¬ su.ShortMsu := by
  have hli := su.lengthIndicator_toNat
  simp only [decode, lengthIndicator_and, SuHeader.decodeSeqOctets_encodeSeqOctets hr]
  cases su with
  | Fisu h => simp [lengthIndicator, bodyOctets, header, ShortMsu]
  | Lssu h s e =>
    cases e <;> simp [lengthIndicator, bodyOctets, header, ShortMsu, liFisu, liLssuOne, liLssuTwo,
      StatusIndication.fromU8_toU8, bind, Except.bind]
  | Msu h sio sif =>
    set li := (Msu h sio sif).lengthIndicator with hdef
    clear_value li
    simp only [bodyOctets, List.length_cons] at hli hlen
    have hne0 : li ≠ liFisu := fun h0 => by
      rw [h0, show liFisu.toNat = 0 from rfl] at hli; omega
    have hlssu : (li = liLssuOne ∨ li = liLssuTwo) ↔ sif.length < 2 := by
      rw [← UInt8.toNat_inj, ← UInt8.toNat_inj, hli, show liLssuOne.toNat = 1 from rfl,
        show liLssuTwo.toNat = 2 from rfl]
      omega
    have hexact : ¬ (li < liMax ∧ sif.length + 1 ≠ li.toNat) := by
      rw [UInt8.lt_iff_toNat_lt, show liMax.toNat = 63 from rfl]; omega
    have hsat : ¬ (li = liMax ∧ sif.length + 1 < liMax.toNat) := by
      rw [← UInt8.toNat_inj, show liMax.toNat = 63 from rfl]; omega
    simp only [hne0, hlssu, hexact, hsat, bodyOctets, header, ShortMsu, if_false, List.length_cons]
    by_cases hs : sif.length < 2
    · -- the indicator is an LSSU's: whatever comes out, it is not an MSU
      have hl : sif.length + 1 = li.toNat := by omega
      simp only [hs, if_true, not_true_eq_false, iff_false, hl, ne_eq, if_false]
      cases StatusIndication.fromU8 sio <;> simp [bind, Except.bind]
    · simp only [hs, if_false, not_false_eq_true, iff_true]
      rw [if_neg (by omega)]

/-- What is accepted is well formed: the sequence numbers of a decoded unit are 7-bit values. -/
theorem decode_inRange {bytes : List UInt8} {su : SignalUnit} (h : decode bytes = .ok su) :
    su.header.InRange := by
  unfold decode at h
  split at h
  · next b0 b1 b2 body =>
    suffices hsu : su.header = SuHeader.decodeSeqOctets b0 b1 by
      rw [hsu]
      exact SuHeader.decodeSeqOctets_inRange b0 b1
    cases body with
    | nil =>
      dsimp only at h
      split_ifs at h
      cases h; rfl
    | cons s0 rest =>
      simp only [reduceCtorEq, if_false] at h
      split_ifs at h
      · -- an LSSU, if its status indication is one
        cases hs : StatusIndication.fromU8 s0 with
        | error e => rw [hs] at h; cases h
        | ok status => rw [hs] at h; cases h; rfl
      · cases h; rfl
  · cases h

/-- **The codec round trip.** An encoded unit decodes to itself exactly when it is not an
MSU with a SIO + SIF of one or two octets. -/
theorem decode_encode_iff {su : SignalUnit} {bytes : List UInt8} (h : su.encode = .ok bytes) :
    decode bytes = .ok su ↔ ¬ su.ShortMsu := by
  obtain ⟨hr, hlen, rfl⟩ := encode_eq_ok_iff.mp h
  exact decode_bodyOctets hr hlen

theorem decode_encode_iff_msu : decode [0x85, 0x86, 0x04, 0x83, 0x01, 0x02, 0x03]
      = .ok (.Msu ⟨5, true, 6, true⟩ 0x83 [1, 2, 3])
    ↔ ¬ (Msu ⟨5, true, 6, true⟩ 0x83 [1, 2, 3]).ShortMsu :=
  decode_encode_iff (show SignalUnit.encode (.Msu ⟨5, true, 6, true⟩ 0x83 [1, 2, 3]) = _ from rfl)

/-- An MSU with an empty SIF reaches the peer as an LSSU carrying SIOS. -/
theorem decode_encode_emptySif :
    ¬ ∀ su bytes, SignalUnit.encode su = .ok bytes → decode bytes = .ok su := by
  intro h
  have := h (.Msu ⟨5, true, 6, true⟩ 0x83 []) [0x85, 0x86, 0x01, 0x83] rfl
  exact absurd this (by decide)

end SignalUnit

end Mtp2
