import Mtp2.Codec
import Mathlib.Data.Nat.Bitwise

/-!
# MTP2 — the format `decode` accepts

`WellFormed` describes the accepted byte strings by their Length Indicator, their length and
the status code of an LSSU. `decode` reads nothing else but drops what it does not read: the
spare bits, the high bits of the status octet and the second status octet.

* **`decode_eq_ok_iff`** — what `decode` makes of a header and a body;
* **`encode_of_decode`** — `encode` inverts `decode` up to the spare bits.
-/

namespace Mtp2

/-! ## Octets -/

theorem UInt8.and_mask_toNat {b m : UInt8} {n : ℕ} (hm : m.toNat = 2 ^ n - 1) :
    (b &&& m).toNat = b.toNat % 2 ^ n := by
  rw [UInt8.toNat_and, hm, Nat.and_two_pow_sub_one_eq_mod]

namespace SuHeader

/-- An octet is its sequence number and its indicator bit. -/
theorem seqOctet_eta (b : UInt8) :
    (b &&& 0x7f) ||| (if b &&& 0x80 ≠ 0 then 0x80 else 0) = b := by
  have hbit : b &&& 0x80 = if b &&& 0x80 ≠ 0 then 0x80 else 0 := by
    split
    · next hne =>
      -- the indicator mask has one bit
      have h : (b &&& 0x80).toNat = (b.toNat.testBit 7).toNat * 2 ^ 7 := by
        rw [UInt8.toNat_and, show (0x80 : UInt8).toNat = 2 ^ 7 from rfl, Nat.and_two_pow]
      rw [ne_eq, ← UInt8.toNat_inj, h] at hne
      apply UInt8.toNat_inj.mp
      rw [h]
      cases hb : b.toNat.testBit 7 with
      | true => rfl
      | false => rw [hb] at hne; exact absurd rfl hne
    · next heq => exact not_not.mp heq
  rw [← hbit]
  apply UInt8.toNat_inj.mp
  rw [UInt8.toNat_or, UInt8.toNat_and, UInt8.toNat_and, ← Nat.and_or_distrib_left]
  exact Nat.and_two_pow_sub_one_of_lt_two_pow (n := 8) b.toNat_lt

/-- Encoding the decoded sequence octets gives them back. -/
theorem encodeSeqOctets_decodeSeqOctets (b0 b1 : UInt8) :
    (decodeSeqOctets b0 b1).encodeSeqOctets = (b0, b1) := by
  have hmask (b : UInt8) : b &&& 0x7f &&& 0x7f = b &&& 0x7f := by
    rw [UInt8.and_assoc, show (0x7f &&& 0x7f : UInt8) = 0x7f from rfl]
  have heta (b : UInt8) : (b &&& 0x7f &&& 0x7f) |||
      (if decide (b &&& 0x80 ≠ 0) = true then 0x80 else 0) = b := by
    rw [hmask]
    simp only [decide_eq_true_eq]
    exact seqOctet_eta b
  rw [encodeSeqOctets, decodeSeqOctets]
  exact Prod.ext (heta b0) (heta b1)

end SuHeader

/-- The status code is the low three bits of the status octet. -/
theorem StatusIndication.fromU8_eq_ok_iff {s : UInt8} {status : StatusIndication} :
    fromU8 s = .ok status ↔ s &&& 0x07 = status.toU8 := by
  unfold fromU8
  generalize s &&& 0x07 = code
  constructor
  · intro h
    split at h <;> cases h <;> rfl
  · rintro rfl
    cases status <;> rfl

/-- Six of the eight codes are status indications. -/
theorem StatusIndication.fromU8_isOk_iff {s : UInt8} :
    (∃ status, fromU8 s = .ok status) ↔ s.toNat % 8 ≤ 5 := by
  have hcode : (s &&& 0x07).toNat = s.toNat % 8 := UInt8.and_mask_toNat (n := 3) rfl
  rw [← hcode]
  simp only [fromU8_eq_ok_iff]
  generalize s &&& 0x07 = code at hcode
  constructor
  · rintro ⟨status, rfl⟩
    cases status <;> decide
  · intro hle
    have hcases : code = 0 ∨ code = 1 ∨ code = 2 ∨ code = 3 ∨ code = 4 ∨ code = 5 := by
      simp only [← UInt8.toNat_inj]
      simp only [UInt8.reduceToNat]
      omega
    rcases hcases with rfl | rfl | rfl | rfl | rfl | rfl
    · exact ⟨.OutOfAlignment, rfl⟩
    · exact ⟨.NormalAlignment, rfl⟩
    · exact ⟨.EmergencyAlignment, rfl⟩
    · exact ⟨.OutOfService, rfl⟩
    · exact ⟨.ProcessorOutage, rfl⟩
    · exact ⟨.Busy, rfl⟩

namespace SignalUnit

/-! ## What `decode` makes of a body -/

/-- The unit a Length Indicator, a header and a body stand for. -/
inductive Parsed (li : UInt8) (header : SuHeader) : List UInt8 → SignalUnit → Prop where
  | fisu (hli : li.toNat = 0) : Parsed li header [] (.Fisu header)
  | lssu {s0 : UInt8} {rest : List UInt8} {status : StatusIndication}
      (hli : li.toNat = 1 ∨ li.toNat = 2) (hlen : rest.length + 1 = li.toNat)
      (hs : StatusIndication.fromU8 s0 = .ok status) :
      Parsed li header (s0 :: rest) (.Lssu header status (li = liLssuTwo))
  | msu {sio : UInt8} {sif : List UInt8} (hli : 3 ≤ li.toNat)
      (hlen : li.toNat < 63 ∧ sif.length + 1 = li.toNat ∨
        li.toNat = 63 ∧ 63 ≤ sif.length + 1 ∧ sif.length + 1 ≤ maxMsuBody) :
      Parsed li header (sio :: sif) (.Msu header sio sif)

namespace Parsed

variable {li : UInt8} {header : SuHeader} {body : List UInt8} {su : SignalUnit}

/-- LI 0: an empty body. -/
theorem fisu_iff (hli : li.toNat = 0) :
    Parsed li header body su ↔ body = [] ∧ su = .Fisu header := by
  refine ⟨fun h => ?_, ?_⟩
  · cases h with
    | fisu _ => exact ⟨rfl, rfl⟩
    | lssu h _ _ | msu h _ => omega
  · rintro ⟨rfl, rfl⟩
    exact .fisu hli

/-- LI 1 and 2: a status field, and an octet that is not looked at. -/
theorem lssu_iff (hli : li.toNat = 1 ∨ li.toNat = 2) :
    Parsed li header body su ↔ body.length = li.toNat ∧ ∃ s0 status, body.head? = some s0 ∧
      StatusIndication.fromU8 s0 = .ok status ∧ su = .Lssu header status (li = liLssuTwo) := by
  refine ⟨fun h => ?_, ?_⟩
  · cases h with
    | fisu h | msu h _ => omega
    | lssu _ hlen hs => exact ⟨hlen, _, _, rfl, hs, rfl⟩
  · rintro ⟨hlen, s0, status, hhead, hs, rfl⟩
    cases body with
    | nil => cases hhead
    | cons s rest =>
      cases hhead
      exact .lssu hli hlen hs

/-- LI from 3 on: the octets LI counts, or any number from 63 on if it says 63. -/
theorem msu_iff (hli : 3 ≤ li.toNat) :
    Parsed li header body su ↔ ∃ sio sif, body = sio :: sif ∧ su = .Msu header sio sif ∧
      (li.toNat < 63 ∧ sif.length + 1 = li.toNat ∨
        li.toNat = 63 ∧ 63 ≤ sif.length + 1 ∧ sif.length + 1 ≤ maxMsuBody) := by
  refine ⟨fun h => ?_, ?_⟩
  · cases h with
    | fisu h | lssu h _ _ => omega
    | msu _ hlen => exact ⟨_, _, rfl, rfl, hlen⟩
  · rintro ⟨sio, sif, rfl, rfl, hlen⟩
    exact .msu hli hlen

end Parsed

section

variable {b0 b1 b2 : UInt8} {body : List UInt8} {su : SignalUnit}

theorem eq_liFisu_iff {li : UInt8} : li = liFisu ↔ li.toNat = 0 := by
  rw [← UInt8.toNat_inj]; rfl

theorem eq_liLssu_iff {li : UInt8} :
    li = liLssuOne ∨ li = liLssuTwo ↔ li.toNat = 1 ∨ li.toNat = 2 := by
  rw [← UInt8.toNat_inj, ← UInt8.toNat_inj]; rfl

/-- The decoder on LI 0. -/
theorem decode_fisu_iff (hli : (b2 &&& 0x3f).toNat = 0) :
    decode (b0 :: b1 :: b2 :: body) = .ok su ↔
      body = [] ∧ su = .Fisu (SuHeader.decodeSeqOctets b0 b1) := by
  unfold decode
  dsimp only
  rw [if_pos (eq_liFisu_iff.mpr hli)]
  by_cases hnil : body = []
  · rw [if_pos hnil, Except.ok.injEq, eq_comm]
    exact (and_iff_right hnil).symm
  · rw [if_neg hnil]
    exact ⟨nofun, fun h => absurd h.1 hnil⟩

/-- The decoder on LI 1 and 2. -/
theorem decode_lssu_iff (hli : (b2 &&& 0x3f).toNat = 1 ∨ (b2 &&& 0x3f).toNat = 2) :
    decode (b0 :: b1 :: b2 :: body) = .ok su ↔
      body.length = (b2 &&& 0x3f).toNat ∧ ∃ s0 status, body.head? = some s0 ∧
        StatusIndication.fromU8 s0 = .ok status ∧
        su = .Lssu (SuHeader.decodeSeqOctets b0 b1) status (b2 &&& 0x3f = liLssuTwo) := by
  unfold decode
  dsimp only
  generalize b2 &&& 0x3f = li at hli ⊢
  rw [if_neg (mt eq_liFisu_iff.mp (by omega)), if_pos (eq_liLssu_iff.mpr hli)]
  cases body with
  | nil => exact ⟨nofun, fun ⟨hlen, _⟩ => by rw [List.length_nil] at hlen; omega⟩
  | cons s0 rest =>
    dsimp only
    by_cases hlen : (s0 :: rest).length = li.toNat
    · rw [if_neg (not_not_intro hlen), and_iff_right hlen]
      cases hs : StatusIndication.fromU8 s0 with
      | error e =>
        refine ⟨nofun, ?_⟩
        rintro ⟨s, status, hhead, hs', -⟩
        cases hhead
        rw [hs] at hs'; cases hs'
      | ok status =>
        refine ⟨fun h => ⟨s0, status, rfl, hs, ?_⟩, ?_⟩
        · cases h; rfl
        · rintro ⟨s, status', hhead, hs', rfl⟩
          cases hhead
          rw [hs] at hs'; cases hs'; rfl
    · rw [if_pos hlen]
      exact ⟨nofun, fun h => absurd h.1 hlen⟩

/-- The decoder on LI from 3 on. -/
theorem decode_msu_iff (hli : 3 ≤ (b2 &&& 0x3f).toNat) (hlt : (b2 &&& 0x3f).toNat < 64) :
    decode (b0 :: b1 :: b2 :: body) = .ok su ↔
      ∃ sio sif, body = sio :: sif ∧ su = .Msu (SuHeader.decodeSeqOctets b0 b1) sio sif ∧
        ((b2 &&& 0x3f).toNat < 63 ∧ sif.length + 1 = (b2 &&& 0x3f).toNat ∨
          (b2 &&& 0x3f).toNat = 63 ∧ 63 ≤ sif.length + 1 ∧ sif.length + 1 ≤ maxMsuBody) := by
  unfold decode
  dsimp only
  generalize b2 &&& 0x3f = li at hli hlt ⊢
  rw [if_neg (mt eq_liFisu_iff.mp (by omega)), if_neg (mt eq_liLssu_iff.mp (by omega))]
  cases body with
  | nil => exact ⟨nofun, nofun⟩
  | cons sio sif =>
    have hmax : li < liMax ↔ li.toNat < 63 := by rw [UInt8.lt_iff_toNat_lt]; rfl
    have hsat : li = liMax ↔ li.toNat = 63 := by rw [← UInt8.toNat_inj]; rfl
    have hbody : maxMsuBody = 273 := rfl
    have hliMax : liMax.toNat = 63 := rfl
    dsimp only
    -- the three length checks together
    have hchecks : (li.toNat < 63 ∧ sif.length + 1 = li.toNat ∨
        li.toNat = 63 ∧ 63 ≤ sif.length + 1 ∧ sif.length + 1 ≤ maxMsuBody) ↔
        ¬ (li < liMax ∧ (sio :: sif).length ≠ li.toNat) ∧
          ¬ (li = liMax ∧ (sio :: sif).length < liMax.toNat) ∧
            ¬ 1 + sif.length > maxMsuBody := by
      rw [hmax, hsat, List.length_cons]
      omega
    refine ⟨fun h => ?_, ?_⟩
    · split at h
      · cases h
      next hexact =>
      split at h
      · cases h
      next hshort =>
      split at h
      · cases h
      next hlong =>
      cases h
      exact ⟨sio, sif, rfl, rfl, hchecks.mpr ⟨hexact, hshort, hlong⟩⟩
    · rintro ⟨_, _, hb, rfl, hlen⟩
      cases hb
      obtain ⟨hexact, hshort, hlong⟩ := hchecks.mp hlen
      rw [if_neg hexact, if_neg hshort, if_neg hlong]

/-- **What `decode` makes of a header and a body.** -/
theorem decode_eq_ok_iff :
    decode (b0 :: b1 :: b2 :: body) = .ok su ↔
      Parsed (b2 &&& 0x3f) (SuHeader.decodeSeqOctets b0 b1) body su := by
  have hlt : (b2 &&& 0x3f).toNat < 64 := by
    rw [UInt8.and_mask_toNat (n := 6) rfl]
    exact Nat.mod_lt _ (by decide)
  by_cases hfisu : (b2 &&& 0x3f).toNat = 0
  · rw [decode_fisu_iff hfisu, Parsed.fisu_iff hfisu]
  by_cases hlssu : (b2 &&& 0x3f).toNat = 1 ∨ (b2 &&& 0x3f).toNat = 2
  · rw [decode_lssu_iff hlssu, Parsed.lssu_iff hlssu]
  · rw [decode_msu_iff (by omega) hlt, Parsed.msu_iff (by omega)]

end

/-! ## The format -/

/-- **A well-formed unit**: at least three octets, and the body the Length Indicator allows. -/
def WellFormed : List UInt8 → Prop
  | _ :: _ :: b2 :: body =>
    let li := b2.toNat % 64
    let n := body.length
    li = 0 ∧ n = 0 ∨ (li = 1 ∨ li = 2) ∧ n = li ∧ (∀ s ∈ body.head?, s.toNat % 8 ≤ 5) ∨
      3 ≤ li ∧ li ≤ 62 ∧ n = li ∨ li = 63 ∧ 63 ≤ n ∧ n ≤ 273
  | _ => False

instance (bytes : List UInt8) : Decidable (WellFormed bytes) :=
  match bytes with
  | [] | [_] | [_, _] => isFalse id
  | _ :: _ :: _ :: body =>
    -- looks at the one octet, not at all there are
    have : Decidable (∀ s ∈ body.head?, s.toNat % 8 ≤ 5) := body.head?.decidableForallMem
    inferInstanceAs (Decidable (_ ∨ _))

/-- The octets with everything `decode` does not read cleared: the spare bits of the third, the
high bits of a first status octet, a second status octet. -/
def clearSpare : List UInt8 → List UInt8
  | b0 :: b1 :: b2 :: body =>
    b0 :: b1 :: (b2 &&& 0x3f) ::
      (if b2.toNat % 64 = 1 ∨ b2.toNat % 64 = 2 then
        (body.take 1).map (· &&& 0x07) ++ (body.drop 1).map fun _ => 0
      else body)
  | bytes => bytes

/-- **What is decoded is what is well formed.** -/
theorem decode_isOk_iff (bytes : List UInt8) :
    (∃ su, decode bytes = .ok su) ↔ WellFormed bytes := by
  match bytes with
  | [] | [_] | [_, _] => exact ⟨nofun, nofun⟩
  | b0 :: b1 :: b2 :: body =>
    have hli : (b2 &&& 0x3f).toNat = b2.toNat % 64 := UInt8.and_mask_toNat (n := 6) rfl
    have hmax : maxMsuBody = 273 := rfl
    simp only [decode_eq_ok_iff, WellFormed, ← hli]
    -- the three kinds of unit, by LI
    by_cases hfisu : (b2 &&& 0x3f).toNat = 0
    · simp only [Parsed.fisu_iff hfisu, exists_and_left, exists_eq, and_true,
        ← List.length_eq_zero_iff]
      omega
    by_cases hlssu : (b2 &&& 0x3f).toNat = 1 ∨ (b2 &&& 0x3f).toNat = 2
    · simp only [Parsed.lssu_iff hlssu]
      cases body with
      | nil =>
        refine ⟨fun ⟨_, hlen, _⟩ => ?_, fun h => ?_⟩ <;> rw [List.length_nil] at * <;> omega
      | cons s0 rest =>
        -- the low three bits of the status field decide
        have hstatus := StatusIndication.fromU8_isOk_iff (s := s0)
        simp only [List.head?_cons, Option.mem_def, Option.some.injEq, forall_eq']
        refine ⟨?_, fun h => ?_⟩
        · rintro ⟨su, hlen, s, status, rfl, hs, -⟩
          exact .inr (.inl ⟨hlssu, hlen, hstatus.mp ⟨status, hs⟩⟩)
        · obtain ⟨hlen, hle⟩ : (s0 :: rest).length = (b2 &&& 0x3f).toNat ∧ s0.toNat % 8 ≤ 5 := by
            omega
          obtain ⟨status, hs⟩ := hstatus.mpr hle
          exact ⟨_, hlen, s0, status, rfl, hs, rfl⟩
    · simp only [Parsed.msu_iff (show 3 ≤ (b2 &&& 0x3f).toNat by omega)]
      cases body with
      | nil =>
        refine ⟨nofun, fun h => ?_⟩
        rw [List.length_nil] at h
        omega
      | cons sio sif =>
        rw [List.length_cons]
        refine ⟨?_, fun h => ⟨_, sio, sif, rfl, rfl, by omega⟩⟩
        -- only the number of octets is left to compare
        rintro ⟨su, _, _, hb, -, hlen⟩
        cases hb
        omega

/-- A parsed unit carries its header, its Length Indicator and its body, and is not an MSU that
would be taken for an LSSU. -/
theorem Parsed.encodes {b2 : UInt8} {header : SuHeader} {body : List UInt8} {su : SignalUnit}
    (h : Parsed (b2 &&& 0x3f) header body su) :
    su.header = header ∧ su.lengthIndicator = b2 &&& 0x3f ∧ su.bodyOctets.length ≤ maxMsuBody ∧
      (su.bodyOctets = if b2.toNat % 64 = 1 ∨ b2.toNat % 64 = 2 then
        (body.take 1).map (· &&& 0x07) ++ (body.drop 1).map fun _ => 0 else body) ∧
      ¬ su.ShortMsu := by
  have hli : (b2 &&& 0x3f).toNat = b2.toNat % 64 := UInt8.and_mask_toNat (n := 6) rfl
  rw [← hli, ← UInt8.toNat_inj, lengthIndicator_toNat]
  have hmax : maxMsuBody = 273 := rfl
  cases h with
  | fisu h0 =>
    rw [if_neg (by omega)]
    exact ⟨rfl, by rw [h0]; rfl, Nat.zero_le _, rfl, nofun⟩
  | @lssu s0 rest status hl hlen hs =>
    have hcode : status.toU8 &&& 0x07 = s0 &&& 0x07 := by
      rw [← StatusIndication.fromU8_eq_ok_iff.mp hs, UInt8.and_assoc,
        show (0x07 &&& 0x07 : UInt8) = 0x07 from rfl]
    have htwo : b2 &&& 0x3f = liLssuTwo ↔ (b2 &&& 0x3f).toNat = 2 := by
      rw [← UInt8.toNat_inj]; rfl
    rw [if_pos hl]
    simp only [bodyOctets, hcode, htwo]
    rcases hl with hl | hl
    · -- the one-octet status field
      obtain rfl : rest = [] := List.length_eq_zero_iff.mp (by omega)
      simp [hl, hmax, SignalUnit.header, ShortMsu]
    · obtain ⟨spare, rfl⟩ := List.length_eq_one_iff.mp (show rest.length = 1 by omega)
      simp [hl, hmax, SignalUnit.header, ShortMsu]
  | @msu sio sif hm hlen =>
    rw [if_neg (by omega)]
    have hbody : (Msu header sio sif).bodyOctets.length = sif.length + 1 := rfl
    refine ⟨rfl, by omega, by omega, rfl, ?_⟩
    show ¬ sif.length < 2
    omega

/-- **`encode` inverts `decode` up to the spare bits.** -/
theorem encode_of_decode {bytes : List UInt8} {su : SignalUnit} (h : decode bytes = .ok su) :
    su.encode = .ok (clearSpare bytes) ∧ decode (clearSpare bytes) = .ok su := by
  have hr := decode_inRange h
  match bytes with
  | [] | [_] | [_, _] => cases h
  | b0 :: b1 :: b2 :: body =>
    obtain ⟨hheader, hli, hlen, hbody, hshort⟩ := (decode_eq_ok_iff.mp h).encodes
    have hbytes : clearSpare (b0 :: b1 :: b2 :: body) =
        su.header.encodeSeqOctets.1 :: su.header.encodeSeqOctets.2 ::
          su.lengthIndicator :: su.bodyOctets := by
      rw [hheader, SuHeader.encodeSeqOctets_decodeSeqOctets, hli, hbody]
      rfl
    rw [hbytes]
    exact ⟨encode_eq_ok_iff.mpr ⟨hr, hlen, rfl⟩, (decode_bodyOctets hr hlen).mpr hshort⟩

/-- **`decode` accepts exactly the well-formed byte strings, and `encode` inverts it up to the
spare bits.** -/
theorem decode_accepts (bytes : List UInt8) :
    ((∃ su, decode bytes = .ok su) ↔ WellFormed bytes) ∧
      ∀ su, decode bytes = .ok su →
        su.encode = .ok (clearSpare bytes) ∧ decode (clearSpare bytes) = .ok su :=
  ⟨decode_isOk_iff bytes, fun _ => encode_of_decode⟩

/-- An LSSU in the two-octet form, with spare bits set, and what is left of them. -/
example : WellFormed [0xff, 0x80, 0xc2, 0xfd, 0x99] ∧
    clearSpare [0xff, 0x80, 0xc2, 0xfd, 0x99] = [0xff, 0x80, 0x02, 0x05, 0x00] := ⟨by decide, rfl⟩

end SignalUnit

end Mtp2
