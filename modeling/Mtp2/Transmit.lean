import Mtp2.Retransmission
import Mtp2.Lib.Run

/-!
# MTP2 — the transmit side over a run

`TxControl` against its own history. `Tracks sent base` says that the controller has
numbered the payloads `sent` so far, `0, 1, 2, …` modulo 128, and that its buffer is the
part of them from `base` on. `submit`, `poll` and `on_ack` keep it under either method and
whatever the peer acknowledges, so the buffer is always a run of consecutive FSNs ending
at `last_fsn`.

* **`polled`** — everything a `poll` can do;
* **`Tracks.poll`**, **`Tracks.onAck`** — the step lemmas;
* **`TxLog.conserves`** — conservation of MSUs over every run.
-/

namespace Mtp2

/-! ## Sequence numbers of positions -/

/-- The FSN of the `i`-th MSU numbered. -/
def seqOf (i : ℕ) : UInt8 := UInt8.ofNat (i % 128)

@[simp] theorem seqOf_toNat (i : ℕ) : (seqOf i).toNat = i % 128 := by
  rw [seqOf, UInt8.toNat_ofNat', Nat.mod_eq_of_lt (by omega)]

/-- Positions share a number exactly if they are congruent. -/
theorem seqOf_inj {i j : ℕ} : seqOf i = seqOf j ↔ i % 128 = j % 128 := by
  rw [← UInt8.toNat_inj, seqOf_toNat, seqOf_toNat]

@[simp] theorem seqOf_add_modulus (i : ℕ) : seqOf (i + 128) = seqOf i := by
  rw [seqOf_inj]; omega

@[simp] theorem seqAdd_seqOf_one (i : ℕ) : seqAdd (seqOf i) 1 = seqOf (i + 1) := by
  apply UInt8.toNat_inj.mp
  rw [seqAdd_toNat, seqOf_toNat, seqOf_toNat, show (1 : UInt8).toNat = 1 from rfl]
  omega

/-! ## Numbered payloads -/

/-- Payloads with the FSNs of the positions from `k` on. -/
def numbered (k : ℕ) (ps : List Payload) : List BufferedMsu :=
  ps.mapIdx fun i p => ⟨seqOf (k + i), p.1, p.2⟩

@[simp] theorem numbered_nil (k : ℕ) : numbered k [] = [] := rfl

@[simp] theorem length_numbered (k : ℕ) (ps : List Payload) :
    (numbered k ps).length = ps.length := List.length_mapIdx

theorem getElem?_numbered (k : ℕ) (ps : List Payload) (i : ℕ) :
    (numbered k ps)[i]? = ps[i]?.map fun p => ⟨seqOf (k + i), p.1, p.2⟩ := List.getElem?_mapIdx

theorem numbered_append (k : ℕ) (ps qs : List Payload) :
    numbered k (ps ++ qs) = numbered k ps ++ numbered (k + ps.length) qs := by
  simp only [numbered, List.mapIdx_append, Nat.add_assoc, Nat.add_comm ps.length]

theorem numbered_singleton (k : ℕ) (p : Payload) : numbered k [p] = [⟨seqOf k, p.1, p.2⟩] := rfl

theorem drop_numbered (k n : ℕ) (ps : List Payload) :
    (numbered k ps).drop n = numbered (k + n) (ps.drop n) := by
  apply List.ext_getElem?
  intro i
  rw [List.getElem?_drop, getElem?_numbered, getElem?_numbered, List.getElem?_drop, Nat.add_assoc]

theorem take_numbered (k n : ℕ) (ps : List Payload) :
    (numbered k ps).take n = numbered k (ps.take n) := by
  apply List.ext_getElem?
  intro i
  simp only [List.getElem?_take, getElem?_numbered]
  split <;> rfl

@[simp] theorem map_payload_numbered (k : ℕ) (ps : List Payload) :
    (numbered k ps).map BufferedMsu.payload = ps := by
  apply List.ext_getElem?
  intro i
  simp only [List.getElem?_map, getElem?_numbered, Option.map_map]
  exact Option.map_id'

namespace TxControl

/-! ## What `poll` can do -/

/-- Everything a poll can do, guards included: the index it reads, the frame it returns and
the controller it leaves. -/
inductive Polled (t : TxControl) : Option ℕ → TxFrame × TxControl → Prop where
  | basicAgain (hm : t.method = .Basic) {i : ℕ} (hc : t.basicCursor = some i)
      (hi : i < t.unacked.length) :
      Polled t (some i) (t.resend t.unacked[i], { t with basicCursor := some (i + 1) })
  | basicFresh (hm : t.method = .Basic) (hidle : t.basicIndex = none) {sio : UInt8}
      {sif : List UInt8} {rest : List Payload} (hp : t.pending = (sio, sif) :: rest) :
      Polled t none (⟨seqAdd t.lastFsn 1, t.fib, .Msu sio sif⟩,
        { t.number sio sif rest with basicCursor := none })
  | basicFill (hm : t.method = .Basic) (hidle : t.basicIndex = none) (hp : t.pending = []) :
      Polled t none (t.fill, { t with basicCursor := none })
  | pcrFresh {params : PcrParams} (hm : t.method = .Pcr params) (hf : t.forced params = false)
      {sio : UInt8} {sif : List UInt8} {rest : List Payload} (hp : t.pending = (sio, sif) :: rest) :
      Polled t none (⟨seqAdd t.lastFsn 1, t.fib, .Msu sio sif⟩,
        { t.number sio sif rest with pcrCursor := 0 })
  | pcrAgain {params : PcrParams} (hm : t.method = .Pcr params)
      (hidle : t.forced params = true ∨ t.pending = []) (hi : t.wrappedCursor < t.unacked.length) :
      Polled t (some t.wrappedCursor)
        (t.resend t.unacked[t.wrappedCursor], { t with pcrCursor := t.wrappedCursor + 1 })
  | pcrFill {params : PcrParams} (hm : t.method = .Pcr params)
      (hidle : t.forced params = true ∨ t.pending = []) (hu : t.unacked = []) :
      Polled t none (t.fill, t)

/-- No round is going on under Basic: a new MSU or a fill-in. -/
theorem polled_pollNew {t : TxControl} (hm : t.method = .Basic) (hidle : t.basicIndex = none) :
    t.Polled none { t with basicCursor := none }.pollNew := by
  unfold pollNew
  split
  · next sio sif rest hp => exact .basicFresh hm hidle hp
  · next hp => exact .basicFill hm hidle hp

/-- Nothing new may go out under PCR: the entry at the cursor, or a fill-in. -/
theorem polled_pollCyclic {t : TxControl} {params : PcrParams} (hm : t.method = .Pcr params)
    (hidle : t.forced params = true ∨ t.pending = []) :
    t.Polled (t.pcrIndex params) t.pollCyclic := by
  unfold pcrIndex
  by_cases hu : t.unacked = []
  · rw [if_neg fun h => h.2 hu, pollCyclic, dif_pos hu]
    exact .pcrFill hm hidle hu
  · rw [if_pos ⟨hidle, hu⟩, pollCyclic, dif_neg hu]
    exact .pcrAgain hm hidle (wrappedCursor_lt hu)

/-- **What a poll can do.** -/
theorem polled (t : TxControl) : t.Polled t.pollIndex t.poll := by
  unfold poll pollIndex
  cases hm : t.method with
  | Basic =>
    show t.Polled t.basicIndex t.pollBasic
    unfold pollBasic
    split
    · next cursor hc =>
      split
      · next hi =>
        rw [show t.basicIndex = some cursor by
          simp only [basicIndex, hc, Option.filter_some, decide_eq_true hi, if_true]]
        exact .basicAgain hm hc hi
      · -- the round is over: the cursor is dropped and the poll goes on
        next hi =>
        have hidle : t.basicIndex = none := by
          simp only [basicIndex, hc, Option.filter_some, hi, decide_false, Bool.false_eq_true,
            if_false]
        rw [hidle]
        exact polled_pollNew hm hidle
    · next hc =>
      have hidle : t.basicIndex = none := by rw [basicIndex, hc, Option.filter_none]
      rw [hidle]
      have := polled_pollNew hm hidle
      rwa [show { t with basicCursor := none } = t by rw [← hc]] at this
  | Pcr params =>
    show t.Polled (t.pcrIndex params) (t.pollPcr params)
    unfold pollPcr
    split
    · next hf => exact polled_pollCyclic hm (.inl hf)
    · next hf =>
      split
      · next sio sif rest hp =>
        rw [show t.pcrIndex params = none by simp [pcrIndex, hf, hp]]
        exact .pcrFresh hm (by simpa using hf) hp
      · next hp => exact polled_pollCyclic hm (.inr hp)

theorem poll_method (t : TxControl) : t.poll.2.method = t.method := by
  have hpolled := t.polled
  generalize t.pollIndex = o, t.poll = r at hpolled ⊢
  cases hpolled <;> rfl

/-- A polled MSU frame is the FSN and payload of an entry of the buffer after the poll. -/
theorem poll_frame_mem {t : TxControl} {sio : UInt8} {sif : List UInt8}
    (h : t.poll.1.body = .Msu sio sif) : ⟨t.poll.1.fsn, sio, sif⟩ ∈ t.poll.2.unacked := by
  have hpolled := t.polled
  generalize t.pollIndex = o, t.poll = r at hpolled h ⊢
  cases hpolled with
  | basicAgain hm hc hi => cases h; exact List.getElem_mem hi
  | pcrAgain hm hidle hi => cases h; exact List.getElem_mem hi
  | basicFresh hm hidle hp => cases h; exact List.mem_append_right _ List.mem_cons_self
  | pcrFresh hm hf hp => cases h; exact List.mem_append_right _ List.mem_cons_self
  | basicFill hm hidle hp => cases h
  | pcrFill hm hidle hu => cases h

/-- A poll takes nothing out of the queue but its head. -/
theorem poll_pending_suffix (t : TxControl) : t.poll.2.pending <:+ t.pending := by
  have hpolled := t.polled
  generalize t.pollIndex = o, t.poll = r at hpolled ⊢
  cases hpolled with
  | basicFresh _ _ hp | pcrFresh _ _ hp => rw [hp]; exact List.suffix_cons _ _
  | basicAgain | basicFill | pcrAgain | pcrFill => exact List.suffix_refl _

/-- A poll takes nothing out of the buffer. -/
theorem unacked_prefix_poll (t : TxControl) : t.unacked <+: t.poll.2.unacked := by
  have hpolled := t.polled
  generalize t.pollIndex = o, t.poll = r at hpolled ⊢
  cases hpolled with
  | basicFresh hm hidle hp => exact List.prefix_append _ _
  | pcrFresh hm hf hp => exact List.prefix_append _ _
  | basicAgain hm hc hi => exact List.prefix_refl _
  | pcrAgain hm hidle hi => exact List.prefix_refl _
  | basicFill hm hidle hp => exact List.prefix_refl _
  | pcrFill hm hidle hu => exact List.prefix_refl _

/-- A polled FISU carries the FSN of the most recently numbered MSU. -/
theorem poll_fill_fsn {t : TxControl} (h : t.poll.1.body = .Fisu) :
    t.poll.1.fsn = t.poll.2.lastFsn := by
  have hpolled := t.polled
  generalize t.pollIndex = o, t.poll = r at hpolled h ⊢
  cases hpolled with
  | basicAgain hm hc hi => cases h
  | pcrAgain hm hidle hi => cases h
  | basicFresh hm hidle hp => cases h
  | pcrFresh hm hf hp => cases h
  | basicFill hm hidle hp => rfl
  | pcrFill hm hidle hu => rfl

/-- A poll that reads the buffer reads it in range, and sends what it read. -/
theorem poll_of_pollIndex {t : TxControl} {i : ℕ} (h : t.pollIndex = some i) :
    ∃ hi : i < t.unacked.length, t.poll.1 = t.resend t.unacked[i] := by
  have hpolled := t.polled
  rw [h] at hpolled
  generalize t.poll = r at hpolled ⊢
  cases hpolled with
  | basicAgain hm hc hi => exact ⟨hi, rfl⟩
  | pcrAgain hm hidle hi => exact ⟨hi, rfl⟩

/-! ## What `on_ack` can do -/

theorem freedBy_length_le (t : TxControl) (bsn : UInt8) :
    (t.freedBy bsn).length ≤ t.unacked.length := (List.takeWhile_sublist _).length_le

theorem freedBy_eq_take (t : TxControl) (bsn : UInt8) :
    t.freedBy bsn = t.unacked.take (t.freedBy bsn).length :=
  List.prefix_iff_eq_take.mp (List.takeWhile_prefix _)

theorem dropWhile_eq_drop (t : TxControl) (bsn : UInt8) :
    (t.unacked.dropWhile fun m => acknowledges bsn m.fsn)
      = t.unacked.drop (t.freedBy bsn).length := by
  conv_rhs => rw [← List.takeWhile_append_dropWhile (p := fun m => acknowledges bsn m.fsn)
    (l := t.unacked)]
  exact List.drop_left.symm

section onAck

variable (t : TxControl) (bsn : UInt8) (bib : Bool)

@[simp] theorem freeAcked_method : (t.freeAcked bsn).method = t.method := by
  unfold freeAcked; split <;> rfl

@[simp] theorem freeAcked_pending : (t.freeAcked bsn).pending = t.pending := by
  unfold freeAcked; split <;> rfl

@[simp] theorem freeAcked_lastFsn : (t.freeAcked bsn).lastFsn = t.lastFsn := by
  unfold freeAcked; split <;> rfl

@[simp] theorem freeAcked_fib : (t.freeAcked bsn).fib = t.fib := by
  unfold freeAcked; split <;> rfl

/-- `retain` over the buffer is a drop from its head. -/
theorem freeAcked_unacked :
    (t.freeAcked bsn).unacked = t.unacked.drop (t.freedBy bsn).length := by
  unfold freeAcked
  split
  · next h => rw [h]; rfl
  · exact t.dropWhile_eq_drop bsn

@[simp] theorem nackBy_method : (t.nackBy bib).method = t.method := by
  unfold nackBy
  split
  · split <;> rfl
  · rfl

@[simp] theorem nackBy_pending : (t.nackBy bib).pending = t.pending := by
  unfold nackBy
  split
  · split <;> rfl
  · rfl

@[simp] theorem nackBy_lastFsn : (t.nackBy bib).lastFsn = t.lastFsn := by
  unfold nackBy
  split
  · split <;> rfl
  · rfl

@[simp] theorem nackBy_unacked : (t.nackBy bib).unacked = t.unacked := by
  unfold nackBy
  split
  · split <;> rfl
  · rfl

@[simp] theorem onAck_method : (t.onAck bsn bib).method = t.method := by simp [onAck]

@[simp] theorem onAck_pending : (t.onAck bsn bib).pending = t.pending := by simp [onAck]

@[simp] theorem onAck_lastFsn : (t.onAck bsn bib).lastFsn = t.lastFsn := by simp [onAck]

/-- The acknowledgement removes exactly `freedBy` from the front of the buffer. -/
theorem onAck_unacked : (t.onAck bsn bib).unacked = t.unacked.drop (t.freedBy bsn).length := by
  rw [onAck, nackBy_unacked, freeAcked_unacked]

/-- Under the Basic method the FIB follows the BIB. -/
theorem onAck_fib {t : TxControl} (bsn : UInt8) (bib : Bool) (hm : t.method = .Basic) :
    (t.onAck bsn bib).fib = bib := by
  have hm' : (t.freeAcked bsn).method = .Basic := (t.freeAcked_method bsn).trans hm
  rw [onAck, nackBy, hm']
  by_cases hb : bib = t.fib <;> simp [hb]

/-- The cursor of a round moves back by one, however many MSUs are freed. -/
theorem freeAcked_cursor :
    (t.freeAcked bsn).basicCursor
      = if t.freedBy bsn = [] then t.basicCursor else t.basicCursor.map (· - 1) := by
  unfold freeAcked; split <;> rfl

/-- An acknowledgement whose BIB is the FIB leaves the round going. -/
theorem onAck_cursor_same {t : TxControl} (bsn : UInt8) {bib : Bool} (hm : t.method = .Basic)
    (hb : bib = t.fib) :
    (t.onAck bsn bib).basicCursor
      = if t.freedBy bsn = [] then t.basicCursor else t.basicCursor.map (· - 1) := by
  have hm' : (t.freeAcked bsn).method = .Basic := (t.freeAcked_method bsn).trans hm
  rw [onAck, nackBy, hm', ← freeAcked_cursor]
  simp [hb]

/-- A negative acknowledgement starts a round over what is left of the buffer. -/
theorem onAck_cursor_nack {t : TxControl} (bsn : UInt8) {bib : Bool} (hm : t.method = .Basic)
    (hb : bib ≠ t.fib) :
    (t.onAck bsn bib).basicCursor
      = if (t.onAck bsn bib).unacked = [] then (t.freeAcked bsn).basicCursor else some 0 := by
  have hm' : (t.freeAcked bsn).method = .Basic := (t.freeAcked_method bsn).trans hm
  rw [onAck, nackBy_unacked, nackBy, hm']
  simp [hb]

end onAck

/-! ## Tracking the numbered payloads -/

/-- The controller has numbered `sent` and holds the part from `base` on. -/
structure Tracks (t : TxControl) (sent : List Payload) (base : ℕ) : Prop where
  base_le : base ≤ sent.length
  lastFsn : t.lastFsn = seqOf (sent.length + 127)
  unacked : t.unacked = numbered base (sent.drop base)

variable {t : TxControl} {sent : List Payload} {base : ℕ}

theorem tracks_new (method : RetransmissionMethod) : (new method).Tracks [] 0 :=
  ⟨Nat.le_refl 0, rfl, rfl⟩

namespace Tracks

theorem unacked_length (h : t.Tracks sent base) : t.unacked.length = sent.length - base := by
  rw [h.unacked, length_numbered, List.length_drop]

theorem getElem?_unacked (h : t.Tracks sent base) (i : ℕ) :
    t.unacked[i]? = sent[base + i]?.map fun p => ⟨seqOf (base + i), p.1, p.2⟩ := by
  rw [h.unacked, getElem?_numbered, List.getElem?_drop]

/-- The next number is that of the next position. -/
theorem nextFsn (h : t.Tracks sent base) : seqAdd t.lastFsn 1 = seqOf sent.length := by
  rw [h.lastFsn, seqAdd_seqOf_one, seqOf_add_modulus sent.length]

/-- Only the last number and the buffer are tracked. -/
theorem of_fields {t' : TxControl} (h : t.Tracks sent base) (hf : t'.lastFsn = t.lastFsn)
    (hu : t'.unacked = t.unacked) : t'.Tracks sent base :=
  ⟨h.base_le, hf.trans h.lastFsn, hu.trans h.unacked⟩

/-- Numbering an MSU appends it to both sides. -/
theorem number (h : t.Tracks sent base) (sio : UInt8) (sif : List UInt8) (rest : List Payload) :
    (t.number sio sif rest).Tracks (sent ++ [(sio, sif)]) base where
  base_le := by rw [List.length_append]; exact Nat.le_add_right_of_le h.base_le
  lastFsn := by
    show seqAdd t.lastFsn 1 = _
    rw [h.nextFsn, List.length_append, List.length_singleton, Nat.add_assoc,
      seqOf_add_modulus sent.length]
  unacked := by
    show t.unacked ++ [⟨seqAdd t.lastFsn 1, sio, sif⟩] = _
    rw [List.drop_append_of_le_length h.base_le, numbered_append, h.unacked, h.nextFsn,
      List.length_drop, Nat.add_sub_cancel' h.base_le, numbered_singleton]

/-- Entry `i` of the buffer goes out again as the frame of position `base + i`. -/
theorem resend (h : t.Tracks sent base) {i : ℕ} (hi : i < t.unacked.length) :
    ∃ p, sent[base + i]? = some p ∧
      t.resend t.unacked[i] = ⟨seqOf (base + i), t.fib, .Msu p.1 p.2⟩ := by
  have hget := h.getElem?_unacked i
  rw [List.getElem?_eq_getElem hi, eq_comm, Option.map_eq_some_iff] at hget
  obtain ⟨p, hp, hm⟩ := hget
  exact ⟨p, hp, by rw [TxControl.resend, ← hm]⟩

/-- The step lemma of `poll`: a pending MSU is numbered, or nothing is. -/
theorem poll (h : t.Tracks sent base) :
    (∃ sio sif rest, t.pending = (sio, sif) :: rest ∧ t.poll.2.pending = rest ∧
      t.poll.1 = ⟨seqOf sent.length, t.fib, .Msu sio sif⟩ ∧
      t.poll.2.Tracks (sent ++ [(sio, sif)]) base) ∨
    (∃ i p, base ≤ i ∧ sent[i]? = some p ∧ t.poll.2.pending = t.pending ∧
      t.poll.1 = ⟨seqOf i, t.fib, .Msu p.1 p.2⟩ ∧ t.poll.2.Tracks sent base) ∨
    (t.poll.2.pending = t.pending ∧ t.poll.1 = t.fill ∧ t.poll.2.Tracks sent base) := by
  have hpolled := t.polled
  generalize t.pollIndex = o, t.poll = r at hpolled ⊢
  cases hpolled with
  | basicAgain hm hc hi =>
    obtain ⟨p, hp, hframe⟩ := h.resend hi
    exact .inr (.inl ⟨_, p, Nat.le_add_right base _, hp, rfl, hframe, h.of_fields rfl rfl⟩)
  | pcrAgain hm hidle hi =>
    obtain ⟨p, hp, hframe⟩ := h.resend hi
    exact .inr (.inl ⟨_, p, Nat.le_add_right base _, hp, rfl, hframe, h.of_fields rfl rfl⟩)
  | @basicFresh hm hidle sio sif rest hp =>
    exact .inl ⟨sio, sif, rest, hp, rfl, by rw [h.nextFsn],
      (h.number sio sif rest).of_fields rfl rfl⟩
  | @pcrFresh params hm hf sio sif rest hp =>
    exact .inl ⟨sio, sif, rest, hp, rfl, by rw [h.nextFsn],
      (h.number sio sif rest).of_fields rfl rfl⟩
  | basicFill hm hidle hp => exact .inr (.inr ⟨rfl, rfl, h.of_fields rfl rfl⟩)
  | pcrFill hm hidle hu => exact .inr (.inr ⟨rfl, rfl, h⟩)

/-- The step lemma of `on_ack`: the base moves past what was freed, whatever the BSN. -/
theorem onAck (h : t.Tracks sent base) (bsn : UInt8) (bib : Bool) :
    (t.onAck bsn bib).Tracks sent (base + (t.freedBy bsn).length) where
  base_le := by
    have := t.freedBy_length_le bsn
    rw [h.unacked_length] at this
    have := h.base_le
    omega
  lastFsn := by rw [onAck_lastFsn, h.lastFsn]
  unacked := by rw [onAck_unacked, h.unacked, drop_numbered, List.drop_drop]

/-- Neighbouring buffer entries carry neighbouring FSNs. -/
theorem fsn_succ (h : t.Tracks sent base) {i : ℕ} {m m' : BufferedMsu}
    (hm : t.unacked[i]? = some m) (hm' : t.unacked[i + 1]? = some m') :
    m'.fsn = seqAdd m.fsn 1 := by
  rw [h.getElem?_unacked, Option.map_eq_some_iff] at hm hm'
  obtain ⟨p, -, rfl⟩ := hm
  obtain ⟨p', -, rfl⟩ := hm'
  rw [seqAdd_seqOf_one, Nat.add_assoc]

/-- The newest buffer entry carries `last_fsn`. -/
theorem fsn_last (h : t.Tracks sent base) {m : BufferedMsu} (hm : t.unacked.getLast? = some m) :
    m.fsn = t.lastFsn := by
  have hne : 0 < t.unacked.length := List.length_pos_iff.mpr fun hnil => by simp [hnil] at hm
  rw [List.getLast?_eq_getElem?, h.getElem?_unacked, Option.map_eq_some_iff] at hm
  obtain ⟨p, -, rfl⟩ := hm
  rw [h.unacked_length] at hne ⊢
  rw [h.lastFsn, seqOf_inj]
  omega

/-- What an acknowledgement frees is a stretch of the log. -/
theorem freedBy_eq (h : t.Tracks sent base) (bsn : UInt8) :
    t.freedBy bsn = numbered base ((sent.drop base).take (t.freedBy bsn).length) := by
  conv_lhs => rw [t.freedBy_eq_take bsn, h.unacked, take_numbered]

/-- The payloads freed are the numbered ones from the base on. -/
theorem freedBy_payloads (h : t.Tracks sent base) (bsn : UInt8) :
    (t.freedBy bsn).map BufferedMsu.payload = (sent.drop base).take (t.freedBy bsn).length := by
  conv_lhs => rw [h.freedBy_eq bsn, map_payload_numbered]

end Tracks

end TxControl

/-! ## Conservation over a run -/

/-- The operations of the transmit side. -/
inductive TxOp where
  | submit (sio : UInt8) (sif : List UInt8)
  | poll
  | onAck (bsn : UInt8) (bib : Bool)
  deriving Repr, DecidableEq

/-- A transmit controller with the log of what was submitted and what was removed. -/
structure TxLog where
  tx : TxControl
  submitted : List Payload
  removed : List BufferedMsu
  deriving Repr, DecidableEq

namespace TxLog

def init (method : RetransmissionMethod) : TxLog := ⟨.new method, [], []⟩

def step (s : TxLog) : TxOp → TxLog
  | .submit sio sif =>
    { s with tx := s.tx.submit sio sif, submitted := s.submitted ++ [(sio, sif)] }
  | .poll => { s with tx := s.tx.poll.2 }
  | .onAck bsn bib =>
    { s with tx := s.tx.onAck bsn bib, removed := s.removed ++ s.tx.freedBy bsn }

/-- The logs and the controller agree: what was submitted is what was numbered followed by
what is pending, and what was removed is the numbered part below the base. -/
def Inv (s : TxLog) : Prop :=
  ∃ sent base, s.tx.Tracks sent base ∧ s.submitted = sent ++ s.tx.pending ∧
    s.removed = numbered 0 (sent.take base)

theorem inv_init (method : RetransmissionMethod) : (init method).Inv :=
  ⟨[], 0, TxControl.tracks_new method, rfl, rfl⟩

/-- Submitting, polling and acknowledging keep the logs in step with the buffer. -/
theorem Inv.step {s : TxLog} (h : s.Inv) (op : TxOp) : (s.step op).Inv := by
  obtain ⟨sent, base, ht, hsub, hrem⟩ := h
  cases op with
  | submit sio sif =>
    exact ⟨sent, base, ht.of_fields rfl rfl, by simp [TxLog.step, TxControl.submit, hsub], hrem⟩
  | poll =>
    rcases ht.poll with ⟨sio, sif, rest, hp, hp', -, ht'⟩ | ⟨i, p, -, -, hp', -, ht'⟩ |
      ⟨hp', -, ht'⟩
    · -- the MSU moves from the pending queue to the numbered ones
      refine ⟨_, base, ht', by simp [TxLog.step, hsub, hp, hp'], ?_⟩
      rw [List.take_append_of_le_length ht.base_le]
      exact hrem
    · exact ⟨sent, base, ht', by simp [TxLog.step, hsub, hp'], hrem⟩
    · exact ⟨sent, base, ht', by simp [TxLog.step, hsub, hp'], hrem⟩
  | onAck bsn bib =>
    refine ⟨sent, _, ht.onAck bsn bib, by simp [TxLog.step, hsub], ?_⟩
    -- what is freed now follows what was freed before, in the log of what was numbered
    show s.removed ++ s.tx.freedBy bsn = _
    rw [List.take_add, numbered_append, hrem, List.length_take, Nat.min_eq_left ht.base_le,
      Nat.zero_add, ← ht.freedBy_eq]

theorem inv_run (method : RetransmissionMethod) (ops : List TxOp) :
    (ops.foldl step (init method)).Inv :=
  Run.invariant Inv (fun _ op h => h.step op) (inv_init method) ops

/-- **The transmit side conserves MSUs.** After every run of `submit`, `poll` and `on_ack`:
nothing submitted is lost or reordered; position `j` carries FSN `j mod 128`; the buffer's
FSNs are consecutive and end at `last_fsn`; a polled MSU frame is a buffer entry and a
polled FISU carries `last_fsn`; and the index a poll reads is in range. -/
theorem conserves (method : RetransmissionMethod) (ops : List TxOp) :
    let s := ops.foldl step (init method)
    s.submitted = s.removed.map BufferedMsu.payload ++ s.tx.unacked.map BufferedMsu.payload
        ++ s.tx.pending ∧
      (∀ j m, (s.removed ++ s.tx.unacked)[j]? = some m →
        m.fsn.toNat = j % 128 ∧ s.submitted[j]? = some m.payload) ∧
      (∀ i m m', s.tx.unacked[i]? = some m → s.tx.unacked[i + 1]? = some m' →
        m'.fsn = seqAdd m.fsn 1) ∧
      (∀ m, s.tx.unacked.getLast? = some m → m.fsn = s.tx.lastFsn) ∧
      (∀ sio sif, s.tx.poll.1.body = .Msu sio sif →
        ⟨s.tx.poll.1.fsn, sio, sif⟩ ∈ s.tx.poll.2.unacked) ∧
      (s.tx.poll.1.body = .Fisu → s.tx.poll.1.fsn = s.tx.poll.2.lastFsn) ∧
      (∀ i, s.tx.pollIndex = some i → ∃ h : i < s.tx.unacked.length,
        s.tx.poll.1 = s.tx.resend s.tx.unacked[i]) := by
  intro s
  obtain ⟨sent, base, ht, hsub, hrem⟩ := inv_run method ops
  -- removed and buffered together are all that was numbered
  have hall : s.removed ++ s.tx.unacked = numbered 0 sent := by
    show (ops.foldl step (init method)).removed ++ (ops.foldl step (init method)).tx.unacked = _
    rw [hrem, ht.unacked]
    have := numbered_append 0 (sent.take base) (sent.drop base)
    rwa [List.take_append_drop, List.length_take, Nat.min_eq_left ht.base_le, Nat.zero_add,
      eq_comm] at this
  refine ⟨?_, ?_, fun i m m' => ht.fsn_succ, fun m => ht.fsn_last,
    fun sio sif => TxControl.poll_frame_mem, TxControl.poll_fill_fsn,
    fun i => TxControl.poll_of_pollIndex⟩
  · rw [← List.map_append, hall, map_payload_numbered]
    exact hsub
  · intro j m hm
    rw [hall, getElem?_numbered, Option.map_eq_some_iff] at hm
    obtain ⟨p, hp, rfl⟩ := hm
    refine ⟨by rw [seqOf_toNat, Nat.zero_add], ?_⟩
    show (ops.foldl step (init method)).submitted[j]? = some (p.1, p.2)
    rw [hsub, List.getElem?_append_left (List.getElem?_eq_some_iff.mp hp).1, hp]

end TxLog

end Mtp2
