import Mtp2.Rounds

/-!
# MTP2 — what an acknowledgement frees

`on_ack` compares a BSN with the FSNs of the buffer by half the sequence space, and moves the
cursor of a retransmission round by one, however many MSUs it freed. Both are right for part of
the acknowledgements a peer can send, and the theorems say for which.

* **`freedBy_length_of_distance`** — the MSUs freed, by the distance of the BSN from the head;
* **`ack_exact_iff`** — an acknowledgement frees what it names exactly when the half-space
  comparison and the buffer agree;
* **`resent_of_round`** — a retransmission round skips nothing that no acknowledgement
  overlooks.
-/

namespace Mtp2

namespace TxControl

variable {t : TxControl} {sent : List Payload} {base d : ℕ} {bsn : UInt8}

/-! ## The distance from the head -/

/-- A number acknowledges what is less than half the sequence space behind it. -/
theorem acknowledges_distance {k d : ℕ} :
    acknowledges (seqOf (k + d)) (seqOf k) = true ↔ d % 128 < 64 := by
  rw [acknowledges, decide_eq_true_iff, toUInt16_lt_seqHalf, seqForward_toNat, seqOf_toNat,
    seqOf_toNat]
  omega

/-- Within half the sequence space the buffer is freed up to the BSN, and no further. -/
theorem takeWhile_acknowledges_within {k d : ℕ} {ps : List Payload} (hd : d < 64) :
    ((numbered k ps).takeWhile fun m => acknowledges (seqOf (k + d)) m.fsn).length
      = min ps.length (d + 1) := by
  induction ps generalizing k d with
  | nil => rw [numbered_nil, List.takeWhile_nil, List.length_nil, List.length_nil, Nat.zero_min]
  | cons p ps ih =>
    have hhead : acknowledges (seqOf (k + d)) (seqOf k) = true :=
      acknowledges_distance.mpr (by omega)
    rw [numbered_cons]
    simp only [List.takeWhile_cons, hhead, if_true, List.length_cons]
    cases d with
    | zero =>
      -- the next MSU is 127 behind the BSN
      have hstop : ((numbered (k + 1) ps).takeWhile
          fun m => acknowledges (seqOf (k + 0)) m.fsn) = [] := by
        cases ps with
        | nil => rfl
        | cons q qs =>
          rw [numbered_cons]
          refine List.takeWhile_cons_of_neg fun hack => ?_
          rw [show k + 0 = k by omega, ← seqOf_add_modulus k,
            show k + 128 = k + 1 + 127 by omega] at hack
          have := acknowledges_distance.mp hack
          omega
      rw [hstop, List.length_nil]
      omega
    | succ d =>
      rw [show k + (d + 1) = k + 1 + d by omega, ih (by omega)]
      omega

/-- A 7-bit BSN is the FSN of the position as far from the head as the two are apart. -/
theorem seqOf_distance (base : ℕ) (h : bsn < 128) :
    bsn = seqOf (base + (seqForward bsn (seqOf base)).toNat) := by
  have hlt : bsn.toNat < 128 := by simpa [UInt8.lt_iff_toNat_lt] using h
  rw [← UInt8.toNat_inj, seqOf_toNat, seqForward_toNat, seqOf_toNat]
  omega

/-- **The MSUs freed, by the distance of the BSN from the head of the buffer**: everything up
to it within half the sequence space, nothing beyond. -/
theorem Tracks.freedBy_length_of_distance (h : t.Tracks sent base) (hbsn : bsn < 128) :
    (t.freedBy bsn).length =
      if (seqForward bsn (seqOf base)).toNat < 64
      then min t.unacked.length ((seqForward bsn (seqOf base)).toNat + 1) else 0 := by
  have hseq := seqOf_distance base hbsn
  set d := (seqForward bsn (seqOf base)).toNat with hd
  have hlt : d < 128 := by rw [hd, seqForward_toNat]; omega
  rw [freedBy, h.unacked, length_numbered, hseq]
  split
  · next hnear => exact takeWhile_acknowledges_within hnear
  · next hfar =>
    -- the head itself is taken for unacknowledged
    refine List.length_eq_zero_iff.mpr ?_
    cases hps : sent.drop base with
    | nil => rfl
    | cons p ps =>
      rw [numbered_cons]
      refine List.takeWhile_cons_of_neg fun hack => ?_
      have := acknowledges_distance.mp hack
      omega

/-- The FSN at index `i` of the buffer, for a buffer of distinct FSNs. -/
theorem Tracks.fsn_iff (h : t.Tracks sent base) (hlen : t.unacked.length ≤ 127) (hbsn : bsn < 128)
    {i : ℕ} {m : BufferedMsu} (hm : t.unacked[i]? = some m) :
    m.fsn = bsn ↔ i = (seqForward bsn (seqOf base)).toNat := by
  have hi : i < t.unacked.length := (List.getElem?_eq_some_iff.mp hm).1
  have hseq := seqOf_distance base hbsn
  have hlt : (seqForward bsn (seqOf base)).toNat < 128 := by rw [seqForward_toNat]; omega
  rw [h.getElem?_unacked, Option.map_eq_some_iff] at hm
  obtain ⟨p, -, rfl⟩ := hm
  conv_lhs => rw [hseq]
  rw [seqOf_inj]
  omega

/-! ## Exact acknowledgement -/

/-- **The acknowledgement frees what it names**: the buffer up to and including the MSU with
FSN `bsn`, and nothing when there is none. -/
structure FreesExactly (t : TxControl) (bsn : UInt8) (bib : Bool) : Prop where
  named : ∀ i m, t.unacked[i]? = some m → m.fsn = bsn →
    (t.onAck bsn bib).unacked = t.unacked.drop (i + 1)
  unnamed : (∀ m ∈ t.unacked, m.fsn ≠ bsn) → (t.onAck bsn bib).unacked = t.unacked

/-- The BSN is in the buffer exactly when it is within half the sequence space of its head. -/
def WithinHalf (t : TxControl) (bsn : UInt8) : Prop :=
  ∀ m ∈ t.unacked.head?,
    ((seqForward bsn m.fsn).toNat < t.unacked.length ↔ (seqForward bsn m.fsn).toNat < 64)

instance (t : TxControl) (bsn : UInt8) : Decidable (t.WithinHalf bsn) := by
  unfold WithinHalf; infer_instance

theorem Tracks.head_fsn (h : t.Tracks sent base) {m : BufferedMsu}
    (hm : t.unacked.head? = some m) : m.fsn = seqOf base := by
  rw [List.head?_eq_getElem?, h.getElem?_unacked, Option.map_eq_some_iff] at hm
  obtain ⟨p, -, rfl⟩ := hm
  rw [Nat.add_zero]

/-- The BSN names an MSU of the buffer: it is freed with those before it within half the sequence
space. -/
theorem Tracks.freesExactly_of_named (h : t.Tracks sent base) (hlen : t.unacked.length ≤ 127)
    (hbsn : bsn < 128) (bib : Bool)
    (hin : (seqForward bsn (seqOf base)).toNat < t.unacked.length) :
    t.FreesExactly bsn bib ↔ (seqForward bsn (seqOf base)).toNat < 64 := by
  have hfreed := h.freedBy_length_of_distance hbsn
  have hle := t.freedBy_length_le bsn
  have hack := t.onAck_unacked bsn bib
  have hfsn := fun {i m} => h.fsn_iff (i := i) (m := m) hlen hbsn
  have hget := List.getElem?_eq_getElem hin
  have hname := (hfsn hget).mpr rfl
  refine ⟨fun hex => ?_, fun hnear => ⟨fun i m hm hb => ?_, fun hno => ?_⟩⟩
  · have hdrop := hex.named _ _ hget hname
    rw [hack, List.drop_eq_drop_iff, Nat.min_eq_left hle, Nat.min_eq_left hin] at hdrop
    by_contra hge
    rw [hfreed, if_neg hge] at hdrop
    omega
  · obtain rfl := (hfsn hm).mp hb
    rw [hack, hfreed, if_pos hnear, Nat.min_eq_right hin]
  · exact absurd hname (hno _ (List.getElem_mem hin))

/-- The BSN names no MSU of the buffer: nothing is freed beyond half the sequence space. -/
theorem Tracks.freesExactly_of_unnamed (h : t.Tracks sent base) (hlen : t.unacked.length ≤ 127)
    (hbsn : bsn < 128) (bib : Bool) (hu : t.unacked ≠ [])
    (hout : ¬ (seqForward bsn (seqOf base)).toNat < t.unacked.length) :
    t.FreesExactly bsn bib ↔ ¬ (seqForward bsn (seqOf base)).toNat < 64 := by
  have hfreed := h.freedBy_length_of_distance hbsn
  have hle := t.freedBy_length_le bsn
  have hack := t.onAck_unacked bsn bib
  have hpos := List.length_pos_iff.mpr hu
  have hno : ∀ m ∈ t.unacked, m.fsn ≠ bsn := fun m hm hb => by
    obtain ⟨i, hi, rfl⟩ := List.mem_iff_getElem.mp hm
    have hidx := (h.fsn_iff hlen hbsn (List.getElem?_eq_getElem hi)).mp hb
    omega
  have hkeep : (t.onAck bsn bib).unacked = t.unacked ↔
      ¬ (seqForward bsn (seqOf base)).toNat < 64 := by
    rw [hack]
    conv_lhs => rhs; rw [← t.unacked.drop_zero]
    rw [List.drop_eq_drop_iff, Nat.min_eq_left hle, Nat.zero_min, hfreed]
    split
    · next hnear => simp only [hnear, not_true_eq_false, iff_false]; omega
    · next hfar => simp only [hfar, not_false_eq_true]
  refine ⟨fun hex => hkeep.mp (hex.unnamed hno), fun hfar => ⟨fun i m hm hb => ?_, fun _ => ?_⟩⟩
  · exact absurd hb (hno m (List.mem_of_getElem? hm))
  · exact hkeep.mpr hfar

/-- **What is freed is what is acknowledged, exactly within half the sequence space.** -/
theorem Tracks.freesExactly_iff (h : t.Tracks sent base) (hlen : t.unacked.length ≤ 127)
    (hbsn : bsn < 128) (bib : Bool) : t.FreesExactly bsn bib ↔ t.WithinHalf bsn := by
  cases hu : t.unacked with
  | nil =>
    have hack := t.onAck_unacked bsn bib
    rw [hu, List.drop_nil] at hack
    refine ⟨fun _ m hm => ?_, fun _ => ⟨fun i m hm => ?_, fun _ => by rw [hack, hu]⟩⟩
    · rw [hu] at hm; cases hm
    · rw [hu, List.getElem?_nil] at hm; cases hm
  | cons m₀ ms =>
    have hhead : t.unacked.head? = some m₀ := by rw [hu]; rfl
    have hhalf : t.WithinHalf bsn ↔ ((seqForward bsn (seqOf base)).toNat < t.unacked.length ↔
        (seqForward bsn (seqOf base)).toNat < 64) := by
      refine ⟨fun hw => ?_, fun hw m hm => ?_⟩
      · have hw₀ := hw m₀ hhead
        rwa [h.head_fsn hhead] at hw₀
      · rwa [h.head_fsn hm]
    rw [hhalf]
    by_cases hin : (seqForward bsn (seqOf base)).toNat < t.unacked.length
    · rw [h.freesExactly_of_named hlen hbsn bib hin, iff_true_left hin]
    · rw [h.freesExactly_of_unnamed hlen hbsn bib (by rw [hu]; simp) hin, iff_false_left hin]

end TxControl

namespace TxLog

/-- **An acknowledgement frees what it names exactly when the BSN is buffered if and only if it
is within half the sequence space of the head**, in every reachable state whose buffered FSNs
are distinct. -/
theorem ack_exact_iff (method : RetransmissionMethod) (ops : List TxOp) {bsn : UInt8}
    (hbsn : bsn < 128) (bib : Bool)
    (hlen : (ops.foldl step (init method)).tx.unacked.length ≤ 127) :
    (ops.foldl step (init method)).tx.FreesExactly bsn bib ↔
      (ops.foldl step (init method)).tx.WithinHalf bsn := by
  obtain ⟨sent, base, ht, -⟩ := inv_run method ops
  exact ht.freesExactly_iff hlen hbsn bib

/-- No operation changes the method. -/
theorem run_method (method : RetransmissionMethod) (ops : List TxOp) :
    (ops.foldl step (init method)).tx.method = method :=
  Run.invariant (fun s : TxLog => s.tx.method = method) (fun s op h => by
    cases op with
    | submit sio sif => exact h
    | poll => exact s.tx.poll_method.trans h
    | onAck bsn bib => exact (TxControl.onAck_method _ _ _).trans h) rfl ops

/-- `n` MSUs submitted and sent. -/
def outstanding (n : ℕ) : List TxOp :=
  List.replicate n (.submit 0x83 [1]) ++ List.replicate n .poll

/-- Of three MSUs an acknowledgement of the second frees two. -/
theorem ack_exact_second :
    ((outstanding 3).foldl step (init .Basic)).tx.FreesExactly 1 true :=
  (ack_exact_iff .Basic (outstanding 3) (by decide) true (by decide)).mpr (by decide)

/-- PCR with its default thresholds sends 65 MSUs without an acknowledgement; the one that names
the last of them frees none. -/
theorem ack_frees_none :
    ¬ ∀ (method : RetransmissionMethod) (ops : List TxOp) (bsn : UInt8) (bib : Bool),
      (ops.foldl step (init method)).tx.unacked.length ≤ 127 → bsn < 128 →
        (ops.foldl step (init method)).tx.FreesExactly bsn bib := by
  intro h
  have hex := h (.Pcr default) (outstanding 65) 64 true (by decide +kernel) (by decide)
  have hnamed := hex.named 64 ⟨64, 0x83, [1]⟩ (by decide +kernel) rfl
  revert hnamed
  decide +kernel

end TxLog

/-! ## Retransmission rounds -/

/-- A transmit controller in a retransmission round, and the frames sent again in it. -/
structure Repeat where
  tx : TxControl
  resent : List TxFrame
  deriving Repr, DecidableEq

namespace Repeat

/-- One operation; a poll that reads the buffer sends an MSU again. -/
def step (r : Repeat) : TxOp → Repeat
  | .submit sio sif => { r with tx := r.tx.submit sio sif }
  | .poll =>
    ⟨r.tx.poll.2, r.resent ++ if r.tx.pollIndex = none then [] else [r.tx.poll.1]⟩
  | .onAck bsn bib => { r with tx := r.tx.onAck bsn bib }

/-- What goes on in a round: polls that send again, submissions, and acknowledgements with the
present FIB that name the last acknowledged MSU or one at most 64 places from the head. -/
def Allowed (r : Repeat) : TxOp → Prop
  | .submit _ _ => True
  | .poll => r.tx.pollIndex ≠ none
  | .onAck bsn bib => bib = r.tx.fib ∧
      (bsn = r.tx.lastAcked ∨ bsn ∈ (r.tx.unacked.take 65).map BufferedMsu.fsn)

/-- The operation is no acknowledgement that overlooks MSUs still to be sent again. -/
def Attentive (r : Repeat) : TxOp → Prop
  | .onAck bsn bib => r.tx.overlooks bsn bib = false
  | _ => True

instance (r : Repeat) (op : TxOp) : Decidable (r.Allowed op) := by
  cases op <;> unfold Allowed <;> infer_instance

instance (r : Repeat) (op : TxOp) : Decidable (r.Attentive op) := by
  cases op <;> unfold Attentive <;> infer_instance

/-- What has been sent again ends with the part of the buffer below the cursor. -/
structure Round (start : List BufferedMsu) (r : Repeat) : Prop where
  method : r.tx.method = .Basic
  kept : r.tx.unacked <:+ start
  resent : ∃ c, r.tx.basicCursor = some c ∧
    (r.tx.unacked.take c).map r.tx.resend <:+ r.resent

variable {start : List BufferedMsu} {r : Repeat}

/-- A poll sends the MSU under the cursor. -/
theorem Round.poll (h : r.Round start) (hi : r.tx.pollIndex ≠ none) :
    (r.step .poll).Round start := by
  obtain ⟨c, hc, hsuf⟩ := h.resent
  have hpolled := r.tx.polled
  rw [step, if_neg hi]
  generalize r.tx.pollIndex = o, r.tx.poll = q at hpolled hi ⊢
  cases hpolled with
  | @basicAgain _ i hc' hlt =>
    obtain rfl : c = i := Option.some.inj (hc.symm.trans hc')
    refine ⟨h.method, h.kept, c + 1, rfl, ?_⟩
    show (r.tx.unacked.take (c + 1)).map r.tx.resend <:+ r.resent ++ [r.tx.resend r.tx.unacked[c]]
    rw [List.take_add_one, List.getElem?_eq_getElem hlt, List.map_append]
    obtain ⟨pre, hpre⟩ := hsuf
    exact ⟨pre, by rw [← hpre, List.append_assoc]; rfl⟩
  | basicFresh _ _ _ | basicFill _ _ _ | pcrFresh _ _ _ | pcrFill _ _ _ => exact absurd rfl hi
  | pcrAgain hm _ _ => rw [h.method] at hm; cases hm

/-- What is left below the new cursor was below the old one: the cursor moves with the front of
the buffer, goes back to the head, or is past the end. -/
theorem take_drop_suffix {α : Type*} {l : List α} {c c' k : ℕ}
    (h : c' + k = c ∨ c' = 0 ∨ l.length ≤ k ∨ l.length ≤ c ∧ l.length ≤ c' + k) :
    (l.drop k).take c' <:+ l.take c := by
  rcases h with rfl | rfl | hk | ⟨hc, hc'⟩
  · rw [show c' = c' + k - k by omega, ← List.drop_take, Nat.sub_add_cancel (Nat.le_add_left _ _)]
    exact List.drop_suffix _ _
  · exact List.nil_suffix
  · rw [List.drop_eq_nil_of_le hk, List.take_nil]
    exact List.nil_suffix
  · rw [List.take_of_length_le hc, List.take_of_length_le (by rw [List.length_drop]; omega)]
    exact List.drop_suffix _ _

/-- An acknowledgement takes MSUs off the front, and the cursor follows: exactly when it freed
one, closely enough unless it overlooks. -/
theorem Round.onAck (h : r.Round start) {bsn : UInt8} {bib : Bool} (hb : bib = r.tx.fib)
    (ho : r.tx.overlooks bsn bib = false) : (r.step (.onAck bsn bib)).Round start := by
  obtain ⟨c, hc, hsuf⟩ := h.resent
  have hun := r.tx.onAck_unacked bsn bib
  have hcur := TxControl.onAck_cursor_same bsn h.method hb
  have hfib : (r.tx.onAck bsn bib).fib = r.tx.fib := (TxControl.onAck_fib bsn bib h.method).trans hb
  have hresend : (r.tx.onAck bsn bib).resend = r.tx.resend := by
    funext m
    rw [TxControl.resend, hfib, TxControl.resend]
  have hle := r.tx.freedBy_length_le bsn
  rw [hc] at hcur
  simp only [TxControl.overlooks, hc, hb, TxControl.unackedLen, true_and,
    decide_eq_false_iff_not] at ho
  refine ⟨(TxControl.onAck_method _ _ _).trans h.method, ?_, ?_⟩
  · show (r.tx.onAck bsn bib).unacked <:+ start
    rw [hun]
    exact (List.drop_suffix _ _).trans h.kept
  have hbelow {c' : ℕ} (h' : c' + (r.tx.freedBy bsn).length = c ∨ c' = 0 ∨
      r.tx.unacked.length ≤ (r.tx.freedBy bsn).length ∨
      r.tx.unacked.length ≤ c ∧ r.tx.unacked.length ≤ c' + (r.tx.freedBy bsn).length) :
      ((r.tx.onAck bsn bib).unacked.take c').map (r.tx.onAck bsn bib).resend <:+ r.resent := by
    rw [hun, hresend]
    exact ((take_drop_suffix h').map _).trans hsuf
  by_cases hfree : r.tx.freedBy bsn = []
  · rw [if_pos hfree] at hcur
    exact ⟨c, hcur, hbelow (.inl (by rw [hfree, List.length_nil, Nat.add_zero]))⟩
  · rw [if_neg hfree, Option.map_some] at hcur
    have hpos := List.length_pos_iff.mpr hfree
    exact ⟨c - 1, hcur, hbelow (by omega)⟩

/-- **Every operation of a round keeps it**, unless it overlooks. -/
theorem Round.step (h : r.Round start) {op : TxOp} (hop : r.Allowed op) (ho : r.Attentive op) :
    (r.step op).Round start := by
  cases op with
  | submit sio sif => exact ⟨h.method, h.kept, h.resent⟩
  | poll => exact h.poll hop
  | onAck bsn bib => exact h.onAck hop.1 ho

/-- The round that an acknowledgement begins, after a run. -/
def begun (before : List TxOp) (bsn : UInt8) (bib : Bool) : Repeat :=
  ⟨(before.foldl TxLog.step (TxLog.init .Basic)).tx.onAck bsn bib, []⟩

/-- **A retransmission round skips nothing that no acknowledgement overlooks.** A negative
acknowledgement begins the round; whatever is polled, submitted and acknowledged in it, when
the next poll returns a new MSU or a FISU, every MSU that is still unacknowledged has been sent
again, in FSN order. -/
theorem resent_of_round (before ops : List TxOp) (bsn : UInt8) {bib : Bool}
    (hnack : bib ≠ (before.foldl TxLog.step (TxLog.init .Basic)).tx.fib)
    (hleft : (begun before bsn bib).tx.unacked ≠ [])
    (hops : Run.Along step (fun r op => r.Allowed op ∧ r.Attentive op) (begun before bsn bib) ops)
    (hend : (ops.foldl step (begun before bsn bib)).tx.pollIndex = none) :
    let r := ops.foldl step (begun before bsn bib)
    r.tx.unacked <:+ (begun before bsn bib).tx.unacked ∧
      r.tx.unacked.map r.tx.resend <:+ r.resent := by
  intro r
  have hm := TxLog.run_method .Basic before
  have hround : r.Round (begun before bsn bib).tx.unacked :=
    Run.invariant_along (Round _) (fun r op h hop => h.step hop.1 hop.2)
      ⟨(TxControl.onAck_method _ _ _).trans hm, List.suffix_refl _, 0,
        (TxControl.onAck_cursor_nack bsn hm hnack).trans (if_neg hleft), List.nil_suffix⟩ hops
  obtain ⟨c, hc, hsuf⟩ := hround.resent
  refine ⟨hround.kept, ?_⟩
  -- the round is over: the cursor is past the end of the buffer
  have hpast : r.tx.unacked.length ≤ c := by
    by_contra hlt
    have hidle : r.tx.basicIndex = none := by
      rwa [TxControl.pollIndex, hround.method] at hend
    simp only [TxControl.basicIndex, hc, Option.filter_some, decide_eq_true (Nat.not_le.mp hlt),
      if_true, reduceCtorEq] at hidle
  rwa [List.take_of_length_le hpast] at hsuf

/-- The three MSUs of a round, with an acknowledgement of the first in the middle of it. -/
theorem resent_three :
    let ops : List TxOp := [.poll, .onAck 0 false, .submit 0x83 [2], .poll, .poll]
    let r := ops.foldl step (begun (TxLog.outstanding 3) 127 false)
    r.tx.unacked <:+ (begun (TxLog.outstanding 3) 127 false).tx.unacked ∧
      r.tx.unacked.map r.tx.resend <:+ r.resent :=
  resent_of_round (TxLog.outstanding 3) _ 127 (by decide) (by decide) (by decide) (by decide)

/-- Three of five MSUs have been sent again when the first two are acknowledged: the cursor
moves back by one, and the fourth MSU is not sent again. -/
theorem round_skips :
    ¬ ∀ (before ops : List TxOp) (bsn : UInt8) (bib : Bool),
      bib ≠ (before.foldl TxLog.step (TxLog.init .Basic)).tx.fib →
      (begun before bsn bib).tx.unacked ≠ [] → Run.Along step Allowed (begun before bsn bib) ops →
      (ops.foldl step (begun before bsn bib)).tx.pollIndex = none →
      let r := ops.foldl step (begun before bsn bib)
      r.tx.unacked <:+ (begun before bsn bib).tx.unacked ∧
        r.tx.unacked.map r.tx.resend <:+ r.resent := by
  intro h
  have hskip := (h (TxLog.outstanding 5) [.poll, .poll, .poll, .onAck 1 false, .poll] 127 false
    (by decide) (by decide) (by decide) (by decide)).2
  revert hskip
  decide

end Repeat

end Mtp2
