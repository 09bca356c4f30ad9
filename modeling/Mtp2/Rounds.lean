import Mtp2.Channel
import Mtp2.Lib.GoBackN

/-!
# MTP2 — the Basic method as go-back-N

Under the Basic method the two controllers refine the go-back-N protocol of
`Mtp2.Lib.GoBackN`: the indicator bits are the parity of the rounds, `nack_pending` is the
receiver waiting for the round it asked for, and `basic_cursor` is the next position to
send. `RoundRel` adds this to the window relation; each operation of the code keeps it as
long as at most 128 MSUs are outstanding.

Parts of the abstract progress argument the code meets only under a condition, and the
conditions are about the code's own state: `overlooks` is an acknowledgement that moves the
retransmission cursor past MSUs still to be sent again, `awaitedAgain` is a retransmission
the receiver will not ask for again, and `exposes` says that a gap has gone unseen: a fill-in
FISU does not show it, whatever its FSN.

* **`RoundRel.poll`**, **`RoundRel.deliver_msu`**, **`RoundRel.takeAck`** — the refinement;
* **`RoundRel.exposes_iff`** — the code's state `exposes` exactly when the model has given up;
* **`Channel.basic_accepts_in_order`** — in-order delivery in every run whose polls keep the
  outstanding MSUs within the sequence space.
-/

namespace Mtp2

open SlidingWindow (Frame)

/-- The indicator bit of a round; the first round has bit 1. -/
def roundBit (r : ℕ) : Bool := r % 2 = 0

@[simp] theorem roundBit_succ (r : ℕ) : roundBit (r + 1) = !roundBit r := by
  unfold roundBit
  rcases Nat.mod_two_eq_zero_or_one r with h | h <;> simp [Nat.add_mod, h]

/-- Neighbouring rounds are told apart by their bits. -/
theorem roundBit_eq_iff {r r' : ℕ} (hle : r ≤ r') (hnear : r' ≤ r + 1) :
    roundBit r = roundBit r' ↔ r = r' := by
  refine ⟨fun heq => ?_, fun heq => by rw [heq]⟩
  by_contra hne
  rw [show r' = r + 1 by omega, roundBit_succ] at heq
  exact Bool.not_ne_self _ heq.symm

/-- A position ahead of the awaited one, read off the sequence numbers of a window of 63. -/
theorem ahead_iff {i recv : ℕ} (hlt : i < recv + 63) (hgt : recv < i + 63) :
    1 < seqForward (seqOf i) (seqOf (recv + 127)) ∧
      seqForward (seqOf i) (seqOf (recv + 127)) < 64 ↔ recv < i := by
  rw [UInt8.lt_iff_toNat_lt, UInt8.lt_iff_toNat_lt, seqForward_toNat, seqOf_toNat, seqOf_toNat,
    show (1 : UInt8).toNat = 1 from rfl, show (64 : UInt8).toNat = 64 from rfl]
  omega

namespace TxControl

/-- The position a retransmission round sends next; all of them are sent without a round. -/
def nextPos (t : TxControl) (base len : ℕ) : ℕ :=
  match t.basicCursor with
  | none => len
  | some c => min (base + c) len

/-- A poll that numbers a new MSU finds fewer than `W` outstanding. -/
def Roomy (W : ℕ) (t : TxControl) : Prop :=
  t.basicIndex = none → t.pending ≠ [] → t.unackedLen < W

instance (W : ℕ) (t : TxControl) : Decidable (t.Roomy W) := by unfold Roomy; infer_instance

/-- The acknowledgement moves the cursor of the present round past MSUs that are still
unacknowledged and were not yet sent again: it frees two or more but not all of the buffer,
while the cursor stands at index 2 or later. -/
def overlooks (t : TxControl) (bsn : UInt8) (bib : Bool) : Bool :=
  match t.basicCursor with
  | none => false
  | some c =>
    bib = t.fib ∧ 2 ≤ c ∧ c < t.unackedLen ∧ 2 ≤ (t.freedBy bsn).length ∧
      (t.freedBy bsn).length < t.unackedLen

/-- An acknowledgement of the present round: where the cursor stands then, as a position.
`saturating_sub(1)` keeps it in place when one MSU was freed and moves it on otherwise. -/
theorem nextPos_onAck {t : TxControl} (bsn : UInt8) {bib : Bool} {base len : ℕ}
    (hm : t.method = .Basic) (hb : bib = t.fib) (hlen : base + t.unacked.length = len) :
    let p := (t.onAck bsn bib).nextPos (base + (t.freedBy bsn).length) len
    base + (t.freedBy bsn).length ≤ p ∧ t.nextPos base len ≤ p ∧ p ≤ len ∧
      (t.overlooks bsn bib = false →
        t.nextPos base len = p ∨ p ≤ base + (t.freedBy bsn).length) := by
  have hfreed := t.freedBy_length_le bsn
  have hcur := onAck_cursor_same bsn hm hb
  -- the three cases of `saturating_sub(1)`: no cursor, nothing freed, something freed
  cases hc : t.basicCursor with
  | none =>
    simp only [nextPos, hcur, hc, Option.map_none, ite_self]
    exact ⟨by omega, Nat.le_refl _, Nat.le_refl _, fun _ => .inl trivial⟩
  | some c =>
    by_cases hnil : t.freedBy bsn = []
    · simp only [nextPos, hcur, hc, hnil, if_true, List.length_nil, Nat.add_zero]
      exact ⟨by omega, Nat.le_refl _, Nat.min_le_right _ _, fun _ => .inl trivial⟩
    · have hpos := List.length_pos_iff.mpr hnil
      simp only [nextPos, hcur, hc, hnil, if_false, Option.map_some]
      refine ⟨by omega, by omega, Nat.min_le_right _ _, fun ho => ?_⟩
      simp only [overlooks, hc, unackedLen, hb, true_and, decide_eq_false_iff_not] at ho
      omega

end TxControl

/-- An MSU frame of the round the receiver is in. -/
def ofRound (rx : RxControl) (f : TxFrame) : Bool := f.body ≠ .Fisu ∧ f.fib = rx.bib

/-- A retransmission that the receiver has asked for and waits for; it does not ask again. -/
def awaitedAgain (rx : RxControl) (f : TxFrame) : Bool :=
  ofRound rx f ∧ rx.nackPending = true ∧ f.fsn = seqAdd rx.bsn 1

/-- A frame in flight that will bring the receiver up to date, or show it a gap. -/
def shows (tx : TxControl) (rx : RxControl) (data : List TxFrame) : Bool :=
  ∃ f ∈ data, ofRound rx f ∧ (f.fsn = tx.lastFsn ∨
    1 < seqForward f.fsn rx.bsn ∧ seqForward f.fsn rx.bsn < 64 ∧
      ∀ f' ∈ data, ofRound rx f' → seqAdd f'.fsn 1 ≠ f.fsn)

/-- MSUs are missing, and nothing in flight or still to be sent will tell the receiver. -/
def exposes (tx : TxControl) (rx : RxControl) (data : List TxFrame) : Bool :=
  tx.fib = rx.bib ∧ rx.bsn ≠ tx.lastFsn ∧ tx.basicIndex = none ∧ tx.pending = [] ∧
    shows tx rx data = false

/-- The controllers and their channels as a go-back-N state. -/
structure RoundRel (tx : TxControl) (rx : RxControl) (data : List TxFrame)
    (acks : List (UInt8 × Bool)) (g : GoBackN.State Payload) : Prop where
  rel : WindowRel roundBit tx rx data acks g.toState
  txMethod : tx.method = .Basic
  rxMethod : rx.method = .Basic
  fib : tx.fib = roundBit g.sRound
  bib : rx.bib = roundBit g.rRound
  nack : rx.nackPending = g.nack
  pos : g.pos = tx.nextPos g.base g.sent.length

variable {tx : TxControl} {rx : RxControl} {data rest : List TxFrame}
  {acks ackRest : List (UInt8 × Bool)} {g : GoBackN.State Payload} {W : ℕ}

theorem roundRel_init : RoundRel (.new .Basic) (.new .Basic) [] [] GoBackN.State.init :=
  ⟨windowRel_init .Basic, rfl, rfl, rfl, rfl, rfl, rfl⟩

namespace RoundRel

theorem unacked_length (h : RoundRel tx rx data acks g) :
    g.base + tx.unacked.length = g.sent.length := by
  rw [h.rel.tracks.unacked_length, Nat.add_sub_cancel' h.rel.tracks.base_le]

/-- With no round going on, everything sent has been sent. -/
theorem pos_of_idle (h : RoundRel tx rx data acks g) (hidle : tx.basicIndex = none) :
    g.pos = g.sent.length := by
  rw [h.pos, TxControl.nextPos]
  cases hc : tx.basicCursor with
  | none => rfl
  | some c =>
    have hlen := h.unacked_length
    have hle : ¬ c < tx.unacked.length := by
      simpa [TxControl.basicIndex, hc, Option.filter_some] using hidle
    show min (g.base + c) g.sent.length = _
    omega

theorem submit (h : RoundRel tx rx data acks g) (sio : UInt8) (sif : List UInt8) :
    RoundRel (tx.submit sio sif) rx data acks (g.submit (sio, sif)) :=
  ⟨h.rel.submit sio sif, h.txMethod, h.rxMethod, h.fib, h.bib, h.nack, h.pos⟩

/-! ## Sending -/

/-- A fill-in goes out with the present forward fields. -/
theorem fill (h : RoundRel tx rx data acks g) :
    RoundRel tx rx (data ++ [tx.fill]) acks g.fill where
  rel := by
    have hfill : tx.fill = frameOf roundBit ⟨none, g.sent.length, g.sRound⟩ := by
      rw [TxControl.fill, h.rel.tracks.lastFsn, h.fib]; rfl
    rw [hfill]
    exact h.rel.push ⟨none, g.sent.length, g.sRound⟩ h.rel.tracks rfl
  txMethod := h.txMethod
  rxMethod := h.rxMethod
  fib := h.fib
  bib := h.bib
  nack := h.nack
  pos := h.pos

/-- Dropping a cursor that has run off the buffer moves nothing. -/
theorem dropCursor (h : RoundRel tx rx data acks g) (hidle : tx.basicIndex = none) :
    RoundRel { tx with basicCursor := none } rx data acks g where
  rel := ⟨h.rel.tracks.of_fields rfl rfl, h.rel.queue, h.rel.awaits, h.rel.data_eq, h.rel.acks_eq⟩
  txMethod := h.txMethod
  rxMethod := h.rxMethod
  fib := h.fib
  bib := h.bib
  nack := h.nack
  pos := h.pos_of_idle hidle

/-- A new MSU goes out between rounds. -/
theorem number (h : RoundRel tx rx data acks g) {sio : UInt8} {sif : List UInt8}
    {ps : List Payload} (hidle : tx.basicIndex = none) :
    RoundRel { tx.number sio sif ps with basicCursor := none } rx
      (data ++ [⟨seqAdd tx.lastFsn 1, tx.fib, .Msu sio sif⟩]) acks (g.number (sio, sif) ps) where
  rel := by
    rw [h.rel.tracks.nextFsn, h.fib]
    exact h.rel.number g.sRound ((h.rel.tracks.number sio sif ps).of_fields rfl rfl) rfl
  txMethod := h.txMethod
  rxMethod := h.rxMethod
  fib := h.fib
  bib := h.bib
  nack := h.nack
  pos := by
    show g.pos + 1 = (g.sent ++ [(sio, sif)]).length
    rw [h.pos_of_idle hidle, List.length_append, List.length_singleton]

/-- The entry at the cursor is the next position of the round. -/
theorem cursor_entry (h : RoundRel tx rx data acks g) {i : ℕ} (hc : tx.basicCursor = some i)
    (hi : i < tx.unacked.length) :
    ∃ p, g.pos = g.base + i ∧ g.sent[g.pos]? = some p ∧
      tx.resend tx.unacked[i] = ⟨seqOf g.pos, tx.fib, .Msu p.1 p.2⟩ := by
  have hlen := h.unacked_length
  have hpos : g.pos = g.base + i := by
    rw [h.pos, TxControl.nextPos, hc]
    show min (g.base + i) g.sent.length = _
    omega
  obtain ⟨p, hp, hframe⟩ := h.rel.tracks.resend hi
  exact ⟨p, hpos, by rw [hpos, hp], by rw [hpos, hframe]⟩

/-- The entry at the cursor is the next position of the round. -/
theorem resend (h : RoundRel tx rx data acks g) {i : ℕ} {p : Payload}
    (hi : i < tx.unacked.length) (hpos : g.pos = g.base + i) :
    RoundRel { tx with basicCursor := some (i + 1) } rx
      (data ++ [⟨seqOf g.pos, tx.fib, .Msu p.1 p.2⟩]) acks (g.resend p) where
  rel := by
    rw [h.fib]
    exact h.rel.push ⟨some (g.pos, p), g.sent.length, g.sRound⟩ (h.rel.tracks.of_fields rfl rfl) rfl
  txMethod := h.txMethod
  rxMethod := h.rxMethod
  fib := h.fib
  bib := h.bib
  nack := h.nack
  pos := by
    have hlen := h.unacked_length
    show g.pos + 1 = min (g.base + (i + 1)) g.sent.length
    omega

/-- What a poll does to the abstract state, besides putting a frame on the channel. -/
structure Sends (g g' : GoBackN.State Payload) : Prop where
  base : g'.base = g.base
  recv : g'.recv = g.recv
  total : g'.sent ++ g'.queue = g.sent ++ g.queue
  grows : g.sent <+: g'.sent

theorem Sends.take {g' : GoBackN.State Payload} (h : Sends g g') {n : ℕ}
    (hn : n ≤ g.sent.length) : g'.sent.take n = g.sent.take n := by
  obtain ⟨more, hmore⟩ := h.grows
  rw [← hmore, List.take_append_of_le_length hn]

theorem Sends.delivered {g' : GoBackN.State Payload} (h : Sends g g') (hi : GoBackN.Inv W g)
    {submitted accepted : List Payload} (hd : Channel.Delivered submitted accepted g.toState) :
    Channel.Delivered submitted accepted g'.toState where
  submitted := hd.submitted.trans h.total.symm
  accepted := by rw [h.recv, h.take hi.window.recv_le]; exact hd.accepted

/-- **A poll is a step of go-back-N.** -/
theorem poll (h : RoundRel tx rx data acks g) (hi : GoBackN.Inv W g) (hroom : tx.Roomy W) :
    ∃ g', RoundRel tx.poll.2 rx (data ++ [tx.poll.1]) acks g' ∧ GoBackN.Inv W g' ∧
      (∀ e, GoBackN.Covered e g → GoBackN.Covered e g') ∧ Sends g g' := by
  have hpolled := tx.polled
  generalize tx.pollIndex = o, tx.poll = r at hpolled ⊢
  cases hpolled with
  | pcrFresh hm _ _ => rw [h.txMethod] at hm; cases hm
  | pcrAgain hm _ _ => rw [h.txMethod] at hm; cases hm
  | pcrFill hm _ _ => rw [h.txMethod] at hm; cases hm
  | @basicAgain _ i hc hlt =>
    -- the entry at the cursor is that of the next position
    obtain ⟨p, hpos, hget, hframe⟩ := h.cursor_entry hc hlt
    refine ⟨g.resend p, ?_, hi.resend hget, fun _ hcov => hcov.resend hget, rfl, rfl, rfl,
      List.prefix_refl _⟩
    rw [hframe]
    exact h.resend hlt hpos
  | @basicFresh _ hidle sio sif ps hp =>
    -- a new MSU goes out, so the round is over
    have hpos := h.pos_of_idle hidle
    have hlen := h.unacked_length
    have hlt : tx.unacked.length < W := hroom hidle (by rw [hp]; exact List.cons_ne_nil _ _)
    have hqueue : g.queue ≠ [] := by rw [← h.rel.queue, hp]; exact List.cons_ne_nil _ _
    refine ⟨g.number (sio, sif) ps, h.number hidle, hi.number _ _ hpos (by omega),
      fun _ hcov => hcov.number hi _ _ hpos hqueue, rfl, rfl, ?_, List.prefix_append _ _⟩
    show g.sent ++ [(sio, sif)] ++ ps = g.sent ++ g.queue
    rw [← h.rel.queue, hp, List.append_assoc, List.singleton_append]
  | basicFill _ hidle hp =>
    exact ⟨g.fill, h.fill.dropCursor hidle, hi.fill, fun _ hcov => hcov.fill, rfl, rfl, rfl,
      List.prefix_refl _⟩

/-! ## Receiving -/

/-- A delivered fill-in changes nothing. -/
theorem deliver_fill (h : RoundRel tx rx data acks g) (hi : GoBackN.Inv W g) {f : TxFrame}
    (hd : data = f :: rest) (hf : f.body = .Fisu) :
    RoundRel tx rx rest acks g.ignore ∧ GoBackN.Inv W g.ignore ∧
      (∀ e, GoBackN.Covered e g → GoBackN.Covered e g.ignore) ∧ g.ignore.recv = g.recv := by
  obtain ⟨hrel, hrecv⟩ := h.rel.deliver_fill hd hf
  obtain ⟨f', rest', hg, rfl, -⟩ := h.rel.data_cons hd
  have hpos : f'.position = none := by
    cases hb : f'.body with
    | none => rw [Frame.position, hb]; rfl
    | some b => simp [frameOf, hb] at hf
  have hne : f'.position ≠ some g.recv := by rw [hpos]; exact fun heq => by cases heq
  refine ⟨⟨hrel, h.txMethod, h.rxMethod, h.fib, h.bib, h.nack, ?_⟩, hi.ignore hg hne,
    fun _ hcov => hcov.ignore hi hg hne fun _ => hpos, hrecv⟩
  rw [GoBackN.State.ignore, SlidingWindow.State.deliver_base, SlidingWindow.State.deliver_sent]
  exact h.pos

/-- **A delivered MSU is a step of go-back-N.** It is accepted, asks for a round or changes
nothing; within half a window a calm receiver overlooks no gap. -/
theorem deliver_msu (h : RoundRel tx rx data acks g) (hi : GoBackN.Inv W g) (hW : W ≤ 128)
    {f : TxFrame} (hd : data = f :: rest) {sio : UInt8} {sif : List UInt8}
    (hf : f.body = .Msu sio sif) :
    ∃ g', RoundRel tx (rx.onMsu f.fsn sio sif).2 rest acks g' ∧ GoBackN.Inv W g' ∧
      (W ≤ 63 → ∀ e, GoBackN.Covered e g → GoBackN.Covered e g') ∧
      g'.toState = g.toState.deliver ∧
      g.sent.take g.toState.deliver.recv
        = g.sent.take g.recv ++ (rx.onMsu f.fsn sio sif).1.delivered := by
  have hmod := fun f' hf' i p hb => hi.mod_eq_iff hW (f := f') (i := i) (a := p) hf' hb
  obtain ⟨hrel, htake⟩ := h.rel.deliver_msu hi.window hmod hd hf
  obtain ⟨f', rest', hg, rfl, -⟩ := h.rel.data_cons hd
  have hpos : g.pos = tx.nextPos g.toState.deliver.base g.toState.deliver.sent.length := by
    rw [SlidingWindow.State.deliver_base, SlidingWindow.State.deliver_sent]
    exact h.pos
  cases hb : f'.body with
  | none => simp [frameOf, hb] at hf
  | some b =>
    obtain ⟨i, p⟩ := b
    have hmem : f' ∈ g.data := by rw [hg]; exact List.mem_cons_self
    have hfsn : (frameOf roundBit f').fsn = seqOf i := by simp [frameOf, hb]
    have hp : f'.position = some i := by rw [Frame.position, hb]; rfl
    have hmod := hmod f' hmem i p hb
    rw [hfsn] at hrel htake ⊢
    -- accepted, or out of sequence
    by_cases heq : i = g.recv
    · have hacc := RxControl.onMsu_awaited sio sif h.rel.awaits (hmod.mpr heq)
      rw [heq] at hp
      refine ⟨g.accept, ⟨hrel, h.txMethod, ?_, h.fib, ?_, ?_, hpos⟩, hi.accept hg hp,
        fun _ _ hcov => hcov.accept hi hg hp, rfl, htake⟩
      · rw [hacc]; exact h.rxMethod
      · rw [hacc]; exact h.bib
      · rw [hacc]; rfl
    · have hne : seqForward (seqOf i) rx.lastReceived ≠ 1 := by
        rw [h.rel.awaits]; exact mt seqForward_eq_one_iff.mp (mt hmod.mp heq)
      have hrx := RxControl.onMsu_basic sio sif h.rxMethod hne
      have hne' : f'.position ≠ some g.recv := by
        rw [hp]; exact fun h' => heq (Option.some.inj h')
      by_cases hgap : (seqForward (seqOf i) rx.lastReceived).toUInt16 < seqHalf ∧
          rx.nackPending = false
      · -- a gap, and no request pending: the BIB toggles
        rw [if_pos hgap] at hrx
        have hcalm : g.nack = false := by rw [← h.nack]; exact hgap.2
        have hlt : g.recv < i :=
          Nat.lt_of_le_of_ne ((hi.fresh hcalm f' hmem).2 i hp) fun h' => heq h'.symm
        refine ⟨g.reject, ⟨hrel, h.txMethod, ?_, h.fib, ?_, ?_, hpos⟩,
          hi.reject hg hcalm hp hlt, fun _ _ hcov => hcov.reject hi hg hcalm hp hlt, rfl, htake⟩
        · rw [hrx]; exact h.rxMethod
        · rw [hrx]
          show (!rx.bib) = roundBit (g.rRound + 1)
          rw [h.bib, roundBit_succ]
        · rw [hrx]; rfl
      · rw [if_neg hgap] at hrx
        refine ⟨g.ignore, ⟨hrel, h.txMethod, ?_, h.fib, ?_, ?_, hpos⟩, hi.ignore hg hne',
          fun hW' _ hcov => hcov.ignore hi hg hne' fun hcalm => ?_, rfl, htake⟩
        · rw [hrx]; exact h.rxMethod
        · rw [hrx]; exact h.bib
        · rw [hrx]; exact h.nack
        · -- a calm receiver less than half a window behind recognises the gap
          refine absurd ⟨?_, h.nack.trans hcalm⟩ hgap
          have hge := (hi.fresh hcalm f' hmem).2 i hp
          obtain ⟨-, -, hlt⟩ := hi.window.near_of_head hmem hb
          have := hi.window.window
          have := hi.window.base_le
          rw [h.rel.awaits, gap_iff]
          omega

theorem loseData (h : RoundRel tx rx data acks g) (i : ℕ) :
    RoundRel tx rx (data.eraseIdx i) acks (g.loseData i) :=
  ⟨h.rel.loseData i, h.txMethod, h.rxMethod, h.fib, h.bib, h.nack, h.pos⟩

/-- The frames of the receiver's round, in the code's terms and in the model's. -/
theorem ofRound_iff (h : RoundRel tx rx data acks g) (hi : GoBackN.Inv W g)
    {f : Frame Payload ℕ} (hf : f ∈ g.data) :
    ofRound rx (frameOf roundBit f) = true ↔ f.tag = g.rRound ∧ ∃ i, f.position = some i := by
  obtain ⟨hle, hge⟩ := hi.data_tag f hf
  have htag : roundBit f.tag = roundBit g.rRound ↔ f.tag = g.rRound :=
    roundBit_eq_iff (Nat.le_trans hle hi.round_le) hge
  cases hb : f.body with
  | none => simp [ofRound, frameOf, Frame.position, hb]
  | some b =>
    obtain ⟨i, p⟩ := b
    simp [ofRound, frameOf, Frame.position, hb, h.bib, htag]

theorem frameOf_fsn {f : Frame Payload ℕ} {i : ℕ} (hp : f.position = some i) :
    (frameOf roundBit f).fsn = seqOf i := by
  obtain ⟨⟨j, p⟩, hb, rfl⟩ := Option.map_eq_some_iff.mp hp
  simp [frameOf, hb]

/-- An awaited retransmission, in the model's terms. -/
theorem awaitedAgain_of_position (h : RoundRel tx rx data acks g) (hi : GoBackN.Inv W g)
    {f : Frame Payload ℕ} (hf : f ∈ g.data) (hn : g.nack = true) (htag : f.tag = g.rRound)
    (hp : f.position = some g.recv) : awaitedAgain rx (frameOf roundBit f) = true := by
  refine decide_eq_true ⟨(h.ofRound_iff hi hf).mpr ⟨htag, _, hp⟩, h.nack.trans hn, ?_⟩
  rw [frameOf_fsn hp, RxControl.bsn, h.rel.awaits, seqAdd_seqOf_one, seqOf_inj]
  omega

/-- The bounds on the positions in flight that let sequence numbers stand for them. -/
theorem position_near (hi : GoBackN.Inv 63 g) {f : Frame Payload ℕ} (hf : f ∈ g.data) {i : ℕ}
    (hp : f.position = some i) :
    i < g.sent.length ∧ g.recv < i + 63 ∧ g.sent.length ≤ g.recv + 63 := by
  obtain ⟨⟨j, p⟩, hb, rfl⟩ := Option.map_eq_some_iff.mp hp
  -- a frame is no older than the window, and the receiver has not passed it
  obtain ⟨hlt, hnear, -⟩ := hi.window.data_body f hf j p hb
  have := (hi.window.data_hi f hf).2
  have := hi.recv_lt_hi f hf j (by rw [Frame.position, hb]; rfl)
  have := hi.window.window
  have := hi.window.base_le
  show j < _ ∧ _ < j + 63 ∧ _
  omega

/-- The converse of `pos_of_idle`: a sender at the end has no round going on. -/
theorem idle_of_pos (h : RoundRel tx rx data acks g) (hpos : g.pos = g.sent.length) :
    tx.basicIndex = none := by
  have hlen := h.unacked_length
  rw [h.pos, TxControl.nextPos] at hpos
  cases hc : tx.basicCursor with
  | none => rw [TxControl.basicIndex, hc, Option.filter_none]
  | some c =>
    rw [hc] at hpos
    have hle : ¬ c < tx.unacked.length := by
      have : min (g.base + c) g.sent.length = g.sent.length := hpos
      omega
    simp [TxControl.basicIndex, hc, Option.filter_some, hle]

/-- What shows the receiver a gap, in the code's terms and in the model's. -/
theorem shows_iff (h : RoundRel tx rx data acks g) (hi : GoBackN.Inv 63 g) :
    Mtp2.shows tx rx data = true ↔ GoBackN.Shows g := by
  have hlast : tx.lastFsn = seqOf (g.sent.length + 127) := h.rel.tracks.lastFsn
  have hbsn : rx.bsn = seqOf (g.recv + 127) := h.rel.awaits
  constructor
  · intro hs
    obtain ⟨f', hf', hof, hor⟩ := of_decide_eq_true hs
    rw [h.rel.data_eq] at hf' hor
    obtain ⟨f, hf, rfl⟩ := List.mem_map.mp hf'
    obtain ⟨htag, i, hp⟩ := (h.ofRound_iff hi hf).mp hof
    obtain ⟨hi1, hi2, hi3⟩ := position_near hi hf hp
    rw [frameOf_fsn hp] at hor
    refine ⟨f, hf, htag, i, hp, ?_⟩
    rcases hor with hnew | ⟨h1, h64, hgap⟩
    · rw [hlast, seqOf_inj] at hnew
      exact .inl (by omega)
    · rw [hbsn] at h1 h64
      have hgt : g.recv < i := (ahead_iff (by omega) (by omega)).mp ⟨h1, h64⟩
      refine .inr ⟨hgt, fun f₁ hf₁ htag₁ hp₁ => ?_⟩
      refine hgap _ (List.mem_map_of_mem hf₁) ((h.ofRound_iff hi hf₁).mpr ⟨htag₁, _, hp₁⟩) ?_
      rw [frameOf_fsn hp₁, seqAdd_seqOf_one, Nat.sub_add_cancel (by omega)]
  · rintro ⟨f, hf, htag, i, hp, hor⟩
    obtain ⟨hi1, hi2, hi3⟩ := position_near hi hf hp
    refine decide_eq_true ⟨frameOf roundBit f, ?_, (h.ofRound_iff hi hf).mpr ⟨htag, i, hp⟩, ?_⟩
    · rw [h.rel.data_eq]
      exact List.mem_map_of_mem hf
    rw [frameOf_fsn hp]
    rcases hor with hnew | ⟨hgt, hgap⟩
    · rw [hlast, seqOf_inj]
      exact .inl (by omega)
    · rw [hbsn]
      obtain ⟨h1, h64⟩ := (ahead_iff (by omega) (by omega)).mpr hgt
      refine .inr ⟨h1, h64, fun f'' hf'' hof => ?_⟩
      -- a frame of the round just before `i` would be the missing predecessor
      rw [h.rel.data_eq] at hf''
      obtain ⟨f₁, hf₁, rfl⟩ := List.mem_map.mp hf''
      obtain ⟨htag₁, j, hp₁⟩ := (h.ofRound_iff hi hf₁).mp hof
      obtain ⟨hj1, hj2, -⟩ := position_near hi hf₁ hp₁
      rw [frameOf_fsn hp₁, seqAdd_seqOf_one, Ne, seqOf_inj]
      intro hmod
      exact hgap f₁ hf₁ htag₁ (by rw [hp₁]; congr 1; omega)

/-- **The code's state is exposed exactly when the model has given something up.** -/
theorem exposes_iff (h : RoundRel tx rx data acks g) (hi : GoBackN.Inv 63 g) :
    exposes tx rx data = true ↔ GoBackN.GivenUp g := by
  have hnear : g.recv ≤ g.sent.length ∧ g.sent.length ≤ g.recv + 63 := by
    have := hi.window.window
    have := hi.window.base_le
    exact ⟨hi.window.recv_le, by omega⟩
  have hlacks : rx.bsn ≠ tx.lastFsn ↔ g.recv < g.sent.length := by
    rw [RxControl.bsn, h.rel.awaits, h.rel.tracks.lastFsn, Ne, seqOf_inj]
    omega
  have hround : tx.fib = rx.bib ↔ g.sRound = g.rRound := by
    rw [h.fib, h.bib]
    exact roundBit_eq_iff hi.round_le hi.round_near
  have hshows : Mtp2.shows tx rx data = false ↔ ¬ GoBackN.Shows g := by
    rw [← h.shows_iff hi, Bool.not_eq_true]
  constructor
  · intro he
    obtain ⟨hbit, hlast, hidle, hpend, hs⟩ := of_decide_eq_true he
    exact ⟨hround.mp hbit, hlacks.mp hlast, h.pos_of_idle hidle, h.rel.queue.symm.trans hpend,
      hshows.mp hs⟩
  · intro hg
    exact decide_eq_true ⟨hround.mpr hg.round, hlacks.mpr hg.lacks, h.idle_of_pos hg.done,
      h.rel.queue.trans hg.queue, hshows.mpr hg.unseen⟩

/-- **The loss of a frame**, other than an awaited retransmission: whether the direction is
exposed depends on what is left. -/
theorem lose_covered (h : RoundRel tx rx data acks g) (hi : GoBackN.Inv 63 g) {i : ℕ} {e : Bool}
    (hcov : GoBackN.Covered e g) (hloss : ∀ f, data[i]? = some f → awaitedAgain rx f = false) :
    GoBackN.Covered (exposes tx rx (data.eraseIdx i)) (g.loseData i) := by
  have hexp := (h.loseData i).exposes_iff (hi.loseData i)
  refine hcov.loseData (fun f hf hn htag hp => ?_) (fun he hround hlt => ?_) hexp.mp
  · have hmem : f ∈ g.data := List.mem_of_getElem? hf
    have hget : data[i]? = some (frameOf roundBit f) := by
      rw [h.rel.data_eq, List.getElem?_map, hf]; rfl
    have := h.awaitedAgain_of_position hi hmem hn htag hp
    rw [hloss _ hget] at this
    cases this
  · by_contra hno
    have hpos : g.pos = g.sent.length :=
      Nat.le_antisymm hi.pos_le (Nat.le_of_not_lt fun hlt' => hno (.inl hlt'))
    have hgone : GoBackN.GivenUp (g.loseData i) := ⟨hround, hlt, hpos,
      by_contra fun hq => hno (.inr (.inl hq)), fun hs => hno (.inr (.inr hs))⟩
    rw [hexp.mpr hgone] at he
    cases he

/-! ## Acknowledging -/

/-- The BIB says which round the receiver is in. -/
theorem sendAck (h : RoundRel tx rx data acks g) :
    RoundRel tx rx data (acks ++ [(rx.bsn, rx.bib)]) g.sendAck :=
  ⟨h.rel.sendAck g.rRound h.bib.symm, h.txMethod, h.rxMethod, h.fib, h.bib, h.nack, h.pos⟩

theorem loseAck (h : RoundRel tx rx data acks g) (i : ℕ) :
    RoundRel tx rx data (acks.eraseIdx i) (g.loseAck i) :=
  ⟨h.rel.loseAck i, h.txMethod, h.rxMethod, h.fib, h.bib, h.nack, h.pos⟩

/-- **An acknowledgement is a step of go-back-N**: a new round if its BIB asks for one, and
otherwise the present round goes on, passing over nothing unless it `overlooks`. -/
theorem takeAck (h : RoundRel tx rx data acks g) (hi : GoBackN.Inv W g) (hW : W ≤ 128)
    {bsn : UInt8} {bib : Bool} (hd : acks = (bsn, bib) :: ackRest) :
    ∃ g', RoundRel (tx.onAck bsn bib) rx data ackRest g' ∧ GoBackN.Inv W g' ∧
      (tx.overlooks bsn bib = false → ∀ e, GoBackN.Covered e g → GoBackN.Covered e g') ∧
      g'.toState = g.toState.takeAck (g.base + (tx.freedBy bsn).length) := by
  obtain ⟨b, hb, -, hrel⟩ := h.rel.takeAck hi.window hW hd
  obtain ⟨k, krest, hk, hkeq, rfl⟩ := h.rel.acks_cons hd
  have hmem : k ∈ g.acks := by rw [hk]; exact List.mem_cons_self
  have hfreed := h.rel.freed_le hi.window hW hmem hkeq
  have hupto := (hi.window.ack_mem k hmem).2
  have htag := hi.ack_tag k hmem
  have hbib : bib = roundBit k.tag := congrArg Prod.snd hkeq
  have hlen := h.unacked_length
  have hlen' : g.base + (tx.freedBy bsn).length ≤ g.sent.length :=
    Nat.le_trans (Nat.le_trans hfreed hupto) hi.window.recv_le
  have hfib := TxControl.onAck_fib bsn bib h.txMethod
  by_cases hround : k.tag = g.sRound
  · -- the present round: the cursor moves back by one if anything was freed
    have hsame : bib = tx.fib := by rw [hbib, h.fib, hround]
    set p := (tx.onAck bsn bib).nextPos b g.sent.length
    obtain ⟨hbp, hpp, hpl, hov⟩ := TxControl.nextPos_onAck bsn h.txMethod hsame hlen
    rw [← hb] at hbp hpp hpl hov
    rw [← h.pos] at hpp hov
    refine ⟨g.takeAck b p, ⟨hrel, (TxControl.onAck_method tx bsn bib).trans h.txMethod, h.rxMethod,
      ?_, h.bib, h.nack, rfl⟩, hi.takeAck hk (by omega) (by omega) hbp hpp hpl,
      fun ho _ hcov => hcov.takeAck hpp ((hov ho).imp_right fun hle => by omega), by rw [← hb]; rfl⟩
    rw [hfib, hsame]; exact h.fib
  · obtain ⟨hkt, hr, -⟩ := hi.round_of_request hk hround
    have hne : bib ≠ tx.fib := by
      rw [hbib, h.fib, hkt, roundBit_succ]
      exact Bool.not_ne_self _
    have hcur := TxControl.onAck_cursor_nack bsn h.txMethod hne
    refine ⟨g.restart b, ⟨hrel, (TxControl.onAck_method tx bsn bib).trans h.txMethod, h.rxMethod,
      ?_, h.bib, h.nack, ?_⟩, hi.restart hk hround (by omega) (by omega),
      fun _ _ hcov => hcov.restart (by omega) (by omega), by rw [← hb]; rfl⟩
    · rw [hfib, hbib, hkt]; rfl
    · -- the round starts at the new base, or there is nothing left to send again
      have hlen'' := hrel.tracks.unacked_length
      show b = (tx.onAck bsn bib).nextPos b g.sent.length
      rw [TxControl.nextPos, hcur]
      by_cases hnil : (tx.onAck bsn bib).unacked = []
      · have hbl : b = g.sent.length := by
          rw [hnil, List.length_nil] at hlen''
          have : g.sent.length - b = 0 := hlen''.symm
          omega
        rw [if_pos hnil]
        cases (tx.freeAcked bsn).basicCursor with
        | none => exact hbl
        | some c =>
          show b = min (b + c) g.sent.length
          omega
      · rw [if_neg hnil]
        show b = min (b + 0) g.sent.length
        omega

end RoundRel

/-! ## In-order delivery under the Basic method -/

namespace Channel

/-- The system stands for a go-back-N state with at most `W` outstanding MSUs. -/
def Rounded (W : ℕ) (c : Channel) : Prop :=
  ∃ g : GoBackN.State Payload,
    RoundRel c.tx c.rx c.data c.acks g ∧ GoBackN.Inv W g ∧ c.Logged g.toState

variable {c : Channel}

theorem rounded_init : (init .Basic).Rounded W :=
  ⟨.init, roundRel_init, GoBackN.inv_init, ⟨rfl, rfl⟩, rfl⟩

/-- A poll numbers a new MSU only while fewer than `W` are unacknowledged. -/
def RoomyStep (W : ℕ) (c : Channel) : ChannelOp → Prop
  | .poll => c.tx.Roomy W
  | _ => True

instance (W : ℕ) (c : Channel) (op : ChannelOp) : Decidable (c.RoomyStep W op) := by
  cases op <;> unfold RoomyStep <;> infer_instance

namespace Rounded

/-- A delivery is a step of go-back-N, whatever the frame. -/
theorem deliver (h : c.Rounded W) (hW : W ≤ 128) : c.deliver.Rounded W := by
  obtain ⟨g, hrel, hi, hlog⟩ := h
  unfold Channel.deliver
  split
  · exact ⟨g, hrel, hi, hlog⟩
  · next f rest hd =>
    split
    · next hf =>
      obtain ⟨hrel', hi', -, hrecv⟩ := hrel.deliver_fill hi hd hf
      have htake : g.sent.take g.toState.deliver.recv = g.sent.take g.recv ++ [] := by
        rw [List.append_nil, show g.toState.deliver.recv = g.recv from hrecv]
      exact ⟨_, hrel', hi', hlog.deliver htake rfl (List.append_nil _).symm rfl⟩
    · next sio sif hf =>
      obtain ⟨g', hrel', hi', -, hst, htake⟩ := hrel.deliver_msu hi hW hd hf
      exact ⟨g', hrel', hi', by rw [hst]; exact hlog.deliver htake rfl rfl rfl⟩

/-- So is an acknowledgement, of the present round or of the next. -/
theorem deliverAck (h : c.Rounded W) (hW : W ≤ 128) : c.deliverAck.Rounded W := by
  obtain ⟨g, hrel, hi, hlog⟩ := h
  unfold Channel.deliverAck
  split
  · exact ⟨g, hrel, hi, hlog⟩
  · next bsn bib rest hd =>
    obtain ⟨g', hrel', hi', -, hst⟩ := hrel.takeAck hi hW hd
    exact ⟨g', hrel', hi', by rw [hst]; exact hlog.takeAck hrel.rel.tracks bsn rfl rfl rfl⟩

/-- **A step of the system is a step of go-back-N.** -/
theorem step (h : c.Rounded W) (hW : W ≤ 128) (op : ChannelOp) (hroom : c.RoomyStep W op) :
    (c.step op).Rounded W := by
  cases op with
  | deliver => exact h.deliver hW
  | deliverAck => exact h.deliverAck hW
  | poll =>
    obtain ⟨g, hrel, hi, hlog⟩ := h
    obtain ⟨g', hrel', hi', -, hsend⟩ := hrel.poll hi hroom
    refine ⟨g', hrel', hi', hsend.delivered hi hlog.toDelivered, ?_⟩
    rw [hsend.base, hsend.take (Nat.le_trans hi.window.base_le hi.window.recv_le)]
    exact hlog.removed
  | submit sio sif =>
    obtain ⟨g, hrel, hi, hlog⟩ := h
    exact ⟨_, hrel.submit sio sif, hi.submit (sio, sif), hlog.toDelivered.submit _, hlog.removed⟩
  | loseData i =>
    obtain ⟨g, hrel, hi, hlog⟩ := h
    exact ⟨_, hrel.loseData i, hi.loseData i, ⟨hlog.submitted, hlog.accepted⟩, hlog.removed⟩
  | sendAck =>
    obtain ⟨g, hrel, hi, hlog⟩ := h
    exact ⟨_, hrel.sendAck, hi.sendAck, ⟨hlog.submitted, hlog.accepted⟩, hlog.removed⟩
  | loseAck i =>
    obtain ⟨g, hrel, hi, hlog⟩ := h
    exact ⟨_, hrel.loseAck i, hi.loseAck i, ⟨hlog.submitted, hlog.accepted⟩, hlog.removed⟩

end Rounded

/-- **Basic-method safety.** In every run whose polls number a new MSU only while fewer than
128 are unacknowledged, the accepted payloads are a prefix of the submitted ones. -/
theorem basic_accepts_in_order {ops : List ChannelOp}
    (h : Run.Along Channel.step (RoomyStep 128) (init .Basic) ops) :
    (ops.foldl Channel.step (init .Basic)).accepted
      <+: (ops.foldl Channel.step (init .Basic)).submitted := by
  obtain ⟨g, -, hi, hlog⟩ := Run.invariant_along (Rounded 128)
    (fun c op hc hroom => hc.step (Nat.le_refl _) op hroom) rounded_init h
  exact (hlog.prefixes hi.window).1

/-- A run with a lost MSU, a negative acknowledgement and the round that repairs it. -/
theorem basic_accepts_in_order_lossy :
    let c := [.submit 1 [7], .submit 2 [8], .poll, .poll, .loseData 0, .deliver, .sendAck,
      .deliverAck, .poll, .poll, .deliver, .deliver].foldl Channel.step (init .Basic)
    c.accepted <+: c.submitted ∧ c.accepted = [(1, [7]), (2, [8])] :=
  ⟨basic_accepts_in_order (by decide), by decide⟩

/-- Submit and poll 129 MSUs, lose all but the last, deliver it. -/
def wrappedRun : List ChannelOp :=
  ((List.range 129).map fun i => ChannelOp.submit (UInt8.ofNat i) []) ++
    List.replicate 129 .poll ++ List.replicate 128 (.loseData 0) ++ [.deliver]

/-- With 129 MSUs outstanding, the last is taken for the first. -/
theorem basic_accepts_out_of_order :
    ¬ ∀ ops : List ChannelOp, (ops.foldl Channel.step (init .Basic)).accepted
      <+: (ops.foldl Channel.step (init .Basic)).submitted := by
  intro h
  have := h wrappedRun
  revert this
  decide +kernel

end Channel

end Mtp2
