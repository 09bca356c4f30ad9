import Mtp2.Window

/-!
# MTP2 — two controllers over lossy in-order channels

A `TxControl` and an `RxControl` of one method, joined by a channel for the frames and a
channel for the backward fields. Either channel may lose an element anywhere; neither
reorders, duplicates or alters one. The logs record what was submitted, what the receiver
accepted and what the transmitter removed from its buffer.

* **`Windowed.step`** — one step of the system is one step of the sliding window, whatever
  the method, as long as the buffer stays within the window;
* **`pcr_accepts_in_order`** — under PCR the N1 threshold bounds the window, so delivery is
  in order and an MSU leaves the buffer only after it was accepted.
-/

namespace Mtp2

open SlidingWindow (State)

/-- A transmit and a receive controller, the channels between them, and the logs. -/
structure Channel where
  tx : TxControl
  rx : RxControl
  data : List TxFrame
  acks : List (UInt8 × Bool)
  submitted : List Payload
  accepted : List Payload
  removed : List Payload
  deriving Repr, DecidableEq

/-- What can happen next. A loss names the position in its channel. -/
inductive ChannelOp where
  | submit (sio : UInt8) (sif : List UInt8)
  | poll
  | deliver
  | loseData (i : ℕ)
  | sendAck
  | deliverAck
  | loseAck (i : ℕ)
  deriving Repr, DecidableEq

namespace Channel

def init (method : RetransmissionMethod) : Channel :=
  ⟨.new method, .new method, [], [], [], [], []⟩

/-- The receiver takes the oldest frame; a FISU is no concern of `on_msu`. -/
def deliver (c : Channel) : Channel :=
  match c.data with
  | [] => c
  | f :: rest =>
    match f.body with
    | .Fisu => { c with data := rest }
    | .Msu sio sif =>
      let received := c.rx.onMsu f.fsn sio sif
      { c with
        rx := received.2
        data := rest
        accepted := c.accepted ++ received.1.delivered }

/-- The transmitter takes the oldest acknowledgement. -/
def deliverAck (c : Channel) : Channel :=
  match c.acks with
  | [] => c
  | (bsn, bib) :: rest =>
    { c with
      tx := c.tx.onAck bsn bib
      acks := rest
      removed := c.removed ++ (c.tx.freedBy bsn).map BufferedMsu.payload }

def step (c : Channel) : ChannelOp → Channel
  | .submit sio sif =>
    { c with tx := c.tx.submit sio sif, submitted := c.submitted ++ [(sio, sif)] }
  | .poll => { c with tx := c.tx.poll.2, data := c.data ++ [c.tx.poll.1] }
  | .deliver => c.deliver
  | .loseData i => { c with data := c.data.eraseIdx i }
  | .sendAck => { c with acks := c.acks ++ [(c.rx.bsn, c.rx.bib)] }
  | .deliverAck => c.deliverAck
  | .loseAck i => { c with acks := c.acks.eraseIdx i }

@[simp] theorem deliver_tx (c : Channel) : c.deliver.tx = c.tx := by
  unfold deliver
  split
  · rfl
  · split <;> rfl

@[simp] theorem deliver_removed (c : Channel) : c.deliver.removed = c.removed := by
  unfold deliver
  split
  · rfl
  · split <;> rfl

/-! ## The logs of a window -/

/-- What was submitted and what was accepted are those of an abstract window. -/
structure Delivered {τ : Type*} (submitted accepted : List Payload) (w : State Payload τ) :
    Prop where
  submitted : submitted = w.sent ++ w.queue
  accepted : accepted = w.sent.take w.recv

/-- The logs of the system are those of an abstract window. -/
structure Logged {τ : Type*} (c : Channel) (w : State Payload τ) : Prop
    extends Delivered c.submitted c.accepted w where
  removed : c.removed = w.sent.take w.base

section Logged

variable {τ : Type*} {submitted accepted : List Payload} {c c' : Channel} {w : State Payload τ}

/-- What is submitted joins the queue, and so the end of the log. -/
theorem Delivered.submit (h : Delivered submitted accepted w) (p : Payload) :
    Delivered (submitted ++ [p]) accepted (w.submit p) where
  submitted := by
    show submitted ++ [p] = w.sent ++ (w.queue ++ [p])
    rw [h.submitted, List.append_assoc]
  accepted := h.accepted

/-- Numbering moves an MSU from the queue to the sent ones, which leaves the log as it is. -/
theorem Delivered.number (h : Delivered submitted accepted w) {p : Payload} {rest : List Payload}
    (tag : τ) (hq : w.queue = p :: rest) (hrecv : w.recv ≤ w.sent.length) :
    Delivered submitted accepted (w.number p rest tag) where
  submitted := by
    show submitted = w.sent ++ [p] ++ rest
    rw [h.submitted, hq, List.append_assoc, List.singleton_append]
  accepted := by
    show accepted = (w.sent ++ [p]).take w.recv
    rw [h.accepted, List.take_append_of_le_length hrecv]

/-- What the receiver accepts is the next of the log. -/
theorem Delivered.deliver {fresh : List Payload} (h : Delivered submitted accepted w)
    (hf : w.sent.take w.deliver.recv = w.sent.take w.recv ++ fresh) :
    Delivered submitted (accepted ++ fresh) w.deliver where
  submitted := by rw [State.deliver_sent, State.deliver_queue, h.submitted]
  accepted := by rw [State.deliver_sent, hf, h.accepted]

/-- Numbering removes nothing. -/
theorem Logged.number (h : c.Logged w) {p : Payload} {rest : List Payload} (tag : τ)
    (hq : w.queue = p :: rest) (hbase : w.base ≤ w.recv) (hrecv : w.recv ≤ w.sent.length)
    (hs : c'.submitted = c.submitted) (ha : c'.accepted = c.accepted)
    (hr : c'.removed = c.removed) : c'.Logged (w.number p rest tag) where
  toDelivered := by rw [hs, ha]; exact h.toDelivered.number tag hq hrecv
  removed := by
    show c'.removed = (w.sent ++ [p]).take w.base
    rw [hr, h.removed, List.take_append_of_le_length (Nat.le_trans hbase hrecv)]

theorem Logged.deliver (h : c.Logged w) {fresh : List Payload}
    (hf : w.sent.take w.deliver.recv = w.sent.take w.recv ++ fresh)
    (hs : c'.submitted = c.submitted) (ha : c'.accepted = c.accepted ++ fresh)
    (hr : c'.removed = c.removed) : c'.Logged w.deliver where
  toDelivered := by rw [hs, ha]; exact h.toDelivered.deliver hf
  removed := by rw [State.deliver_sent, State.deliver_base, hr, h.removed]

/-- An acknowledgement removes from the head of the buffer. -/
theorem Logged.takeAck (h : c.Logged w) (ht : c.tx.Tracks w.sent w.base) (bsn : UInt8)
    (hs : c'.submitted = c.submitted) (ha : c'.accepted = c.accepted)
    (hr : c'.removed = c.removed ++ (c.tx.freedBy bsn).map BufferedMsu.payload) :
    c'.Logged (w.takeAck (w.base + (c.tx.freedBy bsn).length)) where
  submitted := by rw [hs, h.submitted]; rfl
  accepted := by rw [ha, h.accepted]; rfl
  removed := by
    show c'.removed = w.sent.take (w.base + _)
    rw [hr, h.removed, List.take_add, ht.freedBy_payloads bsn]

end Logged

/-- What the logs of a window say: in-order delivery, and no removal before acceptance. -/
theorem Logged.prefixes {τ : Type*} {c : Channel} {w : State Payload τ} {W : ℕ} (h : c.Logged w)
    (hw : SlidingWindow.Inv W w) : c.accepted <+: c.submitted ∧ c.removed <+: c.accepted := by
  rw [h.submitted, h.accepted, h.removed]
  exact ⟨(List.take_prefix _ _).trans (List.prefix_append _ _),
    (List.take_prefix_take_left hw.base_le)⟩

/-! ## The system refines the window -/

/-- The system stands for a window of at most `W` outstanding MSUs. -/
def Windowed (W : ℕ) (c : Channel) : Prop :=
  ∃ w : State Payload Bool,
    WindowRel id c.tx c.rx c.data c.acks w ∧ SlidingWindow.Inv W w ∧ c.Logged w

variable {c : Channel} {W : ℕ}

theorem windowed_init (method : RetransmissionMethod) : (init method).Windowed W :=
  ⟨.init, windowRel_init method, SlidingWindow.inv_init, ⟨rfl, rfl⟩, rfl⟩

namespace Windowed

/-- A poll numbers an MSU, sends one again, or fills in. -/
theorem poll (h : c.Windowed W) (hroom : (c.step .poll).tx.unacked.length ≤ W) :
    (c.step .poll).Windowed W := by
  obtain ⟨w, hrel, hw, hlog⟩ := h
  rcases hrel.tracks.poll with ⟨sio, sif, rest, hp, hp', hframe, ht⟩ |
    ⟨i, p, hi, hget, hp', hframe, ht⟩ | ⟨hp', hframe, ht⟩
  · -- a new MSU
    refine ⟨w.number (sio, sif) rest c.tx.fib, ?_, ?_, ?_⟩
    · rw [step, hframe]
      exact hrel.number c.tx.fib ht hp'
    · refine hw.number _ _ _ ?_
      have hlen := ht.unacked_length
      rw [List.length_append, List.length_singleton] at hlen
      have : c.tx.poll.2.unacked.length ≤ W := hroom
      have := hrel.tracks.base_le
      omega
    · exact hlog.number _ (hrel.queue.symm.trans hp) hw.base_le hw.recv_le rfl rfl rfl
  · -- a buffered MSU again
    refine ⟨w.resend i p c.tx.fib, ?_, hw.resend c.tx.fib hi hget,
      ⟨hlog.submitted, hlog.accepted⟩, hlog.removed⟩
    rw [step, hframe]
    exact hrel.push ⟨some (i, p), w.sent.length, c.tx.fib⟩ ht hp'
  · -- nothing to send but the present FSN
    refine ⟨w.fill c.tx.fib, ?_, hw.fill c.tx.fib, ⟨hlog.submitted, hlog.accepted⟩, hlog.removed⟩
    have hfill : c.tx.fill = frameOf id ⟨none, w.sent.length, c.tx.fib⟩ := by
      rw [TxControl.fill, hrel.tracks.lastFsn]; rfl
    rw [step, hframe, hfill]
    exact hrel.push ⟨none, w.sent.length, c.tx.fib⟩ ht hp'

/-- Within a window of less than 128 the receiver mistakes no number. -/
theorem deliver (h : c.Windowed W) (hW : W < 128) : c.deliver.Windowed W := by
  obtain ⟨w, hrel, hw, hlog⟩ := h
  unfold Channel.deliver
  split
  · exact ⟨w, hrel, hw, hlog⟩
  · next f rest hd =>
    split
    · next hf =>
      obtain ⟨hrel', hrecv⟩ := hrel.deliver_fill hd hf
      have htake : w.sent.take w.deliver.recv = w.sent.take w.recv ++ [] := by
        rw [hrecv, List.append_nil]
      exact ⟨_, hrel', hw.deliver, hlog.deliver htake rfl (List.append_nil _).symm rfl⟩
    · next sio sif hf =>
      obtain ⟨hrel', hrecv⟩ := hrel.deliver_msu hw (fun g hg i p => hw.mod_eq_iff hW hg) hd hf
      exact ⟨_, hrel', hw.deliver, hlog.deliver hrecv rfl rfl rfl⟩

/-- What an acknowledgement frees is in the window. -/
theorem deliverAck (h : c.Windowed W) (hW : W ≤ 128) : c.deliverAck.Windowed W := by
  obtain ⟨w, hrel, hw, hlog⟩ := h
  unfold Channel.deliverAck
  split
  · exact ⟨w, hrel, hw, hlog⟩
  · next bsn bib rest hd =>
    obtain ⟨b, rfl, hw', hrel'⟩ := hrel.takeAck hw hW hd
    exact ⟨_, hrel', hw', hlog.takeAck hrel.tracks bsn rfl rfl rfl⟩

/-- **A step of the system is a step of the window.** -/
theorem step (h : c.Windowed W) (hW : W < 128) (op : ChannelOp)
    (hroom : (c.step op).tx.unacked.length ≤ W) : (c.step op).Windowed W := by
  cases op with
  | poll => exact h.poll hroom
  | deliver => exact h.deliver hW
  | deliverAck => exact h.deliverAck (Nat.le_of_lt hW)
  | submit sio sif =>
    obtain ⟨w, hrel, hw, hlog⟩ := h
    exact ⟨_, hrel.submit sio sif, hw.submit (sio, sif), hlog.toDelivered.submit _, hlog.removed⟩
  | loseData i =>
    obtain ⟨w, hrel, hw, hlog⟩ := h
    exact ⟨_, hrel.loseData i, hw.loseData i, ⟨hlog.submitted, hlog.accepted⟩, hlog.removed⟩
  | sendAck =>
    obtain ⟨w, hrel, hw, hlog⟩ := h
    exact ⟨_, hrel.sendAck c.rx.bib rfl, hw.sendAck _, ⟨hlog.submitted, hlog.accepted⟩,
      hlog.removed⟩
  | loseAck i =>
    obtain ⟨w, hrel, hw, hlog⟩ := h
    exact ⟨_, hrel.loseAck i, hw.loseAck i, ⟨hlog.submitted, hlog.accepted⟩, hlog.removed⟩

end Windowed

/-! ## PCR -/

/-- Under PCR the buffer never grows past N1: the poll that numbers a new MSU checks it. -/
theorem unacked_length_step {params : PcrParams} (hm : c.tx.method = .Pcr params)
    (hlen : c.tx.unacked.length ≤ params.n1) (op : ChannelOp) :
    (c.step op).tx.method = .Pcr params ∧ (c.step op).tx.unacked.length ≤ params.n1 := by
  cases op with
  | poll =>
    show c.tx.poll.2.method = _ ∧ c.tx.poll.2.unacked.length ≤ _
    have hpolled := c.tx.polled
    generalize c.tx.pollIndex = o, c.tx.poll = r at hpolled ⊢
    cases hpolled with
    | basicAgain hb _ _ => rw [hm] at hb; cases hb
    | basicFresh hb _ _ => rw [hm] at hb; cases hb
    | basicFill hb _ _ => rw [hm] at hb; cases hb
    | pcrAgain _ _ _ => exact ⟨hm, hlen⟩
    | pcrFill _ _ _ => exact ⟨hm, hlen⟩
    | @pcrFresh params' hm' hf sio sif rest hp =>
      obtain rfl : params = params' := by rw [hm] at hm'; cases hm'; rfl
      refine ⟨hm, ?_⟩
      -- past N1 the poll would have been forced
      have hroom : c.tx.unacked.length < params.n1 := by
        simp only [TxControl.forced, decide_eq_false_iff_not, not_or, ge_iff_le, Nat.not_le] at hf
        exact hf.1
      show (c.tx.unacked ++ [_]).length ≤ _
      rw [List.length_append, List.length_singleton]
      exact hroom
  | deliverAck =>
    show c.deliverAck.tx.method = _ ∧ c.deliverAck.tx.unacked.length ≤ _
    unfold deliverAck
    split
    · exact ⟨hm, hlen⟩
    · next bsn bib rest _ =>
      refine ⟨(TxControl.onAck_method c.tx bsn bib).trans hm, ?_⟩
      show (c.tx.onAck bsn bib).unacked.length ≤ _
      rw [TxControl.onAck_unacked, List.length_drop]
      omega
  | deliver =>
    show c.deliver.tx.method = _ ∧ c.deliver.tx.unacked.length ≤ _
    rw [deliver_tx]
    exact ⟨hm, hlen⟩
  | submit sio sif => exact ⟨hm, hlen⟩
  | loseData i => exact ⟨hm, hlen⟩
  | sendAck => exact ⟨hm, hlen⟩
  | loseAck i => exact ⟨hm, hlen⟩

/-- What holds of every reachable state under PCR. -/
structure PcrInv (params : PcrParams) (c : Channel) : Prop where
  method : c.tx.method = .Pcr params
  unacked_le : c.tx.unacked.length ≤ params.n1
  windowed : c.Windowed 127

theorem pcrInv_init (params : PcrParams) : (init (.Pcr params)).PcrInv params :=
  ⟨rfl, Nat.zero_le _, windowed_init _⟩

/-- With N1 at most 127 the window stays below 128. -/
theorem PcrInv.step {params : PcrParams} (h : c.PcrInv params) (hn : params.n1 ≤ 127)
    (op : ChannelOp) : (c.step op).PcrInv params := by
  obtain ⟨hm, hlen⟩ := unacked_length_step h.method h.unacked_le op
  exact ⟨hm, hlen, h.windowed.step (by decide) op (Nat.le_trans hlen hn)⟩

/-- **So it does in every reachable state.** -/
theorem pcrInv_run {params : PcrParams} (hn : params.n1 ≤ 127) (ops : List ChannelOp) :
    (ops.foldl Channel.step (init (.Pcr params))).PcrInv params :=
  Run.invariant (PcrInv params) (fun _ op h => h.step hn op) (pcrInv_init params) ops

/-- **PCR is safe end to end.** With N1 within the sequence space, after every interleaving
of submissions, polls, deliveries and losses the accepted payloads are a prefix of the
submitted ones, and what left the buffer had been accepted before. -/
theorem pcr_accepts_in_order {params : PcrParams} (hn : params.n1 ≤ 127) (ops : List ChannelOp) :
    let c := ops.foldl Channel.step (init (.Pcr params))
    c.accepted <+: c.submitted ∧ c.removed <+: c.accepted := by
  obtain ⟨w, -, hw, hlog⟩ := (pcrInv_run hn ops).windowed
  exact hlog.prefixes hw

/-- A run that loses the first copy of an MSU and recovers it by the cyclic sweep. -/
theorem pcr_accepts_in_order_lossy :
    let c := [.submit 1 [7], .submit 2 [8], .poll, .poll, .loseData 0, .deliver, .poll, .poll,
      .deliver, .deliver, .sendAck, .deliverAck].foldl Channel.step (init (.Pcr default))
    (c.accepted <+: c.submitted ∧ c.removed <+: c.accepted) ∧
      c.removed = [(1, [7]), (2, [8])] :=
  ⟨pcr_accepts_in_order (by decide) _, by decide⟩

end Channel

end Mtp2
