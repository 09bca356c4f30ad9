import Mtp2.Agreement
import Mtp2.Requests
import Mtp2.Lib.Lossless

/-!
# MTP2 — a Basic link as a pipe

Two links under the Basic method, started once and joined by pipes that may lose a unit or damage
one, with every other call of the local user at either end. As long as the MSUs get through, each is
sent once: what was submitted is what was handed over, what is in flight and what still waits,
whatever happens to the units without an MSU and however far the acknowledgements fall behind.

* **`Relays`** — one direction of the pair, as a window that loses no payload;
* **`Relays.poll`**, **`Relays.deliver`**, **`Relays.acknowledge`**, **`Relays.lose`** — an
  operation at either end keeps it;
* **`basic_pipes`** — the runs that keep both directions are those whose MSUs get through.
-/

namespace Mtp2

open SlidingWindow (State Intact)

/-! ## The MSUs in flight -/

/-- The MSU a frame carries. -/
def TxFrame.payload (f : TxFrame) : Option Payload :=
  match f.body with
  | .Msu sio sif => some (sio, sif)
  | .Fisu => none

/-- The MSU a unit carries. -/
def SignalUnit.carried (su : SignalUnit) : Option Payload := su.frame.bind TxFrame.payload

namespace Endpoint

/-- The MSUs in flight to the other end, oldest first. -/
def inFlight (x : Endpoint) : List Payload := x.out.filterMap SignalUnit.carried

theorem inFlight_eq (x : Endpoint) : x.inFlight = x.frames.filterMap TxFrame.payload :=
  List.filterMap_filterMap.symm

/-- Nothing submitted at `x` is missing: `y` has been handed it, or it is in flight, or it waits.
An end out of service takes nothing any more. -/
def Piped (x y : Endpoint) : Prop :=
  y.link.state ≠ .OutOfService → x.submitted = y.delivered ++ x.inFlight ++ x.link.tx.pending

end Endpoint

/-! ## Controllers that never repeat -/

namespace TxControl

/-- Under the Basic method, with no retransmission asked for so far. -/
structure Straight (t : TxControl) : Prop where
  method : t.method = .Basic
  fib : t.fib = true
  cursor : t.basicCursor = none

variable {t : TxControl}

theorem Straight.poll_eq (h : t.Straight) : t.poll = t.pollNew := by
  unfold poll
  rw [h.method]
  show t.pollBasic = _
  unfold pollBasic
  rw [h.cursor]

/-- An acknowledgement without a toggled BIB asks for nothing again. -/
theorem Straight.onAck (h : t.Straight) (bsn : UInt8) : (t.onAck bsn true).Straight := by
  refine ⟨(onAck_method t bsn true).trans h.method, onAck_fib bsn true h.method, ?_⟩
  -- the BIB agrees with the FIB, so the cursor is not set
  rw [onAck_cursor_same bsn h.method h.fib.symm, h.cursor]
  split <;> rfl

/-- Whatever the size of the buffer, an acknowledgement frees no more than it says. -/
theorem Tracks.freedBy_length_below {sent : List Payload} {base u : ℕ} (h : t.Tracks sent base)
    (hb : base ≤ u) : (t.freedBy (seqOf (u + 127))).length ≤ u - base := by
  rcases Nat.lt_or_ge (u - base) t.unacked.length with hlt | hge
  · -- the MSU at position `u` stops the loop
    refine Nat.le_of_not_lt fun hfar => ?_
    have hack := List.mem_takeWhile_imp (List.getElem_mem hfar)
    have hget : (t.freedBy (seqOf (u + 127)))[u - base] = t.unacked[u - base] :=
      (List.takeWhile_prefix _).getElem hfar
    have hfsn := h.getElem?_unacked (u - base)
    rw [List.getElem?_eq_getElem hlt, eq_comm, Option.map_eq_some_iff] at hfsn
    obtain ⟨p, -, hp⟩ := hfsn
    rw [hget, ← hp, Nat.add_sub_cancel' hb, acknowledges_iff] at hack
    omega
  · exact Nat.le_trans (t.freedBy_length_le _) hge

end TxControl

/-- With no retransmission asked for so far. -/
structure RxControl.Straight (r : RxControl) : Prop where
  bib : r.bib = true
  nackPending : r.nackPending = false

namespace WindowRel

variable {tx : TxControl} {rx : RxControl} {data rest : List TxFrame}
  {acks ackRest : List (UInt8 × Bool)} {w : State Payload Unit} {W : ℕ}

/-- **The MSU that arrives is the awaited one**, so it is accepted. -/
theorem deliver_next (h : WindowRel (fun _ => true) tx rx data acks w) (hw : Intact w)
    {f : TxFrame} (hd : data = f :: rest) {sio : UInt8} {sif : List UInt8}
    (hf : f.body = .Msu sio sif) :
    rx.onMsu f.fsn sio sif =
        (.Accepted sio sif, { rx with lastReceived := f.fsn, nackPending := false }) ∧
      WindowRel (fun _ => true) tx (rx.onMsu f.fsn sio sif).2 rest acks w.deliver ∧
      w.sent.take w.deliver.recv = w.sent.take w.recv ++ [(sio, sif)] := by
  obtain ⟨g, grest, hg, rfl, rfl⟩ := h.data_cons hd
  cases hb : g.body with
  | none => simp [frameOf, hb] at hf
  | some b =>
    obtain ⟨i, p⟩ := b
    obtain ⟨rfl, rfl⟩ : p.1 = sio ∧ p.2 = sif := by simpa [frameOf, hb] using hf
    obtain ⟨rfl, hget⟩ := (hw.deliver hg).2 i p hb
    have hfsn : (frameOf (fun _ => true) g).fsn = seqOf w.recv := by simp [frameOf, hb]
    have hacc := RxControl.onMsu_awaited p.1 p.2 h.awaits rfl
    have hdel : w.deliver = { w with data := grest, recv := w.recv + 1 } := by
      simp [State.deliver, hg, SlidingWindow.Frame.position, hb]
    rw [hfsn, hacc, hdel]
    refine ⟨rfl, ⟨h.tracks, h.queue, ?_, rfl, h.acks_eq⟩, ?_⟩
    · show seqOf w.recv = seqOf (w.recv + 1 + 127)
      rw [Nat.add_assoc, seqOf_add_modulus w.recv]
    · rw [List.take_add_one, hget]
      rfl

/-- **An acknowledgement moves the base, and asks for nothing again.** -/
theorem takeAck_straight (h : WindowRel (fun _ => true) tx rx data acks w)
    (hw : SlidingWindow.Inv W w) (ht : tx.Straight) {bsn : UInt8} {bib : Bool}
    (hd : acks = (bsn, bib) :: ackRest) :
    ∃ b, SlidingWindow.Inv W (w.takeAck b) ∧
      WindowRel (fun _ => true) (tx.onAck bsn bib) rx data ackRest (w.takeAck b) ∧
      (tx.onAck bsn bib).Straight := by
  obtain ⟨k, krest, hk, hkeq, rfl⟩ := h.acks_cons hd
  obtain ⟨hlo, -⟩ := hw.ack_mem k (by rw [hk]; exact List.mem_cons_self)
  obtain ⟨rfl, rfl⟩ : bsn = seqOf (k.upto + 127) ∧ bib = true := Prod.mk.inj hkeq
  have hfreed := h.tracks.freedBy_length_below hlo
  refine ⟨w.base + (tx.freedBy (seqOf (k.upto + 127))).length,
    hw.takeAck hk (Nat.le_add_right _ _) (by omega), ?_, ht.onAck _⟩
  exact ⟨h.tracks.onAck _ true, (TxControl.onAck_pending tx _ true).trans h.queue, h.awaits,
    h.data_eq, by rw [State.takeAck, hk, List.tail_cons]⟩

end WindowRel

/-! ## One direction -/

namespace Mtp2Link

variable {l : Mtp2Link} {age : ℕ}

/-- Out of service a link stays, until it is started. -/
theorem stays_out (h : l.Represented age) {op : Op} (hop : op ≠ .start)
    (hs : l.state = .OutOfService) : (l.step op).state = .OutOfService :=
  step_out h hs (decide_eq_false fun hstart => hop hstart.1)

end Mtp2Link

/-- **The direction from `x` to `y` is a window that loses no payload**, until `y` goes out of
service: the frames are those of `x`'s units, the acknowledgements those of `y`'s. -/
structure Relays (x y : Endpoint) (w : State Payload Unit) : Prop where
  rel : WindowRel (fun _ => true) x.link.tx y.link.rx x.frames y.acks w
  inv : ∃ W, SlidingWindow.Inv W w
  intact : y.link.state ≠ .OutOfService → Intact w
  delivered : Channel.Delivered x.submitted y.delivered w
  tx : x.link.tx.Straight
  rx : y.link.rx.Straight

namespace Relays

variable {x y x' y' : Endpoint} {w : State Payload Unit}

theorem started {ca cb : Mtp2Config} (ha : ca.method = .Basic) (hb : cb.method = .Basic) :
    Relays (.started ca) (.started cb) State.init := by
  have htx : (Endpoint.started ca).link.tx = .new .Basic := by rw [← ha]; rfl
  have hrx : (Endpoint.started cb).link.rx = .new .Basic := by rw [← hb]; rfl
  refine ⟨?_, ⟨0, SlidingWindow.inv_init⟩, fun _ => SlidingWindow.intact_init, ⟨rfl, rfl⟩, ?_, ?_⟩
  · rw [htx, hrx]
    exact ⟨TxControl.tracks_new _, rfl, rfl, rfl, rfl⟩
  · rw [htx]
    exact ⟨rfl, rfl, rfl⟩
  · rw [hrx]
    exact ⟨rfl, rfl⟩

/-- What the direction does not read may change. -/
theorem congr (h : Relays x y w) (htx : x'.link.tx = x.link.tx) (hrx : y'.link.rx = y.link.rx)
    (hf : x'.frames = x.frames) (hk : y'.acks = y.acks) (hs : x'.submitted = x.submitted)
    (hd : y'.delivered = y.delivered)
    (hup : y'.link.state ≠ .OutOfService → y.link.state ≠ .OutOfService) : Relays x' y' w where
  rel := by rw [htx, hrx, hf, hk]; exact h.rel
  inv := h.inv
  intact ho := h.intact (hup ho)
  delivered := by rw [hs, hd]; exact h.delivered
  tx := by rw [htx]; exact h.tx
  rx := by rw [hrx]; exact h.rx

/-- Nothing is missing on the way. -/
theorem piped (h : Relays x y w) : x.Piped y := by
  intro ho
  -- the MSUs on the pipe are those of the frames of the window
  have hflight : x.inFlight = w.inFlight := by
    rw [x.inFlight_eq, h.rel.data_eq, List.filterMap_map]
    refine congrArg (List.filterMap · w.data) (funext fun f => ?_)
    cases hb : f.body with
    | none => simp [TxFrame.payload, frameOf, hb]
    | some b => simp [TxFrame.payload, frameOf, hb]
  rw [h.delivered.submitted, h.delivered.accepted, hflight, (h.intact ho).sent, h.rel.queue]

/-- A direction that relays hands over in order and loses nothing. -/
theorem faithful (h : Relays x y w) : Faithful x y := by
  obtain ⟨W, hw⟩ := h.inv
  exact .of_delivered h.rel.tracks h.rel.queue h.delivered hw.base_le hw.recv_le

/-! ### Calls -/

theorem submit (h : Relays x y w) (sio : UInt8) (sif : List UInt8) :
    ∃ w', Relays (x.submit sio sif) y w' := by
  obtain ⟨W, hw⟩ := h.inv
  rcases x.submit_cases sio sif with ⟨-, heq⟩ | ⟨-, heq⟩ <;> rw [heq]
  · exact ⟨w.submit (sio, sif), h.rel.submit sio sif, ⟨W, hw.submit _⟩,
      fun ho => (h.intact ho).submit _, h.delivered.submit _,
      ⟨h.tx.method, h.tx.fib, h.tx.cursor⟩, h.rx⟩
  · exact ⟨w, h⟩

/-- A submission at the other end. -/
theorem submitBack (h : Relays x y w) (sio : UInt8) (sif : List UInt8) :
    Relays x (y.submit sio sif) w := by
  rcases y.submit_cases sio sif with ⟨-, heq⟩ | ⟨-, heq⟩ <;> rw [heq]
  · exact h.congr rfl rfl rfl rfl rfl rfl id
  · exact h

theorem act (h : Relays x y w) {op : Op} (hx : x.link.Detached op) : Relays (x.act op) y w :=
  h.congr hx.tx rfl rfl rfl rfl rfl id

theorem actBack (h : Relays x y w) {op : Op} (hy : y.link.Detached op)
    (hup : (y.link.step op).state ≠ .OutOfService → y.link.state ≠ .OutOfService) :
    Relays x (y.act op) w :=
  h.congr rfl hy.rx rfl rfl rfl (by rw [Endpoint.act, hy.payloads, List.append_nil]) hup

/-- **A poll sends the next MSU of the direction**, or a unit that carries none. -/
theorem poll (h : Relays x y w) (hx : x.link.tx.Loaded) : ∃ w', Relays x.poll y w' := by
  have htx := x.poll_tx
  obtain ⟨W, hw⟩ := h.inv
  -- a FISU with the present FSN
  have hfill (hf : x.poll.frames = x.frames ++ [x.link.tx.fill])
      (ht : x.poll.link.tx = x.link.tx) : ∃ w', Relays x.poll y w' := by
    have hframe : x.link.tx.fill = frameOf (fun _ => true) ⟨none, w.sent.length, ()⟩ := by
      rw [TxControl.fill, h.rel.tracks.lastFsn, h.tx.fib]
      rfl
    refine ⟨w.fill (), ?_, ⟨W, hw.fill ()⟩, fun ho => (h.intact ho).fill (),
      ⟨h.delivered.submitted, h.delivered.accepted⟩, by rw [ht]; exact h.tx, h.rx⟩
    rw [hf, ht, hframe]
    exact h.rel.push ⟨none, w.sent.length, ()⟩ h.rel.tracks rfl
  rcases x.link.pollTransmit_unit with ⟨hnone, hs⟩ | ⟨hp, hsu⟩ |
    ⟨hp, ⟨status, hsu⟩ | ⟨-, hsu⟩⟩
  · -- a dark link
    have hp : x.link.polls = false := by simp [Mtp2Link.polls, hs]
    rw [hp] at htx
    refine ⟨w, h.congr htx rfl ?_ rfl rfl rfl id⟩
    rw [Endpoint.frames, Endpoint.poll, hnone]
    exact congrArg _ (List.append_nil _)
  · -- in service: a new MSU if one waits
    rw [if_pos hp] at htx
    obtain ⟨hframes, -⟩ := Conveys.poll_out x hsu
    rw [x.link.frameUnit_frame hx.frame.2] at hframes
    have hpoll := h.tx.poll_eq
    unfold TxControl.pollNew at hpoll
    cases hq : x.link.tx.pending with
    | nil =>
      rw [hq] at hpoll
      rw [hpoll] at hframes htx
      exact hfill hframes htx
    | cons p rest =>
      obtain ⟨sio, sif⟩ := p
      rw [hq] at hpoll
      rw [hpoll] at hframes htx
      have hqueue : w.queue = (sio, sif) :: rest := h.rel.queue.symm.trans hq
      refine ⟨w.number (sio, sif) rest (), ?_, ⟨W + 1, hw.number_grows _ _ ()⟩,
        fun ho => (h.intact ho).number _ _ (), h.delivered.number _ hqueue hw.recv_le, ?_, h.rx⟩
      · rw [hframes, htx, h.rel.tracks.nextFsn, h.tx.fib]
        exact h.rel.number () (h.rel.tracks.number sio sif rest) rfl
      · rw [htx]
        exact ⟨h.tx.method, h.tx.fib, h.tx.cursor⟩
  · -- a status indication
    rw [hp] at htx
    obtain ⟨hframes, -⟩ := Conveys.poll_out x hsu
    exact ⟨w, h.congr htx rfl (hframes.trans (List.append_nil _)) rfl rfl rfl id⟩
  · -- a FISU that holds the traffic
    rw [hp] at htx
    obtain ⟨hframes, -⟩ := Conveys.poll_out x hsu
    exact hfill hframes htx

/-- **A poll acknowledges what the other direction has delivered.** -/
theorem pollBack (h : Relays x y w) : ∃ w', Relays x y.poll w' := by
  have hrx := y.poll_rx
  have hpay : y.poll.delivered = y.delivered := by rw [y.poll_eq]
  have hup : y.poll.link.state ≠ .OutOfService → y.link.state ≠ .OutOfService := by
    rw [y.poll_eq, Mtp2Link.pollTransmit_state]
    exact id
  have hsend {su : SignalUnit} (hsu : y.link.pollTransmit.1 = some su)
      (hack : su.ack = some (y.link.rx.bsn, y.link.rx.bib)) : ∃ w', Relays x y.poll w' := by
    obtain ⟨-, hacks⟩ := Conveys.poll_out y hsu
    obtain ⟨W, hw⟩ := h.inv
    refine ⟨w.sendAck (), ?_, ⟨W, hw.sendAck ()⟩, fun ho => (h.intact (hup ho)).of_acks, ?_,
      h.tx, by rw [hrx]; exact h.rx⟩
    · rw [hrx, hacks, hack]
      exact h.rel.sendAck () h.rx.bib.symm
    · rw [hpay]
      exact ⟨h.delivered.submitted, h.delivered.accepted⟩
  rcases y.link.pollTransmit_unit with ⟨hnone, -⟩ | ⟨-, hsu⟩ | ⟨-, ⟨status, hsu⟩ | ⟨-, hsu⟩⟩
  · refine ⟨w, h.congr rfl hrx rfl ?_ rfl hpay hup⟩
    rw [Endpoint.acks, Endpoint.poll, hnone]
    exact congrArg _ (List.append_nil _)
  · obtain ⟨-, -, -, hack, -⟩ := y.link.frameUnit_traffic y.link.tx.poll.1
    exact hsend hsu hack
  · obtain ⟨-, hacks⟩ := Conveys.poll_out y hsu
    exact ⟨w, h.congr rfl hrx rfl (hacks.trans (List.append_nil _)) rfl hpay hup⟩
  · exact hsend hsu rfl

/-! ### Losing -/

/-- **A unit is lost** that carries no MSU, or on its way to an end out of service. -/
theorem lose (h : Relays x y w) (z : Endpoint) (i : ℕ)
    (hloss : y.link.state ≠ .OutOfService → x.out[i]?.bind SignalUnit.carried = none) :
    ∃ w', Relays (x.lose z i) y w' := by
  obtain ⟨j, herase, hget⟩ := filterMap_eraseIdx SignalUnit.frame x.out i
  have hframes : (x.lose z i).frames = x.frames.eraseIdx j := herase
  obtain ⟨W, hw⟩ := h.inv
  refine ⟨w.loseData j, ?_, ⟨W, hw.loseData j⟩, fun ho => (h.intact ho).loseData fun f hf => ?_,
    ⟨h.delivered.submitted, h.delivered.accepted⟩, h.tx, h.rx⟩
  · rw [hframes]
    exact h.rel.loseData j
  · -- the frame of the lost unit carries nothing
    have hlost := hloss ho
    have hframe : x.frames[j]? = some (frameOf (fun _ => true) f) := by
      rw [h.rel.data_eq, List.getElem?_map, Option.mem_def.mp hf]
      rfl
    have hcarried : x.out[i]?.bind SignalUnit.carried =
        (x.out[i]?.bind SignalUnit.frame).bind TxFrame.payload :=
      (Option.bind_assoc _ _ _).symm
    rw [hcarried, ← hget, show (x.out.filterMap SignalUnit.frame)[j]? = _ from hframe] at hlost
    cases hb : f.body with
    | none => rfl
    | some b => simp [TxFrame.payload, frameOf, hb] at hlost

/-- The acknowledgement of a lost unit comes again with the next. -/
theorem loseBack (h : Relays x y w) (z : Endpoint) (i : ℕ) :
    ∃ w', Relays x (y.lose z i) w' := by
  obtain ⟨j, herase, -⟩ := filterMap_eraseIdx SignalUnit.ack y.out i
  have hacks : (y.lose z i).acks = y.acks.eraseIdx j := herase
  obtain ⟨W, hw⟩ := h.inv
  refine ⟨w.loseAck j, ?_, ⟨W, hw.loseAck j⟩, fun ho => (h.intact ho).of_acks,
    ⟨h.delivered.submitted, h.delivered.accepted⟩, h.tx, h.rx⟩
  rw [hacks]
  exact h.rel.loseAck j

/-- A unit taken off the pipe and not looked at is as good as lost. -/
theorem sent (h : Relays x y w)
    (hloss : y.link.state ≠ .OutOfService → x.out[0]?.bind SignalUnit.carried = none) :
    ∃ w', Relays x.sent y w' := by
  obtain ⟨w', h'⟩ := h.lose y 0 hloss
  exact ⟨w', h'.congr rfl rfl (congrArg (List.filterMap _) List.eraseIdx_zero.symm) rfl rfl rfl id⟩

theorem sentBack (h : Relays x y w) : ∃ w', Relays x y.sent w' := by
  obtain ⟨w', h'⟩ := h.loseBack x 0
  exact ⟨w', h'.congr rfl rfl rfl (congrArg (List.filterMap _) List.eraseIdx_zero.symm) rfl rfl id⟩

/-! ### Delivering -/

/-- A unit that reaches the other end and is not looked at there. -/
theorem arrive (h : Relays x y w) {op : Op} (hy : y.link.Detached op)
    (hup : (y.link.step op).state ≠ .OutOfService → y.link.state ≠ .OutOfService)
    (hloss : (y.link.step op).state ≠ .OutOfService →
      x.out[0]?.bind SignalUnit.carried = none) :
    ∃ w', Relays x.sent (y.act op) w' := by
  -- the end first hears the unit, then the unit leaves the pipe
  obtain ⟨w', h'⟩ := (h.actBack hy hup).sent hloss
  exact ⟨w', h'⟩

/-- **An MSU handed to the other end is the next one, and is accepted**, unless it trips the
SUERM. -/
theorem deliver (h : Relays x y w) (hy : ∃ age, y.link.Represented age) {su : SignalUnit}
    {rest : List SignalUnit} (hout : x.out = su :: rest)
    (hheed : su.carried ≠ none → (y.link.step (.handleSu su)).state ≠ .OutOfService →
      y.link.state = .AlignedReady ∨ y.link.state = .InService) :
    ∃ w', Relays x.sent (y.act (.handleSu su)) w' := by
  obtain ⟨age, hrep⟩ := hy
  have hup : (y.link.step (.handleSu su)).state ≠ .OutOfService →
      y.link.state ≠ .OutOfService := mt (Mtp2Link.stays_out hrep (by simp))
  have hhead : x.out[0]?.bind SignalUnit.carried = su.carried := by rw [hout]; rfl
  have hframes : x.frames = su.frame.toList ++ x.sent.frames := Endpoint.filterMap_sent _ hout
  cases htr : su.traffic with
  | none =>
    refine h.arrive (Mtp2Link.detached_lssu hrep htr) hup fun _ => ?_
    rw [hhead, SignalUnit.carried, (SignalUnit.carries_none htr).1]
    rfl
  | some p =>
    obtain ⟨header, msu⟩ := p
    obtain ⟨-, ⟨rfl, hf⟩ | ⟨sio, sif, rfl, hf⟩⟩ := SignalUnit.carries_some htr
    · -- a fill-in concerns neither the receiver nor MTP3
      have hsame : (y.link.step (.handleSu su)).rx = y.link.rx ∧
          payloads (y.link.raised (.handleSu su)) = [] := by
        rcases Mtp2Link.handleSu_controllers hrep su with ⟨_, _, htr', -, hrx, hpay⟩ | hdet
        · cases htr.symm.trans htr'
          exact ⟨hrx, hpay⟩
        · exact ⟨hdet.rx, hdet.payloads⟩
      obtain ⟨w', h'⟩ := h.sent fun _ => by rw [hhead, SignalUnit.carried, hf]; rfl
      exact ⟨w', h'.congr rfl hsame.1 rfl rfl rfl
        (by rw [Endpoint.act, hsame.2, List.append_nil]) hup⟩
    · have hcarried : su.carried ≠ none := by rw [SignalUnit.carried, hf]; simp [TxFrame.payload]
      by_cases hs : y.link.state = .AlignedReady ∨ y.link.state.carriesTraffic = true
      swap
      · refine h.arrive (Mtp2Link.detached_deaf htr hs) hup fun ho => ?_
        rcases hheed hcarried ho with hr | hr
        · exact absurd (.inl hr) hs
        · exact absurd (.inr (by rw [hr]; rfl)) hs
      rcases Mtp2Link.handleSu_heard htr hs with ⟨hc, -, hrx, hpay⟩ | ⟨hdet, ho⟩
      swap
      · exact h.arrive hdet hup fun ho' => absurd ho ho'
      have ho : (y.link.step (.handleSu su)).state ≠ .OutOfService := by
        intro ho
        rw [ho] at hc
        cases hc
      have hpo : y.link.state ≠ .ProcessorOutage := by
        rcases hheed hcarried ho with hr | hr <;> rw [hr] <;> simp
      rw [Mtp2Link.checked] at hrx hpay
      dsimp only at hrx hpay
      rw [if_neg hpo] at hrx hpay
      rw [payloads_outcomeEvents] at hpay
      rw [hf] at hframes
      obtain ⟨hacc, hrel, htake⟩ := h.rel.deliver_next (h.intact (hup ho)) hframes rfl
      obtain ⟨W, hw⟩ := h.inv
      obtain ⟨g, grest, hg, -, -⟩ := h.rel.data_cons hframes
      refine ⟨w.deliver, ?_, ⟨W, hw.deliver⟩, fun _ => ((h.intact (hup ho)).deliver hg).1, ?_,
        h.tx, ?_⟩
      · rw [Endpoint.act, hrx]
        exact hrel
      · rw [Endpoint.act, hpay, hacc]
        exact h.delivered.deliver htake
      · rw [Endpoint.act, hrx, hacc]
        exact ⟨h.rx.bib, rfl⟩

/-- **A unit from the other end acknowledges.** -/
theorem acknowledge (h : Relays x y w) (hx : ∃ age, x.link.Represented age) {su : SignalUnit}
    {rest : List SignalUnit} (hout : y.out = su :: rest) :
    ∃ w', Relays (x.act (.handleSu su)) y.sent w' := by
  obtain ⟨age, hrep⟩ := hx
  rcases Mtp2Link.handleSu_controllers hrep su with ⟨header, msu, htr, htx, -⟩ | hdet
  · have hacks : y.acks = su.ack.toList ++ y.sent.acks := Endpoint.filterMap_sent _ hout
    rw [(SignalUnit.carries_some htr).1] at hacks
    obtain ⟨W, hw⟩ := h.inv
    obtain ⟨b, hw', hrel, ht⟩ := h.rel.takeAck_straight hw h.tx hacks
    refine ⟨w.takeAck b, ?_, ⟨W, hw'⟩, fun ho => (h.intact ho).of_acks,
      ⟨h.delivered.submitted, h.delivered.accepted⟩, ?_, h.rx⟩
    · rw [Endpoint.act, htx]
      exact hrel
    · rw [Endpoint.act, htx]
      exact ht
  · obtain ⟨w', h'⟩ := h.sentBack
    exact ⟨w', h'.act hdet⟩

end Relays

/-! ## MSUs reach an end that has proved the link -/

/-- Only a link in service sends an MSU. -/
theorem Mtp2Link.pollTransmit_carried {l : Mtp2Link} {su : SignalUnit}
    (hsu : l.pollTransmit.1 = some su) (hc : su.carried ≠ none) :
    l.state.carriesTraffic = true := by
  rcases l.pollTransmit_unit with ⟨hnone, -⟩ | ⟨hp, -⟩ | ⟨-, ⟨status, hlssu⟩ | ⟨-, hfisu⟩⟩
  · rw [hnone] at hsu; cases hsu
  · rw [Mtp2Link.polls, decide_eq_true_eq] at hp
    rw [hp.1]
    rfl
  · rw [hlssu] at hsu; cases hsu; exact absurd rfl hc
  · rw [hfisu] at hsu; cases hsu; exact absurd rfl hc

namespace LinkPair

/-- Each end that serves has a peer past its proving, and so has each MSU in flight. -/
structure Backed (p : LinkPair) : Prop where
  agreed : p.Agreed (Settled p.a.link) (Settled p.b.link)
  toA : ∀ su ∈ p.b.out, su.carried ≠ none → Settled p.a.link
  toB : ∀ su ∈ p.a.out, su.carried ≠ none → Settled p.b.link

namespace Backed

variable {p : LinkPair}

theorem started (ca cb : Mtp2Config) : (started ca cb).Backed :=
  ⟨⟨Agreed.started ca cb _, Agreed.started cb ca _⟩, nofun, nofun⟩

theorem swap (h : p.Backed) : p.swap.Backed := ⟨h.agreed.swap, h.toB, h.toA⟩

/-- What is in flight after an operation at `a`. -/
theorem moveA_out (p : LinkPair) (op : SideOp) :
    (∀ su ∈ (p.moveA op).a.out, su ∈ p.a.out ∨ p.a.link.pollTransmit.1 = some su) ∧
      (p.moveA op).b.out = p.b.out := by
  cases op with
  | call op own => exact ⟨fun su => Agreed.call_out p.a, rfl⟩
  | lose i => exact ⟨fun su hsu => .inl (List.mem_of_mem_eraseIdx hsu), rfl⟩
  | deliver =>
    cases hout : p.a.out with
    | nil => rw [moveA_deliver_nil hout, hout]; exact ⟨fun su hsu => .inl hsu, rfl⟩
    | cons su rest =>
      rw [moveA_deliver hout, ← hout]
      exact ⟨fun su hsu => .inl (List.mem_of_mem_tail hsu), rfl⟩
  | corrupt =>
    cases hout : p.a.out with
    | nil => rw [moveA_corrupt_nil hout, hout]; exact ⟨fun su hsu => .inl hsu, rfl⟩
    | cons su rest =>
      rw [moveA_corrupt hout, ← hout]
      exact ⟨fun su hsu => .inl (List.mem_of_mem_tail hsu), rfl⟩

theorem moveA (h : p.Backed) (op : SideOp) : (p.moveA op).Backed := by
  obtain ⟨ageA, hrepA⟩ := h.agreed.a.represented
  obtain ⟨ageB, hrepB⟩ := h.agreed.b.represented
  obtain ⟨hlinkA, hlinkB⟩ := p.moveA_links op
  have hset := p.settled_move (.atA op)
  obtain ⟨houtA, houtB⟩ := moveA_out p op
  -- an end that waits for its peer is settled
  have hnow {l l' : Mtp2Link} {age : ℕ} (hrep : l.Represented age)
      (hl : l' = l ∨ ∃ o ≠ .start, l' = l.step o) (hw : l'.state.awaitsPeer = true) :
      Settled l' := by
    refine ⟨?_, .inl (Mtp2State.proved_iff.mpr (.inl hw))⟩
    rcases hl with rfl | ⟨o, -, rfl⟩
    · exact ⟨_, hrep⟩
    · exact ⟨_, hrep.step o⟩
  refine ⟨h.agreed.moveA op hset.1 hset.2 (hnow hrepA hlinkA) (hnow hrepB hlinkB), ?_, ?_⟩
  · rw [houtB]
    exact fun su hsu hc => hset.1 (h.toA su hsu hc)
  · intro su hsu hc
    rcases houtA su hsu with hmem | hpoll
    · exact hset.2 (h.toB su hmem hc)
    · exact hset.2 (h.agreed.b.served (Mtp2Link.pollTransmit_carried hpoll hc))

end Backed

/-! ## The pair -/

/-- The operation takes an MSU off the pipe, and the other end does not look at it. -/
def misses (p : LinkPair) : SideOp → Bool
  | .call _ _ => false
  | .lose i => (p.a.out[i]?.bind SignalUnit.carried).isSome
  | .corrupt => (p.a.out[0]?.bind SignalUnit.carried).isSome
  | .deliver => (p.a.out[0]?.bind SignalUnit.carried).isSome &&
      (p.b.link.state == .AlignedNotReady || p.b.link.state == .ProcessorOutage)

/-- Any MSU that leaves the pipe is looked at, or finds the other end out of service. -/
def GetsThrough (p : LinkPair) : DuplexOp → Prop
  | .atA op => p.misses op = true → (p.moveA op).b.link.state = .OutOfService
  | .atB op => p.swap.misses op = true → (p.swap.moveA op).b.link.state = .OutOfService

instance (p : LinkPair) : DecidablePred p.GetsThrough
  | .atA op => inferInstanceAs (Decidable (p.misses op = true → _))
  | .atB op => inferInstanceAs (Decidable (p.swap.misses op = true → _))

/-- What a pair keeps whose MSUs get through. -/
structure Relayed (p : LinkPair) : Prop where
  ab : ∃ w, Relays p.a p.b w
  ba : ∃ v, Relays p.b p.a v
  backed : p.Backed
  loadedA : p.a.link.tx.Loaded
  loadedB : p.b.link.tx.Loaded

namespace Relayed

variable {p : LinkPair}

theorem started {ca cb : Mtp2Config} (ha : ca.method = .Basic) (hb : cb.method = .Basic) :
    (started ca cb).Relayed :=
  ⟨⟨_, .started ha hb⟩, ⟨_, .started hb ha⟩, .started ca cb, Mtp2Link.loaded_run ca [.start],
    Mtp2Link.loaded_run cb [.start]⟩

theorem swap (h : p.Relayed) : p.swap.Relayed := ⟨h.ba, h.ab, h.backed.swap, h.loadedB, h.loadedA⟩

/-- A link out of service stays so, whatever happens at either end. -/
theorem up_of_moveA (h : p.Relayed) (op : SideOp)
    (ho : (p.moveA op).b.link.state ≠ .OutOfService) : p.b.link.state ≠ .OutOfService := by
  obtain ⟨age, hrep⟩ := h.backed.agreed.b.represented
  rcases (p.moveA_links op).2 with heq | ⟨o, hne, heq⟩
  · rwa [heq] at ho
  · rw [heq] at ho
    exact mt (Mtp2Link.stays_out hrep hne) ho

/-- A call at one end, seen from both directions. -/
theorem call (h : p.Relayed) {op : Op} (hop : op.isCall = true) :
    (∃ w, Relays (p.a.call op) p.b w) ∧ ∃ v, Relays p.b (p.a.call op) v := by
  obtain ⟨w, hab⟩ := h.ab
  obtain ⟨v, hba⟩ := h.ba
  obtain ⟨age, hrep⟩ := h.backed.agreed.a.represented
  have hidle (hop' : op.idlesTx = true) :
      (∃ w, Relays (p.a.act op) p.b w) ∧ ∃ v, Relays p.b (p.a.act op) v := by
    have hdet : p.a.link.Detached op := by
      refine Mtp2Link.detached hrep hop' ?_
      rintro su rfl
      cases hop
    have hup : (p.a.link.step op).state ≠ .OutOfService → p.a.link.state ≠ .OutOfService :=
      mt (Mtp2Link.stays_out hrep (by rintro rfl; cases hop))
    exact ⟨⟨w, hab.act hdet⟩, v, hba.actBack hdet hup⟩
  cases op with
  | submitMsu sio sif => exact ⟨hab.submit sio sif, v, hba.submitBack sio sif⟩
  | pollTransmit => exact ⟨hab.poll h.loadedA, hba.pollBack⟩
  | start | handleSu | handleCorruptedSu => cases hop
  | _ => exact hidle rfl

/-- **Every operation at one end keeps both directions**, as long as the MSU it takes off the pipe
gets through. -/
theorem moveA (h : p.Relayed) {op : SideOp}
    (hop : p.misses op = true → (p.moveA op).b.link.state = .OutOfService) :
    (p.moveA op).Relayed := by
  have hbacked := h.backed.moveA op
  have hloaded {l l' : Mtp2Link} (hl : l' = l ∨ ∃ o ≠ .start, l' = l.step o)
      (ht : l.tx.Loaded) : l'.tx.Loaded := by
    rcases hl with rfl | ⟨o, -, rfl⟩
    · exact ht
    · exact Mtp2Link.loaded_step ht o
  have hloadedA := hloaded (p.moveA_links op).1 h.loadedA
  have hloadedB := hloaded (p.moveA_links op).2 h.loadedB
  suffices hdirs : (∃ w, Relays (p.moveA op).a (p.moveA op).b w) ∧
      ∃ v, Relays (p.moveA op).b (p.moveA op).a v from
    ⟨hdirs.1, hdirs.2, hbacked, hloadedA, hloadedB⟩
  have hup := h.up_of_moveA op
  obtain ⟨w, hab⟩ := h.ab
  obtain ⟨v, hba⟩ := h.ba
  obtain ⟨age, hrep⟩ := h.backed.agreed.b.represented
  -- nothing is missed on the way to an end that stays up
  have hloss {i : ℕ} (hm : p.misses op = (p.a.out[i]?.bind SignalUnit.carried).isSome)
      (ho : (p.moveA op).b.link.state ≠ .OutOfService) :
      p.a.out[i]?.bind SignalUnit.carried = none := by
    refine Option.not_isSome_iff_eq_none.mp fun hsome => ho (hop ?_)
    rw [hm, hsome]
  cases op with
  | call op own => exact h.call own
  | lose i => exact ⟨hab.lose p.b i (hloss rfl), hba.loseBack p.b i⟩
  | deliver =>
    cases hout : p.a.out with
    | nil => rw [moveA_deliver_nil hout]; exact ⟨⟨w, hab⟩, v, hba⟩
    | cons su rest =>
      rw [misses, hout] at hop
      rw [moveA_deliver hout] at hop hup ⊢
      refine ⟨hab.deliver ⟨age, hrep⟩ hout fun hc ho => ?_, hba.acknowledge ⟨age, hrep⟩ hout⟩
      -- the other end is settled, not out of service and, as the MSU gets through, not in outage
      have hset := (h.backed.toB su (by rw [hout]; exact List.mem_cons_self) hc).settled
      have hheeds : p.b.link.state ≠ .AlignedNotReady ∧ p.b.link.state ≠ .ProcessorOutage := by
        refine ⟨fun hs => ho (hop ?_), fun hs => ho (hop ?_)⟩ <;>
          simp [hs, Option.isSome_iff_ne_none.mpr hc]
      cases hs : p.b.link.state with
      | AlignedReady => exact .inl rfl
      | InService => exact .inr rfl
      | OutOfService => exact absurd hs (hup ho)
      | AlignedNotReady => exact absurd hs hheeds.1
      | ProcessorOutage => exact absurd hs hheeds.2
      | NotAligned | Aligned | Proving =>
        rw [hs] at hset
        rcases hset with hset | hset <;> cases hset
  | corrupt =>
    cases hout : p.a.out with
    | nil => rw [moveA_corrupt_nil hout]; exact ⟨⟨w, hab⟩, v, hba⟩
    | cons su rest =>
      have hlost := hloss (i := 0) rfl
      rw [moveA_corrupt hout] at hup hlost ⊢
      have hdet : p.b.link.Detached .handleCorruptedSu := Mtp2Link.detached hrep rfl (by simp)
      obtain ⟨v', hba'⟩ := hba.sentBack
      exact ⟨hab.arrive hdet hup hlost, v', hba'.act hdet⟩

theorem move (h : p.Relayed) {op : DuplexOp} (hop : p.GetsThrough op) : (p.move op).Relayed := by
  cases op with
  | atA op => exact h.moveA hop
  | atB op => exact (h.swap.moveA hop).swap

end Relayed

/-! ## An MSU that is missed leaves a gap -/

/-- One MSU less is in flight, and nothing else has changed hands. -/
structure Gap (p p' : LinkPair) : Prop where
  submitted : p'.a.submitted = p.a.submitted
  pending : p'.a.link.tx.pending = p.a.link.tx.pending
  delivered : p'.b.delivered = p.b.delivered
  inFlight : p'.a.inFlight.length + 1 = p.a.inFlight.length

/-- After a gap, something submitted is missing. -/
theorem Gap.not_piped {p p' : LinkPair} (h : p.Gap p') (hp : p.b.link.state ≠ .OutOfService)
    (hp' : p'.b.link.state ≠ .OutOfService) (hpiped : p.a.Piped p.b) : ¬ p'.a.Piped p'.b := by
  intro hpiped'
  have hlen := congrArg List.length (hpiped hp)
  have hlen' := congrArg List.length (hpiped' hp')
  -- the count of what was submitted would have to be two numbers at once
  rw [h.submitted, h.pending, h.delivered] at hlen'
  simp only [List.length_append] at hlen hlen'
  have := h.inFlight
  omega

/-- Taking out a unit with an MSU leaves one MSU less in flight. -/
theorem inFlight_eraseIdx {out : List SignalUnit} {i : ℕ}
    (h : (out[i]?.bind SignalUnit.carried).isSome = true) :
    ((out.eraseIdx i).filterMap SignalUnit.carried).length + 1 =
      (out.filterMap SignalUnit.carried).length := by
  obtain ⟨j, herase, hget⟩ := filterMap_eraseIdx SignalUnit.carried out i
  rw [← hget] at h
  have hlt : j < (out.filterMap SignalUnit.carried).length := by
    refine Nat.lt_of_not_le fun hge => ?_
    rw [List.getElem?_eq_none hge] at h
    cases h
  rw [herase, List.length_eraseIdx_of_lt hlt]
  omega

/-- In an outage nothing is handed to MTP3. -/
theorem payloads_outage {l : Mtp2Link} {su : SignalUnit} (hc : su.carried.isSome = true)
    (hs : l.state = .AlignedNotReady ∨ l.state = .ProcessorOutage) :
    payloads (l.raised (.handleSu su)) = [] := by
  cases su with
  | Lssu header status extended | Fisu header => cases hc
  | Msu header sio sif =>
    have htr : (SignalUnit.Msu header sio sif).traffic = some (header, some (sio, sif)) := rfl
    rcases hs with hs | hs
    · -- Aligned Not Ready does not listen to MSUs at all
      have hdeaf : ¬(l.state = .AlignedReady ∨ l.state.carriesTraffic = true) := by
        rw [hs]
        decide
      exact (Mtp2Link.detached_deaf htr hdeaf).payloads
    · -- Processor Outage listens, and discards them
      rcases Mtp2Link.handleSu_heard htr (.inr (by rw [hs]; rfl)) with ⟨-, -, -, hpay⟩ | ⟨hdet, -⟩
      · rw [hpay, Mtp2Link.checked]
        dsimp only
        rw [if_pos hs]
        rfl
      · exact hdet.payloads

/-- An operation that misses an MSU leaves a gap. -/
theorem gap_of_misses {p : LinkPair} {op : SideOp} (hrep : ∃ age, p.b.link.Represented age)
    (hm : p.misses op = true) : p.Gap (p.moveA op) := by
  cases op with
  | call op own => cases hm
  | lose i => exact ⟨rfl, rfl, rfl, inFlight_eraseIdx hm⟩
  | deliver =>
    obtain ⟨hc, hs⟩ := Bool.and_eq_true_iff.mp hm
    cases hout : p.a.out with
    | nil => rw [hout] at hc; cases hc
    | cons su rest =>
      have hgap := inFlight_eraseIdx hc
      rw [hout] at hc
      rw [moveA_deliver hout]
      -- it is missed by an end in an outage
      have hpay : payloads (p.b.link.raised (.handleSu su)) = [] :=
        payloads_outage hc (by simpa using hs)
      refine ⟨rfl, rfl, ?_, by rw [List.eraseIdx_zero] at hgap; exact hgap⟩
      show p.b.delivered ++ _ = _
      rw [hpay, List.append_nil]
  | corrupt =>
    obtain ⟨age, hrep⟩ := hrep
    cases hout : p.a.out with
    | nil => rw [misses, hout] at hm; cases hm
    | cons su rest =>
      have hgap := inFlight_eraseIdx hm
      rw [moveA_corrupt hout]
      have hdet : p.b.link.Detached .handleCorruptedSu := Mtp2Link.detached hrep rfl (by simp)
      refine ⟨rfl, rfl, ?_, by rw [List.eraseIdx_zero] at hgap; exact hgap⟩
      show p.b.delivered ++ _ = _
      rw [hdet.payloads, List.append_nil]

/-- Nothing submitted is missing in either direction. -/
def Piped (p : LinkPair) : Prop := p.a.Piped p.b ∧ p.b.Piped p.a

namespace Relayed

variable {p : LinkPair}

theorem piped (h : p.Relayed) : p.Piped := by
  obtain ⟨w, hab⟩ := h.ab
  obtain ⟨v, hba⟩ := h.ba
  exact ⟨hab.piped, hba.piped⟩

/-- A pair that shows nothing missing has missed nothing. -/
theorem shown (h : p.Relayed) {op : SideOp} (hpiped : (p.moveA op).a.Piped (p.moveA op).b)
    (hm : p.misses op = true) : (p.moveA op).b.link.state = .OutOfService := by
  by_contra ho
  exact (gap_of_misses h.backed.agreed.b.represented hm).not_piped (h.up_of_moveA op ho) ho
    h.piped.1 hpiped

theorem getsThrough (h : p.Relayed) {op : DuplexOp} (hpiped : (p.move op).Piped) :
    p.GetsThrough op := by
  cases op with
  | atA op => exact h.shown hpiped.1
  | atB op => exact h.swap.shown hpiped.2

end Relayed

/-- Nothing has been asked for again, and nothing is being sent again. -/
structure Straight (l : Mtp2Link) : Prop where
  tx : l.tx.Straight
  rx : l.rx.Straight

/-- **A Basic link is a pipe exactly as long as its MSUs get through.** In a run of two links under
the Basic method, with calls, losses and damage at either end, nothing submitted is ever missing
from what was handed over, what is in flight and what waits if and only if every MSU that leaves a
pipe finds the other end ready for it, or out of service. In such a run both ends have been handed
prefixes of what was submitted at the other, and neither asks for a retransmission. -/
theorem basic_pipes {ca cb : Mtp2Config} (ha : ca.method = .Basic) (hb : cb.method = .Basic)
    (ops : List DuplexOp) :
    ((∀ ops', ops' <+: ops → (ops'.foldl move (started ca cb)).Piped) ↔
        Run.Along move GetsThrough (started ca cb) ops) ∧
      (Run.Along move GetsThrough (started ca cb) ops →
        let p := ops.foldl move (started ca cb)
        (Faithful p.a p.b ∧ Faithful p.b p.a) ∧ Straight p.a.link ∧ Straight p.b.link) := by
  refine ⟨Run.along_iff_shown Relayed (fun p op h hop => h.move hop) (fun p h => h.piped)
    (fun p op h hpiped => h.getsThrough hpiped) (.started ha hb) ops, fun hrun => ?_⟩
  have h : (ops.foldl move (started ca cb)).Relayed :=
    Run.invariant_along Relayed (fun p op h hop => h.move hop) (.started ha hb) hrun
  obtain ⟨w, hab⟩ := h.ab
  obtain ⟨v, hba⟩ := h.ba
  exact ⟨⟨hab.faithful, hba.faithful⟩, ⟨hab.tx, hba.rx⟩, ⟨hba.tx, hab.rx⟩⟩

/-- Two links align, FISUs are lost and damaged, and MSUs cross. -/
theorem basic_pipes_lossy :
    let config : Mtp2Config := { t4ProvingNormal := 1 }
    let ops : List DuplexOp := exchange ++ exchange ++ exchange ++
      [.atA (.call (.submitMsu 5 [1, 2]) rfl), .atA (.call .pollTransmit rfl),
        .atA (.call .pollTransmit rfl), .atA (.lose 1), .atB (.call .pollTransmit rfl),
        .atB .corrupt, .atB (.call (.submitMsu 6 [3]) rfl), .atB (.call .pollTransmit rfl),
        .atA .deliver, .atB .deliver]
    let p := ops.foldl move (started config config)
    (∀ ops', ops' <+: ops → (ops'.foldl move (started config config)).Piped) ∧
      (Faithful p.a p.b ∧ Faithful p.b p.a) ∧ p.b.delivered = [(5, [1, 2])] ∧
      p.a.delivered = [(6, [3])] := by
  intro config ops p
  have hm : config.method = .Basic := rfl
  have hrun : Run.Along move GetsThrough (started config config) ops := by decide +kernel
  obtain ⟨hiff, hsafe⟩ := basic_pipes hm hm ops
  exact ⟨hiff.mpr hrun, (hsafe hrun).1, by decide +kernel, by decide +kernel⟩

end LinkPair

end Mtp2
