import Mtp2.LinkPair
import Mtp2.Backlog

/-!
# MTP2 — two links under PCR

Two links started from power-off and joined by two pipes that may lose a unit or damage one, with
every call of the local user at either end but another start: submissions, polls, processor outages,
congestion, emergency requests and `stop`. Each direction of the pair refines the sliding window of
`Mtp2.Lib.SlidingWindow`, whatever state the two links are in: a unit the other end does not look at
is as good as lost.

* **`Streams`** — one direction of the pair, as a sliding window;
* **`Streams.poll`**, **`Streams.deliver`**, **`Streams.acknowledge`**, **`Streams.lose`** — what
  happens to a direction is an operation of the window;
* **`forth`**, **`back`** — every operation at an end, on the direction it leaves by and on the
  other;
* **`pcr_pair_safe`** — both directions deliver in order and lose nothing.
-/

namespace Mtp2

open SlidingWindow (State)

/-! ## The pair -/

/-- A call at one end that neither starts the link nor hands it a unit. -/
def Op.isCall : Op → Bool
  | .start | .handleSu _ | .handleCorruptedSu => false
  | _ => true

/-- What can happen at one end, with the pipe that leaves it. -/
inductive SideOp where
  | call (op : Op) (own : op.isCall = true)
  | deliver
  /-- The oldest unit arrives with a bad CRC. -/
  | corrupt
  | lose (i : ℕ)
  deriving Repr, DecidableEq

inductive DuplexOp where
  | atA (op : SideOp)
  | atB (op : SideOp)
  deriving Repr, DecidableEq

/-- A call, with the logs it moves. -/
def Endpoint.call (x : Endpoint) : Op → Endpoint
  | .submitMsu sio sif => x.submit sio sif
  | .pollTransmit => x.poll
  | op => x.act op

namespace LinkPair

def moveA (p : LinkPair) : SideOp → LinkPair
  | .call op _ => { p with a := p.a.call op }
  | .deliver =>
    match p.a.out with
    | [] => p
    | su :: _ => ⟨p.a.sent, p.b.act (.handleSu su)⟩
  | .corrupt =>
    match p.a.out with
    | [] => p
    | _ :: _ => ⟨p.a.sent, p.b.act .handleCorruptedSu⟩
  | .lose i => { p with a := p.a.lose p.b i }

def move (p : LinkPair) : DuplexOp → LinkPair
  | .atA op => p.moveA op
  | .atB op => (p.swap.moveA op).swap

variable {p : LinkPair}

theorem moveA_deliver_nil (hout : p.a.out = []) : p.moveA .deliver = p := by
  simp only [moveA, hout]

theorem moveA_deliver {su : SignalUnit} {rest : List SignalUnit} (hout : p.a.out = su :: rest) :
    p.moveA .deliver = ⟨p.a.sent, p.b.act (.handleSu su)⟩ := by
  simp only [moveA, hout]

theorem moveA_corrupt_nil (hout : p.a.out = []) : p.moveA .corrupt = p := by
  simp only [moveA, hout]

theorem moveA_corrupt {su : SignalUnit} {rest : List SignalUnit} (hout : p.a.out = su :: rest) :
    p.moveA .corrupt = ⟨p.a.sent, p.b.act .handleCorruptedSu⟩ := by
  simp only [moveA, hout]

end LinkPair

namespace Mtp2Link

variable {l : Mtp2Link} {age : ℕ}

/-- What leaves both controllers alone and hands nothing to MTP3. -/
structure Detached (l : Mtp2Link) (op : Op) : Prop where
  tx : (l.step op).tx = l.tx
  rx : (l.step op).rx = l.rx
  payloads : payloads (l.raised op) = []

/-- Besides submissions, polls, starts and received units, nothing touches the controllers. -/
theorem detached (h : l.Represented age) {op : Op} (hop : op.idlesTx = true)
    (hsu : ∀ su, op ≠ .handleSu su) : l.Detached op := by
  refine ⟨?_, ?_, ?_⟩
  · have ht := l.step_transmits op
    generalize (l.step op).tx = t at ht
    cases ht with
    | kept _ _ _ => rfl
    | acknowledged _ _ => exact absurd rfl (hsu _)
    | started _ | submitted | polled _ => cases hop
  · have hr := step_raised h op
    generalize l.step op = l' at hr
    cases hr with
    | quiet _ _ _ hrx | polled _ hrx => exact hrx
    | started _ => cases hop
    | serving _ _ _ | received _ _ _ _ => exact absurd rfl (hsu _)
  · by_cases hpoll : op = .pollEvent
    · rw [hpoll, raised_pollEvent]
      rfl
    have hr := step_raised h op
    generalize hl' : l.step op = l' at hr
    cases hr with
    | quiet es hes he _ => rw [raised_of_append (hl' ▸ he), payloads_management hes]
    | polled _ _ => exact absurd rfl hpoll
    | started _ => cases hop
    | serving _ _ _ | received _ _ _ _ => exact absurd rfl (hsu _)

/-- A status indication concerns neither controller. -/
theorem detached_lssu (h : l.Represented age) {su : SignalUnit} (hsu : su.traffic = none) :
    l.Detached (.handleSu su) := by
  have htx : (l.step (.handleSu su)).tx = l.tx := by
    have ht := l.step_transmits (.handleSu su)
    generalize (l.step (.handleSu su)).tx = t at ht
    cases ht with
    | kept _ _ _ => rfl
    | acknowledged hsu' _ => rw [hsu] at hsu'; cases hsu'
  have hr := step_raised h (.handleSu su)
  generalize hl' : l.step (.handleSu su) = l' at hr htx
  cases hr with
  | quiet es hes he hrx =>
    exact ⟨by rw [hl', htx], by rw [hl', hrx],
      by rw [raised_of_append (hl' ▸ he), payloads_management hes]⟩
  | serving _ he hrx =>
    exact ⟨by rw [hl', htx], by rw [hl', hrx], by rw [raised_of_append (hl' ▸ he)]; rfl⟩
  | received hsu' _ _ _ => rw [hsu] at hsu'; cases hsu'

/-- A state that does not look at FISUs and MSUs leaves the controllers alone. -/
theorem detached_deaf {su : SignalUnit} {header : SuHeader} {msu : Option Payload}
    (htr : su.traffic = some (header, msu))
    (hs : ¬(l.state = .AlignedReady ∨ l.state.carriesTraffic = true)) :
    l.Detached (.handleSu su) := by
  have hsame : l.step (.handleSu su) = l.withSuerm := by
    rcases l.handleSu_cases su with ⟨hc, -⟩ | heq
    · exact absurd (.inr hc) hs
    rw [step, heq, handleUnit_traffic htr]
    rcases l.withSuerm.handleFisuOrMsu_cases header msu with ⟨ha, -⟩ | ⟨hc, -⟩ | ⟨-, -, heq'⟩
    · exact absurd (.inl ha) hs
    · exact absurd (.inr hc) hs
    · exact heq'
  exact ⟨by rw [hsame]; rfl, by rw [hsame]; rfl, raised_silent (by rw [hsame]; rfl)⟩

/-- Elsewhere both controllers look at it, unless the SUERM trips. -/
theorem handleSu_heard {su : SignalUnit} {header : SuHeader} {msu : Option Payload}
    (htr : su.traffic = some (header, msu))
    (hs : l.state = .AlignedReady ∨ l.state.carriesTraffic = true) :
    ((l.step (.handleSu su)).state.carriesTraffic = true ∧
        (l.step (.handleSu su)).tx = l.tx.onAck header.bsn header.bib ∧
        (l.step (.handleSu su)).rx = (l.checked header.fsn msu).2 ∧
        payloads (l.raised (.handleSu su)) =
          payloads (outcomeEvents (l.checked header.fsn msu).1)) ∨
      l.Detached (.handleSu su) ∧ (l.step (.handleSu su)).state = .OutOfService := by
  rcases l.handleSu_cases su with ⟨-, heq⟩ | heq
  · -- the SUERM trips
    have heq' : l.step (.handleSu su) = l.withSuerm.failOutOfService .SuermFailure := heq
    refine .inr ⟨⟨by rw [heq']; rfl, by rw [heq']; rfl, ?_⟩, by rw [heq']; rfl⟩
    have he : (l.step (.handleSu su)).events = l.events ++ [.OutOfService .SuermFailure] := by
      rw [heq']
      rfl
    rw [raised_of_append he]
    rfl
  · rw [handleUnit_traffic htr] at heq
    obtain ⟨hc, htx, hrx, he⟩ := handleFisuOrMsu_received (l := l.withSuerm) header msu hs
    rw [← heq] at hc htx hrx he
    exact .inl ⟨hc, htx, hrx, payloads_received he⟩

/-- A received unit is looked at by both controllers, or by neither. -/
theorem handleSu_controllers (h : l.Represented age) (su : SignalUnit) :
    (∃ header msu, su.traffic = some (header, msu) ∧
        (l.step (.handleSu su)).tx = l.tx.onAck header.bsn header.bib ∧
        (l.step (.handleSu su)).rx = (l.checked header.fsn msu).2 ∧
        payloads (l.raised (.handleSu su)) =
          payloads (outcomeEvents (l.checked header.fsn msu).1)) ∨
      l.Detached (.handleSu su) := by
  cases htr : su.traffic with
  | none => exact .inr (detached_lssu h htr)
  | some p =>
    obtain ⟨header, msu⟩ := p
    by_cases hs : l.state = .AlignedReady ∨ l.state.carriesTraffic = true
    · rcases handleSu_heard htr hs with ⟨-, hheard⟩ | ⟨hdet, -⟩
      · exact .inl ⟨header, msu, rfl, hheard⟩
      · exact .inr hdet
    · exact .inr (detached_deaf htr hs)

/-- What a run under PCR keeps of a link. -/
structure PcrSound (params : PcrParams) (l : Mtp2Link) : Prop where
  represented : ∃ age, l.Represented age
  loaded : l.tx.Loaded
  bounded : l.tx.Bounded params
  method : l.config.method = .Pcr params

namespace PcrSound

variable {params : PcrParams}

theorem started {config : Mtp2Config} (h : config.method = .Pcr params) :
    ((new config).step .start).PcrSound params :=
  ⟨represented_of_run config [.start], loaded_run config [.start], backlog_run h [.start], h⟩

theorem step (h : l.PcrSound params) (op : Op) : (l.step op).PcrSound params := by
  obtain ⟨age, hrep⟩ := h.represented
  exact ⟨⟨_, hrep.step op⟩, loaded_step h.loaded op, backlog_step h.method h.loaded h.bounded op,
    by rw [step_config]; exact h.method⟩

end PcrSound

end Mtp2Link

/-! ## What a controller holds -/

namespace TxControl

/-- Every payload the controller holds, waiting or buffered, is one of `P`. -/
structure Holding (P : Payload → Prop) (t : TxControl) : Prop where
  pending : ∀ p ∈ t.pending, P p
  buffered : ∀ m ∈ t.unacked, P m.payload

variable {P : Payload → Prop}

theorem holding_new (method : RetransmissionMethod) : (new method).Holding P :=
  ⟨by simp [new], by simp [new]⟩

namespace Holding

variable {t : TxControl}

theorem submit (h : t.Holding P) {sio : UInt8} {sif : List UInt8} (hp : P (sio, sif)) :
    (t.submit sio sif).Holding P := by
  refine ⟨fun p hmem => ?_, h.buffered⟩
  rcases List.mem_append.mp hmem with hmem | hmem
  · exact h.pending p hmem
  · rw [List.mem_singleton.mp hmem]
    exact hp

/-- The head of the queue is numbered. -/
theorem number (h : t.Holding P) {sio : UInt8} {sif : List UInt8} {rest : List Payload}
    (hp : t.pending = (sio, sif) :: rest) : (t.number sio sif rest).Holding P := by
  have hall : ∀ p ∈ (sio, sif) :: rest, P p := hp ▸ h.pending
  refine ⟨fun p hmem => hall p (List.mem_cons_of_mem _ hmem), fun m hm => ?_⟩
  rcases List.mem_append.mp hm with hm | hm
  · exact h.buffered m hm
  · rw [List.mem_singleton.mp hm]
    exact hall _ List.mem_cons_self

theorem poll (h : t.Holding P) : t.poll.2.Holding P := by
  have hpolled := t.polled
  generalize t.pollIndex = o, t.poll = r at hpolled ⊢
  cases hpolled with
  | basicFresh hm hidle hp => exact ⟨(h.number hp).pending, (h.number hp).buffered⟩
  | pcrFresh hm hf hp => exact ⟨(h.number hp).pending, (h.number hp).buffered⟩
  | basicAgain | basicFill | pcrAgain | pcrFill => exact ⟨h.pending, h.buffered⟩

theorem onAck (h : t.Holding P) (bsn : UInt8) (bib : Bool) : (t.onAck bsn bib).Holding P := by
  refine ⟨by rw [onAck_pending]; exact h.pending, fun m hm => ?_⟩
  rw [onAck_unacked] at hm
  exact h.buffered m (List.mem_of_mem_drop hm)

end Holding

end TxControl

/-- What is submitted is all that comes in. -/
theorem Mtp2Link.holding_step {l : Mtp2Link} {P : Payload → Prop} (h : l.tx.Holding P) {op : Op}
    (hsub : ∀ sio sif, op = .submitMsu sio sif → P (sio, sif)) : (l.step op).tx.Holding P :=
  tx_step op h (TxControl.holding_new _) (fun sio sif hop _ => h.submit (hsub sio sif hop)) h.poll
    h.onAck

/-! ## Polling a window -/

namespace WindowRel

variable {tx : TxControl} {rx : RxControl} {data : List TxFrame} {acks : List (UInt8 × Bool)}
  {w : State Payload Bool} {W : ℕ}

/-- **A poll of the transmit control is a step of the window**, which moves no log. -/
theorem poll (h : WindowRel id tx rx data acks w) (hw : SlidingWindow.Inv W w)
    (hroom : tx.poll.2.unacked.length ≤ W) :
    ∃ w', SlidingWindow.Step W 64 w w' ∧
      WindowRel id tx.poll.2 rx (data ++ [tx.poll.1]) acks w' ∧
      ∀ submitted delivered, Channel.Delivered submitted delivered w →
        Channel.Delivered submitted delivered w' := by
  rcases h.tracks.poll with ⟨sio, sif, rest, hp, hp', hframe, ht⟩ |
    ⟨i, p, hi, hget, hp', hframe, ht⟩ | ⟨hp', hframe, ht⟩ <;> rw [hframe]
  · -- a new MSU
    have hqueue := h.queue.symm.trans hp
    refine ⟨w.number (sio, sif) rest tx.fib, .number _ hqueue ?_, h.number tx.fib ht hp',
      fun _ _ hdel => hdel.number _ hqueue hw.recv_le⟩
    have hlen := ht.unacked_length
    rw [List.length_append, List.length_singleton] at hlen
    have := h.tracks.base_le
    omega
  · -- a buffered MSU again
    exact ⟨w.resend i p tx.fib, .resend _ hi hget,
      h.push ⟨some (i, p), w.sent.length, tx.fib⟩ ht hp',
      fun _ _ hdel => ⟨hdel.submitted, hdel.accepted⟩⟩
  · -- nothing to send but the present FSN
    have hfill : tx.fill = frameOf id ⟨none, w.sent.length, tx.fib⟩ := by
      rw [TxControl.fill, h.tracks.lastFsn]
      rfl
    rw [hfill]
    exact ⟨w.fill tx.fib, .fill _, h.push ⟨none, w.sent.length, tx.fib⟩ ht hp',
      fun _ _ hdel => ⟨hdel.submitted, hdel.accepted⟩⟩

/-- **An acknowledgement is a step of the window**: past half a window it frees nothing. -/
theorem ackStep (h : WindowRel id tx rx data acks w) (hw : SlidingWindow.Inv W w) (hW : W ≤ 128)
    {bsn : UInt8} {bib : Bool} {ackRest : List (UInt8 × Bool)}
    (hd : acks = (bsn, bib) :: ackRest) :
    ∃ b, SlidingWindow.Step W 64 w (w.takeAck b) ∧
      WindowRel id (tx.onAck bsn bib) rx data ackRest (w.takeAck b) := by
  obtain ⟨k, krest, hk, hkeq, -⟩ := h.acks_cons hd
  obtain ⟨b, hb, -, hrel⟩ := h.takeAck hw hW hd
  obtain ⟨hlo, hhi⟩ := hw.ack_mem k (by rw [hk]; exact List.mem_cons_self)
  have hwin := hw.window
  have hrecv := hw.recv_le
  have hbsn : bsn = seqOf (k.upto + 127) := congrArg Prod.fst hkeq
  have hb' : b = if k.upto ≤ w.base + 64 then k.upto else w.base := by
    rw [hb, hbsn, h.tracks.freedBy_length (by omega) hlo (by omega)]
    split <;> omega
  exact ⟨b, hb' ▸ .takeAck hk, hrel⟩

/-- A FISU with the present FSN goes out. -/
theorem pushFill (h : WindowRel id tx rx data acks w) :
    WindowRel id tx rx (data ++ [⟨tx.lastFsn, tx.fib, .Fisu⟩]) acks (w.fill tx.fib) := by
  have hfill : (⟨tx.lastFsn, tx.fib, .Fisu⟩ : TxFrame) =
      frameOf id ⟨none, w.sent.length, tx.fib⟩ := by
    rw [h.tracks.lastFsn]
    rfl
  rw [hfill]
  exact h.push ⟨none, w.sent.length, tx.fib⟩ h.tracks rfl

end WindowRel

/-! ## What happens to an end -/

namespace Endpoint

/-- **A submission waits, or leaves no trace.** -/
theorem submit_cases (x : Endpoint) (sio : UInt8) (sif : List UInt8) :
    (Fits (sio, sif) ∧ x.submit sio sif =
        { x with
          link := { x.link with tx := x.link.tx.submit sio sif }
          submitted := x.submitted ++ [(sio, sif)]
          exposed := false }) ∨
      ¬ Fits (sio, sif) ∧ x.submit sio sif = x := by
  have hpay : x.delivered ++ payloads (x.link.raised (.submitMsu sio sif)) = x.delivered := by
    have hev : (x.link.step (.submitMsu sio sif)).events = x.link.events := by
      rw [Mtp2Link.step, Mtp2Link.submitMsu_eq]
    rw [Mtp2Link.raised_silent hev, List.append_nil]
  unfold submit
  by_cases hfit : Fits (sio, sif)
  · have heq : x.link.submitMsu sio sif =
        (.ok (), { x.link with tx := x.link.tx.submit sio sif }) := if_neg (Nat.not_lt.mpr hfit)
    refine .inl ⟨hfit, ?_⟩
    rw [heq]
    dsimp only
    rw [act, hpay, Mtp2Link.step, heq]
  · obtain ⟨e, heq⟩ : ∃ e, x.link.submitMsu sio sif = (.error e, x.link) :=
      ⟨_, if_pos (Nat.lt_of_not_le hfit)⟩
    refine .inr ⟨hfit, ?_⟩
    rw [heq]
    dsimp only
    rw [act, hpay, Mtp2Link.step, heq]

/-- A poll moves the link and the pipe only. -/
theorem poll_eq (x : Endpoint) : x.poll =
    { x with link := x.link.pollTransmit.2, out := x.out ++ x.link.pollTransmit.1.toList } := by
  have hev : (x.link.step .pollTransmit).events = x.link.events := by
    rw [Mtp2Link.step, Mtp2Link.pollTransmit_eq]
  rw [poll, act, Mtp2Link.raised_silent hev, List.append_nil, Mtp2Link.step]

theorem poll_tx (x : Endpoint) :
    x.poll.link.tx = if x.link.polls then x.link.tx.poll.2 else x.link.tx := by
  rw [poll_eq, Mtp2Link.pollTransmit_eq]

theorem poll_rx (x : Endpoint) : x.poll.link.rx = x.link.rx := by
  rw [poll_eq, Mtp2Link.pollTransmit_eq]

/-- What the unit at the head of the pipe carries, and then the units behind it. -/
theorem filterMap_sent {α : Type*} (f : SignalUnit → Option α) {x : Endpoint} {su : SignalUnit}
    {rest : List SignalUnit} (hout : x.out = su :: rest) :
    x.out.filterMap f = (f su).toList ++ x.sent.out.filterMap f := by
  rw [sent, hout]
  cases hf : f su <;> simp [hf]

end Endpoint

/-! ## One direction -/

/-- The window evolves: under PCR at most 127 MSUs are outstanding, and the comparison of `on_ack`
sees half the sequence space. -/
abbrev Evolves : State Payload Bool → State Payload Bool → Prop := SlidingWindow.Steps 127 64

/-- **The direction from `x` to `y` is a sliding window**: the frames are those of `x`'s units, the
acknowledgements those of `y`'s. -/
structure Streams (x y : Endpoint) (w : State Payload Bool) : Prop where
  rel : WindowRel id x.link.tx y.link.rx x.frames y.acks w
  inv : SlidingWindow.Inv 127 w
  delivered : Channel.Delivered x.submitted y.delivered w

namespace Streams

variable {x y x' y' : Endpoint} {w : State Payload Bool}

theorem started {ca cb : Mtp2Config} {pa pb : PcrParams} (ha : ca.method = .Pcr pa)
    (hb : cb.method = .Pcr pb) : Streams (.started ca) (.started cb) State.init := by
  -- two fresh controllers, and nothing submitted, on its way or delivered
  have htx : (Endpoint.started ca).link.tx = .new (.Pcr pa) := by rw [← ha]; rfl
  have hrx : (Endpoint.started cb).link.rx = .new (.Pcr pb) := by rw [← hb]; rfl
  refine ⟨?_, SlidingWindow.inv_init, ⟨rfl, rfl⟩⟩
  rw [htx, hrx]
  exact ⟨TxControl.tracks_new _, rfl, rfl, rfl, rfl⟩

/-- What the direction does not read may change. -/
theorem congr (h : Streams x y w) (htx : x'.link.tx = x.link.tx) (hrx : y'.link.rx = y.link.rx)
    (hf : x'.frames = x.frames) (hk : y'.acks = y.acks) (hs : x'.submitted = x.submitted)
    (hd : y'.delivered = y.delivered) : Streams x' y' w where
  rel := by rw [htx, hrx, hf, hk]; exact h.rel
  inv := h.inv
  delivered := by rw [hs, hd]; exact h.delivered

/-! ### Calls -/

theorem submit (h : Streams x y w) (sio : UInt8) (sif : List UInt8) :
    ∃ w', Evolves w w' ∧ Streams (x.submit sio sif) y w' := by
  rcases x.submit_cases sio sif with ⟨-, heq⟩ | ⟨-, heq⟩ <;> rw [heq]
  · exact ⟨w.submit (sio, sif), .single (.submit _), h.rel.submit sio sif, h.inv.submit _,
      h.delivered.submit _⟩
  · exact ⟨w, .refl, h⟩

/-- A submission at the other end. -/
theorem submitBack (h : Streams x y w) (sio : UInt8) (sif : List UInt8) :
    Streams x (y.submit sio sif) w := by
  rcases y.submit_cases sio sif with ⟨-, heq⟩ | ⟨-, heq⟩ <;> rw [heq]
  · exact h.congr rfl rfl rfl rfl rfl rfl
  · exact h

theorem act (h : Streams x y w) {op : Op} (hx : x.link.Detached op) : Streams (x.act op) y w :=
  h.congr hx.tx rfl rfl rfl rfl rfl

theorem actBack (h : Streams x y w) {op : Op} (hy : y.link.Detached op) : Streams x (y.act op) w :=
  h.congr rfl hy.rx rfl rfl rfl (by rw [Endpoint.act, hy.payloads, List.append_nil])

/-- **A poll sends the next frame of the direction**, or a unit that carries none. -/
theorem poll (h : Streams x y w) (hl : x.link.tx.Loaded)
    (hroom : x.link.tx.poll.2.unacked.length ≤ 127) :
    ∃ w', Evolves w w' ∧ Streams x.poll y w' := by
  have htx := x.poll_tx
  rcases x.link.pollTransmit_unit with ⟨hnone, hs⟩ | ⟨hp, hsu⟩ |
    ⟨hp, ⟨status, hsu⟩ | ⟨-, hsu⟩⟩
  · -- a dark link
    have hp : x.link.polls = false := by simp [Mtp2Link.polls, hs]
    rw [hp] at htx
    refine ⟨w, .refl, h.congr htx rfl ?_ rfl rfl rfl⟩
    rw [Endpoint.frames, Endpoint.poll, hnone]
    exact congrArg _ (List.append_nil _)
  · -- in service: whatever the transmit control chose
    rw [if_pos hp] at htx
    obtain ⟨hframes, -⟩ := Conveys.poll_out x hsu
    obtain ⟨w', hstep, hrel, hdel⟩ := h.rel.poll h.inv hroom
    refine ⟨w', .single hstep, ?_, hstep.inv h.inv, hdel _ _ h.delivered⟩
    rw [hframes, x.link.frameUnit_frame hl.frame.2, htx]
    exact hrel
  · -- a status indication
    rw [hp] at htx
    obtain ⟨hframes, -⟩ := Conveys.poll_out x hsu
    exact ⟨w, .refl, h.congr htx rfl (hframes.trans (List.append_nil _)) rfl rfl rfl⟩
  · -- a FISU that holds the traffic
    rw [hp] at htx
    obtain ⟨hframes, -⟩ := Conveys.poll_out x hsu
    refine ⟨w.fill x.link.tx.fib, .single (.fill _), ?_, h.inv.fill _,
      ⟨h.delivered.submitted, h.delivered.accepted⟩⟩
    rw [hframes, htx]
    exact h.rel.pushFill

/-- **A poll acknowledges what the other direction has delivered.** -/
theorem pollBack (h : Streams x y w) : ∃ w', Evolves w w' ∧ Streams x y.poll w' := by
  have hrx := y.poll_rx
  have hpay : y.poll.delivered = y.delivered := by rw [y.poll_eq]
  have hsend {su : SignalUnit} (hsu : y.link.pollTransmit.1 = some su)
      (hack : su.ack = some (y.link.rx.bsn, y.link.rx.bib)) :
      ∃ w', Evolves w w' ∧ Streams x y.poll w' := by
    obtain ⟨-, hacks⟩ := Conveys.poll_out y hsu
    refine ⟨w.sendAck y.link.rx.bib, .single (.sendAck _), ?_, h.inv.sendAck _, ?_⟩
    · rw [hrx, hacks, hack]
      exact h.rel.sendAck _ rfl
    · rw [hpay]
      exact ⟨h.delivered.submitted, h.delivered.accepted⟩
  rcases y.link.pollTransmit_unit with ⟨hnone, -⟩ | ⟨-, hsu⟩ | ⟨-, ⟨status, hsu⟩ | ⟨-, hsu⟩⟩
  · refine ⟨w, .refl, h.congr rfl hrx rfl ?_ rfl hpay⟩
    rw [Endpoint.acks, Endpoint.poll, hnone]
    exact congrArg _ (List.append_nil _)
  · -- the BSN and BIB of every frame are those of the receive side
    obtain ⟨-, -, -, hack, -⟩ := y.link.frameUnit_traffic y.link.tx.poll.1
    exact hsend hsu hack
  · obtain ⟨-, hacks⟩ := Conveys.poll_out y hsu
    exact ⟨w, .refl, h.congr rfl hrx rfl (hacks.trans (List.append_nil _)) rfl hpay⟩
  · exact hsend hsu rfl

/-! ### Losing -/

/-- A unit lost from the pipe is a frame lost from the window, or none. -/
theorem lose (h : Streams x y w) (z : Endpoint) (i : ℕ) :
    ∃ w', Evolves w w' ∧ Streams (x.lose z i) y w' := by
  obtain ⟨j, herase, -⟩ := filterMap_eraseIdx SignalUnit.frame x.out i
  have hframes : (x.lose z i).frames = x.frames.eraseIdx j := herase
  refine ⟨w.loseData j, .single (.loseData j), ?_, h.inv.loseData j,
    ⟨h.delivered.submitted, h.delivered.accepted⟩⟩
  rw [hframes]
  exact h.rel.loseData j

/-- The acknowledgement of a lost unit comes again with the next. -/
theorem loseBack (h : Streams x y w) (z : Endpoint) (i : ℕ) :
    ∃ w', Evolves w w' ∧ Streams x (y.lose z i) w' := by
  obtain ⟨j, herase, -⟩ := filterMap_eraseIdx SignalUnit.ack y.out i
  have hacks : (y.lose z i).acks = y.acks.eraseIdx j := herase
  refine ⟨w.loseAck j, .single (.loseAck j), ?_, h.inv.loseAck j,
    ⟨h.delivered.submitted, h.delivered.accepted⟩⟩
  rw [hacks]
  exact h.rel.loseAck j

/-- A unit taken off the pipe and not looked at is as good as lost. -/
theorem sent (h : Streams x y w) : ∃ w', Evolves w w' ∧ Streams x.sent y w' := by
  obtain ⟨w', hev, h'⟩ := h.lose y 0
  exact ⟨w', hev, h'.congr rfl rfl (congrArg (List.filterMap _) List.eraseIdx_zero.symm) rfl rfl
    rfl⟩

theorem sentBack (h : Streams x y w) : ∃ w', Evolves w w' ∧ Streams x y.sent w' := by
  obtain ⟨w', hev, h'⟩ := h.loseBack x 0
  exact ⟨w', hev, h'.congr rfl rfl rfl (congrArg (List.filterMap _) List.eraseIdx_zero.symm) rfl
    rfl⟩

/-! ### Delivering -/

/-- **A unit handed to the other end moves its direction on.** -/
theorem deliver (h : Streams x y w) (hy : ∃ age, y.link.Represented age) {su : SignalUnit}
    {rest : List SignalUnit} (hout : x.out = su :: rest) :
    ∃ w', Evolves w w' ∧ Streams x.sent (y.act (.handleSu su)) w' := by
  obtain ⟨age, hrep⟩ := hy
  rcases Mtp2Link.handleSu_controllers hrep su with ⟨header, msu, htr, -, hrx, hpay⟩ | hdet
  swap
  · obtain ⟨w', hev, h'⟩ := h.sent
    exact ⟨w', hev, h'.actBack hdet⟩
  have hframes : x.frames = su.frame.toList ++ x.sent.frames := Endpoint.filterMap_sent _ hout
  -- a unit whose payload is not checked leaves the receiver as it is
  have hidle (hc : y.link.checked header.fsn msu = (none, y.link.rx)) :
      ∃ w', Evolves w w' ∧ Streams x.sent (y.act (.handleSu su)) w' := by
    rw [hc] at hrx hpay
    obtain ⟨w', hev, h'⟩ := h.sent
    exact ⟨w', hev, h'.congr rfl hrx rfl rfl rfl
      (by rw [Endpoint.act, hpay]; exact List.append_nil _)⟩
  obtain ⟨-, ⟨rfl, -⟩ | ⟨sio, sif, rfl, hf⟩⟩ := SignalUnit.carries_some htr
  · exact hidle rfl
  · -- under a local processor outage MSUs are discarded unchecked
    by_cases hpo : y.link.state = .ProcessorOutage
    · exact hidle (if_pos hpo)
    rw [Mtp2Link.checked] at hrx hpay
    dsimp only at hrx hpay
    rw [if_neg hpo] at hrx hpay
    rw [payloads_outcomeEvents] at hpay
    rw [hf] at hframes
    -- at most 127 outstanding, so the FSN tells the positions apart
    obtain ⟨hrel, htake⟩ := h.rel.deliver_msu h.inv
      (fun g hg i p => h.inv.mod_eq_iff (by decide) hg) hframes rfl
    refine ⟨w.deliver, .single .deliver, ?_, h.inv.deliver, ?_⟩
    · rw [Endpoint.act, hrx]
      exact hrel
    · rw [Endpoint.act, hpay]
      exact h.delivered.deliver htake

/-- **A unit from the other end acknowledges.** -/
theorem acknowledge (h : Streams x y w) (hx : ∃ age, x.link.Represented age) {su : SignalUnit}
    {rest : List SignalUnit} (hout : y.out = su :: rest) :
    ∃ w', Evolves w w' ∧ Streams (x.act (.handleSu su)) y.sent w' := by
  obtain ⟨age, hrep⟩ := hx
  rcases Mtp2Link.handleSu_controllers hrep su with ⟨header, msu, htr, htx, -⟩ | hdet
  · have hacks : y.acks = su.ack.toList ++ y.sent.acks := Endpoint.filterMap_sent _ hout
    rw [(SignalUnit.carries_some htr).1] at hacks
    obtain ⟨b, hstep, hrel⟩ := h.rel.ackStep h.inv (by decide) hacks
    refine ⟨w.takeAck b, .single hstep, ?_, hstep.inv h.inv,
      ⟨h.delivered.submitted, h.delivered.accepted⟩⟩
    rw [Endpoint.act, htx]
    exact hrel
  · -- an LSSU, or a unit the link fails on: its header is not used
    obtain ⟨w', hev, h'⟩ := h.sentBack
    exact ⟨w', hev, h'.act hdet⟩

end Streams

/-! ## The pair over a run -/

@[simp] theorem Endpoint.call_link (x : Endpoint) (op : Op) :
    (x.call op).link = x.link.step op := by
  cases op with
  | submitMsu sio sif =>
    show (x.submit sio sif).link = _
    unfold Endpoint.submit
    split <;> rfl
  | _ => rfl

namespace Endpoint

/-- A call that is neither a submission nor a poll moves no controller. -/
theorem call_detached {x : Endpoint} (hx : ∃ age, x.link.Represented age) {op : Op}
    (hop : op.isCall = true) (hidle : op.idlesTx = true) : x.link.Detached op := by
  obtain ⟨age, hrep⟩ := hx
  refine Mtp2Link.detached hrep hidle ?_
  rintro su rfl
  cases hop

end Endpoint

namespace LinkPair

variable {p : LinkPair} {w v : State Payload Bool}

/-- What an operation at `a` does to either link: `a` sees the calls, and `b` the units. -/
theorem moveA_ops (p : LinkPair) (op : SideOp) :
    ((p.moveA op).a.link = p.a.link ∨
        ∃ o own, op = .call o own ∧ (p.moveA op).a.link = p.a.link.step o) ∧
      ((p.moveA op).b.link = p.b.link ∨
        ∃ o, (o = .handleCorruptedSu ∨ ∃ su, o = .handleSu su) ∧
          (p.moveA op).b.link = p.b.link.step o) := by
  cases op with
  | call op own => exact ⟨.inr ⟨op, own, rfl, p.a.call_link op⟩, .inl rfl⟩
  | lose i => exact ⟨.inl rfl, .inl rfl⟩
  | deliver =>
    cases hout : p.a.out with
    | nil => rw [moveA_deliver_nil hout]; exact ⟨.inl rfl, .inl rfl⟩
    | cons su rest =>
      rw [moveA_deliver hout]
      exact ⟨.inl rfl, .inr ⟨_, .inr ⟨su, rfl⟩, rfl⟩⟩
  | corrupt =>
    cases hout : p.a.out with
    | nil => rw [moveA_corrupt_nil hout]; exact ⟨.inl rfl, .inl rfl⟩
    | cons su rest =>
      rw [moveA_corrupt hout]
      exact ⟨.inl rfl, .inr ⟨_, .inl rfl, rfl⟩⟩

/-- Neither end is started again. -/
theorem moveA_links (p : LinkPair) (op : SideOp) :
    ((p.moveA op).a.link = p.a.link ∨ ∃ o ≠ .start, (p.moveA op).a.link = p.a.link.step o) ∧
      ((p.moveA op).b.link = p.b.link ∨ ∃ o ≠ .start, (p.moveA op).b.link = p.b.link.step o) := by
  obtain ⟨ha, hb⟩ := p.moveA_ops op
  refine ⟨ha.imp_right ?_, hb.imp_right ?_⟩
  · rintro ⟨o, own, -, hlink⟩
    refine ⟨o, ?_, hlink⟩
    rintro rfl
    cases own
  · rintro ⟨o, rfl | ⟨su, rfl⟩, hlink⟩
    · exact ⟨_, by simp, hlink⟩
    · exact ⟨_, by simp, hlink⟩

/-- **An operation at `a` is a step of the window that leaves it**, as long as a poll would not put
a 128th MSU into its buffer. -/
theorem forth (h : Streams p.a p.b w) (hl : p.a.link.tx.Loaded)
    (ha : ∃ age, p.a.link.Represented age) (hb : ∃ age, p.b.link.Represented age)
    (hroom : p.a.link.tx.poll.2.unacked.length ≤ 127) (op : SideOp) :
    ∃ w', Evolves w w' ∧ Streams (p.moveA op).a (p.moveA op).b w' := by
  cases op with
  | call op own =>
    have hdet := Endpoint.call_detached ha own
    cases op with
    | submitMsu sio sif => exact h.submit sio sif
    | pollTransmit => exact h.poll hl hroom
    | start | handleSu | handleCorruptedSu => cases own
    | _ => exact ⟨w, .refl, h.act (hdet rfl)⟩
  | lose i => exact h.lose p.b i
  | deliver =>
    cases hout : p.a.out with
    | nil => rw [moveA_deliver_nil hout]; exact ⟨w, .refl, h⟩
    | cons su rest => rw [moveA_deliver hout]; exact h.deliver hb hout
  | corrupt =>
    cases hout : p.a.out with
    | nil => rw [moveA_corrupt_nil hout]; exact ⟨w, .refl, h⟩
    | cons su rest =>
      rw [moveA_corrupt hout]
      obtain ⟨age, hrep⟩ := hb
      obtain ⟨w', hw, h'⟩ := h.sent
      exact ⟨w', hw, h'.actBack (Mtp2Link.detached hrep rfl (by simp))⟩

/-- **An operation at `a` is a step of the window that comes in.** -/
theorem back (h : Streams p.b p.a v) (ha : ∃ age, p.a.link.Represented age)
    (hb : ∃ age, p.b.link.Represented age) (op : SideOp) :
    ∃ v', Evolves v v' ∧ Streams (p.moveA op).b (p.moveA op).a v' := by
  cases op with
  | call op own =>
    have hdet := Endpoint.call_detached ha own
    cases op with
    | submitMsu sio sif => exact ⟨v, .refl, h.submitBack sio sif⟩
    | pollTransmit => exact h.pollBack
    | start | handleSu | handleCorruptedSu => cases own
    | _ => exact ⟨v, .refl, h.actBack (hdet rfl)⟩
  | lose i => exact h.loseBack p.b i
  | deliver =>
    cases hout : p.a.out with
    | nil => rw [moveA_deliver_nil hout]; exact ⟨v, .refl, h⟩
    | cons su rest => rw [moveA_deliver hout]; exact h.acknowledge hb hout
  | corrupt =>
    cases hout : p.a.out with
    | nil => rw [moveA_corrupt_nil hout]; exact ⟨v, .refl, h⟩
    | cons su rest =>
      rw [moveA_corrupt hout]
      obtain ⟨age, hrep⟩ := hb
      obtain ⟨v', hv, h'⟩ := h.sentBack
      exact ⟨v', hv, h'.act (Mtp2Link.detached hrep rfl (by simp))⟩

/-- Both links stay sound. -/
theorem pcrSound_moveA {pa pb : PcrParams} (ha : p.a.link.PcrSound pa) (hb : p.b.link.PcrSound pb)
    (op : SideOp) : (p.moveA op).a.link.PcrSound pa ∧ (p.moveA op).b.link.PcrSound pb := by
  have hend {l l' : Mtp2Link} {params : PcrParams}
      (h : l' = l ∨ ∃ o ≠ .start, l' = l.step o) (hl : l.PcrSound params) :
      l'.PcrSound params := by
    rcases h with rfl | ⟨o, -, rfl⟩
    · exact hl
    · exact hl.step o
  obtain ⟨hla, hlb⟩ := p.moveA_links op
  exact ⟨hend hla ha, hend hlb hb⟩

/-- **The pair refines two windows**, one a direction, and the two links are sound. -/
structure Duplex (pa pb : PcrParams) (p : LinkPair) (w v : State Payload Bool) : Prop where
  ab : Streams p.a p.b w
  ba : Streams p.b p.a v
  a : p.a.link.PcrSound pa
  b : p.b.link.PcrSound pb

/-- What becomes of both windows. -/
def Refines (pa pb : PcrParams) (p : LinkPair) (w v : State Payload Bool) : Prop :=
  ∃ w' v', Evolves w w' ∧ Evolves v v' ∧ p.Duplex pa pb w' v'

namespace Duplex

variable {pa pb : PcrParams} {p : LinkPair} {w v : State Payload Bool}

theorem started {ca cb : Mtp2Config} (ha : ca.method = .Pcr pa) (hb : cb.method = .Pcr pb) :
    (started ca cb).Duplex pa pb State.init State.init :=
  ⟨.started ha hb, .started hb ha, .started ha, .started hb⟩

theorem swap (h : p.Duplex pa pb w v) : p.swap.Duplex pb pa v w := ⟨h.ba, h.ab, h.b, h.a⟩

/-- **Every operation at one end is a step of both windows.** -/
theorem moveA (h : p.Duplex pa pb w v) (hn : pa.n1 ≤ 127) (op : SideOp) :
    (p.moveA op).Refines pa pb w v := by
  -- `N1` bounds the buffer, so the next frame finds room in the window
  have hroom := Nat.le_trans (h.a.bounded.poll h.a.loaded).length_le hn
  obtain ⟨w', hw, hab⟩ := forth h.ab h.a.loaded h.a.represented h.b.represented hroom op
  obtain ⟨v', hv, hba⟩ := back h.ba h.a.represented h.b.represented op
  obtain ⟨ha, hb⟩ := pcrSound_moveA h.a h.b op
  exact ⟨w', v', hw, hv, hab, hba, ha, hb⟩

/-- The same at either end, since the pair reads the same both ways. -/
theorem move (h : p.Duplex pa pb w v) (hna : pa.n1 ≤ 127) (hnb : pb.n1 ≤ 127) (op : DuplexOp) :
    (p.move op).Refines pa pb w v := by
  cases op with
  | atA op => exact h.moveA hna op
  | atB op =>
    obtain ⟨v', w', hv, hw, h'⟩ := h.swap.moveA hnb op
    exact ⟨w', v', hw, hv, h'.swap⟩

/-- **A run of the pair is a run of both windows.** -/
theorem run (h : p.Duplex pa pb w v) (hna : pa.n1 ≤ 127) (hnb : pb.n1 ≤ 127)
    (ops : List DuplexOp) : (ops.foldl LinkPair.move p).Refines pa pb w v := by
  refine Run.invariant (fun p : LinkPair => p.Refines pa pb w v) ?_ ⟨w, v, .refl, .refl, h⟩ ops
  rintro p op ⟨w', v', hw, hv, h'⟩
  obtain ⟨w'', v'', hw', hv', h''⟩ := h'.move hna hnb op
  exact ⟨w'', v'', hw.trans hw', hv.trans hv', h''⟩

end Duplex

end LinkPair

/-! ## In-order delivery, and nothing lost -/

/-- The direction from `x` to `y`, as MTP3 sees it: what was delivered is what was submitted so
far, in order, and what is not delivered yet `x` still holds. -/
structure Faithful (x y : Endpoint) : Prop where
  in_order : y.delivered <+: x.submitted
  held : ∃ k ≤ y.delivered.length, x.submitted = y.delivered.take k ++
    x.link.tx.unacked.map BufferedMsu.payload ++ x.link.tx.pending

/-- The logs of a window, with the buffer and the queue that go with it. -/
theorem Faithful.of_delivered {τ : Type*} {x y : Endpoint} {w : State Payload τ}
    (ht : x.link.tx.Tracks w.sent w.base) (hq : x.link.tx.pending = w.queue)
    (h : Channel.Delivered x.submitted y.delivered w) (hb : w.base ≤ w.recv)
    (hr : w.recv ≤ w.sent.length) : Faithful x y := by
  refine ⟨?_, w.base, ?_, ?_⟩
  · rw [h.submitted, h.accepted]
    exact (List.take_prefix _ _).trans (List.prefix_append _ _)
  · rw [h.accepted, List.length_take, Nat.min_eq_left hr]
    exact hb
  · -- up to the base acknowledged, from there on buffered, then the queue
    rw [h.submitted, h.accepted, List.take_take, Nat.min_eq_left hb, ht.unacked,
      map_payload_numbered, List.take_append_drop, hq]

theorem Streams.faithful {x y : Endpoint} {w : State Payload Bool} (h : Streams x y w) :
    Faithful x y :=
  .of_delivered h.rel.tracks h.rel.queue h.delivered h.inv.base_le h.inv.recv_le

namespace LinkPair

/-- **Two links under PCR are safe, each way.** With `N1` within the sequence space, after every
run of calls, ticks, deliveries, losses and damage, in whatever states the two links are: each end
has been handed a prefix of what was submitted at the other, and the rest is still in the buffer
and the queue of the end it was submitted at. -/
theorem pcr_pair_safe {ca cb : Mtp2Config} {pa pb : PcrParams} (ha : ca.method = .Pcr pa)
    (hb : cb.method = .Pcr pb) (hna : pa.n1 ≤ 127) (hnb : pb.n1 ≤ 127) (ops : List DuplexOp) :
    let p := ops.foldl move (started ca cb)
    Faithful p.a p.b ∧ Faithful p.b p.a := by
  obtain ⟨w, v, -, -, h⟩ := (Duplex.started ha hb).run hna hnb ops
  exact ⟨h.ab.faithful, h.ba.faithful⟩

/-- One lossless exchange: both ends poll, hear each other and tick. -/
def exchange : List DuplexOp :=
  [.atA (.call .pollTransmit rfl), .atB (.call .pollTransmit rfl), .atA .deliver, .atB .deliver,
    .atA (.call .tick rfl), .atB (.call .tick rfl)]

/-- Two links align, an MSU is lost and a FISU damaged, and the sweep brings the MSU over. -/
theorem pcr_pair_safe_lossy :
    let config : Mtp2Config := { method := .Pcr ⟨4, 100⟩, t4ProvingNormal := 1 }
    let ops : List DuplexOp := exchange ++ exchange ++ exchange ++
      [.atA (.call (.submitMsu 5 [1, 2]) rfl), .atA (.call .pollTransmit rfl), .atA (.lose 0),
        .atB (.call .pollTransmit rfl), .atB .corrupt, .atA (.call .pollTransmit rfl),
        .atA .deliver]
    let p := ops.foldl move (started config config)
    (Faithful p.a p.b ∧ Faithful p.b p.a) ∧ p.b.delivered = [(5, [1, 2])] := by
  intro config ops p
  have hm : config.method = .Pcr ⟨4, 100⟩ := rfl
  exact ⟨pcr_pair_safe hm hm (by decide) (by decide) ops, by decide +kernel⟩

end LinkPair

end Mtp2
