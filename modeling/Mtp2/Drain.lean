import Mtp2.Duplex
import Mtp2.Upkeep
import Mtp2.Lib.Rank

/-!
# MTP2 — how a PCR link drains, and when it does not

Under PCR an MSU leaves the buffer when an acknowledgement says so, and `on_ack` believes one only
up to half the sequence space past the head of the buffer. A receiver that has gone further than
that is not believed again before a restart, whatever happens next. Up to there, exchanges without
losses drain the link: every one of them lowers a rank.

* **`pcr_stalls`** — past half the sequence space nothing leaves the buffer any more;
* **`TxControl.exchanged`**, **`TxControl.Exchanged.rank_le`** — one exchange of the transmit side;
* **`pcr_drains`** — the link drains in three exchanges an MSU.
-/

namespace Mtp2

open SlidingWindow (State)

/-! ## The stall -/

namespace Endpoint

/-- The MSUs that `y` has been handed and `x` still has in its buffer. -/
def lead (x y : Endpoint) : ℕ :=
  y.delivered.length + x.link.tx.unacked.length + x.link.tx.pending.length - x.submitted.length

/-- Everything submitted at `x` has been handed over at `y`, and `x` knows. -/
structure Drained (x y : Endpoint) : Prop where
  delivered : y.delivered = x.submitted
  unacked : x.link.tx.unacked = []
  pending : x.link.tx.pending = []

/-- Between `x`, `y` and `x'`, `y'` nothing left the buffer, and no more was handed over than what
the buffer has room for. -/
structure Stuck (room : ℕ) (x y x' y' : Endpoint) : Prop where
  held : x.link.tx.unacked <+: x'.link.tx.unacked
  handed : y'.delivered.length + x.lead y ≤ y.delivered.length + room

end Endpoint

namespace Streams

variable {x y x' y' : Endpoint} {w w' : State Payload Bool}

/-- The counts that locate a direction in its window. -/
theorem counts (h : Streams x y w) :
    y.delivered.length = w.recv ∧ x.link.tx.unacked.length = w.sent.length - w.base ∧
      w.base ≤ w.recv ∧ w.recv ≤ w.sent.length ∧
      x.submitted.length = w.sent.length + x.link.tx.pending.length := by
  refine ⟨?_, h.rel.tracks.unacked_length, h.inv.base_le, h.inv.recv_le, ?_⟩
  · rw [h.delivered.accepted, List.length_take, Nat.min_eq_left h.inv.recv_le]
  · rw [h.delivered.submitted, List.length_append, h.rel.queue]

/-- The lead counts the positions received and not acknowledged yet. -/
theorem lead_eq (h : Streams x y w) : x.lead y = w.recv - w.base := by
  obtain ⟨hr, hu, hb, hs, hsub⟩ := h.counts
  rw [Endpoint.lead, hr, hu, hsub]
  omega

/-- With more than 64 of them and no acknowledgement on its way, the window is stalled. -/
theorem stalled (h : Streams x y w) (hk : y.acks = []) (hlead : 64 < x.lead y) :
    SlidingWindow.Stalled 64 w := by
  refine ⟨by rw [h.lead_eq] at hlead; omega, ?_⟩
  have hnil : w.acks = [] := List.map_eq_nil_iff.mp (h.rel.acks_eq.symm.trans hk)
  rw [hnil]
  simp

/-- What a stalled direction can still do: fill the buffer and hand over what is in it. -/
theorem of_stalled (h : Streams x y w) (h' : Streams x' y' w') (hev : Evolves w w')
    (hs : SlidingWindow.Stalled 64 w) :
    Endpoint.Stuck x'.link.tx.unacked.length x y x' y' := by
  obtain ⟨-, hbase⟩ := hev.stalled hs
  refine ⟨?_, ?_⟩
  · obtain ⟨more, hmore⟩ := hev.sent_prefix
    rw [h.rel.tracks.unacked, h'.rel.tracks.unacked, hbase, ← hmore,
      List.drop_append_of_le_length h.rel.tracks.base_le, numbered_append]
    exact List.prefix_append _ _
  · obtain ⟨hr, -, hb, -⟩ := h.counts
    obtain ⟨hr', hu', hb', hs', -⟩ := h'.counts
    rw [h.lead_eq, hr, hr', hu']
    omega

end Streams

namespace LinkPair

/-- A stalled direction stays so over every run. -/
theorem Duplex.stuck {pa pb : PcrParams} {p : LinkPair} {w v : State Payload Bool}
    (h : p.Duplex pa pb w v) (hna : pa.n1 ≤ 127) (hnb : pb.n1 ≤ 127) (hk : p.b.acks = [])
    (hlead : 64 < p.a.lead p.b) (later : List DuplexOp) :
    Endpoint.Stuck pa.n1 p.a p.b (later.foldl LinkPair.move p).a
      (later.foldl LinkPair.move p).b := by
  obtain ⟨w', v', hev, -, h'⟩ := h.run hna hnb later
  have hstuck := h.ab.of_stalled h'.ab hev (h.ab.stalled hk hlead)
  exact ⟨hstuck.held, Nat.le_trans hstuck.handed (Nat.add_le_add_left h'.a.bounded.length_le _)⟩

/-- **Past half the sequence space a PCR link stalls until it is started again.** In every state of
a pair started once in which no acknowledgement is in flight towards `a` and `b` has been handed
more than 64 MSUs that are still in the buffer of `a`: whatever else is called, lost or damaged
afterwards, nothing leaves that buffer, and `b` is handed no more MSUs than the buffer has room for.
-/
theorem pcr_stalls {ca cb : Mtp2Config} {pa pb : PcrParams} (ha : ca.method = .Pcr pa)
    (hb : cb.method = .Pcr pb) (hna : pa.n1 ≤ 127) (hnb : pb.n1 ≤ 127)
    (ops later : List DuplexOp) :
    let p := ops.foldl move (started ca cb)
    let p' := later.foldl move p
    p.b.acks = [] → 64 < p.a.lead p.b → Endpoint.Stuck pa.n1 p.a p.b p'.a p'.b := by
  intro p p' hk hlead
  obtain ⟨w, v, -, -, h⟩ := (Duplex.started ha hb).run hna hnb ops
  exact h.stuck hna hnb hk hlead later

/-- Sixty-five MSUs handed over before the first acknowledgement, which then comes too late. -/
theorem pcr_stalls_sixty_five :
    let config : Mtp2Config := { method := .Pcr ⟨127, 8000⟩, t4ProvingNormal := 1 }
    let one : List DuplexOp := [.atA (.call (.submitMsu 5 [1, 2]) rfl),
      .atA (.call .pollTransmit rfl), .atA .deliver]
    let ops := exchange ++ exchange ++ exchange ++ (List.replicate 65 one).flatten
    let later : List DuplexOp := [.atB (.call .pollTransmit rfl), .atB .deliver]
    let p := ops.foldl move (started config config)
    let p' := later.foldl move p
    Endpoint.Stuck 127 p.a p.b p'.a p'.b ∧ p'.b.out = [] ∧
      p'.a.link.tx.unacked.length = 65 := by
  intro config one ops later p p'
  have hm : config.method = .Pcr ⟨127, 8000⟩ := rfl
  have hstuck := pcr_stalls hm hm (by decide) (by decide) ops later (by decide +kernel)
    (by decide +kernel)
  exact ⟨hstuck, by decide +kernel⟩

end LinkPair

/-! ## One exchange of the transmit side -/

namespace TxControl

variable {t : TxControl} {params : PcrParams} {sent : List Payload} {b r : ℕ}

/-- How many frames the cyclic sweep is from the head of the buffer. -/
def sweepLeft (t : TxControl) : ℕ :=
  if t.wrappedCursor = 0 then 0 else t.unacked.length - t.wrappedCursor

theorem sweepLeft_le (t : TxControl) : t.sweepLeft ≤ t.unacked.length := by
  rw [sweepLeft]
  split <;> omega

/-- A cursor at the head has nothing left to sweep. -/
theorem sweepLeft_of_reset (hc : t.pcrCursor = 0) : t.sweepLeft = 0 := by
  simp [sweepLeft, wrappedCursor, hc]

theorem sweepLeft_of_nil (hu : t.unacked = []) : t.sweepLeft = 0 := by
  simp [sweepLeft, wrappedCursor, hu]

/-- The cyclic cursor goes back to the head when something is freed. -/
theorem onAck_pcrCursor (t : TxControl) (bsn : UInt8) (bib : Bool) :
    (t.onAck bsn bib).pcrCursor = if t.freedBy bsn = [] then t.pcrCursor else 0 := by
  have hnack : ((t.freeAcked bsn).nackBy bib).pcrCursor = (t.freeAcked bsn).pcrCursor := by
    unfold nackBy
    split
    · split <;> rfl
    · rfl
  rw [onAck, hnack, freeAcked]
  split <;> rfl

/-- What an exchange does to the transmit side: the frame it sends, and what the acknowledgement of
everything below `r` leaves. -/
inductive Exchanged (t : TxControl) (b r : ℕ) (t' : TxControl) : Prop where
  | fresh {sio : UInt8} {sif : List UInt8} {rest : List Payload}
      (hp : t.pending = (sio, sif) :: rest)
      (hframe : t.poll.1 = ⟨seqOf (b + t.unacked.length), t.fib, .Msu sio sif⟩)
      (hq : t'.pending = rest) (hu : t'.unacked.length + r = b + t.unacked.length + 1)
      (hc : t'.pcrCursor = 0)
  | again {p : Payload} (hw : t.wrappedCursor < t.unacked.length)
      (hframe : t.poll.1 = ⟨seqOf (b + t.wrappedCursor), t.fib, .Msu p.1 p.2⟩)
      (hq : t'.pending = t.pending) (hu : t'.unacked.length + r = b + t.unacked.length)
      (hc : t'.pcrCursor = if r = b then t.wrappedCursor + 1 else 0)
  | idle (hp : t.pending = []) (hu : t.unacked = []) (hframe : t.poll.1 = t.fill)
      (hq : t'.pending = []) (hu' : t'.unacked = [])

/-- **One exchange of the transmit side.** -/
theorem exchanged (hb : t.Bounded params) (hn1 : 1 ≤ params.n1) (hn : params.n1 ≤ 127)
    (hn2 : 1 ≤ params.n2) (hl : t.Loaded) (ht : t.Tracks sent b) (hbr : b ≤ r)
    (hr : r ≤ sent.length) (hnear : r ≤ b + 64) (bib : Bool) :
    Exchanged t b r (t.poll.2.onAck (seqOf (r + 127)) bib) := by
  have hlen := ht.unacked_length
  have hble := ht.base_le
  have hbp := hb.poll hl
  -- what the acknowledgement frees of a buffer that runs up to `sent'`
  have hfree {t' : TxControl} {sent' : List Payload} (ht' : t'.Tracks sent' b)
      (hb' : t'.Bounded params) (hs : sent.length ≤ sent'.length) :
      (t'.onAck (seqOf (r + 127)) bib).unacked.length + r = b + t'.unacked.length ∧
        (t'.onAck (seqOf (r + 127)) bib).pcrCursor = if r = b then t'.pcrCursor else 0 := by
    have hlen' := ht'.unacked_length
    have hble' := ht'.base_le
    have hmax := hb'.length_le
    have hf := ht'.freedBy_length (u := r) (by omega) hbr (by omega)
    rw [if_pos hnear] at hf
    refine ⟨?_, ?_⟩
    · rw [onAck_unacked, List.length_drop, hf]
      omega
    · rw [onAck_pcrCursor]
      by_cases hrb : r = b
      · rw [if_pos hrb, if_pos (List.length_eq_zero_iff.mp (by omega))]
      · rw [if_neg hrb, if_neg fun hnil => ?_]
        rw [hnil, List.length_nil] at hf
        omega
  have hpolled := t.polled
  generalize t.pollIndex = o at hpolled
  cases hpoll : t.poll with
  | mk f t' =>
    rw [hpoll] at hpolled hbp
    cases hpolled with
    | basicAgain hm | basicFresh hm | basicFill hm => rw [hb.method] at hm; cases hm
    | @pcrFresh params' hm hf sio sif rest hp =>
      have ht' : ({ t.number sio sif rest with pcrCursor := 0 } : TxControl).Tracks
          (sent ++ [(sio, sif)]) b := (ht.number sio sif rest).of_fields rfl rfl
      -- the new MSU is buffered before the acknowledgement comes
      obtain ⟨hu, hc⟩ := hfree ht' hbp (by simp)
      refine .fresh hp ?_ ?_ ?_ ?_
      · rw [hpoll, ht.nextFsn, hlen, Nat.add_sub_cancel' hble]
      · rw [onAck_pending]
        rfl
      · rw [hu]
        show b + (t.unacked ++ [_]).length = _
        rw [List.length_append]
        rfl
      · rw [hc]
        split <;> rfl
    | pcrAgain hm hidle hi =>
      obtain ⟨p, -, hframe⟩ := ht.resend hi
      have ht' : ({ t with pcrCursor := t.wrappedCursor + 1 } : TxControl).Tracks sent b :=
        ht.of_fields rfl rfl
      -- a frame of the sweep only moves the cursor
      obtain ⟨hu, hc⟩ := hfree ht' hbp (Nat.le_refl _)
      exact .again hi (by rw [hpoll, hframe]) (by rw [onAck_pending]) hu hc
    | pcrFill hm hidle hu =>
      -- an empty buffer is below both thresholds
      have hf : t.forced params = false := by
        rw [forced_eq_false_iff, unackedOctets, hu]
        exact ⟨hn1, hn2⟩
      obtain rfl : params = _ := RetransmissionMethod.Pcr.inj (hb.method.symm.trans hm)
      have hp : t.pending = [] := hidle.resolve_left (by rw [hf]; simp)
      refine .idle hp hu (by rw [hpoll]) (by rw [onAck_pending, hp]) ?_
      rw [onAck_unacked, hu, List.drop_nil]

/-- What is left to do: three frames for an MSU that waits, one for an MSU the receiver lacks, one
for an MSU in the buffer, and the rest of the sweep when nothing is new to acknowledge. -/
def rank (t : TxControl) (b r : ℕ) : ℕ :=
  3 * t.pending.length + (b + t.unacked.length - r) + t.unacked.length +
    if r = b then t.sweepLeft else 0

/-- What an exchange makes of the position `r` the receiver awaits, by the frame it is sent. -/
structure Taken (t : TxControl) (b r r' : ℕ) : Prop where
  msu : ∀ i fib (p : Payload), t.poll.1 = ⟨seqOf i, fib, .Msu p.1 p.2⟩ → b ≤ i →
    i ≤ b + t.unacked.length → r' = if i = r then r + 1 else r
  fill : t.poll.1 = t.fill → r' = r

/-- The receiver stays where it is, or moves by one position. -/
theorem Exchanged.taken {t' : TxControl} {r' : ℕ} (h : t.Exchanged b r t')
    (ht : t.Taken b r r') : r' = r ∨ r' = r + 1 := by
  cases h with
  | @fresh sio sif rest hp hframe hq hu hc =>
    have hr' := ht.msu _ _ (sio, sif) hframe (by omega) (Nat.le_refl _)
    split at hr'
    · exact .inr hr'
    · exact .inl hr'
  | @again p hw hframe hq hu hc =>
    have hr' := ht.msu _ _ p hframe (by omega) (by omega)
    split at hr'
    · exact .inr hr'
    · exact .inl hr'
  | idle hp hu hframe hq hu' => exact .inl (ht.fill hframe)

/-- A sweep that goes on is a frame closer to the head. -/
theorem sweepLeft_lt {t' : TxControl} (hw0 : t.wrappedCursor ≠ 0)
    (hw : t.wrappedCursor < t.unacked.length) (hlen : t'.unacked.length = t.unacked.length)
    (hc : t'.pcrCursor = t.wrappedCursor + 1) : t'.sweepLeft < t.sweepLeft := by
  rw [sweepLeft, sweepLeft, if_neg hw0, wrappedCursor, hc, hlen]
  split
  · rw [if_pos rfl]
    omega
  · rw [if_neg (Nat.succ_ne_zero _)]
    omega

/-- What a frame of the sweep is good for: it is the one the receiver awaits, or it brings the sweep
closer to the head, or the acknowledgement it is answered with frees something. -/
theorem sweep_cases {t' : TxControl} {r' : ℕ} (hw : t.wrappedCursor < t.unacked.length)
    (hu : t'.unacked.length + r = b + t.unacked.length) (hbr : b ≤ r)
    (hc : t'.pcrCursor = if r = b then t.wrappedCursor + 1 else 0)
    (hr' : r' = if b + t.wrappedCursor = r then r + 1 else r) :
    (r = b ∧ r' = r + 1) ∨ (r = b ∧ r' = r ∧ t'.sweepLeft < t.sweepLeft) ∨
      (b < r ∧ t'.sweepLeft = 0) := by
  by_cases hrb : r = b
  · rw [if_pos hrb] at hc
    by_cases hw0 : t.wrappedCursor = 0
    · rw [if_pos (by omega)] at hr'
      exact .inl ⟨hrb, hr'⟩
    · rw [if_neg (by omega)] at hr'
      exact .inr (.inl ⟨hrb, hr', sweepLeft_lt hw0 hw (by omega) hc⟩)
  · rw [if_neg hrb] at hc
    exact .inr (.inr ⟨by omega, sweepLeft_of_reset hc⟩)

/-- **An exchange lowers the rank.** -/
theorem Exchanged.rank_le {t' : TxControl} {r' : ℕ} (h : t.Exchanged b r t') (hbr : b ≤ r)
    (hr : r ≤ b + t.unacked.length) (ht : t.Taken b r r') : t'.rank r r' ≤ t.rank b r - 1 := by
  cases h with
  | @fresh sio sif rest hp hframe hq hu hc =>
    have hr' := ht.msu _ _ (sio, sif) hframe (by omega) (Nat.le_refl _)
    -- three frames become at most two, and the sweep starts at the head
    rw [rank, rank, hq, hp, sweepLeft_of_reset hc, List.length_cons]
    split at hr' <;> split <;> split <;> omega
  | @again p hw hframe hq hu hc =>
    have hr' := ht.msu _ _ p hframe (by omega) (by omega)
    rw [rank, rank, hq]
    -- one case for each use of a frame of the sweep
    rcases sweep_cases hw hu hbr hc hr' with ⟨hrb, hr'⟩ | ⟨hrb, hr', hsweep⟩ | ⟨hrb, hsweep⟩
    · rw [if_neg (by omega)]
      omega
    · rw [if_pos hr', if_pos hrb]
      omega
    · -- the buffer has shrunk, and the sweep starts over
      rw [hsweep]
      split at hr' <;> split <;> split <;> omega
  | idle hp hu hframe hq hu' =>
    have hr' := ht.fill hframe
    rw [rank, hq, hu', sweepLeft_of_nil hu', hr']
    simp

/-- The rank is at most three frames for every MSU that waits or is buffered. -/
theorem rank_le (hr : b ≤ r) :
    t.rank b r ≤ 3 * (t.pending.length + t.unacked.length) := by
  have hsweep := t.sweepLeft_le
  -- at most one frame for the receiver, one for the buffer and one of the sweep
  rw [rank]
  split <;> omega

end TxControl

/-! ## One exchange of the pair -/

namespace Mtp2Link

variable {l : Mtp2Link}

/-- In service, with nothing in the way of MTP3 traffic: up, and no outage at the peer. -/
structure Flowing (l : Mtp2Link) : Prop extends Up l where
  serving : l.state = .InService
  remote : l.remoteProcessorOutage = false

namespace Flowing

/-- Besides the timers, which every reachable link keeps, this is about a few fields. -/
theorem of_fields (hr : ∃ age, l.Represented age)
    (h : l.state = .InService ∧ l.suerm.failed = false ∧
      l.suerm.count.toNat < l.suerm.threshold.toNat ∧ l.localBusy = false ∧ l.remoteBusy = false ∧
      l.remoteProcessorOutage = false ∧ 3 ≤ l.config.t7ExcessiveDelay.toNat) : l.Flowing := by
  obtain ⟨hs, hf, hb, hlb, hrb, hro, h7⟩ := h
  exact ⟨⟨by rw [hs]; rfl, hr, ⟨hf, hb⟩, hlb, hrb, h7⟩, hs, hro⟩

/-- It sends what its transmit control chose. -/
theorem sends (h : l.Flowing) :
    l.pollTransmit.1 = some (l.frameUnit l.tx.poll.1) ∧ l.pollTransmit.2.tx = l.tx.poll.2 := by
  have hp : l.polls = true := by
    simp [polls, h.serving, h.localBusy, h.remote, h.remoteBusy]
  refine ⟨?_, by rw [pollTransmit_eq, if_pos hp]⟩
  rcases l.pollTransmit_unit with ⟨-, hs⟩ | ⟨-, hsu⟩ | ⟨hp', -⟩
  · rw [h.serving] at hs; cases hs
  · exact hsu
  · rw [hp] at hp'; cases hp'

/-- **The turn of a link that hears a FISU or MSU**: both controllers have seen it. -/
theorem turn (h : l.Flowing) {su : SignalUnit} {header : SuHeader} {msu : Option Payload}
    (hsu : su.traffic = some (header, msu)) :
    (l.turn su).Flowing ∧ (l.turn su).tx = l.tx.poll.2.onAck header.bsn header.bib ∧
      (l.turn su).rx = (l.checked header.fsn msu).2 ∧
      payloads (l.raised .pollTransmit) = [] ∧
      payloads ((l.step .pollTransmit).raised (.handleSu su)) =
        payloads (outcomeEvents (l.checked header.fsn msu).1) ∧
      payloads (((l.step .pollTransmit).step (.handleSu su)).raised .tick) = [] := by
  obtain ⟨hup, hs, hro, -⟩ := h.toUp.turn_traffic hsu
  obtain ⟨-, htx⟩ := h.sends
  have hpolled := h.toUp.poll
  -- the poll touches neither the state nor the receive control
  have hpoll : (l.step .pollTransmit).state = l.state ∧ (l.step .pollTransmit).rx = l.rx ∧
      (l.step .pollTransmit).events = l.events := by
    rw [step, pollTransmit_eq]
    exact ⟨rfl, rfl, rfl⟩
  have hchecked : (l.step .pollTransmit).checked header.fsn msu = l.checked header.fsn msu := by
    unfold checked
    rw [hpoll.1, hpoll.2.1]
  have hheard := handleSu_of_healthy (fun _ => hpolled.healthy) su
  rw [handleUnit_traffic hsu] at hheard
  obtain ⟨-, htx', hrx', he⟩ := handleFisuOrMsu_received (l := (l.step .pollTransmit).withSuerm)
    header msu (.inr hpolled.serves)
  rw [← hheard] at htx' hrx' he
  obtain ⟨age, hrep⟩ := hpolled.represented_step (.handleSu su)
  have htick : ((l.step .pollTransmit).step (.handleSu su)).Detached .tick :=
    detached hrep rfl (by simp)
  refine ⟨⟨hup, hs.trans h.serving, hro⟩, ?_, ?_, raised_silent hpoll.2.2, ?_, htick.payloads⟩
  · exact htick.tx.trans (htx'.trans (by rw [← htx]; rfl))
  · exact htick.rx.trans (hrx'.trans (congrArg Prod.snd hchecked))
  · have hpay : payloads ((l.step .pollTransmit).raised (.handleSu su)) = _ := payloads_received he
    exact hpay.trans (congrArg (fun c => payloads (outcomeEvents c.1)) hchecked)

end Flowing

end Mtp2Link

/-- One turn of a lossless exchange. -/
def Endpoint.turn (x : Endpoint) (su : SignalUnit) : Endpoint :=
  ((x.act .pollTransmit).act (.handleSu su)).act .tick

namespace LinkPair

/-- Both ends in service with nothing in the way, and nothing in flight. -/
structure Calm (p : LinkPair) : Prop where
  a : p.a.link.Flowing
  b : p.b.link.Flowing
  outA : p.a.out = []
  outB : p.b.out = []

/-- The pair after one lossless exchange. -/
def afterExchange (p : LinkPair) : LinkPair := exchange.foldl move p

/-- Both ends take a turn, each with the unit of the other. -/
theorem afterExchange_eq {p : LinkPair} {sua sub : SignalUnit}
    (ha : p.a.link.pollTransmit.1 = some sua) (hb : p.b.link.pollTransmit.1 = some sub)
    (hoa : p.a.out = []) (hob : p.b.out = []) :
    p.afterExchange = ⟨p.a.turn sub, p.b.turn sua⟩ := by
  obtain ⟨⟨la, oa, sa, da, ea⟩, ⟨lb, ob, sb, db, eb⟩⟩ := p
  dsimp only at ha hb hoa hob
  subst hoa hob
  simp [afterExchange, exchange, move, moveA, swap, Endpoint.call, Endpoint.poll, Endpoint.act,
    Endpoint.sent, Endpoint.turn, ha, hb]

theorem Calm.afterExchange_eq {p : LinkPair} (h : p.Calm) :
    p.afterExchange = ⟨p.a.turn (p.b.link.frameUnit p.b.link.tx.poll.1),
      p.b.turn (p.a.link.frameUnit p.a.link.tx.poll.1)⟩ :=
  LinkPair.afterExchange_eq h.a.sends.1 h.b.sends.1 h.outA h.outB

end LinkPair

namespace Endpoint

variable {x y : Endpoint}

/-- **The turn of an end in service** that hears the frame of another. -/
structure Turned (x y y' : Endpoint) : Prop where
  flowing : y'.link.Flowing
  tx : y'.link.tx = y.link.tx.poll.2.onAck x.link.rx.bsn x.link.rx.bib
  submitted : y'.submitted = y.submitted
  out : y'.out = y.out
  msu : ∀ sio sif, x.link.tx.poll.1.body = .Msu sio sif →
    y'.delivered = y.delivered ++ (y.link.rx.onMsu x.link.tx.poll.1.fsn sio sif).1.delivered
  fisu : x.link.tx.poll.1.body = .Fisu → y'.delivered = y.delivered

/-- An end that hears the frame of another keeps serving, acknowledges, and takes the MSU. -/
theorem turned (x : Endpoint) (hxl : x.link.tx.Loaded) (hy : y.link.Flowing) :
    Turned x y (y.turn (x.link.frameUnit x.link.tx.poll.1)) := by
  obtain ⟨-, hfit⟩ := hxl.frame
  have hpay {header : SuHeader} {msu : Option Payload} {su : SignalUnit}
      (htr : su.traffic = some (header, msu)) : (y.turn su).delivered =
        y.delivered ++ payloads (Mtp2Link.outcomeEvents (y.link.checked header.fsn msu).1) := by
    obtain ⟨-, -, -, hp1, hp2, hp3⟩ := hy.turn htr
    show y.delivered ++ payloads (y.link.raised .pollTransmit) ++
      payloads ((y.link.step .pollTransmit).raised (.handleSu su)) ++
      payloads (((y.link.step .pollTransmit).step (.handleSu su)).raised .tick) = _
    rw [hp1, hp2, hp3, List.append_nil, List.append_nil]
  obtain ⟨header, msu, htr, -, hbsn, hbib⟩ := x.link.frameUnit_traffic x.link.tx.poll.1
  obtain ⟨hflow, htx, -⟩ := hy.turn htr
  rw [hbsn, hbib] at htx
  refine ⟨hflow, htx, rfl, rfl, fun sio sif hf => ?_, fun hf => ?_⟩
  · -- an MSU meets the sequence check
    have hunit := x.link.frameUnit_msu (hfit sio sif hf) x.link.tx.poll.1.fsn x.link.tx.poll.1.fib
    rw [← hf] at hunit
    have hmsu : (x.link.frameUnit x.link.tx.poll.1).traffic =
        some (⟨x.link.rx.bsn, x.link.rx.bib, x.link.tx.poll.1.fsn, x.link.tx.poll.1.fib⟩,
          some (sio, sif)) := congrArg SignalUnit.traffic hunit
    rw [hpay hmsu, Mtp2Link.checked]
    dsimp only
    rw [if_neg (by rw [hy.serving]; simp), payloads_outcomeEvents]
  · -- a FISU delivers nothing
    have hunit : x.link.frameUnit x.link.tx.poll.1 =
        .fisu ⟨x.link.rx.bsn, x.link.rx.bib, x.link.tx.poll.1.fsn, x.link.tx.poll.1.fib⟩ := by
      rw [Mtp2Link.frameUnit, hf]
    have hfisu : SignalUnit.traffic (.fisu ⟨x.link.rx.bsn, x.link.rx.bib, x.link.tx.poll.1.fsn,
        x.link.tx.poll.1.fib⟩) = some (_, none) := rfl
    rw [hunit, hpay hfisu]
    exact List.append_nil _

end Endpoint

namespace Streams

variable {x y : Endpoint} {w w' : State Payload Bool} {params : PcrParams}

/-- What is left to do in a direction. -/
def toDo (x y : Endpoint) : ℕ :=
  x.link.tx.rank (x.submitted.length - x.link.tx.unacked.length - x.link.tx.pending.length)
    y.delivered.length

/-- It is the rank of the transmit side at the positions of the window. -/
theorem toDo_eq (h : Streams x y w) : toDo x y = x.link.tx.rank w.base w.recv := by
  obtain ⟨hr, hu, hb, hs, hsub⟩ := h.counts
  rw [toDo, hr, hsub, hu]
  congr 1
  omega

/-- **One exchange of a direction**: the receiver takes the frame it waits for, and the sender hears
what the receiver had before. -/
theorem exchanged (h : Streams x y w) (hs : x.link.PcrSound params) (hn1 : 1 ≤ params.n1)
    (hn : params.n1 ≤ 127) (hn2 : 1 ≤ params.n2) (hlead : x.lead y ≤ 64) {x' y' : Endpoint}
    (hx' : y.Turned x x') (hy' : x.Turned y y') (h' : Streams x' y' w') :
    x.link.tx.Exchanged w.base w.recv x'.link.tx ∧ x.link.tx.Taken w.base w.recv w'.recv ∧
      w'.base = w.recv := by
  obtain ⟨hr, hu, hb, hrs, hsub⟩ := h.counts
  obtain ⟨hr', hu', hb', hrs', hsub'⟩ := h'.counts
  rw [h.lead_eq] at hlead
  have hlen := hs.bounded.length_le
  have hsame := congrArg List.length hx'.submitted
  have hbsn : y.link.rx.bsn = seqOf (w.recv + 127) := h.rel.awaits
  have hex := TxControl.exchanged hs.bounded hn1 hn hn2 hs.loaded h.rel.tracks hb hrs (by omega)
    y.link.rx.bib
  rw [← hbsn, ← hx'.tx] at hex
  refine ⟨hex, ⟨fun i fib p hframe hlo hhi => ?_, fun hframe => ?_⟩, ?_⟩
  · have hdel := congrArg List.length (hy'.msu p.1 p.2 (by rw [hframe]))
    rw [hframe, List.length_append, hr, hr'] at hdel
    split
    · next hi =>
      rw [RxControl.onMsu_awaited _ _ h.rel.awaits (by rw [hi])] at hdel
      exact hdel
    · -- fewer than 128 positions apart, so told apart
      rw [(RxControl.onMsu_other _ _ h.rel.awaits (by omega)).1] at hdel
      exact hdel
  · have hdel := hy'.fisu (by rw [hframe]; rfl)
    rw [← hr', hdel, hr]
  · -- the acknowledgement has brought the base to where the receiver was
    cases hex with
    | fresh hp _ hq hu' _ =>
      rw [hp, List.length_cons] at hsub
      rw [hq] at hsub'
      omega
    | again _ _ hq _ _ =>
      rw [hq] at hsub'
      omega
    | idle hp hnil _ hq hnil' =>
      rw [hp] at hsub
      rw [hq] at hsub'
      rw [hnil] at hu
      rw [hnil'] at hu'
      simp only [List.length_nil] at *
      omega

/-- An exchange leaves less to do, and the receiver in sight. -/
theorem exchange (h : Streams x y w) (hs : x.link.PcrSound params) (hn1 : 1 ≤ params.n1)
    (hn : params.n1 ≤ 127) (hn2 : 1 ≤ params.n2) (hlead : x.lead y ≤ 64) {x' y' : Endpoint}
    (hx' : y.Turned x x') (hy' : x.Turned y y') (h' : Streams x' y' w') :
    toDo x' y' ≤ toDo x y - 1 ∧ x'.lead y' ≤ 64 := by
  obtain ⟨hex, htaken, hbase⟩ := h.exchanged hs hn1 hn hn2 hlead hx' hy' h'
  obtain ⟨-, hu, hb, hrs, -⟩ := h.counts
  refine ⟨?_, ?_⟩
  · rw [h.toDo_eq, h'.toDo_eq, hbase]
    exact hex.rank_le hb (by omega) htaken
  · have := hex.taken htaken
    rw [h'.lead_eq, hbase]
    omega

/-- A direction with nothing left to do has been drained. -/
theorem drained (h : Streams x y w) (hz : toDo x y = 0) : x.Drained y := by
  obtain ⟨hr, hu, hb, hs, hsub⟩ := h.counts
  rw [h.toDo_eq, TxControl.rank] at hz
  have hq : x.link.tx.pending = [] := List.length_eq_zero_iff.mp (by omega)
  have hnil : x.link.tx.unacked = [] := List.length_eq_zero_iff.mp (by omega)
  rw [hnil, List.length_nil] at hu
  refine ⟨?_, hnil, hq⟩
  -- nothing buffered and nothing waiting, so the base has reached the end
  rw [h.delivered.accepted, h.delivered.submitted, ← h.rel.queue, hq, List.append_nil,
    List.take_of_length_le (by omega)]

end Streams

namespace LinkPair

variable {pa pb : PcrParams} {p : LinkPair}

theorem Calm.turned (h : p.Calm) (ha : p.a.link.tx.Loaded) (hb : p.b.link.tx.Loaded) :
    p.b.Turned p.a p.afterExchange.a ∧ p.a.Turned p.b p.afterExchange.b := by
  rw [h.afterExchange_eq]
  exact ⟨Endpoint.turned p.b hb h.a, Endpoint.turned p.a ha h.b⟩

theorem Calm.afterExchange (h : p.Calm) (ha : p.a.link.tx.Loaded) (hb : p.b.link.tx.Loaded) :
    p.afterExchange.Calm := by
  obtain ⟨ha, hb⟩ := h.turned ha hb
  exact ⟨ha.flowing, hb.flowing, ha.out.trans h.outA, hb.out.trans h.outB⟩

/-- What the exchanges keep of a calm pair whose receiver is in sight. -/
structure Draining (pa pb : PcrParams) (p : LinkPair) : Prop where
  calm : p.Calm
  refines : ∃ w v, p.Duplex pa pb w v
  lead : p.a.lead p.b ≤ 64

theorem Draining.afterExchange (h : p.Draining pa pb) (hn1 : 1 ≤ pa.n1) (hna : pa.n1 ≤ 127)
    (hn2 : 1 ≤ pa.n2) (hnb : pb.n1 ≤ 127) :
    p.afterExchange.Draining pa pb ∧
      Streams.toDo p.afterExchange.a p.afterExchange.b ≤ Streams.toDo p.a p.b - 1 := by
  obtain ⟨w, v, hd⟩ := h.refines
  obtain ⟨w', v', -, -, hd'⟩ := hd.run hna hnb exchange
  obtain ⟨hta, htb⟩ := h.calm.turned hd.a.loaded hd.b.loaded
  obtain ⟨hrank, hlead⟩ := hd.ab.exchange hd.a hn1 hna hn2 h.lead hta htb hd'.ab
  exact ⟨⟨h.calm.afterExchange hd.a.loaded hd.b.loaded, ⟨w', v', hd'⟩, hlead⟩, hrank⟩

/-- Exchanges are a run of the pair. -/
theorem iterate_afterExchange (p : LinkPair) (n : ℕ) :
    LinkPair.afterExchange^[n] p = (List.replicate n exchange).flatten.foldl move p := by
  induction n generalizing p with
  | zero => rfl
  | succ n ih =>
    rw [Function.iterate_succ_apply, ih, List.replicate_succ, List.flatten_cons,
      List.foldl_append]
    rfl

/-- **Three exchanges an MSU drain a direction whose receiver is in sight.** -/
theorem Draining.drains (h : p.Draining pa pb) (hn1 : 1 ≤ pa.n1) (hna : pa.n1 ≤ 127)
    (hn2 : 1 ≤ pa.n2) (hnb : pb.n1 ≤ 127) {n : ℕ}
    (hn : 3 * (p.a.link.tx.pending.length + p.a.link.tx.unacked.length) ≤ n) :
    (LinkPair.afterExchange^[n] p).Calm ∧
      (LinkPair.afterExchange^[n] p).a.Drained (LinkPair.afterExchange^[n] p).b := by
  obtain ⟨w, v, hd⟩ := h.refines
  have hrank : Streams.toDo p.a p.b ≤ n := by
    rw [hd.ab.toDo_eq]
    exact Nat.le_trans (TxControl.rank_le hd.ab.inv.base_le) hn
  have hexchange (q : LinkPair) (h : q.Draining pa pb) := h.afterExchange hn1 hna hn2 hnb
  have hz : (LinkPair.afterExchange^[n] p).Draining pa pb ∧
      Streams.toDo (LinkPair.afterExchange^[n] p).a (LinkPair.afterExchange^[n] p).b = 0 :=
    @Rank.spent _ (LinkPair.Draining pa pb) (fun q => Streams.toDo q.a q.b) _
      (fun q h => (hexchange q h).1) (fun q h => (hexchange q h).2) _ h _ hrank
  obtain ⟨hinv, hz⟩ := hz
  obtain ⟨w', v', hd'⟩ := hinv.refines
  exact ⟨hinv.calm, hd'.ab.drained hz⟩

/-- **A PCR link drains exactly as long as its receiver is in sight.** With `n1` and `n2` at least
1, and in every state of a pair started once in which both ends are in service with nothing in the
way and nothing is in flight (T7 of three ticks and a SUERM threshold of 1 at least, at both):
exchanges without losses hand over everything submitted at `a`, and tell `a` so, if and only if `b`
has been handed at most 64 MSUs that are still in the buffer of `a`. Three exchanges an MSU are
enough. -/
theorem pcr_drains {ca cb : Mtp2Config} {pa pb : PcrParams} (ha : ca.method = .Pcr pa)
    (hb : cb.method = .Pcr pb) (hn1 : 1 ≤ pa.n1) (hna : pa.n1 ≤ 127) (hn2 : 1 ≤ pa.n2)
    (hnb : pb.n1 ≤ 127) (ops : List DuplexOp) :
    let p := ops.foldl move (started ca cb)
    p.Calm →
      ((∃ n, (LinkPair.afterExchange^[n] p).a.Drained (LinkPair.afterExchange^[n] p).b) ↔
          p.a.lead p.b ≤ 64) ∧
        (p.a.lead p.b ≤ 64 → ∀ n,
          3 * (p.a.link.tx.pending.length + p.a.link.tx.unacked.length) ≤ n →
            (LinkPair.afterExchange^[n] p).Calm ∧
              (LinkPair.afterExchange^[n] p).a.Drained (LinkPair.afterExchange^[n] p).b) := by
  intro p hcalm
  obtain ⟨w, v, -, -, hd⟩ := (Duplex.started ha hb).run hna hnb ops
  have hdrain (hlead : p.a.lead p.b ≤ 64) (n : ℕ) :=
    (Draining.mk hcalm ⟨w, v, hd⟩ hlead).drains hn1 hna hn2 hnb (n := n)
  refine ⟨⟨fun ⟨n, hn⟩ => ?_, fun hlead => ⟨_, (hdrain hlead _ (Nat.le_refl _)).2⟩⟩, hdrain⟩
  -- a receiver out of sight keeps the buffer from ever emptying
  refine Nat.not_lt.mp fun hlead => ?_
  rw [iterate_afterExchange] at hn
  have hacks : p.b.acks = [] := by rw [Endpoint.acks, hcalm.outB]; rfl
  obtain ⟨more, hmore⟩ := (hd.stuck hna hnb hacks hlead (List.replicate n exchange).flatten).held
  rw [hn.unacked] at hmore
  obtain ⟨-, hu, -, hs, -⟩ := hd.ab.counts
  rw [hd.ab.lead_eq] at hlead
  rw [(List.append_eq_nil_iff.mp hmore).1, List.length_nil] at hu
  omega

/-- A lost MSU and one still waiting, drained by six exchanges. -/
theorem pcr_drains_two :
    let config : Mtp2Config := { method := .Pcr ⟨4, 100⟩, t4ProvingNormal := 1 }
    let ops : List DuplexOp := exchange ++ exchange ++ exchange ++
      [.atA (.call (.submitMsu 5 [1, 2]) rfl), .atA (.call .pollTransmit rfl), .atA (.lose 0),
        .atA (.call (.submitMsu 5 [3, 4]) rfl)]
    let p := ops.foldl move (started config config)
    (LinkPair.afterExchange^[6] p).a.Drained (LinkPair.afterExchange^[6] p).b ∧
      p.b.delivered = [] ∧ p.a.link.tx.unacked.length = 1 := by
  intro config ops p
  have hm : config.method = .Pcr ⟨4, 100⟩ := rfl
  obtain ⟨w, v, -, -, hd⟩ := (Duplex.started hm hm).run (by decide) (by decide) ops
  have hcalm : p.Calm := ⟨.of_fields hd.a.represented (by decide +kernel),
    .of_fields hd.b.represented (by decide +kernel), by decide +kernel, by decide +kernel⟩
  have hdrains := pcr_drains hm hm (by decide) (by decide) (by decide) (by decide) ops hcalm
  exact ⟨(hdrains.2 (by decide +kernel) 6 (by decide +kernel)).2, by decide +kernel,
    by decide +kernel⟩

end LinkPair

end Mtp2
