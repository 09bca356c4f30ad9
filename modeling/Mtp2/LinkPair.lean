import Mtp2.Rounds
import Mtp2.Undisturbed

/-!
# MTP2 — two links under the Basic method

Two links started from power-off and joined by two in-order pipes that may lose units. The
units of a pipe carry frames one way and acknowledgements the other, so each direction of the
pair is a go-back-N protocol over the two pipes.

* **`Conveys`** — one direction of the pair, as go-back-N;
* **`Conveys.poll`**, **`Conveys.deliver`**, **`Conveys.acknowledge`**, **`Conveys.lose`** — an
  operation at either end is an operation of the protocol.
-/

namespace Mtp2

/-- One end of a signalling link. -/
structure Endpoint where
  link : Mtp2Link
  /-- The units in flight to the other end, oldest first. -/
  out : List SignalUnit
  /-- The MSUs MTP3 has submitted here, and those it has been handed. -/
  submitted : List Payload
  delivered : List Payload
  /-- The last loss on `out` left a gap that nothing will show, and no MSU was submitted since. -/
  exposed : Bool
  deriving Repr, DecidableEq

namespace Endpoint

def started (config : Mtp2Config) : Endpoint :=
  ⟨(Mtp2Link.new config).step .start, [], [], [], false⟩

/-- One operation of the link. -/
def act (x : Endpoint) (op : Op) : Endpoint :=
  { x with link := x.link.step op, delivered := x.delivered ++ payloads (x.link.raised op) }

def submit (x : Endpoint) (sio : UInt8) (sif : List UInt8) : Endpoint :=
  match (x.link.submitMsu sio sif).1 with
  | .ok _ => { x.act (.submitMsu sio sif) with
      submitted := x.submitted ++ [(sio, sif)], exposed := false }
  | .error _ => x.act (.submitMsu sio sif)

def poll (x : Endpoint) : Endpoint :=
  { x.act .pollTransmit with out := x.out ++ x.link.pollTransmit.1.toList }

/-- The unit at the head of `out` has left the pipe. -/
def sent (x : Endpoint) : Endpoint := { x with out := x.out.tail }

/-- The units in flight as frames, and as acknowledgements. -/
def frames (x : Endpoint) : List TxFrame := x.out.filterMap SignalUnit.frame
def acks (x : Endpoint) : List (UInt8 × Bool) := x.out.filterMap SignalUnit.ack

/-- The unit at place `i` of `out` is lost on its way to `y`. -/
def lose (x y : Endpoint) (i : ℕ) : Endpoint :=
  let x' := { x with out := x.out.eraseIdx i }
  { x' with exposed := exposes x.link.tx y.link.rx x'.frames }

end Endpoint

/-- Two ends. -/
structure LinkPair where
  a : Endpoint
  b : Endpoint
  deriving Repr, DecidableEq

/-- What can happen at one end. -/
inductive EndOp where
  | submit (sio : UInt8) (sif : List UInt8)
  | poll
  | deliver
  | lose (i : ℕ)
  | tick
  deriving Repr, DecidableEq

inductive PairOp where
  | atA (op : EndOp)
  | atB (op : EndOp)
  deriving Repr, DecidableEq

namespace LinkPair

def started (ca cb : Mtp2Config) : LinkPair := ⟨.started ca, .started cb⟩

def swap (p : LinkPair) : LinkPair := ⟨p.b, p.a⟩

/-- One operation at `a`; `deliver` hands the oldest unit from `a` to `b`. -/
def stepA (p : LinkPair) : EndOp → LinkPair
  | .submit sio sif => { p with a := p.a.submit sio sif }
  | .poll => { p with a := p.a.poll }
  | .deliver =>
    match p.a.out with
    | [] => p
    | su :: _ => ⟨p.a.sent, p.b.act (.handleSu su)⟩
  | .lose i => { p with a := p.a.lose p.b i }
  | .tick => { p with a := p.a.act .tick }

def step (p : LinkPair) : PairOp → LinkPair
  | .atA op => p.stepA op
  | .atB op => (p.swap.stepA op).swap

theorem stepA_deliver_nil {p : LinkPair} (hout : p.a.out = []) : p.stepA .deliver = p := by
  simp only [stepA, hout]

theorem stepA_deliver {p : LinkPair} {su : SignalUnit} {rest : List SignalUnit}
    (hout : p.a.out = su :: rest) :
    p.stepA .deliver = ⟨p.a.sent, p.b.act (.handleSu su)⟩ := by
  simp only [stepA, hout]

end LinkPair

/-! ## Losing a unit -/

/-- Losing a unit loses at most one of the things the units carry. -/
theorem filterMap_eraseIdx {α β : Type*} (f : α → Option β) (l : List α) (i : ℕ) :
    ∃ j, (l.eraseIdx i).filterMap f = (l.filterMap f).eraseIdx j ∧
      (l.filterMap f)[j]? = l[i]?.bind f := by
  induction l generalizing i with
  | nil => exact ⟨0, rfl, rfl⟩
  | cons x l ih =>
    cases i with
    | zero =>
      cases hx : f x with
      | none =>
        refine ⟨(l.filterMap f).length, ?_, by simp [hx]⟩
        rw [List.filterMap_cons_none hx, List.eraseIdx_of_length_le (Nat.le_refl _),
          List.eraseIdx_cons_zero]
      | some y => exact ⟨0, by simp [hx], by simp [hx]⟩
    | succ i =>
      obtain ⟨j, herase, hget⟩ := ih i
      cases hx : f x with
      | none => exact ⟨j, by simp [hx, herase], by simp [hx, hget]⟩
      | some y => exact ⟨j + 1, by simp [hx, herase], by simp [hx, hget]⟩

/-! ## What a unit carries -/

namespace SignalUnit

variable {su : SignalUnit}

/-- A status indication carries neither a frame nor an acknowledgement. -/
theorem carries_none (h : su.traffic = none) : su.frame = none ∧ su.ack = none := by
  cases su <;> first | exact ⟨rfl, rfl⟩ | cases h

/-- An FISU or MSU carries both. -/
theorem carries_some {header : SuHeader} {msu : Option Payload}
    (h : su.traffic = some (header, msu)) :
    su.ack = some (header.bsn, header.bib) ∧
      (msu = none ∧ su.frame = some ⟨header.fsn, header.fib, .Fisu⟩ ∨
        ∃ sio sif, msu = some (sio, sif) ∧
          su.frame = some ⟨header.fsn, header.fib, .Msu sio sif⟩) := by
  cases su with
  | Lssu header status extended => cases h
  | Fisu header => cases h; exact ⟨rfl, .inl ⟨rfl, rfl⟩⟩
  | Msu header sio sif => cases h; exact ⟨rfl, .inr ⟨_, _, rfl, rfl⟩⟩

end SignalUnit

namespace Mtp2Link

variable {l : Mtp2Link}

/-- Submitting and polling raise nothing. -/
theorem raised_silent {op : Op} (h : (l.step op).events = l.events) :
    payloads (l.raised op) = [] := by
  have hnil : l.raised op = [] := raised_of_append (by rw [h, List.append_nil])
  rw [hnil]
  rfl

end Mtp2Link

/-! ## One direction -/

/-- **The direction from `x` to `y` is a go-back-N protocol** with at most 63 MSUs outstanding:
the frames are those of `x`'s units, the acknowledgements those of `y`'s. -/
structure Conveys (x y : Endpoint) (g : GoBackN.State Payload) : Prop where
  rel : RoundRel x.link.tx y.link.rx x.frames y.acks g
  inv : GoBackN.Inv 63 g
  covered : GoBackN.Covered x.exposed g
  delivered : Channel.Delivered x.submitted y.delivered g.toState
  fits : ∀ p ∈ x.submitted, Fits p

namespace Conveys

variable {x y x' y' : Endpoint} {g : GoBackN.State Payload}

/-- Two links that have just been started. -/
theorem started {ca cb : Mtp2Config} (ha : ca.method = .Basic) (hb : cb.method = .Basic) :
    Conveys (.started ca) (.started cb) GoBackN.State.init := by
  have htx : (Endpoint.started ca).link.tx = .new .Basic := by rw [← ha]; rfl
  have hrx : (Endpoint.started cb).link.rx = .new .Basic := by rw [← hb]; rfl
  refine ⟨?_, GoBackN.inv_init, GoBackN.covered_init, ⟨rfl, rfl⟩, nofun⟩
  rw [htx, hrx]
  exact roundRel_init

/-- What the direction does not read may change. -/
theorem congr (h : Conveys x y g) (htx : x'.link.tx = x.link.tx) (hrx : y'.link.rx = y.link.rx)
    (hf : x'.frames = x.frames) (hk : y'.acks = y.acks) (he : x'.exposed = x.exposed)
    (hs : x'.submitted = x.submitted) (hd : y'.delivered = y.delivered) : Conveys x' y' g where
  rel := by rw [htx, hrx, hf, hk]; exact h.rel
  inv := h.inv
  covered := by rw [he]; exact h.covered
  delivered := by rw [hs, hd]; exact h.delivered
  fits := by rw [hs]; exact h.fits

/-! ### Submitting and time -/

/-- What the code accepts joins the queue, on both levels. -/
theorem submit (h : Conveys x y g) (sio : UInt8) (sif : List UInt8) :
    ∃ g', Conveys (x.submit sio sif) y g' := by
  unfold Endpoint.submit
  rcases x.link.submitMsu_cases sio sif with ⟨hfit, heq⟩ | ⟨e, heq⟩
  · have hlink : x.link.step (.submitMsu sio sif) =
        { x.link with tx := x.link.tx.submit sio sif } := congrArg Prod.snd heq
    rw [heq]
    dsimp only
    refine ⟨g.submit (sio, sif), ?_, h.inv.submit _, h.covered.submit _,
      h.delivered.submit _, ?_⟩
    · rw [Endpoint.act, hlink]
      exact h.rel.submit sio sif
    · intro p hp
      rcases List.mem_append.mp hp with hp | hp
      · exact h.fits p hp
      · rw [List.mem_singleton.mp hp]; exact hfit
  · have hlink : x.link.step (.submitMsu sio sif) = x.link := congrArg Prod.snd heq
    rw [heq]
    exact ⟨g, h.congr (by rw [Endpoint.act, hlink]) rfl rfl rfl rfl rfl rfl⟩

/-- A submission at the other end. -/
theorem submitBack (h : Conveys x y g) (sio : UInt8) (sif : List UInt8) :
    Conveys x (y.submit sio sif) g := by
  have hstep : y.link.step (.submitMsu sio sif) =
      { y.link with tx := (y.link.submitMsu sio sif).2.tx } := y.link.submitMsu_eq sio sif
  have hpay : payloads (y.link.raised (.submitMsu sio sif)) = [] :=
    Mtp2Link.raised_silent (by rw [hstep])
  unfold Endpoint.submit
  split
  · exact h.congr rfl (by rw [Endpoint.act, hstep]) rfl rfl rfl rfl
      (by rw [Endpoint.act, hpay, List.append_nil])
  · exact h.congr rfl (by rw [Endpoint.act, hstep]) rfl rfl rfl rfl
      (by rw [Endpoint.act, hpay, List.append_nil])

theorem tick (h : Conveys x y g) (hx : x.link.Undisturbed) : Conveys (x.act .tick) y g :=
  h.congr hx.tick_controllers.1 rfl rfl rfl rfl rfl rfl

theorem tickBack (h : Conveys x y g) (hy : y.link.Undisturbed) : Conveys x (y.act .tick) g :=
  h.congr rfl hy.tick_controllers.2.1 rfl rfl rfl rfl (by
    rw [Endpoint.act, hy.tick_controllers.2.2.1, List.append_nil])

/-! ### Polling -/

/-- A poll puts at most one frame and one acknowledgement on the pipe. -/
theorem poll_out (x : Endpoint) {su : SignalUnit} (hsu : x.link.pollTransmit.1 = some su) :
    x.poll.frames = x.frames ++ su.frame.toList ∧ x.poll.acks = x.acks ++ su.ack.toList := by
  have hout : x.poll.out = x.out ++ [su] := by rw [Endpoint.poll, hsu]; rfl
  rw [Endpoint.frames, Endpoint.acks, hout, List.filterMap_append, List.filterMap_append]
  refine ⟨congrArg _ ?_, congrArg _ ?_⟩
  · cases hf : su.frame <;> simp [hf]
  · cases hf : su.ack <;> simp [hf]

/-- The payload of a polled frame was submitted, so it fits. -/
theorem frame_fits {tx : TxControl} {rx : RxControl} {data : List TxFrame}
    {acks : List (UInt8 × Bool)} {f : TxFrame} (hrel : RoundRel tx rx (data ++ [f]) acks g)
    (hi : GoBackN.Inv 63 g) (hfits : ∀ p ∈ g.sent, Fits p) {sio : UInt8} {sif : List UInt8}
    (hf : f.body = .Msu sio sif) : Fits (sio, sif) := by
  have hmem : f ∈ g.data.map (frameOf roundBit) := by
    rw [← hrel.rel.data_eq]; exact List.mem_append_right _ List.mem_cons_self
  obtain ⟨f', hf', rfl⟩ := List.mem_map.mp hmem
  cases hb : f'.body with
  | none => simp [frameOf, hb] at hf
  | some b =>
    obtain ⟨i, p⟩ := b
    obtain ⟨rfl, rfl⟩ : p.1 = sio ∧ p.2 = sif := by simpa [frameOf, hb] using hf
    exact hfits p (List.mem_of_getElem? (hi.window.data_body f' hf' i p hb).2.2)

/-- **A poll sends the next frame of the direction**, or a unit that carries none. -/
theorem poll (h : Conveys x y g) (hx : x.link.Undisturbed) (ho : x.link.state ≠ .OutOfService)
    (hroom : x.link.state = .InService → x.link.tx.Roomy 63) : ∃ g', Conveys x.poll y g' := by
  obtain ⟨su, hsu, hsent⟩ := hx.pollTransmit_sent ho
  obtain ⟨hframes, -⟩ := poll_out x hsu
  rcases hsent with ⟨hs, rfl, htx⟩ | ⟨-, rfl, htx⟩ | ⟨-, -, htr, htx⟩
  · -- in service: whatever the transmit control chose
    obtain ⟨g', hrel, hi, hcov, hsend⟩ := h.rel.poll h.inv (hroom hs)
    have hdel := hsend.delivered h.inv h.delivered
    have hframe := x.link.frameUnit_frame fun sio sif hf => frame_fits hrel hi (fun p hp =>
      h.fits p (by rw [hdel.submitted]; exact List.mem_append_left _ hp)) hf
    refine ⟨g', ?_, hi, hcov _ h.covered, hdel, h.fits⟩
    rw [hframes, hframe, show x.poll.link.tx = _ from htx]
    exact hrel
  · -- in Aligned Ready: a FISU with the present FSN
    refine ⟨g.fill, ?_, h.inv.fill, h.covered.fill,
      ⟨h.delivered.submitted, h.delivered.accepted⟩, h.fits⟩
    rw [hframes, show x.poll.link.tx = _ from htx]
    exact h.rel.fill
  · -- before that: a status indication, which carries no frame
    refine ⟨g, h.congr htx rfl ?_ rfl rfl rfl rfl⟩
    rw [hframes, (SignalUnit.carries_none htr).1]
    exact List.append_nil _

/-- **A poll acknowledges what the other direction has delivered.** -/
theorem pollBack (h : Conveys x y g) (hy : y.link.Undisturbed) (ho : y.link.state ≠ .OutOfService) :
    ∃ g', Conveys x y.poll g' := by
  obtain ⟨su, hsu, hsent⟩ := hy.pollTransmit_sent ho
  obtain ⟨-, hacks⟩ := poll_out y hsu
  have hrx : y.poll.link.rx = y.link.rx := by
    show y.link.pollTransmit.2.rx = _
    rw [Mtp2Link.pollTransmit_eq]
  have hpay : y.poll.delivered = y.delivered := by
    show y.delivered ++ payloads (y.link.raised .pollTransmit) = _
    have hev : (y.link.step .pollTransmit).events = y.link.events := by
      rw [Mtp2Link.step, Mtp2Link.pollTransmit_eq]
    rw [Mtp2Link.raised_silent hev, List.append_nil]
  have hsend (hack : su.ack = some (y.link.rx.bsn, y.link.rx.bib)) : ∃ g', Conveys x y.poll g' := by
    refine ⟨g.sendAck, ?_, h.inv.sendAck, h.covered.sendAck, ?_, h.fits⟩
    · rw [hrx, hacks, hack]
      exact h.rel.sendAck
    · rw [hpay]
      exact ⟨h.delivered.submitted, h.delivered.accepted⟩
  rcases hsent with ⟨-, rfl, -⟩ | ⟨-, rfl, -⟩ | ⟨-, -, htr, -⟩
  · obtain ⟨-, -, -, hack, -⟩ := y.link.frameUnit_traffic y.link.tx.poll.1
    exact hsend hack
  · exact hsend rfl
  · refine ⟨g, h.congr rfl hrx rfl ?_ rfl rfl hpay⟩
    rw [hacks, (SignalUnit.carries_none htr).2]
    exact List.append_nil _

/-! ### Delivering -/

/-- **A unit handed to the other end moves its direction on.** -/
theorem deliver (h : Conveys x y g) (hy : y.link.Undisturbed) {su : SignalUnit}
    {rest : List SignalUnit} (hout : x.out = su :: rest) (hsu : su.undisturbed = true)
    (hready : ∀ header sio sif, su.traffic = some (header, some (sio, sif)) →
      y.link.state.ready = true) :
    ∃ g', Conveys x.sent (y.act (.handleSu su)) g' := by
  have hframes : x.frames = su.frame.toList ++ x.sent.frames := by
    rw [Endpoint.frames, Endpoint.frames, Endpoint.sent, hout]
    cases hf : su.frame <;> simp [hf]
  cases htr : su.traffic with
  | none =>
    obtain ⟨-, hrx, hpay, -⟩ := hy.handleSu_other hsu (.inl htr)
    refine ⟨g, h.congr rfl hrx ?_ rfl rfl rfl ?_⟩
    · rw [hframes, (SignalUnit.carries_none htr).1]; rfl
    · rw [Endpoint.act, hpay, List.append_nil]
  | some p =>
    obtain ⟨header, msu⟩ := p
    obtain ⟨-, ⟨rfl, hf⟩ | ⟨sio, sif, rfl, hf⟩⟩ := SignalUnit.carries_some htr
    · -- a fill-in changes nothing, whether or not the other end is ready
      have hsame : (y.link.step (.handleSu su)).rx = y.link.rx ∧
          payloads (y.link.raised (.handleSu su)) = [] := by
        cases hs : y.link.state.ready with
        | true =>
          obtain ⟨-, -, hrx, hpay⟩ := hy.handleSu_ready htr hs
          exact ⟨hrx, hpay⟩
        | false =>
          obtain ⟨-, hrx, hpay, -⟩ := hy.handleSu_other hsu (.inr hs)
          exact ⟨hrx, hpay⟩
      rw [hf] at hframes
      obtain ⟨hrel, hi, hcov, hrecv⟩ := h.rel.deliver_fill h.inv hframes rfl
      refine ⟨g.ignore, ?_, hi, hcov _ h.covered, ?_, h.fits⟩
      · rw [Endpoint.act, hsame.1]; exact hrel
      · rw [Endpoint.act, hsame.2, List.append_nil]
        refine ⟨?_, ?_⟩
        · show x.submitted = g.toState.deliver.sent ++ g.toState.deliver.queue
          rw [SlidingWindow.State.deliver_sent, SlidingWindow.State.deliver_queue]
          exact h.delivered.submitted
        · show y.delivered = g.toState.deliver.sent.take g.ignore.recv
          rw [hrecv, SlidingWindow.State.deliver_sent]
          exact h.delivered.accepted
    · -- an MSU finds the other end ready, so its sequence check runs
      obtain ⟨-, -, hrx, hpay⟩ := hy.handleSu_ready htr (hready _ _ _ htr)
      rw [Mtp2Link.checked, if_neg hy.state_ne.2] at hrx hpay
      dsimp only at hrx hpay
      rw [payloads_outcomeEvents] at hpay
      rw [hf] at hframes
      obtain ⟨g', hrel, hi, hcov, hst, htake⟩ :=
        h.rel.deliver_msu h.inv (by omega) hframes rfl
      refine ⟨g', ?_, hi, hcov (Nat.le_refl _) _ h.covered, ?_, h.fits⟩
      · rw [Endpoint.act, hrx]; exact hrel
      · rw [Endpoint.act, hpay, hst]
        refine ⟨?_, ?_⟩
        · rw [SlidingWindow.State.deliver_sent, SlidingWindow.State.deliver_queue]
          exact h.delivered.submitted
        · rw [SlidingWindow.State.deliver_sent, htake, ← h.delivered.accepted]

/-- **A unit from the other end acknowledges.** -/
theorem acknowledge (h : Conveys x y g) (hx : x.link.Undisturbed) {su : SignalUnit}
    {rest : List SignalUnit} (hout : y.out = su :: rest) (hsu : su.undisturbed = true)
    (hover : ∀ header msu, su.traffic = some (header, msu) → x.link.state.ready = true →
      x.link.tx.overlooks header.bsn header.bib = false) :
    ∃ g', Conveys (x.act (.handleSu su)) y.sent g' := by
  have hacks : y.acks = su.ack.toList ++ y.sent.acks := by
    rw [Endpoint.acks, Endpoint.acks, Endpoint.sent, hout]
    cases hf : su.ack <;> simp [hf]
  cases htr : su.traffic with
  | none =>
    obtain ⟨htx, -⟩ := hx.handleSu_other hsu (.inl htr)
    refine ⟨g, h.congr htx rfl rfl ?_ rfl rfl rfl⟩
    rw [hacks, (SignalUnit.carries_none htr).2]; rfl
  | some p =>
    obtain ⟨header, msu⟩ := p
    obtain ⟨hack, -⟩ := SignalUnit.carries_some htr
    rw [hack] at hacks
    cases hs : x.link.state.ready with
    | true =>
      obtain ⟨-, htx, -⟩ := hx.handleSu_ready htr hs
      obtain ⟨g', hrel, hi, hcov, hst⟩ := h.rel.takeAck h.inv (by omega) hacks
      refine ⟨g', ?_, hi, hcov (hover _ _ htr hs) _ h.covered, ?_, h.fits⟩
      · rw [Endpoint.act, htx]; exact hrel
      · rw [hst]
        exact ⟨h.delivered.submitted, h.delivered.accepted⟩
    | false =>
      -- not looked at, so as good as lost
      obtain ⟨htx, -⟩ := hx.handleSu_other hsu (.inr hs)
      refine ⟨g.loseAck 0, ?_, h.inv.loseAck 0, h.covered.loseAck 0,
        ⟨h.delivered.submitted, h.delivered.accepted⟩, h.fits⟩
      have hlost := h.rel.loseAck 0
      rw [hacks] at hlost
      rw [Endpoint.act, htx]
      exact hlost

/-! ### Losing -/

/-- **A unit is lost**, other than an awaited retransmission. -/
theorem lose (h : Conveys x y g) (i : ℕ)
    (hloss : ∀ f ∈ x.out[i]?.bind SignalUnit.frame, awaitedAgain y.link.rx f = false) :
    ∃ g', Conveys (x.lose y i) y g' := by
  obtain ⟨j, herase, hget⟩ := filterMap_eraseIdx SignalUnit.frame x.out i
  have hframes : (x.lose y i).frames = x.frames.eraseIdx j := herase
  refine ⟨g.loseData j, ?_, h.inv.loseData j, ?_, ⟨h.delivered.submitted, h.delivered.accepted⟩,
    h.fits⟩
  · rw [hframes]
    exact h.rel.loseData j
  · have hexp : (x.lose y i).exposed = exposes x.link.tx y.link.rx (x.frames.eraseIdx j) := by
      rw [← hframes]; rfl
    rw [hexp]
    exact h.rel.lose_covered h.inv h.covered fun f hf => hloss f (hget ▸ hf)

/-- The acknowledgement of a lost unit comes again with the next. -/
theorem loseBack (h : Conveys x y g) (z : Endpoint) (i : ℕ) :
    ∃ g', Conveys x (y.lose z i) g' := by
  obtain ⟨j, herase, -⟩ := filterMap_eraseIdx SignalUnit.ack y.out i
  have hacks : (y.lose z i).acks = y.acks.eraseIdx j := herase
  refine ⟨g.loseAck j, ?_, h.inv.loseAck j, h.covered.loseAck j,
    ⟨h.delivered.submitted, h.delivered.accepted⟩, h.fits⟩
  rw [hacks]
  exact h.rel.loseAck j

end Conveys

end Mtp2
