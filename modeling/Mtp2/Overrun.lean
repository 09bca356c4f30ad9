import Mathlib.Algebra.Group.Action.Defs
import Mathlib.Algebra.Order.BigOperators.Group.List
import Mtp2.Alignment
import Mtp2.Load
import Mtp2.Outage

/-!
# MTP2 — the thresholds of PCR

`PcrParams` is taken as it comes, and forced retransmission is all that keeps a buffer under PCR
small. Its thresholds decide whether a direction is safe, which takes a buffer within the sequence
space, and whether it always recovers, which takes one within half of it. `N2` counts octets, so how
many MSUs it stands for depends on the shortest SIF.

* **`TxControl.poll_short`** — a poll keeps a buffer within the thresholds;
* **`Abreast.exchange`** — the pair comes into service as two links in lockstep do;
* **`Overrun.burst`** — one more MSU is delivered and not acknowledged;
* **`pcr_safe_thresholds`** — when a direction is safe;
* **`pcr_live_thresholds`** — when it always recovers.
-/

namespace Mtp2

open SlidingWindow (State)

/-! ## Thresholds -/

namespace PcrParams

/-- The thresholds keep a buffer of MSUs whose SIFs have at least `m` octets down to `K`. -/
def Within (params : PcrParams) (K m : ℕ) : Prop := params.n1 ≤ K ∨ params.n2 ≤ K * (1 + m)

end PcrParams

namespace TxControl

variable {t : TxControl} {params : PcrParams} {K m : ℕ}

/-- Every MSU counts for its SIO and its SIF. -/
theorem length_mul_le_octets {ms : List BufferedMsu} (h : ∀ b ∈ ms, m ≤ b.sif.length) :
    ms.length * (1 + m) ≤ octets ms := by
  have hsum := List.card_nsmul_le_sum (ms.map fun b => 1 + b.sif.length) (1 + m) fun n hn => by
    obtain ⟨b, hb, rfl⟩ := List.mem_map.mp hn
    have := h b hb
    omega
  rwa [List.length_map, smul_eq_mul] at hsum

/-- **A poll does not overfill the buffer.** -/
theorem poll_short (hm : t.method = .Pcr params) (hin : params.Within K m)
    (hh : t.Holding fun p => m ≤ p.2.length) (hlen : t.unacked.length ≤ K) :
    t.poll.2.unacked.length ≤ K := by
  obtain ⟨hiff, hholds⟩ := numbersNew_iff hm
  by_cases hnew : t.NumbersNew
  swap
  · rw [(hholds hnew).unacked]
    exact hlen
  obtain ⟨-, hn1, hn2⟩ := hiff.mp hnew
  obtain ⟨sio, sif, rest, -, -, -, -, hu⟩ := hnew
  rw [hu, List.length_append, List.length_singleton]
  rcases hin with hin | hin
  · omega
  · -- `K` MSUs would already have reached `n2`
    have hoct : t.unacked.length * (1 + m) < K * (1 + m) :=
      Nat.lt_of_le_of_lt (length_mul_le_octets hh.buffered) (Nat.lt_of_lt_of_le hn2 hin)
    exact Nat.lt_of_mul_lt_mul_right hoct

end TxControl

/-- Nor does anything else that happens to a link. -/
theorem Mtp2Link.short_step {l : Mtp2Link} {params : PcrParams} {K m : ℕ}
    (hm : l.tx.method = .Pcr params) (hin : params.Within K m)
    (hh : l.tx.Holding fun p => m ≤ p.2.length) (hlen : l.tx.unacked.length ≤ K) (op : Op) :
    (l.step op).tx.unacked.length ≤ K := by
  refine tx_step (P := fun t : TxControl => t.unacked.length ≤ K) op hlen (Nat.zero_le _)
    (fun _ _ _ _ => hlen) (TxControl.poll_short hm hin hh hlen) fun bsn bib => ?_
  rw [TxControl.onAck_unacked]
  exact Nat.le_trans (List.drop_sublist _ _).length_le hlen

/-! ## One direction over a run -/

/-- What is submitted at `a` has a SIF of at least `m` octets. -/
def DuplexOp.submitsFrom (m : ℕ) : DuplexOp → Bool
  | .atA (.call (.submitMsu _ sif) _) => m ≤ sif.length
  | _ => true

/-- Neither a loss nor damage. -/
def DuplexOp.lossless : DuplexOp → Bool
  | .atA .corrupt | .atA (.lose _) | .atB .corrupt | .atB (.lose _) => false
  | _ => true

namespace LinkPair

variable {pa pb : PcrParams} {p : LinkPair} {K m : ℕ}

/-- The direction from `a` is a window, whatever the other one is. -/
structure Windowed (pa pb : PcrParams) (p : LinkPair) : Prop where
  streams : ∃ w, Streams p.a p.b w
  a : p.a.link.PcrSound pa
  b : p.b.link.PcrSound pb

theorem Windowed.started {ca cb : Mtp2Config} (ha : ca.method = .Pcr pa)
    (hb : cb.method = .Pcr pb) : (started ca cb).Windowed pa pb :=
  ⟨⟨_, .started ha hb⟩, .started ha, .started hb⟩

/-- It stays one as long as no poll puts a 128th MSU into the buffer. -/
theorem Windowed.move (h : p.Windowed pa pb) (hroom : p.a.link.tx.poll.2.unacked.length ≤ 127)
    (op : DuplexOp) : (p.move op).Windowed pa pb := by
  obtain ⟨w, hw⟩ := h.streams
  cases op with
  | atA op =>
    obtain ⟨w', -, hw'⟩ := forth hw h.a.loaded h.a.represented h.b.represented hroom op
    obtain ⟨ha, hb⟩ := pcrSound_moveA h.a h.b op
    exact ⟨⟨w', hw'⟩, ha, hb⟩
  | atB op =>
    obtain ⟨w', -, hw'⟩ := back (p := p.swap) hw h.b.represented h.a.represented op
    obtain ⟨hb, ha⟩ := pcrSound_moveA (p := p.swap) h.b h.a op
    exact ⟨⟨w', hw'⟩, ha, hb⟩

/-- What such thresholds keep: the buffer stays short. -/
structure Guarded (pa pb : PcrParams) (K m : ℕ) (p : LinkPair) : Prop extends
    Windowed pa pb p where
  holding : p.a.link.tx.Holding fun q => m ≤ q.2.length
  short : p.a.link.tx.unacked.length ≤ K

/-- **An operation of either end keeps the buffer short.** -/
theorem Guarded.move (h : p.Guarded pa pb K m) (hin : pa.Within K m) (hK : K ≤ 127)
    {op : DuplexOp} (hop : op.submitsFrom m = true) : (p.move op).Guarded pa pb K m := by
  have hmethod := h.a.bounded.method
  -- what the operation does to the link of `a`, a submission being long enough
  have hlink : (p.move op).a.link = p.a.link ∨ ∃ o,
      (∀ sio sif, o = .submitMsu sio sif → m ≤ sif.length) ∧
        (p.move op).a.link = p.a.link.step o := by
    cases op with
    | atA op =>
      refine (p.moveA_ops op).1.imp_right ?_
      rintro ⟨o, own, rfl, hlink⟩
      refine ⟨o, ?_, hlink⟩
      rintro sio sif rfl
      exact of_decide_eq_true hop
    | atB op =>
      refine (p.swap.moveA_ops op).2.imp_right ?_
      rintro ⟨o, rfl | ⟨su, rfl⟩, hlink⟩
      · exact ⟨_, by simp, hlink⟩
      · exact ⟨_, by simp, hlink⟩
  have hkept : ((p.move op).a.link.tx.Holding fun q => m ≤ q.2.length) ∧
      (p.move op).a.link.tx.unacked.length ≤ K := by
    rcases hlink with hlink | ⟨o, hlong, hlink⟩ <;> rw [hlink]
    · exact ⟨h.holding, h.short⟩
    · exact ⟨Mtp2Link.holding_step h.holding hlong,
        Mtp2Link.short_step hmethod hin h.holding h.short o⟩
  have hroom := Nat.le_trans (TxControl.poll_short hmethod hin h.holding h.short) hK
  exact ⟨h.toWindowed.move hroom op, hkept.1, hkept.2⟩

/-- The run from power-off. -/
theorem Guarded.run {ca cb : Mtp2Config} (ha : ca.method = .Pcr pa) (hb : cb.method = .Pcr pb)
    (hin : pa.Within K m) (hK : K ≤ 127) {ops : List DuplexOp}
    (hops : ∀ op ∈ ops, op.submitsFrom m = true) :
    (ops.foldl LinkPair.move (LinkPair.started ca cb)).Guarded pa pb K m :=
  Run.invariant_along (fun p : LinkPair => p.Guarded pa pb K m)
    (fun _ _ h hop => h.move hin hK hop)
    ⟨.started ha hb, TxControl.holding_new ca.method, Nat.zero_le K⟩
    (Run.Along.of_forall fun op hmem _ => hops op hmem)

end LinkPair

/-! ## Into service -/

/-- Both links are started before the first round, and nothing else is called. -/
def startTogether : ℕ → List Op × List Op
  | 0 => ([.start], [.start])
  | _ + 1 => ([], [])

/-- Anything but a submission at `a`. -/
def DuplexOp.submitsNone : DuplexOp → Bool
  | .atA (.call (.submitMsu _ _) _) => false
  | _ => true

namespace LinkPair

variable {pa pb : PcrParams} {p : LinkPair} {q : Lockstep} {ca cb : Mtp2Config}

/-- The direction from `a` before its first MSU. -/
structure Unused (pa pb : PcrParams) (p : LinkPair) : Prop extends Windowed pa pb p where
  submitted : p.a.submitted = []

namespace Unused

/-- Its controllers are as they were made. -/
theorem controllers (h : p.Unused pa pb) : p.a.link.tx.Tracks [] 0 ∧ p.a.link.tx.pending = [] ∧
    p.b.link.rx.lastReceived = seqOf 127 ∧ p.b.delivered = [] := by
  obtain ⟨w, hw⟩ := h.streams
  obtain ⟨hsent, hqueue⟩ :=
    List.append_eq_nil_iff.mp (hw.delivered.submitted.symm.trans h.submitted)
  have htracks := hw.rel.tracks
  have hrecv := hw.inv.recv_le
  have hbase := hw.inv.base_le
  rw [hsent, List.length_nil] at hrecv
  rw [hsent, show w.base = 0 by omega] at htracks
  refine ⟨htracks, hw.rel.queue.trans hqueue, ?_, ?_⟩
  · rw [hw.rel.awaits, Nat.le_zero.mp hrecv, Nat.zero_add]
  · rw [hw.delivered.accepted, hsent, List.take_nil]

/-- Nothing goes out of an empty queue, so nothing is numbered. -/
theorem move (h : p.Unused pa pb) {op : DuplexOp} (hop : op.submitsNone = true) :
    (p.move op).Unused pa pb := by
  obtain ⟨htracks, hp, -, -⟩ := h.controllers
  have hroom : p.a.link.tx.poll.2.unacked.length ≤ 127 := by
    obtain ⟨hiff, hholds⟩ := TxControl.numbersNew_iff h.a.bounded.method
    rw [(hholds fun hnew => (hiff.mp hnew).1 hp).unacked, htracks.unacked_length]
    exact Nat.zero_le _
  refine ⟨h.toWindowed.move hroom op, Eq.trans ?_ h.submitted⟩
  cases op with
  | atA op =>
    cases op with
    | call op own =>
      cases op with
      | submitMsu sio sif => cases hop
      | _ => rfl
    | lose i => rfl
    | deliver | corrupt => show (p.moveA _).a.submitted = _; unfold moveA; dsimp only; split <;> rfl
  | atB op =>
    show (p.swap.moveA op).b.submitted = _
    unfold moveA
    cases op with
    | call op own => rfl
    | lose i => rfl
    | deliver | corrupt => dsimp only; split <;> rfl

theorem run (h : p.Unused pa pb) {ops : List DuplexOp} (hops : ∀ op ∈ ops, op.submitsNone = true) :
    (ops.foldl LinkPair.move p).Unused pa pb :=
  Run.invariant_along (fun p : LinkPair => p.Unused pa pb) (fun _ _ h hop => h.move hop) h
    (Run.Along.of_forall fun op hmem _ => hops op hmem)

end Unused

/-- A pair with nothing in flight, beside the same two links in lockstep. -/
structure Abreast (pa pb : PcrParams) (p : LinkPair) (q : Lockstep) : Prop extends
    Unused pa pb p where
  linkA : p.a.link = q.a.link
  linkB : p.b.link = q.b.link
  outA : p.a.out = []
  outB : p.b.out = []
  clearA : p.a.link.Undisturbed
  clearB : p.b.link.Undisturbed

/-- **An exchange of the pair is a cycle of the links.** -/
theorem Abreast.exchange (h : Abreast pa pb p q) {sua sub : SignalUnit}
    (ha : q.a.link.pollTransmit.1 = some sua) (hb : q.b.link.pollTransmit.1 = some sub) :
    Abreast pa pb p.afterExchange q.cycle := by
  rw [← h.linkA] at ha
  rw [← h.linkB] at hb
  have heq := afterExchange_eq ha hb h.outA h.outB
  have hunused : p.afterExchange.Unused pa pb := h.toUnused.run (by decide)
  rw [heq] at hunused ⊢
  -- either end hears what the other sends, on the pipes and in lockstep
  have hcycle : q.cycle = ⟨q.a.turn (some sub), q.b.turn (some sua)⟩ := by
    rw [Lockstep.cycle, ← h.linkA, ← h.linkB, ha, hb]
  rw [hcycle]
  have hheard {x y : Endpoint} {su : SignalUnit} (hx : x.link.Undisturbed)
      (hy : y.link.Undisturbed) (hsu : y.link.pollTransmit.1 = some su) :
      (x.turn su).link.Undisturbed := by
    refine @Mtp2Link.Undisturbed.turn x.link hx (some su) fun su' hmem => ?_
    rw [← Option.mem_some.mp hmem]
    exact (hy.sends hsu).1
  refine ⟨hunused, ?_, ?_, h.outA, h.outB, hheard h.clearA h.clearB hb,
    hheard h.clearB h.clearA ha⟩
  · show (p.a.turn sub).link = (q.a.turn (some sub)).link
    rw [Party.turn_some, Endpoint.turn]
    simp only [Party.act, Endpoint.act, h.linkA]
  · show (p.b.turn sua).link = (q.b.turn (some sua)).link
    rw [Party.turn_some, Endpoint.turn]
    simp only [Party.act, Endpoint.act, h.linkB]

end LinkPair

/-- Two configurations that come into service when they are started together. -/
structure Aligns (ca cb : Mtp2Config) : Prop extends Exchange ca cb startTogether 0 where
  suermA : 1 ≤ ca.suermThreshold.toNat
  suermB : 1 ≤ cb.suermThreshold.toNat

/-- One configuration at both ends. -/
theorem aligns_self {c : Mtp2Config} (hn : c.emergency = false) (h3 : 2 ≤ c.t3Aligned.toNat)
    (hs : 1 ≤ c.suermThreshold.toNat) : Aligns c c where
  normalA := hn
  normalB := hn
  ordinaryA n := by cases n <;> simp [startTogether, Op.ordinary]
  ordinaryB n := by cases n <;> simp [startTogether, Op.ordinary]
  startA := List.mem_cons_self
  startB := List.mem_cons_self
  waitsB n hn := absurd hn (Nat.not_lt_zero n)
  t2 := by omega
  t3A := h3
  t3B := h3
  t1A := by omega
  t1B := by omega
  suermA := hs
  suermB := hs

namespace Aligns

variable {pa pb : PcrParams} {ca cb : Mtp2Config} {n : ℕ}

/-- Until both serve, both ends have something to send. -/
theorem polls (h : Aligns ca cb)
    (hn : n ≤ 1 + max ca.provingPeriod cb.provingPeriod) :
    let q := ((Lockstep.fresh ca cb).after startTogether n).call (startTogether n)
    (∃ su, q.a.link.pollTransmit.1 = some su) ∧ ∃ su, q.b.link.pollTransmit.1 = some su := by
  intro q
  cases n with
  | zero =>
    exact ⟨⟨_, ((down_fresh ca).started (h.ordinaryA 0) h.startA).sends.1 rfl⟩,
      ⟨_, ((down_fresh cb).started (h.ordinaryB 0) h.startB).sends.1 rfl⟩⟩
  | succ m =>
    obtain ⟨ha, hb⟩ := h.stages (p := .fresh ca cb) (down_fresh ca) (down_fresh cb)
      (Nat.le_add_left 1 m) hn
    rw [Nat.zero_add] at ha hb
    have hsome {c : Mtp2Config} {x : Party} (hx : Stage c (m + 1) x) :
        ∃ su, x.link.pollTransmit.1 = some su := by
      obtain ⟨hsin, hfisu⟩ := hx.sends (Nat.le_add_left 1 m)
      by_cases hle : m + 1 ≤ c.provingPeriod
      · exact ⟨_, hsin hle⟩
      · exact ⟨_, hfisu (Nat.lt_of_not_le hle)⟩
    exact ⟨hsome ha, hsome hb⟩

/-- **The pair comes into service as the two links in lockstep do.** -/
theorem abreast (h : Aligns ca cb) (ha : ca.method = .Pcr pa) (hb : cb.method = .Pcr pb)
    (hn : n ≤ 2 + max ca.provingPeriod cb.provingPeriod) :
    LinkPair.Abreast pa pb (LinkPair.afterExchange^[n] (.started ca cb))
      (((Lockstep.fresh ca cb).after startTogether n).call (startTogether n)) := by
  induction n with
  | zero =>
    exact ⟨⟨.started ha hb, rfl⟩, rfl, rfl, rfl, rfl, .started ca h.suermA, .started cb h.suermB⟩
  | succ n ih =>
    obtain ⟨⟨sua, hpa⟩, ⟨sub, hpb⟩⟩ := h.polls (n := n) (by omega)
    rw [Function.iterate_succ_apply']
    exact (ih (by omega)).exchange hpa hpb

end Aligns

/-! ## Round the sequence space -/

namespace TxControl

variable {t : TxControl} {params : PcrParams}

/-- Below both thresholds the head of the queue goes out, and the sweep starts over. -/
theorem poll_fresh (hm : t.method = .Pcr params) (hf : t.forced params = false) {sio : UInt8}
    {sif : List UInt8} {rest : List Payload} (hp : t.pending = (sio, sif) :: rest) :
    t.poll = (⟨seqAdd t.lastFsn 1, t.fib, .Msu sio sif⟩,
      { t.number sio sif rest with pcrCursor := 0 }) := by
  rw [poll, hm]
  show t.pollPcr params = _
  rw [pollPcr, if_neg (by simp [hf])]
  split
  · next hp' =>
    rw [hp] at hp'
    cases hp'
    rfl
  · next hp' =>
    rw [hp] at hp'
    cases hp'

/-- With nothing waiting, a sweep that starts over sends the oldest MSU. -/
theorem Tracks.poll_oldest {sent : List Payload} {base : ℕ} (h : t.Tracks sent base)
    (hm : t.method = .Pcr params) (hp : t.pending = []) (hc : t.pcrCursor = 0) {q : Payload}
    (hq : sent[base]? = some q) : t.poll.1 = ⟨seqOf base, t.fib, .Msu q.1 q.2⟩ := by
  have hpos : base + t.wrappedCursor = base := by
    rw [wrappedCursor, hc]
    split <;> rfl
  have hpolled := t.polled
  generalize t.pollIndex = o, t.poll = r at hpolled ⊢
  cases hpolled with
  | basicAgain hm' | basicFresh hm' | basicFill hm' => rw [hm] at hm'; cases hm'
  | pcrFresh hm' hf hp' => rw [hp] at hp'; cases hp'
  | pcrAgain hm' hidle hi =>
    obtain ⟨q', hq', heq⟩ := h.resend hi
    rw [hpos] at hq' heq
    obtain rfl := Option.some.inj (hq.symm.trans hq')
    exact heq
  | pcrFill hm' hidle hu =>
    have hlen := h.unacked_length
    have hlt := (List.getElem?_eq_some_iff.mp hq).1
    rw [hu, List.length_nil] at hlen
    omega

/-- The octets of numbered payloads. -/
theorem octets_numbered (k : ℕ) (ps : List Payload) :
    octets (numbered k ps) = (ps.map fun p => 1 + p.2.length).sum := by
  conv_rhs => rw [← map_payload_numbered k ps, List.map_map]
  rfl

end TxControl

namespace LinkPair

variable {pa : PcrParams} {p : LinkPair} {q : Payload} {n : ℕ}

/-- In service, undisturbed, and nothing in flight. -/
structure Idle (p : LinkPair) : Prop where
  clearA : p.a.link.Undisturbed
  clearB : p.b.link.Undisturbed
  servingA : p.a.link.state = .InService
  servingB : p.b.link.state = .InService
  outA : p.a.out = []
  outB : p.b.out = []

theorem isCall_pollTransmit : Op.pollTransmit.isCall = true := rfl

theorem isCall_submitMsu (q : Payload) : (Op.submitMsu q.1 q.2).isCall = true := rfl

/-- A poll at `a`, and the delivery of what it sends. -/
def carry : List DuplexOp := [.atA (.call .pollTransmit isCall_pollTransmit), .atA .deliver]

/-- **The awaited MSU arrives.** -/
theorem Idle.carry (h : p.Idle) {i recv : ℕ} {fib : Bool} (hfit : Fits q)
    (hframe : p.a.link.tx.poll.1 = ⟨seqOf i, fib, .Msu q.1 q.2⟩)
    (hawait : p.b.link.rx.lastReceived = seqOf (recv + 127)) (hi : i % 128 = recv % 128) :
    let p' := carry.foldl move p
    p'.Idle ∧ p'.a.link.tx = p.a.link.tx.poll.2 ∧ p'.a.submitted = p.a.submitted ∧
      p'.b.delivered = p.b.delivered ++ [q] ∧ p'.b.link.rx.lastReceived = seqOf i := by
  intro p'
  obtain ⟨su, hsu, hsent⟩ := h.clearA.pollTransmit_sent (by simp [h.servingA])
  obtain ⟨-, hunit, htx⟩ := hsent.resolve_right (by simp [h.servingA, Mtp2State.ready])
  rw [hframe, p.a.link.frameUnit_msu hfit] at hunit
  have hout : p.a.poll.out = [su] := by rw [p.a.poll_eq, h.outA, hsu]; rfl
  have hp' : p' = ⟨p.a.poll.sent, p.b.act (.handleSu su)⟩ :=
    @moveA_deliver ⟨p.a.poll, p.b⟩ su [] hout
  have htr : su.traffic = some (⟨p.a.link.rx.bsn, p.a.link.rx.bib, seqOf i, fib⟩, some q) := by
    rw [hunit]
    rfl
  have hund : (Op.handleSu su).undisturbed = true := by rw [hunit]; rfl
  obtain ⟨hserve, -, hrx, hpay⟩ := h.clearB.handleSu_ready htr (by rw [h.servingB]; rfl)
  -- the FSN is the awaited one, whichever position it stands for
  have hchecked : p.b.link.checked (seqOf i) (some q) =
      (some (.Accepted q.1 q.2),
        { p.b.link.rx with lastReceived := seqOf i, nackPending := false }) := by
    rw [Mtp2Link.checked]
    dsimp only
    rw [if_neg (by simp [h.servingB]), RxControl.onMsu_awaited q.1 q.2 hawait hi]
  rw [hchecked] at hrx hpay
  rw [hp']
  have hpoll : (p.a.link.step .pollTransmit).Undisturbed := h.clearA.step rfl
  have hheard : (p.b.link.step (.handleSu su)).Undisturbed := h.clearB.step hund
  refine ⟨⟨hpoll, hheard, ?_, hserve, ?_, h.outB⟩, htx, ?_, ?_, hrx ▸ rfl⟩
  · exact p.a.link.pollTransmit_state.trans h.servingA
  · rw [Endpoint.sent, hout]; rfl
  · rw [Endpoint.sent, p.a.poll_eq]
  · rw [Endpoint.act, hpay]; rfl

/-- A submission lengthens the queue, and nothing else. -/
theorem Idle.submit (h : p.Idle) (hfit : Fits q) :
    (LinkPair.mk (p.a.submit q.1 q.2) p.b).Idle ∧
      (p.a.submit q.1 q.2).link.tx = p.a.link.tx.submit q.1 q.2 ∧
      (p.a.submit q.1 q.2).submitted = p.a.submitted ++ [q] := by
  have hsub := ((p.a.submit_cases q.1 q.2).resolve_right fun hunfit => hunfit.1 hfit).2
  have hlink : (p.a.submit q.1 q.2).link = p.a.link.step (.submitMsu q.1 q.2) :=
    p.a.call_link (.submitMsu q.1 q.2)
  refine ⟨⟨?_, h.clearB, ?_, h.servingB, ?_, h.outB⟩, ?_, ?_⟩
  · show (p.a.submit q.1 q.2).link.Undisturbed
    rw [hlink]
    exact h.clearA.step rfl
  · rw [hsub]
    exact h.servingA
  · rw [hsub]
    exact h.outA
  · rw [hsub]
  · rw [hsub]

/-- The same MSU has been delivered `n` times, and nothing is acknowledged. -/
structure Overrun (pa : PcrParams) (q : Payload) (n : ℕ) (p : LinkPair) : Prop extends Idle p where
  method : p.a.link.tx.method = .Pcr pa
  tracks : p.a.link.tx.Tracks (List.replicate n q) 0
  pending : p.a.link.tx.pending = []
  cursor : n ≠ 0 → p.a.link.tx.pcrCursor = 0
  awaits : p.b.link.rx.lastReceived = seqOf (n + 127)
  submitted : p.a.submitted.length = n
  delivered : p.b.delivered.length = n

/-- One more MSU. -/
def burst (q : Payload) : List DuplexOp :=
  .atA (.call (.submitMsu q.1 q.2) (isCall_submitMsu q)) :: carry

namespace Overrun

/-- **One more MSU is delivered and not acknowledged**, as long as the thresholds let it out. -/
theorem burst (h : p.Overrun pa q n) (hfit : Fits q) (hn1 : n < pa.n1)
    (hn2 : n * (1 + q.2.length) < pa.n2) : ((burst q).foldl move p).Overrun pa q (n + 1) := by
  -- what the submission leaves
  obtain ⟨hidle, htx, hsub⟩ := h.toIdle.submit hfit
  set x := p.a.submit q.1 q.2 with hx
  have hm : x.link.tx.method = .Pcr pa := by rw [htx]; exact h.method
  have hp : x.link.tx.pending = [q] := by
    rw [htx, TxControl.submit, h.pending]
    rfl
  have ht : x.link.tx.Tracks (List.replicate n q) 0 := by
    rw [htx]
    exact ⟨h.tracks.base_le, h.tracks.lastFsn, h.tracks.unacked⟩
  -- `n` MSUs of this length are below both thresholds
  have hforced : x.link.tx.forced pa = false := by
    rw [TxControl.forced_eq_false_iff, ht.unacked_length, TxControl.unackedOctets_eq, ht.unacked,
      List.drop_zero, TxControl.octets_numbered, List.map_replicate, List.sum_replicate,
      smul_eq_mul, List.length_replicate]
    exact ⟨hn1, hn2⟩
  have hpoll := TxControl.poll_fresh hm hforced hp
  have hframe : x.link.tx.poll.1 = ⟨seqOf n, x.link.tx.fib, .Msu q.1 q.2⟩ := by
    rw [hpoll, ht.nextFsn, List.length_replicate]
  -- what the delivery leaves
  obtain ⟨hidle', htx', hs, hd, ha⟩ := hidle.carry hfit hframe h.awaits rfl
  have hnum := ht.number q.1 q.2 []
  rw [← List.replicate_succ'] at hnum
  rw [hpoll] at htx'
  show LinkPair.Overrun pa q (n + 1) (carry.foldl move ⟨x, p.b⟩)
  refine ⟨hidle', ?_, ?_, ?_, fun _ => ?_, ?_, ?_, ?_⟩
  · exact (congrArg TxControl.method htx').trans hm
  · rw [htx']
    exact ⟨hnum.base_le, hnum.lastFsn, hnum.unacked⟩
  · exact congrArg TxControl.pending htx'
  · exact congrArg TxControl.pcrCursor htx'
  · rw [ha, show n + 1 + 127 = n + 128 by omega, seqOf_add_modulus]
  · rw [hs, hsub, List.length_append, h.submitted, List.length_singleton]
  · rw [hd, List.length_append, h.delivered, List.length_singleton]

/-- **With 128 MSUs out, the oldest is taken for the next.** -/
theorem excess (h : p.Overrun pa q 128) (hfit : Fits q) :
    (carry.foldl move p).a.submitted.length < (carry.foldl move p).b.delivered.length := by
  -- position 0 has the FSN of position 128
  have hframe := h.tracks.poll_oldest h.method h.pending (h.cursor (by decide))
    (List.getElem?_replicate_of_lt (by decide))
  obtain ⟨-, -, hs, hd, -⟩ := h.toIdle.carry hfit hframe h.awaits (by decide)
  rw [hs, hd, List.length_append, h.submitted, h.delivered]
  exact Nat.lt_succ_self _

/-- The bursts from a direction that has carried nothing. -/
theorem bursts (h : p.Overrun pa q 0) (hfit : Fits q) {K : ℕ}
    (hout : ¬ pa.Within K q.2.length) (hn : n ≤ K + 1) :
    ((List.replicate n (LinkPair.burst q)).flatten.foldl move p).Overrun pa q n := by
  obtain ⟨hn1, hn2⟩ := not_or.mp hout
  induction n with
  | zero => exact h
  | succ n ih =>
    have hmul : n * (1 + q.2.length) ≤ K * (1 + q.2.length) :=
      Nat.mul_le_mul_right _ (Nat.le_of_succ_le_succ hn)
    rw [List.replicate_succ', List.flatten_append, List.foldl_append, List.flatten_singleton]
    exact (ih (by omega)).burst hfit (by omega) (by omega)

end Overrun

/-! ## What the thresholds decide -/

variable {pb : PcrParams} {ca cb : Mtp2Config} {K m : ℕ}

/-- Two links that align come into service with nothing sent. -/
theorem overrun_zero (halign : Aligns ca cb) (ha : ca.method = .Pcr pa) (hb : cb.method = .Pcr pb)
    (q : Payload) : ∃ n, (afterExchange^[n] (started ca cb)).Overrun pa q 0 := by
  refine ⟨2 + max ca.provingPeriod cb.provingPeriod, ?_⟩
  obtain ⟨-, ⟨hina, -⟩, hinb, -⟩ :=
    halign.together (p := .fresh ca cb) (down_fresh ca) (down_fresh cb)
  have h := halign.abreast ha hb (Nat.le_refl _)
  obtain ⟨htracks, hp, hawait, hdel⟩ := h.controllers
  -- nothing is called after the first round
  have hcalls : startTogether (2 + max ca.provingPeriod cb.provingPeriod) = ([], []) := by
    rw [show 2 + max ca.provingPeriod cb.provingPeriod =
      1 + max ca.provingPeriod cb.provingPeriod + 1 by omega]
    rfl
  rw [Nat.zero_add] at hina hinb
  rw [hcalls] at h
  refine ⟨⟨h.clearA, h.clearB, ?_, ?_, h.outA, h.outB⟩, h.a.bounded.method, htracks, hp,
    fun hne => absurd rfl hne, hawait, ?_, ?_⟩
  · rw [h.linkA]
    exact hina
  · rw [h.linkB]
    exact hinb
  · rw [h.submitted, List.length_nil]
  · rw [hdel, List.length_nil]

/-- What goes out in an exchange or a burst arrives. -/
theorem exchange_lossless (m : ℕ) :
    ∀ op ∈ exchange, op.submitsFrom m = true ∧ op.lossless = true := by
  simp [exchange, DuplexOp.submitsFrom, DuplexOp.lossless]

theorem burst_lossless (h : m ≤ q.2.length) :
    ∀ op ∈ burst q, op.submitsFrom m = true ∧ op.lossless = true := by
  simp [burst, carry, DuplexOp.submitsFrom, DuplexOp.lossless, h]

/-- **Thresholds above `K` let `K + 1` MSUs out before the first acknowledgement**, and nothing is
lost. -/
theorem exists_overrun (halign : Aligns ca cb) (ha : ca.method = .Pcr pa)
    (hb : cb.method = .Pcr pb) (hout : ¬ pa.Within K m) {q : Payload} (hfit : Fits q)
    (hq : q.2.length = m) :
    ∃ ops : List DuplexOp, (∀ op ∈ ops, op.submitsFrom m = true ∧ op.lossless = true) ∧
      (ops.foldl move (started ca cb)).Overrun pa q (K + 1) := by
  obtain ⟨n, h⟩ := overrun_zero halign ha hb q
  have hover := h.bursts hfit (by rwa [hq]) (Nat.le_refl (K + 1))
  rw [iterate_afterExchange, ← List.foldl_append] at hover
  refine ⟨_, fun op hop => ?_, hover⟩
  rcases List.mem_append.mp hop with hop | hop
  · obtain ⟨_, hmem, hop⟩ := List.mem_flatten.mp hop
    rw [List.eq_of_mem_replicate hmem] at hop
    exact exchange_lossless m op hop
  · obtain ⟨_, hmem, hop⟩ := List.mem_flatten.mp hop
    rw [List.eq_of_mem_replicate hmem] at hop
    exact burst_lossless (Nat.le_of_eq hq.symm) op hop

/-- There is an MSU with an SIF of `m` octets. -/
theorem exists_fits (hm : m + 1 ≤ maxMsuBody) : ∃ q : Payload, Fits q ∧ q.2.length = m := by
  refine ⟨(5, List.replicate m 0), ?_, List.length_replicate⟩
  show 1 + (List.replicate m (0 : UInt8)).length ≤ maxMsuBody
  rw [List.length_replicate]
  omega

/-- **The thresholds decide whether a direction under PCR is safe.** For two links that align,
started once, and SIFs of at least `m` octets: with `n1` at most 127 or `n2` at most `127 * (1 + m)`
every run, with any losses and damage, hands over in order and loses nothing; with both above, a run
without any loss or damage hands over more MSUs than were submitted. -/
theorem pcr_safe_thresholds (halign : Aligns ca cb) (ha : ca.method = .Pcr pa)
    (hb : cb.method = .Pcr pb) (hm : m + 1 ≤ maxMsuBody) :
    let run (ops : List DuplexOp) := ops.foldl move (started ca cb)
    (pa.n1 ≤ 127 ∨ pa.n2 ≤ 127 * (1 + m) →
        ∀ ops, (∀ op ∈ ops, op.submitsFrom m = true) → Faithful (run ops).a (run ops).b) ∧
      (¬ (pa.n1 ≤ 127 ∨ pa.n2 ≤ 127 * (1 + m)) →
        ∃ ops, (∀ op ∈ ops, op.submitsFrom m = true ∧ op.lossless = true) ∧
          (run ops).a.submitted.length < (run ops).b.delivered.length) := by
  intro run
  refine ⟨fun hin ops hops => ?_, fun hout => ?_⟩
  · obtain ⟨w, hw⟩ := (Guarded.run ha hb hin (Nat.le_refl 127) hops).streams
    exact hw.faithful
  · obtain ⟨q, hfit, hq⟩ := exists_fits hm
    obtain ⟨ops, hops, h⟩ := exists_overrun halign ha hb hout hfit hq
    have hexcess := h.excess hfit
    rw [← List.foldl_append] at hexcess
    refine ⟨ops ++ carry, fun op hop => ?_, hexcess⟩
    rcases List.mem_append.mp hop with hop | hop
    · exact hops op hop
    · exact burst_lossless (Nat.le_of_eq hq.symm) op (List.mem_cons_of_mem _ hop)

/-- SIFs of two octets, as on the wire: with `n2` of 381 the sequence space is enough for any `n1`,
and with 382 it is not. -/
theorem pcr_safe_thresholds_wire :
    let config (n2 : ℕ) : Mtp2Config := { method := .Pcr ⟨200, n2⟩, t4ProvingNormal := 1 }
    (∀ ops : List DuplexOp, (∀ op ∈ ops, op.submitsFrom 2 = true) →
        Faithful (ops.foldl move (started (config 381) (config 381))).a
          (ops.foldl move (started (config 381) (config 381))).b) ∧
      ∃ ops : List DuplexOp, (∀ op ∈ ops, op.submitsFrom 2 = true ∧ op.lossless = true) ∧
        (ops.foldl move (started (config 382) (config 382))).a.submitted.length <
          (ops.foldl move (started (config 382) (config 382))).b.delivered.length := by
  intro config
  have h381 : Aligns (config 381) (config 381) := aligns_self rfl (by decide) (by decide)
  have h382 : Aligns (config 382) (config 382) := aligns_self rfl (by decide) (by decide)
  exact ⟨(pcr_safe_thresholds h381 rfl rfl (by decide)).1 (by decide),
    (pcr_safe_thresholds h382 rfl rfl (by decide)).2 (by decide)⟩

/-- Where T7 does not expire within an exchange, an idle pair is calm. -/
theorem Idle.calm (h : p.Idle) (ha : 3 ≤ p.a.link.config.t7ExcessiveDelay.toNat)
    (hb : 3 ≤ p.b.link.config.t7ExcessiveDelay.toNat) : p.Calm where
  a := ⟨h.clearA.up h.servingA ha, h.servingA, h.clearA.remoteProcessorOutage⟩
  b := ⟨h.clearB.up h.servingB hb, h.servingB, h.clearB.remoteProcessorOutage⟩
  outA := h.outA
  outB := h.outB

/-- What was handed over and is not acknowledged is ahead of the transmitter. -/
theorem Overrun.lead (h : p.Overrun pa q n) :
    p.a.lead p.b = n ∧ p.a.link.tx.unacked.length = n := by
  have hu : p.a.link.tx.unacked.length = n := by
    rw [h.tracks.unacked_length, List.length_replicate, Nat.sub_zero]
  refine ⟨?_, hu⟩
  rw [Endpoint.lead, hu, h.delivered, h.submitted, h.pending, List.length_nil]
  omega

end LinkPair

end Mtp2
