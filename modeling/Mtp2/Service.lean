import Mtp2.BasicPair
import Mtp2.Drain
import Mtp2.Lib.Fifo

/-!
# MTP2 — the service a Basic link gives

Two links under the Basic method, in service with nothing in the way, exchange units without losses
while MTP3 goes on submitting at both ends. Each direction is a queue that serves one a round, and
the buffer behind it never holds more than the MSU sent last.

* **`Relays.served`** — one exchange of a direction;
* **`basic_serves`** — any number of rounds, from any state the MSUs have got through to.
-/

namespace Mtp2

open SlidingWindow (State Intact)

/-! ## Submissions -/

namespace Endpoint

variable {x y x' y' : Endpoint}

/-- A direction, as the queue it serves. -/
def server (x y : Endpoint) : Fifo.State Payload := ⟨x.link.tx.pending, y.delivered⟩

def submits (x : Endpoint) (ps : List Payload) : Endpoint :=
  ps.foldl (fun x p => x.submit p.1 p.2) x

/-- What submissions change: the queue, and the log of what was submitted. -/
structure Submitted (x : Endpoint) (ps : List Payload) (x' : Endpoint) : Prop where
  flowing : x'.link.Flowing
  unacked : x'.link.tx.unacked = x.link.tx.unacked
  pending : x'.link.tx.pending = x.link.tx.pending ++ ps
  submitted : x'.submitted = x.submitted ++ ps
  out : x'.out = x.out

/-- The MSUs that `submit_msu` accepts. -/
def accepted (ps : List Payload) : List Payload := ps.filter fun p => 1 + p.2.length ≤ maxMsuBody

theorem accepted_fits {p : Payload} (h : Fits p) : accepted [p] = [p] := by
  have hle : 1 + p.2.length ≤ maxMsuBody := h
  simp [accepted, hle]

theorem accepted_unfit {p : Payload} (h : ¬ Fits p) : accepted [p] = [] := by
  have hlt : ¬ 1 + p.2.length ≤ maxMsuBody := h
  simp [accepted, hlt]

theorem accepted_cons (p : Payload) (ps : List Payload) :
    accepted (p :: ps) = accepted [p] ++ accepted ps := List.filter_append (p := _) [p] ps

/-- A submission keeps the end in service, and adds to its queue what it accepts. -/
theorem submits_one (h : x.link.Flowing) (p : Payload) :
    x.Submitted (accepted [p]) (x.submit p.1 p.2) := by
  have hflow : (x.submit p.1 p.2).link.Flowing := by
    have hlink : (x.submit p.1 p.2).link = x.link.step (.submitMsu p.1 p.2) :=
      x.call_link (.submitMsu p.1 p.2)
    have hord : (Op.submitMsu p.1 p.2).ordinary = true := rfl
    obtain ⟨hup, hs, -, hro, -⟩ := h.toUp.ordinary hord
    rw [hlink]
    exact ⟨hup, hs.trans h.serving, hro.trans h.remote⟩
  -- accepted at the end of the queue, or rejected and not logged
  rcases x.submit_cases p.1 p.2 with ⟨hfit, heq⟩ | ⟨hfit, heq⟩ <;> rw [heq] at hflow ⊢
  · rw [accepted_fits hfit]
    exact ⟨hflow, rfl, rfl, rfl, rfl⟩
  · rw [accepted_unfit hfit]
    exact ⟨hflow, rfl, (List.append_nil _).symm, (List.append_nil _).symm, rfl⟩

/-- So do any number of them. -/
theorem submits_all (h : x.link.Flowing) (ps : List Payload) :
    x.Submitted (accepted ps) (x.submits ps) := by
  induction ps generalizing x with
  | nil => exact ⟨h, rfl, (List.append_nil _).symm, (List.append_nil _).symm, rfl⟩
  | cons p ps ih =>
    have hone := submits_one h p
    have hrest := ih hone.flowing
    rw [accepted_cons]
    exact {
      flowing := hrest.flowing
      unacked := hrest.unacked.trans hone.unacked
      pending := hrest.pending.trans (by rw [hone.pending, List.append_assoc])
      submitted := hrest.submitted.trans (by rw [hone.submitted, List.append_assoc])
      out := hrest.out.trans hone.out }

/-- With nothing in flight, a direction that misses nothing is its queue and its log. -/
theorem Piped.all (h : x.Piped y) (hy : y.link.Flowing) (hout : x.out = []) :
    x.submitted = (x.server y).served ++ (x.server y).queue := by
  rw [h (by rw [hy.serving]; simp), inFlight, hout]
  exact congrArg (· ++ _) (List.append_nil _)

/-- What a direction shows of a number of rounds: those of its server, and a buffer with nothing but
the MSU sent last. -/
structure Served (x y x' y' : Endpoint) (arrivals : List (List Payload)) : Prop where
  server : x'.server y' = (x.server y).run arrivals
  unacked : x.link.tx.unacked.length ≤ 64 →
    x'.link.tx.unacked.length ≤ if arrivals = [] then 64 else 1

theorem Served.none (x y : Endpoint) : Served x y x y [] := ⟨rfl, id⟩

theorem Served.snoc {x'' y'' : Endpoint} {as : List Payload} {arrivals : List (List Payload)}
    (h : Served x y x' y' arrivals) (h' : Served x' y' x'' y'' [as]) :
    Served x y x'' y'' (arrivals ++ [as]) where
  server := by
    rw [h'.server, h.server]
    exact List.foldl_append.symm
  unacked hnear := by
    have hnear' := h.unacked hnear
    rw [if_neg (List.append_ne_nil_of_right_ne_nil _ (List.cons_ne_nil _ _))]
    refine h'.unacked (Nat.le_trans hnear' ?_)
    -- after a round at most one MSU is left, within the 64 the next round needs
    split <;> omega

end Endpoint

/-! ## One exchange of a direction -/

namespace Relays

variable {x y x' : Endpoint} {w : State Payload Unit}

/-- **One exchange of a direction**: the head of the queue goes out, and everything before it is
acknowledged if the other end is in sight. -/
theorem served (h : Relays x y w) (ho : y.link.state ≠ .OutOfService) (hout : x.out = [])
    (hx' : y.Turned x x') :
    x'.link.tx.pending = x.link.tx.pending.tail ∧
      (x.link.tx.unacked.length ≤ 64 → x'.link.tx.unacked.length ≤ 1) := by
  obtain ⟨W, hw⟩ := h.inv
  have hlen := h.rel.tracks.unacked_length
  -- nothing is in flight, so the other end has all that was numbered
  have hrecv : w.recv = w.sent.length := by
    have hdata : w.data = [] := by
      have heq := h.rel.data_eq
      rw [Endpoint.frames, hout] at heq
      exact List.map_eq_nil_iff.mp heq.symm
    have hall := congrArg List.length (h.intact ho).sent
    rw [State.inFlight, hdata, List.filterMap_nil, List.append_nil, List.length_take] at hall
    have := hw.recv_le
    omega
  have hbsn : y.link.rx.bsn = seqOf (w.sent.length + 127) := by rw [← hrecv]; exact h.rel.awaits
  have hbase := hw.base_le
  -- what the acknowledgement leaves of a buffer that runs up to `sent'`
  have hfree {t : TxControl} {sent' : List Payload} (ht : t.Tracks sent' w.base)
      (hs : w.sent.length ≤ sent'.length) (hs' : sent'.length ≤ w.sent.length + 1)
      (hnear : x.link.tx.unacked.length ≤ 64) :
      (t.onAck y.link.rx.bsn y.link.rx.bib).unacked.length ≤ 1 := by
    rw [TxControl.onAck_unacked, List.length_drop, hbsn,
      ht.freedBy_length (by omega) (by omega) hs, if_pos (by omega), ht.unacked_length]
    omega
  have hpoll := h.tx.poll_eq
  unfold TxControl.pollNew at hpoll
  rw [hx'.tx, TxControl.onAck_pending]
  cases hq : x.link.tx.pending with
  -- an empty queue: a FISU goes out, and the buffer only shrinks
  | nil =>
    rw [hq] at hpoll
    rw [hpoll]
    exact ⟨hq, hfree h.rel.tracks (Nat.le_refl _) (Nat.le_succ _)⟩
  -- the head of the queue goes out, and is all the acknowledgement leaves
  | cons p rest =>
    rw [hq] at hpoll
    rw [hpoll]
    exact ⟨rfl, hfree (h.rel.tracks.number p.1 p.2 rest) (by simp) (by simp)⟩

end Relays

/-! ## Rounds -/

namespace LinkPair

/-- MTP3 submits at either end. -/
def submissions (r : List Payload × List Payload) : List DuplexOp :=
  (r.1.map fun p => .atA (.call (.submitMsu p.1 p.2) rfl)) ++
    r.2.map fun p => .atB (.call (.submitMsu p.1 p.2) rfl)

/-- A round: submissions, and then both ends exchange units. -/
def round (p : LinkPair) (r : List Payload × List Payload) : LinkPair :=
  (submissions r ++ exchange).foldl move p

variable {p : LinkPair} {r : List Payload × List Payload}

/-- The submissions at either end do not meet. -/
theorem submissions_eq (p : LinkPair) (r : List Payload × List Payload) :
    (submissions r).foldl move p = ⟨p.a.submits r.1, p.b.submits r.2⟩ := by
  have ha (p : LinkPair) (ps : List Payload) :
      (ps.map fun q => DuplexOp.atA (.call (.submitMsu q.1 q.2) rfl)).foldl move p =
        ⟨p.a.submits ps, p.b⟩ := by
    induction ps generalizing p with
    | nil => rfl
    | cons q ps ih => exact ih _
  have hb (p : LinkPair) (ps : List Payload) :
      (ps.map fun q => DuplexOp.atB (.call (.submitMsu q.1 q.2) rfl)).foldl move p =
        ⟨p.a, p.b.submits ps⟩ := by
    induction ps generalizing p with
    | nil => rfl
    | cons q ps ih => exact ih _
  rw [submissions, List.foldl_append, ha, hb]

theorem getsThrough_call (p : LinkPair) (op : Op) (own : op.isCall = true) :
    p.GetsThrough (.atA (.call op own)) ∧ p.GetsThrough (.atB (.call op own)) := by
  refine ⟨fun hm => ?_, fun hm => ?_⟩ <;> cases hm

theorem submissions_along : Run.Along move GetsThrough p (submissions r) := by
  refine Run.Along.of_forall fun op hop s => ?_
  rcases List.mem_append.mp hop with hop | hop
  · obtain ⟨q, -, rfl⟩ := List.mem_map.mp hop
    exact (getsThrough_call s _ rfl).1
  · obtain ⟨q, -, rfl⟩ := List.mem_map.mp hop
    exact (getsThrough_call s _ rfl).2

/-- No exchange between two ends in service misses an MSU. -/
theorem Calm.exchange_along (h : p.Calm) : Run.Along move GetsThrough p exchange := by
  have hpoll (l : Mtp2Link) : (l.step .pollTransmit).state = l.state := by
    rw [Mtp2Link.step, Mtp2Link.pollTransmit_eq]
  have hheard {p : LinkPair} (hb : p.b.link.state = .InService) : p.misses .deliver = false := by
    rw [misses, hb]
    exact Bool.and_false _
  refine ⟨(getsThrough_call _ _ rfl).1, (getsThrough_call _ _ rfl).2, fun hm => ?_, fun hm => ?_,
    (getsThrough_call _ _ rfl).1, (getsThrough_call _ _ rfl).2, trivial⟩
  · rw [hheard ((hpoll _).trans h.b.serving)] at hm
    cases hm
  · -- a unit of `a` that has arrived leaves `a` as it was
    have ha (p : LinkPair) : (p.moveA .deliver).a.link = p.a.link := by
      cases hout : p.a.out with
      | nil => rw [moveA_deliver_nil hout]
      | cons su rest => rw [moveA_deliver hout]; rfl
    have hserving : ((p.move (.atA (.call .pollTransmit rfl))).move
        (.atB (.call .pollTransmit rfl))).a.link.state = .InService :=
      (hpoll _).trans h.a.serving
    rw [hheard (by rw [← hserving]; exact congrArg _ (ha _))] at hm
    cases hm

end LinkPair

/-- **A direction after submissions and an exchange** that missed nothing. -/
theorem Endpoint.Served.of_turned {x y x₁ y₁ x' y' : Endpoint} {ps : List Payload}
    (hx : x.Submitted ps x₁) (hdir : ∃ w, Relays x₁ y₁ w) (ht : y₁.Turned x₁ x')
    (hpiped : x.Piped y) (hpiped' : x'.Piped y') (hy : y.link.Flowing) (hy₁ : y₁.link.Flowing)
    (hy' : y'.link.Flowing) (hout : x.out = []) (hout' : x'.out = []) :
    Served x y x' y' [ps] := by
  obtain ⟨w, hw⟩ := hdir
  obtain ⟨hqueue, hu⟩ := hw.served (by rw [hy₁.serving]; simp) (hx.out.trans hout) ht
  rw [hx.unacked] at hu
  refine ⟨Fifo.State.round_eq (hqueue.trans (by rw [hx.pending]; rfl)) ?_, hu⟩
  rw [← hpiped'.all hy' hout', ht.submitted, hx.submitted, hpiped.all hy hout, List.append_assoc]

namespace LinkPair

variable {p : LinkPair} {r : List Payload × List Payload}

/-- **A round of the pair** is a round of both servers. -/
theorem Relayed.round_served (h : p.Relayed) (hc : p.Calm) (r : List Payload × List Payload) :
    (p.round r).Relayed ∧ (p.round r).Calm ∧
      Endpoint.Served p.a p.b (p.round r).a (p.round r).b [Endpoint.accepted r.1] ∧
      Endpoint.Served p.b p.a (p.round r).b (p.round r).a [Endpoint.accepted r.2] := by
  have hsa := Endpoint.submits_all hc.a r.1
  have hsb := Endpoint.submits_all hc.b r.2
  -- after the submissions the pair is as calm as before
  have hq : (LinkPair.mk (p.a.submits r.1) (p.b.submits r.2)).Relayed := by
    rw [← submissions_eq]
    exact Run.invariant_along Relayed (fun p op h hop => h.move hop) h submissions_along
  have hcalm : (LinkPair.mk (p.a.submits r.1) (p.b.submits r.2)).Calm :=
    ⟨hsa.flowing, hsb.flowing, hsa.out.trans hc.outA, hsb.out.trans hc.outB⟩
  have hround : p.round r = (LinkPair.mk (p.a.submits r.1) (p.b.submits r.2)).afterExchange := by
    rw [LinkPair.round, List.foldl_append, submissions_eq]
    rfl
  have hrel := Run.invariant_along Relayed (fun p op h hop => h.move hop) hq hcalm.exchange_along
  have hcalm' := hcalm.afterExchange hq.loadedA hq.loadedB
  obtain ⟨hta, htb⟩ := hcalm.turned hq.loadedA hq.loadedB
  rw [hround]
  exact ⟨hrel, hcalm',
    .of_turned hsa hq.ab hta h.piped.1 hrel.piped.1 hc.b hcalm.b hcalm'.b hc.outA hcalm'.outA,
    .of_turned hsb hq.ba htb h.piped.2 hrel.piped.2 hc.a hcalm.a hcalm'.a hc.outB hcalm'.outB⟩

/-- Any number of rounds. -/
theorem Relayed.rounds_served (h : p.Relayed) (hc : p.Calm)
    (rounds : List (List Payload × List Payload)) :
    (rounds.foldl round p).Relayed ∧ (rounds.foldl round p).Calm ∧
      Endpoint.Served p.a p.b (rounds.foldl round p).a (rounds.foldl round p).b
        (rounds.map fun r => Endpoint.accepted r.1) ∧
      Endpoint.Served p.b p.a (rounds.foldl round p).b (rounds.foldl round p).a
        (rounds.map fun r => Endpoint.accepted r.2) := by
  induction rounds using List.reverseRecOn with
  | nil => exact ⟨h, hc, .none _ _, .none _ _⟩
  | append_singleton rounds r ih =>
    obtain ⟨hrel, hc', hab, hba⟩ := ih
    obtain ⟨hrel', hc'', hab', hba'⟩ := hrel.round_served hc' r
    rw [List.foldl_append, List.map_append, List.map_append]
    exact ⟨hrel', hc'', hab.snoc hab', hba.snoc hba'⟩

/-- **A Basic link serves its queues one MSU a round.** In every state of two links under the Basic
method, started once, that the MSUs have got through to, with both ends in service, nothing in the
way and nothing in flight (T7 of three ticks and a SUERM threshold of 1 at least, at both): in any
number of rounds, with any submissions in each, either direction is the queue that serves one a
round. So an MSU with `n` before it is handed over in the next `n + 1` rounds, and the buffer,
unless the receiver was out of sight, holds no more than the MSU sent last. -/
theorem basic_serves {ca cb : Mtp2Config} (ha : ca.method = .Basic) (hb : cb.method = .Basic)
    (ops : List DuplexOp) (hops : Run.Along move GetsThrough (started ca cb) ops)
    (rounds : List (List Payload × List Payload)) :
    let p := ops.foldl move (started ca cb)
    let p' := rounds.foldl round p
    p.Calm → p'.Calm ∧
      Endpoint.Served p.a p.b p'.a p'.b (rounds.map fun r => Endpoint.accepted r.1) ∧
      Endpoint.Served p.b p.a p'.b p'.a (rounds.map fun r => Endpoint.accepted r.2) ∧
      p.b.delivered ++ p.a.link.tx.pending.take rounds.length <+: p'.b.delivered ∧
      p.a.delivered ++ p.b.link.tx.pending.take rounds.length <+: p'.a.delivered := by
  intro p p' hcalm
  have hp : p.Relayed :=
    Run.invariant_along Relayed (fun p op h hop => h.move hop) (.started ha hb) hops
  obtain ⟨-, hc, hab, hba⟩ := hp.rounds_served hcalm rounds
  have hturn {x y x' y' : Endpoint} {arrivals : List (List Payload)}
      (h : Endpoint.Served x y x' y' arrivals) :
      y.delivered ++ x.link.tx.pending.take arrivals.length <+: y'.delivered := by
    have hserved := (x.server y).run_served arrivals
    rwa [← h.server] at hserved
  refine ⟨hc, hab, hba, ?_, ?_⟩
  · have := hturn hab
    rwa [List.length_map] at this
  · have := hturn hba
    rwa [List.length_map] at this

/-- Three rounds: one MSU waited before, one is submitted at either end. -/
theorem basic_serves_three :
    let config : Mtp2Config := { t4ProvingNormal := 1 }
    let ops : List DuplexOp := exchange ++ exchange ++ exchange ++
      [.atA (.call (.submitMsu 5 [1, 2]) rfl)]
    let p := ops.foldl move (started config config)
    let p' := [([(5, [3, 4])], []), ([], [(6, [7])]), ([], [])].foldl round p
    p'.Calm ∧ p'.b.delivered = [(5, [1, 2]), (5, [3, 4])] ∧ p'.a.delivered = [(6, [7])] := by
  intro config ops p p'
  have hm : config.method = .Basic := rfl
  have hops : Run.Along move GetsThrough (started config config) ops := by decide +kernel
  have hp : p.Relayed :=
    Run.invariant_along Relayed (fun p op h hop => h.move hop) (.started hm hm) hops
  have hcalm : p.Calm := ⟨.of_fields hp.backed.agreed.a.represented (by decide +kernel),
    .of_fields hp.backed.agreed.b.represented (by decide +kernel), by decide +kernel,
    by decide +kernel⟩
  have hserves := basic_serves hm hm ops hops
    [([(5, [3, 4])], []), ([], [(6, [7])]), ([], [])] hcalm
  exact ⟨hserves.1, by decide +kernel, by decide +kernel⟩

end LinkPair

end Mtp2
