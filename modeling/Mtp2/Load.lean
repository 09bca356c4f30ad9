import Mtp2.Service

/-!
# MTP2 — a PCR link under load

MTP3 goes on submitting at both ends of a PCR link while the ends exchange units without losses. New
MSUs go out before old ones are repeated, until a threshold forces the repetition, so an MSU that
got lost may have to wait until the buffer is full. It does not wait for ever: the room left in the
buffer is part of a rank that every round lowers and no submission raises.

* **`TxControl.Exchanged.rankTo_le`** — one exchange lowers the rank of what `target` MSUs need;
* **`pcr_never_starves`** — the `n` oldest MSUs held are handed over within `n1 + 3 * n` rounds.
-/

namespace Mtp2

open SlidingWindow (State)

/-! ## The rank -/

namespace TxControl

variable {t t' : TxControl} {b r r' n1 target : ℕ}

/-- What has to happen before the receiver has the first `target` MSUs: the room in the buffer may
be filled first, every MSU of the target takes a frame, and makes room for another when it leaves,
and the sweep may have to finish when nothing is new to acknowledge. -/
def rankTo (t : TxControl) (n1 target b r : ℕ) : ℕ :=
  if target ≤ r then 0
  else n1 - t.unacked.length + 2 * (target - b) + (target - r) + if r = b then t.sweepLeft else 0

/-- With nothing left to do the receiver has the target. -/
theorem le_of_rankTo_eq_zero (h : t.rankTo n1 target b r = 0) : target ≤ r := by
  refine Nat.le_of_not_lt fun hlt => ?_
  rw [rankTo, if_neg (by omega)] at h
  omega

/-- The room of the buffer, and three frames for every MSU of the target. -/
theorem rankTo_le (hbr : b ≤ r) (hu : t.unacked.length ≤ n1) :
    t.rankTo n1 target b r ≤ n1 + 3 * (target - b) := by
  have hsweep := t.sweepLeft_le
  rw [rankTo]
  split
  · exact Nat.zero_le _
  · -- the buffer and the rest of the sweep together stay within `n1`
    split <;> omega

/-- **An exchange lowers the rank**, whatever waits behind the target. -/
theorem Exchanged.rankTo_le (h : t.Exchanged b r t') (ht : t.Taken b r r') (hbr : b ≤ r)
    (hroom : t'.unacked.length ≤ n1)
    (htarget : target ≤ b + t.unacked.length + t.pending.length) :
    t'.rankTo n1 target r r' ≤ t.rankTo n1 target b r - 1 := by
  by_cases hdone : target ≤ r
  · -- the receiver does not go back
    have hr' := h.taken ht
    rw [rankTo, if_pos (by omega)]
    exact Nat.zero_le _
  rw [rankTo, rankTo, if_neg hdone]
  split
  · exact Nat.zero_le _
  cases h with
  | @fresh sio sif rest hp hframe hq hu hc =>
    have hr' := ht.msu _ _ (sio, sif) hframe (by omega) (Nat.le_refl _)
    -- a new MSU takes one place of the room, and the sweep is at the head
    rw [sweepLeft_of_reset hc]
    split at hr' <;> split <;> split <;> omega
  | @again p hw hframe hq hu hc =>
    have hr' := ht.msu _ _ p hframe (by omega) (by omega)
    -- a frame of the sweep is the awaited one, or closer to it, or has freed something
    rcases sweep_cases hw hu hbr hc hr' with ⟨hrb, hr'⟩ | ⟨hrb, hr', hsweep⟩ | ⟨hrb, hsweep⟩
    · rw [if_neg (by omega)]
      omega
    · rw [if_pos hr', if_pos hrb]
      omega
    · -- a freed MSU makes room for one that is not of the target
      rw [hsweep]
      split at hr' <;> split <;> split <;> omega
  | idle hp hu hframe hq hu' =>
    -- there is nothing the receiver could still wait for
    have hnone : t.pending.length = 0 ∧ t.unacked.length = 0 := by
      rw [hp, hu]
      exact ⟨rfl, rfl⟩
    omega

end TxControl

/-! ## Rounds -/

namespace Endpoint

variable {x y : Endpoint}

/-- How many MSUs `x` has let go of. -/
def released (x : Endpoint) : ℕ :=
  x.submitted.length - x.link.tx.unacked.length - x.link.tx.pending.length

/-- Submissions touch nothing but the queue. -/
theorem submits_tx (x : Endpoint) (ps : List Payload) :
    (x.submits ps).link.tx =
      { x.link.tx with pending := x.link.tx.pending ++ accepted ps } := by
  induction ps generalizing x with
  | nil => exact congrArg (fun q => { x.link.tx with pending := q }) (List.append_nil _).symm
  | cons p ps ih =>
    show ((x.submit p.1 p.2).submits ps).link.tx = _
    rw [ih, accepted_cons]
    rcases x.submit_cases p.1 p.2 with ⟨hfit, heq⟩ | ⟨hfit, heq⟩ <;> rw [heq]
    · rw [accepted_fits hfit, ← List.append_assoc]
      rfl
    · rw [accepted_unfit hfit, List.nil_append]

/-- Submissions hand nothing to MTP3. -/
theorem submits_delivered (x : Endpoint) (ps : List Payload) :
    (x.submits ps).delivered = x.delivered := by
  induction ps generalizing x with
  | nil => rfl
  | cons p ps ih =>
    refine (ih (x.submit p.1 p.2)).trans ?_
    rcases x.submit_cases p.1 p.2 with ⟨-, heq⟩ | ⟨-, heq⟩ <;> rw [heq]

/-- What `target` MSUs still need on their way from `x` to `y`. -/
def toGo (x y : Endpoint) (n1 target : ℕ) : ℕ :=
  x.link.tx.rankTo n1 target x.released y.delivered.length

end Endpoint

theorem Streams.released_eq {x y : Endpoint} {w : State Payload Bool} (h : Streams x y w) :
    x.released = w.base := by
  obtain ⟨-, hu, hb, hrs, hsub⟩ := h.counts
  rw [Endpoint.released, hsub]
  omega

/-- **An exchange brings the target closer.** -/
theorem Streams.exchange_toGo {x y x' y' : Endpoint} {w w' : State Payload Bool}
    {params : PcrParams} {target : ℕ} (h : Streams x y w) (hs : x.link.PcrSound params)
    (hn1 : 1 ≤ params.n1) (hn : params.n1 ≤ 127) (hn2 : 1 ≤ params.n2) (hlead : x.lead y ≤ 64)
    (hx' : y.Turned x x') (hy' : x.Turned y y') (h' : Streams x' y' w')
    (hs' : x'.link.PcrSound params) (htarget : target ≤ x.submitted.length) :
    x'.toGo y' params.n1 target ≤ x.toGo y params.n1 target - 1 := by
  obtain ⟨hex, htaken, hbase⟩ := h.exchanged hs hn1 hn hn2 hlead hx' hy' h'
  obtain ⟨hr, hu, hb, hrs, hsub⟩ := h.counts
  obtain ⟨hr', -⟩ := h'.counts
  rw [Endpoint.toGo, Endpoint.toGo, h.released_eq, h'.released_eq, hbase, hr, hr']
  exact hex.rankTo_le htaken hb hs'.bounded.length_le (by omega)

namespace LinkPair

variable {pa pb : PcrParams} {p : LinkPair} {xs : List Payload}

/-- What a round does to a pair whose receiver is in sight, and to what `xs` still need. -/
theorem Draining.round (h : p.Draining pa pb) (hn1 : 1 ≤ pa.n1) (hna : pa.n1 ≤ 127)
    (hn2 : 1 ≤ pa.n2) (hnb : pb.n1 ≤ 127) (hxs : xs <+: p.a.submitted)
    (r : List Payload × List Payload) :
    ((p.round r).Draining pa pb ∧ xs <+: (p.round r).a.submitted) ∧
      (p.round r).a.toGo (p.round r).b pa.n1 xs.length ≤ p.a.toGo p.b pa.n1 xs.length - 1 := by
  obtain ⟨w, v, hd⟩ := h.refines
  have hsa := Endpoint.submits_all h.calm.a r.1
  have hsb := Endpoint.submits_all h.calm.b r.2
  -- the submissions leave everything but the queues as it was
  obtain ⟨w₁, v₁, -, -, hd₁⟩ := hd.run hna hnb (submissions r)
  rw [submissions_eq] at hd₁
  have htx := p.a.submits_tx r.1
  have hdel := p.b.submits_delivered r.2
  have hlead : (p.a.submits r.1).lead (p.b.submits r.2) ≤ 64 := by
    refine Nat.le_trans (Nat.le_of_eq ?_) h.lead
    simp only [Endpoint.lead, hdel, htx, hsa.submitted, List.length_append]
    omega
  have hcalm : (LinkPair.mk (p.a.submits r.1) (p.b.submits r.2)).Calm :=
    ⟨hsa.flowing, hsb.flowing, hsa.out.trans h.calm.outA, hsb.out.trans h.calm.outB⟩
  have hq : (LinkPair.mk (p.a.submits r.1) (p.b.submits r.2)).Draining pa pb :=
    ⟨hcalm, ⟨w₁, v₁, hd₁⟩, hlead⟩
  have hround : p.round r = (LinkPair.mk (p.a.submits r.1) (p.b.submits r.2)).afterExchange := by
    rw [LinkPair.round, List.foldl_append, submissions_eq]
    rfl
  obtain ⟨w', v', -, -, hd'⟩ := hd₁.run hna hnb LinkPair.exchange
  obtain ⟨hta, htb⟩ := hcalm.turned hd₁.a.loaded hd₁.b.loaded
  have hxs₁ : xs <+: (p.a.submits r.1).submitted := by
    rw [hsa.submitted]
    exact hxs.trans (List.prefix_append _ _)
  have hgo : (p.a.submits r.1).toGo (p.b.submits r.2) pa.n1 xs.length =
      p.a.toGo p.b pa.n1 xs.length := by
    have hreleased : (p.a.submits r.1).released = p.a.released := by
      simp only [Endpoint.released, htx, hsa.submitted, List.length_append]
      omega
    rw [Endpoint.toGo, Endpoint.toGo, hreleased, hdel, htx]
    rfl
  rw [hround, ← hgo]
  refine ⟨⟨(hq.afterExchange hn1 hna hn2 hnb).1, ?_⟩, ?_⟩
  · rw [hta.submitted]
    exact hxs₁
  · exact hd₁.ab.exchange_toGo hd₁.a hn1 hna hn2 hlead hta htb hd'.ab hd'.a hxs₁.length_le

/-- **A PCR link starves no MSU.** With `n1` and `n2` at least 1, and in every state of a pair
started once in which both ends are in service with nothing in the way, nothing is in flight (T7 of
three ticks and a SUERM threshold of 1 at least, at both) and `b` has been handed at most 64 MSUs
that are still in the buffer of `a`: in any rounds without losses, with any submissions at both ends
in each, the `n` oldest MSUs that `a` holds are handed over within `n1 + 3 * n` rounds, although new
MSUs go out before lost ones are repeated. -/
theorem pcr_never_starves {ca cb : Mtp2Config} {pa pb : PcrParams} (ha : ca.method = .Pcr pa)
    (hb : cb.method = .Pcr pb) (hn1 : 1 ≤ pa.n1) (hna : pa.n1 ≤ 127) (hn2 : 1 ≤ pa.n2)
    (hnb : pb.n1 ≤ 127) (ops : List DuplexOp) (rounds : List (List Payload × List Payload)) :
    let p := ops.foldl move (started ca cb)
    let p' := rounds.foldl round p
    p.Calm → p.a.lead p.b ≤ 64 → p'.Calm ∧ p'.a.lead p'.b ≤ 64 ∧
      ∀ n, pa.n1 + 3 * n ≤ rounds.length →
        p.a.submitted.take (p.a.released + n) <+: p'.b.delivered := by
  intro p p' hcalm hlead
  obtain ⟨w, v, -, -, hd⟩ := (Duplex.started ha hb).run hna hnb ops
  have hp : p.Draining pa pb := ⟨hcalm, ⟨w, v, hd⟩, hlead⟩
  have hround (xs : List Payload) (q : LinkPair) (r : List Payload × List Payload)
      (h : q.Draining pa pb ∧ xs <+: q.a.submitted) := h.1.round hn1 hna hn2 hnb h.2 r
  have hend : p'.Draining pa pb :=
    (Run.invariant _ (fun q r h => (hround [] q r h).1) ⟨hp, List.nil_prefix⟩ rounds).1
  refine ⟨hend.calm, hend.lead, fun n hn => ?_⟩
  set xs := p.a.submitted.take (p.a.released + n) with hxs
  have hpre : xs <+: p.a.submitted := List.take_prefix _ _
  have hgo : p.a.toGo p.b pa.n1 xs.length ≤ rounds.length := by
    have hbase : p.a.released ≤ p.b.delivered.length := by
      rw [show p.a.released = w.base from hd.ab.released_eq,
        show p.b.delivered.length = w.recv from hd.ab.counts.1]
      exact hd.ab.inv.base_le
    have hlen : xs.length ≤ p.a.released + n := List.length_take_le _ _
    refine Nat.le_trans (TxControl.rankTo_le hbase hd.a.bounded.length_le) ?_
    omega
  obtain ⟨⟨hdrain, hpre'⟩, hz⟩ := @Rank.spent_run _ _
    (fun q => q.Draining pa pb ∧ xs <+: q.a.submitted) (fun q => q.a.toGo q.b pa.n1 xs.length) _
    (fun q r h => (hround xs q r h).1) (fun q r h => (hround xs q r h).2) _ ⟨hp, hpre⟩ _ hgo
  -- the receiver has as many, and has them in the order of submission
  obtain ⟨w', v', hd'⟩ := hdrain.refines
  obtain ⟨hr', -⟩ := hd'.ab.counts
  refine List.prefix_of_prefix_length_le hpre' ?_ (TxControl.le_of_rankTo_eq_zero hz)
  rw [hd'.ab.delivered.submitted, hd'.ab.delivered.accepted]
  exact (List.take_prefix _ _).trans (List.prefix_append _ _)

/-- One MSU is lost, and another is submitted in every round; the buffer holds four. -/
theorem pcr_never_starves_loaded :
    let config : Mtp2Config := { method := .Pcr ⟨4, 100⟩, t4ProvingNormal := 1 }
    let ops : List DuplexOp := exchange ++ exchange ++ exchange ++
      [.atA (.call (.submitMsu 5 [1]) rfl), .atA (.call .pollTransmit rfl), .atA (.lose 0)]
    let p := ops.foldl move (started config config)
    let p' := (List.replicate 7 ([(5, [2])], [])).foldl round p
    [(5, [1])] <+: p'.b.delivered ∧ p.b.delivered = [] ∧ p'.a.link.tx.pending ≠ [] := by
  intro config ops p p'
  have hm : config.method = .Pcr ⟨4, 100⟩ := rfl
  obtain ⟨w, v, -, -, hd⟩ := (Duplex.started hm hm).run (by decide) (by decide) ops
  have hcalm : p.Calm := ⟨.of_fields hd.a.represented (by decide +kernel),
    .of_fields hd.b.represented (by decide +kernel), by decide +kernel, by decide +kernel⟩
  have hlead : p.a.lead p.b ≤ 64 := by decide +kernel
  obtain ⟨-, -, hserves⟩ := pcr_never_starves hm hm (by decide) (by decide) (by decide) (by decide)
    ops (List.replicate 7 ([(5, [2])], [])) hcalm hlead
  have htake : p.a.submitted.take (p.a.released + 1) = [(5, [1])] := by decide +kernel
  have hone := hserves 1 (by decide)
  exact ⟨htake ▸ hone, by decide +kernel, by decide +kernel⟩

end LinkPair

end Mtp2
