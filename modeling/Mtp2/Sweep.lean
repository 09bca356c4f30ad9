import Mtp2.Channel
import Mathlib.Logic.Function.Iterate

/-!
# MTP2 — the cyclic sweep of PCR

When no new MSU is eligible, `poll_pcr` only moves its cursor: it sends the buffer over and
over, from wherever the cursor stands. Two lengths of the buffer contain one full sweep from
the head, whatever the cursor was, and one full sweep in FSN order brings the receiver to
the newest MSU.

* **`exchange_spec`** — one polled and delivered frame of the sweep;
* **`sweep`** — a pass from the cursor to the end of the buffer;
* **`pcr_recovers`** — the whole recovery, for every order of the polls and deliveries.
-/

namespace Mtp2

open SlidingWindow (State)

namespace Channel

/-- One frame polled and delivered. -/
def exchange (c : Channel) : Channel := (c.step .poll).step .deliver

/-! ## Interleaved polls and deliveries -/

/-- Deliver everything in flight. -/
def drain (c : Channel) : Channel := deliver^[c.data.length] c

theorem deliver_data (c : Channel) : c.deliver.data = c.data.tail := by
  unfold deliver
  split
  · next hd => rw [hd, List.tail_nil]
  · next hd => split <;> rw [hd, List.tail_cons]

/-- Over a channel that is not empty a poll and a delivery commute. -/
theorem poll_deliver {c : Channel} (h : c.data ≠ []) :
    (c.step .poll).deliver = c.deliver.step .poll := by
  obtain ⟨f, rest, hd⟩ := List.exists_cons_of_ne_nil h
  simp only [step, deliver, hd, List.cons_append]
  cases f.body <;> rfl

/-- A poll commutes with the delivery of the frames that were in flight before it. -/
theorem poll_deliver_iterate (n : ℕ) {c : Channel} (h : n ≤ c.data.length) :
    deliver^[n] (c.step .poll) = (deliver^[n] c).step .poll := by
  induction n generalizing c with
  | zero => rfl
  | succ n ih =>
    have hne : c.data ≠ [] := by rintro hnil; simp [hnil] at h
    rw [Function.iterate_succ_apply, Function.iterate_succ_apply, poll_deliver hne]
    exact ih (by rw [deliver_data, List.length_tail]; omega)

/-- Polling before the channel is drained is an exchange after. -/
theorem drain_poll (c : Channel) : (c.step .poll).drain = c.drain.exchange := by
  have hlen : (c.step .poll).data.length = c.data.length + 1 := by
    simp [step]
  rw [drain, hlen, Function.iterate_succ_apply', poll_deliver_iterate _ (Nat.le_refl _)]
  rfl

/-- A delivery is part of draining. -/
theorem drain_deliver (c : Channel) : c.deliver.drain = c.drain := by
  by_cases hd : c.data = []
  · have : c.deliver = c := by simp [deliver, hd]
    rw [this]
  · have hlen : c.data.length = c.deliver.data.length + 1 := by
      rw [deliver_data, List.length_tail, Nat.sub_add_cancel (List.length_pos_iff.mpr hd)]
    rw [drain, drain, hlen, Function.iterate_succ_apply]

/-- Over polls and deliveries in any order, what is delivered in the end is what polling and
delivering one frame at a time delivers. -/
theorem drain_run {ops : List ChannelOp} (hops : ∀ op ∈ ops, op = .poll ∨ op = .deliver)
    (c : Channel) : (ops.foldl step c).drain = exchange^[ops.count .poll] c.drain := by
  induction ops generalizing c with
  | nil => rfl
  | cons op ops ih =>
    rw [List.foldl_cons, ih fun o ho => hops o (List.mem_cons_of_mem _ ho)]
    rcases hops op List.mem_cons_self with rfl | rfl
    · rw [drain_poll, List.count_cons_self, Function.iterate_succ_apply]
    · rw [List.count_cons_of_ne (by decide)]
      congr 1
      exact drain_deliver c

/-! ## One frame of the sweep -/

/-- No new MSU may go out: none is waiting, or the N1 / N2 threshold is reached. -/
def Idle (t : TxControl) (params : PcrParams) : Prop := t.forced params = true ∨ t.pending = []

/-- An idle poll over a non-empty buffer sends the entry at the cursor. -/
theorem poll_idle {t : TxControl} {params : PcrParams} (hm : t.method = .Pcr params)
    (hidle : Idle t params) (hu : t.unacked ≠ []) :
    t.poll = (t.resend (t.unacked.get ⟨t.wrappedCursor, TxControl.wrappedCursor_lt hu⟩),
      { t with pcrCursor := t.wrappedCursor + 1 }) := by
  have hcyc : t.poll = t.pollCyclic := by
    rw [TxControl.poll, hm]
    show t.pollPcr params = _
    unfold TxControl.pollPcr
    split
    · rfl
    · next hf =>
      rw [hidle.resolve_left hf]
  rw [hcyc, TxControl.pollCyclic, dif_neg hu]
  rfl

/-- Where the receiver stands, read off the logs: it has accepted a prefix of the MSUs that
were ever numbered, at least those removed and at most those buffered. -/
theorem Windowed.view {c : Channel} {W : ℕ} (h : c.Windowed W) :
    c.accepted = (c.removed ++ c.tx.unacked.map BufferedMsu.payload).take c.accepted.length ∧
      c.removed.length ≤ c.accepted.length ∧
      c.accepted.length ≤ c.removed.length + c.tx.unacked.length ∧
      c.rx.lastReceived = seqOf (c.accepted.length + 127) ∧
      c.tx.lastFsn = seqOf (c.removed.length + c.tx.unacked.length + 127) ∧
      ∀ i (hi : i < c.tx.unacked.length), c.tx.unacked[i].fsn = seqOf (c.removed.length + i) := by
  obtain ⟨w, hrel, hw, hlog⟩ := h
  have hsent : c.removed ++ c.tx.unacked.map BufferedMsu.payload = w.sent := by
    rw [hlog.removed, hrel.tracks.unacked, map_payload_numbered, List.take_append_drop]
  have hacc : c.accepted.length = w.recv := by
    rw [hlog.accepted, List.length_take, Nat.min_eq_left hw.recv_le]
  have hrem : c.removed.length = w.base := by
    rw [hlog.removed, List.length_take, Nat.min_eq_left hrel.tracks.base_le]
  have hbuf : w.base + c.tx.unacked.length = w.sent.length := by
    rw [hrel.tracks.unacked_length, Nat.add_sub_cancel' hrel.tracks.base_le]
  rw [hsent, hacc]
  refine ⟨hlog.accepted, hrem ▸ hw.base_le, ?_, hrel.awaits, ?_, fun i hi => ?_⟩
  · rw [hrem, hbuf]; exact hw.recv_le
  · rw [hrem, hbuf]; exact hrel.tracks.lastFsn
  obtain ⟨p, -, hframe⟩ := hrel.tracks.resend hi
  rw [hrem]
  exact congrArg TxFrame.fsn hframe

/-- A state of the sweep that began in `c₀`: the transmit side has only moved its cursor. -/
structure Sweeping (params : PcrParams) (c₀ c : Channel) : Prop where
  inv : c.PcrInv params
  data : c.data = []
  tx : c.tx = { c₀.tx with pcrCursor := c.tx.pcrCursor }
  removed : c.removed = c₀.removed

section Sweeping

variable {params : PcrParams} {c₀ c : Channel}

theorem Sweeping.refl (h : c.PcrInv params) (hd : c.data = []) : Sweeping params c c :=
  ⟨h, hd, rfl, rfl⟩

theorem Sweeping.unacked (h : Sweeping params c₀ c) : c.tx.unacked = c₀.tx.unacked := by
  rw [h.tx]

theorem Sweeping.idle (h : Sweeping params c₀ c) (hidle : Idle c₀.tx params) :
    Idle c.tx params := by
  rw [h.tx]; exact hidle

/-- **One frame of the sweep.** The cursor moves on by one, and the receiver accepts the
frame exactly when it stands at the cursor's position. -/
theorem exchange_spec (h : Sweeping params c₀ c) (hn : params.n1 ≤ 127)
    (hidle : Idle c₀.tx params) (hu : c₀.tx.unacked ≠ []) :
    Sweeping params c₀ c.exchange ∧
      c.exchange.tx.pcrCursor = c.tx.wrappedCursor + 1 ∧
      c.exchange.accepted.length
        = if c.accepted.length = c.removed.length + c.tx.wrappedCursor
          then c.accepted.length + 1 else c.accepted.length := by
  have hu' : c.tx.unacked ≠ [] := by rw [h.unacked]; exact hu
  have hlt := TxControl.wrappedCursor_lt hu'
  have hpoll := poll_idle h.inv.method (h.idle hidle) hu'
  have hdata : (c.step .poll).data = [c.tx.poll.1] := by simp [step, h.data]
  have htx : c.exchange.tx = { c.tx with pcrCursor := c.tx.wrappedCursor + 1 } := by
    show (c.step .poll).deliver.tx = _
    rw [deliver_tx, step, hpoll]
  refine ⟨⟨(h.inv.step hn .poll).step hn .deliver, ?_, ?_, ?_⟩, by rw [htx], ?_⟩
  · show (c.step .poll).deliver.data = []
    rw [deliver_data, hdata, List.tail_cons]
  · rw [htx, h.tx]
  · show (c.step .poll).deliver.removed = _
    rw [deliver_removed]
    exact h.removed
  · obtain ⟨-, hlo, hhi, hlast, -, hfsn⟩ := h.inv.windowed.view
    have hlen := Nat.le_trans h.inv.unacked_le hn
    have hacc : c.exchange.accepted = c.accepted ++
        (c.rx.onMsu (seqOf (c.removed.length + c.tx.wrappedCursor))
          c.tx.unacked[c.tx.wrappedCursor].sio
          c.tx.unacked[c.tx.wrappedCursor].sif).1.delivered := by
      rw [← hfsn _ hlt]
      simp [exchange, step, deliver, h.data, hpoll, TxControl.resend]
    rw [hacc, List.length_append]
    split
    · -- the receiver stands at the cursor
      next heq =>
      rw [RxControl.onMsu_awaited _ _ hlast (by rw [heq])]
      rfl
    · next hne =>
      rw [(RxControl.onMsu_other _ _ hlast (by omega)).1]
      rfl

/-- A pass from the cursor to the end of the buffer: the receiver moves on, and if it stood
at or past the cursor it has everything at the end. -/
theorem sweep {d : ℕ} (h : Sweeping params c₀ c) (hn : params.n1 ≤ 127)
    (hidle : Idle c₀.tx params) (hu : c₀.tx.unacked ≠ [])
    (hd : c.tx.wrappedCursor + (d + 1) = c₀.tx.unacked.length) :
    Sweeping params c₀ (exchange^[d + 1] c) ∧
      (exchange^[d + 1] c).tx.pcrCursor = c₀.tx.unacked.length ∧
      (c₀.removed.length + c.tx.wrappedCursor ≤ c.accepted.length →
        c₀.removed.length + c₀.tx.unacked.length ≤ (exchange^[d + 1] c).accepted.length) := by
  induction d generalizing c with
  | zero =>
    obtain ⟨h', hcur, hacc⟩ := exchange_spec h hn hidle hu
    rw [h.removed] at hacc
    refine ⟨h', by rw [Function.iterate_one, hcur]; omega, fun hle => ?_⟩
    rw [Function.iterate_one, hacc]
    split <;> omega
  | succ d ih =>
    obtain ⟨h', hcur, hacc⟩ := exchange_spec h hn hidle hu
    rw [h.removed] at hacc
    -- the cursor has not reached the end, so the next poll does not wrap it
    have hwrap : c.exchange.tx.wrappedCursor = c.tx.wrappedCursor + 1 := by
      rw [TxControl.wrappedCursor, hcur, h'.unacked, if_neg (by omega)]
    obtain ⟨h'', hcur'', hall⟩ := ih h' (by rw [hwrap]; omega)
    rw [Function.iterate_succ_apply]
    refine ⟨h'', hcur'', fun hle => hall ?_⟩
    rw [hwrap, hacc]
    split <;> omega

/-- Further frames of the sweep lose nothing the receiver has. -/
theorem sweeping_iterate (h : Sweeping params c₀ c) (hn : params.n1 ≤ 127)
    (hidle : Idle c₀.tx params) (hu : c₀.tx.unacked ≠ []) (k : ℕ) :
    Sweeping params c₀ (exchange^[k] c) ∧ c.accepted.length ≤ (exchange^[k] c).accepted.length := by
  induction k with
  | zero => exact ⟨h, Nat.le_refl _⟩
  | succ k ih =>
    obtain ⟨h', -, hacc⟩ := exchange_spec ih.1 hn hidle hu
    rw [Function.iterate_succ_apply']
    refine ⟨h', Nat.le_trans ih.2 ?_⟩
    rw [hacc]
    split <;> omega

/-- Two lengths of the buffer contain a full pass from its head. -/
theorem sweep_twice (h : c.PcrInv params) (hn : params.n1 ≤ 127) (hd : c.data = [])
    (hidle : Idle c.tx params) (hu : c.tx.unacked ≠ []) :
    Sweeping params c (exchange^[2 * c.tx.unacked.length] c) ∧
      c.removed.length + c.tx.unacked.length
        ≤ (exchange^[2 * c.tx.unacked.length] c).accepted.length := by
  have hlt := TxControl.wrappedCursor_lt hu
  set n := c.tx.unacked.length with hlen
  obtain ⟨d, hd'⟩ : ∃ d, c.tx.wrappedCursor + (d + 1) = n :=
    ⟨n - c.tx.wrappedCursor - 1, by omega⟩
  obtain ⟨e, he⟩ : ∃ e, e + 1 = n := ⟨n - 1, by omega⟩
  -- from the cursor to the end, once from the head, and back to the cursor
  obtain ⟨h1, hcur1, -⟩ := sweep (.refl h hd) hn hidle hu hd'
  set c₁ := exchange^[d + 1] c
  have hwrap : c₁.tx.wrappedCursor = 0 := by
    rw [TxControl.wrappedCursor, h1.unacked, hcur1, if_pos (Nat.le_refl _)]
  obtain ⟨h2, -, hall⟩ := sweep (d := e) h1 hn hidle hu (by rw [hwrap]; omega)
  have hlo := h1.inv.windowed.view.2.1
  rw [h1.removed] at hlo
  obtain ⟨h3, hmono⟩ := sweeping_iterate h2 hn hidle hu c.tx.wrappedCursor
  have hsplit : exchange^[2 * n] c
      = exchange^[c.tx.wrappedCursor] (exchange^[e + 1] c₁) := by
    rw [← Function.iterate_add_apply, ← Function.iterate_add_apply]
    congr 1
    omega
  rw [hsplit]
  exact ⟨h3, Nat.le_trans (hall (by rw [hwrap]; omega)) hmono⟩

end Sweeping

/-- **PCR recovers every loss in one sweep.** From any reachable state with a non-empty
buffer, nothing in flight towards the receiver and no new MSU eligible, polling twice the
length of the buffer with every frame delivered makes the receiver accept exactly the
buffered MSUs it lacked, in order and once each, and leaves the transmit side as it was but
for its cursor. -/
theorem pcr_recovers {params : PcrParams} (hn1 : params.n1 ≤ 127) (ops : List ChannelOp)
    {sweepOps : List ChannelOp} (hops : ∀ op ∈ sweepOps, op = .poll ∨ op = .deliver) :
    let c := ops.foldl Channel.step (init (.Pcr params))
    let c' := sweepOps.foldl Channel.step c
    c.tx.unacked ≠ [] → c.data = [] →
    c.tx.pending = [] ∨ params.n1 ≤ c.tx.unackedLen ∨ params.n2 ≤ c.tx.unackedOctets →
    sweepOps.count .poll = 2 * c.tx.unackedLen → c'.data = [] →
      c'.accepted = c.accepted ++ (c.tx.unacked.map BufferedMsu.payload).drop
          (c.accepted.length - c.removed.length) ∧
        c'.rx.bsn = c.tx.lastFsn ∧ c'.tx.unacked = c.tx.unacked ∧
        c'.tx.pending = c.tx.pending ∧ c'.tx.fib = c.tx.fib ∧ c'.tx.lastFsn = c.tx.lastFsn := by
  intro c c' hu hd hel hcount hd'
  have hinv : c.PcrInv params := pcrInv_run hn1 ops
  have hidle : Idle c.tx params := by
    rcases hel with hp | hf
    · exact .inr hp
    · exact .inl (decide_eq_true hf)
  -- delivered as they are polled or later, the frames have the same effect
  have hc' : c' = exchange^[2 * c.tx.unacked.length] c := by
    have hrun := drain_run hops c
    have hdrain : c.drain = c := by rw [drain, hd]; rfl
    have hdrain' : c'.drain = c' := by rw [drain, hd']; rfl
    rw [hcount, hdrain] at hrun
    rw [← hdrain']
    exact hrun
  obtain ⟨hs, hall⟩ := sweep_twice hinv hn1 hd hidle hu
  rw [← hc'] at hs hall
  obtain ⟨hacc, hlo, -, -, hlast, -⟩ := hinv.windowed.view
  obtain ⟨hacc', -, hhi', hbsn', -, -⟩ := hs.inv.windowed.view
  rw [hs.removed, hs.unacked] at hacc' hhi'
  have hlen' : c'.accepted.length = c.removed.length + c.tx.unacked.length :=
    Nat.le_antisymm hhi' hall
  refine ⟨?_, ?_, hs.unacked, by rw [hs.tx], by rw [hs.tx], by rw [hs.tx]⟩
  · have hdrop : (c.removed ++ c.tx.unacked.map BufferedMsu.payload).drop c.accepted.length
        = (c.tx.unacked.map BufferedMsu.payload).drop (c.accepted.length - c.removed.length) := by
      rw [List.drop_append, List.drop_eq_nil_of_le hlo, List.nil_append]
    have hcut := List.take_append_drop c.accepted.length
      (c.removed ++ c.tx.unacked.map BufferedMsu.payload)
    rw [hdrop, ← hacc] at hcut
    rw [hacc', List.take_of_length_le (by simp [hlen']), hcut]
  · rw [RxControl.bsn, hbsn', hlen', hlast]

/-- A buffer of two whose first copies were lost, swept with the frames delivered late. -/
theorem pcr_recovers_two :
    let c := [.submit 1 [7], .submit 2 [8], .poll, .poll, .loseData 0, .loseData 0].foldl
      Channel.step (init (.Pcr default))
    let c' := [.poll, .poll, .deliver, .poll, .deliver, .poll, .deliver, .deliver].foldl
      Channel.step c
    (c'.accepted = c.accepted ++ (c.tx.unacked.map BufferedMsu.payload).drop
          (c.accepted.length - c.removed.length) ∧
        c'.rx.bsn = c.tx.lastFsn ∧ c'.tx.unacked = c.tx.unacked ∧
        c'.tx.pending = c.tx.pending ∧ c'.tx.fib = c.tx.fib ∧ c'.tx.lastFsn = c.tx.lastFsn) ∧
      c'.accepted = [(1, [7]), (2, [8])] :=
  ⟨pcr_recovers (by decide) _ (by decide) (by decide) (by decide) (by decide) (by decide)
    (by decide), by decide⟩

end Channel

end Mtp2
