import Mtp2.Moves
import Mtp2.Window

/-!
# MTP2 — a link acknowledges what it delivers

`Trace` runs a link and keeps, since its last effective start, the MSUs it has delivered to
MTP3 and the MSUs it has received. The sequence check, the event queue and the BSN of outgoing
units live in three functions; one counting invariant ties them together.

* **`Trace.Acknowledged.step`** — every operation keeps the count;
* **`bsn_counts_delivered`** — the BSN of every SU sent, in every reachable state.
-/

namespace Mtp2

/-- The payload an event hands to MTP3. -/
def Event.payload : Event → List Payload
  | .Msu sio sif => [(sio, sif)]
  | _ => []

/-- The payloads a list of events hands to MTP3. -/
def payloads (es : List Event) : List Payload := es.flatMap Event.payload

/-- The FSN and payload of a received MSU. -/
def Op.receivedMsu : Op → List (UInt8 × Payload)
  | .handleSu (.Msu header sio sif) => [(header.fsn, (sio, sif))]
  | _ => []

theorem payloads_management {es : List Event} (h : ∀ e ∈ es, e.isManagement = true) :
    payloads es = [] := by
  refine List.flatMap_eq_nil_iff.mpr fun e he => ?_
  have := h e he
  cases e <;> first | rfl | cases this

theorem payloads_append (es es' : List Event) :
    payloads (es ++ es') = payloads es ++ payloads es' := List.flatMap_append

/-- An MSU is handed over exactly if it is accepted. -/
theorem payloads_outcomeEvents (outcome : RxOutcome) :
    payloads (Mtp2Link.outcomeEvents (some outcome)) = outcome.delivered := by
  cases outcome <;> rfl

/-- A received MSU is accepted with the awaited FSN, which then is the next BSN, or nothing is
delivered and the BSN stays. -/
theorem RxControl.onMsu_counts {r : RxControl} {k : ℕ} {fsn : UInt8} (sio : UInt8)
    (sif : List UInt8) (h : r.lastReceived = seqOf (k + 127)) (hf : fsn < 128) :
    (fsn = seqOf k ∧ (r.onMsu fsn sio sif).1.delivered = [(sio, sif)] ∧
        (r.onMsu fsn sio sif).2.lastReceived = seqOf (k + 1 + 127)) ∨
      ((r.onMsu fsn sio sif).1.delivered = [] ∧
        (r.onMsu fsn sio sif).2.lastReceived = r.lastReceived) := by
  have hlt : fsn.toNat < 128 := by simpa [UInt8.lt_iff_toNat_lt] using hf
  have hfsn : fsn = seqOf fsn.toNat := by
    rw [← UInt8.toNat_inj, seqOf_toNat, Nat.mod_eq_of_lt hlt]
  by_cases hk : fsn.toNat % 128 = k % 128
  · have hfk : fsn = seqOf k := by rw [hfsn, seqOf_inj]; exact hk
    refine .inl ⟨hfk, ?_⟩
    have hacc := onMsu_awaited sio sif h hk
    rw [← hfsn] at hacc
    rw [hacc]
    exact ⟨rfl, by rw [hfk, show k + 1 + 127 = k + 128 by omega, seqOf_add_modulus]⟩
  · refine .inr ?_
    have hrej := onMsu_other sio sif h hk
    rwa [← hfsn] at hrej

namespace Mtp2Link

variable {l : Mtp2Link}

/-- Of the events that a received FISU or MSU raises, only the outcome of the sequence check
hands a payload to MTP3. -/
theorem payloads_received {op : Op} {outcome : Option RxOutcome}
    (h : (l.step op).events = l.events ++ ((if l.state = .AlignedReady then [.InService] else []) ++
      l.clearedEvents ++ outcomeEvents outcome)) :
    payloads (l.raised op) = payloads (outcomeEvents outcome) := by
  have hentry : payloads (if l.state = .AlignedReady then [.InService] else []) = [] := by
    split <;> rfl
  rw [raised_of_append h, payloads_append, payloads_append, hentry,
    payloads_management l.clearedEvents_isManagement, List.nil_append, List.nil_append]

/-! ## Outgoing units -/

/-- Whatever is sent carries the BSN of the receiver. -/
theorem frameUnit_bsn (l : Mtp2Link) (frame : TxFrame) :
    (l.frameUnit frame).header.bsn = l.rx.bsn := by
  unfold frameUnit
  dsimp only
  split
  · rfl
  · split
    · next su hsu =>
      have : su.header = ⟨l.rx.bsn, l.rx.bib, frame.fsn, frame.fib⟩ := by
        unfold SignalUnit.msu at hsu
        dsimp only at hsu
        split at hsu
        · cases hsu
        · cases hsu; rfl
      rw [this]
    · rfl

/-- Every SU sent carries the present BSN. -/
theorem pollTransmit_bsn {su : SignalUnit} (h : l.pollTransmit.1 = some su) :
    su.header.bsn = l.rx.bsn := by
  rcases l.pollTransmit_unit with ⟨hnone, -⟩ | ⟨-, hframe⟩ | ⟨-, ⟨status, hlssu⟩ | ⟨-, hfisu⟩⟩
  · rw [hnone] at h; cases h
  · rw [hframe] at h; cases h; exact frameUnit_bsn _ _
  · rw [hlssu] at h; cases h; rfl
  · rw [hfisu] at h; cases h; rfl

end Mtp2Link

/-! ## Runs -/

/-- A link, the MSUs it has delivered and those it has received, both since the last effective
start. -/
structure Trace where
  link : Mtp2Link
  delivered : List Payload
  received : List (UInt8 × Payload)

open Mtp2Link

namespace Trace

def new (config : Mtp2Config) : Trace := ⟨.new config, [], []⟩

/-- One operation; an effective start begins the record anew. -/
def step (t : Trace) (op : Op) : Trace :=
  let restarts := op = .start ∧ t.link.state = .OutOfService
  { link := t.link.step op
    delivered := (if restarts then [] else t.delivered) ++ payloads (t.link.raised op)
    received := (if restarts then [] else t.received) ++ op.receivedMsu }

theorem run_link (t : Trace) (ops : List Op) : (ops.foldl step t).link = t.link.run ops := by
  induction ops generalizing t with
  | nil => rfl
  | cons op ops ih => exact ih (t.step op)

/-- The BSN counts what has been delivered, and the `j`-th delivery is a received MSU with FSN
`j`. -/
structure Acknowledged (t : Trace) : Prop where
  represented : ∃ age, t.link.Represented age
  bsn : t.link.rx.lastReceived = seqOf (t.delivered.length + 127)
  matched : (t.delivered.mapIdx fun j p => (seqOf j, p)).Sublist t.received

theorem acknowledged_new (config : Mtp2Config) : (new config).Acknowledged :=
  ⟨⟨0, Mtp2Link.represented_new config⟩, rfl, List.Sublist.refl _⟩

/-- A start that takes effect begins both sides of the count again. -/
theorem Acknowledged.started {t : Trace} (h : t.Acknowledged) (ho : t.link.state = .OutOfService) :
    (t.step .start).Acknowledged := by
  obtain ⟨age, hrep⟩ := h.represented
  have hlink : (t.step .start).link = t.link.start := rfl
  have hraised : t.link.raised .start = [] := by
    refine raised_of_append ?_
    rw [Mtp2Link.step, start, if_neg (not_not_intro ho), List.append_nil]
    rfl
  refine ⟨⟨_, hrep.step .start⟩, ?_, ?_⟩
  · rw [hlink, start, if_neg (not_not_intro ho), Trace.step, hraised, if_pos ⟨rfl, ho⟩]
    rfl
  · rw [Trace.step, hraised, if_pos ⟨rfl, ho⟩]
    exact List.nil_sublist _

/-- What delivers nothing and leaves the BSN as it was keeps the count. -/
theorem Acknowledged.quiet {t : Trace} (h : t.Acknowledged) {op : Op}
    (hstart : ¬ (op = .start ∧ t.link.state = .OutOfService))
    (hp : payloads (t.link.raised op) = [])
    (hrx : (t.link.step op).rx.lastReceived = t.link.rx.lastReceived) :
    (t.step op).Acknowledged := by
  obtain ⟨age, hrep⟩ := h.represented
  rw [Trace.step, if_neg hstart, if_neg hstart, hp, List.append_nil]
  exact ⟨⟨_, hrep.step op⟩, hrx.trans h.bsn, h.matched.trans (List.sublist_append_left _ _)⟩

/-- **Every operation keeps the count.** -/
theorem Acknowledged.step {t : Trace} (h : t.Acknowledged) {op : Op}
    (hop : ∀ su, op = .handleSu su → su.header.InRange) : (t.step op).Acknowledged := by
  obtain ⟨age, hrep⟩ := h.represented
  by_cases hstart : op = .start ∧ t.link.state = .OutOfService
  · obtain ⟨rfl, ho⟩ := hstart
    exact h.started ho
  have hquiet := h.quiet hstart
  have hr := step_raised hrep op
  generalize hl' : t.link.step op = l' at hr
  cases hr with
  | quiet es hes he hrx =>
    refine hquiet ?_ (by rw [hl', hrx])
    rw [raised_of_append (hl' ▸ he), payloads_management hes]
  | polled he hrx =>
    refine hquiet ?_ (by rw [hl', hrx])
    rw [raised_pollEvent]
    rfl
  | started ho => exact absurd ⟨rfl, ho⟩ hstart
  | serving _ he hrx =>
    refine hquiet ?_ (by rw [hl', hrx])
    rw [raised_of_append (hl' ▸ he)]
    rfl
  | @received su header msu _ hsu _ he hrx =>
    have hpay := payloads_received (hl' ▸ he)
    cases msu with
    | none => exact hquiet hpay (by rw [hl', hrx]; rfl)
    | some p =>
      obtain ⟨sio, sif⟩ := p
      by_cases hpo : t.link.state = .ProcessorOutage
      · -- the payload is dropped before the sequence check
        rw [checked, if_pos hpo] at hpay hrx
        exact hquiet hpay (by rw [hl', hrx])
      rw [checked, if_neg hpo] at hpay hrx
      dsimp only at hpay hrx
      rw [payloads_outcomeEvents] at hpay
      obtain rfl : su = .Msu header sio sif := by cases su <;> cases hsu; rfl
      have hrange : header.fsn < 128 := (hop _ rfl).2
      rcases RxControl.onMsu_counts sio sif h.bsn hrange with ⟨hf, hd, hb⟩ | ⟨hd, hb⟩
      · -- the awaited MSU: one delivery more, and the next BSN
        rw [Trace.step, if_neg hstart, if_neg hstart, hpay, hd]
        refine ⟨⟨_, hrep.step (.handleSu (.Msu header sio sif))⟩, ?_, ?_⟩
        · rw [hl', hrx, hb, List.length_append]
          rfl
        · show ((t.delivered ++ [(sio, sif)]).mapIdx _).Sublist _
          have hlast : [(sio, sif)].mapIdx (fun j p => (seqOf (j + t.delivered.length), p)) =
              [(seqOf t.delivered.length, (sio, sif))] := by simp
          rw [List.mapIdx_append, hlast, Op.receivedMsu, hf]
          exact h.matched.append (List.Sublist.refl _)
      · exact hquiet (hpay.trans hd) (by rw [hl', hrx, hb])

end Trace

/-- **A link acknowledges exactly what it delivers.** At every point of a run, every SU sent
carries the BSN that counts the MSUs delivered since the last effective start; the `j`-th of
them is a received MSU with FSN `j` modulo 128; and an MSU received in any state other than
Aligned Ready and In Service is not delivered and leaves the BSN alone. -/
theorem bsn_counts_delivered (config : Mtp2Config) (ops : List Op)
    (hops : ∀ su, Op.handleSu su ∈ ops → su.header.InRange) :
    let t := ops.foldl Trace.step (Trace.new config)
    t.link = (Mtp2Link.new config).run ops ∧
      (∀ su, t.link.pollTransmit.1 = some su →
        su.header.bsn.toNat = (127 + t.delivered.length) % 128) ∧
      (t.delivered.mapIdx fun j p => (seqOf j, p)).Sublist t.received ∧
      ∀ header sio sif, t.link.state ≠ .AlignedReady → t.link.state ≠ .InService →
        payloads (t.link.raised (.handleSu (.Msu header sio sif))) = [] ∧
          (t.link.step (.handleSu (.Msu header sio sif))).rx.bsn = t.link.rx.bsn := by
  intro t
  have h : t.Acknowledged := List.foldlRecOn ops Trace.step (Trace.acknowledged_new config)
    fun t ht op hmem => ht.step fun su hsu => hops su (hsu ▸ hmem)
  obtain ⟨age, hrep⟩ := h.represented
  refine ⟨Trace.run_link _ ops, fun su hsu => ?_, h.matched, fun header sio sif har his => ?_⟩
  · rw [pollTransmit_bsn hsu, RxControl.bsn, h.bsn, seqOf_toNat, Nat.add_comm]
  · have hr := step_raised hrep (.handleSu (.Msu header sio sif))
    generalize hl' : t.link.step (.handleSu (.Msu header sio sif)) = l' at hr
    cases hr with
    | quiet es hes he hrx =>
      rw [raised_of_append (hl' ▸ he), payloads_management hes, hrx]
      exact ⟨rfl, rfl⟩
    | received hsu hs he hrx =>
      cases hsu
      -- what is left of the states that look at an MSU
      have hpo : t.link.state = .ProcessorOutage := by
        rcases hs with hs | hs
        · exact absurd hs har
        · cases hst : t.link.state with
          | ProcessorOutage => rfl
          | InService => exact absurd hst his
          | _ => rw [hst] at hs; cases hs
      rw [checked, if_pos hpo] at he hrx
      rw [payloads_received (hl' ▸ he), hrx]
      exact ⟨rfl, rfl⟩

/-- The MSU that brings the link into service is delivered and acknowledged with BSN 0. -/
theorem bsn_counts_first :
    let ops : List Op := [.start, .handleSu (.Lssu ⟨127, true, 127, true⟩ .OutOfAlignment false),
      .handleSu (.Lssu ⟨127, true, 127, true⟩ .NormalAlignment false), .tick,
      .handleSu (.Msu ⟨127, true, 0, true⟩ 0x83 [1, 2])]
    let t := ops.foldl Trace.step (Trace.new { t4ProvingNormal := 1 })
    (∀ su, t.link.pollTransmit.1 = some su →
        su.header.bsn.toNat = (127 + t.delivered.length) % 128) ∧
      t.delivered = [(0x83, [1, 2])] :=
  ⟨(bsn_counts_delivered { t4ProvingNormal := 1 } _ (by
    intro su hsu
    simp only [List.mem_cons, Op.handleSu.injEq, reduceCtorEq, false_or, List.not_mem_nil,
      or_false] at hsu
    rcases hsu with rfl | rfl | rfl <;> decide)).2.1, by decide⟩

end Mtp2
