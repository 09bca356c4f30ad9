import Mtp2.LinkPair

/-!
# MTP2 — when a pair of links falls silent

A pair in service is silent when nothing is in flight and one further exchange changes no
sequence state. `Paired` is the invariant of the pair: either a link has failed, or both
directions are go-back-N and the phases of the two links fit together.

* **`Paired.step`** — every operation at either end keeps the invariant, if it stays within
  what retransmission can repair;
* **`drained_iff_of_silent`** — then a silent pair has delivered everything if and only if no
  gap went unseen at its end.
-/

namespace Mtp2

namespace Endpoint

/-- The link is undisturbed, and so is what it has sent. -/
structure Sound (x : Endpoint) : Prop where
  undisturbed : x.link.Undisturbed
  units : ∀ su ∈ x.out, su.undisturbed = true

/-- The phase of a live link, its pipe and its peer: FISUs only come from a ready link, MSUs
only from a link in service, and the peer of a link in service is ready. -/
structure Phased (x y : Endpoint) : Prop where
  alive : x.link.state ≠ .OutOfService
  traffic : ∀ su ∈ x.out, su.traffic ≠ none → x.link.state.ready = true
  msus : ∀ su ∈ x.out, ∀ header p, su.traffic = some (header, some p) →
    x.link.state = .InService
  partner : x.link.state = .InService → y.link.state.ready = true

namespace Phased

variable {x x' y y' : Endpoint}

/-- An operation of the link moves its phase onward. -/
theorem act (h : Phased x y) (op : Op) (hx : x.Sound) (hop : op.undisturbed = true)
    (hlink : x'.link = x.link.step op) (hout : ∀ su ∈ x'.out, su ∈ x.out)
    (halive : x'.link.state ≠ .OutOfService)
    (hserve : x'.link.state = .InService → x.link.state = .InService ∨ y.link.state.ready = true) :
    Phased x' y := by
  rcases hx.undisturbed.step_state hop with ho | ⟨-, hready, hserv⟩
  · exact absurd (hlink ▸ ho) halive
  rw [← hlink] at hready hserv
  exact ⟨halive, fun su hsu htr => hready (h.traffic su (hout su hsu) htr),
    fun su hsu header p htr => hserv (h.msus su (hout su hsu) header p htr),
    fun hs => (hserve hs).elim h.partner id⟩

/-- What the peer does, as long as it stays ready. -/
theorem peer (h : Phased x y) (hready : y.link.state.ready = true → y'.link.state.ready = true) :
    Phased x y' :=
  ⟨h.alive, h.traffic, h.msus, fun hs => hready (h.partner hs)⟩

/-- Units leave the pipe. -/
theorem fewer (h : Phased x y) (hlink : x'.link = x.link) (hout : ∀ su ∈ x'.out, su ∈ x.out) :
    Phased x' y where
  alive := by rw [hlink]; exact h.alive
  traffic := by rw [hlink]; exact fun su hsu => h.traffic su (hout su hsu)
  msus := by rw [hlink]; exact fun su hsu => h.msus su (hout su hsu)
  partner := by rw [hlink]; exact h.partner

end Phased

end Endpoint

namespace LinkPair

open Endpoint

/-- Both links are up, and each direction is a go-back-N protocol. -/
structure Live (p : LinkPair) : Prop where
  phaseA : Phased p.a p.b
  phaseB : Phased p.b p.a
  aToB : ∃ g, Conveys p.a p.b g
  bToA : ∃ g, Conveys p.b p.a g

/-- **The invariant of the pair.** -/
structure Paired (p : LinkPair) : Prop where
  soundA : p.a.Sound
  soundB : p.b.Sound
  live : p.a.link.state = .OutOfService ∨ p.b.link.state = .OutOfService ∨ p.Live

/-- Two links that have just been started, with nothing in flight. -/
theorem paired_started {ca cb : Mtp2Config} (ha : ca.method = .Basic) (hb : cb.method = .Basic)
    (hta : 1 ≤ ca.suermThreshold.toNat) (htb : 1 ≤ cb.suermThreshold.toNat) :
    (started ca cb).Paired where
  soundA := ⟨.started ca hta, nofun⟩
  soundB := ⟨.started cb htb, nofun⟩
  live := .inr (.inr ⟨⟨nofun, nofun, nofun, nofun⟩, ⟨nofun, nofun, nofun, nofun⟩,
    ⟨_, Conveys.started ha hb⟩, ⟨_, Conveys.started hb ha⟩⟩)

variable {p : LinkPair}

theorem Live.swap (h : p.Live) : p.swap.Live := ⟨h.phaseB, h.phaseA, h.bToA, h.aToB⟩

/-- The pair may be looked at from either end. -/
theorem Paired.swap (h : p.Paired) : p.swap.Paired where
  soundA := h.soundB
  soundB := h.soundA
  live := by
    rcases h.live with ha | hb | hl
    · exact .inr (.inl ha)
    · exact .inl hb
    · exact .inr (.inr hl.swap)

/-! ## What retransmission can repair -/

/-- The unit acknowledges in a way that moves the retransmission cursor too far. -/
def overlooked (l : Mtp2Link) (su : SignalUnit) : Bool :=
  match su.traffic with
  | some (header, _) => l.state.ready && l.tx.overlooks header.bsn header.bib
  | none => false

/-- An operation at `a` within what retransmission can repair: no new MSU over 63
unacknowledged ones, no acknowledgement that moves the cursor past MSUs to be sent again, no
loss of a retransmission the receiver waits for. -/
def RepairableA (p : LinkPair) : EndOp → Prop
  | .poll => p.a.link.state = .InService → p.a.link.tx.Roomy 63
  | .deliver => ∀ su ∈ p.a.out.head?, overlooked p.b.link su = false
  | .lose i => ∀ f ∈ p.a.out[i]?.bind SignalUnit.frame, awaitedAgain p.b.link.rx f = false
  | .submit _ _ | .tick => True

def Repairable (p : LinkPair) : PairOp → Prop
  | .atA op => p.RepairableA op
  | .atB op => p.swap.RepairableA op

instance (p : LinkPair) (op : EndOp) : Decidable (p.RepairableA op) := by
  cases op <;> unfold RepairableA <;> infer_instance

instance (p : LinkPair) (op : PairOp) : Decidable (p.Repairable op) := by
  cases op <;> unfold Repairable <;> infer_instance

/-! ## The steps -/

/-- An operation of the link at `a`. -/
theorem Paired.act (h : p.Paired) {x' : Endpoint} (op : Op) (hop : op.undisturbed = true)
    (hlink : x'.link = p.a.link.step op) (hunits : ∀ su ∈ x'.out, su.undisturbed = true)
    (hlive : p.Live → x'.link.state ≠ .OutOfService → Live ⟨x', p.b⟩) : Paired ⟨x', p.b⟩ where
  soundA := ⟨by rw [hlink]; exact h.soundA.undisturbed.step hop, hunits⟩
  soundB := h.soundB
  live := by
    by_cases ho : x'.link.state = .OutOfService
    · exact .inl ho
    rcases h.live with ha | hb | hl
    · rcases h.soundA.undisturbed.step_state hop with ho' | ⟨hne, -⟩
      · exact absurd (hlink ▸ ho') ho
      · exact absurd ha hne
    · exact .inr (.inl hb)
    · exact .inr (.inr (hlive hl ho))

/-- The bookkeeping of a submission aside, it is the operation of the link. -/
theorem submit_link (x : Endpoint) (sio : UInt8) (sif : List UInt8) :
    (x.submit sio sif).link = x.link.step (.submitMsu sio sif) ∧
      (x.submit sio sif).out = x.out := by
  unfold Endpoint.submit
  split <;> exact ⟨rfl, rfl⟩

/-- A submission at `a`. -/
theorem Paired.submit (h : p.Paired) (sio : UInt8) (sif : List UInt8) :
    Paired ⟨p.a.submit sio sif, p.b⟩ := by
  obtain ⟨hlink, hout⟩ := submit_link p.a sio sif
  have hstate : (p.a.submit sio sif).link.state = p.a.link.state := by
    rw [hlink, Mtp2Link.step, Mtp2Link.submitMsu_eq]
  refine h.act (.submitMsu sio sif) rfl hlink (by rw [hout]; exact h.soundA.units)
    fun hl ho => ?_
  obtain ⟨g, hg⟩ := hl.aToB
  obtain ⟨g', hg'⟩ := hl.bToA
  exact {
    phaseA := hl.phaseA.act (.submitMsu sio sif) h.soundA rfl hlink
      (by rw [hout]; exact fun _ => id) ho fun hs => .inl (hstate ▸ hs)
    phaseB := hl.phaseB.peer (by rw [hstate]; exact id)
    aToB := hg.submit sio sif
    bToA := ⟨g', hg'.submitBack sio sif⟩ }

/-- A tick at `a`: unless the link fails, its controls stay as they are. -/
theorem Paired.tick (h : p.Paired) : Paired ⟨p.a.act .tick, p.b⟩ := by
  refine h.act .tick rfl rfl h.soundA.units fun hl ho => ?_
  have hx := h.soundA.undisturbed
  obtain ⟨g, hg⟩ := hl.aToB
  obtain ⟨g', hg'⟩ := hl.bToA
  have hready : p.a.link.state.ready = true → (p.a.act .tick).link.state.ready = true := by
    rcases hx.step_state (show Op.undisturbed .tick = true from rfl) with ho' | ⟨-, hready, -⟩
    · exact absurd ho' ho
    · exact hready
  exact {
    phaseA := hl.phaseA.act .tick h.soundA rfl rfl (fun _ => id) ho fun hs =>
      .inl (hx.tick_controllers.2.2.2 hs)
    phaseB := hl.phaseB.peer hready
    aToB := ⟨g, hg.tick hx⟩
    bToA := ⟨g', hg'.tickBack hx⟩ }

/-- A poll puts an undisturbed unit of the link's phase on the pipe. -/
theorem Paired.poll (h : p.Paired) (hroom : p.a.link.state = .InService → p.a.link.tx.Roomy 63) :
    Paired ⟨p.a.poll, p.b⟩ := by
  have hx := h.soundA.undisturbed
  have hstate : p.a.poll.link.state = p.a.link.state := p.a.link.pollTransmit_state
  by_cases hs : p.a.link.state = .OutOfService
  · -- a failed link sends SIOS
    refine h.act .pollTransmit rfl rfl (fun su hsu => ?_) fun _ ho =>
      absurd (hstate.trans hs) ho
    rcases List.mem_append.mp hsu with hsu | hsu
    · exact h.soundA.units su hsu
    · rw [Mtp2Link.Undisturbed.pollTransmit_out hs (Option.mem_toList.mp hsu)]
      rfl
  -- otherwise exactly one unit goes out
  obtain ⟨su₀, hsu₀, hsent⟩ := hx.pollTransmit_sent hs
  have hout : p.a.poll.out = p.a.out ++ [su₀] := by rw [Endpoint.poll, hsu₀]; rfl
  -- what it carries goes with the phase of the link: FISUs when ready, MSUs in service
  have hcarries : su₀.undisturbed = true ∧
      (su₀.traffic ≠ none → p.a.link.state.ready = true) ∧
      ∀ header q, su₀.traffic = some (header, some q) → p.a.link.state = .InService := by
    rcases hsent with ⟨hst, rfl, -⟩ | ⟨hst, rfl, -⟩ | ⟨-, hu, htr, -⟩
    · obtain ⟨header, msu, htr, -⟩ := p.a.link.frameUnit_traffic p.a.link.tx.poll.1
      refine ⟨?_, fun _ => by rw [hst]; rfl, fun _ _ _ => hst⟩
      generalize p.a.link.frameUnit p.a.link.tx.poll.1 = su at htr
      cases su <;> first | rfl | cases htr
    · exact ⟨rfl, fun _ => by rw [hst]; rfl, fun header q hq => by cases hq⟩
    · exact ⟨hu, fun hne => absurd htr hne, fun header q hq => by rw [htr] at hq; cases hq⟩
  refine h.act .pollTransmit rfl rfl (fun su hsu => ?_) fun hl _ => ?_
  · rw [hout] at hsu
    rcases List.mem_append.mp hsu with hsu | hsu
    · exact h.soundA.units su hsu
    · rw [List.mem_singleton.mp hsu]; exact hcarries.1
  obtain ⟨g, hg⟩ := hl.aToB
  obtain ⟨g', hg'⟩ := hl.bToA
  refine ⟨⟨by rw [hstate]; exact hs, ?_, ?_, by rw [hstate]; exact hl.phaseA.partner⟩,
    hl.phaseB.peer (by rw [hstate]; exact id), hg.poll hx hs hroom, hg'.pollBack hx hs⟩
  · intro su hsu htr
    rw [hout] at hsu
    rw [hstate]
    rcases List.mem_append.mp hsu with hsu | hsu
    · exact hl.phaseA.traffic su hsu htr
    · rw [List.mem_singleton.mp hsu] at htr; exact hcarries.2.1 htr
  · intro su hsu header q htr
    rw [hout] at hsu
    rw [hstate]
    rcases List.mem_append.mp hsu with hsu | hsu
    · exact hl.phaseA.msus su hsu header q htr
    · rw [List.mem_singleton.mp hsu] at htr; exact hcarries.2.2 header q htr

/-- A loss that retransmission can repair. -/
theorem Paired.lose (h : p.Paired) (i : ℕ)
    (hloss : ∀ f ∈ p.a.out[i]?.bind SignalUnit.frame, awaitedAgain p.b.link.rx f = false) :
    Paired ⟨p.a.lose p.b i, p.b⟩ := by
  have hout : ∀ su ∈ (p.a.lose p.b i).out, su ∈ p.a.out := fun su hsu =>
    List.mem_of_mem_eraseIdx hsu
  refine ⟨⟨h.soundA.undisturbed, fun su hsu => h.soundA.units su (hout su hsu)⟩, h.soundB, ?_⟩
  rcases h.live with ha | hb | hl
  · exact .inl ha
  · exact .inr (.inl hb)
  · -- the frame is lost to one direction, its acknowledgement to the other
    obtain ⟨g, hg⟩ := hl.aToB
    obtain ⟨g', hg'⟩ := hl.bToA
    exact .inr (.inr ⟨hl.phaseA.fewer rfl hout, hl.phaseB.peer id, hg.lose i hloss,
      hg'.loseBack p.b i⟩)

/-- **A unit reaches the other end.** -/
theorem Paired.deliver (h : p.Paired) {su : SignalUnit} {rest : List SignalUnit}
    (hout : p.a.out = su :: rest) (hover : overlooked p.b.link su = false) :
    Paired ⟨p.a.sent, p.b.act (.handleSu su)⟩ := by
  have hmem : su ∈ p.a.out := by rw [hout]; exact List.mem_cons_self
  have htail : ∀ s ∈ p.a.sent.out, s ∈ p.a.out := fun s hs => List.mem_of_mem_tail hs
  have hsu := h.soundA.units su hmem
  have hy := h.soundB.undisturbed
  have hop : (Op.handleSu su).undisturbed = true := hsu
  refine ⟨⟨h.soundA.undisturbed, fun s hs => h.soundA.units s (htail s hs)⟩,
    ⟨hy.step hop, h.soundB.units⟩, ?_⟩
  rcases hy.step_state hop with ho | ⟨hne, hready, -⟩
  · exact .inr (.inl ho)
  -- a failed end stays failed, and nothing is claimed of it
  rcases h.live with ha | hb | hl
  · exact .inl ha
  · exact absurd hb hne
  by_cases ho : (p.b.link.step (.handleSu su)).state = .OutOfService
  · exact .inr (.inl ho)
  obtain ⟨g, hg⟩ := hl.aToB
  obtain ⟨g', hg'⟩ := hl.bToA
  -- service begins with a unit of a ready link
  have hserve : (p.b.link.step (.handleSu su)).state = .InService →
      p.b.link.state = .InService ∨ p.a.link.state.ready = true := fun hs => by
    cases htr : su.traffic with
    | none => exact .inl ((hy.handleSu_other hsu (.inl htr)).2.2.2 hs)
    | some q => exact .inr (hl.phaseA.traffic su hmem (by rw [htr]; nofun))
  have hphaseA : Phased p.a.sent p.b := hl.phaseA.fewer rfl htail
  have hphaseB : Phased (p.b.act (.handleSu su)) p.a :=
    hl.phaseB.act _ h.soundB hop rfl (fun _ => id) ho hserve
  exact .inr (.inr {
    phaseA := hphaseA.peer hready
    phaseB := hphaseB.peer id
    aToB := hg.deliver hy hout hsu fun header sio sif htr =>
      hl.phaseA.partner (hl.phaseA.msus su hmem header (sio, sif) htr)
    -- the unit acknowledges in the other direction
    bToA := hg'.acknowledge hy hout hsu fun header msu htr hs => by
      simpa only [overlooked, htr, hs, Bool.true_and] using hover })

/-- **Every operation keeps the invariant, within what retransmission can repair.** -/
theorem Paired.stepA (h : p.Paired) {op : EndOp} (hop : p.RepairableA op) :
    (p.stepA op).Paired := by
  cases op with
  | submit sio sif => exact h.submit sio sif
  | poll => exact h.poll hop
  | lose i => exact h.lose i hop
  | tick => exact h.tick
  | deliver =>
    cases hout : p.a.out with
    | nil => rwa [stepA_deliver_nil hout]
    | cons su rest =>
      rw [stepA_deliver hout]
      exact h.deliver hout (hop su (by rw [hout]; rfl))

theorem Paired.step (h : p.Paired) {op : PairOp} (hop : p.Repairable op) : (p.step op).Paired := by
  cases op with
  | atA op => exact h.stepA hop
  | atB op => exact (h.swap.stepA hop).swap

/-! ## Silence -/

/-- One further unit in each direction, without loss. -/
def exchanged (p : LinkPair) : LinkPair :=
  (((p.step (.atA .poll)).step (.atB .poll)).step (.atA .deliver)).step (.atB .deliver)

/-- Both links are in service, nothing is in flight, and one further exchange leaves the
sequence state of both as it is. -/
structure Silent (p : LinkPair) : Prop where
  serviceA : p.a.link.state = .InService
  serviceB : p.b.link.state = .InService
  emptyA : p.a.out = []
  emptyB : p.b.out = []
  txA : p.exchanged.a.link.tx = p.a.link.tx
  rxA : p.exchanged.a.link.rx = p.a.link.rx
  txB : p.exchanged.b.link.tx = p.b.link.tx
  rxB : p.exchanged.b.link.rx = p.b.link.rx

/-- Nothing is buffered or pending, and each side has been handed what the other submitted. -/
structure Drained (p : LinkPair) : Prop where
  unackedA : p.a.link.tx.unacked = []
  pendingA : p.a.link.tx.pending = []
  unackedB : p.b.link.tx.unacked = []
  pendingB : p.b.link.tx.pending = []
  aToB : p.b.delivered = p.a.submitted
  bToA : p.a.delivered = p.b.submitted

theorem step_deliver {p : LinkPair} {su : SignalUnit} {rest : List SignalUnit}
    (hout : p.a.out = su :: rest) :
    p.step (.atA .deliver) = ⟨p.a.sent, p.b.act (.handleSu su)⟩ :=
  stepA_deliver hout

theorem step_deliverBack {p : LinkPair} {su : SignalUnit} {rest : List SignalUnit}
    (hout : p.b.out = su :: rest) :
    p.step (.atB .deliver) = ⟨p.a.act (.handleSu su), p.b.sent⟩ :=
  congrArg swap (step_deliver (p := p.swap) hout)

/-- What a poll in service sends reaches a link in service as an acknowledgement. -/
theorem ack_of_poll {l l' : Mtp2Link} (hl : l.Undisturbed) (hs : l.state = .InService)
    (hl' : l'.Undisturbed) (hs' : l'.state = .InService) :
    ∃ su, l.pollTransmit.1 = some su ∧ l.pollTransmit.2.tx = l.tx.poll.2 ∧
      (l'.step (.handleSu su)).tx = l'.tx.onAck l.rx.bsn l.rx.bib := by
  obtain ⟨su, hsu, hsent⟩ := hl.pollTransmit_sent (by rw [hs]; nofun)
  rcases hsent with ⟨-, rfl, htx⟩ | ⟨hst, -⟩ | ⟨hst, -⟩
  · obtain ⟨header, msu, htr, -, hbsn, hbib⟩ := l.frameUnit_traffic l.tx.poll.1
    refine ⟨_, hsu, htx, ?_⟩
    rw [(hl'.handleSu_ready htr (by rw [hs']; rfl)).2.1, hbsn, hbib]
  · rw [hs] at hst; cases hst
  · rw [hs] at hst; cases hst

/-- **What an exchange does to the transmit sides**: a poll, and the other side's present
acknowledgement. -/
theorem exchanged_tx (h : p.Paired) (hs : p.a.link.state = .InService)
    (hs' : p.b.link.state = .InService) (ha : p.a.out = []) (hb : p.b.out = []) :
    p.exchanged.a.link.tx = p.a.link.tx.poll.2.onAck p.b.link.rx.bsn p.b.link.rx.bib ∧
      p.exchanged.b.link.tx = p.b.link.tx.poll.2.onAck p.a.link.rx.bsn p.a.link.rx.bib := by
  have hpoll {l : Mtp2Link} (hl : l.Undisturbed) (hs : l.state = .InService) :
      l.pollTransmit.2.Undisturbed ∧ l.pollTransmit.2.state = .InService :=
    ⟨hl.step (show Op.undisturbed .pollTransmit = true from rfl), l.pollTransmit_state.trans hs⟩
  obtain ⟨hau, has⟩ := hpoll h.soundA.undisturbed hs
  obtain ⟨hbu, hbs⟩ := hpoll h.soundB.undisturbed hs'
  obtain ⟨su, hsu, htx, hack⟩ := ack_of_poll h.soundA.undisturbed hs hbu hbs
  obtain ⟨su', hsu', htx', hack'⟩ := ack_of_poll h.soundB.undisturbed hs' hau has
  have hex : p.exchanged =
      ⟨(p.a.poll.sent).act (.handleSu su'), (p.b.poll.act (.handleSu su)).sent⟩ := by
    have hout : p.a.poll.out = [su] := by rw [Endpoint.poll, hsu, ha]; rfl
    have hout' : p.b.poll.out = [su'] := by rw [Endpoint.poll, hsu', hb]; rfl
    have hfirst : ((p.step (.atA .poll)).step (.atB .poll)).step (.atA .deliver) =
        ⟨p.a.poll.sent, p.b.poll.act (.handleSu su)⟩ :=
      step_deliver (p := ⟨p.a.poll, p.b.poll⟩) hout
    rw [exchanged, hfirst]
    exact step_deliverBack (p := ⟨p.a.poll.sent, p.b.poll.act (.handleSu su)⟩) hout'
  rw [hex]
  rw [htx'] at hack
  rw [htx] at hack'
  exact ⟨hack', hack⟩

end LinkPair

/-- **A poll and an acknowledgement that change nothing**: nothing was to be sent, nothing was
freed, and no new round was asked for. -/
theorem TxControl.unchanged {t : TxControl} {bsn : UInt8} {bib : Bool} (hm : t.method = .Basic)
    (h : t.poll.2.onAck bsn bib = t) :
    t.basicIndex = none ∧ t.pending = [] ∧ t.freedBy bsn = [] ∧ bib = t.fib := by
  have hpolled := t.polled
  generalize t.pollIndex = o, t.poll = r at hpolled h
  cases hpolled with
  | pcrFresh hm' _ _ => rw [hm] at hm'; cases hm'
  | pcrAgain hm' _ _ => rw [hm] at hm'; cases hm'
  | pcrFill hm' _ _ => rw [hm] at hm'; cases hm'
  | @basicAgain _ i hc hlt =>
    -- the cursor has moved on, and only freeing an MSU would move it back
    exfalso
    set t' : TxControl := { t with basicCursor := some (i + 1) } with ht'
    have hfib : bib = t'.fib := by
      have := onAck_fib (t := t') bsn bib hm
      rw [h] at this
      exact this.symm
    have hun := t'.onAck_unacked bsn bib
    have hcur := onAck_cursor_same (t := t') bsn hm hfib
    rw [h] at hun hcur
    by_cases hf : t'.freedBy bsn = []
    · rw [if_pos hf, hc] at hcur
      simp [ht'] at hcur
    · have hpos := List.length_pos_iff.mpr hf
      have hle := t'.freedBy_length_le bsn
      have hlen := congrArg List.length hun
      rw [List.length_drop] at hlen
      have : t'.unacked.length = t.unacked.length := rfl
      omega
  | @basicFresh _ _ sio sif rest hp =>
    -- the pending queue has become shorter
    have hpend := congrArg TxControl.pending h
    rw [onAck_pending, hp] at hpend
    have := congrArg List.length hpend
    simp [number] at this
  | basicFill _ hidle hp =>
    set t' : TxControl := { t with basicCursor := none } with ht'
    have hfib : bib = t'.fib := by
      have := onAck_fib (t := t') bsn bib hm
      rw [h] at this
      exact this.symm
    have hun := t'.onAck_unacked bsn bib
    rw [h] at hun
    refine ⟨hidle, hp, ?_, hfib⟩
    have hle := t'.freedBy_length_le bsn
    have hlen := congrArg List.length hun
    rw [List.length_drop] at hlen
    have : t'.unacked.length = t.unacked.length := rfl
    exact List.eq_nil_of_length_eq_zero (by
      show (t'.freedBy bsn).length = 0
      omega)

/-- **A silent direction is complete**, unless it is exposed. -/
theorem Conveys.complete {x y : Endpoint} {g : GoBackN.State Payload} (h : Conveys x y g)
    (hx : x.out = []) (he : x.exposed = false)
    (hsame : x.link.tx.poll.2.onAck y.link.rx.bsn y.link.rx.bib = x.link.tx) :
    x.link.tx.unacked = [] ∧ x.link.tx.pending = [] ∧ y.delivered = x.submitted := by
  obtain ⟨hidle, hp, hfreed, hbib⟩ := TxControl.unchanged h.rel.txMethod hsame
  -- a request not yet served would show in the BIB
  have hround : g.sRound = g.rRound := by
    rw [h.rel.bib, h.rel.fib, eq_comm] at hbib
    exact (roundBit_eq_iff h.inv.round_le h.inv.round_near).mp hbib
  have hqueue : g.queue = [] := h.rel.rel.queue.symm.trans hp
  have hdata : g.data = [] := by
    have := h.rel.rel.data_eq
    rw [Endpoint.frames, hx] at this
    exact List.map_eq_nil_iff.mp this.symm
  have hrecv : g.recv = g.sent.length :=
    (he ▸ h.covered).complete h.inv hround (h.rel.pos_of_idle hidle) hqueue hdata
  have hlen := h.rel.unacked_length
  have hwin := h.inv.window.window
  have hbase := h.inv.window.base_le
  -- everything is acknowledged by the BSN the other side sends all the time
  have hall : (x.link.tx.freedBy (seqOf (g.recv + 127))).length = g.recv - g.base := by
    rw [h.rel.rel.tracks.freedBy_length (by omega) hbase (by omega), if_pos (by omega)]
  rw [← h.rel.rel.awaits] at hall
  rw [RxControl.bsn] at hfreed
  rw [hfreed, List.length_nil] at hall
  refine ⟨List.eq_nil_of_length_eq_zero (by omega), hp, ?_⟩
  rw [h.delivered.accepted, h.delivered.submitted, hqueue, hrecv, List.append_nil,
    List.take_length]

/-- **An exposed direction is not**: what was given up has not been delivered. -/
theorem Conveys.incomplete {x y : Endpoint} {g : GoBackN.State Payload} (h : Conveys x y g)
    (he : x.exposed = true) : y.delivered ≠ x.submitted := by
  have hgone := h.covered.givenUp he
  intro heq
  have hlen := congrArg List.length heq
  rw [h.delivered.accepted, h.delivered.submitted, hgone.queue, List.append_nil,
    List.length_take] at hlen
  have := hgone.lacks
  omega

namespace LinkPair

/-- **No silent stall, within what retransmission can repair.** In every run of two links from
power-off whose operations are all `Repairable`, a silent pair has delivered everything if
and only if no gap went unseen at its end. -/
theorem drained_iff_of_silent {ca cb : Mtp2Config} (ha : ca.method = .Basic)
    (hb : cb.method = .Basic) (hta : 1 ≤ ca.suermThreshold.toNat)
    (htb : 1 ≤ cb.suermThreshold.toNat) (ops : List PairOp)
    (hops : Run.Along step Repairable (started ca cb) ops) :
    let p := ops.foldl step (started ca cb)
    p.Silent → (p.Drained ↔ p.a.exposed = false ∧ p.b.exposed = false) := by
  intro p hs
  have h : p.Paired := Run.invariant_along Paired (fun p op h hop => h.step hop)
    (paired_started ha hb hta htb) hops
  have hl : p.Live := by
    rcases h.live with ho | ho | hl
    · rw [hs.serviceA] at ho; cases ho
    · rw [hs.serviceB] at ho; cases ho
    · exact hl
  obtain ⟨g, hg⟩ := hl.aToB
  obtain ⟨g', hg'⟩ := hl.bToA
  obtain ⟨htx, htx'⟩ := exchanged_tx h hs.serviceA hs.serviceB hs.emptyA hs.emptyB
  constructor
  · -- what was given up is missing at the other end
    intro hd
    exact ⟨Bool.eq_false_iff.mpr fun he => hg.incomplete he hd.aToB,
      Bool.eq_false_iff.mpr fun he => hg'.incomplete he hd.bToA⟩
  · rintro ⟨hea, heb⟩
    obtain ⟨hua, hpa, hab⟩ := hg.complete hs.emptyA hea (htx.symm.trans hs.txA)
    obtain ⟨hub, hpb, hba⟩ := hg'.complete hs.emptyB heb (htx'.symm.trans hs.txB)
    exact ⟨hua, hpa, hub, hpb, hab, hba⟩

/-- A configuration that proves for one tick. -/
def quick : Mtp2Config := { t4ProvingNormal := 1 }

/-- From power-off into service: SIO, SIN, one tick of proving, and FISUs. -/
def upRun : List PairOp :=
  [.atA .poll, .atA .deliver, .atB .poll, .atB .deliver, .atA .poll, .atA .deliver, .atB .poll,
    .atB .deliver, .atA .tick, .atB .tick, .atA .poll, .atA .deliver, .atB .poll, .atB .deliver]

/-- The first MSU is lost on the way. -/
def lostRun : List PairOp := upRun ++ [.atA (.submit 1 [7]), .atA .poll, .atA (.lose 0)]

/-- The second shows the gap, and a round of retransmission repairs it. -/
def repairedRun : List PairOp :=
  lostRun ++ [.atA (.submit 2 [8]), .atA .poll, .atA .deliver, .atB .poll, .atB .deliver,
    .atA .poll, .atA .deliver, .atA .poll, .atA .deliver, .atB .poll, .atB .deliver, .atA .poll,
    .atA .deliver, .atB .poll, .atB .deliver]

/-- A lost MSU is sent again, and the pair is drained in the end. -/
theorem drained_after_repair :
    let p := repairedRun.foldl step (started quick quick)
    p.Drained ∧ p.b.delivered = [(1, [7]), (2, [8])] :=
  ⟨(drained_iff_of_silent rfl rfl (by decide) (by decide) repairedRun (by decide +kernel)
    ⟨by decide +kernel, by decide +kernel, by decide +kernel, by decide +kernel, by decide +kernel,
      by decide +kernel, by decide +kernel, by decide +kernel⟩).mpr
    ⟨by decide +kernel, by decide +kernel⟩, by decide +kernel⟩

/-- With nothing sent after the lost MSU no FISU shows the gap: both ends are silent, and the
MSU stays in the buffer. -/
theorem silent_not_drained :
    ¬ ∀ (ca cb : Mtp2Config) (ops : List PairOp), ca.method = .Basic → cb.method = .Basic →
      (ops.foldl step (started ca cb)).Silent → (ops.foldl step (started ca cb)).Drained := by
  intro h
  have hd := h quick quick lostRun rfl rfl
    ⟨by decide +kernel, by decide +kernel, by decide +kernel, by decide +kernel, by decide +kernel,
      by decide +kernel, by decide +kernel, by decide +kernel⟩
  have hne : (lostRun.foldl step (started quick quick)).a.link.tx.unacked ≠ [] := by decide +kernel
  exact hne hd.unackedA

end LinkPair

end Mtp2
