import Mtp2.Duplex
import Mtp2.Follow

/-!
# MTP2 — neither end serves alone

Two links started once and joined by pipes that may lose or damage a unit, whatever their methods. A
link enters service on a unit that only a link past its own proving sends, so when one end is in
service the other has proved the link too, and is not aligning any more.

* **`enters_service`** — the unit on which a link enters service;
* **`pollTransmit_wakes`** — the states that send such a unit;
* **`never_alone`** — the agreement, over every run.
-/

namespace Mtp2

/-- Past proving: waiting for the peer, or in service. -/
def Mtp2State.proved (s : Mtp2State) : Bool := s.awaitsPeer || s.carriesTraffic

theorem Mtp2State.proved_iff {s : Mtp2State} :
    s.proved = true ↔ s.awaitsPeer = true ∨ s.carriesTraffic = true := by
  rw [proved, Bool.or_eq_true]

namespace Mtp2Link

variable {l l' : Mtp2Link} {age : ℕ} {op : Op}

/-- **A link enters service from Aligned Ready, on a FISU, an MSU or an SIPO.** -/
theorem enters_service (h : l.Represented age) (hs : l.state.carriesTraffic = false)
    (hs' : (l.step op).state.carriesTraffic = true) :
    l.state = .AlignedReady ∧ ∃ su, op = .handleSu su ∧ su.wakes = true := by
  have hlocal := l.step_local op
  cases op with
  | handleSu su =>
    rw [step, handleSu_of_not_traffic hs] at hs'
    -- a FISU or MSU takes only Aligned Ready into service, an LSSU only as SIPO
    cases htr : su.traffic with
    | some p =>
      refine ⟨?_, su, rfl, (SignalUnit.wakes_of_traffic (by rw [htr]; simp)).1⟩
      rw [handleUnit_traffic htr] at hs'
      rcases l.handleFisuOrMsu_cases p.1 p.2 with ⟨ha, -⟩ | ⟨hc, -⟩ | ⟨-, -, heq⟩
      · exact ha
      · rw [hs] at hc; cases hc
      · rw [heq, hs] at hs'; cases hs'
    | none =>
      cases su with
      | Fisu header | Msu header sio sif => cases htr
      | Lssu header status extended =>
        have ho := l.handleLssu_outcome status
        have hup := l.upgradeEmergency_eq status
        change (l.handleLssu status).state.carriesTraffic = true at hs'
        generalize l.handleLssu status = l' at ho hs'
        cases ho with
        | serving ha => exact ⟨ha, _, rfl, rfl⟩
        | ignored _ => rw [hup, hs] at hs'; cases hs'
        | aligned | proving | reproving | fallback | failed | released | realigned => cases hs'
        | outage hc | outageAgain hc | busy hc | busyAgain hc => rw [hs] at hc; cases hc
  | start =>
    change l.start.state.carriesTraffic = true at hs'
    unfold start at hs'
    split at hs'
    · rw [hs] at hs'; cases hs'
    · cases hs'
  | stop => cases hs'
  | handleCorruptedSu =>
    have ho := l.handleCorruptedSu_outcome
    change l.handleCorruptedSu.state.carriesTraffic = true at hs'
    generalize l.handleCorruptedSu = l' at ho hs'
    cases ho with
    | counted | recorded | ignored => rw [hs] at hs'; cases hs'
    | failed => cases hs'
    -- an abort ends in Aligned or out of service
    | aborted =>
      unfold provingAborted at hs'
      split at hs' <;> cases hs'
  | tick =>
    have ho := tick_outcome h
    change l.tick.state.carriesTraffic = true at hs'
    generalize l.tick = l' at ho hs'
    cases ho with
    | stepped => rw [show l.stepTimers.state = l.state from rfl, hs] at hs'; cases hs'
    | alignmentFailed | serviceFailed => cases hs'
    | proved _ _ =>
      unfold provingSucceeded at hs'
      split at hs' <;> cases hs'
  | _ => rw [(hlocal rfl).carriesTraffic, hs] at hs'; cases hs'

/-- **Only a link past its proving sends a unit that wakes its peer.** -/
theorem pollTransmit_wakes {su : SignalUnit} (hsu : l.pollTransmit.1 = some su)
    (hw : su.wakes = true) : l.state.proved = true := by
  unfold pollTransmit at hsu
  cases hs : l.state with
  | AlignedReady | AlignedNotReady | InService | ProcessorOutage => rfl
  -- before the end of proving a link sends SIOS, SIO, SIN or SIE, and none of them wakes
  | OutOfService =>
    rw [hs] at hsu
    dsimp only at hsu
    split at hsu
    · cases hsu; cases hw
    · cases hsu
  | NotAligned => rw [hs] at hsu; cases hsu; cases hw
  | Aligned | Proving =>
    rw [hs] at hsu
    cases hsu
    revert hw
    unfold lssu alignmentStatus
    split <;> exact fun hw => by cases hw

/-- Past its proving a link stays so until it goes out of service. -/
theorem proved_step (h : l.Represented age) (hop : op ≠ .start)
    (hs : l.state.proved = true ∨ l.state = .OutOfService) :
    (l.step op).state.proved = true ∨ (l.step op).state = .OutOfService := by
  have hm := step_moved h op
  generalize l.step op = l' at hm
  cases hm with
  | failed hs' => exact .inr hs'
  | stayed hs' _ => rw [hs']; exact hs
  | started _ => exact absurd rfl hop
  | waited _ hs' => exact .inl (Mtp2State.proved_iff.mpr (.inl hs'))
  | served _ hs' => exact .inl (Mtp2State.proved_iff.mpr (.inr hs'))
  | aligned hs₀ | entered hs₀ | proving hs₀ => rw [hs₀] at hs; rcases hs with hs | hs <;> cases hs

/-- A link gets past its proving by waiting for its peer. -/
theorem awaits_of_proved (h : l.Represented age) (hs : l.state.proved = false)
    (hs' : (l.step op).state.proved = true) : (l.step op).state.awaitsPeer = true := by
  refine (Mtp2State.proved_iff.mp hs').resolve_right fun hc => ?_
  have hne : l.state.carriesTraffic = false := by
    rw [Mtp2State.proved, Bool.or_eq_false_iff] at hs
    exact hs.2
  rw [(enters_service h hne hc).1] at hs
  cases hs

end Mtp2Link

/-! ## The pair -/

namespace LinkPair

/-- What the pair keeps of an end `x` and of the other end `y`, with `waited` for the fact that `x`
has waited for its peer. -/
structure Vouched (x y : Endpoint) (waited : Prop) : Prop where
  represented : ∃ age, x.link.Represented age
  proved : x.link.state.proved = true → waited
  sent : ∀ su ∈ x.out, su.wakes = true → waited
  served : y.link.state.carriesTraffic = true → waited

namespace Vouched

variable {x y x' y' : Endpoint} {waited waited' : Prop} {op : Op}

/-- The end itself moves. -/
theorem act (h : Vouched x y waited) (hx : x'.link = x.link.step op)
    (hout : ∀ su ∈ x'.out, su ∈ x.out ∨ x.link.pollTransmit.1 = some su)
    (hmono : waited → waited') (hnow : x'.link.state.awaitsPeer = true → waited') :
    Vouched x' y waited' := by
  obtain ⟨age, hrep⟩ := h.represented
  refine ⟨⟨_, hx ▸ hrep.step op⟩, fun hp => ?_, fun su hsu hw => ?_, fun hc => hmono (h.served hc)⟩
  · cases hs : x.link.state.proved with
    | true => exact hmono (h.proved hs)
    -- it gets past its proving with this very step, so it waits for its peer now
    | false =>
      rw [hx] at hp hnow
      exact hnow (Mtp2Link.awaits_of_proved hrep hs hp)
  · rcases hout su hsu with hmem | hpoll
    · exact hmono (h.sent su hmem hw)
    · exact hmono (h.proved (Mtp2Link.pollTransmit_wakes hpoll hw))

/-- Units leave its pipe. -/
theorem shrink (h : Vouched x y waited) (hx : x'.link = x.link) (hout : ∀ su ∈ x'.out, su ∈ x.out) :
    Vouched x' y waited :=
  ⟨hx ▸ h.represented, by rw [hx]; exact h.proved, fun su hsu => h.sent su (hout su hsu), h.served⟩

/-- The other end moves: it enters service on a unit that was on its way. -/
theorem actOther (h : Vouched x y waited) {age : ℕ} (hy : y.link.Represented age)
    (hy' : y'.link = y.link.step op)
    (hop : ∀ su, op = .handleSu su → su.wakes = true → waited) : Vouched x y' waited := by
  refine ⟨h.represented, h.proved, h.sent, fun hc => ?_⟩
  cases hs : y.link.state.carriesTraffic with
  | true => exact h.served hs
  | false =>
    rw [hy'] at hc
    obtain ⟨-, su, rfl, hw⟩ := Mtp2Link.enters_service hy hs hc
    exact hop su rfl hw

end Vouched

/-- Each end vouches for what the other relies on. -/
structure Agreed (p : LinkPair) (waitedA waitedB : Prop) : Prop where
  a : Vouched p.a p.b waitedA
  b : Vouched p.b p.a waitedB

namespace Agreed

variable {p : LinkPair} {waitedA waitedB waitedA' waitedB' : Prop}

theorem swap (h : p.Agreed waitedA waitedB) : p.swap.Agreed waitedB waitedA := ⟨h.b, h.a⟩

theorem mono (h : p.Agreed waitedA waitedB) (ha : waitedA → waitedA') (hb : waitedB → waitedB') :
    p.Agreed waitedA' waitedB' :=
  ⟨⟨h.a.represented, fun hp => ha (h.a.proved hp), fun su hsu hw => ha (h.a.sent su hsu hw),
      fun hc => ha (h.a.served hc)⟩,
    ⟨h.b.represented, fun hp => hb (h.b.proved hp), fun su hsu hw => hb (h.b.sent su hsu hw),
      fun hc => hb (h.b.served hc)⟩⟩

/-- The units in the pipe after a call. -/
theorem call_out (x : Endpoint) {op : Op} {su : SignalUnit} (hsu : su ∈ (x.call op).out) :
    su ∈ x.out ∨ x.link.pollTransmit.1 = some su := by
  cases op with
  | pollTransmit =>
    rcases List.mem_append.mp hsu with hsu | hsu
    · exact .inl hsu
    · exact .inr (Option.mem_toList.mp hsu)
  | submitMsu sio sif =>
    change su ∈ (x.submit sio sif).out at hsu
    unfold Endpoint.submit at hsu
    split at hsu <;> exact .inl hsu
  | _ => exact .inl hsu

/-- One move at the end `a`, under facts that only grow and that hold of the ends after it. -/
theorem moveA (h : p.Agreed waitedA waitedB) (op : SideOp) (ha : waitedA → waitedA')
    (hb : waitedB → waitedB') (hnowA : (p.moveA op).a.link.state.awaitsPeer = true → waitedA')
    (hnowB : (p.moveA op).b.link.state.awaitsPeer = true → waitedB') :
    (p.moveA op).Agreed waitedA' waitedB' := by
  obtain ⟨ageA, hrepA⟩ := h.a.represented
  obtain ⟨ageB, hrepB⟩ := h.b.represented
  cases op with
  | call op own =>
    have hlink : (p.a.call op).link = p.a.link.step op := p.a.call_link op
    refine ⟨h.a.act hlink (fun su => call_out p.a) ha hnowA, ?_⟩
    -- what `a` calls itself is not a received unit, so it wakes nobody
    refine ((h.mono ha hb).b).actOther hrepA hlink ?_
    rintro su rfl
    cases own
  | lose i =>
    refine ⟨(h.mono ha hb).a.shrink rfl fun su hsu => List.mem_of_mem_eraseIdx hsu, ?_⟩
    exact ⟨h.b.represented, (h.mono ha hb).b.proved, (h.mono ha hb).b.sent, (h.mono ha hb).b.served⟩
  | deliver =>
    cases hout : p.a.out with
    | nil => rw [moveA_deliver_nil hout]; exact h.mono ha hb
    | cons su rest =>
      rw [moveA_deliver hout] at hnowA hnowB ⊢
      have hsent : Vouched p.a.sent p.b waitedA' :=
        (h.mono ha hb).a.shrink rfl fun su' => List.mem_of_mem_tail
      have hlink : (p.b.act (.handleSu su)).link = p.b.link.step (.handleSu su) := rfl
      refine ⟨?_, ?_⟩
      · -- the unit came out of the pipe of `a`, which vouches for it
        refine hsent.actOther hrepB hlink ?_
        rintro su' heq hw
        cases heq
        exact ha (h.a.sent su (by rw [hout]; exact List.mem_cons_self) hw)
      · have hact := h.b.act hlink (fun su' hsu' => .inl hsu') hb hnowB
        exact ⟨hact.represented, hact.proved, hact.sent, hact.served⟩
  | corrupt =>
    cases hout : p.a.out with
    | nil => rw [moveA_corrupt_nil hout]; exact h.mono ha hb
    | cons su rest =>
      rw [moveA_corrupt hout] at hnowA hnowB ⊢
      have hsent : Vouched p.a.sent p.b waitedA' :=
        (h.mono ha hb).a.shrink rfl fun su' => List.mem_of_mem_tail
      have hlink : (p.b.act .handleCorruptedSu).link = p.b.link.step .handleCorruptedSu := rfl
      refine ⟨?_, ?_⟩
      · -- a damaged unit wakes nobody
        exact hsent.actOther hrepB hlink (by simp)
      · have hact := h.b.act hlink (fun su' hsu' => .inl hsu') hb hnowB
        exact ⟨hact.represented, hact.proved, hact.sent, hact.served⟩

theorem move (h : p.Agreed waitedA waitedB) (op : DuplexOp) (ha : waitedA → waitedA')
    (hb : waitedB → waitedB') (hnowA : (p.move op).a.link.state.awaitsPeer = true → waitedA')
    (hnowB : (p.move op).b.link.state.awaitsPeer = true → waitedB') :
    (p.move op).Agreed waitedA' waitedB' := by
  cases op with
  | atA op => exact h.moveA op ha hb hnowA hnowB
  | atB op => exact (h.swap.moveA op hb ha hnowB hnowA).swap

/-- `a`, or `b`, has waited for its peer in some state of the run. -/
def WaitedA (ca cb : Mtp2Config) : List DuplexOp → Prop :=
  Run.Once LinkPair.move (fun p => p.a.link.state.awaitsPeer = true) (started ca cb)

def WaitedB (ca cb : Mtp2Config) : List DuplexOp → Prop :=
  Run.Once LinkPair.move (fun p => p.b.link.state.awaitsPeer = true) (started ca cb)

theorem started (config config' : Mtp2Config) (waited : Prop) :
    Vouched (.started config) (.started config') waited :=
  ⟨Mtp2Link.represented_of_run config [.start], (fun h => by cases h), (fun _ h => by cases h),
    fun h => by cases h⟩

/-- In every run of the pair each end vouches for what the other relies on. -/
theorem run (ca cb : Mtp2Config) (ops : List DuplexOp) :
    (ops.foldl LinkPair.move (LinkPair.started ca cb)).Agreed (WaitedA ca cb ops)
      (WaitedB ca cb ops) := by
  induction ops using List.reverseRecOn with
  | nil => exact ⟨started ca cb _, started cb ca _⟩
  | append_singleton ops op ih =>
    have hsnoc : (ops ++ [op]).foldl LinkPair.move (LinkPair.started ca cb) =
        (ops.foldl LinkPair.move (LinkPair.started ca cb)).move op := List.foldl_append
    rw [hsnoc]
    exact ih.move op (fun h => h.snoc op) (fun h => h.snoc op)
      (fun h => Run.Once.now (hsnoc ▸ h)) (fun h => Run.Once.now (hsnoc ▸ h))

end Agreed

/-! ## Past proving -/

/-- Past its proving, or out of service since. -/
structure Settled (l : Mtp2Link) : Prop where
  represented : ∃ age, l.Represented age
  settled : l.state.proved = true ∨ l.state = .OutOfService

theorem Settled.step {l : Mtp2Link} (h : Settled l) {op : Op} (hop : op ≠ .start) :
    Settled (l.step op) := by
  obtain ⟨age, hrep⟩ := h.represented
  exact ⟨⟨_, hrep.step op⟩, Mtp2Link.proved_step hrep hop h.settled⟩

/-- Once settled, either end stays so. -/
theorem settled_move (p : LinkPair) (op : DuplexOp) :
    (Settled p.a.link → Settled (p.move op).a.link) ∧
      (Settled p.b.link → Settled (p.move op).b.link) := by
  have hend {l l' : Mtp2Link} (h : l' = l ∨ ∃ o ≠ .start, l' = l.step o) (hl : Settled l) :
      Settled l' := by
    rcases h with rfl | ⟨o, ho, rfl⟩
    · exact hl
    · exact hl.step ho
  cases op with
  | atA op => exact ⟨hend (p.moveA_links op).1, hend (p.moveA_links op).2⟩
  | atB op => exact ⟨hend (p.swap.moveA_links op).2, hend (p.swap.moveA_links op).1⟩

/-- **Neither end serves alone.** In every run of two links started once, over pipes that may lose
and damage units, whatever else is called at either end: an end in service has a peer that has
waited for it in Aligned Ready or Aligned Not Ready before, and that since then has been past its
proving or has gone out of service. -/
theorem never_alone (ca cb : Mtp2Config) (ops : List DuplexOp) :
    let p := ops.foldl move (started ca cb)
    (p.a.link.state.carriesTraffic = true →
      (∃ ops', ops' <+: ops ∧
        (ops'.foldl move (started ca cb)).b.link.state.awaitsPeer = true) ∧
      (p.b.link.state.proved = true ∨ p.b.link.state = .OutOfService)) ∧
    (p.b.link.state.carriesTraffic = true →
      (∃ ops', ops' <+: ops ∧
        (ops'.foldl move (started ca cb)).a.link.state.awaitsPeer = true) ∧
      (p.a.link.state.proved = true ∨ p.a.link.state = .OutOfService)) := by
  intro p
  have hagreed := Agreed.run ca cb ops
  refine ⟨fun hc => ?_, fun hc => ?_⟩
  · obtain ⟨ops', ⟨later, rfl⟩, hwait⟩ := hagreed.b.served hc
    refine ⟨⟨ops', List.prefix_append _ _, hwait⟩, ?_⟩
    have hset : Settled (ops'.foldl move (started ca cb)).b.link :=
      ⟨(Agreed.run ca cb ops').b.represented, .inl (Mtp2State.proved_iff.mpr (.inl hwait))⟩
    have hrun := Run.invariant (fun p : LinkPair => Settled p.b.link)
      (fun p op => (p.settled_move op).2) hset later
    rw [← List.foldl_append] at hrun
    exact hrun.settled
  · obtain ⟨ops', ⟨later, rfl⟩, hwait⟩ := hagreed.a.served hc
    refine ⟨⟨ops', List.prefix_append _ _, hwait⟩, ?_⟩
    have hset : Settled (ops'.foldl move (started ca cb)).a.link :=
      ⟨(Agreed.run ca cb ops').a.represented, .inl (Mtp2State.proved_iff.mpr (.inl hwait))⟩
    have hrun := Run.invariant (fun p : LinkPair => Settled p.a.link)
      (fun p op => (p.settled_move op).1) hset later
    rw [← List.foldl_append] at hrun
    exact hrun.settled

end LinkPair

end Mtp2
