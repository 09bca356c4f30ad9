import Mtp2.Delivery

/-!
# MTP2 — a link without disturbance

A link that knows no congestion, no processor outage and no transmission error, and whose peer
reports none: what it sends, and what it makes of what it receives.

* **`Undisturbed.step`** — such a link stays so;
* **`Undisturbed.handleSu_ready`**, **`Undisturbed.handleSu_other`** — a unit is processed by the
  two controllers, or leaves them alone;
* **`Undisturbed.pollTransmit_sent`** — the unit sent, by link state.
-/

namespace Mtp2

/-- Aligned Ready or In Service: the link sends FISUs. -/
def Mtp2State.ready : Mtp2State → Bool
  | .AlignedReady | .InService => true
  | _ => false

namespace SignalUnit

/-- Not a report of congestion or processor outage. -/
def undisturbed : SignalUnit → Bool
  | .Lssu _ status _ => status ≠ .Busy ∧ status ≠ .ProcessorOutage
  | _ => true

/-- What a unit carries forward. -/
def frame : SignalUnit → Option TxFrame
  | .Fisu header => some ⟨header.fsn, header.fib, .Fisu⟩
  | .Msu header sio sif => some ⟨header.fsn, header.fib, .Msu sio sif⟩
  | .Lssu _ _ _ => none

/-- What a unit carries backward. -/
def ack : SignalUnit → Option (UInt8 × Bool)
  | .Fisu header | .Msu header _ _ => some (header.bsn, header.bib)
  | .Lssu _ _ _ => none

end SignalUnit

/-- The operations of an undisturbed link. -/
def Op.undisturbed : Op → Bool
  | .submitMsu _ _ | .pollTransmit | .tick => true
  | .handleSu su => su.undisturbed
  | _ => false

namespace Mtp2Link

variable {l l' : Mtp2Link}

/-- A unit built from a frame acknowledges what the link has received. -/
theorem frameUnit_traffic (l : Mtp2Link) (f : TxFrame) :
    ∃ header msu, (l.frameUnit f).traffic = some (header, msu) ∧
      (l.frameUnit f).ack = some (l.rx.bsn, l.rx.bib) ∧ header.bsn = l.rx.bsn ∧
      header.bib = l.rx.bib := by
  obtain ⟨fsn, fib, body⟩ := f
  cases body with
  | Fisu => exact ⟨_, _, rfl, rfl, rfl, rfl⟩
  | Msu sio sif =>
    unfold frameUnit SignalUnit.msu
    dsimp only
    split
    · next h =>
      split at h
      · cases h
      · cases h; exact ⟨_, _, rfl, rfl, rfl, rfl⟩
    · exact ⟨_, _, rfl, rfl, rfl, rfl⟩

/-- An MSU that fits goes out as it is: the FISU in its place is never taken. -/
theorem frameUnit_msu (l : Mtp2Link) {sio : UInt8} {sif : List UInt8} (hfit : Fits (sio, sif))
    (fsn : UInt8) (fib : Bool) : l.frameUnit ⟨fsn, fib, .Msu sio sif⟩ =
      .Msu ⟨l.rx.bsn, l.rx.bib, fsn, fib⟩ sio sif := by
  have hmsu (header : SuHeader) : SignalUnit.msu header sio sif = .ok (.Msu header sio sif) := by
    rw [SignalUnit.msu]
    exact if_neg (Nat.not_lt.mpr hfit)
  rw [frameUnit]
  dsimp only
  rw [hmsu]

/-- It carries the frame unless the MSU is too large. -/
theorem frameUnit_frame (l : Mtp2Link) {f : TxFrame}
    (hfit : ∀ sio sif, f.body = .Msu sio sif → Fits (sio, sif)) :
    (l.frameUnit f).frame = some f := by
  obtain ⟨fsn, fib, body⟩ := f
  cases body with
  | Fisu => rfl
  | Msu sio sif =>
    rw [l.frameUnit_msu (hfit sio sif rfl)]
    rfl

/-- No congestion, no outage and no errors, as far as the link can tell. -/
structure Clear (l : Mtp2Link) : Prop where
  localProcessorOutage : l.localProcessorOutage = false
  remoteProcessorOutage : l.remoteProcessorOutage = false
  localBusy : l.localBusy = false
  remoteBusy : l.remoteBusy = false
  count : l.suerm.count = 0
  failed : l.suerm.failed = false
  threshold : 1 ≤ l.suerm.threshold.toNat

/-- What a disturbance would change. -/
def disturbances (l : Mtp2Link) :=
  (l.localProcessorOutage, l.remoteProcessorOutage, l.localBusy, l.remoteBusy, l.suerm)

namespace Clear

theorem congr (h : l.Clear) (heq : l'.disturbances = l.disturbances) : l'.Clear := by
  simp only [disturbances, Prod.mk.injEq] at heq
  obtain ⟨hlpo, hrpo, hlb, hrb, hsuerm⟩ := heq
  exact ⟨hlpo.trans h.1, hrpo.trans h.2, hlb.trans h.3, hrb.trans h.4, by rw [hsuerm]; exact h.5,
    by rw [hsuerm]; exact h.6, by rw [hsuerm]; exact h.7⟩

theorem failOutOfService (h : l.Clear) (reason : OutOfServiceReason) :
    (l.failOutOfService reason).Clear := ⟨h.1, rfl, rfl, rfl, h.5, h.6, h.7⟩

/-- The SUERM of a clear link does not trip. -/
theorem withSuerm (h : l.Clear) : (l.suerm.record false).1 = false ∧ l.withSuerm.Clear := by
  obtain ⟨hr, hc, hf, ht⟩ := Suerm.record_false_of_empty h.count h.failed h.threshold
  refine ⟨hr, ?_⟩
  unfold Mtp2Link.withSuerm
  split
  · exact ⟨h.1, h.2, h.3, h.4, hc, hf, by rw [ht]; exact h.threshold⟩
  · exact h.congr rfl

/-- With the SUERM quiet, a unit is handled in the state it finds. -/
theorem handleSu_eq (h : l.Clear) (su : SignalUnit) :
    l.handleSu su = l.withSuerm.handleUnit su := by
  have hr := h.withSuerm.1
  unfold handleSu Mtp2Link.withSuerm
  split
  · simp only [hr, Bool.false_eq_true, if_false]
    cases su <;> rfl
  · cases su <;> rfl

/-- A FISU or MSU disturbs nothing. -/
theorem handleFisuOrMsu (h : l.Clear) (header : SuHeader) (msu : Option Payload) :
    (l.handleFisuOrMsu header msu).Clear := by
  rcases l.handleFisuOrMsu_cases header msu with ⟨-, heq⟩ | ⟨-, heq⟩ | ⟨-, -, heq⟩ <;> rw [heq]
  · rw [processInServiceSu_eq]
    exact ⟨h.1, rfl, h.3, rfl, rfl, rfl, h.7⟩
  · rw [processInServiceSu_eq]
    exact ⟨h.1, rfl, h.3, rfl, h.5, h.6, h.7⟩
  · exact h

/-- Nor does a status indication other than SIB and SIPO. -/
theorem handleLssu (h : l.Clear) {status : StatusIndication} (hb : status ≠ .Busy)
    (hp : status ≠ .ProcessorOutage) : (l.handleLssu status).Clear := by
  have ho := l.handleLssu_outcome status
  have hup : (l.upgradeEmergency status).Clear := by
    rw [upgradeEmergency_eq]
    exact h.congr rfl
  generalize l.handleLssu status = l' at ho ⊢
  cases ho with
  | ignored _ => exact hup
  | aligned _ _ => exact hup.congr rfl
  | proving _ _ => exact hup.congr rfl
  | reproving _ | fallback _ | failed _ => exact h.congr rfl
  | released _ | realigned _ _ => exact h.failOutOfService _
  | serving _ | outage _ _ | outageAgain _ _ => exact absurd rfl hp
  | busy _ _ | busyAgain _ _ => exact absurd rfl hb

/-- So no undisturbed unit does. -/
theorem handleSu (h : l.Clear) {su : SignalUnit} (hsu : su.undisturbed = true) :
    (l.handleSu su).Clear := by
  rw [h.handleSu_eq]
  have h' := h.withSuerm.2
  cases su with
  | Fisu header => exact h'.handleFisuOrMsu header none
  | Msu header sio sif => exact h'.handleFisuOrMsu header (some (sio, sif))
  | Lssu header status extended =>
    obtain ⟨hb, hp⟩ := of_decide_eq_true hsu
    exact h'.handleLssu hb hp

end Clear

/-- A clear link in a state some run leads to. -/
structure Undisturbed (l : Mtp2Link) : Prop extends Clear l where
  represented : ∃ age, l.Represented age

namespace Undisturbed

theorem started (config : Mtp2Config) (h : 1 ≤ config.suermThreshold.toNat) :
    ((new config).step .start).Undisturbed :=
  ⟨⟨rfl, rfl, rfl, rfl, rfl, rfl, h⟩, represented_of_run config [.start]⟩

/-- It never waits for a processor. -/
theorem state_ne (h : l.Undisturbed) : l.state ≠ .AlignedNotReady ∧ l.state ≠ .ProcessorOutage := by
  obtain ⟨age, hrep⟩ := h.represented
  refine ⟨fun hs => ?_, fun hs => ?_⟩
  · have := hrep.lpo_set (.inl hs)
    rw [h.localProcessorOutage] at this; cases this
  · have := hrep.lpo_set (.inr hs)
    rw [h.localProcessorOutage] at this; cases this

/-- **An undisturbed link stays so.** -/
theorem step (h : l.Undisturbed) {op : Op} (hop : op.undisturbed = true) :
    (l.step op).Undisturbed := by
  obtain ⟨age, hrep⟩ := h.represented
  refine ⟨?_, _, hrep.step op⟩
  cases op with
  | submitMsu sio sif =>
    rw [Mtp2Link.step, submitMsu_eq]
    exact h.toClear.congr rfl
  | pollTransmit =>
    rw [Mtp2Link.step, pollTransmit_eq]
    exact h.toClear.congr rfl
  | handleSu su => exact h.toClear.handleSu hop
  | tick =>
    have ho := tick_outcome hrep
    show l.tick.Clear
    generalize l.tick = l' at ho ⊢
    cases ho with
    | stepped | alignmentFailed _ => exact h.toClear.congr rfl
    | proved _ _ =>
      unfold provingSucceeded
      split <;> exact h.toClear.congr rfl
    | serviceFailed _ => exact h.toClear.failOutOfService _
  | start | stop | setEmergency | localProcessorOutage | localProcessorRecovered | localBusy
  | localBusyEnded | pollEvent | handleCorruptedSu => cases hop

/-- **Its state only moves onward**: once ready it stays ready, once in service it stays in
service, or it fails. Out of service it stays. -/
theorem step_state (h : l.Undisturbed) {op : Op} (hop : op.undisturbed = true) :
    (l.step op).state = .OutOfService ∨
      l.state ≠ .OutOfService ∧ (l.state.ready = true → (l.step op).state.ready = true) ∧
        (l.state = .InService → (l.step op).state = .InService) := by
  obtain ⟨age, hrep⟩ := h.represented
  obtain ⟨han, hpo⟩ := (h.step hop).state_ne
  have hm := step_moved hrep op
  generalize l.step op = l' at hm han hpo
  cases hm with
  | failed hs' => exact .inl hs'
  | stayed hs' _ =>
    by_cases ho : l.state = .OutOfService
    · exact .inl (hs'.trans ho)
    · exact .inr ⟨ho, by rw [hs']; exact id, fun hs => hs'.trans hs⟩
  | started _ => cases hop
  | aligned hs _ | entered hs | proving hs =>
    exact .inr ⟨by rw [hs]; nofun, by rw [hs]; nofun, by rw [hs]; nofun⟩
  | waited hs hs' =>
    -- without a local outage it waits in Aligned Ready
    have hready : l'.state = .AlignedReady := by
      cases hst : l'.state with
      | AlignedReady => rfl
      | AlignedNotReady => exact absurd hst han
      | _ => rw [hst] at hs'; cases hs'
    refine .inr ⟨fun ho => ?_, fun _ => by rw [hready]; rfl, fun hi => ?_⟩
    · rw [ho] at hs; cases hs
    · rw [hi] at hs; cases hs
  | served hs hs' =>
    -- and serves In Service
    have hserv : l'.state = .InService := by
      cases hst : l'.state with
      | InService => rfl
      | ProcessorOutage => exact absurd hst hpo
      | _ => rw [hst] at hs'; cases hs'
    refine .inr ⟨fun ho => ?_, fun _ => by rw [hserv]; rfl, fun _ => hserv⟩
    rw [ho] at hs
    rcases hs with hs | hs <;> cases hs

/-! ## Receiving -/

/-- **A FISU or MSU reaches a ready link**: both controllers see it. -/
theorem handleSu_ready (h : l.Undisturbed) {su : SignalUnit} {header : SuHeader}
    {msu : Option Payload} (hsu : su.traffic = some (header, msu)) (hs : l.state.ready = true) :
    (l.step (.handleSu su)).state = .InService ∧
      (l.step (.handleSu su)).tx = l.tx.onAck header.bsn header.bib ∧
      (l.step (.handleSu su)).rx = (l.checked header.fsn msu).2 ∧
      payloads (l.raised (.handleSu su)) =
        payloads (outcomeEvents (l.checked header.fsn msu).1) := by
  have hstate : l.state = .AlignedReady ∨ l.state.carriesTraffic = true := by
    cases hst : l.state with
    | AlignedReady => exact .inl rfl
    | InService => exact .inr rfl
    | _ => rw [hst] at hs; cases hs
  have hop : (Op.handleSu su).undisturbed = true := by cases su <;> first | rfl | cases hsu
  have hne := (h.step hop).state_ne.2
  have heq : l.step (.handleSu su) = l.withSuerm.handleFisuOrMsu header msu :=
    (h.handleSu_eq su).trans (handleUnit_traffic hsu)
  obtain ⟨hc, htx, hrx, he⟩ := handleFisuOrMsu_received (l := l.withSuerm) header msu hstate
  rw [← heq] at hc htx hrx he
  refine ⟨?_, htx, hrx, payloads_received he⟩
  cases hst : (l.step (.handleSu su)).state with
  | InService => rfl
  | ProcessorOutage => exact absurd hst hne
  | _ => rw [hst] at hc; cases hc

/-- A status indication does not touch the controllers, and only SIPO begins service. -/
theorem handleLssu_controllers (l : Mtp2Link) {status : StatusIndication}
    (hp : status ≠ .ProcessorOutage) :
    (l.handleLssu status).tx = l.tx ∧ (l.handleLssu status).rx = l.rx ∧
      ((l.handleLssu status).state = .InService → l.state = .InService) := by
  have ho := l.handleLssu_outcome status
  have hup := l.upgradeEmergency_eq status
  generalize l.handleLssu status = l' at ho ⊢
  cases ho with
  | ignored _ => rw [hup]; exact ⟨rfl, rfl, id⟩
  | aligned _ _ => rw [hup]; exact ⟨rfl, rfl, nofun⟩
  | proving _ _ => rw [hup]; exact ⟨rfl, rfl, nofun⟩
  | reproving | fallback | failed | released | realigned => exact ⟨rfl, rfl, nofun⟩
  | serving | outage | outageAgain => exact absurd rfl hp
  | busy | busyAgain => exact ⟨rfl, rfl, id⟩

/-- An LSSU, and any unit before the link is ready, leaves the controllers alone and does not
begin service. -/
theorem handleSu_other (h : l.Undisturbed) {su : SignalUnit} (hop : su.undisturbed = true)
    (hsu : su.traffic = none ∨ l.state.ready = false) :
    (l.step (.handleSu su)).tx = l.tx ∧ (l.step (.handleSu su)).rx = l.rx ∧
      payloads (l.raised (.handleSu su)) = [] ∧
      ((l.step (.handleSu su)).state = .InService → l.state = .InService) := by
  have heq : l.step (.handleSu su) = l.withSuerm.handleUnit su := h.handleSu_eq su
  cases htr : su.traffic with
  | none =>
    cases su with
    | Fisu header | Msu header sio sif => cases htr
    | Lssu header status extended =>
      have hp : status ≠ .ProcessorOutage := by rintro rfl; cases hop
      obtain ⟨htx, hrx, hst⟩ := handleLssu_controllers l.withSuerm hp
      refine ⟨by rw [heq]; exact htx, by rw [heq]; exact hrx, ?_, by rw [heq]; exact hst⟩
      obtain ⟨age, hrep⟩ := h.represented
      have hr := step_raised hrep (.handleSu (.Lssu header status extended))
      generalize hl' : l.step (.handleSu (.Lssu header status extended)) = l' at hr
      cases hr with
      | quiet es hes he _ => rw [raised_of_append (hl' ▸ he), payloads_management hes]
      | serving _ _ _ => cases hop
      | received hsu' _ _ _ => cases hsu'
  | some p =>
    obtain ⟨header, msu⟩ := p
    have hs := hsu.resolve_left (by rw [htr]; nofun)
    rw [handleUnit_traffic htr] at heq
    -- before it is ready the link does not look at it
    have hsame : l.step (.handleSu su) = l.withSuerm := by
      rw [heq]
      rcases l.withSuerm.handleFisuOrMsu_cases header msu with ⟨ha, -⟩ | ⟨hc, -⟩ | ⟨-, -, heq'⟩
      · rw [show l.state = _ from ha] at hs; cases hs
      · have hc' : l.state.carriesTraffic = true := hc
        cases hst : l.state with
        | InService => rw [hst] at hs; cases hs
        | ProcessorOutage => exact absurd hst h.state_ne.2
        | _ => rw [hst] at hc'; cases hc'
      · exact heq'
    rw [hsame]
    refine ⟨rfl, rfl, ?_, id⟩
    have hnil : l.raised (.handleSu su) = [] :=
      raised_of_append (by rw [hsame, List.append_nil]; rfl)
    rw [hnil]
    rfl

/-! ## Sending -/

/-- Time leaves the controllers alone, hands nothing to MTP3 and does not begin service. -/
theorem tick_controllers (h : l.Undisturbed) :
    (l.step .tick).tx = l.tx ∧ (l.step .tick).rx = l.rx ∧ payloads (l.raised .tick) = [] ∧
      ((l.step .tick).state = .InService → l.state = .InService) := by
  obtain ⟨age, hrep⟩ := h.represented
  have htx : (l.step .tick).tx = l.tx ∧
      ((l.step .tick).state = .InService → l.state = .InService) := by
    have ho := tick_outcome hrep
    show l.tick.tx = l.tx ∧ (l.tick.state = .InService → l.state = .InService)
    generalize l.tick = l' at ho ⊢
    cases ho with
    | proved _ _ => unfold provingSucceeded; split <;> exact ⟨rfl, nofun⟩
    | stepped => exact ⟨rfl, id⟩
    | alignmentFailed _ | serviceFailed _ => exact ⟨rfl, nofun⟩
  have hr := step_raised hrep .tick
  generalize hl' : l.step .tick = l' at hr htx
  cases hr with
  | quiet es hes he hrx =>
    exact ⟨htx.1, hrx, by rw [raised_of_append (hl' ▸ he), payloads_management hes], htx.2⟩

/-- **What an undisturbed link sends**: in service the frame its transmit control chose, a FISU
in Aligned Ready, and a status indication before that. -/
theorem pollTransmit_sent (h : l.Undisturbed) (ho : l.state ≠ .OutOfService) :
    ∃ su, l.pollTransmit.1 = some su ∧
      (l.state = .InService ∧ su = l.frameUnit l.tx.poll.1 ∧ l.pollTransmit.2.tx = l.tx.poll.2 ∨
        l.state = .AlignedReady ∧ su = .Fisu l.headerForControl ∧ l.pollTransmit.2.tx = l.tx ∨
        l.state.ready = false ∧ su.undisturbed = true ∧ su.traffic = none ∧
          l.pollTransmit.2.tx = l.tx) := by
  have halign : (l.lssu l.alignmentStatus).undisturbed = true := by
    unfold lssu alignmentStatus
    split <;> rfl
  unfold pollTransmit
  cases hs : l.state with
  | OutOfService => exact absurd hs ho
  | AlignedNotReady => exact absurd hs h.state_ne.1
  | ProcessorOutage => exact absurd hs h.state_ne.2
  | NotAligned => exact ⟨_, rfl, .inr (.inr ⟨rfl, rfl, rfl, l.guardT7_tx⟩)⟩
  | Aligned | Proving => exact ⟨_, rfl, .inr (.inr ⟨rfl, halign, rfl, l.guardT7_tx⟩)⟩
  | AlignedReady => exact ⟨_, rfl, .inr (.inl ⟨rfl, rfl, l.guardT7_tx⟩)⟩
  | InService =>
    simp only [h.localBusy, h.remoteProcessorOutage, h.remoteBusy, Bool.false_eq_true, if_false,
      or_self]
    exact ⟨_, rfl, .inl ⟨trivial, rfl, guardT7_tx _⟩⟩

/-- A link out of service sends SIOS, or nothing. -/
theorem pollTransmit_out (ho : l.state = .OutOfService) {su : SignalUnit}
    (hsu : l.pollTransmit.1 = some su) : su = l.lssu .OutOfService := by
  rw [pollTransmit, ho] at hsu
  dsimp only at hsu
  split at hsu
  · exact (Option.some.inj hsu).symm
  · cases hsu

end Undisturbed

end Mtp2Link

end Mtp2
