import Mtp2.Lib.Log
import Mtp2.Moves

/-!
# MTP2 — the event log

The events of a link are read by an automaton that knows only whether a service period is open
and which remote conditions it has announced. The link is in the state the automaton has read,
whatever emitted the events, so the log is well formed.

* **`step_read`** — the automaton reads what one operation raises;
* **`EventLog.wellFormed`** — what an automaton that has read a log says about it;
* **`eventLog_wellFormed`** — the log of every run is well formed.
-/

namespace Mtp2

/-- An open service period: the remote conditions announced and not ended. -/
structure Period where
  outage : Bool
  busy : Bool
  deriving Repr, DecidableEq

namespace Period

/-- A period that has just begun. -/
def fresh : Period := ⟨false, false⟩

end Period

namespace Event

/-- An event of a service period. -/
def ofService : Event → Bool
  | .Msu _ _ | .RetransmissionRequested | .RemoteProcessorOutage | .RemoteProcessorRecovered
  | .RemoteBusy | .RemoteBusyEnded => true
  | _ => false

/-- The automaton: no period is open in `none`. -/
def next : Option Period → Event → Option (Option Period)
  | none, .InService => some (some .fresh)
  | none, .AlignmentFailed _ | none, .OutOfService .Stopped => some none
  | some _, .OutOfService _ => some none
  | some p, .Msu _ _ | some p, .RetransmissionRequested => some (some p)
  | some p, .RemoteProcessorOutage =>
    if p.outage then none else some (some { p with outage := true })
  | some p, .RemoteProcessorRecovered =>
    if p.outage then some (some { p with outage := false }) else none
  | some p, .RemoteBusy => if p.busy then none else some (some { p with busy := true })
  | some p, .RemoteBusyEnded => if p.busy then some (some { p with busy := false }) else none
  | _, _ => none

end Event

/-! ## Well-formed logs -/

/-- A service period is open at the end of the log: an `InService` event with no `OutOfService`
event after it. -/
def InPeriod (log : List Event) : Prop :=
  ∃ before since, log = before ++ .InService :: since ∧ ∀ reason, .OutOfService reason ∉ since

/-- **A well-formed event log.** -/
structure WellFormedLog (log : List Event) : Prop where
  /-- Between any two `InService` events there is an `OutOfService` event. -/
  separated : ∀ p q r, log = p ++ .InService :: (q ++ .InService :: r) →
    ∃ reason, .OutOfService reason ∈ q
  /-- The events of a service period lie in one. -/
  within : ∀ p e r, log = p ++ e :: r → e.ofService = true → InPeriod p
  /-- Within a period the remote conditions begin and end in turn. -/
  alternate : ∀ p q r, log = p ++ .InService :: (q ++ r) → (∀ reason, .OutOfService reason ∉ q) →
    Run.Alternates .RemoteProcessorOutage .RemoteProcessorRecovered q ∧
      Run.Alternates .RemoteBusy .RemoteBusyEnded q
  /-- A link that leaves service for a reason of its own was in service. -/
  left : ∀ p reason r, log = p ++ .OutOfService reason :: r → reason ≠ .Stopped → InPeriod p
  /-- Alignment does not fail in service. -/
  failed : ∀ p failure r, log = p ++ .AlignmentFailed failure :: r → ¬ InPeriod p

namespace EventLog

open Event Run

variable {p q log : List Event} {s t : Option Period} {e : Event}

/-- The remote conditions of a period, read off its events. -/
structure Announces (q : List Event) (per : Period) : Prop where
  outage : Toggles .RemoteProcessorOutage .RemoteProcessorRecovered q per.outage
  busy : Toggles .RemoteBusy .RemoteBusyEnded q per.busy

/-- An event in a period of service keeps the conditions announced. -/
theorem Announces.next {per : Period} (h : Announces q per)
    (he : ∀ reason, e ≠ .OutOfService reason) (hn : next (some per) e = some t) :
    ∃ per', t = some per' ∧ Announces (q ++ [e]) per' := by
  obtain ⟨outage, busy⟩ := per
  cases e with
  | Msu sio sif =>
    cases hn
    exact ⟨_, rfl, h.outage.other nofun nofun, h.busy.other nofun nofun⟩
  | RetransmissionRequested =>
    cases hn
    exact ⟨_, rfl, h.outage.other nofun nofun, h.busy.other nofun nofun⟩
  | RemoteProcessorOutage =>
    cases outage <;> cases hn
    exact ⟨_, rfl, h.outage.turn rfl, h.busy.other nofun nofun⟩
  | RemoteProcessorRecovered =>
    cases outage <;> cases hn
    exact ⟨_, rfl, h.outage.turn rfl, h.busy.other nofun nofun⟩
  | RemoteBusy =>
    cases busy <;> cases hn
    exact ⟨_, rfl, h.outage.other nofun nofun, h.busy.turn rfl⟩
  | RemoteBusyEnded =>
    cases busy <;> cases hn
    exact ⟨_, rfl, h.outage.other nofun nofun, h.busy.turn rfl⟩
  | OutOfService reason => exact absurd rfl (he reason)
  | InService | AlignmentFailed failure => cases hn

/-- The events since a period began, none of which ends it. -/
theorem announced (h : q.foldlM next (some .fresh) = some t)
    (hout : ∀ reason, .OutOfService reason ∉ q) : ∃ per, t = some per ∧ Announces q per := by
  induction q using List.reverseRecOn generalizing t with
  | nil => exact ⟨.fresh, (Option.some.inj h).symm, .nil, .nil⟩
  | append_singleton q e ih =>
    obtain ⟨m, hm, he⟩ := read_append_iff.mp h
    obtain ⟨per, rfl, hper⟩ := ih hm fun reason hq => hout reason (List.mem_append_left _ hq)
    rw [read_singleton] at he
    refine hper.next (fun reason heq => hout reason ?_) he
    rw [heq]
    exact List.mem_append_right _ List.mem_cons_self

/-- A log that opens a period, as the automaton has read it. -/
theorem read_inService (h : (p ++ .InService :: q).foldlM next none = some t) :
    p.foldlM next none = some none ∧ q.foldlM next (some .fresh) = some t := by
  obtain ⟨m, hm, hq⟩ := read_append_iff.mp h
  obtain ⟨m', hm', hq'⟩ := read_cons_iff.mp hq
  cases m with
  | none => cases hm'; exact ⟨hm, hq'⟩
  | some per => cases hm'

/-- **The automaton knows whether a period is open.** -/
theorem inPeriod_iff (h : p.foldlM next none = some t) : InPeriod p ↔ t ≠ none := by
  refine ⟨?_, fun ht => ?_⟩
  · rintro ⟨before, since, rfl, hout⟩
    obtain ⟨per, rfl, -⟩ := announced (read_inService h).2 hout
    nofun
  · induction p using List.reverseRecOn generalizing t with
    | nil => exact absurd (Option.some.inj h).symm ht
    | append_singleton p e ih =>
      obtain ⟨m, hm, he⟩ := read_append_iff.mp h
      rw [read_singleton] at he
      cases m with
      | none =>
        -- only `InService` opens a period
        cases e with
        | InService => exact ⟨p, [], rfl, fun _ => List.not_mem_nil⟩
        | AlignmentFailed failure => cases he; exact absurd rfl ht
        | OutOfService reason => cases reason <;> cases he; exact absurd rfl ht
        | _ => cases he
      | some per =>
        -- and only `OutOfService` closes it
        obtain ⟨before, since, rfl, hout⟩ := ih hm nofun
        refine ⟨before, since ++ [e], by simp, fun reason hmem => ?_⟩
        rcases List.mem_append.mp hmem with hmem | hmem
        · exact hout reason hmem
        · rw [← List.mem_singleton.mp hmem] at he
          cases he
          exact absurd rfl ht

/-- What an event says about the period it is raised in. -/
theorem next_period (h : next s e = some t) :
    (e = .InService → s = none) ∧ (e.ofService = true → s ≠ none) ∧
      (∀ reason, e = .OutOfService reason → reason ≠ .Stopped → s ≠ none) ∧
      ∀ failure, e = .AlignmentFailed failure → s = none := by
  refine ⟨?_, ?_, ?_, ?_⟩
  · rintro rfl
    cases s <;> first | rfl | cases h
  · rintro he rfl
    cases e <;> cases he <;> cases h
  · rintro reason rfl hne rfl
    cases reason <;> first | exact hne rfl | cases h
  · rintro failure rfl
    cases s <;> first | rfl | cases h

/-- **A log the automaton reads is well formed.** -/
theorem wellFormed (h : log.foldlM next none = some t) : WellFormedLog log := by
  have hevent {p r : List Event} {e : Event} (heq : log = p ++ e :: r) :
      ∃ s t, p.foldlM next none = some s ∧ next s e = some t := by
    obtain ⟨s, hs, hr⟩ := read_append_iff.mp (heq ▸ h)
    obtain ⟨t, ht, -⟩ := read_cons_iff.mp hr
    exact ⟨s, t, hs, ht⟩
  refine ⟨fun p q r heq => ?_, fun p e r heq he => ?_, fun p q r heq hout => ?_,
    fun p reason r heq hne => ?_, fun p failure r heq => ?_⟩
  · obtain ⟨s, t, hs, ht⟩ := hevent (p := p ++ .InService :: q) (e := .InService) (r := r)
      (by rw [heq, List.append_assoc]; rfl)
    by_contra hout
    have hin : InPeriod (p ++ .InService :: q) :=
      ⟨p, q, rfl, fun reason hq => hout ⟨reason, hq⟩⟩
    exact (inPeriod_iff hs).mp hin ((next_period ht).1 rfl)
  · obtain ⟨s, t, hs, ht⟩ := hevent heq
    exact (inPeriod_iff hs).mpr ((next_period ht).2.1 he)
  · obtain ⟨-, hqr⟩ := read_inService (heq ▸ h)
    obtain ⟨m, hm, -⟩ := read_append_iff.mp hqr
    obtain ⟨per, -, hper⟩ := announced hm hout
    exact ⟨hper.outage.alternates, hper.busy.alternates⟩
  · obtain ⟨s, t, hs, ht⟩ := hevent heq
    exact (inPeriod_iff hs).mpr ((next_period ht).2.2.1 reason rfl hne)
  · obtain ⟨s, t, hs, ht⟩ := hevent heq
    exact fun hin => (inPeriod_iff hs).mp hin ((next_period ht).2.2.2 failure rfl)

end EventLog

/-! ## The log of a link -/

namespace Mtp2Link

variable {l l' : Mtp2Link} {age : ℕ}

/-- The events a run raises, in order. -/
def eventLog (l : Mtp2Link) (ops : List Op) : List Event := Run.log step raised l ops

/-- The service period the link is in. -/
def period (l : Mtp2Link) : Option Period :=
  if l.state.carriesTraffic then some ⟨l.remoteProcessorOutage, l.remoteBusy⟩ else none

theorem period_traffic (h : l.state.carriesTraffic = true) :
    l.period = some ⟨l.remoteProcessorOutage, l.remoteBusy⟩ := if_pos h

theorem period_none (h : l.state.carriesTraffic = false) : l.period = none :=
  if_neg (by rw [h]; nofun)

/-- An aligning link takes its peer's processor for available: whatever a stop left behind has
been cleared by `start`. -/
def OutageClear (l : Mtp2Link) : Prop :=
  l.state ≠ .OutOfService → l.state.carriesTraffic = false → l.remoteProcessorOutage = false

/-- `l'` has raised `es`, and the automaton has read them. -/
structure Logs (l : Mtp2Link) (es : List Event) (l' : Mtp2Link) : Prop where
  events : l'.events = l.events ++ es
  read : es.foldlM Event.next l.period = some l'.period
  clear : l'.OutageClear

namespace Logs

/-- What changes neither state nor conditions logs nothing. -/
theorem kept (hc : l.OutageClear) (hs : l'.state = l.state)
    (hro : l'.remoteProcessorOutage = l.remoteProcessorOutage) (hrb : l'.remoteBusy = l.remoteBusy)
    (he : l'.events = l.events) : l.Logs [] l' where
  events := by rw [he, List.append_nil]
  read := by rw [period, period, hs, hro, hrb]; rfl
  clear := by rw [OutageClear, hs, hro]; exact hc

/-- A move outside service raises nothing. -/
theorem waits (hs : l.state.carriesTraffic = false) (hs' : l'.state.carriesTraffic = false)
    (hro : l'.remoteProcessorOutage = false) (he : l'.events = l.events) : l.Logs [] l' where
  events := by rw [he, List.append_nil]
  read := by rw [period_none hs, period_none hs']; rfl
  clear := fun _ _ => hro

/-- A move between the states of service raises nothing. -/
theorem serves (hs : l.state.carriesTraffic = true) (hs' : l'.state.carriesTraffic = true)
    (hro : l'.remoteProcessorOutage = l.remoteProcessorOutage) (hrb : l'.remoteBusy = l.remoteBusy)
    (he : l'.events = l.events) : l.Logs [] l' where
  events := by rw [he, List.append_nil]
  read := by rw [period_traffic hs, period_traffic hs', hro, hrb]; rfl
  clear := fun _ hc => by rw [hs'] at hc; cases hc

/-- The local user raises nothing. -/
theorem user (hc : l.OutageClear) {op : Op} (h : l.LocalStep op l') (hop : op ≠ .pollEvent) :
    l.Logs [] l' := by
  rcases h.state with hs | ⟨hs, hs'⟩ | ⟨hs, hs'⟩
  · exact kept hc hs h.remoteProcessorOutage h.remoteBusy (h.events hop)
  · have hro : l.remoteProcessorOutage = false :=
      hc (fun ho => by rw [ho] at hs; cases hs) (Mtp2State.not_carriesTraffic hs)
    exact waits (Mtp2State.not_carriesTraffic hs) (Mtp2State.not_carriesTraffic hs')
      (h.remoteProcessorOutage.trans hro) (h.events hop)
  · exact serves hs hs' h.remoteProcessorOutage h.remoteBusy (h.events hop)

theorem failAlignment (hs : l.state.carriesTraffic = false) (he : l'.events = l.events)
    (failure : AlignmentFailure) :
    l.Logs [.AlignmentFailed failure] (l'.failAlignment failure) where
  events := congrArg (fun es => es ++ [Event.AlignmentFailed failure]) he
  read := by rw [period_none hs]; rfl
  clear := fun ho => absurd rfl ho

/-- A failure in service ends the period. -/
theorem failOutOfService (hs : l.state.carriesTraffic = true) (he : l'.events = l.events)
    (reason : OutOfServiceReason) :
    l.Logs [.OutOfService reason] (l'.failOutOfService reason) where
  events := congrArg (fun es => es ++ [Event.OutOfService reason]) he
  read := by rw [period_traffic hs]; rfl
  clear := fun ho => absurd rfl ho

theorem trans {l'' : Mtp2Link} {es es' : List Event} (h : l.Logs es l') (h' : l'.Logs es' l'') :
    l.Logs (es ++ es') l'' where
  events := by rw [h'.events, h.events, List.append_assoc]
  read := Run.read_append_iff.mpr ⟨_, h.read, h'.read⟩
  clear := h'.clear

/-- Service begins a period with no condition on. -/
theorem enterInService (h : l.Represented age) (hc : l.OutageClear) (hs : l.state = .AlignedReady) :
    l.Logs [.InService] l.enterInService where
  events := rfl
  read := by
    have ho : l.state ≠ .OutOfService := by rw [hs]; nofun
    have ht : l.state.carriesTraffic = false := by rw [hs]; rfl
    rw [period_none ht, period_traffic rfl]
    exact congrArg₂ (fun outage busy => some (some (Period.mk outage busy)))
      (hc ho ht).symm (h.before_service ho ht).1.symm
  clear := nofun

/-- The first SIPO turns the outage on. -/
theorem outage (hs : l.state.carriesTraffic = true) (hr : l.remoteProcessorOutage = false) :
    l.Logs [.RemoteProcessorOutage]
      ({ l with remoteProcessorOutage := true }.emit .RemoteProcessorOutage) where
  events := rfl
  read := by
    rw [period_traffic hs, hr]
    exact congrArg some (period_traffic (l := { l with remoteProcessorOutage := true }) hs).symm
  clear := fun _ ht => by rw [show l.state.carriesTraffic = false from ht] at hs; cases hs

/-- What an FISU or MSU ends, then what its sequence check raises. -/
theorem processInServiceSu (hs : l.state.carriesTraffic = true) (header : SuHeader)
    (msu : Option Payload) : ∃ es, l.Logs es (l.processInServiceSu header msu) := by
  rw [processInServiceSu_eq]
  generalize l.checked header.fsn msu = received
  refine ⟨l.clearedEvents ++ outcomeEvents received.1, List.append_assoc _ _ _, ?_, ?_⟩
  · have hcleared : l.clearedEvents.foldlM Event.next l.period = some (some .fresh) := by
      rw [period_traffic hs, clearedEvents]
      cases l.remoteProcessorOutage <;> cases l.remoteBusy <;> rfl
    have houtcome : (outcomeEvents received.1).foldlM Event.next (some .fresh) =
        some (some .fresh) := by
      cases received.1 with
      | none => rfl
      | some outcome => cases outcome <;> rfl
    refine Run.read_append_iff.mpr ⟨_, hcleared, houtcome.trans ?_⟩
    exact congrArg some
      (period_traffic (l := { l with remoteProcessorOutage := false, remoteBusy := false }) hs).symm
  · exact fun _ _ => rfl

/-- Reception turns conditions off, or begins service first. -/
theorem handleFisuOrMsu (h : l.Represented age) (hc : l.OutageClear) (header : SuHeader)
    (msu : Option Payload) : ∃ es, l.Logs es (l.handleFisuOrMsu header msu) := by
  rcases l.handleFisuOrMsu_cases header msu with ⟨hs, heq⟩ | ⟨hs, heq⟩ | ⟨-, -, heq⟩ <;> rw [heq]
  · obtain ⟨es, hes⟩ := processInServiceSu (l := l.enterInService) rfl header msu
    exact ⟨_, (enterInService h hc hs).trans hes⟩
  · exact processInServiceSu hs header msu
  · exact ⟨_, kept hc rfl rfl rfl rfl⟩

/-- A tick logs a failure, or nothing. -/
theorem tick (h : l.Represented age) (hc : l.OutageClear) : ∃ es, l.Logs es l.tick := by
  have ho := tick_outcome h
  generalize l.tick = l' at ho ⊢
  cases ho with
  | stepped => exact ⟨_, kept hc rfl rfl rfl rfl⟩
  | alignmentFailed hs =>
    refine ⟨_, failAlignment ?_ rfl _⟩
    rcases hs with hs | hs | hs <;> rw [hs] <;> rfl
  | serviceFailed hs => exact ⟨_, failOutOfService hs (by rfl) _⟩
  | proved hs _ =>
    have ht : l.state.carriesTraffic = false := by rw [hs]; rfl
    have hro := hc (by simp [hs]) ht
    unfold provingSucceeded
    split <;> exact ⟨_, waits ht rfl hro rfl⟩

/-- A status indication turns a condition on, begins service or ends it. -/
theorem handleLssu (h : l.Represented age) (hc : l.OutageClear) (status : StatusIndication) :
    ∃ es, l.Logs es (l.handleLssu status) := by
  have ho := l.handleLssu_outcome status
  have hup := l.upgradeEmergency_eq status
  generalize l.handleLssu status = l' at ho ⊢
  cases ho with
  | ignored _ => rw [hup]; exact ⟨_, kept hc rfl rfl rfl rfl⟩
  | aligned hs _ | proving hs _ =>
    have ht : l.state.carriesTraffic = false := by rw [hs]; rfl
    rw [hup]
    exact ⟨_, waits ht rfl (hc (by simp [hs]) ht) rfl⟩
  | reproving hs | fallback hs =>
    have ht : l.state.carriesTraffic = false := by rw [hs]; rfl
    exact ⟨_, waits ht rfl (hc (by simp [hs]) ht) rfl⟩
  | failed hs =>
    refine ⟨_, failAlignment ?_ rfl _⟩
    rcases hs with hs | hs | hs | hs <;> rw [hs] <;> rfl
  | released hs | realigned hs _ => exact ⟨_, failOutOfService hs (by rfl) _⟩
  | serving hs =>
    -- service begins with the outage of the peer's processor
    have hr := hc (by simp [hs]) (by rw [hs]; rfl)
    exact ⟨_, (enterInService h hc hs).trans (outage rfl hr)⟩
  | outage hs hr => exact ⟨_, outage hs hr⟩
  | busy hs hr =>
    refine ⟨[.RemoteBusy], rfl, ?_, fun _ ht => ?_⟩
    · rw [period_traffic hs, hr]
      exact congrArg some (period_traffic (l := { l with remoteBusy := true }) hs).symm
    · rw [show l.state.carriesTraffic = false from ht] at hs
      cases hs
  | outageAgain _ _ | busyAgain _ _ => exact ⟨_, kept hc rfl rfl rfl rfl⟩

/-- A damaged unit logs a failure, or nothing. -/
theorem handleCorruptedSu (hc : l.OutageClear) : ∃ es, l.Logs es l.handleCorruptedSu := by
  have ho := l.handleCorruptedSu_outcome
  generalize l.handleCorruptedSu = l' at ho ⊢
  cases ho with
  | counted _ _ | recorded _ | ignored _ _ => exact ⟨_, kept hc rfl rfl rfl rfl⟩
  | failed hs => exact ⟨_, failOutOfService hs (by rfl) _⟩
  | aborted hs _ =>
    have ht : l.state.carriesTraffic = false := by rw [hs]; rfl
    have hro := hc (by simp [hs]) ht
    unfold provingAborted
    split
    · exact ⟨_, waits ht rfl hro rfl⟩
    · exact ⟨_, failAlignment ht (by rfl) _⟩

/-- **What an operation raises is read.** Only `poll_event` raises nothing yet moves the queue. -/
theorem step (h : l.Represented age) (hc : l.OutageClear) {op : Op} (hop : op ≠ .pollEvent) :
    ∃ es, l.Logs es (l.step op) := by
  have hlocal := l.step_local op
  cases op with
  | start =>
    show ∃ es, l.Logs es l.start
    unfold start
    split
    · exact ⟨_, kept hc rfl rfl rfl rfl⟩
    · next hs => exact ⟨_, waits (by rw [not_not.mp hs]; rfl) rfl rfl rfl⟩
  | stop =>
    refine ⟨[.OutOfService .Stopped], rfl, ?_, fun ho => absurd rfl ho⟩
    show Event.next l.period (.OutOfService .Stopped) >>= _ = _
    cases l.period <;> rfl
  | handleSu su =>
    have hw : l.withSuerm.Represented age := h.congr rfl
    rcases l.handleSu_cases su with ⟨hs, heq⟩ | heq <;> rw [Mtp2Link.step, heq]
    · exact ⟨_, failOutOfService hs (by rfl) _⟩
    -- the SUERM is not what the automaton looks at
    have hlogs : ∃ es, l.withSuerm.Logs es (l.withSuerm.handleUnit su) := by
      cases su with
      | Lssu header status extended => exact handleLssu hw hc status
      | Fisu header => exact handleFisuOrMsu hw hc header none
      | Msu header sio sif => exact handleFisuOrMsu hw hc header (some (sio, sif))
    obtain ⟨es, hes⟩ := hlogs
    exact ⟨es, hes.events, hes.read, hes.clear⟩
  | handleCorruptedSu => exact handleCorruptedSu hc
  | tick => exact tick h hc
  | pollEvent => exact absurd rfl hop
  | _ => exact ⟨_, user hc (hlocal rfl) (by simp)⟩

end Logs

/-- **The automaton reads what one operation raises.** -/
theorem step_read (h : l.Represented age) (hc : l.OutageClear) (op : Op) :
    (l.raised op).foldlM Event.next l.period = some (l.step op).period ∧
      (l.step op).OutageClear := by
  by_cases hop : op = .pollEvent
  · subst hop
    rw [raised_pollEvent]
    exact ⟨rfl, hc⟩
  · obtain ⟨es, hes⟩ := Logs.step h hc hop
    rw [raised_of_append hes.events]
    exact ⟨hes.read, hes.clear⟩

/-- **The event log of every run is well formed**: service periods do not overlap, what belongs
to a period lies in one, and the remote conditions begin and end in turn. -/
theorem eventLog_wellFormed (config : Mtp2Config) (ops : List Op) :
    WellFormedLog ((new config).eventLog ops) :=
  EventLog.wellFormed (Run.log_read (fun l => (∃ age, l.Represented age) ∧ l.OutageClear) period
    (fun _ op ⟨⟨_, h⟩, hc⟩ => ⟨⟨_, h.step op⟩, (step_read h hc op).2⟩)
    (fun _ op ⟨⟨_, h⟩, hc⟩ => (step_read h hc op).1)
    ⟨⟨0, represented_new config⟩, fun ho => absurd rfl ho⟩ ops)

end Mtp2Link

end Mtp2
