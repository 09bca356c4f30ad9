import Mtp2.Proving

/-!
# MTP2 — how the state moves and what is raised

Three inversions of `step` for the properties of whole runs: one of the link state, one of the
event queue with the receive controller, one of the transmit controller. What the local user does
leaves most of the link alone, and all inversions share one frame for it.

* **`step_local`** — what an operation of the local user leaves alone;
* **`step_moved`** — where an operation takes the link state;
* **`step_raised`** — the events an operation raises, and what becomes of the receiver;
* **`step_transmits`** — what becomes of the transmitter.
-/

namespace Mtp2

/-- Aligned Ready or Aligned Not Ready: proving has succeeded, service has not begun. -/
def Mtp2State.awaitsPeer : Mtp2State → Bool
  | .AlignedReady | .AlignedNotReady => true
  | _ => false

/-- A link that awaits its peer is not in service. -/
theorem Mtp2State.not_carriesTraffic {s : Mtp2State} (h : s.awaitsPeer = true) :
    s.carriesTraffic = false := by
  cases s with
  | AlignedReady | AlignedNotReady => rfl
  | _ => cases h

/-- The header and payload of a FISU or MSU. -/
def SignalUnit.traffic : SignalUnit → Option (SuHeader × Option Payload)
  | .Fisu header => some (header, none)
  | .Msu header sio sif => some (header, some (sio, sif))
  | .Lssu _ _ _ => none

/-- An event that neither begins service nor delivers an MSU. -/
def Event.isManagement : Event → Bool
  | .InService | .Msu _ _ => false
  | _ => true

/-- An operation that neither starts the link, nor submits, nor polls. -/
def Op.idlesTx : Op → Bool
  | .start | .submitMsu _ _ | .pollTransmit => false
  | _ => true

/-- An operation of the local user on a link that is up or down already: no SU arrives and no time
passes. -/
def Op.isLocal : Op → Bool
  | .start | .stop | .handleSu _ | .handleCorruptedSu | .tick => false
  | _ => true

namespace Mtp2Link

variable {l l' : Mtp2Link} {age : ℕ}

/-! ## The frame of the local user -/

/-- What an operation of the local user leaves alone. -/
structure LocalStep (l : Mtp2Link) (op : Op) (l' : Mtp2Link) : Prop where
  config : l'.config = l.config
  provingAttempt : l'.provingAttempt = l.provingAttempt
  rx : l'.rx = l.rx
  suerm : l'.suerm = l.suerm
  remoteProcessorOutage : l'.remoteProcessorOutage = l.remoteProcessorOutage
  remoteBusy : l'.remoteBusy = l.remoteBusy
  tx : op.idlesTx = true → l'.tx = l.tx
  t7 : op ≠ .pollTransmit → l'.t7 = l.t7
  events : op ≠ .pollEvent → l'.events = l.events
  emergency : (∀ emergency, op ≠ .setEmergency emergency) → l'.emergency = l.emergency
  localBusy : op ≠ .localBusy → op ≠ .localBusyEnded → l'.localBusy = l.localBusy
  /-- Processor outage and recovery switch within two pairs of states. -/
  state : l'.state = l.state ∨ l.state.awaitsPeer = true ∧ l'.state.awaitsPeer = true ∨
    l.state.carriesTraffic = true ∧ l'.state.carriesTraffic = true

namespace LocalStep

variable {op : Op}

/-- Processor outage and recovery. -/
theorem switched {outage : Bool} {s : Mtp2State} {t1 : Option UInt32}
    (hs : s = l.state ∨ l.state.awaitsPeer = true ∧ s.awaitsPeer = true ∨
      l.state.carriesTraffic = true ∧ s.carriesTraffic = true) :
    l.LocalStep op { l with localProcessorOutage := outage, state := s, t1 := t1 } :=
  ⟨rfl, rfl, rfl, rfl, rfl, rfl, fun _ => rfl, fun _ => rfl, fun _ => rfl, fun _ => rfl,
    fun _ _ => rfl, hs⟩

theorem carriesTraffic (h : l.LocalStep op l') :
    l'.state.carriesTraffic = l.state.carriesTraffic := by
  rcases h.state with hs | ⟨hs, hs'⟩ | ⟨hs, hs'⟩
  · rw [hs]
  · rw [Mtp2State.not_carriesTraffic hs, Mtp2State.not_carriesTraffic hs']
  · rw [hs, hs']

end LocalStep

/-- **What an operation of the local user leaves alone.** -/
theorem step_local (l : Mtp2Link) (op : Op) (hop : op.isLocal = true) :
    l.LocalStep op (l.step op) := by
  cases op with
  | localProcessorOutage =>
    -- the state only switches between the two of its kind
    rcases l.signalLocalProcessorOutage_cases with ⟨hs, heq⟩ | ⟨hs, heq⟩ | ⟨-, -, heq⟩ <;>
      rw [step, heq]
    · exact .switched (.inr (.inr ⟨by rw [hs]; rfl, rfl⟩))
    · exact .switched (.inr (.inl ⟨by rw [hs]; rfl, rfl⟩))
    · exact .switched (.inl rfl)
  | localProcessorRecovered =>
    rcases l.localProcessorRecovered_cases with ⟨hs, heq⟩ | ⟨hs, heq⟩ | ⟨-, -, heq⟩ <;>
      rw [step, heq]
    · exact .switched (.inr (.inr ⟨by rw [hs]; rfl, rfl⟩))
    · exact .switched (.inr (.inl ⟨by rw [hs]; rfl, rfl⟩))
    · exact .switched (.inl rfl)
  | submitMsu sio sif =>
    -- the fields are all equal, but for the one the operation is about
    rw [step, submitMsu_eq]
    exact ⟨rfl, rfl, rfl, rfl, rfl, rfl, (fun h => by cases h), fun _ => rfl, fun _ => rfl,
      fun _ => rfl, fun _ _ => rfl, .inl rfl⟩
  | pollTransmit =>
    rw [step, pollTransmit_eq]
    exact ⟨rfl, rfl, rfl, rfl, rfl, rfl, (fun h => by cases h), fun h => absurd rfl h,
      fun _ => rfl, fun _ => rfl, fun _ _ => rfl, .inl rfl⟩
  | pollEvent =>
    exact ⟨rfl, rfl, rfl, rfl, rfl, rfl, fun _ => rfl, fun _ => rfl, fun h => absurd rfl h,
      fun _ => rfl, fun _ _ => rfl, .inl rfl⟩
  | setEmergency emergency =>
    exact ⟨rfl, rfl, rfl, rfl, rfl, rfl, fun _ => rfl, fun _ => rfl, fun _ => rfl,
      fun h => absurd rfl (h emergency), fun _ _ => rfl, .inl rfl⟩
  | localBusy =>
    exact ⟨rfl, rfl, rfl, rfl, rfl, rfl, fun _ => rfl, fun _ => rfl, fun _ => rfl, fun _ => rfl,
      fun h _ => absurd rfl h, .inl rfl⟩
  | localBusyEnded =>
    exact ⟨rfl, rfl, rfl, rfl, rfl, rfl, fun _ => rfl, fun _ => rfl, fun _ => rfl, fun _ => rfl,
      fun _ h => absurd rfl h, .inl rfl⟩
  | start | stop | handleSu | handleCorruptedSu | tick => cases hop

/-- FISUs and MSUs are handled alike. -/
theorem handleUnit_traffic {su : SignalUnit} {header : SuHeader} {msu : Option Payload}
    (h : su.traffic = some (header, msu)) : l.handleUnit su = l.handleFisuOrMsu header msu := by
  cases su <;> cases h <;> rfl

/-! ## The state -/

/-- Where an operation takes the link state. -/
inductive Moved (l : Mtp2Link) : Op → Mtp2Link → Prop where
  | failed {op : Op} {l' : Mtp2Link} (hs' : l'.state = .OutOfService) : Moved l op l'
  | stayed {op : Op} {l' : Mtp2Link} (hs' : l'.state = l.state) (hs : l.state ≠ .Proving) :
      Moved l op l'
  | started (hs : l.state = .OutOfService) : Moved l .start l.start
  | aligned {op : Op} {l' : Mtp2Link} (hs : l.state = .NotAligned) (hs' : l'.state = .Aligned) :
      Moved l op l'
  | entered {op : Op} {emergency : Bool} (hs : l.state = .Aligned) :
      Moved l op { l with emergency := emergency, t3 := none }.enterProving
  | proving {op : Op} {l' : Mtp2Link} (hs : l.state = .Proving) : Moved l op l'
  | waited {op : Op} {l' : Mtp2Link} (hs : l.state.awaitsPeer = true)
      (hs' : l'.state.awaitsPeer = true) : Moved l op l'
  | served {op : Op} {l' : Mtp2Link} (hs : l.state = .AlignedReady ∨ l.state.carriesTraffic = true)
      (hs' : l'.state.carriesTraffic = true) : Moved l op l'

/-- Where a tick takes the state. -/
theorem tick_moved (h : l.Represented age) : l.Moved .tick l.tick := by
  have ho := tick_outcome h
  generalize l.tick = l' at ho ⊢
  cases ho with
  | stepped =>
    by_cases hs : l.state = .Proving
    · exact .proving hs
    · exact .stayed rfl hs
  | alignmentFailed _ | serviceFailed _ => exact .failed rfl
  | proved hs _ => exact .proving hs

/-- Where an FISU or MSU takes it: from Aligned Ready into service. -/
theorem handleFisuOrMsu_moved (op : Op) (header : SuHeader) (msu : Option Payload) :
    l.Moved op (l.handleFisuOrMsu header msu) := by
  rcases l.handleFisuOrMsu_cases header msu with ⟨hs, heq⟩ | ⟨hs, heq⟩ | ⟨-, -, heq⟩ <;> rw [heq]
  · rw [processInServiceSu_eq]
    exact .served (.inl hs) rfl
  · rw [processInServiceSu_eq]
    exact .served (.inr hs) hs
  · by_cases hs : l.state = .Proving
    · exact .proving hs
    · exact .stayed rfl hs

/-- Where a status indication takes it. -/
theorem handleLssu_moved (op : Op) (status : StatusIndication) :
    l.Moved op (l.handleLssu status) := by
  have ho := l.handleLssu_outcome status
  have hup := l.upgradeEmergency_eq status
  generalize l.handleLssu status = l' at ho ⊢
  cases ho with
  | ignored _ =>
    by_cases hs : l.state = .Proving
    · exact .proving hs
    · rw [hup]; exact .stayed rfl hs
  | aligned hs _ => exact .aligned hs rfl
  | proving hs _ => rw [hup]; exact .entered hs
  | reproving hs | fallback hs => exact .proving hs
  | failed _ | released _ | realigned _ _ => exact .failed rfl
  | serving hs => exact .served (.inl hs) rfl
  | outage hs _ | outageAgain hs _ | busy hs _ | busyAgain hs _ => exact .served (.inr hs) hs

/-- Counting the unit in the SUERM first makes no difference. -/
theorem withSuerm_moved {op : Op} (h : l.withSuerm.Moved op l') : l.Moved op l' := by
  -- the SUERM only counts in service, where no outcome keeps the rest of `l`
  cases hc : l.state.carriesTraffic with
  | false => rwa [withSuerm_of_not_traffic hc] at h
  | true =>
    cases h with
    | failed hs' => exact .failed hs'
    | stayed hs' hs => exact .stayed hs' hs
    | started hs => rw [show l.state = _ from hs] at hc; cases hc
    | aligned hs hs' => exact .aligned hs hs'
    | entered hs => rw [show l.state = _ from hs] at hc; cases hc
    | proving hs => exact .proving hs
    | waited hs hs' => exact .waited hs hs'
    | served hs hs' => exact .served hs hs'

/-- **Where an operation takes the link state.** -/
theorem step_moved (h : l.Represented age) (op : Op) : l.Moved op (l.step op) := by
  have hstay : ∀ {op : Op} {l' : Mtp2Link}, l'.state = l.state → l.Moved op l' := fun hs' => by
    by_cases hs : l.state = .Proving
    · exact .proving hs
    · exact .stayed hs' hs
  have hlocal := l.step_local op
  cases op with
  | start =>
    by_cases hs : l.state = .OutOfService
    · exact .started hs
    · exact hstay (by rw [step, start, if_pos hs])
  | stop => exact .failed rfl
  | handleSu su =>
    rcases l.handleSu_cases su with ⟨-, heq⟩ | heq <;> rw [step, heq]
    · exact .failed rfl
    -- the unit is handled in the state it finds
    refine withSuerm_moved ?_
    cases su with
    | Lssu header status extended => exact handleLssu_moved _ status
    | Fisu header => exact handleFisuOrMsu_moved _ header none
    | Msu header sio sif => exact handleFisuOrMsu_moved _ header (some (sio, sif))
  | handleCorruptedSu =>
    have ho := l.handleCorruptedSu_outcome
    show l.Moved _ l.handleCorruptedSu
    generalize l.handleCorruptedSu = l' at ho ⊢
    cases ho with
    | counted hs _ | aborted hs _ => exact .proving hs
    | recorded hs => exact .served (.inr hs) hs
    | failed _ => exact .failed rfl
    | ignored _ _ => exact hstay rfl
  | tick => exact tick_moved h
  | _ =>
    -- the local user moves a link only within its phase
    rcases (hlocal rfl).state with hs | ⟨hs, hs'⟩ | ⟨hs, hs'⟩
    · exact hstay hs
    · exact .waited hs hs'
    · exact .served (.inr hs) hs'

/-! ## Events and the receiver -/

/-- What an operation raises, and what becomes of the receive controller. -/
inductive Raised (l : Mtp2Link) : Op → Mtp2Link → Prop where
  | quiet {op : Op} {l' : Mtp2Link} (es : List Event) (hes : ∀ e ∈ es, e.isManagement = true)
      (he : l'.events = l.events ++ es) (hrx : l'.rx = l.rx) : Raised l op l'
  | polled {l' : Mtp2Link} (he : l'.events = l.events.tail) (hrx : l'.rx = l.rx) :
      Raised l .pollEvent l'
  | started (hs : l.state = .OutOfService) : Raised l .start l.start
  | serving {header : SuHeader} {extended : Bool} {l' : Mtp2Link} (hs : l.state = .AlignedReady)
      (he : l'.events = l.events ++ [.InService, .RemoteProcessorOutage]) (hrx : l'.rx = l.rx) :
      Raised l (.handleSu (.Lssu header .ProcessorOutage extended)) l'
  | received {su : SignalUnit} {header : SuHeader} {msu : Option Payload} {l' : Mtp2Link}
      (hsu : su.traffic = some (header, msu))
      (hs : l.state = .AlignedReady ∨ l.state.carriesTraffic = true)
      (he : l'.events = l.events ++ ((if l.state = .AlignedReady then [.InService] else []) ++
        l.clearedEvents ++ outcomeEvents (l.checked header.fsn msu).1))
      (hrx : l'.rx = (l.checked header.fsn msu).2) : Raised l (.handleSu su) l'

theorem Raised.silent {op : Op} (he : l'.events = l.events) (hrx : l'.rx = l.rx) :
    l.Raised op l' := .quiet [] nofun (by rw [he, List.append_nil]) hrx

theorem failAlignment_raised (op : Op) (failure : AlignmentFailure) :
    l.Raised op (l.failAlignment failure) :=
  .quiet [.AlignmentFailed failure] (by simp [Event.isManagement]) rfl rfl

theorem failOutOfService_raised (op : Op) (reason : OutOfServiceReason) :
    l.Raised op (l.failOutOfService reason) :=
  .quiet [.OutOfService reason] (by simp [Event.isManagement]) rfl rfl

/-- A tick raises failures only. -/
theorem tick_raised (h : l.Represented age) : l.Raised .tick l.tick := by
  have ho := tick_outcome h
  generalize l.tick = l' at ho ⊢
  cases ho with
  | stepped => exact .silent rfl rfl
  | alignmentFailed _ => exact failAlignment_raised _ _
  | serviceFailed _ => exact failOutOfService_raised _ _
  | proved _ _ => unfold provingSucceeded; split <;> exact .silent rfl rfl

/-- **A received FISU or MSU, in Aligned Ready and in service.** -/
theorem handleFisuOrMsu_received (header : SuHeader) (msu : Option Payload)
    (hs : l.state = .AlignedReady ∨ l.state.carriesTraffic = true) :
    (l.handleFisuOrMsu header msu).state.carriesTraffic = true ∧
      (l.handleFisuOrMsu header msu).tx = l.tx.onAck header.bsn header.bib ∧
      (l.handleFisuOrMsu header msu).rx = (l.checked header.fsn msu).2 ∧
      (l.handleFisuOrMsu header msu).events =
        l.events ++ ((if l.state = .AlignedReady then [.InService] else []) ++ l.clearedEvents ++
          outcomeEvents (l.checked header.fsn msu).1) := by
  rcases l.handleFisuOrMsu_cases header msu with ⟨ha, heq⟩ | ⟨hc, heq⟩ | ⟨ha, hc, -⟩
  · -- entering service does not touch what the sequence check reads
    have hchecked : l.enterInService.checked header.fsn msu = l.checked header.fsn msu := by
      cases msu with
      | none => rfl
      | some p => simp [checked, ha, enterInService, emit]
    rw [heq, processInServiceSu_eq, hchecked, if_pos ha]
    refine ⟨rfl, rfl, rfl, ?_⟩
    show l.events ++ [.InService] ++ l.clearedEvents ++ _ = _
    simp only [List.append_assoc]
  · have hne : l.state ≠ .AlignedReady := fun h => by rw [h] at hc; cases hc
    rw [heq, processInServiceSu_eq, if_neg hne, List.nil_append, ← List.append_assoc]
    exact ⟨hc, rfl, rfl, rfl⟩
  · rcases hs with hs | hs
    · exact absurd hs ha
    · rw [hs] at hc; cases hc

/-- What in-service reception raises, whether service began with it or before. -/
theorem handleFisuOrMsu_raised {su : SignalUnit} {header : SuHeader} {msu : Option Payload}
    (hsu : su.traffic = some (header, msu)) :
    l.Raised (.handleSu su) (l.handleFisuOrMsu header msu) := by
  by_cases hs : l.state = .AlignedReady ∨ l.state.carriesTraffic = true
  · obtain ⟨-, -, hrx, he⟩ := handleFisuOrMsu_received header msu hs
    exact .received hsu hs he hrx
  · rcases l.handleFisuOrMsu_cases header msu with ⟨ha, -⟩ | ⟨hc, -⟩ | ⟨-, -, heq⟩
    · exact absurd (.inl ha) hs
    · exact absurd (.inr hc) hs
    · rw [heq]; exact .silent rfl rfl

/-- An SIPO may begin the service; other indications raise what management is told. -/
theorem handleLssu_raised (header : SuHeader) (status : StatusIndication) (extended : Bool) :
    l.Raised (.handleSu (.Lssu header status extended)) (l.handleLssu status) := by
  have ho := l.handleLssu_outcome status
  have hup := l.upgradeEmergency_eq status
  generalize l.handleLssu status = l' at ho ⊢
  cases ho with
  | ignored _ => rw [hup]; exact .silent rfl rfl
  | aligned _ _ => rw [hup]; exact .silent rfl rfl
  | proving _ _ => rw [hup]; exact .silent rfl rfl
  | reproving _ | fallback _ | outageAgain _ _ | busyAgain _ _ => exact .silent rfl rfl
  | failed _ => exact failAlignment_raised _ _
  | released _ | realigned _ _ => exact failOutOfService_raised _ _
  | serving hs => exact .serving hs (by simp [enterInService, emit]) rfl
  | outage _ _ => exact .quiet [.RemoteProcessorOutage] (by simp [Event.isManagement]) rfl rfl
  | busy _ _ => exact .quiet [.RemoteBusy] (by simp [Event.isManagement]) rfl rfl

theorem withSuerm_raised {su : SignalUnit} (h : l.withSuerm.Raised (.handleSu su) l') :
    l.Raised (.handleSu su) l' := by
  cases h with
  | quiet es hes he hrx => exact .quiet es hes he hrx
  | serving hs he hrx => exact .serving hs he hrx
  | received hsu hs he hrx => exact .received hsu hs he hrx

/-- **What an operation raises, and what becomes of the receive controller.** -/
theorem step_raised (h : l.Represented age) (op : Op) : l.Raised op (l.step op) := by
  have hlocal := l.step_local op
  cases op with
  | start =>
    by_cases hs : l.state = .OutOfService
    · exact .started hs
    · have : l.start = l := by rw [start, if_pos hs]
      exact .silent (by rw [step, this]) (by rw [step, this])
  | stop => exact .quiet [.OutOfService .Stopped] (by simp [Event.isManagement]) rfl rfl
  | pollEvent => exact .polled rfl rfl
  | handleSu su =>
    rcases l.handleSu_cases su with ⟨-, heq⟩ | heq <;> rw [step, heq]
    · exact .quiet [.OutOfService .SuermFailure] (by simp [Event.isManagement]) rfl rfl
    -- the SUERM is no part of what is compared
    refine withSuerm_raised ?_
    cases su with
    | Lssu header status extended => exact handleLssu_raised header status extended
    | Fisu header => exact handleFisuOrMsu_raised rfl
    | Msu header sio sif => exact handleFisuOrMsu_raised rfl
  | handleCorruptedSu =>
    have ho := l.handleCorruptedSu_outcome
    show l.Raised _ l.handleCorruptedSu
    generalize l.handleCorruptedSu = l' at ho ⊢
    cases ho with
    | counted _ _ | recorded _ | ignored _ _ => exact .silent rfl rfl
    | aborted _ _ =>
      -- the last attempt raises the failure
      unfold provingAborted
      split
      · exact .silent rfl rfl
      · exact .quiet [.AlignmentFailed .AermTripped] (by simp [Event.isManagement]) rfl rfl
    | failed _ => exact .quiet [.OutOfService .SuermFailure] (by simp [Event.isManagement]) rfl rfl
  | tick => exact tick_raised h
  | _ => exact .silent ((hlocal rfl).events (by simp)) (hlocal rfl).rx

/-! ## The transmitter -/

/-- What becomes of the transmit controller. -/
inductive Transmits (l : Mtp2Link) : Op → TxControl → Prop where
  | kept {op : Op} (hpoll : op = .pollTransmit → l.polls = false)
      (hsub : ∀ sio sif, op ≠ .submitMsu sio sif)
      (hstart : op = .start → l.state ≠ .OutOfService) : Transmits l op l.tx
  | started (hs : l.state = .OutOfService) : Transmits l .start (.new l.config.method)
  | submitted {sio : UInt8} {sif : List UInt8} :
      Transmits l (.submitMsu sio sif) (l.submitMsu sio sif).2.tx
  | polled (hp : l.polls = true) : Transmits l .pollTransmit l.tx.poll.2
  | acknowledged {su : SignalUnit} {header : SuHeader} {msu : Option Payload}
      (hsu : su.traffic = some (header, msu))
      (hs : l.state = .AlignedReady ∨ l.state.carriesTraffic = true) :
      Transmits l (.handleSu su) (l.tx.onAck header.bsn header.bib)

/-- A tick does not touch the transmit control. -/
theorem tick_tx (l : Mtp2Link) : l.tick.tx = l.tx := by
  unfold tick
  dsimp only
  split
  · rfl
  split
  · rfl
  split
  · unfold provingSucceeded
    split <;> rfl
  split
  · rfl
  split
  · rfl
  split <;> rfl

/-- The header of a status indication is not looked at. -/
theorem handleLssu_tx (l : Mtp2Link) (status : StatusIndication) :
    (l.handleLssu status).tx = l.tx := by
  have ho := l.handleLssu_outcome status
  have hup : (l.upgradeEmergency status).tx = l.tx := by rw [upgradeEmergency_eq]
  generalize l.handleLssu status = l' at ho ⊢
  cases ho with
  | ignored _ | aligned _ _ | proving _ _ => exact hup
  | reproving | fallback | failed | serving | outage | outageAgain | busy | busyAgain | released
  | realigned => rfl

/-- Most operations leave the transmit controller alone. -/
theorem Transmits.idle {op : Op} {t : TxControl} (hop : op.idlesTx = true) (ht : t = l.tx) :
    l.Transmits op t := by
  subst ht
  exact .kept (fun h => by rw [h] at hop; cases hop) (fun _ _ h => by rw [h] at hop; cases hop)
    fun h => by rw [h] at hop; cases hop

/-- A unit acknowledges if it has a header that is looked at, in a state that does. -/
theorem handleSu_transmits (l : Mtp2Link) (su : SignalUnit) :
    l.Transmits (.handleSu su) (l.handleSu su).tx := by
  have hkept {t : TxControl} : t = l.tx → l.Transmits (.handleSu su) t := .idle rfl
  rcases l.handleSu_cases su with ⟨-, heq⟩ | heq <;> rw [heq]
  · exact hkept rfl
  cases htr : su.traffic with
  | none =>
    cases su with
    | Lssu header status extended => exact hkept (handleLssu_tx _ _)
    | Fisu header | Msu header sio sif => cases htr
  | some p =>
    obtain ⟨header, msu⟩ := p
    rw [handleUnit_traffic htr]
    by_cases hs : l.state = .AlignedReady ∨ l.state.carriesTraffic = true
    · rw [(handleFisuOrMsu_received (l := l.withSuerm) header msu hs).2.1]
      exact .acknowledged htr hs
    · rcases l.withSuerm.handleFisuOrMsu_cases header msu with ⟨ha, -⟩ | ⟨hc, -⟩ | ⟨-, -, heq'⟩
      · exact absurd (.inl ha) hs
      · exact absurd (.inr hc) hs
      · rw [heq']; exact hkept rfl

/-- **What an operation does to the transmit controller.** -/
theorem step_transmits (l : Mtp2Link) (op : Op) : l.Transmits op (l.step op).tx := by
  have hlocal := l.step_local op
  cases op with
  | start =>
    show l.Transmits .start l.start.tx
    unfold start
    split
    · next hs => exact .kept (by simp) (by simp) fun _ => hs
    · next hs => exact .started (not_not.mp hs)
  | submitMsu sio sif => exact .submitted
  | pollTransmit =>
    rw [step, pollTransmit_eq]
    cases hp : l.polls with
    | true => exact .polled hp
    | false => exact .kept (fun _ => hp) (by simp) (by simp)
  | handleSu su => exact l.handleSu_transmits su
  | tick =>
    rw [step, tick_tx]
    exact .idle rfl rfl
  | handleCorruptedSu =>
    -- a damaged unit is counted, and never acknowledges
    have ho := l.handleCorruptedSu_outcome
    show l.Transmits .handleCorruptedSu l.handleCorruptedSu.tx
    generalize l.handleCorruptedSu = l' at ho ⊢
    cases ho with
    | aborted hs hr =>
      unfold provingAborted
      split <;> exact .idle rfl rfl
    | counted | recorded | failed | ignored => exact .idle rfl rfl
  | stop => exact .idle rfl rfl
  | _ => exact .idle rfl ((hlocal rfl).tx rfl)

/-- **What every operation keeps of the transmit controller**: a property of a new controller that
the submission of an MSU that fits, a poll and an acknowledgement preserve. -/
theorem tx_step {P : TxControl → Prop} (op : Op) (h : P l.tx) (hnew : P (.new l.config.method))
    (hsubmit : ∀ sio sif, op = .submitMsu sio sif → Fits (sio, sif) → P (l.tx.submit sio sif))
    (hpoll : P l.tx.poll.2) (hack : ∀ bsn bib, P (l.tx.onAck bsn bib)) : P (l.step op).tx := by
  have ht := l.step_transmits op
  generalize (l.step op).tx = t at ht ⊢
  cases ht with
  | kept _ _ _ => exact h
  | started _ => exact hnew
  | polled _ => exact hpoll
  | acknowledged _ _ => exact hack _ _
  | @submitted sio sif =>
    rcases l.submitMsu_cases sio sif with ⟨hfit, heq⟩ | ⟨e, heq⟩ <;> rw [heq]
    · exact hsubmit sio sif rfl hfit
    · exact h

/-- The events an operation raises are what it appends. -/
theorem raised_of_append {op : Op} {es : List Event} (h : (l.step op).events = l.events ++ es) :
    l.raised op = es := by rw [raised, h, List.drop_left]

/-- Reading an event raises none. -/
theorem raised_pollEvent (l : Mtp2Link) : l.raised .pollEvent = [] :=
  List.drop_eq_nil_of_le (by rw [step, pollEvent, List.length_tail]; exact Nat.sub_le _ _)

theorem outcomeEvents_ne_inService (outcome : Option RxOutcome) :
    Event.InService ∉ outcomeEvents outcome := by
  cases outcome with
  | none => simp [outcomeEvents]
  | some o => cases o <;> simp [outcomeEvents]

/-- The ends of an outage and of a busy condition are for management. -/
theorem clearedEvents_isManagement (l : Mtp2Link) :
    ∀ e ∈ l.clearedEvents, e.isManagement = true := by
  cases hr : l.remoteProcessorOutage <;> cases hb : l.remoteBusy <;>
    simp [clearedEvents, hr, hb, Event.isManagement]

end Mtp2Link

end Mtp2
