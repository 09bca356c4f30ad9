import Mtp2.Attempts
import Mtp2.Undisturbed

/-!
# MTP2 — requests of MTP3 that must last

MTP3 asks for emergency proving and signals congestion in any state, and each request is a flag of
the link that other operations write as well. `start` overwrites both, a received SIE and
`set_emergency` overwrite each other. What was asked for is therefore followed beside the link, and
compared with what the link does.

* **`step_flags`** — everything that writes the two flags;
* **`emergency_honoured_iff`** — emergency proving is used whenever it is asked for, exactly in the
  runs in which nothing overrules the request before it is needed;
* **`congestion_lasts_iff`** — a congested link sends SIB, exactly until it is started again.
-/

namespace Mtp2

/-- An operation that is about neither alignment nor reception. -/
def Op.idlesEmergency : Op → Bool
  | .start | .setEmergency _ | .handleSu _ => false
  | _ => true

namespace Mtp2Link

variable {l l' : Mtp2Link} {op : Op} {age : ℕ}

/-! ## The two flags -/

/-- A start that takes effect. -/
def effectiveStart (l : Mtp2Link) (op : Op) : Bool := op = .start ∧ l.state = .OutOfService

/-- An SIE received in Not Aligned, Aligned or Proving. -/
def hearsSie (l : Mtp2Link) : Op → Bool
  | .handleSu (.Lssu _ status _) => status = .EmergencyAlignment ∧
      (l.state = .NotAligned ∨ l.state = .Aligned ∨ l.state = .Proving)
  | _ => false

/-- The emergency flag after an operation. -/
def emergencyAfter (l : Mtp2Link) : Op → Bool
  | .setEmergency emergency => emergency
  | op => if l.effectiveStart op then l.config.emergency else l.emergency || l.hearsSie op

/-- The congestion flag after an operation that does not fail the link. -/
def localBusyAfter (l : Mtp2Link) : Op → Bool
  | .localBusy => true
  | .localBusyEnded => false
  | op => !l.effectiveStart op && l.localBusy

/-- An operation that no request comes from leaves the emergency flag alone. -/
theorem emergencyAfter_idle (hop : op.idlesEmergency = true) :
    l.emergencyAfter op = l.emergency := by
  cases op with
  | start | setEmergency | handleSu => cases hop
  | _ => simp [emergencyAfter, effectiveStart, hearsSie]

/-- What an operation leaves in the two flags. -/
structure Flagged (l : Mtp2Link) (op : Op) (l' : Mtp2Link) : Prop where
  emergency : l'.emergency = l.emergencyAfter op
  localBusy : l'.localBusy = l.localBusyAfter op ∨
    l'.state = .OutOfService ∧ l'.localBusy = false

namespace Flagged

/-- An operation that is about neither flag. -/
theorem kept (he : l.emergencyAfter op = l.emergency) (hb : l.localBusyAfter op = l.localBusy)
    (he' : l'.emergency = l.emergency) (hb' : l'.localBusy = l.localBusy) : l.Flagged op l' :=
  ⟨he'.trans he.symm, .inl (hb'.trans hb.symm)⟩

theorem failOutOfService (he : l.emergencyAfter op = l.emergency) (reason : OutOfServiceReason) :
    l.Flagged op (l.failOutOfService reason) := ⟨he.symm, .inr ⟨rfl, rfl⟩⟩

/-- SIE sets the emergency flag while the link aligns; only a failure clears `local_busy`. -/
theorem handleLssu (header : SuHeader) (status : StatusIndication) (extended : Bool) :
    l.Flagged (.handleSu (.Lssu header status extended)) (l.handleLssu status) := by
  have ho := l.handleLssu_outcome status
  have hup := l.upgradeEmergency_eq status
  have hb : l.localBusyAfter (.handleSu (.Lssu header status extended)) = l.localBusy := rfl
  -- the upgrade is the SIE of the definition
  have hemergency : (l.upgradeEmergency status).emergency =
      l.emergencyAfter (.handleSu (.Lssu header status extended)) := by
    show _ = (l.emergency || l.hearsSie _)
    unfold upgradeEmergency hearsSie
    split
    · next h => simp [h]
    · next h => simp [h]
  generalize l.handleLssu status = l' at ho ⊢
  cases ho with
  | ignored _ | aligned _ _ | proving _ _ => exact ⟨hemergency, .inl (by rw [hup]; rfl)⟩
  | reproving hs =>
    exact ⟨by rw [← hemergency]; simp [upgradeEmergency, hs, enterProving], .inl rfl⟩
  | realigned hs _ =>
    have hne (s : Mtp2State) (hc : s.carriesTraffic = false) : l.state ≠ s :=
      Mtp2State.ne_of_carriesTraffic hs hc
    refine failOutOfService ?_ _
    rw [← hemergency, upgradeEmergency, if_neg]
    simp [hne .NotAligned rfl, hne .Aligned rfl, hne .Proving rfl]
  | released _ => exact failOutOfService (by simp [emergencyAfter, effectiveStart, hearsSie]) _
  | fallback _ | failed _ | serving _ | outage _ _ | outageAgain _ _ | busy _ _ | busyAgain _ _ =>
    exact kept (by simp [emergencyAfter, effectiveStart, hearsSie]) hb rfl rfl

theorem handleFisuOrMsu (he : l.emergencyAfter op = l.emergency)
    (hb : l.localBusyAfter op = l.localBusy) (header : SuHeader) (msu : Option Payload) :
    l.Flagged op (l.handleFisuOrMsu header msu) := by
  rcases l.handleFisuOrMsu_cases header msu with ⟨-, heq⟩ | ⟨-, heq⟩ | ⟨-, -, heq⟩ <;> rw [heq]
  · rw [processInServiceSu_eq]
    exact kept he hb rfl rfl
  · rw [processInServiceSu_eq]
    exact kept he hb rfl rfl
  · exact kept he hb rfl rfl

/-- A received unit writes the emergency flag as an SIE in alignment, and not otherwise. -/
theorem handleSu (su : SignalUnit) : l.Flagged (.handleSu su) (l.handleSu su) := by
  rcases l.handleSu_cases su with ⟨hs, heq⟩ | heq <;> rw [heq]
  · have hne (s : Mtp2State) (hc : s.carriesTraffic = false) : l.state ≠ s :=
      Mtp2State.ne_of_carriesTraffic hs hc
    -- the SUERM fails the link before an SIE is heard
    refine ⟨?_, .inr ⟨rfl, rfl⟩⟩
    show l.emergency = _
    cases su with
    | Lssu header status extended =>
      simp [emergencyAfter, effectiveStart, hearsSie, hne .NotAligned rfl, hne .Aligned rfl,
        hne .Proving rfl]
    | Fisu header | Msu header sio sif => simp [emergencyAfter, effectiveStart, hearsSie]
  · have hunit : l.withSuerm.Flagged (.handleSu su) (l.withSuerm.handleUnit su) := by
      cases su with
      | Lssu header status extended => exact handleLssu header status extended
      | Fisu header =>
        exact handleFisuOrMsu (by simp [emergencyAfter, effectiveStart, hearsSie]) rfl header none
      | Msu header sio sif =>
        exact handleFisuOrMsu (by simp [emergencyAfter, effectiveStart, hearsSie]) rfl header
          (some (sio, sif))
    exact ⟨hunit.emergency, hunit.localBusy⟩

end Flagged

/-- **Everything that writes the two flags.** -/
theorem step_flags (h : l.Represented age) (op : Op) : l.Flagged op (l.step op) := by
  have hlocal := l.step_local op
  cases op with
  | handleSu su => exact .handleSu su
  | start =>
    show l.Flagged .start l.start
    unfold start
    split
    · next hs =>
      -- a start in any other state is ignored
      have hno : l.effectiveStart .start = false := by simp [effectiveStart, hs]
      exact ⟨by simp [emergencyAfter, hno, hearsSie], .inl (by simp [localBusyAfter, hno])⟩
    · next hs =>
      -- an effective start takes the configured flag and forgets the congestion
      have hyes : l.effectiveStart .start = true := by simp [effectiveStart, not_not.mp hs]
      exact ⟨by simp [emergencyAfter, hyes], .inl (by simp [localBusyAfter, hyes])⟩
  | handleCorruptedSu =>
    have ho := l.handleCorruptedSu_outcome
    have he : l.emergencyAfter .handleCorruptedSu = l.emergency := emergencyAfter_idle rfl
    show l.Flagged _ l.handleCorruptedSu
    generalize l.handleCorruptedSu = l' at ho ⊢
    cases ho with
    | counted _ _ | recorded _ | ignored _ _ => exact .kept he rfl rfl rfl
    | aborted _ _ => unfold provingAborted; split <;> exact .kept he rfl rfl rfl
    -- a failure of the link clears `local_busy` too
    | failed _ => exact ⟨he.symm, .inr ⟨rfl, rfl⟩⟩
  | tick =>
    have ho := tick_outcome h
    have he : l.emergencyAfter .tick = l.emergency := emergencyAfter_idle rfl
    show l.Flagged .tick l.tick
    generalize l.tick = l' at ho ⊢
    cases ho with
    | stepped | alignmentFailed _ => exact .kept he rfl rfl rfl
    | serviceFailed _ => exact .failOutOfService he _
    | proved _ _ => unfold provingSucceeded; split <;> exact .kept he rfl rfl rfl
  | setEmergency emergency => exact ⟨rfl, .inl rfl⟩
  | localBusy =>
    have he : l.emergencyAfter .localBusy = l.emergency := emergencyAfter_idle rfl
    exact ⟨he.symm, .inl rfl⟩
  | localBusyEnded =>
    have he : l.emergencyAfter .localBusyEnded = l.emergency := emergencyAfter_idle rfl
    exact ⟨he.symm, .inl rfl⟩
  | stop => exact .kept (emergencyAfter_idle rfl) rfl rfl rfl
  | _ =>
    have hl := hlocal rfl
    exact .kept (emergencyAfter_idle rfl) rfl (hl.emergency (by simp))
      (hl.localBusy (by simp) (by simp))

/-- Nothing but a start takes a link out of Out of Service. -/
theorem step_out (h : l.Represented age) (hs : l.state = .OutOfService)
    (hop : l.effectiveStart op = false) : (l.step op).state = .OutOfService := by
  have hm := step_moved h op
  generalize hl' : l.step op = l' at hm
  -- every other move starts from a state the link is not in
  have hne (s : Mtp2State) (hne : s ≠ .OutOfService) : l.state ≠ s := fun h => hne (h.symm.trans hs)
  cases hm with
  | failed hs' => exact hs'
  | stayed hs' _ => exact hs'.trans hs
  | started _ => exact absurd ⟨rfl, hs⟩ (of_decide_eq_false hop)
  | aligned h _ | entered h | proving h => exact absurd h (hne _ (by simp))
  | waited h _ => rw [hs] at h; cases h
  | served h _ => rcases h with h | h <;> rw [hs] at h <;> cases h

/-- Proving begins with the period and threshold of the mode the link is in then. -/
theorem entersProving_params (h : l.entersProving op = true) :
    (l.step op).t4 = some (l.step op).provingParams.1 ∧
      (l.step op).aerm.threshold = (l.step op).provingParams.2 := by
  cases op with
  | handleSu su =>
    cases su with
    | Lssu header status extended =>
      obtain ⟨config, state, active, emergency, lpo, rpo, lb, rb, attempt, tx, rx, aerm, suerm, t1,
        t2, t3, t4, t6, t7, events⟩ := l
      -- SIN and SIE from Aligned, SIE from Proving: all three read the mode after the SIE
      rcases of_decide_eq_true h with ⟨hs, rfl | rfl⟩ | ⟨hs, rfl⟩ <;>
        · obtain rfl := hs
          exact ⟨rfl, rfl⟩
    | Fisu header | Msu header sio sif => cases h
  | _ => cases h

/-- While it aligns, a link sends SIE in emergency mode and SIN in normal mode. -/
theorem pollTransmit_aligning (hs : l.state = .Aligned ∨ l.state = .Proving) :
    l.pollTransmit.1 = some (l.lssu l.alignmentStatus) := by
  unfold pollTransmit
  rcases hs with hs | hs <;> rw [hs]

end Mtp2Link

/-! ## Emergency alignment -/

/-- A link with what has been asked of it: the last `set_emergency` call, and whether an SIE has
been received in alignment since the last effective start. Either request can be overruled. -/
structure Requests where
  link : Mtp2Link
  lastCall : Option Bool
  heardSie : Bool
  /-- An effective start has forgotten the last call, and no SIE has come since. -/
  forgotten : Bool
  /-- A later call has withdrawn what the last SIE asked for. -/
  withdrawn : Bool

namespace Requests

def new (config : Mtp2Config) : Requests := ⟨.new config, none, false, false, false⟩

def step (s : Requests) : Op → Requests
  | .setEmergency emergency =>
    { s with
      link := s.link.step (.setEmergency emergency)
      lastCall := some emergency
      forgotten := false
      withdrawn := s.heardSie && !emergency }
  | op =>
    if s.link.effectiveStart op then
      { s with
        link := s.link.step op
        heardSie := false
        forgotten := s.lastCall = some true && !s.link.config.emergency
        withdrawn := false }
    else if s.link.hearsSie op then
      { s with link := s.link.step op, heardSie := true, forgotten := false, withdrawn := false }
    else { s with link := s.link.step op }

/-- Emergency proving has been asked for, by MTP3 or by the peer. -/
def Asked (s : Requests) : Prop := s.lastCall = some true ∨ s.heardSie = true

/-- The request stands, but something has overruled it since. -/
def Overruled (s : Requests) : Prop := s.forgotten = true ∨ s.withdrawn = true

/-- Emergency proving is used if it is asked for: at an entry into Proving, and at a poll. -/
structure Honoured (s : Requests) (op : Op) : Prop where
  proves : s.link.entersProving op = true → (s.step op).Asked →
    (s.step op).link.t4 = some s.link.config.t4ProvingEmergency ∧
      (s.step op).link.aerm.threshold = s.link.config.aermThresholdEmergency
  sends : op = .pollTransmit → s.link.state = .Aligned ∨ s.link.state = .Proving → s.Asked →
    ∃ header extended, s.link.pollTransmit.1 = some (.Lssu header .EmergencyAlignment extended)

/-- No request stands overruled when it is needed: at an entry into Proving, unless both modes
prove alike, and at a poll in Aligned or Proving. -/
structure Unopposed (s : Requests) (op : Op) : Prop where
  proves : s.link.entersProving op = true → (s.step op).Overruled →
    s.link.config.t4ProvingNormal = s.link.config.t4ProvingEmergency ∧
      s.link.config.aermThresholdNormal = s.link.config.aermThresholdEmergency
  sends : op = .pollTransmit → s.link.state = .Aligned ∨ s.link.state = .Proving → ¬ s.Overruled

/-- A request is overruled exactly if the link has lost it. -/
structure Inv (s : Requests) : Prop where
  represented : ∃ age, s.link.Represented age
  overruled_iff : s.Overruled ↔ s.Asked ∧ s.link.emergency = false

variable {s : Requests} {op : Op}

theorem step_other (hop : ∀ emergency, op ≠ .setEmergency emergency) :
    s.step op =
      if s.link.effectiveStart op then
        { s with
          link := s.link.step op
          heardSie := false
          forgotten := s.lastCall = some true && !s.link.config.emergency
          withdrawn := false }
      else if s.link.hearsSie op then
        { s with link := s.link.step op, heardSie := true, forgotten := false, withdrawn := false }
      else { s with link := s.link.step op } := by
  cases op with
  | setEmergency emergency => exact absurd rfl (hop emergency)
  | _ => rfl

theorem step_link (s : Requests) (op : Op) : (s.step op).link = s.link.step op := by
  by_cases hop : ∃ emergency, op = .setEmergency emergency
  · obtain ⟨emergency, rfl⟩ := hop
    rfl
  · rw [step_other (not_exists.mp hop), apply_ite Requests.link, apply_ite Requests.link, ite_self,
      ite_self]

theorem inv_new (config : Mtp2Config) : (new config).Inv where
  represented := ⟨0, Mtp2Link.represented_new config⟩
  overruled_iff := by simp [Overruled, Asked, new]

/-- The flag of a link follows what has been asked, but for what overrules it. -/
theorem Inv.step (h : s.Inv) (op : Op) : (s.step op).Inv := by
  obtain ⟨age, hr⟩ := h.represented
  have hflag := (Mtp2Link.step_flags hr op).emergency
  refine ⟨by rw [step_link]; exact ⟨_, hr.step op⟩, ?_⟩
  have hold := h.overruled_iff
  simp only [Overruled, Asked] at hold ⊢
  rw [step_link, hflag]
  by_cases hop : ∃ emergency, op = .setEmergency emergency
  · obtain ⟨emergency, rfl⟩ := hop
    cases emergency <;> simp [Requests.step, Mtp2Link.emergencyAfter]
  · have hafter : s.link.emergencyAfter op =
        if s.link.effectiveStart op then s.link.config.emergency
        else s.link.emergency || s.link.hearsSie op := by
      cases op with
      | setEmergency emergency => exact absurd ⟨emergency, rfl⟩ hop
      | _ => rfl
    rw [step_other (not_exists.mp hop), hafter]
    cases hstart : s.link.effectiveStart op with
    | true => simp
    | false =>
      cases hsie : s.link.hearsSie op with
      | true => simp
      | false => simpa using hold

/-- Entering Proving, a link that has lost a request proves in normal mode. -/
theorem proves_iff (h : s.Inv) (hop : s.link.entersProving op = true) :
    ((s.step op).Asked → (s.step op).link.t4 = some s.link.config.t4ProvingEmergency ∧
        (s.step op).link.aerm.threshold = s.link.config.aermThresholdEmergency) ↔
      ((s.step op).Overruled →
        s.link.config.t4ProvingNormal = s.link.config.t4ProvingEmergency ∧
          s.link.config.aermThresholdNormal = s.link.config.aermThresholdEmergency) := by
  obtain ⟨hperiod, hthreshold⟩ := Mtp2Link.entersProving_params hop
  have hconfig : (s.link.step op).config = s.link.config := s.link.step_config op
  rw [(h.step op).overruled_iff, step_link, hperiod, hthreshold, Mtp2Link.provingParams, hconfig]
  cases he : (s.link.step op).emergency with
  | true => simp
  | false => simp

/-- In Aligned and Proving, a link that has lost a request sends SIN. -/
theorem sends_iff (h : s.Inv) (hs : s.link.state = .Aligned ∨ s.link.state = .Proving) :
    (s.Asked → ∃ header extended,
        s.link.pollTransmit.1 = some (.Lssu header .EmergencyAlignment extended)) ↔
      ¬ s.Overruled := by
  rw [h.overruled_iff, Mtp2Link.pollTransmit_aligning hs, Mtp2Link.lssu, SignalUnit.lssu,
    Mtp2Link.alignmentStatus]
  cases he : s.link.emergency with
  | true => simp
  | false => simp

/-- A request is honoured in a step exactly if nothing has overruled it. -/
theorem honoured_iff (h : s.Inv) (op : Op) : s.Honoured op ↔ s.Unopposed op :=
  ⟨fun hh => ⟨fun hop => (proves_iff h hop).mp (hh.proves hop),
      fun hop hs => (sends_iff h hs).mp (hh.sends hop hs)⟩,
    fun hu => ⟨fun hop => (proves_iff h hop).mpr (hu.proves hop),
      fun hop hs => (sends_iff h hs).mpr (hu.sends hop hs)⟩⟩

/-- **Emergency proving is used whenever it is asked for, exactly in the runs in which no request
stands overruled when it is needed.** What overrules a `set_emergency(true)` is a start that takes
effect under a configuration without emergency, what overrules a received SIE is a
`set_emergency(false)`. -/
theorem emergency_honoured_iff (config : Mtp2Config) (ops : List Op) :
    Run.Along step Honoured (new config) ops ↔ Run.Along step Unopposed (new config) ops :=
  Run.along_congr Inv (fun _ op h => h.step op) (fun _ op h => honoured_iff h op)
    (inv_new config) ops

/-- A request made before the start is forgotten: the link proves in normal mode. -/
theorem start_forgets_emergency :
    ¬ ∀ (config : Mtp2Config) (ops : List Op), Run.Along step Honoured (new config) ops := by
  intro h
  obtain ⟨-, -, -, hentry, -⟩ := h {} [.setEmergency true, .start,
    .handleSu (.Lssu ⟨127, true, 127, true⟩ .OutOfAlignment false),
    .handleSu (.Lssu ⟨127, true, 127, true⟩ .NormalAlignment false)]
  have := hentry.proves (by decide) (.inl rfl)
  revert this
  decide

end Requests

/-! ## Local congestion -/

/-- A link with the congestion MTP3 has signalled and not ended, and whether a start has taken
effect since. -/
structure Throttle where
  link : Mtp2Link
  busy : Bool
  restarted : Bool

namespace Throttle

def new (config : Mtp2Config) : Throttle := ⟨.new config, false, false⟩

def step (s : Throttle) : Op → Throttle
  | .localBusy => ⟨s.link.step .localBusy, true, false⟩
  | .localBusyEnded => ⟨s.link.step .localBusyEnded, false, false⟩
  | op => ⟨s.link.step op, s.busy, s.restarted || s.link.effectiveStart op⟩

/-- A poll of a congested link in service sends SIB and touches neither the buffer, the queue nor
the sequence number. -/
def Throttles (s : Throttle) (op : Op) : Prop :=
  op = .pollTransmit → s.link.state = .InService → s.busy = true →
    (∃ header extended, s.link.pollTransmit.1 = some (.Lssu header .Busy extended)) ∧
      s.link.pollTransmit.2.tx.unacked = s.link.tx.unacked ∧
      s.link.pollTransmit.2.tx.pending = s.link.tx.pending ∧
      s.link.pollTransmit.2.tx.lastFsn = s.link.tx.lastFsn

/-- Congestion has been signalled again since the last effective start, if there is any. -/
def Resignalled (s : Throttle) (op : Op) : Prop :=
  op = .pollTransmit → s.link.state = .InService → s.busy = true → s.restarted = false

/-- The flag of a link follows the congestion signalled, until a start. A failure of the link
clears it as well, but only a start leads back from there. -/
structure Inv (s : Throttle) : Prop where
  represented : ∃ age, s.link.Represented age
  kept : s.busy = true → s.restarted = false →
    s.link.localBusy = true ∨ s.link.state = .OutOfService
  lost : s.busy = true → s.restarted = true → s.link.localBusy = false

variable {s : Throttle} {op : Op}

theorem inv_new (config : Mtp2Config) : (new config).Inv where
  represented := ⟨0, Mtp2Link.represented_new config⟩
  kept := fun hb => by cases hb
  lost := fun hb => by cases hb

/-- An operation that is not about local congestion. -/
theorem Inv.step_other (h : s.Inv) (hop : op ≠ .localBusy) (hop' : op ≠ .localBusyEnded) :
    (⟨s.link.step op, s.busy, s.restarted || s.link.effectiveStart op⟩ : Throttle).Inv := by
  obtain ⟨age, hr⟩ := h.represented
  have hafter : s.link.localBusyAfter op = (!s.link.effectiveStart op && s.link.localBusy) := by
    cases op with
    | localBusy => exact absurd rfl hop
    | localBusyEnded => exact absurd rfl hop'
    | _ => rfl
  have hflag := (Mtp2Link.step_flags hr op).localBusy
  rw [hafter] at hflag
  refine ⟨⟨_, hr.step op⟩, fun hb hno => ?_, fun hb hyes => ?_⟩
  · obtain ⟨hold, hstart⟩ := Bool.or_eq_false_iff.mp hno
    -- not restarted: the flag still stands, or the link is down and stays so
    rcases h.kept hb hold with hbusy | hs
    · refine hflag.imp (fun heq => ?_) And.left
      rw [heq, hstart, hbusy]
      rfl
    · exact .inr (Mtp2Link.step_out hr hs hstart)
  · rcases hflag with heq | ⟨-, heq⟩
    · show (s.link.step op).localBusy = false
      rw [heq]
      rcases Bool.or_eq_true_iff.mp hyes with hold | hstart
      · rw [h.lost hb hold, Bool.and_false]
      · rw [hstart]
        rfl
    · exact heq

theorem Inv.step (h : s.Inv) (op : Op) : (s.step op).Inv := by
  obtain ⟨age, hr⟩ := h.represented
  cases op with
  | localBusy => exact ⟨⟨_, hr.step .localBusy⟩, fun _ _ => .inl rfl, fun _ hno => by cases hno⟩
  | localBusyEnded =>
    refine ⟨⟨_, hr.step .localBusyEnded⟩, fun hb => ?_, fun hb => ?_⟩ <;> cases hb
  | _ => exact h.step_other (by simp) (by simp)

/-- A poll in service under the congestion flag. -/
theorem throttled_poll {l : Mtp2Link} (hs : l.state = .InService) (hb : l.localBusy = true) :
    (∃ header extended, l.pollTransmit.1 = some (.Lssu header .Busy extended)) ∧
      l.pollTransmit.2.tx = l.tx := by
  refine ⟨⟨l.headerForControl, false, ?_⟩, ?_⟩
  · unfold Mtp2Link.pollTransmit
    rw [hs, hb]
    rfl
  · -- a congested link does not poll the transmitter
    have hpolls : l.polls = false := by simp [Mtp2Link.polls, hb]
    rw [Mtp2Link.pollTransmit_link, hpolls, Mtp2Link.guardT7_tx]
    rfl

/-- Without the flag it sends FISUs and MSUs. -/
theorem unthrottled_poll {l : Mtp2Link} (hs : l.state = .InService) (hb : l.localBusy = false)
    (header : SuHeader) (extended : Bool) :
    l.pollTransmit.1 ≠ some (.Lssu header .Busy extended) := by
  unfold Mtp2Link.pollTransmit
  rw [hs, hb]
  dsimp only
  rw [if_neg (by simp)]
  split
  · simp [SignalUnit.fisu]
  · obtain ⟨header', msu, htraffic, -⟩ := l.frameUnit_traffic l.tx.poll.1
    intro heq
    rw [Option.some.inj heq] at htraffic
    cases htraffic

/-- A poll throttles exactly if the congestion was signalled after the last start. -/
theorem throttles_iff (h : s.Inv) (op : Op) : s.Throttles op ↔ s.Resignalled op := by
  refine forall_congr' fun _ => forall_congr' fun hs => forall_congr' fun hb => ?_
  cases hr : s.restarted with
  | false =>
    have hbusy : s.link.localBusy = true := (h.kept hb hr).resolve_right (by rw [hs]; simp)
    obtain ⟨hsib, htx⟩ := throttled_poll hs hbusy
    exact iff_of_true ⟨hsib, by rw [htx], by rw [htx], by rw [htx]⟩ rfl
  | true =>
    refine iff_of_false (fun hsib => ?_) (by simp)
    obtain ⟨header, extended, heq⟩ := hsib.1
    exact unthrottled_poll hs (h.lost hb hr) header extended heq

/-- **Local congestion lasts until it is ended, or the link is started again.** In service every
SU sent under congestion is an SIB that leaves the transmit side alone, exactly in the runs in
which no start takes effect between the call of `local_busy` and a poll in service. -/
theorem congestion_lasts_iff (config : Mtp2Config) (ops : List Op) :
    Run.Along step Throttles (new config) ops ↔ Run.Along step Resignalled (new config) ops :=
  Run.along_congr Inv (fun _ op h => h.step op) (fun _ op h => throttles_iff h op)
    (inv_new config) ops

/-- Congestion signalled before the start is gone when the link is in service. -/
theorem start_forgets_congestion :
    ¬ ∀ (config : Mtp2Config) (ops : List Op), Run.Along step Throttles (new config) ops := by
  intro h
  obtain ⟨-, -, -, -, -, -, hpoll, -⟩ := h { t4ProvingNormal := 1 } [.localBusy, .start,
    .handleSu (.Lssu ⟨127, true, 127, true⟩ .OutOfAlignment false),
    .handleSu (.Lssu ⟨127, true, 127, true⟩ .NormalAlignment false), .tick,
    .handleSu (.Fisu ⟨127, true, 127, true⟩), .pollTransmit]
  obtain ⟨header, extended, heq⟩ := (hpoll rfl (by decide) (by decide)).1
  exact unthrottled_poll (by decide) (by decide) header extended heq

end Throttle

end Mtp2
