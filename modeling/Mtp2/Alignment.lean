import Mtp2.Lockstep

/-!
# MTP2 — normal alignment of two links

Two links started at different times, with different proving periods, and run in lockstep. Each
waits for the other twice: in Not Aligned for the other to start, and in Aligned Ready for the
other to finish proving. It does not matter whether they are new: a link that was taken down
without a `stop` goes on sending SIOS until it is started again, which its peer in Not Aligned does
not mind.

* **`Down`**, **`Aligning`** — a party before its start, and in a phase of the alignment;
* **`Startup.aligned`** — the calls that start both ends, up to the round that aligns them;
* **`Exchange.together`** — from there both enter service in the same round;
* **`aligned_together`**, **`realigned_together`** — so do new links, and links that come back.
-/

namespace Mtp2

/-- A guard timer expires on the tick that completes its period. -/
theorem Guards.expires_iff {t : Option UInt32} {on : Prop} {period : UInt32} {age : ℕ}
    (h : Guards t on period age) (hon : on) :
    (stepTimer t).1 = true ↔ max 1 period.toNat ≤ age + 1 := by
  obtain ⟨r, hr⟩ := Option.isSome_iff_exists.mp (h.running.mpr hon)
  obtain ⟨hleft, hlt⟩ := h.left r hr
  have hruns : Runs t r.toNat := ⟨r, hr, rfl⟩
  rw [hruns.expires_iff]
  omega

/-- A guard timer does not expire before the age of its period. -/
theorem Guards.not_expired {t : Option UInt32} {on : Prop} {period : UInt32} {age : ℕ}
    (h : Guards t on period age) (hlt : on → age + 1 < max 1 period.toNat) :
    (stepTimer t).1 = false := by
  cases t with
  | none => rfl
  | some r =>
    have hon := h.running.mp rfl
    exact Bool.not_eq_true _ ▸ fun hexp =>
      absurd ((h.expires_iff hon).mp hexp) (Nat.not_le.mpr (hlt hon))

namespace Mtp2Link

variable {l : Mtp2Link} {age : ℕ}

/-- A tick on which no timer expires. -/
theorem tick_eq_stepTimers (h1 : (stepTimer l.t1).1 = false) (h2 : (stepTimer l.t2).1 = false)
    (h3 : (stepTimer l.t3).1 = false) (h4 : (stepTimer l.t4).1 = false)
    (h6 : (stepTimer l.t6).1 = false) (h7 : (stepTimer l.t7).1 = false) :
    l.tick = l.stepTimers := by
  simp only [tick, h1, h2, h3, h4, h6, h7, Bool.false_eq_true, false_and, if_false]
  rfl

/-- A tick over stopped timers changes nothing. -/
theorem tick_eq_self (h1 : l.t1 = none) (h2 : l.t2 = none) (h3 : l.t3 = none) (h4 : l.t4 = none)
    (h6 : l.t6 = none) (h7 : l.t7 = none) : l.tick = l := by
  have hnone {t : Option UInt32} (ht : t = none) : stepTimer t = (false, t) := by
    rw [ht]
    rfl
  rw [tick_eq_stepTimers (by rw [hnone h1]) (by rw [hnone h2]) (by rw [hnone h3])
    (by rw [hnone h4]) (by rw [hnone h6]) (by rw [hnone h7])]
  simp only [stepTimers, hnone h1, hnone h2, hnone h3, hnone h4, hnone h6, hnone h7]

end Mtp2Link

/-! ## A party in alignment -/

/-- The status a link sends in Aligned and in Proving. -/
def modeStatus (e : Bool) : StatusIndication :=
  if e then .EmergencyAlignment else .NormalAlignment

/-- The proving period of a mode. -/
def Mtp2Config.t4Proving (c : Mtp2Config) (e : Bool) : UInt32 :=
  if e then c.t4ProvingEmergency else c.t4ProvingNormal

/-- Out of service without a local outage, and nothing raised since: a new link, or one with a past
of its own. -/
structure Down (c : Mtp2Config) (x : Party) : Prop where
  config : x.link.config = c
  state : x.link.state = .OutOfService
  represented : ∃ age, x.link.Represented age
  available : x.link.localProcessorOutage = false
  log : x.log = []

/-- In a phase of the alignment for `age` ticks, in emergency mode or not, and nothing raised. -/
structure Aligning (c : Mtp2Config) (s : Mtp2State) (e : Bool) (age : ℕ) (x : Party) : Prop where
  config : x.link.config = c
  state : x.link.state = s
  phase : s.carriesTraffic = false ∧ s ≠ .OutOfService
  represented : x.link.Represented age
  mode : x.link.emergency = e
  available : x.link.localProcessorOutage = false
  peerAvailable : x.link.remoteProcessorOutage = false
  proving : s = .Proving → Runs x.link.t4 ((c.t4Proving e).toNat - age)
  log : x.log = []

/-- In service, which was the one event raised, with no timer running. -/
structure Serving (x : Party) : Prop where
  state : x.link.state = .InService
  represented : ∃ age, x.link.Represented age
  t6 : x.link.t6 = none
  t7 : x.link.t7 = none
  log : x.log = [.InService]

section Phases

variable {c : Mtp2Config} {s : Mtp2State} {e : Bool} {age : ℕ} {x : Party} {op : Op}

namespace Aligning

/-! ### Calls and polls -/

/-- What leaves the link in its phase leaves it there as old. -/
theorem kept (h : Aligning c s e age x) {x' : Party} (hr : x'.link.Represented age)
    (hlink : (x'.link.config, x'.link.state, x'.link.emergency, x'.link.localProcessorOutage,
      x'.link.remoteProcessorOutage, x'.link.t4) =
      (x.link.config, x.link.state, x.link.emergency, x.link.localProcessorOutage,
        x.link.remoteProcessorOutage, x.link.t4)) (hlog : x'.log = x.log) :
    Aligning c s e age x' := by
  simp only [Prod.mk.injEq] at hlink
  obtain ⟨hc, hs, he, hlpo, hrpo, h4⟩ := hlink
  exact ⟨hc.trans h.config, hs.trans h.state, h.phase, hr, he.trans h.mode,
    hlpo.trans h.available, hrpo.trans h.peerAvailable, fun hp => h4 ▸ h.proving hp,
    hlog.trans h.log⟩

theorem represented_act (h : Aligning c s e age x) (hs : (x.link.step op).state = x.link.state)
    (hop : op ≠ .tick) : (x.act op).link.Represented age := by
  have := h.represented.step op
  rwa [Mtp2Link.ageAfter, if_pos hs, if_neg hop] at this

/-- Calls and polls leave the link in its phase. -/
theorem call (h : Aligning c s e age x) (hop : op.ordinary = true ∨ op = .pollTransmit) :
    Aligning c s e age (x.act op) := by
  have hne : op ≠ .tick := by rintro rfl; rcases hop with hop | hop <;> cases hop
  cases op with
  | start =>
    -- only a link out of service starts
    have hstart : x.link.start = x.link := if_pos (by rw [h.state]; exact h.phase.2)
    have hact : x.link.step .start = x.link := hstart
    exact h.kept (h.represented_act (by rw [hact]) hne) (by rw [Party.act, hact])
      (Party.act_log_eq (by rw [hact]))
  | submitMsu sio sif =>
    have hact : x.link.step (.submitMsu sio sif) = _ := x.link.submitMsu_eq sio sif
    exact h.kept (h.represented_act (by rw [hact]) hne) (by rw [Party.act, hact])
      (Party.act_log_eq (by rw [hact]))
  | pollTransmit =>
    -- a poll reads the state, and moves the transmit side only in service
    have hact : x.link.step .pollTransmit = _ := x.link.pollTransmit_eq
    exact h.kept (h.represented_act (by rw [hact]) hne) (by rw [Party.act, hact])
      (Party.act_log_eq (by rw [hact]))
  | pollEvent =>
    refine h.kept (h.represented_act rfl hne) rfl ?_
    rw [Party.act, Mtp2Link.raised_pollEvent, List.append_nil]
  | _ => rcases hop with hop | hop <;> cases hop

/-- So do any number of them. -/
theorem calls (h : Aligning c s e age x) {ops : List Op} (hops : ∀ op ∈ ops, op.ordinary = true) :
    Aligning c s e age (x.run ops) := by
  induction ops generalizing x with
  | nil => exact h
  | cons op ops ih =>
    exact ih (h.call (.inl (hops op List.mem_cons_self))) fun op hop =>
      hops op (List.mem_cons_of_mem _ hop)

/-- What the link sends in its phase. -/
theorem sends (h : Aligning c s e age x) :
    (s = .NotAligned → x.link.pollTransmit.1 = some (x.link.lssu .OutOfAlignment)) ∧
      (s = .Aligned ∨ s = .Proving →
        x.link.pollTransmit.1 = some (x.link.lssu (modeStatus e))) ∧
      (s = .AlignedReady → x.link.pollTransmit.1 = some (.fisu x.link.headerForControl)) := by
  have hs := h.state
  refine ⟨?_, ?_, ?_⟩
  · rintro rfl
    rw [Mtp2Link.pollTransmit, hs]
  · rintro (rfl | rfl) <;> rw [Mtp2Link.pollTransmit, hs, Mtp2Link.alignmentStatus, h.mode] <;> rfl
  · rintro rfl
    rw [Mtp2Link.pollTransmit, hs]

/-! ### Hearing the other end -/

/-- No link that aligns is in service, so a unit goes straight to its arm. -/
theorem handleSu_eq (h : Aligning c s e age x) (su : SignalUnit) :
    x.link.step (.handleSu su) = x.link.handleUnit su :=
  Mtp2Link.handleSu_of_not_traffic (by rw [h.state]; exact h.phase.1) su

/-- A new phase starts its age over. -/
theorem represented_enter (h : Aligning c s e age x)
    (hne : (x.link.step op).state ≠ x.link.state) : (x.link.step op).Represented 0 := by
  have hrep := h.represented.step op
  rwa [Mtp2Link.ageAfter, if_neg hne] at hrep

/-- Entering a phase, or Proving again. -/
theorem enters {s' : Mtp2State} {e' : Bool} (h : Aligning c s e age x)
    (hrep : (x.link.step op).Represented 0)
    (hphase : s'.carriesTraffic = false ∧ s' ≠ .OutOfService)
    (hs' : (x.link.step op).state = s') (hmode : (x.link.step op).emergency = e')
    (hlink : ((x.link.step op).localProcessorOutage, (x.link.step op).remoteProcessorOutage,
      (x.link.step op).events) =
      (x.link.localProcessorOutage, x.link.remoteProcessorOutage, x.link.events))
    (h4 : s' = .Proving → (x.link.step op).t4 = some (c.t4Proving e')) :
    Aligning c s' e' 0 (x.act op) := by
  simp only [Prod.mk.injEq] at hlink
  obtain ⟨hlpo, hrpo, hev⟩ := hlink
  exact ⟨(x.link.step_config op).trans h.config, hs', hphase, hrep, hmode,
    hlpo.trans h.available, hrpo.trans h.peerAvailable, fun hp => ⟨_, h4 hp, by rw [Nat.sub_zero]⟩,
    (Party.act_log_eq hev).trans h.log⟩

/-- SIO brings a link out of Not Aligned. -/
theorem hears_sio (h : Aligning c .NotAligned e age x) (header : SuHeader) :
    Aligning c .Aligned e 0 (x.act (.handleSu (.lssu header .OutOfAlignment))) := by
  have heq : x.link.step (.handleSu (.lssu header .OutOfAlignment)) =
      { x.link with t2 := none, state := .Aligned, t3 := some x.link.config.t3Aligned } := by
    rw [h.handleSu_eq]
    simp only [SignalUnit.lssu, Mtp2Link.handleUnit, Mtp2Link.handleLssu,
      Mtp2Link.upgradeEmergency, reduceCtorEq, false_and, if_false, h.state]
  exact h.enters (h.represented_enter (by rw [heq, h.state]; simp)) ⟨rfl, by simp⟩ (by rw [heq])
    (by rw [heq]; exact h.mode) (by rw [heq]) (by simp)

/-- **The status of either mode has an aligned link prove, and SIE has a proving link start its
period again.** It proves in emergency mode if either end asks for it. -/
theorem hears_status {e' : Bool} (h : Aligning c s e age x)
    (hs : s = .Aligned ∨ s = .Proving ∧ e' = true) (header : SuHeader) :
    Aligning c .Proving (e || e') 0 (x.act (.handleSu (.lssu header (modeStatus e')))) := by
  have heq : x.link.step (.handleSu (.lssu header (modeStatus e'))) =
      { x.link with t3 := none, emergency := e || e' }.enterProving := by
    rw [h.handleSu_eq]
    have hst := h.state
    rcases hs with rfl | ⟨rfl, rfl⟩
    · cases e' with
      | true =>
        simp [SignalUnit.lssu, Mtp2Link.handleUnit, Mtp2Link.handleLssu,
          Mtp2Link.upgradeEmergency, modeStatus, hst]
      | false =>
        rw [Bool.or_false, ← h.mode]
        simp [SignalUnit.lssu, Mtp2Link.handleUnit, Mtp2Link.handleLssu,
          Mtp2Link.upgradeEmergency, modeStatus, hst]
    · -- T3 does not run in Proving
      have h3 : x.link.t3 = none := h.represented.timers_off.2.2.1 (by rw [hst]; simp)
      rw [Bool.or_true, ← h3]
      simp [SignalUnit.lssu, Mtp2Link.handleUnit, Mtp2Link.handleLssu,
        Mtp2Link.upgradeEmergency, modeStatus, hst]
  have hrep : ({ x.link with t3 := none, emergency := e || e' }.enterProving).Represented 0 :=
    h.represented.enterProving (by rw [h.state]; exact hs.imp_right And.left) _
  refine h.enters (by rw [heq]; exact hrep) ⟨rfl, by simp⟩ (by rw [heq]; rfl) (by rw [heq]; rfl)
    (by rw [heq]; rfl) fun _ => ?_
  rw [heq]
  show some (Mtp2Link.provingParams _).1 = _
  rw [Mtp2Link.provingParams, Mtp2Config.t4Proving, h.config]
  split <;> rfl

/-- SIN changes nothing more, and an FISU nothing while the link proves. -/
theorem hears_again (h : Aligning c s e age x) {su : SignalUnit} {header : SuHeader}
    (hsu : (s = .Proving ∨ s = .AlignedReady) ∧ su = .lssu header .NormalAlignment ∨
      s = .Proving ∧ su = .fisu header) :
    Aligning c s e age (x.act (.handleSu su)) := by
  have heq : x.link.step (.handleSu su) = x.link := by
    rw [h.handleSu_eq]
    rcases hsu with ⟨rfl | rfl, rfl⟩ | ⟨rfl, rfl⟩
    · simp only [SignalUnit.lssu, Mtp2Link.handleUnit, Mtp2Link.handleLssu,
        Mtp2Link.upgradeEmergency, reduceCtorEq, false_and, if_false, h.state]
    · simp only [SignalUnit.lssu, Mtp2Link.handleUnit, Mtp2Link.handleLssu,
        Mtp2Link.upgradeEmergency, reduceCtorEq, false_and, if_false, h.state]
    · simp only [SignalUnit.fisu, Mtp2Link.handleUnit, Mtp2Link.handleFisuOrMsu, h.state]
  exact h.kept (h.represented_act (by rw [heq]) (by simp)) (by rw [Party.act, heq])
    (Party.act_log_eq (by rw [heq]))

/-- In Not Aligned an SIOS says nothing new. -/
theorem hears_sios (h : Aligning c .NotAligned e age x) (header : SuHeader) :
    Aligning c .NotAligned e age (x.act (.handleSu (.lssu header .OutOfService))) := by
  have heq : x.link.step (.handleSu (.lssu header .OutOfService)) = x.link := by
    rw [h.handleSu_eq]
    simp only [SignalUnit.lssu, Mtp2Link.handleUnit, Mtp2Link.handleLssu,
      Mtp2Link.upgradeEmergency, reduceCtorEq, false_and, if_false, h.state]
  exact h.kept (h.represented_act (by rw [heq]) (by simp)) (by rw [Party.act, heq])
    (Party.act_log_eq (by rw [heq]))

/-- A FISU brings a link that is ready into service. -/
theorem hears_fisu (h : Aligning c .AlignedReady e age x) (header : SuHeader) :
    Serving (x.act (.handleSu (.fisu header))) := by
  obtain ⟨h6, h7, hrb, hu⟩ := h.represented.idle (by rw [h.state]; nofun) (by rw [h.state]; rfl)
  have heq : x.link.step (.handleSu (.fisu header)) =
      x.link.enterInService.processInServiceSu header none := by
    rw [h.handleSu_eq]
    simp only [SignalUnit.fisu, Mtp2Link.handleUnit, Mtp2Link.handleFisuOrMsu, h.state]
  -- nothing was sent, so nothing is left to acknowledge
  have hack : (x.link.tx.onAck header.bsn header.bib).unackedLen = 0 := by
    rw [TxControl.unackedLen, TxControl.onAck_unacked, hu, List.drop_nil]
    rfl
  have hcleared : x.link.enterInService.clearedEvents = [] := by
    rw [Mtp2Link.clearedEvents]
    simp only [Mtp2Link.enterInService, Mtp2Link.emit, h.peerAvailable, hrb, Bool.false_eq_true,
      if_false, List.nil_append]
  rw [Mtp2Link.processInServiceSu_eq, hcleared] at heq
  have hrep : ∃ age, (x.act (.handleSu (.fisu header))).link.Represented age :=
    ⟨_, h.represented.step (.handleSu (.fisu header))⟩
  refine ⟨by rw [Party.act, heq]; rfl, hrep, ?_, ?_, ?_⟩
  · rw [Party.act, heq]
    show (if x.link.remoteBusy then none else x.link.t6) = none
    rw [hrb, h6]
    rfl
  · rw [Party.act, heq]
    exact if_pos hack
  · have hes : (x.link.step (.handleSu (.fisu header))).events = x.link.events ++ [.InService] := by
      rw [heq]
      simp [Mtp2Link.enterInService, Mtp2Link.emit, Mtp2Link.checked, Mtp2Link.outcomeEvents]
    rw [Party.act_log hes, h.log]
    rfl

/-! ### Ticks -/

/-- A tick that does not complete the period of the phase. -/
theorem tick (h : Aligning c s e age x)
    (h2 : s = .NotAligned → age + 1 < max 1 c.t2NotAligned.toNat)
    (h3 : s = .Aligned → age + 1 < max 1 c.t3Aligned.toNat)
    (h4 : s = .Proving → age + 1 < max 1 (c.t4Proving e).toNat)
    (h1 : s = .AlignedReady → age + 1 < max 1 c.t1AlignedReady.toNat) :
    Aligning c s e (age + 1) (x.act .tick) := by
  have hs := h.state
  have hc := h.config
  obtain ⟨-, -, -, h4off, hoff⟩ := h.represented.timers_off
  obtain ⟨h6, h7⟩ := hoff (by rw [hs]; exact h.phase.1)
  -- T4 is no guard timer: it runs in Proving, and a repeated SIE sets it back
  have hexp4 : (stepTimer x.link.t4).1 = false := by
    by_cases hp : s = .Proving
    · refine Bool.not_eq_true _ ▸ fun hexp => ?_
      have hle := (h.proving hp).expires_iff.mp hexp
      have hlt := h4 hp
      omega
    · rw [h4off (by rw [hs]; exact hp)]
      rfl
  have heq : x.link.step .tick = x.link.stepTimers :=
    Mtp2Link.tick_eq_stepTimers
      (h.represented.t1.not_expired fun hst => by rw [hc]; exact h1 (hs.symm.trans hst))
      (h.represented.t2.not_expired fun hst => by rw [hc]; exact h2 (hs.symm.trans hst))
      (h.represented.t3.not_expired fun hst => by rw [hc]; exact h3 (hs.symm.trans hst))
      hexp4 (by rw [h6]; rfl) (by rw [h7]; rfl)
  have hrep := h.represented.step .tick
  rw [Mtp2Link.ageAfter, if_pos rfl, if_pos (by rw [heq]; rfl), heq] at hrep
  refine ⟨by rw [Party.act, heq]; exact hc, by rw [Party.act, heq]; exact hs, h.phase,
    by rw [Party.act, heq]; exact hrep, by rw [Party.act, heq]; exact h.mode,
    by rw [Party.act, heq]; exact h.available, by rw [Party.act, heq]; exact h.peerAvailable,
    fun hp => ?_, (Party.act_log_eq (by rw [heq]; rfl)).trans h.log⟩
  rw [Party.act, heq, ← Nat.sub_sub]
  exact (h.proving hp).step hexp4

/-- The tick that completes the proving period. -/
theorem tick_proved (h : Aligning c .Proving e age x)
    (hp : max 1 (c.t4Proving e).toNat ≤ age + 1) :
    Aligning c .AlignedReady e 0 (x.act .tick) := by
  have hs := h.state
  obtain ⟨-, h2, h3, -⟩ := h.represented.timers_off
  have h2' := h2 (by simp [hs])
  have h3' := h3 (by simp [hs])
  have hexp : (stepTimer x.link.t4).1 = true := (h.proving rfl).expires_iff.mpr (by omega)
  have heq : x.link.step .tick = { x.link with
      t4 := none, state := .AlignedReady, t1 := some x.link.config.t1AlignedReady } := by
    rw [Mtp2Link.step, Mtp2Link.tick]
    simp only [h2', h3', stepTimer_none, hexp, hs, Bool.false_eq_true, false_and, if_false,
      and_self, if_true, Mtp2Link.provingSucceeded, h.available]
  exact h.enters (h.represented_enter (by rw [heq, hs]; simp)) ⟨rfl, by simp⟩ (by rw [heq])
    (by rw [heq]; exact h.mode) (by rw [heq]) (by simp)

end Aligning

/-- In service no timer runs, and a tick changes nothing. -/
theorem Serving.tick (h : Serving x) : Serving (x.act .tick) := by
  obtain ⟨age, hr⟩ := h.represented
  obtain ⟨-, h1, h2, h3, h4, -⟩ := hr.inTraffic (by rw [h.state]; rfl)
  have heq : x.link.step .tick = x.link := Mtp2Link.tick_eq_self h1 h2 h3 h4 h.t6 h.t7
  have hlog := (Party.act_log_eq (by rw [heq])).trans h.log
  exact ⟨by rw [Party.act, heq]; exact h.state, ⟨_, hr.step .tick⟩,
    by rw [Party.act, heq]; exact h.t6, by rw [Party.act, heq]; exact h.t7, hlog⟩

/-! ### Before the start -/

theorem down_fresh (c : Mtp2Config) : Down c (.fresh c) :=
  ⟨rfl, rfl, ⟨0, Mtp2Link.represented_new c⟩, rfl, rfl⟩

/-- A link with a past of its own. -/
theorem down_run (config : Mtp2Config) (ops : List Op)
    (hs : ((Mtp2Link.new config).run ops).state = .OutOfService)
    (hlpo : ((Mtp2Link.new config).run ops).localProcessorOutage = false) :
    Down config ⟨(Mtp2Link.new config).run ops, []⟩ :=
  ⟨Mtp2Link.run_config _ ops, hs, Mtp2Link.represented_of_run config ops, hlpo, rfl⟩

namespace Down

/-- What leaves a link down. -/
theorem kept (h : Down c x) (op : Op)
    (hlink : ((x.link.step op).state, (x.link.step op).localProcessorOutage) =
      (x.link.state, x.link.localProcessorOutage)) (hlog : (x.act op).log = x.log) :
    Down c (x.act op) := by
  simp only [Prod.mk.injEq] at hlink
  obtain ⟨age, hr⟩ := h.represented
  exact ⟨(x.link.step_config op).trans h.config, hlink.1.trans h.state, ⟨_, hr.step op⟩,
    hlink.2.trans h.available, hlog.trans h.log⟩

/-- It sends SIOS, or nothing, and is none the different for it. -/
theorem sends (h : Down c x) : x.link.step .pollTransmit = x.link ∧
    (x.link.pollTransmit.1 = none ∨
      x.link.pollTransmit.1 = some (.lssu x.link.headerForControl .OutOfService)) := by
  -- T7 guards a link in service only
  have hguard : x.link.guardT7 = x.link := if_neg (by rw [h.state]; simp)
  rw [Mtp2Link.step, Mtp2Link.pollTransmit, h.state]
  dsimp only
  split
  · exact ⟨hguard, .inr rfl⟩
  · exact ⟨rfl, .inl rfl⟩

/-- A submission is rejected or queued, and an event poll only reads. -/
theorem call (h : Down c x) (hop : op.ordinary = true) (hne : op ≠ .start) : Down c (x.act op) := by
  cases op with
  | submitMsu sio sif =>
    have hact : x.link.step (.submitMsu sio sif) = _ := x.link.submitMsu_eq sio sif
    exact h.kept _ (by rw [hact]) (Party.act_log_eq (by rw [hact]))
  | pollEvent =>
    refine h.kept .pollEvent rfl ?_
    rw [Party.act, Mtp2Link.raised_pollEvent, List.append_nil]
  | start => exact absurd rfl hne
  | _ => cases hop

/-- Whatever came before, a start begins with the configured mode in Not Aligned. -/
theorem start (h : Down c x) : Aligning c .NotAligned c.emergency 0 (x.act .start) := by
  obtain ⟨age, hr⟩ := h.represented
  have heq : x.link.step .start = _ := if_neg (not_not_intro h.state)
  have hrep := hr.step .start
  rw [Mtp2Link.ageAfter, if_neg (by rw [heq, h.state]; simp)] at hrep
  exact ⟨(x.link.step_config .start).trans h.config, by rw [Party.act, heq], ⟨rfl, by simp⟩, hrep,
    by rw [Party.act, heq]; exact congrArg Mtp2Config.emergency h.config,
    by rw [Party.act, heq]; exact h.available, by rw [Party.act, heq], by simp,
    (Party.act_log_eq (by rw [heq]; rfl)).trans h.log⟩

/-- Without a start the calls leave it down. -/
theorem calls (h : Down c x) {ops : List Op} (hops : ∀ op ∈ ops, op.ordinary = true)
    (hstart : .start ∉ ops) : Down c (x.run ops) := by
  induction ops generalizing x with
  | nil => exact h
  | cons op ops ih =>
    have hne : op ≠ .start := fun heq => hstart (by rw [heq]; exact List.mem_cons_self)
    exact ih (h.call (hops op List.mem_cons_self) hne)
      (fun op hop => hops op (List.mem_cons_of_mem _ hop))
      fun hmem => hstart (List.mem_cons_of_mem _ hmem)

/-- The first start among the calls is the one that counts. -/
theorem started (h : Down c x) {ops : List Op} (hops : ∀ op ∈ ops, op.ordinary = true)
    (hstart : .start ∈ ops) : Aligning c .NotAligned c.emergency 0 (x.run ops) := by
  induction ops generalizing x with
  | nil => cases hstart
  | cons op ops ih =>
    have hrest : ∀ op ∈ ops, op.ordinary = true := fun op hop =>
      hops op (List.mem_cons_of_mem _ hop)
    by_cases hne : op = .start
    · -- from here on the link aligns, and further starts do nothing
      subst hne
      exact h.start.calls hrest
    · exact ih (h.call (hops op List.mem_cons_self) hne) hrest
        ((List.mem_cons.mp hstart).resolve_left fun heq => hne heq.symm)

/-- A link that is down has no part in the exchange. -/
theorem turn (h : Down c x) (header : SuHeader) :
    Down c (x.turn (some (.lssu header .OutOfAlignment))) := by
  have hpoll : Down c (x.act .pollTransmit) :=
    h.kept _ (by rw [h.sends.1]) (Party.act_log_eq (by rw [h.sends.1]))
  have hsame {y : Party} (hy : Down c y) :
      y.link.step (.handleSu (.lssu header .OutOfAlignment)) = y.link := by
    have hc : y.link.state.carriesTraffic = false := by rw [hy.state]; rfl
    rw [Mtp2Link.step, Mtp2Link.handleSu_of_not_traffic hc]
    simp only [SignalUnit.lssu, Mtp2Link.handleUnit, Mtp2Link.handleLssu,
      Mtp2Link.upgradeEmergency, reduceCtorEq, false_and, if_false, hy.state]
  have hheard := hpoll.kept (.handleSu (.lssu header .OutOfAlignment))
    (by rw [hsame hpoll]) (Party.act_log_eq (by rw [hsame hpoll]))
  -- no timer runs, so the tick changes nothing either
  obtain ⟨age, hr⟩ := hheard.represented
  have hs := hheard.state
  obtain ⟨h1, h2, h3, h4, hoff⟩ := hr.timers_off
  obtain ⟨h6, h7⟩ := hoff (by rw [hs]; rfl)
  have htick := Mtp2Link.tick_eq_self (h1 (by simp [hs])) (h2 (by simp [hs])) (h3 (by simp [hs]))
    (h4 (by simp [hs])) h6 h7
  exact hheard.kept .tick (by rw [Mtp2Link.step, htick])
    (Party.act_log_eq (by rw [Mtp2Link.step, htick]))

end Down

/-! ### Waiting and aligning -/

/-- **Waiting for the other end to start.** One that was taken down without a `stop` goes on sending
SIOS meanwhile. -/
theorem Aligning.waits {c' : Mtp2Config} {y : Party} (h : Aligning c .NotAligned e age x)
    (hy : Down c' y) (hlt : age + 1 < max 1 c.t2NotAligned.toNat) :
    Aligning c .NotAligned e (age + 1) (x.turn y.link.pollTransmit.1) := by
  have hpoll : Aligning c .NotAligned e age (x.act .pollTransmit) := h.call (.inr rfl)
  rcases hy.sends.2 with hsu | hsu <;> rw [hsu]
  · exact hpoll.tick (fun _ => hlt) (by simp) (by simp) (by simp)
  · exact (hpoll.hears_sios _).tick (fun _ => hlt) (by simp) (by simp) (by simp)

/-- Both ends send SIO. -/
theorem Aligning.aligns (h : Aligning c .NotAligned e age x) (h3 : 2 ≤ c.t3Aligned.toNat)
    (header : SuHeader) :
    Aligning c .Aligned e 1 (x.turn (some (.lssu header .OutOfAlignment))) :=
  ((h.call (.inr rfl)).hears_sio header).tick (by simp) (fun _ => by omega) (by simp) (by simp)

/-! ## One side of a round -/

/-- The ticks of a proving period. -/
def Mtp2Config.provingPeriod (c : Mtp2Config) : ℕ := max 1 c.t4ProvingNormal.toNat

/-- The phase `m` rounds after both have started, with the ticks spent in it. -/
def phaseAt (P m : ℕ) : Mtp2State × ℕ :=
  if m ≤ 1 then (.Aligned, 1) else if m ≤ P then (.Proving, m - 1) else (.AlignedReady, m - 1 - P)

/-- A party `m` rounds after both have started, in normal alignment. -/
def Stage (c : Mtp2Config) (m : ℕ) (x : Party) : Prop :=
  Aligning c (phaseAt c.provingPeriod m).1 false (phaseAt c.provingPeriod m).2 x

namespace Stage

variable {m : ℕ}

/-- The three phases. -/
theorem cases (h : Stage c m x) (hm : 1 ≤ m) :
    m = 1 ∧ Aligning c .Aligned false 1 x ∨
      2 ≤ m ∧ m ≤ c.provingPeriod ∧ Aligning c .Proving false (m - 1) x ∨
      c.provingPeriod < m ∧ 2 ≤ m ∧
        Aligning c .AlignedReady false (m - 1 - c.provingPeriod) x := by
  have hP : 1 ≤ c.provingPeriod := Nat.le_max_left _ _
  unfold Stage phaseAt at h
  split at h
  · exact .inl ⟨by omega, h⟩
  split at h
  · next hle => exact .inr (.inl ⟨by omega, hle, h⟩)
  · exact .inr (.inr ⟨by omega, by omega, h⟩)

theorem proving (hm : 2 ≤ m) (hle : m ≤ c.provingPeriod)
    (h : Aligning c .Proving false (m - 1) x) : Stage c m x := by
  rw [Stage, phaseAt, if_neg (by omega), if_pos hle]
  exact h

theorem ready (hm : 2 ≤ m) (hlt : c.provingPeriod < m)
    (h : Aligning c .AlignedReady false (m - 1 - c.provingPeriod) x) : Stage c m x := by
  rw [Stage, phaseAt, if_neg (by omega), if_neg (by omega)]
  exact h

theorem calls (h : Stage c m x) {ops : List Op} (hops : ∀ op ∈ ops, op.ordinary = true) :
    Stage c m (x.run ops) := Aligning.calls h hops

/-- What a party sends: SIN until its proving is over, then FISUs. -/
theorem sends (h : Stage c m x) (hm : 1 ≤ m) :
    (m ≤ c.provingPeriod → x.link.pollTransmit.1 = some (x.link.lssu .NormalAlignment)) ∧
      (c.provingPeriod < m → x.link.pollTransmit.1 = some (.fisu x.link.headerForControl)) := by
  have hP : 1 ≤ c.provingPeriod := Nat.le_max_left _ _
  rcases h.cases hm with ⟨rfl, h⟩ | ⟨-, hle, h⟩ | ⟨hlt, -, h⟩
  · exact ⟨fun _ => h.sends.2.1 (.inl rfl), fun hlt => by omega⟩
  · exact ⟨fun _ => h.sends.2.1 (.inr rfl), fun hlt => by omega⟩
  · exact ⟨fun hle => by omega, fun _ => h.sends.2.2 rfl⟩

/-- The turn of a proving link: it goes on proving, or is ready. -/
theorem proves (hm : 1 ≤ m) (hle : m ≤ c.provingPeriod)
    (h : Aligning c .Proving false (m - 1) x) : Stage c (m + 1) (x.act .tick) := by
  have hperiod : max 1 (c.t4Proving false).toNat = c.provingPeriod := rfl
  -- the tick that completes the period, or one before it
  by_cases hlast : m = c.provingPeriod
  · refine ready (by omega) (by omega) ?_
    rw [show m + 1 - 1 - c.provingPeriod = 0 by omega]
    exact h.tick_proved (by rw [hperiod]; omega)
  · refine proving (by omega) (by omega) ?_
    rw [show m + 1 - 1 = m - 1 + 1 by omega]
    exact h.tick (by simp) (by simp) (fun _ => by rw [hperiod]; omega) (by simp)

/-- **One turn**, while at least one of the ends still has to prove. -/
theorem next {cy : Mtp2Config} {y : Party} (h : Stage c m x) (hy : Stage cy m y) (hm : 1 ≤ m)
    (hle : m ≤ max c.provingPeriod cy.provingPeriod)
    (h1 : c.provingPeriod ≤ cy.provingPeriod →
      cy.provingPeriod - c.provingPeriod < max 1 c.t1AlignedReady.toNat) :
    Stage c (m + 1) (x.turn y.link.pollTransmit.1) := by
  have hP : 1 ≤ c.provingPeriod := Nat.le_max_left _ _
  have hQ : 1 ≤ cy.provingPeriod := Nat.le_max_left _ _
  obtain ⟨hsin, hfisu⟩ := hy.sends hm
  rcases h.cases hm with ⟨rfl, h⟩ | ⟨h2, hleP, h⟩ | ⟨hlt, h2, h⟩
  · rw [hsin (by omega), Party.turn_some]
    exact proves hm hP ((h.call (.inr rfl)).hears_status (.inl rfl) _)
  · have hp : Aligning c .Proving false (m - 1) (x.act .pollTransmit) := h.call (.inr rfl)
    -- SIN or FISU, the proving goes on
    by_cases hQm : m ≤ cy.provingPeriod
    · rw [hsin hQm, Party.turn_some]
      exact proves hm hleP (hp.hears_again (.inl ⟨.inl rfl, rfl⟩))
    · rw [hfisu (by omega), Party.turn_some]
      exact proves hm hleP (hp.hears_again (.inr ⟨rfl, rfl⟩))
  · -- ready first, this end waits
    rw [hsin (by omega), Party.turn_some]
    refine ready (by omega) (by omega) ?_
    rw [show m + 1 - 1 - c.provingPeriod = m - 1 - c.provingPeriod + 1 by omega]
    exact ((h.call (.inr rfl)).hears_again (.inl ⟨.inr rfl, rfl⟩)).tick (by simp) (by simp)
      (by simp) fun _ => by have := h1 (by omega); omega

/-- The turn in which both are ready. -/
theorem serves {cy : Mtp2Config} {y : Party} (h : Stage c m x) (hy : Stage cy m y) (hm : 1 ≤ m)
    (hP : c.provingPeriod < m) (hQ : cy.provingPeriod < m) :
    Serving (x.turn y.link.pollTransmit.1) := by
  rw [(hy.sends hm).2 hQ, Party.turn_some]
  rcases h.cases hm with ⟨rfl, -⟩ | ⟨-, hle, -⟩ | ⟨-, -, h⟩
  · have : 1 ≤ c.provingPeriod := Nat.le_max_left _ _
    omega
  · omega
  · exact ((h.call (.inr rfl)).hears_fisu _).tick

end Stage

/-- A link that is down is not in service and has raised nothing. -/
theorem Down.before (h : Down c x) : x.link.state ≠ .InService ∧ x.log = [] :=
  ⟨by rw [h.state]; simp, h.log⟩

/-- Nor has one that aligns. -/
theorem Aligning.before (h : Aligning c s e age x) : x.link.state ≠ .InService ∧ x.log = [] := by
  refine ⟨fun hs => ?_, h.log⟩
  have := h.phase.1
  rw [← h.state, hs] at this
  cases this

end Phases

/-! ## The start of the exchange -/

/-- The calls of an exchange: `calls` has `a` started before the first round and `b` after `k`, and
calls nothing else but submissions and event polls. T2 leaves `a` the time it waits for `b`, and T3
either end the round in which it is aligned. -/
structure Startup (ca cb : Mtp2Config) (calls : ℕ → List Op × List Op) (k : ℕ) : Prop where
  ordinaryA : ∀ n, ∀ op ∈ (calls n).1, op.ordinary = true
  ordinaryB : ∀ n, ∀ op ∈ (calls n).2, op.ordinary = true
  startA : .start ∈ (calls 0).1
  startB : .start ∈ (calls k).2
  waitsB : ∀ n < k, .start ∉ (calls n).2
  t2 : k < max 1 ca.t2NotAligned.toNat
  t3A : 2 ≤ ca.t3Aligned.toNat
  t3B : 2 ≤ cb.t3Aligned.toNat

section Pairs

variable {ca cb : Mtp2Config} {calls : ℕ → List Op × List Op} {k n m : ℕ} {p : Lockstep}

namespace Startup

/-- The calls before a round start `a`, or leave it waiting. -/
theorem calledA (h : Startup ca cb calls k) {x : Party}
    (hx : n = 0 ∧ Down ca x ∨ Aligning ca .NotAligned ca.emergency n x) :
    Aligning ca .NotAligned ca.emergency n (x.run (calls n).1) := by
  rcases hx with ⟨rfl, hx⟩ | hx
  · exact hx.started (h.ordinaryA 0) h.startA
  · exact hx.calls (h.ordinaryA n)

/-- Until `b` starts, `a` waits in Not Aligned. -/
theorem waiting (h : Startup ca cb calls k) (ha : Down ca p.a) (hb : Down cb p.b) (hn : n ≤ k) :
    (n = 0 ∧ Down ca (p.after calls n).a ∨
        Aligning ca .NotAligned ca.emergency n (p.after calls n).a) ∧
      Down cb (p.after calls n).b := by
  induction n with
  | zero => exact ⟨.inl ⟨rfl, ha⟩, hb⟩
  | succ n ih =>
    obtain ⟨ha, hb⟩ := ih (Nat.le_of_succ_le hn)
    have ha' := h.calledA ha
    have hb' := hb.calls (h.ordinaryB n) (h.waitsB n hn)
    have ht2 := h.t2
    refine ⟨.inr (ha'.waits hb' (by omega)), ?_⟩
    show Down cb (((p.after calls n).b.run (calls n).2).turn _)
    -- `b` hears SIO while it is down, and ignores it
    rw [show ((p.after calls n).call (calls n)).a.link.pollTransmit.1 = _ from ha'.sends.1 rfl]
    exact hb'.turn _

/-- A round after `b`'s start both are aligned. -/
theorem aligned (h : Startup ca cb calls k) (ha : Down ca p.a) (hb : Down cb p.b) :
    Aligning ca .Aligned ca.emergency 1 (p.after calls (k + 1)).a ∧
      Aligning cb .Aligned cb.emergency 1 (p.after calls (k + 1)).b := by
  obtain ⟨ha, hb⟩ := h.waiting ha hb (Nat.le_refl k)
  have ha' := h.calledA ha
  have hb' := hb.started (h.ordinaryB k) h.startB
  refine ⟨?_, ?_⟩
  · show Aligning ca .Aligned _ 1 (((p.after calls k).a.run (calls k).1).turn _)
    rw [show ((p.after calls k).call (calls k)).b.link.pollTransmit.1 = _ from hb'.sends.1 rfl]
    exact ha'.aligns h.t3A _
  · show Aligning cb .Aligned _ 1 (((p.after calls k).b.run (calls k).2).turn _)
    rw [show ((p.after calls k).call (calls k)).a.link.pollTransmit.1 = _ from ha'.sends.1 rfl]
    exact hb'.aligns h.t3B _

end Startup

/-! ## Normal alignment -/

/-- An exchange in which both ends align normally, and T1 leaves the end that has proved first the
time it waits for the other. -/
structure Exchange (ca cb : Mtp2Config) (calls : ℕ → List Op × List Op) (k : ℕ) : Prop
    extends Startup ca cb calls k where
  normalA : ca.emergency = false
  normalB : cb.emergency = false
  t1A : ca.provingPeriod ≤ cb.provingPeriod →
    cb.provingPeriod - ca.provingPeriod < max 1 ca.t1AlignedReady.toNat
  t1B : cb.provingPeriod ≤ ca.provingPeriod →
    ca.provingPeriod - cb.provingPeriod < max 1 cb.t1AlignedReady.toNat

namespace Exchange

/-- From `b`'s start on the two ends go through the phases together. -/
theorem stages (h : Exchange ca cb calls k) (ha : Down ca p.a) (hb : Down cb p.b) (hm : 1 ≤ m)
    (hle : m ≤ 1 + max ca.provingPeriod cb.provingPeriod) :
    Stage ca m (p.after calls (k + m)).a ∧ Stage cb m (p.after calls (k + m)).b := by
  induction m, hm using Nat.le_induction with
  | base =>
    obtain ⟨ha, hb⟩ := h.aligned ha hb
    rw [h.normalA] at ha
    rw [h.normalB] at hb
    exact ⟨ha, hb⟩
  | succ m hm ih =>
    obtain ⟨ha, hb⟩ := ih (Nat.le_of_succ_le hle)
    -- both have started, so the calls before the round change nothing
    have ha' := ha.calls (h.ordinaryA (k + m))
    have hb' := hb.calls (h.ordinaryB (k + m))
    rw [← Nat.add_assoc, Lockstep.after]
    exact ⟨ha'.next hb' hm (by omega) h.t1A, hb'.next ha' hm (by omega) h.t1B⟩

/-- **Two links that are down come into service together**, in the round after the longer proving
period has run since both had aligned; until then neither has raised anything. -/
theorem together (h : Exchange ca cb calls k) (ha : Down ca p.a) (hb : Down cb p.b) :
    let q := p.after calls
    let N := k + 2 + max ca.provingPeriod cb.provingPeriod
    (∀ n < N, ((q n).a.link.state ≠ .InService ∧ (q n).a.log = []) ∧
        (q n).b.link.state ≠ .InService ∧ (q n).b.log = []) ∧
      ((q N).a.link.state = .InService ∧ (q N).a.log = [.InService]) ∧
      (q N).b.link.state = .InService ∧ (q N).b.log = [.InService] := by
  intro q N
  refine ⟨fun n hn => ?_, ?_⟩
  · -- before the last round they wait for each other, or go through the phases
    by_cases hk : n ≤ k
    · obtain ⟨ha', hb'⟩ := h.waiting ha hb hk
      exact ⟨ha'.elim (fun h => h.2.before) Aligning.before, hb'.before⟩
    · obtain ⟨m, rfl⟩ := Nat.exists_eq_add_of_le (Nat.le_of_not_le hk)
      obtain ⟨ha', hb'⟩ := h.stages (m := m) ha hb (by omega) (by omega)
      exact ⟨Aligning.before ha', Aligning.before hb'⟩
  · set M := max ca.provingPeriod cb.provingPeriod with hM
    obtain ⟨ha', hb'⟩ := h.stages (m := 1 + M) ha hb (by omega) (Nat.le_refl _)
    -- after the longer period both send FISUs, and each wakes the other
    have hsa := ha'.calls (h.ordinaryA (k + (1 + M)))
    have hsb := hb'.calls (h.ordinaryB (k + (1 + M)))
    have hN : q N = (q (k + (1 + M))).round (calls (k + (1 + M))) := by
      show q (k + 2 + M) = q (k + (1 + M) + 1)
      congr 1
      omega
    have hina := hsa.serves hsb (by omega) (by omega) (by omega)
    have hinb := hsb.serves hsa (by omega) (by omega) (by omega)
    rw [hN]
    exact ⟨⟨hina.state, hina.log⟩, hinb.state, hinb.log⟩

end Exchange

end Pairs

/-- **Normal alignment completes together.** Started `k` rounds apart, both links enter service in
the round after the longer proving period has run since both had aligned; until then neither has
raised anything. -/
theorem aligned_together {ca cb : Mtp2Config} {calls : ℕ → List Op × List Op} {k : ℕ}
    (h : Exchange ca cb calls k) :
    let p := (Lockstep.fresh ca cb).after calls
    let N := k + 2 + max ca.provingPeriod cb.provingPeriod
    (∀ n < N, ((p n).a.link.state ≠ .InService ∧ (p n).a.log = []) ∧
        (p n).b.link.state ≠ .InService ∧ (p n).b.log = []) ∧
      ((p N).a.link.state = .InService ∧ (p N).a.log = [.InService]) ∧
      (p N).b.link.state = .InService ∧ (p N).b.log = [.InService] :=
  h.together (p := .fresh ca cb) (down_fresh ca) (down_fresh cb)

/-- One end started a round after the other, with MSUs waiting at both. -/
def skewedCalls : ℕ → List Op × List Op
  | 0 => ([.submitMsu 0x83 [1], .start], [])
  | 1 => ([], [.start])
  | _ => ([.pollEvent], [.submitMsu 0x83 [2]])

theorem skewedCalls_exchange : Exchange { t4ProvingNormal := 2 }
    { method := .Pcr default, t4ProvingNormal := 4 } skewedCalls 1 where
  normalA := rfl
  normalB := rfl
  ordinaryA n := by
    rcases n with _ | _ | n
    · decide
    · decide
    · show ∀ op ∈ [Op.pollEvent], op.ordinary = true
      decide
  ordinaryB n := by
    rcases n with _ | _ | n
    · decide
    · decide
    · show ∀ op ∈ [Op.submitMsu 0x83 [2]], op.ordinary = true
      decide
  startA := by decide
  startB := by decide
  waitsB n hn := by
    obtain rfl : n = 0 := Nat.lt_one_iff.mp hn
    decide
  t2 := by decide
  t3A := by decide
  t3B := by decide
  t1A := by decide
  t1B := by decide

/-- They prove for two and for four ticks, and serve after seven rounds. -/
theorem aligned_together_skewed :
    let p := (Lockstep.fresh { t4ProvingNormal := 2 }
      { method := .Pcr default, t4ProvingNormal := 4 }).after skewedCalls
    (∀ n < 7, ((p n).a.link.state ≠ .InService ∧ (p n).a.log = []) ∧
        (p n).b.link.state ≠ .InService ∧ (p n).b.log = []) ∧
      ((p 7).a.link.state = .InService ∧ (p 7).a.log = [.InService]) ∧
      (p 7).b.link.state = .InService ∧ (p 7).b.log = [.InService] :=
  aligned_together skewedCalls_exchange

/-! ## Two links that come back -/

/-- **Two links come back together.** Whatever either link went through, if both are out of service
without a local outage and are started again, `k` rounds apart, they are in service `k + 2` rounds
and the longer proving period later, as two new links would be, and until then neither raises
anything: what is left of the earlier runs shows nowhere in the exchange. -/
theorem realigned_together {ca cb : Mtp2Config} {calls : ℕ → List Op × List Op} {k : ℕ}
    (h : Exchange ca cb calls k) (opsA opsB : List Op) :
    let a := (Mtp2Link.new ca).run opsA
    let b := (Mtp2Link.new cb).run opsB
    let p := (Lockstep.mk ⟨a, []⟩ ⟨b, []⟩).after calls
    let N := k + 2 + max ca.provingPeriod cb.provingPeriod
    a.state = .OutOfService → a.localProcessorOutage = false →
    b.state = .OutOfService → b.localProcessorOutage = false →
      (∀ n < N, ((p n).a.link.state ≠ .InService ∧ (p n).a.log = []) ∧
        (p n).b.link.state ≠ .InService ∧ (p n).b.log = []) ∧
      ((p N).a.link.state = .InService ∧ (p N).a.log = [.InService]) ∧
      (p N).b.link.state = .InService ∧ (p N).b.log = [.InService] := by
  intro a b p N hsa hla hsb hlb
  exact h.together (p := ⟨⟨a, []⟩, ⟨b, []⟩⟩) (down_run ca opsA hsa hla) (down_run cb opsB hsb hlb)

/-- The end that was stopped is started a round after the other. -/
def restartCalls (n : ℕ) : List Op × List Op :=
  (if n = 0 then [.start] else [.pollEvent], if n = 1 then [.start] else [.submitMsu 5 [2]])

theorem restartCalls_exchange : Exchange { t4ProvingNormal := 2 }
    { method := .Pcr default, t4ProvingNormal := 4 } restartCalls 1 where
  normalA := rfl
  normalB := rfl
  ordinaryA n := by
    show ∀ op ∈ if n = 0 then [Op.start] else [.pollEvent], op.ordinary = true
    split <;> decide
  ordinaryB n := by
    show ∀ op ∈ if n = 1 then [Op.start] else [.submitMsu 5 [2]], op.ordinary = true
    split <;> decide
  startA := by decide
  startB := by decide
  waitsB n hn := by
    obtain rfl : n = 0 := Nat.lt_one_iff.mp hn
    decide
  t2 := by decide
  t3A := by decide
  t3B := by decide
  t1A := by decide
  t1B := by decide

/-- One end has been taken out of service by its peer and sends SIOS, the other was stopped while
it aligned. -/
theorem realigned_together_skewed :
    let header : SuHeader := ⟨127, true, 127, true⟩
    let a := (Mtp2Link.new { t4ProvingNormal := 2 }).run [.start,
      .handleSu (.lssu header .OutOfAlignment), .handleSu (.lssu header .NormalAlignment), .tick,
      .tick, .handleSu (.fisu header), .submitMsu 5 [1], .pollTransmit,
      .handleSu (.lssu header .OutOfService)]
    let b := (Mtp2Link.new { method := .Pcr default, t4ProvingNormal := 4 }).run
      [.start, .handleSu (.lssu header .OutOfAlignment), .stop]
    let p := (Lockstep.mk ⟨a, []⟩ ⟨b, []⟩).after restartCalls
    (∀ n < 7, ((p n).a.link.state ≠ .InService ∧ (p n).a.log = []) ∧
        (p n).b.link.state ≠ .InService ∧ (p n).b.log = []) ∧
      ((p 7).a.link.state = .InService ∧ (p 7).a.log = [.InService]) ∧
      (p 7).b.link.state = .InService ∧ (p 7).b.log = [.InService] :=
  realigned_together restartCalls_exchange _ _ (by decide +kernel) (by decide +kernel)
    (by decide +kernel) (by decide +kernel)

end Mtp2
