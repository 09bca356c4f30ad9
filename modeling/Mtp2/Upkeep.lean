import Mtp2.Congestion
import Mtp2.Undisturbed
import Mtp2.Lockstep

/-!
# MTP2 — a link in service, turn by turn

A link in service that polls, hears one unit and ticks, without congestion or errors. A FISU or
MSU restarts T7, an SIPO carries no acknowledgement and lets it run on.

* **`Up.turn_traffic`** — the link hears a FISU or MSU;
* **`Up.turn_sipo`** — the link hears an SIPO.
-/

namespace Mtp2

namespace Mtp2Link

variable {l l' : Mtp2Link} {op : Op}

/-- In service or in processor outage, without congestion, with a SUERM below its threshold and a T7
of three ticks at least. -/
structure Up (l : Mtp2Link) : Prop where
  serves : l.state.carriesTraffic = true
  represented : ∃ age, l.Represented age
  healthy : l.suerm.Healthy
  localBusy : l.localBusy = false
  remoteBusy : l.remoteBusy = false
  excessive : 3 ≤ l.config.t7ExcessiveDelay.toNat

/-- T7, if it runs, was restarted a tick ago. -/
def T7Fresh (l : Mtp2Link) : Prop := ∀ n, Runs l.t7 n → n + 1 = l.config.t7ExcessiveDelay.toNat

/-- A timer that does not run has nothing left. -/
theorem not_runs_none {n : ℕ} : ¬ Runs none n := fun ⟨_, h, _⟩ => by cases h

namespace Up

/-- What only moves the queues, the outage flags and T7 leaves the link up. -/
theorem kept (h : l.Up) (hr : ∃ age, l'.Represented age) (hs : l'.state.carriesTraffic = true)
    (heq : (l'.config, l'.suerm, l'.localBusy, l'.remoteBusy) =
      (l.config, l.suerm, l.localBusy, l.remoteBusy)) : l'.Up := by
  simp only [Prod.mk.injEq] at heq
  obtain ⟨hc, hsuerm, hlb, hrb⟩ := heq
  exact ⟨hs, hr, by rw [hsuerm]; exact h.healthy, hlb.trans h.localBusy, hrb.trans h.remoteBusy,
    by rw [hc]; exact h.excessive⟩

theorem represented_step (h : l.Up) (op : Op) : ∃ age, (l.step op).Represented age := by
  obtain ⟨age, hr⟩ := h.represented
  exact ⟨_, hr.step op⟩

theorem ne (h : l.Up) {s : Mtp2State} (hs : s.carriesTraffic = false) : l.state ≠ s :=
  Mtp2State.ne_of_carriesTraffic h.serves hs

/-- Its state, as far as the exchange is concerned. -/
theorem state_cases (h : l.Up) : l.state = .InService ∨ l.state = .ProcessorOutage := by
  have hs := h.serves
  cases hst : l.state <;> rw [hst] at hs <;> first | exact .inl rfl | exact .inr rfl | cases hs

/-! ### Calls -/

/-- What MTP3 may call leaves the exchange alone. -/
theorem ordinary (h : l.Up) (hop : op.ordinary = true) :
    (l.step op).Up ∧ (l.step op).state = l.state ∧ (l.step op).t7 = l.t7 ∧
      (l.step op).remoteProcessorOutage = l.remoteProcessorOutage ∧
      (l.step op).tx.unacked = l.tx.unacked := by
  have hrep := h.represented_step op
  cases op with
  | start =>
    have hact : l.step .start = l := if_pos (h.ne rfl)
    rw [hact]
    exact ⟨h, rfl, rfl, rfl, rfl⟩
  | submitMsu sio sif =>
    rcases l.submitMsu_cases sio sif with ⟨-, heq⟩ | ⟨e, heq⟩
    · rw [step, heq] at hrep ⊢
      exact ⟨h.kept hrep h.serves rfl, rfl, rfl, rfl, rfl⟩
    · rw [step, heq]
      exact ⟨h, rfl, rfl, rfl, rfl⟩
  | pollEvent => exact ⟨h.kept hrep h.serves rfl, rfl, rfl, rfl, rfl⟩
  | _ => cases hop

/-- Submissions and event polls before a round change nothing but the queues. -/
theorem ordinaries (h : l.Up) {ops : List Op} (hops : ∀ op ∈ ops, op.ordinary = true) :
    (l.run ops).Up ∧ (l.run ops).state = l.state ∧ (l.run ops).t7 = l.t7 ∧
      (l.run ops).remoteProcessorOutage = l.remoteProcessorOutage ∧
      (l.run ops).tx.unacked = l.tx.unacked := by
  induction ops generalizing l with
  | nil => exact ⟨h, rfl, rfl, rfl, rfl⟩
  | cons op ops ih =>
    obtain ⟨hup, hs, h7, hro, hu⟩ := h.ordinary (hops op List.mem_cons_self)
    obtain ⟨hup', hs', h7', hro', hu'⟩ := ih hup fun op hop => hops op (List.mem_cons_of_mem _ hop)
    exact ⟨hup', hs'.trans hs, h7'.trans h7, hro'.trans hro, hu'.trans hu⟩

/-- The two calls that switch a link in service between its states. -/
theorem switch (h : l.Up) :
    ((l.step .localProcessorOutage).Up ∧
        (l.step .localProcessorOutage).state = .ProcessorOutage) ∧
      (l.step .localProcessorRecovered).Up ∧
        (l.step .localProcessorRecovered).state = .InService := by
  have hout := h.represented_step .localProcessorOutage
  have hrec := h.represented_step .localProcessorRecovered
  refine ⟨?_, ?_⟩
  · rcases l.signalLocalProcessorOutage_cases with ⟨hs, heq⟩ | ⟨hs, heq⟩ | ⟨hi, ha, heq⟩ <;>
      rw [step, heq] at hout ⊢
    · exact ⟨h.kept hout rfl rfl, rfl⟩
    · exact absurd hs (h.ne rfl)
    · exact ⟨h.kept hout h.serves rfl, h.state_cases.resolve_left hi⟩
  · rcases l.localProcessorRecovered_cases with ⟨hs, heq⟩ | ⟨hs, heq⟩ | ⟨hp, hn, heq⟩ <;>
      rw [step, heq] at hrec ⊢
    · exact ⟨h.kept hrec rfl rfl, rfl⟩
    · exact absurd hs (h.ne rfl)
    · exact ⟨h.kept hrec h.serves rfl, h.state_cases.resolve_right hp⟩

/-- Ordinary calls and one of the switches, called or already in force. -/
theorem switches (h : l.Up) {s : Mtp2State} {sw : Op}
    (hsw : sw = .localProcessorOutage ∧ s = .ProcessorOutage ∨
      sw = .localProcessorRecovered ∧ s = .InService) {ops : List Op}
    (hops : ∀ op ∈ ops, op.ordinary = true ∨ op = sw) (hs : l.state = s ∨ sw ∈ ops) :
    (l.run ops).Up ∧ (l.run ops).state = s := by
  induction ops generalizing l with
  | nil => exact ⟨h, hs.resolve_right List.not_mem_nil⟩
  | cons op ops ih =>
    have hrest : ∀ op ∈ ops, op.ordinary = true ∨ op = sw := fun op hop =>
      hops op (List.mem_cons_of_mem _ hop)
    by_cases hop : op = sw
    · have hstep : (l.step op).Up ∧ (l.step op).state = s := by
        rcases hsw with ⟨rfl, rfl⟩ | ⟨rfl, rfl⟩ <;> rw [hop]
        · exact h.switch.1
        · exact h.switch.2
      exact ih hstep.1 hrest (.inl hstep.2)
    · obtain ⟨hup, hst, -⟩ := h.ordinary ((hops op List.mem_cons_self).resolve_right hop)
      refine ih hup hrest (hs.imp (fun hs => hst.trans hs) fun hmem => ?_)
      exact (List.mem_cons.mp hmem).resolve_left fun heq => hop heq.symm

/-! ### A turn -/

theorem poll (h : l.Up) : (l.step .pollTransmit).Up := by
  have hrep := h.represented_step .pollTransmit
  rw [step, pollTransmit_eq] at hrep ⊢
  exact h.kept hrep h.serves rfl

/-- What the link sends: a FISU or MSU in service, SIPO in processor outage. -/
theorem sends (h : l.Up) :
    (l.state = .InService → ∃ su header msu, l.pollTransmit.1 = some su ∧
        su.traffic = some (header, msu)) ∧
      (l.state = .ProcessorOutage →
        l.pollTransmit.1 = some (.lssu l.headerForControl .ProcessorOutage)) := by
  refine ⟨fun hs => ?_, fun hs => ?_⟩
  · rw [pollTransmit, hs]
    dsimp only
    rw [if_neg (by simp [h.localBusy])]
    split
    · exact ⟨_, _, _, rfl, rfl⟩
    · obtain ⟨header, msu, htr, -⟩ := l.frameUnit_traffic l.tx.poll.1
      exact ⟨_, header, msu, rfl, htr⟩
  · rw [pollTransmit, hs]
    rfl

/-- The SUERM after a unit without errors. -/
theorem withSuerm (h : l.Up) : l.withSuerm.suerm.Healthy := by
  rw [Mtp2Link.withSuerm, if_pos h.serves]
  exact Suerm.healthy_of_record (Suerm.record_false_of_healthy h.healthy)

/-- A FISU or MSU: T7 is restarted, or stopped over an empty buffer. -/
theorem hearTraffic (h : l.Up) {su : SignalUnit} {header : SuHeader} {msu : Option Payload}
    (hsu : su.traffic = some (header, msu)) :
    (l.step (.handleSu su)).Up ∧ (l.step (.handleSu su)).state = l.state ∧
      (l.step (.handleSu su)).remoteProcessorOutage = false ∧
      ∀ n, Runs (l.step (.handleSu su)).t7 n → n = l.config.t7ExcessiveDelay.toNat := by
  have hrep := h.represented_step (.handleSu su)
  have heq : l.step (.handleSu su) = l.withSuerm.processInServiceSu header msu := by
    rw [step, handleSu_of_healthy (fun _ => h.healthy), handleUnit_traffic hsu]
    rcases l.withSuerm.handleFisuOrMsu_cases header msu with ⟨ha, -⟩ | ⟨-, heq⟩ | ⟨-, hc, -⟩
    · exact absurd ha (h.ne rfl)
    · exact heq
    · exact absurd hc (by rw [show l.withSuerm.state.carriesTraffic = _ from h.serves]; simp)
  rw [processInServiceSu_eq] at heq
  rw [heq] at hrep ⊢
  refine ⟨⟨h.serves, hrep, h.withSuerm, h.localBusy, rfl, h.excessive⟩, rfl, rfl, fun n hn => ?_⟩
  dsimp only at hn
  split at hn
  · exact absurd hn not_runs_none
  · obtain ⟨r, hr, rfl⟩ := hn
    exact congrArg UInt32.toNat (Option.some.inj hr).symm

/-- An SIPO: the peer's processor is out, and nothing else. -/
theorem hearSipo (h : l.Up) (header : SuHeader) :
    (l.step (.handleSu (.lssu header .ProcessorOutage))).Up ∧
      (l.step (.handleSu (.lssu header .ProcessorOutage))).state = l.state ∧
      (l.step (.handleSu (.lssu header .ProcessorOutage))).remoteProcessorOutage = true ∧
      (l.step (.handleSu (.lssu header .ProcessorOutage))).t7 = l.t7 := by
  have hrep := h.represented_step (.handleSu (.lssu header .ProcessorOutage))
  rw [step, handleSu_of_healthy (fun _ => h.healthy)] at hrep ⊢
  show (l.withSuerm.handleLssu .ProcessorOutage).Up ∧ _
  have hs : l.withSuerm.state.carriesTraffic = true := h.serves
  have ho := l.withSuerm.handleLssu_outcome .ProcessorOutage
  have hrep' : ∃ age, (l.withSuerm.handleLssu .ProcessorOutage).Represented age := hrep
  show _ ∧ (l.withSuerm.handleLssu .ProcessorOutage).state = l.state ∧
    (l.withSuerm.handleLssu .ProcessorOutage).remoteProcessorOutage = true ∧
    (l.withSuerm.handleLssu .ProcessorOutage).t7 = l.t7
  generalize l.withSuerm.handleLssu .ProcessorOutage = l' at ho hrep' ⊢
  cases ho with
  | outage _ _ =>
    exact ⟨⟨hs, hrep', h.withSuerm, h.localBusy, h.remoteBusy, h.excessive⟩, rfl, rfl, rfl⟩
  | outageAgain _ hr =>
    exact ⟨⟨hs, hrep', h.withSuerm, h.localBusy, h.remoteBusy, h.excessive⟩, rfl, hr, rfl⟩
  | serving ha => rw [ha] at hs; cases hs
  | ignored hi => cases hst : l.withSuerm.state <;> rw [hst] at hi hs <;> cases hs <;> cases hi
  | aligned _ hst | realigned _ hst => cases hst
  | proving _ hst => rcases hst with hst | hst <;> cases hst

/-- A tick: only T7 may run. -/
theorem tick (h : l.Up) :
    (stepTimer l.t7).1 = true ∧ (l.step .tick).state = .OutOfService ∨
      (stepTimer l.t7).1 = false ∧ (l.step .tick).Up ∧ (l.step .tick).state = l.state ∧
        (l.step .tick).remoteProcessorOutage = l.remoteProcessorOutage ∧
        (l.step .tick).t7 = (stepTimer l.t7).2 := by
  obtain ⟨age, hr⟩ := h.represented
  have hrep := h.represented_step .tick
  have h6 := hr.t6_eq_none h.remoteBusy
  have htick := tick_traffic hr h.serves
  rw [step] at hrep ⊢
  generalize l.tick = l' at htick hrep ⊢
  cases htick with
  | t6 hexp => rw [h6] at hexp; cases hexp
  | t7 _ hexp => exact .inl ⟨hexp, rfl⟩
  | stepped _ hexp => exact .inr ⟨hexp, h.kept hrep h.serves rfl, rfl, rfl, rfl⟩

end Up

/-- One turn of the exchange. -/
def turn (l : Mtp2Link) (su : SignalUnit) : Mtp2Link :=
  l.run [.pollTransmit, .handleSu su, .tick]

namespace Up

/-- **The turn of a link that hears a FISU or MSU**: T7 has just been restarted, so it goes on. -/
theorem turn_traffic (h : l.Up) {su : SignalUnit} {header : SuHeader} {msu : Option Payload}
    (hsu : su.traffic = some (header, msu)) :
    (l.turn su).Up ∧ (l.turn su).state = l.state ∧
      (l.turn su).remoteProcessorOutage = false ∧ (l.turn su).T7Fresh := by
  obtain ⟨hup, hs, hro, h7⟩ := h.poll.hearTraffic hsu
  have hpoll : (l.step .pollTransmit).state = l.state := l.pollTransmit_state
  have h3 := h.excessive
  rw [step_config] at h7
  show (((l.step .pollTransmit).step (.handleSu su)).step .tick).Up ∧ _
  rcases hup.tick with ⟨hexp, -⟩ | ⟨-, hup', hs', hro', h7'⟩
  · obtain ⟨n, hn, hruns⟩ := Runs.of_expired hexp
    have := h7 n hruns
    omega
  · refine ⟨hup', (hs'.trans hs).trans hpoll, hro'.trans hro, fun n hn => ?_⟩
    rw [turn, run_config]
    exact h7 _ (Runs.of_step (h7' ▸ hn))

/-- **The turn of a link that hears an SIPO**: T7 runs on from what the poll left of it. -/
theorem turn_sipo (h : l.Up) (header : SuHeader) :
    (stepTimer l.pollTransmit.2.t7).1 = true ∧
        (l.turn (.lssu header .ProcessorOutage)).state = .OutOfService ∨
      (stepTimer l.pollTransmit.2.t7).1 = false ∧ (l.turn (.lssu header .ProcessorOutage)).Up ∧
        (l.turn (.lssu header .ProcessorOutage)).state = l.state ∧
        (l.turn (.lssu header .ProcessorOutage)).remoteProcessorOutage = true ∧
        (l.turn (.lssu header .ProcessorOutage)).t7 = (stepTimer l.pollTransmit.2.t7).2 := by
  obtain ⟨hup, hs, hro, h7⟩ := h.poll.hearSipo header
  have hpoll : (l.step .pollTransmit).state = l.state := l.pollTransmit_state
  have htick := hup.tick
  rw [h7] at htick
  rcases htick with ⟨hexp, hs'⟩ | ⟨hexp, hup', hs', hro', h7'⟩
  · exact .inl ⟨hexp, hs'⟩
  · exact .inr ⟨hexp, hup', (hs'.trans hs).trans hpoll, hro'.trans hro, h7'⟩

/-- The poll of a link that holds its traffic leaves T7 alone. -/
theorem poll_held (h : l.Up) (hro : l.remoteProcessorOutage = true) :
    l.pollTransmit.2.t7 = l.t7 := by
  obtain ⟨age, hr⟩ := h.represented
  have hpolls : l.polls = false := by simp [polls, hro]
  rw [pollTransmit_link, hpolls]
  exact congrArg Mtp2Link.t7 (guardT7_eq_self hr h.serves)

end Up

end Mtp2Link

end Mtp2
