import Mtp2.Moves

/-!
# MTP2 — service begins after a complete proving

`History` splits the operations before a state by what led to it: the last effective start, the
proving attempt in progress, the attempt that succeeded. Every operation extends the history of
the state it is taken in.

* **`History.step`** — one operation extends the history;
* **`inService_after_proving`** — every `InService` event follows one uninterrupted,
  error-checked proving.
-/

namespace Mtp2

/-- Receptions that interrupt a proving interval: SIO, SIE and SIOS. -/
def Op.interruptsProving : Op → Bool
  | .handleSu (.Lssu _ status _) =>
    status = .OutOfAlignment ∨ status = .EmergencyAlignment ∨ status = .OutOfService
  | _ => false

/-- The reception of an FISU, an MSU or an SIPO. -/
def Op.beginsService : Op → Bool
  | .handleSu (.Lssu _ status _) => status = .ProcessorOutage
  | .handleSu _ => true
  | _ => false

/-- What keeps the proving going does not interrupt it. -/
theorem Op.keepsProving_not_interrupts {op : Op} (h : op.keepsProving = true) :
    op.interruptsProving = false := by
  cases op with
  | handleSu su =>
    cases su with
    | Lssu header status extended => cases status <;> first | rfl | cases h
    | Fisu header | Msu header sio sif => rfl
  | _ => rfl

namespace Mtp2Link

variable {l l₀ : Mtp2Link} {since interval waiting : List Op} {restart op : Op} {P E : UInt32}

/-- `l₀` is started, with effect, and no later start of `ops` has an effect. -/
structure LastStart (l₀ : Mtp2Link) (ops : List Op) : Prop where
  out : l₀.state = .OutOfService
  no_later : Run.Along step (fun l op => ¬ (op = .start ∧ l.state = .OutOfService))
    (l₀.step .start) ops

/-- The operation puts the link at the beginning of a proving attempt, with a period and a
threshold that belong together. -/
structure RestartsProving (l : Mtp2Link) (op : Op) (P E : UInt32) : Prop where
  before : l.state = .Aligned ∨ l.state = .Proving
  after : (l.step op).state = .Proving
  period : (l.step op).t4 = some P
  monitor : (l.step op).aerm = ⟨0, E⟩
  pair : (P, E) = (l.config.t4ProvingNormal, l.config.aermThresholdNormal) ∨
    (P, E) = (l.config.t4ProvingEmergency, l.config.aermThresholdEmergency)

/-- Started at `l₀`, the link took `since`, then `restart` began a proving attempt that went on
through `interval` without SIO, SIE or SIOS. -/
structure ProvedOver (l₀ : Mtp2Link) (since : List Op) (restart : Op) (interval : List Op)
    (P E : UInt32) : Prop where
  restarts : ((l₀.step .start).run since).RestartsProving restart P E
  proving : Run.Along step (fun l op => l.state = .Proving ∧ op.interruptsProving = false)
    (((l₀.step .start).run since).step restart) interval

/-- The attempt completed its period below its error threshold, and the link has waited for its
peer since. -/
structure Proved (l₀ : Mtp2Link) (since : List Op) (restart : Op) (interval waiting : List Op)
    (P E : UInt32) : Prop extends ProvedOver l₀ since restart interval P E where
  last_start : l₀.LastStart (since ++ restart :: (interval ++ waiting))
  ticks : interval.count .tick = max 1 P.toNat
  errors : interval.count .handleCorruptedSu < max 1 E.toNat
  waited : Run.Along step (fun l _ => l.state = .AlignedReady ∨ l.state = .AlignedNotReady)
    ((((l₀.step .start).run since).step restart).run interval) waiting

/-- What led to the present state. -/
inductive History (config : Mtp2Config) (ops : List Op) : Prop where
  | idle (hs : ((new config).run ops).state = .OutOfService ∨
      ((new config).run ops).state.carriesTraffic = true)
  | aligning {before since : List Op} (hs : ((new config).run ops).state = .NotAligned ∨
      ((new config).run ops).state = .Aligned) (hops : ops = before ++ .start :: since)
      (hlast : ((new config).run before).LastStart since)
  | proving {before since interval : List Op} {restart : Op} {P E : UInt32}
      (hops : ops = before ++ .start :: (since ++ restart :: interval))
      (hlast : ((new config).run before).LastStart (since ++ restart :: interval))
      (hover : ((new config).run before).ProvedOver since restart interval P E)
      (hfor : ProvingFor P E interval ((new config).run ops))
  | waiting {before since interval waiting : List Op} {restart : Op} {P E : UInt32}
      (hs : ((new config).run ops).state.awaitsPeer = true)
      (hops : ops = before ++ .start :: (since ++ restart :: (interval ++ waiting)))
      (hproved : ((new config).run before).Proved since restart interval waiting P E)

/-- Nothing starts a link that is in service or on its way there. -/
theorem LastStart.snoc (h : l₀.LastStart since) (op : Op)
    (hs : ((l₀.step .start).run since).state ≠ .OutOfService) : l₀.LastStart (since ++ [op]) :=
  ⟨h.out, h.no_later.snoc fun hc => hs hc.2⟩

/-- Entering Proving takes the period and the threshold of the mode. -/
theorem enterProving_restarts {l₁ : Mtp2Link} (hbefore : l.state = .Aligned ∨ l.state = .Proving)
    (hop : l.step op = l₁.enterProving) :
    l.RestartsProving op l₁.provingParams.1 l₁.provingParams.2 where
  before := hbefore
  after := by rw [hop]; rfl
  period := by rw [hop]; rfl
  monitor := by rw [hop]; rfl
  pair := by
    have hc : l₁.config = l.config := by rw [← step_config l op, hop]; rfl
    rw [← hc, provingParams]
    split
    · exact .inr rfl
    · exact .inl rfl

/-- The link that has run through a history. -/
theorem run_started (config : Mtp2Config) {ops before since : List Op}
    (hops : ops = before ++ .start :: since) :
    (new config).run ops = (((new config).run before).step .start).run since := by
  rw [hops, run_append, run_cons]

namespace History

variable {config : Mtp2Config} {ops : List Op}

/-- Out of service, and in service. -/
theorem step_idle (hs : ((new config).run ops).state = .OutOfService ∨
      ((new config).run ops).state.carriesTraffic = true) (op : Op) :
    History config (ops ++ [op]) := by
  obtain ⟨age, hrep⟩ := represented_of_run config ops
  have hm := step_moved hrep op
  have hne : ∀ s : Mtp2State, s ≠ .OutOfService → s.carriesTraffic = false →
      ((new config).run ops).state ≠ s := by
    rintro s ho hc rfl
    exact hs.elim ho fun h => by rw [h] at hc; cases hc
  rw [← run_snoc] at hm
  generalize hl' : (new config).run (ops ++ [op]) = l' at hm
  cases hm with
  | failed hs' => exact .idle (.inl (hl' ▸ hs'))
  | stayed hs' _ => exact .idle (by rwa [hl', hs'])
  | started ho =>
    refine .aligning (.inl ?_) rfl ⟨ho, trivial⟩
    rw [hl', start, if_neg (not_not_intro ho)]
  | aligned h | entered h | proving h => exact absurd h (hne _ (by decide) rfl)
  | waited h _ =>
    cases hst : ((new config).run ops).state with
    | AlignedReady | AlignedNotReady => exact absurd hst (hne _ (by decide) rfl)
    | _ => rw [hst] at h; cases h
  | served _ hs' => exact .idle (.inr (hl' ▸ hs'))

/-- Not Aligned and Aligned. -/
theorem step_aligning {before since : List Op} (hs : ((new config).run ops).state = .NotAligned ∨
      ((new config).run ops).state = .Aligned) (hops : ops = before ++ .start :: since)
    (hlast : ((new config).run before).LastStart since) (op : Op) :
    History config (ops ++ [op]) := by
  obtain ⟨age, hrep⟩ := represented_of_run config ops
  have hm := step_moved hrep op
  have hrun := run_started config hops
  have hlast' : ((new config).run before).LastStart (since ++ [op]) :=
    hlast.snoc op (by rw [← hrun]; rcases hs with h | h <;> rw [h] <;> nofun)
  have hops' : ops ++ [op] = before ++ .start :: (since ++ [op]) := by rw [hops]; simp
  have hrun' := run_snoc (new config) ops op
  rw [hrun] at hm hs hrun'
  generalize hl' : Mtp2Link.step _ op = l' at hm hrun'
  cases hm with
  | failed hs' => exact .idle (.inl (hrun'.symm ▸ hs'))
  | stayed hs' _ => exact .aligning (by rwa [hrun', hs']) hops' hlast'
  | aligned _ hs' => exact .aligning (.inr (hrun'.symm ▸ hs')) hops' hlast'
  | entered ha =>
    refine .proving hops' hlast' ⟨enterProving_restarts (.inl ha) hl', trivial⟩ ?_
    rw [hrun']
    exact provingFor_enterProving _
  | started h | proving h => rcases hs with hs | hs <;> rw [hs] at h <;> cases h
  | waited h _ => rcases hs with hs | hs <;> rw [hs] at h <;> cases h
  | served h _ => rcases hs with hs | hs <;> rw [hs] at h <;> rcases h with h | h <;> cases h

/-- Proving: the attempt goes on, succeeds, starts again or is given up. -/
theorem step_proving {before since interval : List Op} {restart : Op} {P E : UInt32}
    (hops : ops = before ++ .start :: (since ++ restart :: interval))
    (hlast : ((new config).run before).LastStart (since ++ restart :: interval))
    (hover : ((new config).run before).ProvedOver since restart interval P E)
    (hfor : ProvingFor P E interval ((new config).run ops)) (op : Op) :
    History config (ops ++ [op]) := by
  have hrun := run_started config hops
  have hlast' : ((new config).run before).LastStart (since ++ restart :: (interval ++ [op])) := by
    have := hlast.snoc op (by rw [← hrun, hfor.state]; nofun)
    rwa [List.append_assoc, List.cons_append] at this
  have hops' : ops ++ [op] = before ++ .start :: (since ++ restart :: (interval ++ [op])) := by
    rw [hops]; simp
  have hrun' := run_snoc (new config) ops op
  have hinterval : (((((new config).run before).step .start).run since).step restart).run interval =
      (new config).run ops := by rw [hrun, run_append, run_cons]
  -- as long as nothing interrupts it, the interval gets longer
  have hover' (hop : op.interruptsProving = false) :
      ((new config).run before).ProvedOver since restart (interval ++ [op]) P E :=
    ⟨hover.restarts, hover.proving.snoc ⟨by rw [← hfor.state, ← hinterval]; rfl, hop⟩⟩
  rcases hfor.step op with ⟨hop, hfor', -⟩ | ⟨rfl, htick, hs⟩ | ⟨rfl, -, heq⟩ | ⟨hop, heq⟩ |
    ⟨-, hs⟩
  · -- the attempt goes on
    rw [← hrun'] at hfor'
    refine .proving hops' hlast' (hover' ?_) hfor'
    rcases hop with rfl | rfl | hop
    · rfl
    · rfl
    · exact Op.keepsProving_not_interrupts hop
  · -- the tick that completes the period: the wait for the peer begins
    have hproved : ((new config).run before).Proved since restart (interval ++ [.tick]) [] P E := {
      toProvedOver := hover' rfl
      last_start := by rwa [List.append_nil]
      ticks := by rw [← htick, List.count_append]; rfl
      errors := by rw [List.count_append]; exact hfor.errors_lt
      waited := trivial }
    refine .waiting ?_ ?_ hproved
    · rw [hrun', hs]
      split <;> rfl
    · rwa [List.append_nil]
  · -- the error that reaches the threshold
    have hs : ((new config).run (ops ++ [.handleCorruptedSu])).state = .Aligned ∨
        ((new config).run (ops ++ [.handleCorruptedSu])).state = .OutOfService := by
      rw [hrun', heq, provingAborted]
      split
      · exact .inl rfl
      · exact .inr rfl
    rcases hs with hs | hs
    · exact .aligning (.inr hs) hops' hlast'
    · exact .idle (.inl hs)
  · -- the SIE that interrupts this attempt begins the next
    have hassoc : since ++ restart :: (interval ++ [op]) = (since ++ restart :: interval) ++ [op] :=
      by simp
    rw [hassoc] at hops' hlast'
    rw [hrun] at heq hfor
    have hover : ((new config).run before).ProvedOver (since ++ restart :: interval) op [] _ _ :=
      ⟨enterProving_restarts (.inr hfor.state) heq, trivial⟩
    refine .proving hops' hlast' hover ?_
    rw [hrun', hrun, heq]
    exact provingFor_enterProving _
  · -- a stop, or the peer leaving alignment
    rw [← hrun'] at hs
    rcases hs with hs | hs
    · exact .aligning (.inr hs) hops' hlast'
    · exact .idle (.inl hs)

/-- Aligned Ready and Aligned Not Ready. -/
theorem step_waiting {before since interval waiting : List Op} {restart : Op} {P E : UInt32}
    (hs : ((new config).run ops).state.awaitsPeer = true)
    (hops : ops = before ++ .start :: (since ++ restart :: (interval ++ waiting)))
    (hproved : ((new config).run before).Proved since restart interval waiting P E) (op : Op) :
    History config (ops ++ [op]) := by
  obtain ⟨age, hrep⟩ := represented_of_run config ops
  have hm := step_moved hrep op
  have hrun := run_started config hops
  have hstate : ((new config).run ops).state = .AlignedReady ∨
      ((new config).run ops).state = .AlignedNotReady := by
    cases hst : ((new config).run ops).state with
    | AlignedReady => exact .inl rfl
    | AlignedNotReady => exact .inr rfl
    | _ => rw [hst] at hs; cases hs
  have hne : ((new config).run ops).state ≠ .OutOfService := by
    rcases hstate with h | h <;> rw [h] <;> nofun
  -- the operation is appended to the wait
  have hops' : ops ++ [op] =
      before ++ .start :: (since ++ restart :: (interval ++ (waiting ++ [op]))) := by
    rw [hops]; simp
  have hlast' := hproved.last_start.snoc op (by rwa [← hrun])
  -- and the proving interval before it stays as it was
  have hproved' : ((new config).run before).Proved since restart interval (waiting ++ [op]) P E := {
    toProvedOver := hproved.toProvedOver
    last_start := by
      have : since ++ restart :: (interval ++ (waiting ++ [op])) =
          (since ++ restart :: (interval ++ waiting)) ++ [op] := by simp
      rwa [this]
    ticks := hproved.ticks
    errors := hproved.errors
    waited := hproved.waited.snoc (by
      rw [hrun, run_append, run_cons, run_append] at hstate
      exact hstate) }
  rw [← run_snoc] at hm
  generalize hl' : (new config).run (ops ++ [op]) = l' at hm
  -- service begins, the wait goes on or is given up
  cases hm with
  | failed hs' => exact .idle (.inl (hl' ▸ hs'))
  | stayed hs' _ => exact .waiting (by rwa [hl', hs']) hops' hproved'
  | waited _ hs' => exact .waiting (hl' ▸ hs') hops' hproved'
  | served _ hs' => exact .idle (.inr (hl' ▸ hs'))
  | started h => exact absurd h hne
  | aligned h | entered h | proving h => rcases hstate with hs | hs <;> rw [hs] at h <;> cases h

/-- **One operation extends the history.** -/
theorem step (h : History config ops) (op : Op) : History config (ops ++ [op]) := by
  cases h with
  | idle hs => exact step_idle hs op
  | aligning hs hops hlast => exact step_aligning hs hops hlast op
  | proving hops hlast hover hfor => exact step_proving hops hlast hover hfor op
  | waiting hs hops hproved => exact step_waiting hs hops hproved op

end History

/-- **Every run has such a history.** -/
theorem history_run (config : Mtp2Config) (ops : List Op) : History config ops := by
  induction ops using List.reverseRecOn with
  | nil => exact .idle (.inl rfl)
  | append_singleton ops op ih => exact ih.step op

/-- Service begins in Aligned Ready, with an FISU, an MSU or an SIPO. -/
theorem raised_inService {age : ℕ} (h : l.Represented age) {op : Op}
    (he : Event.InService ∈ l.raised op) : l.state = .AlignedReady ∧ op.beginsService = true := by
  have hr := step_raised h op
  generalize hl' : l.step op = l' at hr
  cases hr with
  | quiet es hes hev _ =>
    rw [raised_of_append (hl' ▸ hev)] at he
    exact absurd (hes _ he) nofun
  | polled hev _ =>
    rw [raised, hl', hev, List.drop_eq_nil_of_le (by simp)] at he
    cases he
  | started hs =>
    have : l.raised .start = [] := by
      refine raised_of_append ?_
      rw [step, start, if_neg (not_not_intro hs), List.append_nil]
      rfl
    rw [this] at he
    cases he
  | serving hs _ _ => exact ⟨hs, rfl⟩
  | @received su header msu _ hsu hs hev _ =>
    rw [raised_of_append (hl' ▸ hev)] at he
    have hop : (Op.handleSu su).beginsService = true := by
      cases su with
      | Lssu header status extended => cases hsu
      | Fisu header | Msu header sio sif => rfl
    refine ⟨?_, hop⟩
    -- in service already, reception raises the ends of conditions and MSUs only
    by_contra hne
    rw [if_neg hne, List.nil_append, List.mem_append] at he
    rcases he with he | he
    · exact absurd (l.clearedEvents_isManagement _ he) nofun
    · exact outcomeEvents_ne_inService _ he

/-- **A link enters service only after a complete error-checked proving.** Every `InService`
event comes, after the last effective start, after one uninterrupted proving interval with the
period and threshold of one mode, and a wait in Aligned Ready or Aligned Not Ready; what raises
it is the reception of an FISU, an MSU or an SIPO. -/
theorem inService_after_proving (config : Mtp2Config) (ops : List Op) (op : Op)
    (he : Event.InService ∈ ((new config).run ops).raised op) :
    op.beginsService = true ∧ ((new config).run ops).state = .AlignedReady ∧
      ∃ before since restart interval waiting P E,
        ops = before ++ .start :: (since ++ restart :: (interval ++ waiting)) ∧
          ((new config).run before).Proved since restart interval waiting P E := by
  obtain ⟨age, hrep⟩ := represented_of_run config ops
  obtain ⟨hs, hop⟩ := raised_inService hrep he
  refine ⟨hop, hs, ?_⟩
  cases history_run config ops with
  | idle h => rw [hs] at h; rcases h with h | h <;> cases h
  | aligning h => rw [hs] at h; rcases h with h | h <;> cases h
  | proving _ _ _ hfor => have h := hfor.state; rw [hs] at h; cases h
  | waiting _ hops hproved => exact ⟨_, _, _, _, _, _, _, hops, hproved⟩

/-- A link aligned by SIO and SIN, proved for one tick and taken into service by an FISU. -/
theorem inService_after_one_tick :
    let ops : List Op := [.start, .handleSu (.Lssu ⟨127, true, 127, true⟩ .OutOfAlignment false),
      .handleSu (.Lssu ⟨127, true, 127, true⟩ .NormalAlignment false), .tick]
    ∃ before since restart interval waiting P E,
      ops = before ++ .start :: (since ++ restart :: (interval ++ waiting)) ∧
        ((new { t4ProvingNormal := 1 }).run before).Proved since restart interval waiting P E :=
  (inService_after_proving { t4ProvingNormal := 1 } _ (.handleSu (.Fisu ⟨127, true, 127, true⟩))
    (by decide)).2.2

end Mtp2Link

end Mtp2
