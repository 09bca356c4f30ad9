import Mtp2.Moves

/-!
# MTP2 — how often a link proves

`proving_attempt` counts the entries into Proving since the last effective start. The limit of the
configuration is looked at in one place, when the AERM aborts an attempt. Two ways back into
Proving go past it, and both are in the hands of the peer: an SIE received while the link proves,
and an SIN or SIE that follows an SIO received while it proves.

* **`step_attempt`** — what an operation does to the attempt counter, and where it leaves the link;
* **`attempts_bounded_iff`** — the attempts are bounded exactly as long as the peer takes neither
  way once the limit is reached.
-/

namespace Mtp2

namespace Mtp2Link

variable {l l' : Mtp2Link} {op : Op} {age : ℕ}

/-- The operation enters Proving: an SIN or SIE in Aligned, an SIE in Proving. -/
def entersProving (l : Mtp2Link) : Op → Bool
  | .handleSu (.Lssu _ status _) =>
    (l.state = .Aligned ∧ (status = .NormalAlignment ∨ status = .EmergencyAlignment)) ∨
      (l.state = .Proving ∧ status = .EmergencyAlignment)
  | _ => false

/-- The peer falls back: an SIO in Proving. -/
def fallsBack (l : Mtp2Link) : Op → Bool
  | .handleSu (.Lssu _ status _) => l.state = .Proving ∧ status = .OutOfAlignment
  | _ => false

theorem fallsBack_state (h : l.fallsBack op = true) : l.state = .Proving := by
  cases op with
  | handleSu su =>
    cases su with
    | Lssu header status extended => exact (of_decide_eq_true h).1
    | Fisu header | Msu header sio sif => cases h
  | _ => cases h

theorem entersProving_state (h : l.entersProving op = true) :
    l.state = .Aligned ∨ l.state = .Proving := by
  cases op with
  | handleSu su =>
    cases su with
    | Lssu header status extended => exact (of_decide_eq_true h).imp And.left And.left
    | Fisu header | Msu header sio sif => cases h
  | _ => cases h

/-- What an operation that does not enter Proving leaves behind. -/
structure KeepsAttempt (l : Mtp2Link) (op : Op) (l' : Mtp2Link) : Prop where
  attempt : l'.provingAttempt = l.provingAttempt
  notAligned : l'.state = .NotAligned → l.state = .NotAligned
  proving : l'.state = .Proving → l.state = .Proving
  /-- Aligned comes from Not Aligned, from a peer that falls back, or from an abort below the
  limit. -/
  aligned : l'.state = .Aligned → l.state = .NotAligned ∨ l.state = .Aligned ∨
    l.fallsBack op = true ∨ l.provingAttempt < l.config.provingAttempts

namespace KeepsAttempt

theorem stays (hn : l'.provingAttempt = l.provingAttempt) (hs : l'.state = l.state) :
    l.KeepsAttempt op l' :=
  ⟨hn, fun h => hs ▸ h, fun h => hs ▸ h, fun h => .inr (.inl (hs ▸ h))⟩

/-- Any state but Not Aligned, Aligned and Proving. -/
theorem leaves (hn : l'.provingAttempt = l.provingAttempt)
    (hs : l'.state = .OutOfService ∨ l'.state.awaitsPeer = true ∨ l'.state.carriesTraffic = true) :
    l.KeepsAttempt op l' := by
  have hne (s : Mtp2State) (ho : s ≠ .OutOfService) (ha : s.awaitsPeer = false)
      (hc : s.carriesTraffic = false) : l'.state ≠ s := by
    rintro rfl
    rcases hs with hs | hs | hs
    · exact ho hs
    · rw [ha] at hs; cases hs
    · rw [hc] at hs; cases hs
  exact ⟨hn, fun h => absurd h (hne _ (by simp) rfl rfl),
    fun h => absurd h (hne _ (by simp) rfl rfl), fun h => absurd h (hne _ (by simp) rfl rfl)⟩

/-- Aligned, for one of the reasons there are. -/
theorem realigns (hn : l'.provingAttempt = l.provingAttempt) (hs : l'.state = .Aligned)
    (h : l.state = .NotAligned ∨ l.state = .Aligned ∨ l.fallsBack op = true ∨
      l.provingAttempt < l.config.provingAttempts) : l.KeepsAttempt op l' := by
  refine ⟨hn, fun h' => ?_, fun h' => ?_, fun _ => h⟩ <;> rw [hs] at h' <;> cases h'

/-- The local user does not touch the counter. -/
theorem user (h : l.LocalStep op l') : l.KeepsAttempt op l' := by
  rcases h.state with hs | ⟨-, hs⟩ | ⟨-, hs⟩
  · exact stays h.provingAttempt hs
  · exact leaves h.provingAttempt (.inr (.inl hs))
  · exact leaves h.provingAttempt (.inr (.inr hs))

theorem failAlignment (failure : AlignmentFailure) : l.KeepsAttempt op (l.failAlignment failure) :=
  leaves rfl (.inl rfl)

theorem failOutOfService (reason : OutOfServiceReason) :
    l.KeepsAttempt op (l.failOutOfService reason) := leaves rfl (.inl rfl)

theorem provingSucceeded : l.KeepsAttempt op l.provingSucceeded := by
  unfold Mtp2Link.provingSucceeded
  split <;> exact leaves rfl (.inr (.inl rfl))

/-- An abort goes back to Aligned below the limit, and nowhere else. -/
theorem provingAborted : l.KeepsAttempt op l.provingAborted := by
  unfold Mtp2Link.provingAborted
  split
  · next hlt => exact realigns rfl rfl (.inr (.inr (.inr hlt)))
  · exact failAlignment _

/-- Traffic enters service from Aligned Ready and otherwise leaves the state alone. -/
theorem handleFisuOrMsu (header : SuHeader) (msu : Option Payload) :
    l.KeepsAttempt op (l.handleFisuOrMsu header msu) := by
  rcases l.handleFisuOrMsu_cases header msu with ⟨-, heq⟩ | ⟨hc, heq⟩ | ⟨-, -, heq⟩ <;> rw [heq]
  · rw [processInServiceSu_eq]
    exact leaves rfl (.inr (.inr rfl))
  · rw [processInServiceSu_eq]
    exact stays rfl rfl
  · exact stays rfl rfl

end KeepsAttempt

/-- What an operation does to the attempt counter. -/
inductive AttemptStep (l : Mtp2Link) (op : Op) (l' : Mtp2Link) : Prop where
  | started (hop : op = .start) (hs : l.state = .OutOfService) (hn : l'.provingAttempt = 0)
      (hs' : l'.state = .NotAligned)
  | entered (hop : l.entersProving op = true) (hn : l'.provingAttempt = l.provingAttempt + 1)
      (hs' : l'.state = .Proving)
  | kept (hop : l.entersProving op = false) (hstart : op = .start → l.state ≠ .OutOfService)
      (h : l.KeepsAttempt op l')

namespace AttemptStep

/-- Only SIN and SIE enter Proving, from Aligned or, for SIE, again from Proving. -/
theorem handleLssu (header : SuHeader) (status : StatusIndication) (extended : Bool) :
    l.AttemptStep (.handleSu (.Lssu header status extended)) (l.handleLssu status) := by
  have ho := l.handleLssu_outcome status
  have hup := l.upgradeEmergency_eq status
  generalize l.handleLssu status = l' at ho ⊢
  cases ho with
  | proving hs hst =>
    refine .entered ?_ (by rw [hup]; rfl) rfl
    rcases hst with rfl | rfl <;> simp [entersProving, hs]
  | reproving hs => exact .entered (by simp [entersProving, hs]) rfl rfl
  | ignored hi =>
    refine .kept ?_ (by simp) (.stays (by rw [hup]) (by rw [hup]))
    -- what is ignored enters nothing
    cases hs : l.state <;> rw [hs] at hi <;> simp_all [entersProving, ignoresLssu]
  | aligned hs _ =>
    exact .kept (by simp [entersProving, hs]) (by simp) (.realigns (by rw [hup]) rfl (.inl hs))
  | fallback hs =>
    exact .kept (by simp [entersProving]) (by simp)
      (.realigns rfl rfl (.inr (.inr (.inl (by simp [fallsBack, hs])))))
  | failed _ => exact .kept (by simp [entersProving]) (by simp) (.failAlignment _)
  | released _ => exact .kept (by simp [entersProving]) (by simp) (.failOutOfService _)
  | serving _ => exact .kept (by simp [entersProving]) (by simp) (.leaves rfl (.inr (.inr rfl)))
  | outage _ _ | outageAgain _ _ | busy _ _ | busyAgain _ _ =>
    exact .kept (by simp [entersProving]) (by simp) (.stays rfl rfl)
  | realigned hs _ =>
    have hne (s : Mtp2State) (hc : s.carriesTraffic = false) : l.state ≠ s :=
      Mtp2State.ne_of_carriesTraffic hs hc
    exact .kept (by simp [entersProving, hne .Aligned rfl, hne .Proving rfl]) (by simp)
      (.failOutOfService _)

theorem handleUnit (su : SignalUnit) : l.AttemptStep (.handleSu su) (l.handleUnit su) := by
  cases su with
  | Lssu header status extended => exact handleLssu header status extended
  | Fisu header => exact .kept rfl (by simp) (.handleFisuOrMsu header none)
  | Msu header sio sif => exact .kept rfl (by simp) (.handleFisuOrMsu header (some (sio, sif)))

/-- The SUERM has no part in this. -/
theorem of_withSuerm (h : l.withSuerm.AttemptStep op l') : l.AttemptStep op l' := by
  cases h with
  | started hop hs hn hs' => exact .started hop hs hn hs'
  | entered hop hn hs' => exact .entered hop hn hs'
  | kept hop hstart hk =>
    exact .kept hop hstart ⟨hk.attempt, hk.notAligned, hk.proving, hk.aligned⟩

end AttemptStep

/-- **What an operation does to the attempt counter.** -/
theorem step_attempt (h : l.Represented age) (op : Op) : l.AttemptStep op (l.step op) := by
  have hlocal := l.step_local op
  cases op with
  | start =>
    show l.AttemptStep .start l.start
    by_cases hs : l.state = .OutOfService
    · rw [start, if_neg (not_not_intro hs)]
      exact .started rfl hs rfl rfl
    · rw [start, if_pos hs]
      exact .kept rfl (fun _ => hs) (.stays rfl rfl)
  | handleSu su =>
    rcases l.handleSu_cases su with ⟨hs, heq⟩ | heq <;> rw [step, heq]
    · -- the SUERM trips before the unit is looked at: no entry, whatever it says
      refine .of_withSuerm (.kept ?_ (by simp) (.failOutOfService _))
      have hne (s : Mtp2State) (hc : s.carriesTraffic = false) : l.withSuerm.state ≠ s :=
        Mtp2State.ne_of_carriesTraffic hs hc
      cases su with
      | Lssu header status extended =>
        simp [entersProving, hne .Aligned rfl, hne .Proving rfl]
      | Fisu header | Msu header sio sif => rfl
    · exact .of_withSuerm (.handleUnit su)
  | handleCorruptedSu =>
    have ho := l.handleCorruptedSu_outcome
    show l.AttemptStep _ l.handleCorruptedSu
    generalize l.handleCorruptedSu = l' at ho ⊢
    cases ho with
    | counted _ _ | recorded _ | ignored _ _ => exact .kept rfl (by simp) (.stays rfl rfl)
    | aborted _ _ =>
      -- the abort is of the link whose AERM has already counted the error
      have habort : KeepsAttempt { l with aerm := l.aerm.recordError.2 } .handleCorruptedSu
          { l with aerm := l.aerm.recordError.2 }.provingAborted := .provingAborted
      exact .kept rfl (by simp) ⟨habort.attempt, habort.notAligned, habort.proving, habort.aligned⟩
    | failed _ => exact .kept rfl (by simp) (.leaves rfl (.inl rfl))
  | tick =>
    have ho := tick_outcome h
    show l.AttemptStep .tick l.tick
    generalize l.tick = l' at ho ⊢
    cases ho with
    | stepped => exact .kept rfl (by simp) (.stays rfl rfl)
    | alignmentFailed _ => exact .kept rfl (by simp) (.failAlignment _)
    | serviceFailed _ => exact .kept rfl (by simp) (.failOutOfService _)
    | proved _ _ => exact .kept rfl (by simp) .provingSucceeded
  | stop => exact .kept rfl (by simp) (.leaves rfl (.inl rfl))
  | _ => exact .kept rfl (by simp) (.user (hlocal rfl))

end Mtp2Link

/-! ## Runs -/

/-- A link with its entries into Proving since the last effective start, and whether it is in
Aligned because the peer fell back. -/
structure Attempts where
  link : Mtp2Link
  entries : ℕ
  fellBack : Bool

namespace Attempts

def new (config : Mtp2Config) : Attempts := ⟨.new config, 0, false⟩

def step (s : Attempts) (op : Op) : Attempts where
  link := s.link.step op
  entries :=
    if op = .start ∧ s.link.state = .OutOfService then 0
    else if s.link.entersProving op then s.entries + 1 else s.entries
  fellBack := (s.link.fallsBack op || s.fellBack) && (s.link.step op).state = .Aligned

/-- The counter holds the number of entries, and they are within the limit. -/
def Bounded (s : Attempts) : Prop :=
  s.link.provingAttempt.toNat = s.entries ∧
    s.entries ≤ max 1 s.link.config.provingAttempts.toNat

instance (s : Attempts) : Decidable s.Bounded := inferInstanceAs (Decidable (_ ∧ _))

/-- An entry that goes past the limit of `proving_aborted`, by an SIE in Proving or after the peer
fell back, would pass it. -/
def Limited (s : Attempts) (op : Op) : Prop :=
  s.link.entersProving op = true → s.link.state = .Proving ∨ s.fellBack = true →
    s.link.provingAttempt < s.link.config.provingAttempts

/-- What holds of the attempts in any run. -/
structure Inv (s : Attempts) : Prop where
  represented : ∃ age, s.link.Represented age
  notAligned : s.link.state = .NotAligned → s.link.provingAttempt = 0
  aligned : s.link.state = .Aligned → s.fellBack = false →
    s.link.provingAttempt.toNat < max 1 s.link.config.provingAttempts.toNat
  /-- Only a link that has proved can prove again. -/
  entered : s.link.state = .Proving ∨ s.fellBack = true → 1 ≤ s.entries

theorem inv_new (config : Mtp2Config) : (new config).Inv where
  represented := ⟨0, Mtp2Link.represented_new config⟩
  notAligned := fun _ => rfl
  aligned := fun hs => by cases hs
  entered := fun h => by rcases h with h | h <;> cases h

variable {s : Attempts} {op : Op}

/-- What an operation does to the attempts of a run. -/
theorem step_cases (h : s.Inv) (op : Op) :
    (s.link.entersProving op = false ∧ (s.step op).link.state = .NotAligned ∧
        (s.step op).link.provingAttempt = 0 ∧ (s.step op).entries = 0) ∨
      (s.link.entersProving op = true ∧ (s.step op).link.state = .Proving ∧
        (s.step op).link.provingAttempt = s.link.provingAttempt + 1 ∧
        (s.step op).entries = s.entries + 1) ∨
      (s.link.entersProving op = false ∧ s.link.KeepsAttempt op (s.step op).link ∧
        (s.step op).entries = s.entries) := by
  obtain ⟨age, hr⟩ := h.represented
  cases Mtp2Link.step_attempt hr op with
  | started hop hs hn hs' =>
    exact .inl ⟨by rw [hop]; rfl, hs', hn, if_pos ⟨hop, hs⟩⟩
  | entered hop hn hs' =>
    have hne : ¬ (op = .start ∧ s.link.state = .OutOfService) := by
      rintro ⟨rfl, -⟩
      cases hop
    exact .inr (.inl ⟨hop, hs', hn, by rw [step, if_neg hne, if_pos hop]⟩)
  | kept hop hstart hk =>
    have hne : ¬ (op = .start ∧ s.link.state = .OutOfService) := fun h => hstart h.1 h.2
    exact .inr (.inr ⟨hop, hk, by rw [step, if_neg hne, hop]; rfl⟩)

/-- The invariant of the attempts is kept by every operation. -/
theorem Inv.step (h : s.Inv) (op : Op) : (s.step op).Inv := by
  have hrepresented : ∃ age, (s.step op).link.Represented age := by
    obtain ⟨age, hr⟩ := h.represented
    exact ⟨_, hr.step op⟩
  have hfell : (s.step op).fellBack = true → (s.step op).link.state = .Aligned := fun hb =>
    of_decide_eq_true (Bool.and_eq_true_iff.mp hb).2
  rcases step_cases h op with ⟨-, hs', hn, -⟩ | ⟨-, hs', -, he⟩ | ⟨-, hk, he⟩
  · -- a start: no attempt yet
    have hne {st : Mtp2State} (hst : st ≠ .NotAligned) : (s.step op).link.state ≠ st :=
      fun h => hst (h.symm.trans hs')
    exact {
      represented := hrepresented
      notAligned := fun _ => hn
      aligned := fun h => absurd h (hne (by simp))
      entered := fun h => by
        rcases h with h | h
        · exact absurd h (hne (by simp))
        · exact absurd (hfell h) (hne (by simp)) }
  · -- an entry into Proving: at least one attempt is counted
    have hne {st : Mtp2State} (hst : st ≠ .Proving) : (s.step op).link.state ≠ st :=
      fun h => hst (h.symm.trans hs')
    exact {
      represented := hrepresented
      notAligned := fun h => absurd h (hne (by simp))
      aligned := fun h => absurd h (hne (by simp))
      entered := fun _ => by rw [he]; exact Nat.succ_le_succ (Nat.zero_le _) }
  · have hconfig : (s.step op).link.config = s.link.config := s.link.step_config op
    refine ⟨hrepresented, fun hs' => ?_, fun hs' hb => ?_, fun h' => ?_⟩
    · -- Not Aligned is kept only from Not Aligned
      rw [hk.attempt]
      exact h.notAligned (hk.notAligned hs')
    · -- the peer has not fallen back, neither before nor now
      have hno : s.link.fallsBack op = false ∧ s.fellBack = false := by
        have hor := (Bool.and_eq_false_iff.mp hb).resolve_right fun hd =>
          of_decide_eq_false hd hs'
        exact Bool.or_eq_false_iff.mp hor
      rw [hk.attempt, hconfig]
      rcases hk.aligned hs' with hs | hs | hf | hlt
      · rw [h.notAligned hs]
        exact Nat.lt_of_lt_of_le Nat.zero_lt_one (Nat.le_max_left _ _)
      · exact h.aligned hs hno.2
      · rw [hno.1] at hf; cases hf
      · exact Nat.lt_of_lt_of_le (UInt32.lt_iff_toNat_lt.mp hlt) (Nat.le_max_right _ _)
    · rw [he]
      refine h.entered ?_
      rcases h' with hs' | hb
      · exact .inl (hk.proving hs')
      · rcases Bool.or_eq_true_iff.mp (Bool.and_eq_true_iff.mp hb).1 with hf | hb
        · exact .inl (Mtp2Link.fallsBack_state hf)
        · exact .inr hb

/-- A bounded count stays bounded exactly if the operation does not go past the limit. -/
theorem bounded_step (h : s.Inv) (hb : s.Bounded) (op : Op) :
    (s.step op).Bounded ↔ s.Limited op := by
  have hconfig : (s.step op).link.config = s.link.config := s.link.step_config op
  obtain ⟨hcount, hle⟩ := hb
  have hP := s.link.config.provingAttempts.toNat_lt
  rcases step_cases h op with ⟨hop, -, hn, he⟩ | ⟨hop, -, hn, he⟩ | ⟨hop, hk, he⟩
  · have hbounded : (s.step op).Bounded := by
      rw [Bounded, hn, he]
      exact ⟨rfl, Nat.zero_le _⟩
    refine iff_of_true hbounded fun hop' => ?_
    rw [hop] at hop'
    cases hop'
  · rw [Bounded, hn, he, hconfig, Limited]
    refine ⟨fun hb' _ hpast => ?_, fun hlim => ?_⟩
    · -- a link that has proved before has used an attempt, so the limit is at least two
      have := h.entered hpast
      have := hb'.2
      rw [UInt32.lt_iff_toNat_lt]
      omega
    · have hlt : s.entries < max 1 s.link.config.provingAttempts.toNat := by
        rw [← hcount]
        by_cases hpast : s.link.state = .Proving ∨ s.fellBack = true
        · exact Nat.lt_of_lt_of_le (UInt32.lt_iff_toNat_lt.mp (hlim hop hpast))
            (Nat.le_max_right _ _)
        · rw [not_or, Bool.not_eq_true] at hpast
          exact h.aligned ((Mtp2Link.entersProving_state hop).resolve_right hpast.1) hpast.2
      refine ⟨?_, hlt⟩
      rw [UInt32.toNat_add, show (1 : UInt32).toNat = 1 from rfl, hcount]
      omega
  · have hbounded : (s.step op).Bounded := by
      rw [Bounded, hk.attempt, he, hconfig]
      exact ⟨hcount, hle⟩
    refine iff_of_true hbounded fun hop' => ?_
    rw [hop] at hop'
    cases hop'

/-- **The proving attempts are bounded exactly as long as the peer leaves the limit alone.** In
every state of a run `proving_attempt` holds the number of entries into Proving since the last
effective start, and it is at most the configured number (or one), exactly if every SIE received
in Proving, and every SIN or SIE received in Aligned after an SIO took the link there from
Proving, comes while another attempt would still be granted after an abort. -/
theorem attempts_bounded_iff (config : Mtp2Config) (ops : List Op) :
    (∀ ops', ops' <+: ops → (ops'.foldl step (new config)).Bounded) ↔
      Run.Along step Limited (new config) ops :=
  Run.along_iff_forall_prefix Inv (fun _ op h => h.step op) (fun _ op h hb => bounded_step h hb op)
    (inv_new config) ⟨rfl, Nat.zero_le _⟩ ops

/-- A peer that repeats SIE has the link prove a sixth time. -/
theorem sie_exceeds_attempts :
    ¬ ∀ (config : Mtp2Config) (ops : List Op), (ops.foldl step (new config)).Bounded := by
  intro h
  have := h {} ([.start, .handleSu (.Lssu ⟨127, true, 127, true⟩ .OutOfAlignment false)] ++
    List.replicate 6 (.handleSu (.Lssu ⟨127, true, 127, true⟩ .EmergencyAlignment false)))
  revert this
  decide

end Attempts

end Mtp2
