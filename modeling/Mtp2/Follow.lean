import Mtp2.Undisturbed
import Mtp2.Lib.Pipes

/-!
# MTP2 — following the peer into service

Two links started together and joined by in-order pipes that lose nothing. The first to be ready
enters service on a FISU of the other, which may itself still wait for a unit to follow on.

* **`Went`** — what an operation does to a link without outage;
* **`rule`** — what a link in service relies on: the other end has finished alignment;
* **`follows_iff`** — when the other end is sure to follow.
-/

namespace Mtp2

/-- Alignment is over, for better or worse. -/
def Mtp2State.settled : Mtp2State → Bool
  | .AlignedReady | .InService | .OutOfService => true
  | _ => false

namespace SignalUnit

/-- A unit on which an Aligned Ready link enters service. -/
def wakes : SignalUnit → Bool
  | .Fisu _ | .Msu _ _ _ => true
  | .Lssu _ status _ => status = .ProcessorOutage

/-- SIOS. -/
def isSios : SignalUnit → Bool
  | .Lssu _ status _ => status = .OutOfService
  | _ => false

/-- FISUs and MSUs wake a ready link. -/
theorem wakes_of_traffic {su : SignalUnit} (h : su.traffic ≠ none) :
    su.wakes = true ∧ su.isSios = false := by
  cases su with
  | Lssu header status extended => exact absurd rfl h
  | Fisu header | Msu header sio sif => exact ⟨rfl, rfl⟩

end SignalUnit

/-- What is called at either end. -/
inductive Call where
  | submitMsu (sio : UInt8) (sif : List UInt8)
  | localBusy
  | localBusyEnded
  | tick
  deriving Repr, DecidableEq

def Call.op : Call → Op
  | .submitMsu sio sif => .submitMsu sio sif
  | .localBusy => .localBusy
  | .localBusyEnded => .localBusyEnded
  | .tick => .tick

/-- A link at one end of the pipes. -/
def joined : Pipes.Machine Mtp2Link Call SignalUnit where
  act l call := l.step call.op
  emit := Mtp2Link.pollTransmit
  receive := Mtp2Link.handleSu

namespace Mtp2Link

variable {l l' : Mtp2Link} {op : Op} {su : SignalUnit} {age : ℕ}

/-! ## A link without outage -/

/-- Neither in outage nor held up by one. -/
structure Available (l : Mtp2Link) : Prop where
  represented : ∃ age, l.Represented age
  processor : l.localProcessorOutage = false
  ready : l.state ≠ .AlignedNotReady
  serving : l.state ≠ .ProcessorOutage

/-- What an operation does: `entry` lets a ready link into service, and `busy` is the local
congestion of a link that does not fail. -/
inductive Went (l : Mtp2Link) (entry : Prop) (busy : Bool) : Mtp2Link → Prop where
  | failed {l' : Mtp2Link} (hs' : l'.state = .OutOfService)
      (hp : l'.localProcessorOutage = l.localProcessorOutage) : Went l entry busy l'
  | stayed {l' : Mtp2Link} (hs' : l'.state = l.state)
      (hp : l'.localProcessorOutage = l.localProcessorOutage) (hb : l'.localBusy = busy) :
      Went l entry busy l'
  | aligning {l' : Mtp2Link} (hs : l.state.settled = false)
      (hs' : l'.state = .Aligned ∨ l'.state = .Proving ∨ l'.state = .AlignedReady)
      (hp : l'.localProcessorOutage = l.localProcessorOutage) : Went l entry busy l'
  | entered {l' : Mtp2Link} (hentry : entry) (hs : l.state = .AlignedReady)
      (hs' : l'.state = .InService) (hp : l'.localProcessorOutage = l.localProcessorOutage)
      (hb : l'.localBusy = busy) : Went l entry busy l'

/-- A tick lets no link into service. -/
theorem tick_went {entry : Prop} (h : l.Represented age) (hp : l.localProcessorOutage = false) :
    l.Went entry l.localBusy l.tick := by
  have ho := tick_outcome h
  generalize l.tick = l' at ho ⊢
  cases ho with
  | stepped => exact .stayed rfl rfl rfl
  | alignmentFailed _ | serviceFailed _ => exact .failed rfl rfl
  | proved hs _ =>
    refine .aligning (by rw [hs]; rfl) (.inr (.inr ?_)) ?_ <;>
      rw [provingSucceeded, if_neg (by simp [hp])]

/-- A unit lets a ready link into service if it wakes it. -/
theorem handleSu_went (su : SignalUnit) :
    l.Went (su.wakes = true) l.localBusy (l.handleSu su) := by
  rcases l.handleSu_cases su with ⟨-, heq⟩ | heq <;> rw [heq]
  · exact .failed rfl rfl
  -- an FISU or MSU lets a ready link in, and is processed in service
  have htraffic (header : SuHeader) (msu : Option Payload) (hw : su.wakes = true) :
      l.Went (su.wakes = true) l.localBusy (l.withSuerm.handleFisuOrMsu header msu) := by
    rcases l.withSuerm.handleFisuOrMsu_cases header msu with ⟨hs, heq⟩ | ⟨hs, heq⟩ | ⟨-, -, heq⟩ <;>
      rw [heq]
    · rw [processInServiceSu_eq]
      exact .entered hw hs rfl rfl rfl
    · rw [processInServiceSu_eq]
      exact .stayed rfl rfl rfl
    · exact .stayed rfl rfl rfl
  cases su with
  | Fisu header => exact htraffic header none rfl
  | Msu header sio sif => exact htraffic header (some (sio, sif)) rfl
  | Lssu header status extended =>
    have ho := l.withSuerm.handleLssu_outcome status
    have hup := l.withSuerm.upgradeEmergency_eq status
    show l.Went _ _ (l.withSuerm.handleLssu status)
    generalize l.withSuerm.handleLssu status = l' at ho ⊢
    have hunsettled {s : Mtp2State} (hs : l.withSuerm.state = s) (hu : s.settled = false) :
        l.state.settled = false := by
      rw [show l.state = s from hs]
      exact hu
    -- of the status indications, SIPO alone does
    cases ho with
    | ignored _ => rw [hup]; exact .stayed rfl rfl rfl
    | aligned hs _ => rw [hup]; exact .aligning (hunsettled hs rfl) (.inl rfl) rfl
    | proving hs _ => rw [hup]; exact .aligning (hunsettled hs rfl) (.inr (.inl rfl)) rfl
    | reproving hs => exact .aligning (hunsettled hs rfl) (.inr (.inl rfl)) rfl
    | fallback hs => exact .aligning (hunsettled hs rfl) (.inl rfl) rfl
    | failed _ | released _ | realigned _ _ => exact .failed rfl rfl
    | serving hs => exact .entered rfl hs rfl rfl rfl
    | outage _ _ | outageAgain _ _ | busy _ _ | busyAgain _ _ => exact .stayed rfl rfl rfl

/-- The local congestion after a call. -/
def busyAfter (l : Mtp2Link) : Call → Bool
  | .localBusy => true
  | .localBusyEnded => false
  | .submitMsu _ _ | .tick => l.localBusy

/-- What is called lets no link into service. -/
theorem act_went (h : l.Available) (call : Call) :
    l.Went False (l.busyAfter call) (joined.act l call) := by
  obtain ⟨age, hr⟩ := h.represented
  cases call with
  | submitMsu sio sif =>
    show l.Went _ _ (l.submitMsu sio sif).2
    rw [submitMsu_eq]
    exact .stayed rfl rfl rfl
  | localBusy | localBusyEnded => exact .stayed rfl rfl rfl
  | tick => exact tick_went hr h.processor

theorem emit_went (l : Mtp2Link) : l.Went False l.localBusy (joined.emit l).2 := by
  show l.Went _ _ l.pollTransmit.2
  rw [pollTransmit_eq]
  exact .stayed rfl rfl rfl

namespace Went

variable {entry : Prop} {busy : Bool}

/-- Alignment that is over stays over. -/
theorem settled (h : l.Went entry busy l') (hs : l.state.settled = true) :
    l'.state.settled = true := by
  cases h with
  | failed hs' _ => rw [hs']; rfl
  | stayed hs' _ _ => rw [hs']; exact hs
  | aligning hns _ _ => rw [hs] at hns; cases hns
  | entered _ _ hs' _ _ => rw [hs']; rfl

/-- A link that is out of service stays there without a start. -/
theorem out (h : l.Went entry busy l') (hs : l.state = .OutOfService) :
    l'.state = .OutOfService := by
  cases h with
  | failed hs' _ => exact hs'
  | stayed hs' _ _ => exact hs'.trans hs
  | aligning hns _ _ => rw [hs] at hns; cases hns
  | entered _ hr _ _ _ => rw [hs] at hr; cases hr

/-- A link in service was there before, unless this operation let it in. -/
theorem inService (h : l.Went entry busy l') (hs' : l'.state = .InService) :
    l'.localBusy = busy ∧ (l.state = .InService ∨ entry ∧ l.state = .AlignedReady) := by
  cases h with
  | failed hf _ => rw [hs'] at hf; cases hf
  | stayed hst _ hb => exact ⟨hb, .inl (hst.symm.trans hs')⟩
  | aligning _ ha _ => rw [hs'] at ha; rcases ha with ha | ha | ha <;> cases ha
  | entered he hs _ _ hb => exact ⟨hb, .inr ⟨he, hs⟩⟩

/-- A link that had finished alignment and is ready was so before. -/
theorem ready (h : l.Went entry busy l') (hs : l.state.settled = true)
    (hs' : l'.state = .AlignedReady) : l.state = .AlignedReady := by
  cases h with
  | failed hf _ => rw [hs'] at hf; cases hf
  | stayed hst _ _ => exact hst.symm.trans hs'
  | aligning hns _ _ => rw [hs] at hns; cases hns
  | entered _ _ hi _ _ => rw [hs'] at hi; cases hi

/-- No outage comes about. -/
theorem available (h : l.Went entry busy l') (ha : l.Available)
    (hr : ∃ age, l'.Represented age) : l'.Available := by
  cases h with
  | failed hs' hp =>
    exact ⟨hr, hp.trans ha.processor, by rw [hs']; nofun, by rw [hs']; nofun⟩
  | stayed hs' hp _ =>
    exact ⟨hr, hp.trans ha.processor, by rw [hs']; exact ha.ready, by rw [hs']; exact ha.serving⟩
  | aligning _ hs' hp =>
    refine ⟨hr, hp.trans ha.processor, fun hs => ?_, fun hs => ?_⟩ <;> rw [hs] at hs' <;>
      rcases hs' with hs' | hs' | hs' <;> cases hs'
  | entered _ _ hs' hp _ =>
    exact ⟨hr, hp.trans ha.processor, by rw [hs']; nofun, by rw [hs']; nofun⟩

end Went

/-! ## What is sent and heard -/

/-- A link in service sends what wakes the other end, unless it is congested. -/
theorem pollTransmit_inService (hs : l.state = .InService) :
    ∃ su, l.pollTransmit.1 = some su ∧ su.wakes = !l.localBusy ∧ su.isSios = false := by
  rw [pollTransmit, hs]
  dsimp only
  cases hb : l.localBusy with
  | true => exact ⟨_, rfl, rfl, rfl⟩
  | false =>
    rw [if_neg (by simp)]
    split
    · exact ⟨_, rfl, rfl, rfl⟩
    · obtain ⟨header, msu, htr, -⟩ := l.frameUnit_traffic l.tx.poll.1
      exact ⟨_, rfl, SignalUnit.wakes_of_traffic (by simp [htr])⟩

/-- What is in flight from a link: after a unit that wakes the other end its alignment is over,
and after SIOS it is out of service. -/
def Flying (l : Mtp2Link) (su : SignalUnit) : Prop :=
  (su.wakes = true → l.state.settled = true) ∧ (su.isSios = true → l.state = .OutOfService)

/-- Before alignment is over a link sends nothing that wakes the other end, and SIOS it sends
out of service only. -/
theorem pollTransmit_flying (h : l.Available) (hsu : l.pollTransmit.1 = some su) :
    l.Flying su := by
  rw [Flying]
  cases hs : l.state with
  | OutOfService => exact ⟨fun _ => rfl, fun _ => rfl⟩
  | InService =>
    -- in service the alignment is over, whatever is sent
    obtain ⟨su', hsu', -, hsios⟩ := pollTransmit_inService hs
    obtain rfl := Option.some.inj (hsu.symm.trans hsu')
    exact ⟨fun _ => rfl, fun h => by rw [hsios] at h; cases h⟩
  | AlignedReady =>
    rw [pollTransmit, hs] at hsu
    obtain rfl := Option.some.inj hsu
    exact ⟨fun _ => rfl, fun h => by cases h⟩
  | AlignedNotReady => exact absurd hs h.ready
  | ProcessorOutage => exact absurd hs h.serving
  | NotAligned =>
    rw [pollTransmit, hs] at hsu
    obtain rfl := Option.some.inj hsu
    refine ⟨fun h => ?_, fun h => ?_⟩ <;> cases h
  | Aligned | Proving =>
    rw [pollTransmit, hs] at hsu
    obtain rfl := Option.some.inj hsu
    cases he : l.emergency <;> simp [lssu, SignalUnit.lssu, alignmentStatus, he,
      SignalUnit.wakes, SignalUnit.isSios]

/-- What a unit does to a ready link. -/
theorem handleSu_ready (hs : l.state = .AlignedReady) (su : SignalUnit) :
    (su.wakes = true → (l.handleSu su).state = .InService) ∧
      (su.wakes = false → su.isSios = false → (l.handleSu su).state = .AlignedReady) := by
  have hc : l.state.carriesTraffic = false := by rw [hs]; rfl
  rw [handleSu_of_not_traffic hc]
  -- FISUs and MSUs wake it
  have htraffic (header : SuHeader) (msu : Option Payload) :
      (l.handleFisuOrMsu header msu).state = .InService := by
    rw [handleFisuOrMsu, hs]
    dsimp only
    rw [processInServiceSu_eq]
    rfl
  cases su with
  | Fisu header => exact ⟨fun _ => htraffic header none, fun h => by cases h⟩
  | Msu header sio sif => exact ⟨fun _ => htraffic header (some (sio, sif)), fun h => by cases h⟩
  | Lssu header status extended =>
    show (_ → (l.handleLssu status).state = _) ∧ (_ → _ → (l.handleLssu status).state = _)
    have ho := l.handleLssu_outcome status
    have hup := l.upgradeEmergency_eq status
    generalize l.handleLssu status = l' at ho ⊢
    cases ho with
    | ignored hi =>
      rw [hs] at hi
      refine ⟨fun hw => ?_, fun _ _ => by rw [hup]; exact hs⟩
      -- and SIPO, which a ready link does not ignore
      obtain rfl : status = .ProcessorOutage := of_decide_eq_true hw
      exact absurd hi (by decide)
    | serving _ => exact ⟨fun _ => rfl, fun h => by cases h⟩
    | failed _ => refine ⟨fun h => ?_, fun _ h => ?_⟩ <;> cases h
    | aligned h' _ | proving h' _ | reproving h' | fallback h' => rw [hs] at h'; cases h'
    | outage h' _ | outageAgain h' _ | busy h' _ | busyAgain h' _ | released h' | realigned h' _ =>
      rw [hc] at h'; cases h'

/-! ## The rule of a link -/

/-- What a link in service relies on: the other end has finished alignment. -/
def Backs (l peer : Mtp2Link) : Prop := peer.state = .InService → l.state.settled = true

/-- Everything a link does, as one operation of `step`. -/
theorem next_went (h : l.Available) (hnext : joined.Next l l') :
    (∃ entry busy, l.Went entry busy l') ∧ ∃ op, l' = l.step op := by
  cases hnext with
  | own hown =>
    cases hown with
    | act call => exact ⟨⟨_, _, act_went h call⟩, call.op, rfl⟩
    | emit => exact ⟨⟨_, _, l.emit_went⟩, .pollTransmit, rfl⟩
  | receive su => exact ⟨⟨_, _, l.handleSu_went su⟩, .handleSu su, rfl⟩

/-- What is in flight stays true of a link that goes on. -/
theorem Went.flying {entry : Prop} {busy : Bool} (h : l.Went entry busy l') (hf : l.Flying su) :
    l'.Flying su :=
  ⟨fun hwakes => h.settled (hf.1 hwakes), fun hsios => h.out (hf.2 hsios)⟩

/-- No link enters service by itself. -/
theorem own_inService (h : l.Available) (hown : joined.Own l l') (hs : l'.state = .InService) :
    l.state = .InService := by
  cases hown with
  | act call => exact ((act_went h call).inService hs).2.resolve_right fun he => he.1
  | emit => exact (l.emit_went.inService hs).2.resolve_right fun he => he.1

/-- **What is kept by a link on the pipes.** -/
theorem rule : joined.Rule Available Flying Backs where
  ok h hnext := by
    obtain ⟨⟨entry, busy, hw⟩, op, rfl⟩ := next_went h hnext
    obtain ⟨age, hr⟩ := h.represented
    exact hw.available h ⟨_, hr.step op⟩
  sent h hf hnext := by
    obtain ⟨⟨entry, busy, hw⟩, -⟩ := next_went h hnext
    exact hw.flying hf
  emits {s x} h hsu := s.emit_went.flying (pollTransmit_flying h hsu)
  knows h hb hnext := by
    obtain ⟨⟨entry, busy, hw⟩, -⟩ := next_went h hnext
    exact fun hs => hw.settled (hb hs)
  learns h hb hown := fun hs => hb (own_inService h hown hs)
  hears {s t x} h hb hf := fun hs =>
    ((t.handleSu_went x).inService hs).2.elim hb fun he => hf.1 he.1

end Mtp2Link

open Pipes

/-- Two ends, with the units in flight between them. -/
abbrev JoinedPair := Pair Mtp2Link SignalUnit

namespace JoinedPair

variable {p : JoinedPair} {op : PairOp Call}

/-- Both started, and nothing in flight. -/
def started (ca cb : Mtp2Config) : JoinedPair :=
  ⟨⟨(Mtp2Link.new ca).step .start, []⟩, ⟨(Mtp2Link.new cb).step .start, []⟩⟩

def step (p : JoinedPair) (op : PairOp Call) : JoinedPair := joined.step p op

def run (p : JoinedPair) (ops : List (PairOp Call)) : JoinedPair := joined.run p ops

/-- `a` is ready, and no unit in flight wakes it. -/
def Waits (p : JoinedPair) : Prop :=
  p.a.state.state = .AlignedReady ∧ ∀ su ∈ p.b.out, su.wakes = false

instance (p : JoinedPair) : Decidable p.Waits := inferInstanceAs (Decidable (_ ∧ _))

/-- A ready `a` follows a `b` in service: a unit that wakes it is in flight or is the next that
`b` sends, and handing over what `b` has sent brings `a` into service. -/
def Follows (p : JoinedPair) : Prop :=
  p.a.state.state = .AlignedReady → p.b.state.state = .InService →
    ((∃ su ∈ p.b.out, su.wakes = true) ∨
        ∃ su, p.b.state.pollTransmit.1 = some su ∧ su.wakes = true) ∧
      ∃ n, ((p.step (.atB .emit)).run (.replicate n (.atB .deliver))).a.state.state = .InService

/-- While `a` waits, `b` neither enters service congested nor becomes congested in service. -/
def Heeds (p : JoinedPair) : PairOp Call → Prop
  | .atA .deliver => p.Waits → ∀ su ∈ p.a.out.head?, su.wakes = true →
      p.b.state.state = .AlignedReady → p.b.state.localBusy = false
  | .atB (.act .localBusy) => p.Waits → p.b.state.state ≠ .InService
  | _ => True

instance (p : JoinedPair) (op : PairOp Call) : Decidable (p.Heeds op) := by
  unfold Heeds; split <;> infer_instance

/-- `a` waits for what a congested `b` does not send. -/
def Starved (p : JoinedPair) : Prop :=
  p.Waits ∧ p.b.state.state = .InService ∧ p.b.state.localBusy = true

/-- What every reachable pair keeps. -/
def Inv : JoinedPair → Prop :=
  Joined Mtp2Link.Available Mtp2Link.Flying Mtp2Link.Backs

theorem Inv.step (h : p.Inv) (op : PairOp Call) : (p.step op).Inv := Mtp2Link.rule.step h op

theorem inv_started (ca cb : Mtp2Config) : (started ca cb).Inv := by
  have havail (c : Mtp2Config) : ((Mtp2Link.new c).step .start).Available := by
    have hr : (Mtp2Link.new c).Represented 0 := Mtp2Link.represented_new c
    exact ⟨⟨_, hr.step .start⟩, rfl, nofun, nofun⟩
  exact ⟨⟨havail ca, nofun, nofun⟩, ⟨havail cb, nofun, nofun⟩⟩

/-- Once a unit that wakes a ready `a` is in flight from a `b` in service, `a` gets it. -/
theorem woken (h : p.Inv) (hr : p.a.state.state = .AlignedReady)
    (hs : p.b.state.state = .InService) (hwakes : ∃ su ∈ p.b.out, su.wakes = true) :
    ∃ n, (p.run (.replicate n (.atB .deliver))).a.state.state = .InService := by
  -- SIOS in flight comes from a link out of service
  have hsios (su : SignalUnit) (hsu : su ∈ p.b.out) : su.isSios = false := by
    refine Bool.not_eq_true _ ▸ fun hsios => ?_
    have hos := (h.2.sent su hsu).2 hsios
    rw [hs] at hos
    cases hos
  exact exists_delivered joined (·.state = .AlignedReady) (·.state = .InService) (·.wakes = true)
    (·.isSios = false) (fun hr hw => (Mtp2Link.handleSu_ready hr _).1 hw)
    (fun hr hw hf => (Mtp2Link.handleSu_ready hr _).2 (Bool.not_eq_true _ ▸ hw) hf) hr hsios hwakes

/-- **A ready end follows unless it is starved.** -/
theorem follows_iff_not_starved (h : p.Inv) : p.Follows ↔ ¬ p.Starved := by
  constructor
  · rintro hf ⟨⟨hr, hquiet⟩, hs, hb⟩
    rcases (hf hr hs).1 with ⟨su, hsu, hw⟩ | ⟨su, hsu, hw⟩
    · rw [hquiet su hsu] at hw; cases hw
    · obtain ⟨su', hsu', hw', -⟩ := Mtp2Link.pollTransmit_inService hs
      obtain rfl := Option.some.inj (hsu.symm.trans hsu')
      rw [hw', hb] at hw
      cases hw
  · intro hstarved hr hs
    obtain ⟨su, hsu, hw, -⟩ := Mtp2Link.pollTransmit_inService hs
    have hout : (p.step (.atB .emit)).b.out = p.b.out ++ [su] := by
      show p.b.out ++ p.b.state.pollTransmit.1.toList = _
      rw [hsu]
      rfl
    have hnext : (p.step (.atB .emit)).b.state.state = .InService :=
      p.b.state.pollTransmit_state.trans hs
    have hwoken := woken (h.step (.atB .emit)) hr hnext
    rw [hout] at hwoken
    by_cases hquiet : ∀ su ∈ p.b.out, su.wakes = false
    · -- the unit that `b` polls next wakes `a`
      have hw' : su.wakes = true := by
        cases hb : p.b.state.localBusy with
        | true => exact absurd ⟨⟨hr, hquiet⟩, hs, hb⟩ hstarved
        | false => rw [hw, hb]; rfl
      exact ⟨.inr ⟨su, hsu, hw'⟩,
        hwoken ⟨su, List.mem_append_right _ (List.mem_singleton_self su), hw'⟩⟩
    · simp only [not_forall, Bool.not_eq_false] at hquiet
      obtain ⟨su', hsu', hw'⟩ := hquiet
      exact ⟨.inl ⟨su', hsu', hw'⟩, hwoken ⟨su', List.mem_append_left _ hsu', hw'⟩⟩

/-! ### What starves a ready end -/

/-- What `a` does by itself does not. -/
theorem Starved.of_a (h : p.Inv) {s : Mtp2Link} {entry : Prop} {busy : Bool} {out : List SignalUnit}
    (hw : p.a.state.Went entry busy s) (hs : Starved ⟨⟨s, out⟩, p.b⟩) : p.Starved := by
  obtain ⟨⟨hr, hquiet⟩, hin, hb⟩ := hs
  exact ⟨⟨hw.ready (h.1.knows hin) hr, hquiet⟩, hin, hb⟩

/-- A unit that lets a congested `b` into service does. -/
theorem starved_heard {a : Pipes.End Mtp2Link SignalUnit} {b : Pipes.End Mtp2Link SignalUnit}
    {su : SignalUnit} {rest : List SignalUnit} (hs : ¬ Starved ⟨{ a with out := su :: rest }, b⟩) :
    ¬ Starved ⟨{ a with out := rest }, { b with state := b.state.handleSu su }⟩ ↔
      (Waits ⟨{ a with out := su :: rest }, b⟩ → su.wakes = true →
        b.state.state = .AlignedReady → b.state.localBusy = false) := by
  have hw := b.state.handleSu_went su
  constructor
  · intro hnot hwaits hwakes hready
    have hin := (Mtp2Link.handleSu_ready hready su).1 hwakes
    refine Bool.not_eq_true _ ▸ fun hb => hnot ⟨hwaits, hin, ?_⟩
    exact (hw.inService hin).1.trans hb
  · rintro hheeds ⟨hwaits, hin, hb⟩
    obtain ⟨hbusy, hbefore⟩ := hw.inService hin
    have hb' : b.state.localBusy = true := hbusy.symm.trans hb
    rcases hbefore with hin' | ⟨hwakes, hready⟩
    · exact hs ⟨hwaits, hin', hb'⟩
    · rw [hheeds hwaits hwakes hready] at hb'
      cases hb'

/-- What is called at `b` starves `a` only if it was starved, or if `b` becomes congested. -/
theorem Starved.of_call (h : p.Inv) {call : Call} (hs : (p.step (.atB (.act call))).Starved) :
    p.Waits ∧ p.b.state.state = .InService ∧ p.b.state.busyAfter call = true := by
  obtain ⟨hwaits, hin, hb⟩ := hs
  obtain ⟨hbusy, hstate⟩ := (Mtp2Link.act_went h.2.ok call).inService hin
  exact ⟨hwaits, hstate.resolve_right fun he => he.1, hbusy.symm.trans hb⟩

/-- Sending starves no link. -/
theorem Starved.of_emit (hs : (p.step (.atB .emit)).Starved) : p.Starved := by
  obtain ⟨⟨hr, hquiet⟩, hin, hb⟩ := hs
  obtain ⟨hbusy, hstate⟩ := p.b.state.emit_went.inService hin
  exact ⟨⟨hr, fun su hsu => hquiet su (List.mem_append_left _ hsu)⟩,
    hstate.resolve_right fun he => he.1, hbusy.symm.trans hb⟩

/-- Nor does a delivery. -/
theorem Starved.of_deliver (h : p.Inv) (hs : (p.step (.atB .deliver)).Starved) : p.Starved := by
  obtain ⟨a, ⟨b, out⟩⟩ := p
  cases out with
  | nil => exact hs
  | cons su rest =>
    obtain ⟨⟨hr, hquiet⟩, hin, hb⟩ := hs
    have hready := (a.state.handleSu_went su).ready (h.1.knows hin) hr
    refine ⟨⟨hready, fun su' hsu' => ?_⟩, hin, hb⟩
    rcases List.mem_cons.mp hsu' with rfl | hsu'
    · -- a unit that wakes `a` would have brought it into service
      refine Bool.not_eq_true _ ▸ fun hwakes => ?_
      have hin' := (Mtp2Link.handleSu_ready hready su').1 hwakes
      rw [show (a.state.handleSu su').state = _ from hr] at hin'
      cases hin'
    · exact hquiet su' hsu'

/-- **The steps that starve a ready end are those that do not heed it.** -/
theorem starved_step (h : p.Inv) (hs : ¬ p.Starved) (op : PairOp Call) :
    ¬ (p.step op).Starved ↔ p.Heeds op := by
  cases op with
  | atA op =>
    cases op with
    | act call =>
      exact iff_of_true (fun hs' => hs (hs'.of_a h (Mtp2Link.act_went h.1.ok call))) trivial
    | emit => exact iff_of_true (fun hs' => hs (hs'.of_a h p.a.state.emit_went)) trivial
    | deliver =>
      obtain ⟨⟨a, out⟩, b⟩ := p
      cases out with
      | nil => exact iff_of_true hs fun _ _ hsu => by cases hsu
      | cons su rest =>
        refine (starved_heard hs).trans ⟨fun hheeds hwaits su' hsu' => ?_, fun hheeds hwaits =>
          hheeds hwaits su rfl⟩
        obtain rfl := Option.some.inj hsu'
        exact hheeds hwaits
  | atB op =>
    cases op with
    | act call =>
      have hbefore (hs' : (p.step (.atB (.act call))).Starved) := hs'.of_call h
      cases call with
      | localBusy => exact ⟨fun hnot hwaits hin => hnot ⟨hwaits, hin, rfl⟩,
          fun hheeds hs' => hheeds (hbefore hs').1 (hbefore hs').2.1⟩
      | localBusyEnded => exact iff_of_true (fun hs' => by cases (hbefore hs').2.2) trivial
      | submitMsu sio sif | tick => exact iff_of_true (fun hs' => hs (hbefore hs')) trivial
    | emit => exact iff_of_true (fun hs' => hs hs'.of_emit) trivial
    | deliver => exact iff_of_true (fun hs' => hs (hs'.of_deliver h)) trivial

/-- **A ready end follows in every state of a run exactly if every step heeds it.** -/
theorem follows_iff (ca cb : Mtp2Config) (ops : List (PairOp Call)) :
    (∀ ops', ops' <+: ops → ((started ca cb).run ops').Follows) ↔
      Run.Along step Heeds (started ca cb) ops := by
  have hinv (ops' : List (PairOp Call)) : ((started ca cb).run ops').Inv :=
    Mtp2Link.rule.run (inv_started ca cb) ops'
  simp only [fun ops' => follows_iff_not_starved (hinv ops')]
  exact Run.along_iff_forall_prefix Inv (fun p op h => h.step op)
    (fun p op h hs => starved_step h hs op) (inv_started ca cb) nofun ops

/-- Both prove for a tick; `b` becomes congested, and enters service on the FISU of `a` before it
has sent one. -/
def congestedOps : List (PairOp Call) :=
  [.atA .emit, .atA .deliver, .atB .emit, .atB .deliver, .atA .emit, .atA .deliver, .atB .emit,
    .atB .deliver, .atB (.act .localBusy), .atA (.act .tick), .atB (.act .tick), .atA .emit,
    .atA .deliver]

/-- A congested end may starve the other. -/
theorem congested_starves :
    ¬ ∀ (ca cb : Mtp2Config) (ops : List (PairOp Call)), ((started ca cb).run ops).Follows := by
  intro h
  have hinv := Mtp2Link.rule.run (inv_started { t4ProvingNormal := 1 } { t4ProvingNormal := 1 })
    congestedOps
  refine (follows_iff_not_starved hinv).mp (h _ _ congestedOps) ⟨?_, ?_, ?_⟩
  all_goals decide

end JoinedPair

end Mtp2
