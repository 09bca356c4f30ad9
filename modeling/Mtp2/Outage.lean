import Mtp2.Upkeep

/-!
# MTP2 — a processor outage in the exchange

Two links in service in lockstep, one of them in processor outage for some rounds. It sends SIPO
meanwhile, and what it has received stays unacknowledged: T7 of the other end runs on.

* **`round_both`** — in service both ends hear a FISU or MSU each round, and go on;
* **`Out.stays_iff`** — how many rounds of an outage the other end bears;
* **`Setup.round`** — the two links enter service together;
* **`outage_iff`** — when an outage leaves both links up.
-/

namespace Mtp2

namespace Lockstep

/-- Both links carry traffic. -/
def Serves (p : Lockstep) : Prop :=
  p.a.link.state.carriesTraffic = true ∧ p.b.link.state.carriesTraffic = true

instance (p : Lockstep) : Decidable p.Serves := inferInstanceAs (Decidable (_ ∧ _))

def rounds (p : Lockstep) (rs : List (List Op × List Op)) : Lockstep := rs.foldl round p

/-- Both links carry traffic before the rounds and after each of them. -/
def StaysUp : Lockstep → List (List Op × List Op) → Prop
  | p, [] => p.Serves
  | p, r :: rs => p.Serves ∧ StaysUp (p.round r) rs

instance instDecidableStaysUp : (p : Lockstep) → (rs : List (List Op × List Op)) →
    Decidable (p.StaysUp rs)
  | p, [] => inferInstanceAs (Decidable p.Serves)
  | p, r :: rs =>
    have := instDecidableStaysUp (p.round r) rs
    inferInstanceAs (Decidable (_ ∧ _))

/-- A pair that stays up is up at the start. -/
theorem StaysUp.serves {p : Lockstep} {rs : List (List Op × List Op)} (h : p.StaysUp rs) :
    p.Serves := by
  cases rs with
  | nil => exact h
  | cons r rs => exact h.1

/-- Staying up over two stretches of rounds. -/
theorem staysUp_append {p : Lockstep} {rs rs' : List (List Op × List Op)} :
    p.StaysUp (rs ++ rs') ↔ p.StaysUp rs ∧ (p.rounds rs).StaysUp rs' := by
  induction rs generalizing p with
  | nil => exact ⟨fun h => ⟨h.serves, h⟩, fun h => h.2⟩
  | cons r rs ih =>
    simp only [List.cons_append, StaysUp, ih, and_assoc]
    rfl

/-- Ordinary calls at both ends, and `sw` at `a`. -/
def Calls (sw : Op) (rs : List (List Op × List Op)) : Prop :=
  ∀ r ∈ rs, (∀ op ∈ r.1, op.ordinary = true ∨ op = sw) ∧ ∀ op ∈ r.2, op.ordinary = true

/-- Ordinary calls at both ends. -/
def Ordinary (rs : List (List Op × List Op)) : Prop :=
  ∀ r ∈ rs, (∀ op ∈ r.1, op.ordinary = true) ∧ ∀ op ∈ r.2, op.ordinary = true

/-- The rounds begin with the call of `sw` at `a`. -/
def Switched (sw : Op) (rs : List (List Op × List Op)) : Prop :=
  Calls sw rs ∧ ∀ r ∈ rs.head?, sw ∈ r.1

instance (sw : Op) (rs : List (List Op × List Op)) : Decidable (Switched sw rs) :=
  inferInstanceAs (Decidable ((∀ r ∈ rs, _ ∧ _) ∧ ∀ r ∈ rs.head?, _))

instance (rs : List (List Op × List Op)) : Decidable (Ordinary rs) :=
  inferInstanceAs (Decidable (∀ r ∈ rs, _ ∧ _))

theorem Ordinary.calls {rs : List (List Op × List Op)} (h : Ordinary rs) (sw : Op) :
    Calls sw rs := fun r hr => ⟨fun op hop => .inl ((h r hr).1 op hop), (h r hr).2⟩

/-! ## Both in service -/

/-- Both links in service, neither knowing of an outage, and each has heard a FISU or MSU in the
last round. -/
structure Both (p : Lockstep) : Prop where
  upA : p.a.link.Up
  upB : p.b.link.Up
  stateA : p.a.link.state = .InService
  stateB : p.b.link.state = .InService
  clearA : p.a.link.remoteProcessorOutage = false
  clearB : p.b.link.remoteProcessorOutage = false
  freshA : p.a.link.T7Fresh
  freshB : p.b.link.T7Fresh

variable {p : Lockstep} {r : List Op × List Op} {rs : List (List Op × List Op)}

theorem turn_link (x : Party) (su : SignalUnit) :
    (x.turn (some su)).link = x.link.turn su := x.run_link _

/-- The links of a cycle in which both poll a unit. -/
theorem cycle_links {sa sb : SignalUnit} (ha : p.a.link.pollTransmit.1 = some sa)
    (hb : p.b.link.pollTransmit.1 = some sb) :
    p.cycle.a.link = p.a.link.turn sb ∧ p.cycle.b.link = p.b.link.turn sa := by
  rw [cycle, ha, hb]
  exact ⟨turn_link _ _, turn_link _ _⟩

/-- Two links in service hear each other. -/
theorem both_cycle (ha : p.a.link.Up) (hb : p.b.link.Up) (hsa : p.a.link.state = .InService)
    (hsb : p.b.link.state = .InService) : Both p.cycle := by
  obtain ⟨sa, _, _, hpa, htra⟩ := ha.sends.1 hsa
  obtain ⟨sb, _, _, hpb, htrb⟩ := hb.sends.1 hsb
  obtain ⟨heqa, heqb⟩ := cycle_links hpa hpb
  obtain ⟨hupa, hsa', hroa, hfa⟩ := ha.turn_traffic htrb
  obtain ⟨hupb, hsb', hrob, hfb⟩ := hb.turn_traffic htra
  rw [← heqa] at hupa hsa' hroa hfa
  rw [← heqb] at hupb hsb' hrob hfb
  exact ⟨hupa, hupb, hsa'.trans hsa, hsb'.trans hsb, hroa, hrob, hfa, hfb⟩

theorem Both.serves (h : Both p) : p.Serves := ⟨h.upA.serves, h.upB.serves⟩

/-- What is called at the end that has no outage. -/
theorem call_b (h : p.b.link.Up) (hops : ∀ op ∈ r.2, op.ordinary = true) :
    (p.call r).b.link.Up ∧ (p.call r).b.link.state = p.b.link.state ∧
      (p.call r).b.link.t7 = p.b.link.t7 ∧
      (p.call r).b.link.remoteProcessorOutage = p.b.link.remoteProcessorOutage ∧
      (p.call r).b.link.tx.unacked = p.b.link.tx.unacked := by
  rw [call, Party.run_link]
  exact h.ordinaries hops

/-- What is called at the other end. -/
theorem call_a {s : Mtp2State} {sw : Op} (h : p.a.link.Up)
    (hsw : sw = .localProcessorOutage ∧ s = .ProcessorOutage ∨
      sw = .localProcessorRecovered ∧ s = .InService)
    (hops : ∀ op ∈ r.1, op.ordinary = true ∨ op = sw) (hs : p.a.link.state = s ∨ sw ∈ r.1) :
    (p.call r).a.link.Up ∧ (p.call r).a.link.state = s := by
  rw [call, Party.run_link]
  exact h.switches hsw hops hs

/-- **A round in service.** -/
theorem round_both (ha : p.a.link.Up) (hb : p.b.link.Up) (hsb : p.b.link.state = .InService)
    (hops : ∀ op ∈ r.1, op.ordinary = true ∨ op = .localProcessorRecovered)
    (hopsb : ∀ op ∈ r.2, op.ordinary = true)
    (hs : p.a.link.state = .InService ∨ .localProcessorRecovered ∈ r.1) : Both (p.round r) := by
  obtain ⟨ha', hsa'⟩ := call_a ha (.inr ⟨rfl, rfl⟩) hops hs
  obtain ⟨hb', hsb', -⟩ := call_b hb hopsb
  exact both_cycle ha' hb' hsa' (hsb'.trans hsb)

/-- **Two links in service stay there**, whatever is submitted. -/
theorem Both.staysUp (h : Both p) (hcalls : Calls .localProcessorRecovered rs) :
    p.StaysUp rs ∧ Both (p.rounds rs) := by
  induction rs generalizing p with
  | nil => exact ⟨h.serves, h⟩
  | cons r rs ih =>
    obtain ⟨hopsa, hopsb⟩ := hcalls r List.mem_cons_self
    -- in each round both hear a FISU or MSU
    have hround := round_both h.upA h.upB h.stateB hopsa hopsb (.inl h.stateA)
    obtain ⟨hstays, hboth⟩ := ih hround fun r hr => hcalls r (List.mem_cons_of_mem _ hr)
    exact ⟨⟨h.serves, hstays⟩, hboth⟩

/-! ## The outage -/

/-- `a` in processor outage, and `b` in service and holding its traffic. -/
structure Out (p : Lockstep) : Prop where
  upA : p.a.link.Up
  upB : p.b.link.Up
  stateA : p.a.link.state = .ProcessorOutage
  stateB : p.b.link.state = .InService
  held : p.b.link.remoteProcessorOutage = true
  alive : ∀ n, Runs p.b.link.t7 n → 0 < n

theorem Out.serves (h : Out p) : p.Serves := ⟨h.upA.serves, h.upB.serves⟩

/-- A cycle of the outage: `a` hears a FISU or MSU, and `b` an SIPO. -/
theorem outage_cycle (ha : p.a.link.Up) (hb : p.b.link.Up)
    (hsa : p.a.link.state = .ProcessorOutage) (hsb : p.b.link.state = .InService) :
    (stepTimer p.b.link.pollTransmit.2.t7).1 = true ∧ ¬ p.cycle.Serves ∨
      (stepTimer p.b.link.pollTransmit.2.t7).1 = false ∧ Out p.cycle ∧
        p.cycle.b.link.t7 = (stepTimer p.b.link.pollTransmit.2.t7).2 := by
  have hpa := ha.sends.2 hsa
  obtain ⟨sb, _, _, hpb, htrb⟩ := hb.sends.1 hsb
  obtain ⟨heqa, heqb⟩ := cycle_links hpa hpb
  obtain ⟨hupa, hsa', -, -⟩ := ha.turn_traffic htrb
  rw [← heqa] at hupa hsa'
  -- an SIPO acknowledges nothing, so T7 goes on
  have hturn := hb.turn_sipo p.a.link.headerForControl
  rw [← heqb] at hturn
  rcases hturn with ⟨hexp, hs⟩ | ⟨hexp, hupb, hsb', hro, h7⟩
  · refine .inl ⟨hexp, fun hserves => ?_⟩
    have := hserves.2
    rw [hs] at this
    cases this
  · refine .inr ⟨hexp, ⟨hupa, hupb, hsa'.trans hsa, hsb'.trans hsb, hro, fun n hn => ?_⟩, h7⟩
    rw [h7] at hn
    have hruns := Runs.of_step hn
    by_contra hle
    rw [hruns.expires_iff.mpr (by omega)] at hexp
    cases hexp

/-- One more round of an outage costs T7 one more tick, counted from what this round's poll
leaves of it. -/
theorem outage_round (hp : p.Serves) (ha : (p.call r).a.link.Up) (hb : (p.call r).b.link.Up)
    (hsa : (p.call r).a.link.state = .ProcessorOutage)
    (hsb : (p.call r).b.link.state = .InService)
    (hrest : ∀ p', Out p' → (p'.StaysUp rs ↔ ∀ n, Runs p'.b.link.t7 n → rs.length < n) ∧
      (p'.StaysUp rs → Out (p'.rounds rs))) :
    (p.StaysUp (r :: rs) ↔
        ∀ n, Runs (p.call r).b.link.pollTransmit.2.t7 n → (r :: rs).length < n) ∧
      (p.StaysUp (r :: rs) → Out (p.rounds (r :: rs))) := by
  rw [List.length_cons]
  rcases outage_cycle ha hb hsa hsb with ⟨hexp, hdown⟩ | ⟨hexp, hout, h7⟩
  · -- T7 expires in this round
    obtain ⟨n, hn, hruns⟩ := Runs.of_expired hexp
    have hnot : ¬ p.StaysUp (r :: rs) := fun hs => hdown hs.2.serves
    refine ⟨⟨fun hs => absurd hs hnot, fun hlt => ?_⟩, fun hs => absurd hs hnot⟩
    have := hlt n hruns
    omega
  · obtain ⟨hiff, hend⟩ := hrest _ hout
    refine ⟨⟨fun hs n hn => ?_, fun hlt => ⟨hp, hiff.mpr fun n hn => ?_⟩⟩, fun hs => hend hs.2⟩
    · have hlast := hn.step hexp
      rw [← h7] at hlast
      have := hiff.mp hs.2 _ hlast
      omega
    · have := hlt _ (Runs.of_step (h7 ▸ hn))
      omega

/-- **The rounds of an outage that the other end bears**: fewer than T7 has ticks left. -/
theorem Out.stays_iff (h : Out p) (hcalls : Calls .localProcessorOutage rs) :
    (p.StaysUp rs ↔ ∀ n, Runs p.b.link.t7 n → rs.length < n) ∧
      (p.StaysUp rs → Out (p.rounds rs)) := by
  induction rs generalizing p with
  | nil => exact ⟨⟨fun _ => h.alive, fun _ => h.serves⟩, fun _ => h⟩
  | cons r rs ih =>
    obtain ⟨hopsa, hopsb⟩ := hcalls r List.mem_cons_self
    obtain ⟨ha', hsa'⟩ := call_a h.upA (.inl ⟨rfl, rfl⟩) hopsa (.inl h.stateA)
    obtain ⟨hb', hsb', h7, hro, -⟩ := call_b h.upB hopsb
    have hround := outage_round h.serves ha' hb' hsa' (hsb'.trans h.stateB) fun p' hp' =>
      ih hp' fun r hr => hcalls r (List.mem_cons_of_mem _ hr)
    rwa [hb'.poll_held (hro.trans h.held), h7] at hround

/-- The first round, in which `a` loses its processor. -/
theorem Both.stays_iff (h : Both p) (hcalls : Calls .localProcessorOutage (r :: rs))
    (hout : .localProcessorOutage ∈ r.1) :
    (p.StaysUp (r :: rs) ↔
        ∀ n, Runs (p.call r).b.link.pollTransmit.2.t7 n → (r :: rs).length < n) ∧
      (p.StaysUp (r :: rs) → Out (p.rounds (r :: rs))) := by
  obtain ⟨hopsa, hopsb⟩ := hcalls r List.mem_cons_self
  obtain ⟨ha', hsa'⟩ := call_a h.upA (.inl ⟨rfl, rfl⟩) hopsa (.inr hout)
  obtain ⟨hb', hsb', -⟩ := call_b h.upB hopsb
  exact outage_round h.serves ha' hb' hsa' (hsb'.trans h.stateB) fun p' hp' =>
    hp'.stays_iff fun r hr => hcalls r (List.mem_cons_of_mem _ hr)

/-- The recovery: from the next round on both ends hear FISUs and MSUs again. -/
theorem Out.recovers (h : Out p) (hcalls : Switched .localProcessorRecovered rs) :
    p.StaysUp rs := by
  cases rs with
  | nil => exact h.serves
  | cons r rs =>
    obtain ⟨hopsa, hopsb⟩ := hcalls.1 r List.mem_cons_self
    have hround := round_both h.upA h.upB h.stateB hopsa hopsb (.inr (hcalls.2 r rfl))
    exact ⟨h.serves, (hround.staysUp fun r hr => hcalls.1 r (List.mem_cons_of_mem _ hr)).1⟩

/-! ## What T7 leaves of an outage -/

/-- An MSU is waiting, and nothing holds it back over an empty buffer. -/
def Eager (t : TxControl) : Prop :=
  t.pending ≠ [] ∧ ∀ params, t.method = .Pcr params → t.forced params = false

/-- The other end bears `n` rounds of an outage that begins after the calls of `r`: with MSUs
unacknowledged before the first of them, T7 has lost one tick already. -/
def Bears (p : Lockstep) (r : List Op × List Op) (n : ℕ) : Prop :=
  let b := (p.call r).b.link
  (b.tx.unacked ≠ [] → n + 1 < b.config.t7ExcessiveDelay.toNat) ∧
    (b.tx.unacked = [] → Eager b.tx → n < b.config.t7ExcessiveDelay.toNat)

/-- Over an empty buffer a poll sends an MSU exactly then. -/
theorem eager_iff {t : TxControl} (h : t.unacked = []) : t.poll.2.unacked ≠ [] ↔ Eager t := by
  have hpolled := t.polled
  generalize t.pollIndex = i, t.poll = polled at hpolled ⊢
  have hbasic (hm : t.method = .Basic) params : t.method = .Pcr params → t.forced params = false :=
    fun hp => by rw [hm] at hp; cases hp
  cases hpolled with
  | basicAgain _ _ hi | pcrAgain _ _ hi => rw [h] at hi; cases hi
  | basicFresh hm _ hp =>
    exact ⟨fun _ => ⟨by rw [hp]; nofun, hbasic hm⟩, fun _ => by simp [TxControl.number]⟩
  | pcrFresh hm hf hp =>
    refine ⟨fun _ => ⟨by rw [hp]; nofun, fun params hp => ?_⟩, fun _ => by simp [TxControl.number]⟩
    obtain rfl := RetransmissionMethod.Pcr.inj (hm.symm.trans hp)
    exact hf
  | basicFill _ _ hp => exact ⟨fun hne => absurd h hne, fun he => absurd hp he.1⟩
  | pcrFill hm hidle =>
    refine ⟨fun hne => absurd h hne, fun he => absurd ?_ he.1⟩
    exact hidle.resolve_left (by rw [he.2 _ hm]; nofun)

/-- What the first poll of the outage leaves of T7, for a link that has just heard an
acknowledgement. -/
theorem bears_iff {l : Mtp2Link} (h : l.Up) (hs : l.state = .InService)
    (hro : l.remoteProcessorOutage = false) (hf : l.T7Fresh) (n : ℕ) :
    (∀ k, Runs l.pollTransmit.2.t7 k → n < k) ↔
      (l.tx.unacked ≠ [] → n + 1 < l.config.t7ExcessiveDelay.toNat) ∧
        (l.tx.unacked = [] → Eager l.tx → n < l.config.t7ExcessiveDelay.toNat) := by
  obtain ⟨age, hr⟩ := h.represented
  have hpolls : l.polls = true := by simp [Mtp2Link.polls, hs, hro, h.localBusy, h.remoteBusy]
  have hpoll : l.pollTransmit.2 = { l with tx := l.tx.poll.2 }.guardT7 := by
    rw [Mtp2Link.pollTransmit_link, hpolls]
    rfl
  rw [hpoll, Mtp2Link.guardT7]
  by_cases hu : l.tx.unacked = []
  · -- T7 is off, and starts if this poll sends an MSU
    have h7 := hr.t7_eq_none hu
    simp only [hu, ne_eq, not_true_eq_false, false_implies, true_and, true_implies]
    by_cases hu' : l.tx.poll.2.unacked = []
    · have heager : ¬ Eager l.tx := fun he => (eager_iff hu).mpr he hu'
      rw [if_neg (by simp [TxControl.unackedLen, hu'])]
      simp only [h7, heager, false_implies, iff_true]
      exact fun k hk => absurd hk Mtp2Link.not_runs_none
    · have heager : Eager l.tx := (eager_iff hu).mp hu'
      rw [if_pos ⟨hs, List.length_pos_iff.mpr hu', h7⟩]
      simp only [heager, true_implies]
      refine ⟨fun hlt => hlt _ ⟨_, rfl, rfl⟩, fun hlt k hk => ?_⟩
      rwa [hk.unique ⟨_, rfl, rfl⟩]
  · -- T7 runs, and was restarted a tick ago
    have h7 := hr.t7.mpr ⟨h.serves, hu⟩
    obtain ⟨t, ht⟩ := Option.isSome_iff_exists.mp h7
    have hruns : Runs l.t7 t.toNat := ⟨t, ht, rfl⟩
    have hfresh := hf _ hruns
    rw [if_neg (by rw [ht]; simp)]
    simp only [hu, ne_eq, not_false_eq_true, true_implies, false_implies, and_true]
    refine ⟨fun hlt => ?_, fun hlt k hk => ?_⟩
    · have := hlt _ hruns
      omega
    · have := hk.unique hruns
      omega

/-- The same, for the pair before the first round. -/
theorem Both.bears_iff (h : Both p) (hops : ∀ op ∈ r.2, op.ordinary = true) (n : ℕ) :
    (∀ k, Runs (p.call r).b.link.pollTransmit.2.t7 k → n < k) ↔ p.Bears r n := by
  obtain ⟨hb', hsb', h7, hro, -⟩ := call_b h.upB hops
  refine Lockstep.bears_iff hb' (hsb'.trans h.stateB) (hro.trans h.clearB) (fun k hk => ?_) n
  rw [h7] at hk
  rw [call, Party.run_link, Mtp2Link.run_config]
  exact h.freshB k hk

/-! ## The exchange from power-off -/

/-- Two links in the exchange, in service together or not at all. -/
structure Setup (p : Lockstep) : Prop where
  undisturbedA : p.a.link.Undisturbed
  undisturbedB : p.b.link.Undisturbed
  excessiveA : 3 ≤ p.a.link.config.t7ExcessiveDelay.toNat
  excessiveB : 3 ≤ p.b.link.config.t7ExcessiveDelay.toNat
  together : p.a.link.state ≠ .InService ∧ p.b.link.state ≠ .InService ∨ Both p

end Lockstep

namespace Mtp2Link.Undisturbed

variable {l : Mtp2Link} {op : Op}

/-- An undisturbed link in service is up. -/
theorem up (h : l.Undisturbed) (hs : l.state = .InService)
    (h3 : 3 ≤ l.config.t7ExcessiveDelay.toNat) : l.Up where
  serves := by rw [hs]; rfl
  represented := h.represented
  healthy := ⟨h.failed, by rw [h.count]; exact h.threshold⟩
  localBusy := h.localBusy
  remoteBusy := h.remoteBusy
  excessive := h3

theorem fresh (config : Mtp2Config) (h : 1 ≤ config.suermThreshold.toNat) :
    (new config).Undisturbed :=
  ⟨⟨rfl, rfl, rfl, rfl, rfl, rfl, h⟩, 0, represented_new config⟩

/-- Ordinary calls neither disturb a link nor bring it into service. -/
theorem ordinary (h : l.Undisturbed) (hop : op.ordinary = true) :
    (l.step op).Undisturbed ∧ ((l.step op).state = .InService → l.state = .InService) := by
  cases op with
  | submitMsu sio sif =>
    refine ⟨h.step rfl, fun hs => ?_⟩
    rwa [Mtp2Link.step, submitMsu_eq] at hs
  | pollEvent =>
    obtain ⟨age, hr⟩ := h.represented
    exact ⟨⟨h.toClear.congr rfl, _, hr.step .pollEvent⟩, id⟩
  | start =>
    obtain ⟨age, hr⟩ := h.represented
    by_cases ho : l.state = .OutOfService
    · have heq : l.step .start = _ := if_neg (not_not_intro ho)
      refine ⟨⟨?_, _, hr.step .start⟩, fun hs => ?_⟩
      · rw [heq]
        exact ⟨h.localProcessorOutage, rfl, rfl, rfl, rfl, rfl, h.threshold⟩
      · rw [heq] at hs; cases hs
    · have heq : l.step .start = l := if_pos ho
      rw [heq]
      exact ⟨h, id⟩
  | _ => cases hop

/-- Submissions, event polls and starts disturb nothing and begin no service. -/
theorem ordinaries (h : l.Undisturbed) {ops : List Op}
    (hops : ∀ op ∈ ops, op.ordinary = true) :
    (l.run ops).Undisturbed ∧ ((l.run ops).state = .InService → l.state = .InService) := by
  induction ops generalizing l with
  | nil => exact ⟨h, id⟩
  | cons op ops ih =>
    obtain ⟨hop, hs⟩ := h.ordinary (hops op List.mem_cons_self)
    obtain ⟨hrest, hs'⟩ := ih hop fun op hop => hops op (List.mem_cons_of_mem _ hop)
    exact ⟨hrest, fun h => hs (hs' h)⟩

/-- What an undisturbed link sends, and that it sends FISUs and MSUs only when it is ready. -/
theorem sends (h : l.Undisturbed) {su : SignalUnit} (hsu : l.pollTransmit.1 = some su) :
    su.undisturbed = true ∧ (su.traffic ≠ none → l.state.ready = true) := by
  have htraffic : su.traffic ≠ none → su.undisturbed = true := fun hne => by
    cases su with
    | Lssu header status extended => exact absurd rfl hne
    | Fisu header | Msu header sio sif => rfl
  by_cases ho : l.state = .OutOfService
  · rw [pollTransmit_out ho hsu]
    exact ⟨rfl, fun hne => absurd rfl hne⟩
  obtain ⟨su', hsu', hsent⟩ := h.pollTransmit_sent ho
  obtain rfl := Option.some.inj (hsu.symm.trans hsu')
  rcases hsent with ⟨hs, hframe, -⟩ | ⟨hs, hfisu, -⟩ | ⟨-, hund, hnone, -⟩
  · obtain ⟨header, msu, htr, -⟩ := l.frameUnit_traffic l.tx.poll.1
    rw [← hframe] at htr
    exact ⟨htraffic (by rw [htr]; nofun), fun _ => by rw [hs]; rfl⟩
  · exact ⟨htraffic (by rw [hfisu]; nofun), fun _ => by rw [hs]; rfl⟩
  · exact ⟨hund, fun hne => absurd hnone hne⟩

/-- A turn leaves the link undisturbed. -/
theorem turn (h : l.Undisturbed) {heard : Option SignalUnit}
    (hheard : ∀ su ∈ heard, su.undisturbed = true) :
    (l.run (.pollTransmit :: (heard.toList.map .handleSu ++ [.tick]))).Undisturbed := by
  have hpoll : (l.step .pollTransmit).Undisturbed := h.step rfl
  have htick : Op.tick.undisturbed = true := rfl
  cases heard with
  | none => exact hpoll.step htick
  | some su =>
    have hund : (Op.handleSu su).undisturbed = true := hheard su rfl
    exact (hpoll.step hund).step htick

/-- The turn of a link that does not enter service. -/
theorem turn_waits (h : l.Undisturbed) (hs : l.state ≠ .InService) {heard : Option SignalUnit}
    (hheard : ∀ su ∈ heard, su.undisturbed = true ∧
      (su.traffic = none ∨ l.state.ready = false)) :
    (l.run (.pollTransmit :: (heard.toList.map .handleSu ++ [.tick]))).state ≠ .InService := by
  have hpoll : (l.step .pollTransmit).Undisturbed := h.step rfl
  have hstate : (l.step .pollTransmit).state = l.state := l.pollTransmit_state
  rw [← hstate] at hs hheard
  cases heard with
  | none => exact fun hi => hs (hpoll.tick_controllers.2.2.2 hi)
  | some su =>
    obtain ⟨hund, hquiet⟩ := hheard su rfl
    have hop : (Op.handleSu su).undisturbed = true := hund
    have hheard' := hpoll.step hop
    have hother := (hpoll.handleSu_other hund hquiet).2.2.2
    exact fun hi => hs (hother (hheard'.tick_controllers.2.2.2 hi))

/-- The turn in which a link enters service. -/
theorem turn_enters (h : l.Undisturbed) (h3 : 3 ≤ l.config.t7ExcessiveDelay.toNat)
    (hs : l.state = .AlignedReady) {su : SignalUnit} (hsu : su.traffic ≠ none) :
    (l.turn su).state = .InService ∧ (l.turn su).T7Fresh := by
  obtain ⟨⟨header, msu⟩, htr⟩ := Option.ne_none_iff_exists'.mp hsu
  have hpoll : (l.step .pollTransmit).Undisturbed := h.step rfl
  have hready : (l.step .pollTransmit).state = .AlignedReady := l.pollTransmit_state.trans hs
  have hund : (Op.handleSu su).undisturbed = true := by
    cases su with
    | Lssu header status extended => cases htr
    | Fisu header | Msu header sio sif => rfl
  have hheard := hpoll.step hund
  obtain ⟨hin, htx, -⟩ := hpoll.handleSu_ready htr (by rw [hready]; rfl)
  have hup := hheard.up hin (by rwa [step_config, step_config])
  -- nothing was sent before service, so T7 is off
  obtain ⟨age, hr⟩ := hpoll.represented
  have hu := (hr.before_service (by rw [hready]; nofun) (by rw [hready]; rfl)).2
  obtain ⟨age', hr'⟩ := hheard.represented
  have h7 : ((l.step .pollTransmit).step (.handleSu su)).t7 = none :=
    hr'.t7_eq_none (by rw [htx, TxControl.onAck_unacked, hu, List.drop_nil])
  rcases hup.tick with ⟨hexp, -⟩ | ⟨-, -, hs', -, h7'⟩
  · rw [h7] at hexp; cases hexp
  · refine ⟨hs'.trans hin, fun n hn => ?_⟩
    have hruns : Runs (stepTimer none).2 n := by rw [← h7, ← h7']; exact hn
    exact absurd hruns not_runs_none

end Mtp2Link.Undisturbed

namespace Lockstep

variable {p : Lockstep} {r : List Op × List Op} {rs : List (List Op × List Op)}

theorem round_config : (p.round r).a.link.config = p.a.link.config ∧
    (p.round r).b.link.config = p.b.link.config := by
  simp only [round, cycle, call, Party.turn, Party.run_link, Mtp2Link.run_config, and_self]

/-- A ready link sends FISUs. -/
theorem pollTransmit_ready {l : Mtp2Link} (hs : l.state = .AlignedReady) :
    l.pollTransmit.1 = some (.fisu l.headerForControl) := by
  rw [Mtp2Link.pollTransmit, hs]

/-- What one end of two that are not both ready hears does not bring it into service. -/
theorem heard_waits {x y : Mtp2Link} (hy : y.Undisturbed) (hx : x.state ≠ .InService)
    (hs : y.state ≠ .InService) (hnot : ¬ (x.state = .AlignedReady ∧ y.state = .AlignedReady)) :
    ∀ su ∈ y.pollTransmit.1, su.undisturbed = true ∧
      (su.traffic = none ∨ x.state.ready = false) := by
  have hready {l : Mtp2Link} (hl : l.state ≠ .InService) (hr : l.state.ready = true) :
      l.state = .AlignedReady := by
    cases hst : l.state with
    | AlignedReady => rfl
    | InService => exact absurd hst hl
    | _ => rw [hst] at hr; cases hr
  intro su hsu
  obtain ⟨hund, htr⟩ := hy.sends hsu
  refine ⟨hund, ?_⟩
  by_cases hnone : su.traffic = none
  · exact .inl hnone
  · refine .inr (Bool.not_eq_true _ ▸ fun hr => hnot ⟨hready hx hr, hready hs (htr hnone)⟩)

/-- Two links that are ready send each other FISUs, and both enter service. -/
theorem both_enter (ha : p.a.link.Undisturbed) (hb : p.b.link.Undisturbed)
    (h3a : 3 ≤ p.a.link.config.t7ExcessiveDelay.toNat)
    (h3b : 3 ≤ p.b.link.config.t7ExcessiveDelay.toNat) (hsa : p.a.link.state = .AlignedReady)
    (hsb : p.b.link.state = .AlignedReady) : Both p.cycle := by
  have hfisu (header : SuHeader) : (SignalUnit.fisu header).traffic ≠ none := nofun
  have hund (header : SuHeader) : ∀ su ∈ some (SignalUnit.fisu header), su.undisturbed = true :=
    fun su hsu => by cases hsu; rfl
  obtain ⟨hina, hfa⟩ := ha.turn_enters h3a hsa (hfisu p.b.link.headerForControl)
  obtain ⟨hinb, hfb⟩ := hb.turn_enters h3b hsb (hfisu p.a.link.headerForControl)
  have hua : (p.a.link.turn (.fisu p.b.link.headerForControl)).Undisturbed := ha.turn (hund _)
  have hub : (p.b.link.turn (.fisu p.a.link.headerForControl)).Undisturbed := hb.turn (hund _)
  have hupa := hua.up hina (by rwa [Mtp2Link.turn, Mtp2Link.run_config])
  have hupb := hub.up hinb (by rwa [Mtp2Link.turn, Mtp2Link.run_config])
  obtain ⟨heqa, heqb⟩ := cycle_links (pollTransmit_ready hsa) (pollTransmit_ready hsb)
  rw [← heqa] at hina hfa hua hupa
  rw [← heqb] at hinb hfb hub hupb
  exact ⟨hupa, hupb, hina, hinb, hua.toClear.remoteProcessorOutage,
    hub.toClear.remoteProcessorOutage, hfa, hfb⟩

/-- **The two links enter service together**, and stay there. -/
theorem Setup.round (h : Setup p) (hops : (∀ op ∈ r.1, op.ordinary = true) ∧
    ∀ op ∈ r.2, op.ordinary = true) : Setup (p.round r) := by
  obtain ⟨hca, hcb⟩ := round_config (p := p) (r := r)
  have hcalla : (p.call r).a.link = p.a.link.run r.1 := p.a.run_link r.1
  have hcallb : (p.call r).b.link = p.b.link.run r.2 := p.b.run_link r.2
  obtain ⟨hua, hia⟩ := h.undisturbedA.ordinaries hops.1
  obtain ⟨hub, hib⟩ := h.undisturbedB.ordinaries hops.2
  rw [← hcalla] at hua hia
  rw [← hcallb] at hub hib
  have ha : (p.round r).a.link = _ := (p.call r).a.run_link _
  have hb : (p.round r).b.link = _ := (p.call r).b.run_link _
  -- an undisturbed unit disturbs neither end
  have hua' : (p.round r).a.link.Undisturbed := by
    rw [ha]
    exact hua.turn fun su hsu => (hub.sends hsu).1
  have hub' : (p.round r).b.link.Undisturbed := by
    rw [hb]
    exact hub.turn fun su hsu => (hua.sends hsu).1
  refine ⟨hua', hub', by rw [hca]; exact h.excessiveA, by rw [hcb]; exact h.excessiveB, ?_⟩
  rcases h.together with ⟨hna, hnb⟩ | hboth
  · have hna' := fun hs => hna (hia hs)
    have hnb' := fun hs => hnb (hib hs)
    -- if both are ready they enter service in this round, else neither does
    by_cases hready : (p.call r).a.link.state = .AlignedReady ∧
        (p.call r).b.link.state = .AlignedReady
    · refine .inr (both_enter hua hub ?_ ?_ hready.1 hready.2)
      · rw [hcalla, Mtp2Link.run_config]
        exact h.excessiveA
      · rw [hcallb, Mtp2Link.run_config]
        exact h.excessiveB
    · refine .inl ⟨?_, ?_⟩
      · rw [ha]
        exact hua.turn_waits hna' (heard_waits hub hna' hnb' hready)
      · rw [hb]
        exact hub.turn_waits hnb' (heard_waits hua hnb' hna' fun h => hready h.symm)
  · exact .inr (round_both hboth.upA hboth.upB hboth.stateB
      (fun op hop => .inl (hops.1 op hop)) hops.2 (.inl hboth.stateA))

theorem Setup.rounds (h : Setup p) (hops : Ordinary rs) : Setup (p.rounds rs) := by
  induction rs generalizing p with
  | nil => exact h
  | cons r rs ih =>
    exact ih (h.round (hops r List.mem_cons_self)) fun r hr => hops r (List.mem_cons_of_mem _ hr)

/-- If one end is in service, both are. -/
theorem Setup.both (h : Setup p) (hs : p.a.link.state = .InService) : Both p :=
  h.together.resolve_left fun hnot => hnot.1 hs

theorem setup_fresh {ca cb : Mtp2Config} (hsa : 1 ≤ ca.suermThreshold.toNat)
    (hsb : 1 ≤ cb.suermThreshold.toNat) (h3a : 3 ≤ ca.t7ExcessiveDelay.toNat)
    (h3b : 3 ≤ cb.t7ExcessiveDelay.toNat) : Setup (fresh ca cb) :=
  ⟨.fresh ca hsa, .fresh cb hsb, h3a, h3b, .inl ⟨nofun, nofun⟩⟩

/-- **A processor outage leaves both links up exactly when the other end bears it.** Two links
in service run through ordinary rounds, the rounds of an outage at `a`, and those after its
recovery. -/
theorem outage_iff {ca cb : Mtp2Config} {setup before during afterwards : List (List Op × List Op)}
    (hsa : 1 ≤ ca.suermThreshold.toNat) (hsb : 1 ≤ cb.suermThreshold.toNat)
    (h3a : 3 ≤ ca.t7ExcessiveDelay.toNat) (h3b : 3 ≤ cb.t7ExcessiveDelay.toNat)
    (hsetup : Ordinary setup)
    (hin : ((fresh ca cb).rounds setup).a.link.state = .InService ∧
      ((fresh ca cb).rounds setup).b.link.state = .InService)
    (hbefore : Ordinary before) (hduring : Switched .localProcessorOutage during)
    (hafter : Switched .localProcessorRecovered afterwards) :
    ((fresh ca cb).rounds setup).StaysUp (before ++ during ++ afterwards) ↔
      ∀ r ∈ during.head?, (((fresh ca cb).rounds setup).rounds before).Bears r during.length := by
  -- from the set-up on both are in service
  have hboth := ((setup_fresh hsa hsb h3a h3b).rounds hsetup).both hin.1
  generalize (fresh ca cb).rounds setup = p at hboth ⊢
  -- the rounds before the outage cost nothing
  obtain ⟨hstays, hboth'⟩ := hboth.staysUp (hbefore.calls _)
  rw [List.append_assoc, staysUp_append, and_iff_right hstays]
  generalize p.rounds before = p at hboth' ⊢
  cases during with
  | nil => exact iff_of_true (hboth'.staysUp hafter.1).1 nofun
  | cons r rs =>
    -- those of the outage cost a tick each, and those after it nothing again
    obtain ⟨hiff, hout⟩ := hboth'.stays_iff hduring.1 (hduring.2 r rfl)
    rw [hboth'.bears_iff (hduring.1 r List.mem_cons_self).2] at hiff
    rw [staysUp_append]
    refine ⟨fun h r' hr' => ?_, fun h => ?_⟩
    · obtain rfl := Option.some.inj hr'
      exact hiff.mp h.1
    · have hstays' := hiff.mpr (h r rfl)
      exact ⟨hstays', (hout hstays').recovers hafter⟩

/-- Both started, and one tick of proving. -/
def startRounds : List (List Op × List Op) := ([.start], [.start]) :: List.replicate 4 ([], [])

/-- `a` loses its processor while `b` submits an MSU, and nothing is called for `n` rounds. -/
def outageRounds (n : ℕ) : List (List Op × List Op) :=
  ([.localProcessorOutage], [.submitMsu 0x83 [1]]) :: List.replicate n ([], [])

/-- Four rounds of an outage are borne. -/
theorem outage_borne :
    ((fresh { t4ProvingNormal := 1 } { t4ProvingNormal := 1 }).rounds startRounds).StaysUp
      ([([], [.submitMsu 0x83 [2]])] ++ outageRounds 3 ++ [([.localProcessorRecovered], [])]) := by
  refine (outage_iff (by decide) (by decide) (by decide) (by decide) (by decide) (by decide)
    (by decide) (by decide) (by decide)).mpr fun r hr => ?_
  obtain rfl := Option.some.inj hr
  exact ⟨by decide, fun _ _ => by decide⟩

/-- T7 of the default configuration takes the other end down in the twentieth round. -/
theorem outage_takes_down :
    ¬ ∀ (ca cb : Mtp2Config) (setup before during afterwards : List (List Op × List Op)),
      1 ≤ ca.suermThreshold.toNat → 1 ≤ cb.suermThreshold.toNat →
      3 ≤ ca.t7ExcessiveDelay.toNat → 3 ≤ cb.t7ExcessiveDelay.toNat → Ordinary setup →
      (((fresh ca cb).rounds setup).a.link.state = .InService ∧
        ((fresh ca cb).rounds setup).b.link.state = .InService) →
      Ordinary before → Switched .localProcessorOutage during →
      Switched .localProcessorRecovered afterwards →
      ((fresh ca cb).rounds setup).StaysUp (before ++ during ++ afterwards) := by
  intro h
  have hup := h { t4ProvingNormal := 1 } { t4ProvingNormal := 1 } startRounds []
    (outageRounds 19) [] (by decide) (by decide) (by decide) (by decide) (by decide) (by decide)
    (by decide) (by decide) (by decide)
  revert hup
  decide

end Lockstep

end Mtp2
