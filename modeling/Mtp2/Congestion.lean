import Mtp2.Expiry

/-!
# MTP2 — what T6 bounds

T6 guards the congestion of the peer. Every SIB restarts it, and T7 runs on meanwhile although
the link holds its traffic, so T6 decides when the link leaves service only if no SIB comes after
the first tick and T7 has as long to go.

* **`Monitored.step`** — a SUERM with a positive threshold is below it throughout service;
* **`Congested.step`** — a link whose peer is busy, one operation further;
* **`t6Bounds_iff`** — when the link leaves service on the tick T6 allows, and no earlier.
-/

namespace Mtp2

namespace Op

/-- The reception of a SIB. -/
def hearsBusy : Op → Bool
  | .handleSu (.Lssu _ status _) => status = .Busy
  | _ => false

/-- Further SIBs, polls, submissions and ticks. -/
def duringBusy : Op → Bool
  | .submitMsu _ _ | .pollTransmit | .tick => true
  | op => op.hearsBusy

end Op

namespace Mtp2Link

variable {l l' : Mtp2Link} {age : ℕ} {op : Op}

/-! ## The SUERM in service -/

/-- A link whose SUERM is healthy processes what it receives. -/
theorem handleSu_of_healthy (h : l.state.carriesTraffic = true → l.suerm.Healthy)
    (su : SignalUnit) : l.handleSu su = l.withSuerm.handleUnit su := by
  unfold handleSu withSuerm
  split
  · next hs =>
    simp only [Suerm.record_false_of_healthy (h hs), Bool.false_eq_true, if_false]
    cases su <;> rfl
  · cases su <;> rfl

/-- The SUERM has not tripped while the link is in service. -/
structure Monitored (l : Mtp2Link) : Prop where
  threshold : l.suerm.threshold = l.config.suermThreshold
  healthy : l.state.carriesTraffic = true → l.suerm.Healthy

namespace Monitored

/-- What leaves the SUERM alone and enters no service keeps it monitored. -/
theorem kept (h : l.Monitored) (hsuerm : l'.suerm = l.suerm) (hc : l'.config = l.config)
    (hs : l'.state.carriesTraffic = true → l.state.carriesTraffic = true) : l'.Monitored where
  threshold := by rw [hsuerm, hc]; exact h.threshold
  healthy := fun hs' => by rw [hsuerm]; exact h.healthy (hs hs')

/-- Out of service the SUERM does not count. -/
theorem idle (h : l.Monitored) (hsuerm : l'.suerm = l.suerm) (hc : l'.config = l.config)
    (hs : l'.state.carriesTraffic = false) : l'.Monitored :=
  h.kept hsuerm hc fun hs' => by rw [hs] at hs'; cases hs'

theorem enterInService (h : l.Monitored) (ht : 1 ≤ l.config.suermThreshold.toNat) :
    l.enterInService.Monitored where
  threshold := h.threshold
  healthy := fun _ => Suerm.healthy_reset (by rw [h.threshold]; exact ht)

/-- A unit that is counted without a report keeps the SUERM healthy. -/
theorem withSuerm (h : l.Monitored) : l.withSuerm.Monitored := by
  unfold Mtp2Link.withSuerm
  split
  · next hs => exact ⟨(Suerm.record_threshold _ _).trans h.threshold, fun _ =>
      Suerm.healthy_of_record (Suerm.record_false_of_healthy (h.healthy hs))⟩
  · exact h.kept rfl rfl id

/-- A monitored link never fails on a unit received correctly. -/
theorem handleSu_eq (h : l.Monitored) (su : SignalUnit) :
    l.handleSu su = l.withSuerm.handleUnit su := handleSu_of_healthy h.healthy su

/-- A status indication keeps a link monitored. -/
theorem handleLssu (h : l.Monitored) (ht : 1 ≤ l.config.suermThreshold.toNat)
    (status : StatusIndication) : (l.handleLssu status).Monitored := by
  have ho := l.handleLssu_outcome status
  have hup := l.upgradeEmergency_eq status
  generalize l.handleLssu status = l' at ho ⊢
  cases ho with
  | ignored _ => rw [hup]; exact h.kept rfl rfl id
  | aligned _ _ | proving _ _ => rw [hup]; exact h.idle rfl rfl rfl
  | reproving | fallback | failed | released | realigned => exact h.idle rfl rfl rfl
  | serving _ => exact (h.enterInService ht).kept rfl rfl id
  | outage | outageAgain | busy | busyAgain => exact h.kept rfl rfl id

/-- So does an FISU or MSU. -/
theorem handleFisuOrMsu (h : l.Monitored) (ht : 1 ≤ l.config.suermThreshold.toNat)
    (header : SuHeader) (msu : Option Payload) : (l.handleFisuOrMsu header msu).Monitored := by
  rcases l.handleFisuOrMsu_cases header msu with ⟨-, heq⟩ | ⟨-, heq⟩ | ⟨-, -, heq⟩ <;> rw [heq]
  · rw [processInServiceSu_eq]
    exact (h.enterInService ht).kept rfl rfl id
  · rw [processInServiceSu_eq]
    exact h.kept rfl rfl id
  · exact h

/-- A corrupted SU in service. -/
theorem counted (h : l.Monitored) :
    (let recorded := l.suerm.record true
      let l := { l with suerm := recorded.2 }
      if recorded.1 then l.failOutOfService .SuermFailure else l).Monitored := by
  have hthreshold := (l.suerm.record_threshold true).trans h.threshold
  dsimp only
  split
  · exact ⟨hthreshold, nofun⟩
  · next hr => exact ⟨hthreshold, fun _ => Suerm.healthy_of_record (Bool.not_eq_true _ ▸ hr)⟩

/-- So does a damaged unit, which may take the link down. -/
theorem handleCorruptedSu (h : l.Monitored) : l.handleCorruptedSu.Monitored := by
  unfold Mtp2Link.handleCorruptedSu
  split
  · dsimp only
    split
    · unfold provingAborted
      split <;> exact h.idle rfl rfl rfl
    · exact h.kept rfl rfl id
  · exact h.counted
  · exact h.counted
  · exact h

/-- **So does every operation.** -/
theorem step (h : l.Monitored) (hr : l.Represented age)
    (ht : 1 ≤ l.config.suermThreshold.toNat) (op : Op) : (l.step op).Monitored := by
  have hlocal := l.step_local op
  cases op with
  | start =>
    show l.start.Monitored
    unfold start
    split
    · exact h
    · exact ⟨h.threshold, fun hs => by cases hs⟩
  | handleSu su =>
    rw [Mtp2Link.step, h.handleSu_eq]
    cases su with
    | Lssu header status extended => exact h.withSuerm.handleLssu ht status
    | Fisu header => exact h.withSuerm.handleFisuOrMsu ht header none
    | Msu header sio sif => exact h.withSuerm.handleFisuOrMsu ht header (some (sio, sif))
  | handleCorruptedSu => exact h.handleCorruptedSu
  | tick =>
    have ho := tick_outcome hr
    show l.tick.Monitored
    generalize l.tick = l' at ho ⊢
    cases ho with
    | stepped => exact h.kept rfl rfl id
    | alignmentFailed _ | serviceFailed _ => exact h.idle rfl rfl rfl
    | proved _ _ => unfold provingSucceeded; split <;> exact h.idle rfl rfl rfl
  | stop => exact h.idle rfl rfl rfl
  | _ =>
    have hl := hlocal rfl
    exact h.kept hl.suerm hl.config fun hs => hl.carriesTraffic.symm.trans hs

end Monitored

/-- And every run. -/
theorem Monitored.run (h : l.Monitored) (ht : l.Timed)
    (hthr : 1 ≤ l.config.suermThreshold.toNat) (ops : List Op) : (l.run ops).Monitored := by
  induction ops generalizing l with
  | nil => exact h
  | cons op ops ih =>
    obtain ⟨age, hr⟩ := ht.represented
    exact ih (h.step hr hthr op) (ht.step op) (by rw [step_config]; exact hthr)

/-! ## A link whose peer is busy -/

/-- In service with a busy peer, and `n` ticks left of T6. -/
structure Congested (l : Mtp2Link) (n : ℕ) : Prop where
  serves : l.state.carriesTraffic = true
  busy : l.remoteBusy = true
  left : Runs l.t6 n

/-- A SIB received in service. -/
theorem congested_sib (hs : l.state.carriesTraffic = true) (hm : l.Monitored)
    (hop : op.hearsBusy = true) :
    (l.step op).Congested l.config.t6RemoteCongestion.toNat ∧ (l.step op).t7 = l.t7 := by
  cases op with
  | handleSu su =>
    cases su with
    | Fisu header | Msu header sio sif => cases hop
    | Lssu header status extended =>
      obtain rfl : status = .Busy := of_decide_eq_true hop
      rw [step, hm.handleSu_eq, handleUnit]
      have ho := l.withSuerm.handleLssu_outcome .Busy
      generalize l.withSuerm.handleLssu .Busy = l' at ho ⊢
      cases ho with
      | busy _ _ => exact ⟨⟨hs, rfl, _, rfl, rfl⟩, rfl⟩
      | busyAgain _ hr => exact ⟨⟨hs, hr, _, rfl, rfl⟩, rfl⟩
      | ignored hi =>
        -- only the states of alignment ignore a SIB
        have hs' : l.withSuerm.state.carriesTraffic = true := hs
        cases hst : l.withSuerm.state <;> rw [hst] at hi hs' <;> cases hs' <;> cases hi
      | aligned _ hst | realigned _ hst => cases hst
      | proving _ hst => rcases hst with hst | hst <;> cases hst
  | _ => cases hop

/-- A busy link, one operation further. -/
theorem Congested.step {n : ℕ} (h : l.Congested n) (ht : l.Timed) (hm : l.Monitored)
    (hop : op.duringBusy = true) (hne : op ≠ .tick) :
    (l.step op).Congested (if op.hearsBusy then l.config.t6RemoteCongestion.toNat else n) ∧
      (l.step op).t7 = l.t7 := by
  cases op with
  | submitMsu sio sif =>
    rw [Mtp2Link.step, submitMsu_eq]
    exact ⟨⟨h.serves, h.busy, h.left⟩, rfl⟩
  | pollTransmit =>
    obtain ⟨age, hr⟩ := ht.represented
    have hpolls : l.polls = false := by simp [polls, h.busy]
    rw [Mtp2Link.step, pollTransmit_link, hpolls]
    show l.guardT7.Congested n ∧ l.guardT7.t7 = l.t7
    rw [guardT7_eq_self hr h.serves]
    exact ⟨h, rfl⟩
  | tick => exact absurd rfl hne
  | handleSu su =>
    have hbusy : (Op.handleSu su).hearsBusy = true := hop
    rw [if_pos hbusy]
    exact congested_sib h.serves hm hbusy
  | _ => cases hop

/-- A tick of a busy link: T6 before T7. -/
theorem Congested.tick {n : ℕ} (h : l.Congested n) (ht : l.Timed) :
    (n ≤ 1 ∧ l.step .tick = l.failOutOfService .T6Expired) ∨
      (1 < n ∧ (stepTimer l.t7).1 = true ∧ l.step .tick = l.failOutOfService .T7Expired) ∨
      (1 < n ∧ (stepTimer l.t7).1 = false ∧ (l.step .tick).Congested (n - 1) ∧
        (l.step .tick).t7 = (stepTimer l.t7).2) := by
  obtain ⟨age, hr⟩ := ht.represented
  have hlt (h6 : (stepTimer l.t6).1 = false) : 1 < n := Nat.not_le.mp fun hle => by
    rw [h.left.expires_iff.mpr hle] at h6
    cases h6
  have htick := tick_traffic hr h.serves
  rw [Mtp2Link.step]
  generalize l.tick = l' at htick ⊢
  cases htick with
  | t6 h6 => exact .inl ⟨h.left.expires_iff.mp h6, rfl⟩
  | t7 h6 h7 => exact .inr (.inl ⟨hlt h6, h7, rfl⟩)
  | stepped h6 h7 =>
    exact .inr (.inr ⟨hlt h6, h7, ⟨h.serves, h.busy, h.left.step h6⟩, rfl⟩)

/-! ## The segment after the first SIB -/

/-- The ticks T6 allows. -/
def t6Ticks (l : Mtp2Link) : ℕ := max 1 l.config.t6RemoteCongestion.toNat

/-- **T6, and only T6, bounds the congestion of the peer** of `l`, which has just received its
first SIB, over `ops`. -/
structure T6Bounds (l : Mtp2Link) (ops : List Op) : Prop where
  /-- The link stays up for fewer ticks than T6 allows. -/
  stays : ∀ p, p <+: ops → p.count .tick < l.t6Ticks → (l.run p).state.carriesTraffic = true
  /-- On the tick that completes T6 it leaves service, because of T6. -/
  leaves : ∀ p, p ++ [.tick] <+: ops → p.count .tick + 1 = l.t6Ticks →
    (l.run (p ++ [.tick])).state = .OutOfService ∧
      (l.run p).raised .tick = [.OutOfService .T6Expired]

/-- The link has been busy over `p`: T6 counts down and every SIB restarts it, T7 only counts
down. -/
structure CongestedFor (l : Mtp2Link) (p : List Op) : Prop where
  congested : (l.run p).Congested (Countdown.left .tick Op.hearsBusy
    l.config.t6RemoteCongestion.toNat l.config.t6RemoteCongestion.toNat p)
  t7 : ∀ r, l.t7 = some r → Runs (l.run p).t7 (r.toNat - p.count .tick)
  t7_off : l.t7 = none → (l.run p).t7 = none

namespace CongestedFor

variable {p : List Op}

/-- Another operation of the congestion other than a tick. -/
theorem snoc (h : l.CongestedFor p) (ht : l.Timed) (hm : (l.run p).Monitored)
    (hop : op.duringBusy = true) (hne : op ≠ .tick) : l.CongestedFor (p ++ [op]) := by
  obtain ⟨hc, h7⟩ := h.congested.step (ht.run p) hm hop hne
  refine ⟨?_, fun r hr => ?_, fun hnone => ?_⟩
  · rw [run_snoc, Countdown.left_snoc, if_neg hne]
    rwa [l.run_config p] at hc
  · rw [run_snoc, h7, Countdown.count_snoc_ne hne]
    exact h.t7 r hr
  · rw [run_snoc, h7]
    exact h.t7_off hnone

/-- T7 expires on a tick only if it ran from the beginning. -/
theorem t7_expired (h : l.CongestedFor p) (hexp : (stepTimer (l.run p).t7).1 = true) :
    ∃ r, l.t7 = some r ∧ r.toNat ≤ p.count .tick + 1 := by
  cases hr : l.t7 with
  | none => rw [h.t7_off hr] at hexp; cases hexp
  | some r =>
    have := (h.t7 r hr).expires_iff.mp hexp
    exact ⟨r, rfl, by omega⟩

/-- A tick that completes the period of neither timer. -/
theorem tick (h : l.CongestedFor p) (ht : l.Timed) (h7 : (stepTimer (l.run p).t7).1 = false)
    (hleft : 1 < Countdown.left .tick Op.hearsBusy
      l.config.t6RemoteCongestion.toNat l.config.t6RemoteCongestion.toNat p) :
    l.CongestedFor (p ++ [.tick]) := by
  rcases h.congested.tick (ht.run p) with ⟨hle, -⟩ | ⟨-, hexp, -⟩ | ⟨-, -, hc, heq⟩
  · exact absurd hle (Nat.not_le.mpr hleft)
  · rw [h7] at hexp; cases hexp
  refine ⟨?_, fun r hr => ?_, fun hnone => ?_⟩
  · rw [run_snoc, Countdown.left_snoc, if_neg (by nofun), if_pos rfl]
    exact hc
  · rw [run_snoc, heq, Countdown.count_snoc_tick, ← Nat.sub_sub]
    exact (h.t7 r hr).step h7
  · rw [run_snoc, heq, h.t7_off hnone]
    rfl

end CongestedFor

/-- A segment: `l` has just received a SIB, and `ops` are what a busy link goes through. -/
structure Segment (l : Mtp2Link) (ops : List Op) : Prop where
  timed : l.Timed
  monitored : l.Monitored
  threshold : 1 ≤ l.config.suermThreshold.toNat
  during : ∀ op ∈ ops, op.duringBusy = true
  congested : l.CongestedFor []

namespace Segment

variable {ops : List Op}

/-- The link is busy as long as no tick runs T7 out. -/
theorem congestedFor (h : l.Segment ops)
    (hlive : ∀ p, p ++ [.tick] <+: ops → p.count .tick + 1 < l.t6Ticks → l.CongestedFor p →
      (stepTimer (l.run p).t7).1 = false) {p : List Op} (hp : p <+: ops)
    (hlt : p.count .tick < l.t6Ticks) : l.CongestedFor p := by
  induction p using List.reverseRecOn with
  | nil => exact h.congested
  | append_singleton p op ih =>
    have hpre := (List.prefix_append p [op]).trans hp
    by_cases hop : op = .tick
    · subst hop
      rw [Countdown.count_snoc_tick] at hlt
      have hc := ih hpre (Nat.lt_of_succ_lt hlt)
      -- what is left of T6 is at least what the ticks leave of its period
      have hleft : l.config.t6RemoteCongestion.toNat ≤
          Countdown.left .tick Op.hearsBusy l.config.t6RemoteCongestion.toNat
            l.config.t6RemoteCongestion.toNat p + p.count .tick :=
        Countdown.le_left_add (Nat.le_refl _)
      refine hc.tick h.timed (hlive p hp hlt hc) ?_
      unfold t6Ticks at hlt
      omega
    · rw [Countdown.count_snoc_ne hop] at hlt
      exact (ih hpre hlt).snoc h.timed (h.monitored.run h.timed h.threshold p)
        (h.during op (hp.subset (by simp))) hop

/-- What the bounds say, by the first tick that could end the congestion. -/
theorem bounds_iff (h : l.Segment ops) :
    l.T6Bounds ops ↔
      (∀ r, l.t7 = some r → max 1 r.toNat < l.t6Ticks → ops.count .tick < max 1 r.toNat) ∧
      ∀ q, q ++ [.tick] <+: ops → q.count .tick + 1 = l.t6Ticks →
        ¬ Countdown.RestartedLate .tick Op.hearsBusy q := by
  have hspent (q : List Op) (hcount : q.count .tick + 1 = l.t6Ticks) :
      Countdown.left .tick Op.hearsBusy l.config.t6RemoteCongestion.toNat
          l.config.t6RemoteCongestion.toNat q ≤ 1 ↔
        ¬ Countdown.RestartedLate .tick Op.hearsBusy q :=
    Countdown.spent_iff rfl (Nat.le_refl _) hcount
  refine ⟨fun hb => ?_, fun ⟨hv, hlate⟩ => ?_⟩
  · -- the link is in service after each of these ticks, so T7 has not run out
    have hlive (p : List Op) (hp : p ++ [.tick] <+: ops) (hlt : p.count .tick + 1 < l.t6Ticks)
        (hc : l.CongestedFor p) : (stepTimer (l.run p).t7).1 = false := by
      have hs := hb.stays (p ++ [.tick]) hp (by rwa [Countdown.count_snoc_tick])
      rw [run_snoc] at hs
      rcases hc.congested.tick (h.timed.run p) with ⟨-, heq⟩ | ⟨-, -, heq⟩ | ⟨-, h7, -⟩
      · rw [heq] at hs; cases hs
      · rw [heq] at hs; cases hs
      · exact h7
    refine ⟨fun r hr hlt => Nat.not_le.mp fun hge => ?_, fun q hq hcount hrestart => ?_⟩
    · obtain ⟨p, hp, hcount⟩ := Countdown.exists_prefix_tick
        (Nat.lt_of_lt_of_le (Nat.sub_one_lt (by omega)) hge)
      have hc := h.congestedFor hlive ((List.prefix_append p _).trans hp) (by omega)
      have hexp := (hc.t7 r hr).expires_iff.mpr (by omega)
      rw [hlive p hp (by omega) hc] at hexp
      cases hexp
    · obtain ⟨hout, hraised⟩ := hb.leaves q hq hcount
      have hc := h.congestedFor hlive ((List.prefix_append q _).trans hq) (by omega)
      rw [run_snoc] at hout
      rcases hc.congested.tick (h.timed.run q) with ⟨hle, -⟩ | ⟨-, -, heq⟩ | ⟨-, -, hcong, -⟩
      · exact (hspent q hcount).mp hle hrestart
      · have hes : ((l.run q).step .tick).events =
            (l.run q).events ++ [.OutOfService .T7Expired] := by rw [heq]; rfl
        rw [raised_of_append hes] at hraised
        cases hraised
      · exact absurd hout (Mtp2State.ne_of_carriesTraffic hcong.serves rfl)
  · -- T7 runs out before T6 only on a tick the segment does not reach
    have hlive (p : List Op) (hp : p ++ [.tick] <+: ops) (hlt : p.count .tick + 1 < l.t6Ticks)
        (hc : l.CongestedFor p) : (stepTimer (l.run p).t7).1 = false := by
      refine Bool.not_eq_true _ ▸ fun hexp => ?_
      obtain ⟨r, hr, hle⟩ := hc.t7_expired hexp
      have hcount := hp.sublist.count_le .tick
      rw [Countdown.count_snoc_tick] at hcount
      have := hv r hr (by omega)
      omega
    refine ⟨fun p hp hlt => (h.congestedFor hlive hp hlt).congested.serves, fun q hq hcount => ?_⟩
    have hc := h.congestedFor hlive ((List.prefix_append q _).trans hq) (by omega)
    rcases hc.congested.tick (h.timed.run q) with ⟨-, heq⟩ | ⟨hlt, -⟩ | ⟨hlt, -⟩
    · rw [run_snoc, heq]
      exact ⟨rfl, raised_of_append (by rw [heq]; rfl)⟩
    · exact absurd ((hspent q hcount).mpr (hlate q hq hcount)) (Nat.not_le.mpr hlt)
    · exact absurd ((hspent q hcount).mpr (hlate q hq hcount)) (Nat.not_le.mpr hlt)

end Segment

/-- **T6, and only T6, bounds the congestion of the peer exactly when** T7 does not run out
before, and no SIB is received after the first of the ticks T6 allows and before the last. -/
theorem t6Bounds_iff (config : Mtp2Config) (before ops : List Op) (sib : Op)
    (hthr : 1 ≤ config.suermThreshold.toNat)
    (hs : ((new config).run before).state.carriesTraffic = true) (hsib : sib.hearsBusy = true)
    (hops : ∀ op ∈ ops, op.duringBusy = true) :
    ((new config).run (before ++ [sib])).T6Bounds ops ↔
      (∀ r, ((new config).run before).t7 = some r →
        max 1 r.toNat < ((new config).run before).t6Ticks → ops.count .tick < max 1 r.toNat) ∧
      ∀ q, q ++ [.tick] <+: ops → q.count .tick + 1 = ((new config).run before).t6Ticks →
        ¬ Countdown.RestartedLate .tick Op.hearsBusy q := by
  have ht := timed_run config before
  have hnew : (new config).Monitored := ⟨rfl, nofun⟩
  have hm := hnew.run (timed_run config []) hthr before
  rw [run_snoc]
  have hthr' : 1 ≤ ((new config).run before).config.suermThreshold.toNat := by
    rwa [run_config]
  generalize (new config).run before = l at ht hm hs hthr' ⊢
  obtain ⟨age, hr⟩ := ht.represented
  obtain ⟨hc, h7⟩ := congested_sib hs hm hsib
  have hseg : (l.step sib).Segment ops := {
    timed := ht.step sib
    monitored := hm.step hr hthr' sib
    threshold := by rwa [step_config]
    during := hops
    congested := ⟨by rw [step_config]; exact hc, fun r hr => ⟨r, hr, rfl⟩, id⟩ }
  have hiff := hseg.bounds_iff
  rwa [h7, t6Ticks, step_config] at hiff

/-- A link in service with nothing to send. -/
def idleRun : List Op :=
  [.start, .handleSu (.Lssu ⟨127, true, 127, true⟩ .OutOfAlignment false),
    .handleSu (.Lssu ⟨127, true, 127, true⟩ .NormalAlignment false), .tick,
    .handleSu (.Fisu ⟨127, true, 127, true⟩)]

/-- One SIB and nothing but time: T6 takes the link out of service on its second tick. -/
theorem t6Bounds_single_sib :
    ((new { t4ProvingNormal := 1, t6RemoteCongestion := 2 }).run
      (idleRun ++ [.handleSu (.Lssu ⟨127, true, 127, true⟩ .Busy false)])).T6Bounds
        [.tick, .pollTransmit, .tick] := by
  refine (t6Bounds_iff _ idleRun [.tick, .pollTransmit, .tick] _ (by decide) (by decide) rfl
    (by decide)).mpr ⟨fun r hr => ?_, fun q hq _ hlate => ?_⟩
  · have hnone : ((new { t4ProvingNormal := 1, t6RemoteCongestion := 2 }).run idleRun).t7 = none :=
      by decide
    rw [hnone] at hr
    cases hr
  · obtain ⟨p, op, s, rfl, -, hop⟩ := hlate
    have hno : ∀ op ∈ [Op.tick, .pollTransmit, .tick], op.hearsBusy = false := by decide
    rw [hno op (hq.subset (by simp))] at hop
    cases hop

/-- A second SIB between the two ticks prolongs T6. -/
theorem sib_prolongs_t6 :
    ¬ ∀ (config : Mtp2Config) (before ops : List Op) (sib : Op),
      1 ≤ config.suermThreshold.toNat →
      ((new config).run before).state.carriesTraffic = true →
      ((new config).run before).remoteBusy = false → sib.hearsBusy = true →
      (∀ op ∈ ops, op.duringBusy = true) →
      ((new config).run (before ++ [sib])).T6Bounds ops := by
  intro h
  have hb := h { t4ProvingNormal := 1, t6RemoteCongestion := 2 } idleRun
    [.tick, .handleSu (.Lssu ⟨127, true, 127, true⟩ .Busy false), .tick]
    (.handleSu (.Lssu ⟨127, true, 127, true⟩ .Busy false)) (by decide) (by decide) (by decide) rfl
    (by decide)
  have hout := (hb.leaves [.tick, .handleSu (.Lssu ⟨127, true, 127, true⟩ .Busy false)]
    (List.prefix_refl _) (by decide)).1
  revert hout
  decide

end Mtp2Link

end Mtp2
