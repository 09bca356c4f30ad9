import Mtp2.Codec
import Mtp2.Queue

/-!
# MTP2 — what a link transmits

`poll_transmit` builds its units without checking them, and keeps a FISU at hand for an MSU that
could not be built. Neither matters: what waits for transmission fits, because `submit_msu` has
looked at it, and the numbers a unit carries are 7-bit, because those that come from the transmit
side are counted modulo 128 and the one that comes from the peer was so when it was received.

* **`loaded_run`** — what the transmit side holds fits and is numbered, after any operations;
* **`receivedLt_run`** — the BSN is a 7-bit value if the received FSNs are;
* **`transmits_wellFormed`** — every unit sent encodes, and every buffered MSU was handed out.
-/

namespace Mtp2

theorem seqOf_lt (i : ℕ) : seqOf i < 128 := by
  rw [UInt8.lt_iff_toNat_lt, seqOf_toNat]
  exact Nat.mod_lt _ (by decide)

/-- The subtraction of `seqForward a b` stays above zero. -/
def NoUnderflow (a b : UInt8) : Prop := b.toUInt16 ≤ a.toUInt16 + seqModulus

theorem noUnderflow_of_lt (a : UInt8) {b : UInt8} (h : b < 128) : NoUnderflow a b := by
  have ha := a.toNat_lt
  have hb : b.toNat < 128 := by simpa [UInt8.lt_iff_toNat_lt] using h
  rw [NoUnderflow, seqModulus, UInt16.le_iff_toNat_le, UInt16.toNat_add, UInt8.toNat_toUInt16,
    UInt8.toNat_toUInt16, show (128 : UInt16).toNat = 128 from rfl]
  omega

/-- A buffered MSU carries a sequence number and a payload of the list it numbers. -/
theorem mem_numbered {k : ℕ} {ps : List Payload} {m : BufferedMsu} (h : m ∈ numbered k ps) :
    (∃ i, m.fsn = seqOf i) ∧ m.payload ∈ ps := by
  obtain ⟨i, hi⟩ := List.mem_iff_getElem?.mp h
  rw [getElem?_numbered, Option.map_eq_some_iff] at hi
  obtain ⟨p, hp, rfl⟩ := hi
  exact ⟨⟨_, rfl⟩, List.mem_of_getElem? hp⟩

/-! ## The transmit side -/

namespace TxControl

/-- Everything the controller has numbered or holds back fits an MSU. -/
structure Loaded (t : TxControl) : Prop where
  numbered : ∃ sent base, t.Tracks sent base ∧ ∀ p ∈ sent, Fits p
  pending : ∀ p ∈ t.pending, Fits p

theorem loaded_new (method : RetransmissionMethod) : (new method).Loaded :=
  ⟨⟨[], 0, tracks_new method, by simp⟩, by simp [new]⟩

namespace Loaded

variable {t : TxControl}

/-- The last FSN is a 7-bit value, since it is the number of a position. -/
theorem lastFsn_lt (h : t.Loaded) : t.lastFsn < 128 := by
  obtain ⟨sent, base, htracks, -⟩ := h.numbered
  rw [htracks.lastFsn]
  exact seqOf_lt _

/-- The FSNs in the buffer are 7-bit values, and the MSUs fit. -/
theorem buffered (h : t.Loaded) {m : BufferedMsu} (hm : m ∈ t.unacked) :
    m.fsn < 128 ∧ Fits m.payload := by
  obtain ⟨sent, base, htracks, hfit⟩ := h.numbered
  rw [htracks.unacked] at hm
  obtain ⟨⟨i, hi⟩, hp⟩ := mem_numbered hm
  exact ⟨by rw [hi]; exact seqOf_lt i, hfit _ (List.mem_of_mem_drop hp)⟩

theorem submit (h : t.Loaded) {sio : UInt8} {sif : List UInt8} (hf : Fits (sio, sif)) :
    (t.submit sio sif).Loaded := by
  obtain ⟨sent, base, htracks, hfit⟩ := h.numbered
  refine ⟨⟨sent, base, htracks.of_fields rfl rfl, hfit⟩, fun p hp => ?_⟩
  rcases List.mem_append.mp hp with hp | hp
  · exact h.pending p hp
  · rw [List.mem_singleton.mp hp]
    exact hf

theorem poll (h : t.Loaded) : t.poll.2.Loaded := by
  obtain ⟨sent, base, htracks, hfit⟩ := h.numbered
  rcases htracks.poll with ⟨sio, sif, rest, hp, hp', -, ht⟩ | ⟨i, p, -, -, hp', -, ht⟩ |
    ⟨hp', -, ht⟩
  · -- the MSU at the head of the queue is numbered
    have hhead : ∀ p ∈ (sio, sif) :: rest, Fits p := hp ▸ h.pending
    refine ⟨⟨_, base, ht, fun p hmem => ?_⟩, ?_⟩
    · rcases List.mem_append.mp hmem with hmem | hmem
      · exact hfit p hmem
      · rw [List.mem_singleton.mp hmem]
        exact hhead _ List.mem_cons_self
    · rw [hp']
      exact fun p hmem => hhead p (List.mem_cons_of_mem _ hmem)
  · exact ⟨⟨sent, base, ht, hfit⟩, by rw [hp']; exact h.pending⟩
  · exact ⟨⟨sent, base, ht, hfit⟩, by rw [hp']; exact h.pending⟩

theorem onAck (h : t.Loaded) (bsn : UInt8) (bib : Bool) : (t.onAck bsn bib).Loaded := by
  obtain ⟨sent, base, htracks, hfit⟩ := h.numbered
  exact ⟨⟨sent, _, htracks.onAck bsn bib, hfit⟩, by rw [onAck_pending]; exact h.pending⟩

/-- A polled frame carries a 7-bit FSN, and an MSU in it fits. -/
theorem frame (h : t.Loaded) :
    t.poll.1.fsn < 128 ∧ ∀ sio sif, t.poll.1.body = .Msu sio sif → Fits (sio, sif) := by
  have hmem {sio : UInt8} {sif : List UInt8} (hb : t.poll.1.body = .Msu sio sif) :=
    h.poll.buffered (poll_frame_mem hb)
  refine ⟨?_, fun sio sif hb => (hmem hb).2⟩
  cases hb : t.poll.1.body with
  | Fisu =>
    -- a FISU repeats the last FSN, an MSU has one of the buffer
    rw [poll_fill_fsn hb]
    exact h.poll.lastFsn_lt
  | Msu sio sif => exact (hmem hb).1

end Loaded

end TxControl

namespace Mtp2Link

variable {l : Mtp2Link} {op : Op}

/-- No operation of the link puts anything into the transmit side that does not fit. -/
theorem loaded_step (h : l.tx.Loaded) (op : Op) : (l.step op).tx.Loaded :=
  tx_step op h (TxControl.loaded_new _) (fun _ _ _ hfit => h.submit hfit) h.poll h.onAck

/-- **What the transmit side holds fits and is numbered**, after any operations. -/
theorem loaded_run (config : Mtp2Config) (ops : List Op) : ((new config).run ops).tx.Loaded :=
  Run.invariant (fun l : Mtp2Link => l.tx.Loaded) (fun _ op h => loaded_step h op)
    (TxControl.loaded_new config.method) ops

/-! ## The receive side -/

/-- A received MSU moves the sequence number to its own or leaves it. -/
theorem onMsu_lastReceived (r : RxControl) (fsn sio : UInt8) (sif : List UInt8) :
    (r.onMsu fsn sio sif).2.lastReceived = fsn ∨
      (r.onMsu fsn sio sif).2.lastReceived = r.lastReceived := by
  unfold RxControl.onMsu
  dsimp only
  split
  · exact .inl rfl
  · split
    · split <;> exact .inr rfl
    · exact .inr rfl

theorem checked_lt {fsn : UInt8} (hf : fsn < 128) (h : l.rx.lastReceived < 128)
    (msu : Option Payload) : (l.checked fsn msu).2.lastReceived < 128 := by
  cases msu with
  | none => exact h
  | some p =>
    rw [checked]
    split
    · exact h
    · rcases onMsu_lastReceived l.rx fsn p.1 p.2 with heq | heq <;> dsimp only <;> rw [heq]
      · exact hf
      · exact h

theorem traffic_header {su : SignalUnit} {header : SuHeader} {msu : Option Payload}
    (h : su.traffic = some (header, msu)) : su.header = header := by
  cases su <;> cases h <;> rfl

/-- An operation with units in range keeps the sequence number a 7-bit value. -/
theorem receivedLt_step {age : ℕ} (hr : l.Represented age) (h : l.rx.lastReceived < 128)
    (hop : ∀ su, op = .handleSu su → su.header.InRange) : (l.step op).rx.lastReceived < 128 := by
  have hraised := step_raised hr op
  generalize l.step op = l' at hraised ⊢
  cases hraised with
  | quiet _ _ _ hrx | polled _ hrx | serving _ _ hrx => rw [hrx]; exact h
  -- only `RxControl::new` and a received MSU write it
  | started hs =>
    rw [start, if_neg (not_not_intro hs)]
    show (127 : UInt8) < 128
    decide
  | @received su header msu _ hsu _ _ hrx =>
    rw [hrx]
    have hin := (hop su rfl).2
    rw [traffic_header hsu] at hin
    exact checked_lt hin h msu

/-- **The BSN is a 7-bit value** if the received FSNs are. -/
theorem receivedLt_run (config : Mtp2Config) (ops : List Op)
    (hops : ∀ su, Op.handleSu su ∈ ops → su.header.InRange) :
    ((new config).run ops).rx.lastReceived < 128 := by
  induction ops using List.reverseRecOn with
  | nil => show (127 : UInt8) < 128; decide
  | append_singleton ops op ih =>
    obtain ⟨age, hr⟩ := represented_of_run config ops
    rw [run_snoc]
    refine receivedLt_step hr (ih fun su hsu => hops su (List.mem_append_left _ hsu)) ?_
    rintro su rfl
    exact hops su (List.mem_append_right _ (List.mem_singleton_self _))

/-! ## The units sent -/

/-- A polled MSU frame is what is sent. -/
theorem pollTransmit_msu (h : l.tx.Loaded) (hp : l.polls = true) {sio : UInt8} {sif : List UInt8}
    (hb : l.tx.poll.1.body = .Msu sio sif) :
    l.pollTransmit.1 =
      some (.Msu ⟨l.rx.bsn, l.rx.bib, l.tx.poll.1.fsn, l.tx.poll.1.fib⟩ sio sif) := by
  rcases l.pollTransmit_unit with ⟨-, ho⟩ | ⟨-, hframe⟩ | ⟨hp', -⟩
  · rw [polls, ho] at hp
    cases hp
  · have hframe' : l.tx.poll.1 = ⟨l.tx.poll.1.fsn, l.tx.poll.1.fib, .Msu sio sif⟩ := by rw [← hb]
    rw [hframe, ← l.frameUnit_msu (h.frame.2 sio sif hb), ← hframe']
  · rw [hp] at hp'; cases hp'

/-- The units sent carry 7-bit numbers and a body that fits. -/
theorem pollTransmit_encodes (h : l.tx.Loaded) (hrx : l.rx.lastReceived < 128) {su : SignalUnit}
    (hsu : l.pollTransmit.1 = some su) :
    su.header.InRange ∧ ∃ bytes, su.encode = .ok bytes := by
  have hcontrol : l.headerForControl.InRange := ⟨hrx, h.lastFsn_lt⟩
  suffices hwf : su.header.InRange ∧ su.bodyOctets.length ≤ maxMsuBody from
    ⟨hwf.1, _, SignalUnit.encode_eq_ok_iff.mpr ⟨hwf.1, hwf.2, rfl⟩⟩
  rcases l.pollTransmit_unit with ⟨hnone, -⟩ | ⟨hp, hframe⟩ | ⟨-, ⟨status, hlssu⟩ | ⟨-, hfisu⟩⟩
  · rw [hnone] at hsu; cases hsu
  · have hrange : SuHeader.InRange ⟨l.rx.bsn, l.rx.bib, l.tx.poll.1.fsn, l.tx.poll.1.fib⟩ :=
      ⟨hrx, h.frame.1⟩
    cases hb : l.tx.poll.1.body with
    | Fisu =>
      rw [hframe, frameUnit, hb] at hsu
      cases hsu
      exact ⟨hrange, Nat.zero_le _⟩
    | Msu sio sif =>
      rw [pollTransmit_msu h hp hb] at hsu
      cases hsu
      have hfit : 1 + sif.length ≤ maxMsuBody := h.frame.2 sio sif hb
      exact ⟨hrange, by rwa [SignalUnit.bodyOctets, List.length_cons, Nat.add_comm]⟩
  · rw [hlssu] at hsu
    cases hsu
    exact ⟨hcontrol, by simp [lssu, SignalUnit.lssu, SignalUnit.bodyOctets, maxMsuBody]⟩
  · rw [hfisu] at hsu
    cases hsu
    exact ⟨hcontrol, Nat.zero_le _⟩

/-- An MSU enters the buffer only at the poll that hands it out. -/
theorem unacked_step (h : l.tx.Loaded) (op : Op) :
    (l.step op).tx.unacked <:+ l.tx.unacked ∨
      op = .pollTransmit ∧ ∃ header sio sif, l.pollTransmit.1 = some (.Msu header sio sif) ∧
        (l.step op).tx.unacked = l.tx.unacked ++ [⟨header.fsn, sio, sif⟩] := by
  have ht := l.step_transmits op
  generalize (l.step op).tx = t at ht ⊢
  cases ht with
  | kept _ _ _ => exact .inl (List.suffix_refl _)
  | started _ => exact .inl List.nil_suffix
  | acknowledged _ _ =>
    rw [TxControl.onAck_unacked]
    exact .inl (List.drop_suffix _ _)
  | @submitted sio sif =>
    rcases l.submitMsu_cases sio sif with ⟨-, heq⟩ | ⟨e, heq⟩ <;> rw [heq] <;>
      exact .inl (List.suffix_refl _)
  | polled hp =>
    have hsent (sio : UInt8) (sif : List UInt8) (hb : l.tx.poll.1.body = .Msu sio sif) :=
      pollTransmit_msu h hp hb
    have hpolled := l.tx.polled
    generalize l.tx.pollIndex = o, l.tx.poll = r at hpolled hsent ⊢
    cases hpolled with
    | basicAgain _ _ _ | basicFill _ _ _ | pcrAgain _ _ _ | pcrFill _ _ _ =>
      exact .inl (List.suffix_refl _)
    | @basicFresh _ _ sio sif _ _ | @pcrFresh _ _ _ sio sif _ _ =>
      exact .inr ⟨rfl, _, sio, sif, hsent sio sif rfl, rfl⟩

/-- Every buffered MSU was handed out, under its FSN, by a poll of the run. -/
theorem unacked_handed_out (config : Mtp2Config) (ops : List Op) :
    ∀ m ∈ ((new config).run ops).tx.unacked, ∃ before after header,
      ops = before ++ .pollTransmit :: after ∧ header.fsn = m.fsn ∧
        ((new config).run before).pollTransmit.1 = some (.Msu header m.sio m.sif) := by
  induction ops using List.reverseRecOn with
  | nil => intro m hm; cases hm
  | append_singleton ops op ih =>
    intro m hm
    rw [run_snoc] at hm
    have hold (hm : m ∈ ((new config).run ops).tx.unacked) : ∃ before after header,
        ops ++ [op] = before ++ .pollTransmit :: after ∧ header.fsn = m.fsn ∧
          ((new config).run before).pollTransmit.1 = some (.Msu header m.sio m.sif) := by
      obtain ⟨before, after, header, rfl, hrest⟩ := ih m hm
      exact ⟨before, after ++ [op], header, by simp, hrest⟩
    rcases unacked_step (loaded_run config ops) op with hsub | ⟨rfl, header, sio, sif, hsent, heq⟩
    · exact hold (hsub.subset hm)
    · rw [heq] at hm
      rcases List.mem_append.mp hm with hm | hm
      · exact hold hm
      · obtain rfl := List.mem_singleton.mp hm
        exact ⟨ops, [], header, rfl, rfl, hsent⟩

/-- **What a link transmits is always well formed.** At every point of a run in which the received
units are in range: the next unit is in range and encodes; an MSU that the transmit side polls is
sent, and not a FISU for it; an MSU enters the retransmission buffer only at the poll that hands
it out, so all that is in it was handed out; and no sequence comparison wraps. -/
theorem transmits_wellFormed (config : Mtp2Config) (ops : List Op)
    (hops : ∀ su, Op.handleSu su ∈ ops → su.header.InRange) :
    let l := (new config).run ops
    (∀ su, l.pollTransmit.1 = some su → su.header.InRange ∧ ∃ bytes, su.encode = .ok bytes) ∧
      (l.polls = true → ∀ sio sif, l.tx.poll.1.body = .Msu sio sif → l.pollTransmit.1 =
        some (.Msu ⟨l.rx.bsn, l.rx.bib, l.tx.poll.1.fsn, l.tx.poll.1.fib⟩ sio sif)) ∧
      (∀ op, (l.step op).tx.unacked <:+ l.tx.unacked ∨
        op = .pollTransmit ∧ ∃ header sio sif, l.pollTransmit.1 = some (.Msu header sio sif) ∧
          (l.step op).tx.unacked = l.tx.unacked ++ [⟨header.fsn, sio, sif⟩]) ∧
      (∀ m ∈ l.tx.unacked, ∃ before after header,
        ops = before ++ .pollTransmit :: after ∧ header.fsn = m.fsn ∧
          ((new config).run before).pollTransmit.1 = some (.Msu header m.sio m.sif)) ∧
      ∀ a, (∀ m ∈ l.tx.unacked, NoUnderflow a m.fsn) ∧ NoUnderflow a l.rx.lastReceived := by
  intro l
  have hloaded : l.tx.Loaded := loaded_run config ops
  have hrx : l.rx.lastReceived < 128 := receivedLt_run config ops hops
  exact ⟨fun su => pollTransmit_encodes hloaded hrx,
    fun hp sio sif hb => pollTransmit_msu hloaded hp hb, unacked_step hloaded,
    unacked_handed_out config ops, fun a =>
      ⟨fun m hm => noUnderflow_of_lt a (hloaded.buffered hm).1, noUnderflow_of_lt a hrx⟩⟩

/-- A link brought into service by an MSU of its peer encodes what it sends next. -/
theorem transmits_wellFormed_acknowledgement :
    let l := (new { t4ProvingNormal := 1 }).run [.start,
      .handleSu (.Lssu ⟨127, true, 127, true⟩ .OutOfAlignment false),
      .handleSu (.Lssu ⟨127, true, 127, true⟩ .NormalAlignment false), .tick,
      .handleSu (.Msu ⟨127, true, 0, true⟩ 0x83 [1, 2])]
    l.pollTransmit.1 = some (.Fisu ⟨0, true, 127, true⟩) ∧
      ∃ bytes, SignalUnit.encode (.Fisu ⟨0, true, 127, true⟩) = .ok bytes := by
  intro l
  have hsu : l.pollTransmit.1 = some (.Fisu ⟨0, true, 127, true⟩) := by decide
  refine ⟨hsu, ((transmits_wellFormed { t4ProvingNormal := 1 } _ ?_).1 _ hsu).2⟩
  intro su hsu
  simp only [List.mem_cons, Op.handleSu.injEq, reduceCtorEq, false_or, List.not_mem_nil,
    or_false] at hsu
  rcases hsu with rfl | rfl | rfl <;> decide

end Mtp2Link

end Mtp2
