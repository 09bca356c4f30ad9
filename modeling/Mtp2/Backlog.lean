import Mtp2.Outbound

/-!
# MTP2 — the backlog under PCR

Forced retransmission holds new MSUs back once the buffer has reached `N1` MSUs or `N2` octets. It
looks at the buffer before the MSU that would go into it, so the bound in octets is overshot by at
most one MSU, and the one in MSUs is not overshot at all.

* **`numbersNew_iff`** — when a poll numbers a new MSU;
* **`backlog_bounded`** — what the buffer holds over any run.
-/

namespace Mtp2

/-- Fewer than 128 consecutive numbers are distinct. -/
theorem nodup_numbered {k : ℕ} {ps : List Payload} (h : ps.length ≤ 128) :
    ((numbered k ps).map BufferedMsu.fsn).Nodup := by
  rw [List.Nodup, List.pairwise_iff_getElem]
  intro i j hi hj hij heq
  rw [List.length_map, length_numbered] at hi hj
  have hfsn (i : ℕ) (hi : i < ps.length) :
      ((numbered k ps).map BufferedMsu.fsn)[i]? = some (seqOf (k + i)) := by
    rw [List.getElem?_map, getElem?_numbered, List.getElem?_eq_getElem hi]
    rfl
  have hseq : seqOf (k + i) = seqOf (k + j) := by
    have hi' := hfsn i hi
    have hj' := hfsn j hj
    rw [List.getElem?_eq_getElem (by simpa using hi)] at hi'
    rw [List.getElem?_eq_getElem (by simpa using hj)] at hj'
    exact (Option.some.inj hi').symm.trans (heq.trans (Option.some.inj hj'))
  rw [seqOf_inj] at hseq
  omega

namespace TxControl

variable {t : TxControl} {params : PcrParams}

/-- A poll numbers a new MSU: the head of the queue goes out under the next FSN, and into the
buffer. -/
def NumbersNew (t : TxControl) : Prop :=
  ∃ sio sif rest, t.pending = (sio, sif) :: rest ∧
    t.poll.1 = ⟨seqAdd t.lastFsn 1, t.fib, .Msu sio sif⟩ ∧ t.poll.2.pending = rest ∧
    t.poll.2.lastFsn = seqAdd t.lastFsn 1 ∧
    t.poll.2.unacked = t.unacked ++ [⟨seqAdd t.lastFsn 1, sio, sif⟩]

/-- The transmit side as a poll leaves it that numbers nothing. -/
structure Holds (t : TxControl) : Prop where
  pending : t.poll.2.pending = t.pending
  lastFsn : t.poll.2.lastFsn = t.lastFsn
  unacked : t.poll.2.unacked = t.unacked

/-- Retransmission is not forced while both counts are below their thresholds. -/
theorem forced_eq_false_iff :
    t.forced params = false ↔ t.unacked.length < params.n1 ∧ t.unackedOctets < params.n2 := by
  simp [forced]

/-- A poll that sends an MSU again, or a FISU. -/
theorem not_numbersNew_of_holds (h : t.Holds) : ¬ t.NumbersNew := by
  rintro ⟨sio, sif, rest, -, -, -, -, heq⟩
  rw [h.unacked] at heq
  have := congrArg List.length heq
  simp at this

/-- **When a poll numbers a new MSU**: when there is one and the backlog is below both
thresholds. -/
theorem numbersNew_iff (hm : t.method = .Pcr params) :
    (t.NumbersNew ↔
        t.pending ≠ [] ∧ t.unacked.length < params.n1 ∧ t.unackedOctets < params.n2) ∧
      (¬ t.NumbersNew → t.Holds) := by
  have hpolled := t.polled
  -- a forced or an idle poll numbers nothing, and one of the two numbers is then missing
  have hholds (hidle : t.forced params = true ∨ t.pending = []) (h : t.Holds) :
      (t.NumbersNew ↔
        t.pending ≠ [] ∧ t.unacked.length < params.n1 ∧ t.unackedOctets < params.n2) ∧
      (¬ t.NumbersNew → t.Holds) := by
    refine ⟨iff_of_false (not_numbersNew_of_holds h) ?_, fun _ => h⟩
    rw [← forced_eq_false_iff]
    rintro ⟨hp, hf⟩
    rcases hidle with hf' | hnil
    · rw [hf] at hf'; cases hf'
    · exact hp hnil
  cases hpoll : t.poll with
  | mk frame t' =>
    rw [hpoll] at hpolled
    generalize t.pollIndex = o at hpolled
    cases hpolled with
    -- the basic method is excluded by the configured one
    | basicAgain hm' | basicFresh hm' | basicFill hm' => rw [hm] at hm'; cases hm'
    | pcrFresh hm' hf hp =>
      obtain rfl : params = _ := RetransmissionMethod.Pcr.inj (hm.symm.trans hm')
      -- the only poll that takes from the queue: not forced, and the queue is not empty
      have hnew : t.NumbersNew := ⟨_, _, _, hp, by rw [hpoll], by rw [hpoll]; rfl,
        by rw [hpoll]; rfl, by rw [hpoll]; rfl⟩
      exact ⟨iff_of_true hnew ⟨by rw [hp]; simp, forced_eq_false_iff.mp hf⟩,
        fun h => absurd hnew h⟩
    | pcrAgain hm' hidle _ =>
      obtain rfl : params = _ := RetransmissionMethod.Pcr.inj (hm.symm.trans hm')
      exact hholds hidle ⟨by rw [hpoll], by rw [hpoll], by rw [hpoll]⟩
    | pcrFill hm' hidle _ =>
      obtain rfl : params = _ := RetransmissionMethod.Pcr.inj (hm.symm.trans hm')
      exact hholds hidle ⟨by rw [hpoll], by rw [hpoll], by rw [hpoll]⟩

/-! ## The bound -/

/-- Octets of a buffer. -/
def octets (ms : List BufferedMsu) : ℕ := (ms.map fun m => 1 + m.sif.length).sum

theorem unackedOctets_eq (t : TxControl) : t.unackedOctets = octets t.unacked := rfl

theorem octets_append (ms ms' : List BufferedMsu) :
    octets (ms ++ ms') = octets ms + octets ms' := by
  rw [octets, List.map_append, List.sum_append]
  rfl

/-- An acknowledgement does not add to the backlog. -/
theorem octets_drop_le (n : ℕ) (ms : List BufferedMsu) : octets (ms.drop n) ≤ octets ms := by
  -- what is dropped and what stays make up the whole
  conv_rhs => rw [← List.take_append_drop n ms, octets_append]
  exact Nat.le_add_left _ _

/-- The buffer is within the thresholds, up to the last MSU for the octets. -/
structure Bounded (t : TxControl) (params : PcrParams) : Prop where
  method : t.method = .Pcr params
  length_le : t.unacked.length ≤ params.n1
  octets_le : t.unackedOctets ≤ if params.n2 = 0 then 0 else params.n2 - 1 + maxMsuBody

theorem bounded_new (params : PcrParams) : (new (.Pcr params)).Bounded params :=
  ⟨rfl, Nat.zero_le _, Nat.zero_le _⟩

namespace Bounded

/-- A buffer that has not grown. -/
theorem of_le (h : t.Bounded params) {t' : TxControl} (hm : t'.method = t.method)
    (hl : t'.unacked.length ≤ t.unacked.length) (ho : t'.unackedOctets ≤ t.unackedOctets) :
    t'.Bounded params := ⟨hm.trans h.method, hl.trans h.length_le, ho.trans h.octets_le⟩

theorem onAck (h : t.Bounded params) (bsn : UInt8) (bib : Bool) :
    (t.onAck bsn bib).Bounded params := by
  refine h.of_le (t.onAck_method bsn bib) ?_ ?_
  · rw [onAck_unacked]
    exact (List.drop_sublist _ _).length_le
  · rw [unackedOctets_eq, onAck_unacked]
    exact octets_drop_le _ _

theorem poll (h : t.Bounded params) (hl : t.Loaded) : t.poll.2.Bounded params := by
  obtain ⟨hiff, hholds⟩ := numbersNew_iff h.method
  by_cases hnew : t.NumbersNew
  · -- below both thresholds there is room for one more MSU
    obtain ⟨-, hlen, hoct⟩ := hiff.mp hnew
    obtain ⟨sio, sif, rest, hp, -, -, -, hu⟩ := hnew
    have hfit : 1 + sif.length ≤ maxMsuBody := hl.pending (sio, sif) (by rw [hp]; simp)
    refine ⟨(poll_method t).trans h.method, ?_, ?_⟩
    · rw [hu, List.length_append, List.length_singleton]
      exact hlen
    · rw [unackedOctets_eq, hu, octets_append, if_neg (by omega)]
      have : octets [⟨seqAdd t.lastFsn 1, sio, sif⟩] = 1 + sif.length := rfl
      rw [unackedOctets_eq] at hoct
      omega
  · have hu := (hholds hnew).unacked
    exact h.of_le (poll_method t) (by rw [hu]) (by rw [unackedOctets_eq, hu, unackedOctets_eq])

end Bounded

/-- Distinct FSNs, as long as `N1` leaves a number free. -/
theorem Bounded.nodup (h : t.Bounded params) (hl : t.Loaded) (hn : params.n1 ≤ 127) :
    (t.unacked.map BufferedMsu.fsn).Nodup := by
  obtain ⟨sent, base, htracks, -⟩ := hl.numbered
  have hlen := h.length_le
  rw [htracks.unacked, length_numbered] at hlen
  rw [htracks.unacked]
  exact nodup_numbered (by omega)

end TxControl

namespace Mtp2Link

variable {l : Mtp2Link} {params : PcrParams}

/-- Every operation of a PCR link keeps the buffer within the thresholds. -/
theorem backlog_step (hm : l.config.method = .Pcr params) (hl : l.tx.Loaded)
    (h : l.tx.Bounded params) (op : Op) : (l.step op).tx.Bounded params := by
  have hnew : (TxControl.new l.config.method).Bounded params := by
    rw [hm]
    exact TxControl.bounded_new params
  -- a submission only lengthens the queue
  exact tx_step (P := fun t : TxControl => t.Bounded params) op h hnew
    (fun _ _ _ _ => h.of_le rfl (Nat.le_refl _) (Nat.le_refl _)) (h.poll hl) h.onAck

theorem backlog_run {config : Mtp2Config} (hm : config.method = .Pcr params) (ops : List Op) :
    ((new config).run ops).tx.Bounded params := by
  induction ops using List.reverseRecOn with
  | nil =>
    show (TxControl.new config.method).Bounded params
    rw [hm]
    exact TxControl.bounded_new params
  | append_singleton ops op ih =>
    rw [run_snoc]
    exact backlog_step (by rw [run_config]; exact hm) (loaded_run config ops) ih op

/-- **PCR forced retransmission bounds the backlog.** Over any run the buffer holds at most `N1`
MSUs, and no octets if `N2` is zero and at most `N2 - 1` and those of one MSU otherwise; a poll
numbers a new MSU exactly when one is pending and both counts are below their thresholds, and else
leaves queue, number and buffer as they are; and with `N1` at most 127 the FSNs in the buffer are
distinct. -/
theorem backlog_bounded (config : Mtp2Config) (params : PcrParams)
    (hm : config.method = .Pcr params) (ops : List Op) :
    let t := ((new config).run ops).tx
    t.unacked.length ≤ params.n1 ∧
      (params.n2 = 0 → t.unackedOctets = 0) ∧
      (params.n2 ≠ 0 → t.unackedOctets ≤ params.n2 - 1 + 273) ∧
      (∀ tx : TxControl, tx.method = .Pcr params →
        (tx.NumbersNew ↔
          tx.pending ≠ [] ∧ tx.unacked.length < params.n1 ∧ tx.unackedOctets < params.n2) ∧
        (¬ tx.NumbersNew → tx.Holds)) ∧
      t.method = .Pcr params ∧
      (params.n1 ≤ 127 → (t.unacked.map BufferedMsu.fsn).Nodup) := by
  intro t
  have h : t.Bounded params := backlog_run hm ops
  have hoctets := h.octets_le
  refine ⟨h.length_le, fun hz => ?_, fun hz => ?_, fun tx hm' => TxControl.numbersNew_iff hm',
    h.method, h.nodup (loaded_run config ops)⟩
  · rw [if_pos hz] at hoctets
    exact Nat.le_zero.mp hoctets
  · rwa [if_neg hz] at hoctets

/-- `N2` of one octet still lets one MSU of three octets out. -/
theorem backlog_bounded_one_octet :
    let config : Mtp2Config := { method := .Pcr ⟨4, 1⟩, t4ProvingNormal := 1 }
    let t := ((new config).run [.start,
      .handleSu (.Lssu ⟨127, true, 127, true⟩ .OutOfAlignment false),
      .handleSu (.Lssu ⟨127, true, 127, true⟩ .NormalAlignment false), .tick,
      .handleSu (.Fisu ⟨127, true, 127, true⟩), .submitMsu 0x83 [1, 2], .submitMsu 0x83 [3, 4],
      .pollTransmit, .pollTransmit]).tx
    t.unackedOctets = 3 ∧ t.unackedOctets ≤ 1 - 1 + 273 := by
  intro config t
  exact ⟨by decide, (backlog_bounded config ⟨4, 1⟩ rfl _).2.2.1 (by decide)⟩

end Mtp2Link

end Mtp2
