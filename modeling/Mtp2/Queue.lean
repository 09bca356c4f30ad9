import Mtp2.Undisturbed

/-!
# MTP2 — the queue of accepted MSUs

`submit_msu` accepts MSUs in every state, and what it accepts waits in the pending queue until
it is sent for the first time. Every operation keeps the queue except `start`, which rebuilds
the transmit control and forgets what was waiting.

* **`queued_step`** — one operation moves MSUs into the queue and out of it in order;
* **`accepted_iff`** — nothing accepted is dropped exactly when every effective start finds the
  queue empty.
-/

namespace Mtp2

/-- The SIO and SIF of an MSU. -/
def SignalUnit.payload : SignalUnit → List Payload
  | .Msu _ sio sif => [(sio, sif)]
  | _ => []

namespace Mtp2Link

variable {l : Mtp2Link}

/-- The MSU an operation submits, if `submit_msu` returns Ok. -/
def accepts (l : Mtp2Link) : Op → List Payload
  | .submitMsu sio sif => if (l.submitMsu sio sif).1 = .ok () then [(sio, sif)] else []
  | _ => []

/-- The MSU an operation sends for the first time: one that `poll_transmit` returns and that is
not read from the retransmission buffer. -/
def sendsFirst (l : Mtp2Link) : Op → List Payload
  | .pollTransmit =>
    if l.tx.pollIndex = none then l.pollTransmit.1.toList.flatMap SignalUnit.payload else []
  | _ => []

/-- The operation is no start that takes effect over MSUs still waiting. -/
def KeepsQueue (l : Mtp2Link) (op : Op) : Prop :=
  op = .start → l.state = .OutOfService → l.tx.pending = []

instance (l : Mtp2Link) (op : Op) : Decidable (l.KeepsQueue op) := by
  unfold KeepsQueue; infer_instance

/-- A poll that does not reach the transmit control sends no MSU. -/
theorem sendsFirst_of_not_polls (h : l.polls = false) : l.sendsFirst .pollTransmit = [] := by
  rw [sendsFirst]
  split
  · rcases l.pollTransmit_unit with ⟨hnone, -⟩ | ⟨hp, -⟩ | ⟨-, ⟨status, hlssu⟩ | ⟨-, hfisu⟩⟩
    · rw [hnone]; rfl
    · rw [h] at hp; cases hp
    · rw [hlssu]; rfl
    · rw [hfisu]; rfl
  · rfl

/-- A new MSU of the transmit control goes out as it is. -/
theorem frameUnit_payload (l : Mtp2Link) {fsn : UInt8} {fib : Bool} {sio : UInt8}
    {sif : List UInt8} (hfit : Fits (sio, sif)) :
    (l.frameUnit ⟨fsn, fib, .Msu sio sif⟩).payload = [(sio, sif)] := by
  rw [l.frameUnit_msu hfit]
  rfl

/-- A poll of the transmit control sends the MSU it takes off the queue, and no other for the
first time. -/
theorem sendsFirst_of_polls (h : l.polls = true) (hfit : ∀ p ∈ l.tx.pending, Fits p) :
    l.sendsFirst .pollTransmit ++ l.tx.poll.2.pending = l.tx.pending := by
  have hunit : l.pollTransmit.1 = some (l.frameUnit l.tx.poll.1) := by
    rcases l.pollTransmit_unit with ⟨-, ho⟩ | ⟨-, hframe⟩ | ⟨hp, -⟩
    · rw [polls, ho] at h
      cases h
    · exact hframe
    · rw [h] at hp; cases hp
  have hpolled := l.tx.polled
  have hnew {fsn : UInt8} {fib : Bool} {sio : UInt8} {sif : List UInt8} {rest : List Payload}
      (hp : l.tx.pending = (sio, sif) :: rest) :
      (some (l.frameUnit ⟨fsn, fib, .Msu sio sif⟩)).toList.flatMap SignalUnit.payload ++ rest =
        l.tx.pending := by
    have hunit : (l.frameUnit ⟨fsn, fib, .Msu sio sif⟩).payload = [(sio, sif)] :=
      l.frameUnit_payload (hfit (sio, sif) (by rw [hp]; exact List.mem_cons_self))
    rw [hp, Option.toList_some, List.flatMap_singleton, hunit]
    rfl
  unfold sendsFirst
  rw [hunit]
  generalize l.tx.pollIndex = o, l.tx.poll = r at hpolled ⊢
  cases hpolled with
  -- only a fresh MSU comes from the queue; what is sent again was counted before
  | basicFresh _ _ hp | pcrFresh _ _ hp => rw [if_pos rfl]; exact hnew hp
  | basicAgain _ _ _ | pcrAgain _ _ _ => rw [if_neg (by simp)]; rfl
  | basicFill _ _ _ | pcrFill _ _ _ => rw [if_pos rfl]; rfl

/-- **One operation moves MSUs into the queue and out of it in order**, unless it is a start over
MSUs still waiting. -/
theorem queued_step (hfit : ∀ p ∈ l.tx.pending, Fits p) {op : Op} (hop : l.KeepsQueue op) :
    l.sendsFirst op ++ (l.step op).tx.pending = l.tx.pending ++ l.accepts op := by
  have ht := l.step_transmits op
  generalize (l.step op).tx = t at ht ⊢
  cases ht with
  -- a start drops the queue, which is empty then
  | started hs => rw [hop rfl hs]; rfl
  | polled hp =>
    rw [sendsFirst_of_polls hp hfit]
    exact (List.append_nil _).symm
  | acknowledged _ _ =>
    rw [TxControl.onAck_pending]
    exact (List.append_nil _).symm
  | @submitted sio sif =>
    rcases l.submitMsu_cases sio sif with ⟨-, heq⟩ | ⟨e, heq⟩
    · rw [accepts, heq]; rfl
    · rw [accepts, heq, if_neg (by simp), List.append_nil]; rfl
  | kept hpoll hsub _ =>
    have hsent : l.sendsFirst op = [] := by
      cases op with
      | pollTransmit => exact sendsFirst_of_not_polls (hpoll rfl)
      | _ => rfl
    have hacc : l.accepts op = [] := by
      cases op with
      | submitMsu sio sif => exact absurd rfl (hsub sio sif)
      | _ => rfl
    rw [hsent, hacc, List.append_nil, List.nil_append]

/-- What waits fits, after every operation. -/
theorem fits_step (hfit : ∀ p ∈ l.tx.pending, Fits p) (op : Op) :
    ∀ p ∈ (l.step op).tx.pending, Fits p := by
  refine tx_step (P := fun t : TxControl => ∀ p ∈ t.pending, Fits p) op hfit
    (by simp [TxControl.new]) (fun sio sif _ hf p hmem => ?_) (fun p hmem => ?_) fun bsn bib => ?_
  · rcases List.mem_append.mp hmem with hmem | hmem
    · exact hfit p hmem
    · rw [List.mem_singleton.mp hmem]; exact hf
  · exact hfit p (l.tx.poll_pending_suffix.subset hmem)
  · rw [TxControl.onAck_pending]
    exact hfit

end Mtp2Link

/-! ## Runs -/

/-- A link with the MSUs it has accepted and those it has sent for the first time, both since
creation. -/
structure Ledger where
  link : Mtp2Link
  accepted : List Payload
  sent : List Payload

namespace Ledger

def new (config : Mtp2Config) : Ledger := ⟨.new config, [], []⟩

def step (s : Ledger) (op : Op) : Ledger where
  link := s.link.step op
  accepted := s.accepted ++ s.link.accepts op
  sent := s.sent ++ s.link.sendsFirst op

/-- What was accepted has been sent or waits. -/
def Balanced (s : Ledger) : Prop := s.accepted = s.sent ++ s.link.tx.pending

instance (s : Ledger) : Decidable s.Balanced := inferInstanceAs (Decidable (_ = _))

/-- What waits fits, and no more has been sent or waits than was accepted. -/
structure Sound (s : Ledger) : Prop where
  fits : ∀ p ∈ s.link.tx.pending, Fits p
  length_le : s.sent.length + s.link.tx.pending.length ≤ s.accepted.length

variable {s : Ledger} {op : Op}

/-- The ledger after an operation that keeps the queue. -/
theorem step_kept (h : s.Sound) (hop : s.link.KeepsQueue op) :
    (s.step op).sent ++ (s.step op).link.tx.pending =
      s.sent ++ s.link.tx.pending ++ s.link.accepts op := by
  rw [step, List.append_assoc, Mtp2Link.queued_step h.fits hop, List.append_assoc]

/-- A start over waiting MSUs sends and accepts nothing, and empties the queue. -/
theorem step_lost (hop : ¬ s.link.KeepsQueue op) :
    s.link.tx.pending ≠ [] ∧ (s.step op).link.tx.pending = [] ∧ (s.step op).sent = s.sent ∧
      (s.step op).accepted = s.accepted := by
  simp only [Mtp2Link.KeepsQueue, Classical.not_imp] at hop
  obtain ⟨rfl, hs, hne⟩ := hop
  refine ⟨hne, ?_, List.append_nil _, List.append_nil _⟩
  show s.link.start.tx.pending = []
  rw [Mtp2Link.start, if_neg (not_not_intro hs)]
  rfl

/-- A ledger stays sound, whether the operation keeps the queue or a start empties it. -/
theorem Sound.step (h : s.Sound) (op : Op) : (s.step op).Sound := by
  refine ⟨Mtp2Link.fits_step h.fits op, ?_⟩
  by_cases hop : s.link.KeepsQueue op
  · have := congrArg List.length (step_kept h hop)
    rw [List.length_append, List.length_append, List.length_append] at this
    rw [this, Ledger.step, List.length_append]
    have := h.length_le
    omega
  · obtain ⟨-, hq, hsent, hacc⟩ := step_lost hop
    rw [hq, hsent, hacc, List.length_nil]
    have := h.length_le
    omega

/-- **An operation keeps the balance exactly when it keeps the queue**, and nothing restores
it. -/
theorem balanced_step (h : s.Sound) :
    (s.step op).Balanced ↔ s.Balanced ∧ s.link.KeepsQueue op := by
  by_cases hop : s.link.KeepsQueue op
  · rw [Balanced, step_kept h hop, and_iff_left hop]
    exact List.append_left_inj _
  · obtain ⟨hne, hq, hsent, hacc⟩ := step_lost hop
    have hpos := List.length_pos_iff.mpr hne
    refine ⟨fun hb => ?_, fun hb => absurd hb.2 hop⟩
    have := congrArg List.length hb
    rw [hacc, hsent, hq, List.append_nil] at this
    have := h.length_le
    omega

/-- **Nothing accepted is dropped before it is sent exactly when every effective start finds the
queue empty.** -/
theorem accepted_iff (config : Mtp2Config) (ops : List Op) :
    (ops.foldl step (new config)).Balanced ↔
      Run.Along step (fun s op => s.link.KeepsQueue op) (new config) ops := by
  have hnew : (new config).Sound := ⟨fun _ hp => absurd hp List.not_mem_nil, Nat.le_refl 0⟩
  have hsound (ops : List Op) : (ops.foldl step (new config)).Sound :=
    Run.invariant Sound (fun _ op h => h.step op) hnew ops
  induction ops using List.reverseRecOn with
  | nil => exact ⟨fun _ => trivial, fun _ => rfl⟩
  | append_singleton ops op ih =>
    rw [List.foldl_append, Run.Along.append_iff]
    exact (balanced_step (hsound ops)).trans (and_congr ih (and_iff_left trivial).symm)

/-- An MSU submitted before the link is started is gone when service begins. -/
theorem start_drops :
    ¬ ∀ (config : Mtp2Config) (ops : List Op), (ops.foldl step (new config)).Balanced := by
  intro h
  have := h {} [.submitMsu 0x83 [1], .start]
  revert this
  decide

end Ledger

end Mtp2
