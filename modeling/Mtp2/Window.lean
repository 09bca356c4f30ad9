import Mtp2.Transmit
import Mtp2.Lib.SlidingWindow
import Mathlib.Data.List.InsertIdx

/-!
# MTP2 — one direction of a link as a sliding window

`TxControl`, `RxControl` and the two channels between them refine the sliding-window
protocol of `Mtp2.Lib.SlidingWindow`: the abstract window numbers MSUs without wrapping,
the code modulo 128. `WindowRel` ties the two; each operation of the code is an operation
of the window, as long as at most 128 MSUs are outstanding and the receiver can tell the
awaited position from the others in flight.

The relation is over the components, not over a system, so that a transmit and a receive
controller can be related wherever they sit. `bit` reads the indicator bit off a tag.
-/

namespace Mtp2

/-! ## Comparing sequence numbers of positions -/

/-- The next number is that of the position the receiver awaits. -/
theorem seqForward_eq_one_iff {i recv : ℕ} :
    seqForward (seqOf i) (seqOf (recv + 127)) = 1 ↔ i % 128 = recv % 128 := by
  rw [← UInt8.toNat_inj, seqForward_toNat, seqOf_toNat, seqOf_toNat,
    show (1 : UInt8).toNat = 1 from rfl]
  omega

/-- A BSN naming the position below `u` acknowledges position `i` within half a window. -/
theorem acknowledges_iff {u i : ℕ} :
    TxControl.acknowledges (seqOf (u + 127)) (seqOf i) = true
      ↔ ((u + 127) % 128 + 256 - i % 128) % 128 < 64 := by
  rw [TxControl.acknowledges, decide_eq_true_iff, toUInt16_lt_seqHalf, seqForward_toNat,
    seqOf_toNat, seqOf_toNat]

theorem numbered_cons (k : ℕ) (p : Payload) (ps : List Payload) :
    numbered k (p :: ps) = ⟨seqOf k, p.1, p.2⟩ :: numbered (k + 1) ps := by
  have := numbered_append k [p] ps
  rwa [numbered_singleton, List.length_singleton] at this

/-- Up to half a window from the head, the acknowledged prefix of the buffer is exact. -/
theorem takeWhile_acknowledges_near {u k : ℕ} {ps : List Payload} (hk : k ≤ u)
    (hu : u ≤ k + ps.length) (hnear : u ≤ k + 64) :
    ((numbered k ps).takeWhile fun m => TxControl.acknowledges (seqOf (u + 127)) m.fsn).length
      = u - k := by
  induction ps generalizing k with
  | nil =>
    rw [List.length_nil] at hu
    rw [numbered_nil, List.takeWhile_nil, List.length_nil]
    omega
  | cons p ps ih =>
    rw [numbered_cons]
    by_cases hlt : k < u
    · have hack : TxControl.acknowledges (seqOf (u + 127)) (seqOf k) = true := by
        rw [acknowledges_iff]; omega
      rw [List.length_cons] at hu
      simp only [List.takeWhile_cons, hack, if_true, List.length_cons]
      rw [ih (by omega) (by omega) (by omega)]
      omega
    · have hack : ¬ TxControl.acknowledges (seqOf (u + 127)) (seqOf k) = true := by
        rw [acknowledges_iff]; omega
      simp only [List.takeWhile_cons, hack, if_false, List.length_nil, Bool.false_eq_true]
      omega

/-- Past half a window the head itself is taken for unacknowledged, and nothing is freed. -/
theorem takeWhile_acknowledges_far {u k : ℕ} {ps : List Payload} (hfar : k + 64 < u)
    (hu : u ≤ k + 128) :
    ((numbered k ps).takeWhile fun m => TxControl.acknowledges (seqOf (u + 127)) m.fsn) = [] := by
  cases ps with
  | nil => rfl
  | cons p ps =>
    rw [numbered_cons]
    refine List.takeWhile_cons_of_neg ?_
    rw [acknowledges_iff]
    omega

namespace TxControl

/-- How many MSUs an acknowledgement of everything below position `u` frees. -/
theorem Tracks.freedBy_length {t : TxControl} {sent : List Payload} {base u : ℕ}
    (h : t.Tracks sent base) (hwin : sent.length ≤ base + 128) (hb : base ≤ u)
    (hu : u ≤ sent.length) :
    (t.freedBy (seqOf (u + 127))).length = if u ≤ base + 64 then u - base else 0 := by
  rw [freedBy, h.unacked]
  split
  · next hnear =>
    exact takeWhile_acknowledges_near hb (by rw [List.length_drop]; omega) hnear
  · next hfar =>
    rw [takeWhile_acknowledges_far (by omega) (by omega), List.length_nil]

end TxControl

/-! ## The receive side -/

/-- The payload an outcome delivers to MTP3, if any. -/
def RxOutcome.delivered : RxOutcome → List Payload
  | .Accepted sio sif => [(sio, sif)]
  | _ => []

namespace RxControl

variable {r : RxControl} {recv i : ℕ} {sio : UInt8} {sif : List UInt8}

/-- The awaited MSU is accepted, and a pending request is over. -/
theorem onMsu_awaited (sio : UInt8) (sif : List UInt8) (h : r.lastReceived = seqOf (recv + 127))
    (hi : i % 128 = recv % 128) :
    r.onMsu (seqOf i) sio sif
      = (.Accepted sio sif, { r with lastReceived := seqOf i, nackPending := false }) := by
  rw [onMsu, h, if_pos (seqForward_eq_one_iff.mpr hi)]

/-- An MSU that is not the awaited one delivers nothing and leaves the BSN alone. -/
theorem onMsu_other (sio : UInt8) (sif : List UInt8) (h : r.lastReceived = seqOf (recv + 127))
    (hi : i % 128 ≠ recv % 128) :
    (r.onMsu (seqOf i) sio sif).1.delivered = [] ∧
      (r.onMsu (seqOf i) sio sif).2.lastReceived = r.lastReceived := by
  have hne : seqForward (seqOf i) r.lastReceived ≠ 1 := by
    rw [h]; exact mt seqForward_eq_one_iff.mp hi
  rw [onMsu, if_neg hne]
  dsimp only
  split
  · split <;> exact ⟨rfl, rfl⟩
  · exact ⟨rfl, rfl⟩

/-- Under the Basic method an MSU that is not accepted toggles the BIB exactly when it shows
a gap and no request is pending. -/
theorem onMsu_basic (sio : UInt8) (sif : List UInt8) {fsn : UInt8} (hm : r.method = .Basic)
    (hne : seqForward fsn r.lastReceived ≠ 1) :
    (r.onMsu fsn sio sif).2
      = if (seqForward fsn r.lastReceived).toUInt16 < seqHalf ∧ r.nackPending = false
        then { r with bib := !r.bib, nackPending := true } else r := by
  rw [onMsu, if_neg hne, hm]
  by_cases hgap : (seqForward fsn r.lastReceived).toUInt16 < seqHalf <;>
    cases hn : r.nackPending <;> simp [hgap]

end RxControl

/-- The gap test on positions: the sequence numbers tell a position less than half a window
ahead from the rest. -/
theorem gap_iff {i recv : ℕ} :
    (seqForward (seqOf i) (seqOf (recv + 127))).toUInt16 < seqHalf
      ↔ (i % 128 + 256 - (recv + 127) % 128) % 128 < 64 := by
  rw [toUInt16_lt_seqHalf, seqForward_toNat, seqOf_toNat, seqOf_toNat]

/-! ## The refinement relation -/

section WindowRel

open SlidingWindow

variable {τ : Type*} (bit : τ → Bool)

/-- The frame of the code that an abstract frame stands for. -/
def frameOf (f : Frame Payload τ) : TxFrame :=
  match f.body with
  | some (i, p) => ⟨seqOf i, bit f.tag, .Msu p.1 p.2⟩
  | none => ⟨seqOf (f.hi + 127), bit f.tag, .Fisu⟩

/-- The backward fields that an abstract acknowledgement stands for. -/
def ackOf (k : Ack τ) : UInt8 × Bool := (seqOf (k.upto + 127), bit k.tag)

/-- The transmit side, the receive side and the channels between them, as a window. -/
structure WindowRel (tx : TxControl) (rx : RxControl) (data : List TxFrame)
    (acks : List (UInt8 × Bool)) (w : State Payload τ) : Prop where
  tracks : tx.Tracks w.sent w.base
  queue : tx.pending = w.queue
  awaits : rx.lastReceived = seqOf (w.recv + 127)
  data_eq : data = w.data.map (frameOf bit)
  acks_eq : acks = w.acks.map (ackOf bit)

variable {bit} {tx tx' : TxControl} {rx : RxControl} {data rest : List TxFrame}
  {acks ackRest : List (UInt8 × Bool)} {w : State Payload τ} {W : ℕ}

theorem windowRel_init (method : RetransmissionMethod) :
    WindowRel bit (.new method) (.new method) [] [] State.init :=
  ⟨TxControl.tracks_new method, rfl, rfl, rfl, rfl⟩

namespace WindowRel

/-- A submission only lengthens the queue. -/
theorem submit (h : WindowRel bit tx rx data acks w) (sio : UInt8) (sif : List UInt8) :
    WindowRel bit (tx.submit sio sif) rx data acks (w.submit (sio, sif)) where
  tracks := h.tracks.of_fields rfl rfl
  queue := by rw [TxControl.submit, h.queue, State.submit]
  awaits := h.awaits
  data_eq := h.data_eq
  acks_eq := h.acks_eq

/-- A frame goes out and the transmit side moves nothing but its cursors. -/
theorem push (h : WindowRel bit tx rx data acks w) (f : Frame Payload τ)
    (ht : tx'.Tracks w.sent w.base) (hq : tx'.pending = tx.pending) :
    WindowRel bit tx' rx (data ++ [frameOf bit f]) acks { w with data := w.data ++ [f] } where
  tracks := ht
  queue := hq.trans h.queue
  awaits := h.awaits
  data_eq := by rw [h.data_eq, List.map_append, List.map_singleton]
  acks_eq := h.acks_eq

/-- A pending MSU is numbered and goes out for the first time. -/
theorem number (h : WindowRel bit tx rx data acks w) {sio : UInt8} {sif : List UInt8}
    {ps : List Payload} (tag : τ) (ht : tx'.Tracks (w.sent ++ [(sio, sif)]) w.base)
    (hq : tx'.pending = ps) :
    WindowRel bit tx' rx (data ++ [⟨seqOf w.sent.length, bit tag, .Msu sio sif⟩]) acks
      (w.number (sio, sif) ps tag) where
  tracks := ht
  queue := hq
  awaits := h.awaits
  data_eq := by rw [h.data_eq, State.number, List.map_append, List.map_singleton]; rfl
  acks_eq := h.acks_eq

/-- The frame of the code at the head of the channel, and the abstract frame behind it. -/
theorem data_cons (h : WindowRel bit tx rx data acks w) {f : TxFrame} (hd : data = f :: rest) :
    ∃ g grest, w.data = g :: grest ∧ f = frameOf bit g ∧ rest = grest.map (frameOf bit) := by
  rw [h.data_eq] at hd
  obtain ⟨g, grest, hg, hf, hr⟩ := List.map_eq_cons_iff.mp hd
  exact ⟨g, grest, hg, hf.symm, hr.symm⟩

/-- The oldest acknowledgement, on both levels. -/
theorem acks_cons (h : WindowRel bit tx rx data acks w) {k : UInt8 × Bool}
    (hd : acks = k :: ackRest) :
    ∃ g grest, w.acks = g :: grest ∧ k = ackOf bit g ∧ ackRest = grest.map (ackOf bit) := by
  rw [h.acks_eq] at hd
  obtain ⟨g, grest, hg, hf, hr⟩ := List.map_eq_cons_iff.mp hd
  exact ⟨g, grest, hg, hf.symm, hr.symm⟩

/-- A delivered fill-in moves nothing. -/
theorem deliver_fill (h : WindowRel bit tx rx data acks w) {f : TxFrame} (hd : data = f :: rest)
    (hf : f.body = .Fisu) : WindowRel bit tx rx rest acks w.deliver ∧ w.deliver.recv = w.recv := by
  obtain ⟨g, grest, hg, rfl, rfl⟩ := h.data_cons hd
  have hbody : g.body = none := by
    cases hb : g.body with
    | none => rfl
    | some b => simp [frameOf, hb] at hf
  have hdel : w.deliver = { w with data := grest } := by
    simp [State.deliver, hg, Frame.position, hbody]
  rw [hdel]
  exact ⟨⟨h.tracks, h.queue, h.awaits, rfl, h.acks_eq⟩, rfl⟩

/-- A delivered MSU: as long as the awaited position is told apart modulo 128, the code
accepts exactly that position, and delivers its payload. -/
theorem deliver_msu (h : WindowRel bit tx rx data acks w) (hw : Inv W w)
    (hmod : ∀ g ∈ w.data, ∀ i p, g.body = some (i, p) → (i % 128 = w.recv % 128 ↔ i = w.recv))
    {f : TxFrame} (hd : data = f :: rest) {sio : UInt8} {sif : List UInt8}
    (hf : f.body = .Msu sio sif) :
    WindowRel bit tx (rx.onMsu f.fsn sio sif).2 rest acks w.deliver ∧
      w.sent.take w.deliver.recv
        = w.sent.take w.recv ++ (rx.onMsu f.fsn sio sif).1.delivered := by
  obtain ⟨g, grest, hg, rfl, rfl⟩ := h.data_cons hd
  cases hb : g.body with
  | none => simp [frameOf, hb] at hf
  | some b =>
    obtain ⟨i, p⟩ := b
    have hmem : g ∈ w.data := by rw [hg]; exact List.mem_cons_self
    have hfsn : (frameOf bit g).fsn = seqOf i := by simp [frameOf, hb]
    obtain ⟨rfl, rfl⟩ : p.1 = sio ∧ p.2 = sif := by simpa [frameOf, hb] using hf
    have hmod := hmod g hmem i p hb
    rw [hfsn]
    by_cases hi : i = w.recv
    · -- the awaited position: accepted, and the next one is awaited
      have hacc := RxControl.onMsu_awaited p.1 p.2 h.awaits (hmod.mpr hi)
      have hdel : w.deliver = { w with data := grest, recv := w.recv + 1 } := by
        simp [State.deliver, hg, Frame.position, hb, hi]
      rw [hacc, hdel]
      refine ⟨⟨h.tracks, h.queue, ?_, rfl, h.acks_eq⟩, ?_⟩
      · show seqOf i = seqOf (w.recv + 1 + 127)
        rw [hi, Nat.add_assoc, seqOf_add_modulus w.recv]
      · have hget := (hw.data_body g hmem i p hb).2.2
        rw [hi] at hget
        rw [List.take_add_one, hget]
        rfl
    · -- any other, whether behind or ahead
      obtain ⟨hdeliv, hlast⟩ :=
        RxControl.onMsu_other p.1 p.2 h.awaits (mt hmod.mp hi)
      have hdel : w.deliver = { w with data := grest } := by
        simp [State.deliver, hg, Frame.position, hb, hi]
      rw [hdel, hdeliv, List.append_nil]
      exact ⟨⟨h.tracks, h.queue, hlast.trans h.awaits, rfl, h.acks_eq⟩, rfl⟩

theorem loseData (h : WindowRel bit tx rx data acks w) (i : ℕ) :
    WindowRel bit tx rx (data.eraseIdx i) acks (w.loseData i) :=
  ⟨h.tracks, h.queue, h.awaits, by rw [h.data_eq, List.eraseIdx_map, State.loseData], h.acks_eq⟩

/-- The receiver reports the position before the one it awaits. -/
theorem sendAck (h : WindowRel bit tx rx data acks w) (tag : τ) (ht : bit tag = rx.bib) :
    WindowRel bit tx rx data (acks ++ [(rx.bsn, rx.bib)]) (w.sendAck tag) where
  tracks := h.tracks
  queue := h.queue
  awaits := h.awaits
  data_eq := h.data_eq
  acks_eq := by
    rw [h.acks_eq, State.sendAck, List.map_append, List.map_singleton, ackOf, ht, RxControl.bsn,
      h.awaits]

theorem loseAck (h : WindowRel bit tx rx data acks w) (i : ℕ) :
    WindowRel bit tx rx data (acks.eraseIdx i) (w.loseAck i) :=
  ⟨h.tracks, h.queue, h.awaits, h.data_eq, by rw [h.acks_eq, List.eraseIdx_map, State.loseAck]⟩

/-- An acknowledgement frees no more than what it says has arrived. -/
theorem freed_le (h : WindowRel bit tx rx data acks w) (hw : Inv W w) (hW : W ≤ 128)
    {k : Ack τ} (hk : k ∈ w.acks) {bsn : UInt8} {bib : Bool} (hkeq : (bsn, bib) = ackOf bit k) :
    w.base + (tx.freedBy bsn).length ≤ k.upto := by
  obtain ⟨hlo, hhi⟩ := hw.ack_mem k hk
  have hwin := hw.window
  have hrecv := hw.recv_le
  have hbsn : bsn = seqOf (k.upto + 127) := congrArg Prod.fst hkeq
  rw [hbsn, h.tracks.freedBy_length (by omega) hlo (by omega)]
  split <;> omega

/-- An acknowledgement moves the base up to what it says, or not at all. -/
theorem takeAck (h : WindowRel bit tx rx data acks w) (hw : Inv W w) (hW : W ≤ 128)
    {bsn : UInt8} {bib : Bool} (hd : acks = (bsn, bib) :: ackRest) :
    ∃ b, b = w.base + (tx.freedBy bsn).length ∧ Inv W (w.takeAck b) ∧
      WindowRel bit (tx.onAck bsn bib) rx data ackRest (w.takeAck b) := by
  obtain ⟨k, krest, hk, hkeq, rfl⟩ := h.acks_cons hd
  have hmem : k ∈ w.acks := by rw [hk]; exact List.mem_cons_self
  have hfreed := h.freed_le hw hW hmem hkeq
  refine ⟨_, rfl, hw.takeAck hk (Nat.le_add_right _ _) hfreed, ?_⟩
  exact ⟨h.tracks.onAck bsn bib, (TxControl.onAck_pending tx bsn bib).trans h.queue, h.awaits,
    h.data_eq, by rw [State.takeAck, hk, List.tail_cons]⟩

end WindowRel

end WindowRel

end Mtp2
