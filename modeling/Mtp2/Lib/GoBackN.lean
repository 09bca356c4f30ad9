import Mtp2.Lib.SlidingWindow

/-!
# Go-back-N: retransmission rounds over a sliding window

The sliding window of `Mtp2.Lib.SlidingWindow` with a discipline for sending again. The
receiver that sees a gap asks once for a new *round* and ignores what it does not wait for
until it gets it; the sender, seeing a request it has not served yet, starts over at the
window's base. Frames and acknowledgements are tagged with the round they belong to.

* **`Inv`** — sender and receiver are at most one round apart, a round sends increasing
  positions, and no frame in flight is behind the receiver once it is calm. No frame is
  ever overtaken by the receiver (`Inv.recv_lt_hi`), so positions may be told apart modulo
  the window itself (`Inv.mod_eq_iff`);
* **`GivenUp`** — the rounds agree, the receiver lacks something, and nothing still to be sent,
  queued or in flight will bring it up to date or show it a gap. No operation but a submission
  or a loss leads out of this;
* **`Covered`** — the only operation that leads into it is a loss, and an awaited retransmission
  still comes. `Covered.complete` reads off what this says of a silent link.
-/

namespace GoBackN

open SlidingWindow (Frame Ack)

/-- A window, the next position to send, the rounds of the two sides, and whether the
receiver is waiting for a round it asked for. -/
structure State (α : Type*) extends SlidingWindow.State α ℕ where
  pos : ℕ
  sRound : ℕ
  rRound : ℕ
  nack : Bool

variable {α : Type*} {W : ℕ} {s s' : State α}

namespace State

def init : State α := ⟨.init, 0, 0, 0, false⟩

def submit (s : State α) (a : α) : State α := { s with toState := s.toState.submit a }

/-- Number a payload; no round is being served. -/
def number (s : State α) (a : α) (rest : List α) : State α :=
  { s with toState := s.toState.number a rest s.sRound, pos := s.pos + 1 }

/-- Send the next position of the round. -/
def resend (s : State α) (a : α) : State α :=
  { s with toState := s.toState.resend s.pos a s.sRound, pos := s.pos + 1 }

def fill (s : State α) : State α := { s with toState := s.toState.fill s.sRound }

/-- The head frame is the awaited one. -/
def accept (s : State α) : State α := { s with toState := s.toState.deliver, nack := false }

/-- The head frame shows a gap: ask for a new round. -/
def reject (s : State α) : State α :=
  { s with toState := s.toState.deliver, nack := true, rRound := s.rRound + 1 }

/-- The head frame changes nothing. -/
def ignore (s : State α) : State α := { s with toState := s.toState.deliver }

def loseData (s : State α) (i : ℕ) : State α := { s with toState := s.toState.loseData i }

def sendAck (s : State α) : State α := { s with toState := s.toState.sendAck s.rRound }

/-- An acknowledgement of the present round. -/
def takeAck (s : State α) (base pos : ℕ) : State α :=
  { s with toState := s.toState.takeAck base, pos := pos }

/-- An acknowledgement that asks for a new round: start over at the base. -/
def restart (s : State α) (base : ℕ) : State α :=
  { s with toState := s.toState.takeAck base, pos := base, sRound := s.sRound + 1 }

def loseAck (s : State α) (i : ℕ) : State α := { s with toState := s.toState.loseAck i }

end State

/-! ## The round invariant -/

structure Inv (W : ℕ) (s : State α) : Prop where
  window : SlidingWindow.Inv W s.toState
  pos_ge : s.base ≤ s.pos
  pos_le : s.pos ≤ s.sent.length
  round_le : s.sRound ≤ s.rRound
  round_near : s.rRound ≤ s.sRound + 1
  calm_round : s.nack = false → s.rRound = s.sRound
  calm_pos : s.nack = false → s.recv ≤ s.pos
  nack_lt : s.nack = true → s.recv < s.sent.length
  /-- A request not yet served: the gap it is about lies behind the sender. -/
  unserved_pos : s.sRound < s.rRound → s.recv < s.pos
  ack_tag : ∀ k ∈ s.acks, s.sRound ≤ k.tag ∧ k.tag ≤ s.rRound
  ack_tag_sorted : s.acks.Pairwise fun k k' => k.tag ≤ k'.tag
  data_tag : ∀ f ∈ s.data, f.tag ≤ s.sRound ∧ s.rRound ≤ f.tag + 1
  data_tag_sorted : s.data.Pairwise fun f f' => f.tag ≤ f'.tag
  /-- A round sends increasing positions. -/
  data_round : s.data.Pairwise fun f f' => f.tag = f'.tag →
    ∀ i j, f.position = some i → f'.position = some j → i < j
  data_pos : ∀ f ∈ s.data, f.tag = s.sRound → ∀ i, f.position = some i → i < s.pos
  /-- What is left of an abandoned round lies past the gap. -/
  stale : ∀ f ∈ s.data, f.tag < s.rRound → ∀ i, f.position = some i → s.recv < i
  fresh : s.nack = false → ∀ f ∈ s.data, f.tag = s.rRound ∧
    ∀ i, f.position = some i → s.recv ≤ i
  recv_lt_hi : ∀ f ∈ s.data, ∀ i, f.position = some i → s.recv < f.hi

theorem inv_init : Inv W (State.init : State α) := by
  constructor <;> simp [State.init, SlidingWindow.State.init]
  exact SlidingWindow.inv_init

namespace Inv

/-- The receiver recognises the awaited position modulo any `M ≥ W`: a round never brings a
position the receiver has left a whole window behind. -/
theorem mod_eq_iff (h : Inv W s) {M : ℕ} (hM : W ≤ M) {f : Frame α ℕ} (hf : f ∈ s.data) {i : ℕ}
    {a : α} (hb : f.body = some (i, a)) : i % M = s.recv % M ↔ i = s.recv := by
  obtain ⟨hlt, hW, -⟩ := h.window.data_body f hf i a hb
  have := (h.window.data_hi f hf).2
  have := h.recv_lt_hi f hf i (by rw [Frame.position, hb]; rfl)
  have := h.window.base_le
  have := h.window.window
  refine ⟨fun hmod => ?_, fun heq => by rw [heq]⟩
  refine Nat.ModEq.eq_of_abs_lt (m := M) hmod ?_
  rw [abs_lt]
  omega

/-! ## Sending -/

/-- A payload that waits belongs to no round yet. -/
theorem submit (h : Inv W s) (a : α) : Inv W (s.submit a) :=
  { h with window := h.window.submit a }

/-- A frame of the present round goes out: a fill-in, or the next position. -/
theorem push (h : Inv W s) {f : Frame α ℕ} (hwin : SlidingWindow.Inv W s'.toState)
    (hdata : s'.data = s.data ++ [f]) (hacks : s'.acks = s.acks) (hbase : s'.base = s.base)
    (hrecv : s'.recv = s.recv) (hs : s'.sRound = s.sRound) (hr : s'.rRound = s.rRound)
    (hn : s'.nack = s.nack) (hlen : s.sent.length ≤ s'.sent.length)
    (hpos : s.pos ≤ s'.pos ∧ s'.pos ≤ s'.sent.length) (htag : f.tag = s.sRound)
    (hf : ∀ i, f.position = some i → i = s.pos ∧ s.pos < s'.pos ∧ s.recv < f.hi) : Inv W s' where
  window := hwin
  pos_ge := by rw [hbase]; exact Nat.le_trans h.pos_ge hpos.1
  pos_le := hpos.2
  round_le := by rw [hs, hr]; exact h.round_le
  round_near := by rw [hs, hr]; exact h.round_near
  calm_round := by rw [hs, hr, hn]; exact h.calm_round
  calm_pos := fun hc => by rw [hrecv]; exact Nat.le_trans (h.calm_pos (hn ▸ hc)) hpos.1
  nack_lt := fun hc => by rw [hrecv]; exact Nat.lt_of_lt_of_le (h.nack_lt (hn ▸ hc)) hlen
  unserved_pos := by
    rw [hs, hr, hrecv]
    exact fun hlt => Nat.lt_of_lt_of_le (h.unserved_pos hlt) hpos.1
  ack_tag := by rw [hacks, hs, hr]; exact h.ack_tag
  ack_tag_sorted := by rw [hacks]; exact h.ack_tag_sorted
  data_tag := by
    rw [hdata, hs, hr]
    intro g hg
    rcases List.mem_append.mp hg with hg | hg
    · exact h.data_tag g hg
    · rw [List.mem_singleton.mp hg, htag]; exact ⟨Nat.le_refl _, h.round_near⟩
  data_tag_sorted := by
    -- the tags only grow, and the new frame has the largest
    rw [hdata, List.pairwise_append]
    refine ⟨h.data_tag_sorted, List.pairwise_singleton _ _, fun g hg g' hg' => ?_⟩
    rw [List.mem_singleton.mp hg', htag]
    exact (h.data_tag g hg).1
  data_round := by
    rw [hdata, List.pairwise_append]
    refine ⟨h.data_round, List.pairwise_singleton _ _, fun g hg g' hg' => ?_⟩
    rw [List.mem_singleton.mp hg', htag]
    -- within the round the new frame is the furthest
    intro hgt i j hi hj
    rw [(hf j hj).1]
    exact h.data_pos g hg hgt i hi
  data_pos := by
    rw [hdata, hs]
    intro g hg hgt i hi
    rcases List.mem_append.mp hg with hg | hg
    · exact Nat.lt_of_lt_of_le (h.data_pos g hg hgt i hi) hpos.1
    · rw [List.mem_singleton.mp hg] at hi
      rw [(hf i hi).1]
      exact (hf i hi).2.1
  stale := by
    rw [hdata, hr, hrecv]
    intro g hg hlt i hi
    rcases List.mem_append.mp hg with hg | hg
    · exact h.stale g hg hlt i hi
    · rw [List.mem_singleton.mp hg] at hi hlt
      rw [(hf i hi).1]
      -- the sender is past the gap of a request it has not served
      exact h.unserved_pos (htag ▸ hlt)
  fresh := by
    rw [hdata, hr, hrecv, hn]
    intro hc g hg
    rcases List.mem_append.mp hg with hg | hg
    · exact h.fresh hc g hg
    · rw [List.mem_singleton.mp hg, htag]
      -- a calm receiver is not ahead of the sender
      exact ⟨(h.calm_round hc).symm, fun i hi => by rw [(hf i hi).1]; exact h.calm_pos hc⟩
  recv_lt_hi := by
    rw [hdata, hrecv]
    intro g hg i hi
    rcases List.mem_append.mp hg with hg | hg
    · exact h.recv_lt_hi g hg i hi
    · rw [List.mem_singleton.mp hg] at hi ⊢
      exact (hf i hi).2.2

/-- A fill-in carries no position, so it says nothing of its round. -/
theorem fill (h : Inv W s) : Inv W s.fill :=
  h.push (h.window.fill s.sRound) rfl rfl rfl rfl rfl rfl rfl (Nat.le_refl _)
    ⟨Nat.le_refl _, h.pos_le⟩ rfl (by simp [Frame.position])

/-- A new payload goes out once the round has caught up with what was sent. -/
theorem number (h : Inv W s) (a : α) (rest : List α) (hpos : s.pos = s.sent.length)
    (hroom : s.sent.length < s.base + W) : Inv W (s.number a rest) := by
  have hlen : (s.number a rest).sent.length = s.sent.length + 1 := by
    simp [State.number, SlidingWindow.State.number]
  refine h.push (h.window.number a rest s.sRound hroom) rfl rfl rfl rfl rfl rfl rfl (by omega)
    ⟨Nat.le_succ _, ?_⟩ rfl fun i hi => ?_
  · show s.pos + 1 ≤ _
    omega
  · obtain rfl : s.sent.length = i := by simpa [Frame.position] using hi
    exact ⟨hpos.symm, Nat.lt_succ_self _, Nat.lt_succ_of_le h.window.recv_le⟩

/-- The next position of the round goes out. -/
theorem resend (h : Inv W s) {a : α} (ha : s.sent[s.pos]? = some a) : Inv W (s.resend a) := by
  have hlt : s.pos < s.sent.length := (List.getElem?_eq_some_iff.mp ha).1
  refine h.push (h.window.resend s.sRound h.pos_ge ha) rfl rfl rfl rfl rfl rfl rfl
    (Nat.le_refl _) ⟨Nat.le_succ _, hlt⟩ rfl fun i hi => ?_
  obtain rfl : s.pos = i := by simpa [Frame.position] using hi
  refine ⟨rfl, Nat.lt_succ_self _, ?_⟩
  show s.recv < s.sent.length
  cases hn : s.nack with
  | true => exact h.nack_lt hn
  | false => exact Nat.lt_of_le_of_lt (h.calm_pos hn) hlt

/-! ## Receiving -/

/-- Taking the head off the channel keeps what does not depend on the receiver's move. -/
theorem deliver_data {f : Frame α ℕ} {rest : List (Frame α ℕ)} (hd : s.data = f :: rest) :
    s.toState.deliver.data = rest := by
  simp [SlidingWindow.State.deliver, hd]

theorem deliver_recv {f : Frame α ℕ} {rest : List (Frame α ℕ)} (hd : s.data = f :: rest) :
    s.toState.deliver.recv = if f.position = some s.recv then s.recv + 1 else s.recv := by
  simp [SlidingWindow.State.deliver, hd]

theorem deliver_acks : s.toState.deliver.acks = s.acks := by
  unfold SlidingWindow.State.deliver; split <;> rfl

/-- The awaited frame belongs to the round both sides are in. -/
theorem tag_of_awaited (h : Inv W s) {f : Frame α ℕ} (hf : f ∈ s.data)
    (hp : f.position = some s.recv) : f.tag = s.rRound ∧ s.sRound = s.rRound := by
  have htag := h.data_tag f hf
  have hge : ¬ f.tag < s.rRound := fun hlt => Nat.lt_irrefl _ (h.stale f hf hlt s.recv hp)
  have := h.round_le
  omega

/-- The awaited frame ends the wait for a round, which both sides are in then. -/
theorem accept (h : Inv W s) {f : Frame α ℕ} {rest : List (Frame α ℕ)} (hd : s.data = f :: rest)
    (hp : f.position = some s.recv) : Inv W s.accept := by
  have hmem : ∀ g ∈ rest, g ∈ s.data := fun g hg => by rw [hd]; exact List.mem_cons_of_mem f hg
  have hfm : f ∈ s.data := by rw [hd]; exact List.mem_cons_self
  obtain ⟨hft, hround⟩ := h.tag_of_awaited hfm hp
  have hsort := h.data_tag_sorted
  have hinc := h.data_round
  rw [hd, List.pairwise_cons] at hsort hinc
  have hdata : s.accept.data = rest := deliver_data hd
  have hrecv : s.accept.recv = s.recv + 1 := by
    rw [State.accept, deliver_recv hd, if_pos hp]
  have hlen : s.accept.sent = s.sent := SlidingWindow.State.deliver_sent
  have hbase : s.accept.base = s.base := SlidingWindow.State.deliver_base
  have hacks : s.accept.acks = s.acks := deliver_acks
  -- what is behind the awaited frame belongs to the same round, so it lies further on
  have hrest : ∀ g ∈ rest, g.tag = s.rRound ∧ ∀ i, g.position = some i → s.recv + 1 ≤ i := by
    intro g hg
    have hge := hsort.1 g hg
    have hle := (h.data_tag g (hmem g hg)).1
    have hgt : g.tag = s.rRound := by omega
    exact ⟨hgt, fun i hi => hinc.1 g hg (hft.trans hgt.symm) _ i hp hi⟩
  exact {
    window := h.window.deliver
    pos_ge := by rw [hbase]; exact h.pos_ge
    pos_le := by rw [hlen]; exact h.pos_le
    round_le := h.round_le
    round_near := h.round_near
    calm_round := fun _ => hround.symm
    calm_pos := fun _ => by
      rw [hrecv]; exact h.data_pos f hfm (hft.trans hround.symm) s.recv hp
    nack_lt := fun hc => absurd hc Bool.false_ne_true
    unserved_pos := fun hlt => absurd hlt (by show ¬ s.sRound < s.rRound; omega)
    ack_tag := by rw [hacks]; exact h.ack_tag
    ack_tag_sorted := by rw [hacks]; exact h.ack_tag_sorted
    data_tag := by rw [hdata]; exact fun g hg => h.data_tag g (hmem g hg)
    data_tag_sorted := by rw [hdata]; exact hsort.2
    data_round := by rw [hdata]; exact hinc.2
    data_pos := by rw [hdata]; exact fun g hg => h.data_pos g (hmem g hg)
    stale := by
      rw [hdata]
      exact fun g hg hlt => absurd (show g.tag < s.rRound from hlt) (by rw [(hrest g hg).1]; omega)
    fresh := by
      rw [hdata, hrecv]
      exact fun _ g hg => hrest g hg
    recv_lt_hi := by
      rw [hdata, hrecv]
      intro g hg i hi
      -- a frame further on was sent when more had been numbered
      obtain ⟨⟨j, a⟩, hb, hj⟩ := Option.map_eq_some_iff.mp hi
      have := (h.window.data_body g (hmem g hg) j a hb).1
      have := (hrest g hg).2 i hi
      obtain rfl : j = i := hj
      omega }

/-- A frame that changes nothing leaves the other frames as they are. -/
theorem ignore (h : Inv W s) {f : Frame α ℕ} {rest : List (Frame α ℕ)} (hd : s.data = f :: rest)
    (hp : f.position ≠ some s.recv) : Inv W s.ignore := by
  have hmem : ∀ g ∈ rest, g ∈ s.data := fun g hg => by rw [hd]; exact List.mem_cons_of_mem f hg
  have hsort := h.data_tag_sorted
  have hinc := h.data_round
  rw [hd, List.pairwise_cons] at hsort hinc
  have hdata : s.ignore.data = rest := deliver_data hd
  have hrecv : s.ignore.recv = s.recv := by rw [State.ignore, deliver_recv hd, if_neg hp]
  have hlen : s.ignore.sent = s.sent := SlidingWindow.State.deliver_sent
  have hbase : s.ignore.base = s.base := SlidingWindow.State.deliver_base
  have hacks : s.ignore.acks = s.acks := deliver_acks
  -- neither side moves: every field is about fewer frames
  exact {
    window := h.window.deliver
    pos_ge := by rw [hbase]; exact h.pos_ge
    pos_le := by rw [hlen]; exact h.pos_le
    round_le := h.round_le
    round_near := h.round_near
    calm_round := h.calm_round
    calm_pos := by rw [hrecv]; exact h.calm_pos
    nack_lt := by rw [hrecv, hlen]; exact h.nack_lt
    unserved_pos := by rw [hrecv]; exact h.unserved_pos
    ack_tag := by rw [hacks]; exact h.ack_tag
    ack_tag_sorted := by rw [hacks]; exact h.ack_tag_sorted
    data_tag := by rw [hdata]; exact fun g hg => h.data_tag g (hmem g hg)
    data_tag_sorted := by rw [hdata]; exact hsort.2
    data_round := by rw [hdata]; exact hinc.2
    data_pos := by rw [hdata]; exact fun g hg => h.data_pos g (hmem g hg)
    stale := by rw [hdata, hrecv]; exact fun g hg => h.stale g (hmem g hg)
    fresh := by rw [hdata, hrecv]; exact fun hc g hg => h.fresh hc g (hmem g hg)
    recv_lt_hi := by rw [hdata, hrecv]; exact fun g hg => h.recv_lt_hi g (hmem g hg) }

/-- A calm receiver that sees a later position asks for a round. -/
theorem reject (h : Inv W s) {f : Frame α ℕ} {rest : List (Frame α ℕ)} (hd : s.data = f :: rest)
    (hcalm : s.nack = false) {i : ℕ} (hp : f.position = some i) (hi : s.recv < i) :
    Inv W s.reject := by
  have hfm : f ∈ s.data := by rw [hd]; exact List.mem_cons_self
  have hne : f.position ≠ some s.recv := by
    rw [hp]; exact fun heq => by rw [Option.some.injEq] at heq; omega
  have hi' := h.ignore hd hne
  have hround := h.calm_round hcalm
  obtain ⟨hft, -⟩ := h.fresh hcalm f hfm
  have hinc := h.data_round
  rw [hd, List.pairwise_cons] at hinc
  have hdata : s.ignore.data = rest := deliver_data hd
  have hrecv : s.ignore.recv = s.recv := by rw [State.ignore, deliver_recv hd, if_neg hne]
  have hlen : s.ignore.sent = s.sent := SlidingWindow.State.deliver_sent
  -- the frame belongs to the present round, so the gap lies behind the sender
  have hpos : i < s.pos := h.data_pos f hfm (hft.trans hround) i hp
  have htags : ∀ g ∈ rest, g.tag = s.rRound := fun g hg =>
    (h.fresh hcalm g (by rw [hd]; exact List.mem_cons_of_mem f hg)).1
  -- all that changes after `ignore` is the round the receiver asks for
  exact { hi' with
    round_le := Nat.le_succ_of_le h.round_le
    round_near := by show s.rRound + 1 ≤ s.sRound + 1; omega
    calm_round := fun hc => absurd hc.symm Bool.false_ne_true
    calm_pos := fun hc => absurd hc.symm Bool.false_ne_true
    nack_lt := fun _ => by
      show s.ignore.recv < s.ignore.sent.length
      rw [hrecv, hlen]
      exact Nat.lt_of_lt_of_le (Nat.lt_trans hi hpos) h.pos_le
    unserved_pos := fun _ => by
      show s.ignore.recv < s.pos
      rw [hrecv]
      exact Nat.lt_trans hi hpos
    ack_tag := fun k hk => ⟨(hi'.ack_tag k hk).1, Nat.le_succ_of_le (hi'.ack_tag k hk).2⟩
    data_tag := fun g hg => ⟨(hi'.data_tag g hg).1, by
      show s.rRound + 1 ≤ g.tag + 1
      rw [htags g (by rw [← hdata]; exact hg)]⟩
    stale := fun g hg _ j hj => by
      have hg' : g ∈ rest := by rw [← hdata]; exact hg
      show s.ignore.recv < j
      rw [hrecv]
      exact Nat.lt_trans hi (hinc.1 g hg' (hft.trans (htags g hg').symm) i j hp hj)
    fresh := fun hc => absurd hc.symm Bool.false_ne_true }

/-- The loss of a frame adds none. -/
theorem loseData (h : Inv W s) (i : ℕ) : Inv W (s.loseData i) := by
  have hmem : ∀ f ∈ (s.loseData i).data, f ∈ s.data := fun f hf => List.mem_of_mem_eraseIdx hf
  exact { h with
    window := h.window.loseData i
    data_tag := fun f hf => h.data_tag f (hmem f hf)
    data_tag_sorted := h.data_tag_sorted.eraseIdx i
    data_round := h.data_round.eraseIdx i
    data_pos := fun f hf => h.data_pos f (hmem f hf)
    stale := fun f hf => h.stale f (hmem f hf)
    fresh := fun hc f hf => h.fresh hc f (hmem f hf)
    recv_lt_hi := fun f hf => h.recv_lt_hi f (hmem f hf) }

/-! ## Acknowledging -/

/-- An acknowledgement sent now carries the latest round. -/
theorem sendAck (h : Inv W s) : Inv W s.sendAck := by
  refine { h with window := h.window.sendAck s.rRound, ack_tag := ?_, ack_tag_sorted := ?_ }
  · intro k hk
    rcases List.mem_append.mp hk with hk | hk
    · exact h.ack_tag k hk
    · rw [List.mem_singleton.mp hk]; exact ⟨h.round_le, Nat.le_refl _⟩
  · show (s.acks ++ [(⟨s.recv, s.rRound⟩ : Ack ℕ)]).Pairwise _
    rw [List.pairwise_append]
    refine ⟨h.ack_tag_sorted, List.pairwise_singleton _ _, fun k hk k' hk' => ?_⟩
    rw [List.mem_singleton.mp hk']
    exact (h.ack_tag k hk).2

/-- The loss of an acknowledgement adds none. -/
theorem loseAck (h : Inv W s) (i : ℕ) : Inv W (s.loseAck i) :=
  { h with
    window := h.window.loseAck i
    ack_tag := fun k hk => h.ack_tag k (List.mem_of_mem_eraseIdx hk)
    ack_tag_sorted := h.ack_tag_sorted.eraseIdx i }

section takeAck

variable {k : Ack ℕ} {rest : List (Ack ℕ)} {b p : ℕ}

/-- The acknowledgements behind the head are of its round or a later one. -/
theorem acks_tail (h : Inv W s) (hk : s.acks = k :: rest) :
    (∀ k' ∈ s.acks.tail, k' ∈ s.acks ∧ k.tag ≤ k'.tag) ∧
      s.acks.tail.Pairwise fun k k' => k.tag ≤ k'.tag := by
  have hsort := h.ack_tag_sorted
  rw [hk, List.pairwise_cons] at hsort
  rw [hk, List.tail_cons]
  exact ⟨fun k' hk' => ⟨List.mem_cons_of_mem k hk', hsort.1 k' hk'⟩, hsort.2⟩

/-- An acknowledgement of the present round may also move the sender on. -/
theorem takeAck (h : Inv W s) (hk : s.acks = k :: rest) (hb : s.base ≤ b) (hbk : b ≤ k.upto)
    (hbp : b ≤ p) (hp : s.pos ≤ p) (hlen : p ≤ s.sent.length) : Inv W (s.takeAck b p) := by
  obtain ⟨hmem, hsort⟩ := h.acks_tail hk
  exact { h with
    window := h.window.takeAck hk hb hbk
    pos_ge := hbp
    pos_le := hlen
    calm_pos := fun hc => Nat.le_trans (h.calm_pos hc) hp
    unserved_pos := fun hlt => Nat.lt_of_lt_of_le (h.unserved_pos hlt) hp
    ack_tag := fun k' hk' => h.ack_tag k' (hmem k' hk').1
    ack_tag_sorted := hsort
    data_pos := fun f hf hft i hi => Nat.lt_of_lt_of_le (h.data_pos f hf hft i hi) hp }

/-- A request for a new round is the only one, and the receiver waits for it. -/
theorem round_of_request (h : Inv W s) (hk : s.acks = k :: rest) (hne : k.tag ≠ s.sRound) :
    k.tag = s.sRound + 1 ∧ s.rRound = s.sRound + 1 ∧ s.nack = true := by
  have := h.ack_tag k (by rw [hk]; exact List.mem_cons_self)
  have := h.round_near
  refine ⟨by omega, by omega, ?_⟩
  cases hn : s.nack with
  | true => rfl
  | false =>
    have := h.calm_round hn
    omega

/-- Serving a request brings the sender to the round of the receiver. -/
theorem restart (h : Inv W s) (hk : s.acks = k :: rest) (hne : k.tag ≠ s.sRound)
    (hb : s.base ≤ b) (hbk : b ≤ k.upto) : Inv W (s.restart b) := by
  obtain ⟨hmem, hsort⟩ := h.acks_tail hk
  obtain ⟨hkt, hr, hn⟩ := h.round_of_request hk hne
  have hupto := (h.window.ack_mem k (by rw [hk]; exact List.mem_cons_self)).2
  have hcalm : ¬ s.nack = false := by rw [hn]; exact Bool.noConfusion
  -- the rounds agree again, and what is in flight is of an older one
  exact { h with
    window := h.window.takeAck hk hb hbk
    pos_ge := Nat.le_refl _
    pos_le := Nat.le_trans (Nat.le_trans hbk hupto) h.window.recv_le
    round_le := Nat.le_of_eq hr.symm
    round_near := by show s.rRound ≤ s.sRound + 1 + 1; omega
    calm_round := fun hc => absurd hc hcalm
    calm_pos := fun hc => absurd hc hcalm
    unserved_pos := fun hlt => absurd hlt (by show ¬ s.sRound + 1 < s.rRound; omega)
    ack_tag := fun k' hk' => by
      obtain ⟨hk'm, hle⟩ := hmem k' hk'
      exact ⟨by show s.sRound + 1 ≤ k'.tag; omega, (h.ack_tag k' hk'm).2⟩
    ack_tag_sorted := hsort
    data_tag := fun f hf => ⟨Nat.le_succ_of_le (h.data_tag f hf).1, (h.data_tag f hf).2⟩
    data_pos := fun f hf hft => absurd (h.data_tag f hf).1 (by
      rw [show f.tag = s.sRound + 1 from hft]; omega) }

end takeAck

end Inv

/-! ## What is given up -/

/-- Something in flight brings the receiver up to date or shows it a gap: a frame of its round
with the newest position, or with one past the awaited whose predecessor is missing. -/
def Shows (s : State α) : Prop :=
  ∃ f ∈ s.data, f.tag = s.rRound ∧ ∃ i, f.position = some i ∧
    (i + 1 = s.sent.length ∨
      s.recv < i ∧ ∀ f' ∈ s.data, f'.tag = s.rRound → f'.position ≠ some (i - 1))

/-- The receiver lacks something, and neither side will do anything about it. -/
structure GivenUp (s : State α) : Prop where
  round : s.sRound = s.rRound
  lacks : s.recv < s.sent.length
  done : s.pos = s.sent.length
  queue : s.queue = []
  unseen : ¬ Shows s

namespace GivenUp

/-- In flight are then only positions that follow one another from the awaited one. -/
theorem predecessor (h : GivenUp s) {f : Frame α ℕ} (hf : f ∈ s.data) (htag : f.tag = s.rRound)
    {i : ℕ} (hp : f.position = some i) (hi : s.recv < i) :
    ∃ f' ∈ s.data, f'.tag = s.rRound ∧ f'.position = some (i - 1) := by
  by_contra hno
  refine h.unseen ⟨f, hf, htag, i, hp, .inr ⟨hi, fun f' hf' htag' hp' => ?_⟩⟩
  exact hno ⟨f', hf', htag', hp'⟩

/-- So the head of the channel shows no gap. -/
theorem head_le (h : GivenUp s) (hinv : Inv W s) {f : Frame α ℕ} {rest : List (Frame α ℕ)}
    (hd : s.data = f :: rest) (htag : f.tag = s.rRound) {i : ℕ} (hp : f.position = some i) :
    i ≤ s.recv := by
  refine Nat.le_of_not_lt fun hlt => ?_
  obtain ⟨f', hf', htag', hp'⟩ := h.predecessor (by rw [hd]; exact List.mem_cons_self) htag hp hlt
  -- its predecessor would be in flight behind it, against the order of the round
  have hinc := hinv.data_round
  rw [hd, List.pairwise_cons] at hinc
  rw [hd] at hf'
  rcases List.mem_cons.mp hf' with rfl | hf'
  · rw [hp, Option.some.injEq] at hp'
    omega
  · have := hinc.1 f' hf' (htag.trans htag'.symm) i (i - 1) hp hp'
    omega

/-- A fill-in shows nothing. -/
theorem fill (h : GivenUp s) : GivenUp s.fill where
  round := h.round
  lacks := h.lacks
  done := h.done
  queue := h.queue
  unseen := by
    rintro ⟨f, hf, htag, i, hp, hor⟩
    rcases List.mem_append.mp hf with hf | hf
    · exact h.unseen ⟨f, hf, htag, i, hp, hor.imp_right fun ⟨hgt, hgap⟩ =>
        ⟨hgt, fun f' hf' => hgap f' (List.mem_append_left _ hf')⟩⟩
    · rw [List.mem_singleton.mp hf] at hp
      cases hp

/-- The receiver goes on by a position, and what it lacks now is still not shown. -/
theorem accept (h : GivenUp s) (hinv : Inv W s) {f : Frame α ℕ} {rest : List (Frame α ℕ)}
    (hd : s.data = f :: rest) (hp : f.position = some s.recv) : GivenUp s.accept := by
  have hdata : s.accept.data = rest := Inv.deliver_data hd
  have hrecv : s.accept.recv = s.recv + 1 := by
    rw [State.accept, Inv.deliver_recv hd, if_pos hp]
  have hlen : s.accept.sent = s.sent := SlidingWindow.State.deliver_sent
  have hfm : f ∈ s.data := by rw [hd]; exact List.mem_cons_self
  obtain ⟨htag, -⟩ := hinv.tag_of_awaited hfm hp
  -- had it been the newest, it would have been shown
  have hnewest : s.recv + 1 ≠ s.sent.length := fun heq =>
    h.unseen ⟨f, hfm, htag, s.recv, hp, .inl heq⟩
  refine ⟨h.round, ?_, ?_, ?_, ?_⟩
  · rw [hrecv, hlen]
    have := h.lacks
    omega
  · rw [hlen]; exact h.done
  · rw [State.accept, SlidingWindow.State.deliver_queue]; exact h.queue
  · rintro ⟨g, hg, hgt, i, hgi, hor⟩
    rw [hdata] at hg
    rw [hlen, hrecv, hdata] at hor
    refine h.unseen ⟨g, by rw [hd]; exact List.mem_cons_of_mem f hg, hgt, i, hgi,
      hor.imp_right fun ⟨hgt', hgap⟩ => ⟨by omega, fun f' hf' htag' => ?_⟩⟩
    rw [hd] at hf'
    rcases List.mem_cons.mp hf' with rfl | hf'
    · rw [hp, Ne, Option.some.injEq]
      omega
    · exact hgap f' hf' htag'

/-- What is left behind a frame that changes nothing showed nothing before. -/
theorem ignore (h : GivenUp s) (hinv : Inv W s) {f : Frame α ℕ} {rest : List (Frame α ℕ)}
    (hd : s.data = f :: rest) (hp : f.position ≠ some s.recv) : GivenUp s.ignore := by
  have hdata : s.ignore.data = rest := Inv.deliver_data hd
  have hrecv : s.ignore.recv = s.recv := by
    rw [State.ignore, Inv.deliver_recv hd, if_neg hp]
  have hlen : s.ignore.sent = s.sent := SlidingWindow.State.deliver_sent
  refine ⟨h.round, ?_, ?_, ?_, ?_⟩
  · rw [hrecv, hlen]; exact h.lacks
  · rw [hlen]; exact h.done
  · rw [State.ignore, SlidingWindow.State.deliver_queue]; exact h.queue
  · rintro ⟨g, hg, hgt, i, hgi, hor⟩
    rw [hdata] at hg
    rw [hlen, hrecv, hdata] at hor
    refine h.unseen ⟨g, by rw [hd]; exact List.mem_cons_of_mem f hg, hgt, i, hgi,
      hor.imp_right fun ⟨hgt', hgap⟩ => ⟨hgt', fun f' hf' htag' hp' => ?_⟩⟩
    rw [hd] at hf'
    rcases List.mem_cons.mp hf' with rfl | hf'
    · -- the head is neither the awaited position nor past it
      have hle := h.head_le hinv hd htag' hp'
      exact hp (by rw [hp']; congr 1; omega)
    · exact hgap f' hf' htag' hp'

end GivenUp

/-! ## Nothing else is -/

/-- What keeps the receiver from waiting for ever, once both sides are in the same round: a
direction is `exposed` exactly while something is given up. -/
structure Covered (exposed : Bool) (s : State α) : Prop where
  /-- While anything is missing, something to be sent, queued or in flight will tell. -/
  tail : exposed = false → s.sRound = s.rRound → s.recv < s.sent.length →
    s.pos < s.sent.length ∨ s.queue ≠ [] ∨ Shows s
  givenUp : exposed = true → GivenUp s
  /-- A receiver that has asked asks no more, so the position it waits for must come. -/
  awaited : s.sRound = s.rRound → s.nack = true →
    s.pos ≤ s.recv ∨ ∃ f ∈ s.data, f.tag = s.rRound ∧ f.position = some s.recv

theorem covered_init : Covered false (State.init : State α) :=
  ⟨fun _ _ h => absurd h (Nat.lt_irrefl 0), fun h => absurd h Bool.false_ne_true,
    fun _ h => absurd h Bool.false_ne_true⟩

namespace Covered

variable {e : Bool}

/-- **A silent link is up to date.** With nothing in flight, nothing left to send, nothing
queued and the rounds agreed, the receiver has everything. -/
theorem complete (h : Covered false s) (hi : Inv W s) (hround : s.sRound = s.rRound)
    (hpos : s.pos = s.sent.length) (hqueue : s.queue = []) (hdata : s.data = []) :
    s.recv = s.sent.length := by
  refine Nat.le_antisymm hi.window.recv_le (Nat.le_of_not_lt fun hlt => ?_)
  rcases h.tail rfl hround hlt with hp | hq | ⟨f, hf, -⟩
  · omega
  · exact hq hqueue
  · rw [hdata] at hf; cases hf

/-- Whatever was given up, a new payload will show it. -/
theorem submit (h : Covered e s) (a : α) : Covered false (s.submit a) where
  tail := fun _ _ _ => .inr (.inl (List.append_ne_nil_of_right_ne_nil _ (List.cons_ne_nil _ _)))
  givenUp := fun he => absurd he Bool.false_ne_true
  awaited := h.awaited

/-- A fill-in covers nothing and takes nothing away. -/
theorem fill (h : Covered e s) : Covered e s.fill where
  tail := fun he hround hlt => by
    rcases h.tail he hround hlt with hp | hq | ⟨f, hf, hft, i, hfi, hor⟩
    · exact .inl hp
    · exact .inr (.inl hq)
    · refine .inr (.inr ⟨f, List.mem_append_left _ hf, hft, i, hfi, hor.imp_right
        fun ⟨hgt, hgap⟩ => ⟨hgt, fun f' hf' => ?_⟩⟩)
      rcases List.mem_append.mp hf' with hf' | hf'
      · exact hgap f' hf'
      · rw [List.mem_singleton.mp hf']
        exact fun _ h => by cases h
  givenUp := fun he => (h.givenUp he).fill
  awaited := fun hround hn => by
    rcases h.awaited hround hn with hp | ⟨f, hf, hft⟩
    · exact .inl hp
    · exact .inr ⟨f, List.mem_append_left _ hf, hft⟩

/-- The newest position goes out, which shows whatever is missing. -/
theorem number (h : Covered e s) (hi : Inv W s) (a : α) (rest : List α)
    (hpos : s.pos = s.sent.length) (hqueue : s.queue ≠ []) : Covered e (s.number a rest) where
  tail := fun _ hround _ => .inr (.inr
    ⟨_, List.mem_append_right _ List.mem_cons_self, hround, s.sent.length, by
      simp [Frame.position], .inl (by simp [State.number, SlidingWindow.State.number])⟩)
  givenUp := fun he => absurd (h.givenUp he).queue hqueue
  awaited := fun hround hn => by
    rcases h.awaited hround hn with hp | ⟨f, hf, hft⟩
    · have := hi.nack_lt hn
      omega
    · exact .inr ⟨f, List.mem_append_left _ hf, hft⟩

/-- The last position of a round is the newest, so it shows what is missing. -/
theorem resend (h : Covered e s) {a : α} (ha : s.sent[s.pos]? = some a) :
    Covered e (s.resend a) := by
  have hlt : s.pos < s.sent.length := (List.getElem?_eq_some_iff.mp ha).1
  have hnew : ⟨some (s.pos, a), s.sent.length, s.sRound⟩ ∈ (s.resend a).data :=
    List.mem_append_right _ List.mem_cons_self
  refine ⟨fun _ hround _ => ?_, fun he => ?_, fun hround hn => ?_⟩
  · -- either more of the round is to come, or this was the newest position
    by_cases hlast : s.pos + 1 < s.sent.length
    · exact .inl hlast
    · refine .inr (.inr ⟨_, hnew, hround, s.pos, rfl, .inl ?_⟩)
      show s.pos + 1 = s.sent.length
      omega
  · exact absurd (h.givenUp he).done (Nat.ne_of_lt hlt)
  · rcases h.awaited hround hn with hp | ⟨f, hf, hft⟩
    · rcases Nat.lt_or_eq_of_le hp with hlt' | heq
      · exact .inl hlt'
      · exact .inr ⟨_, hnew, hround, congrArg some heq⟩
    · exact .inr ⟨f, List.mem_append_left _ hf, hft⟩

/-- Once the receiver moves, it waits for no round. -/
theorem accept (h : Covered e s) (hi : Inv W s) {f : Frame α ℕ} {rest : List (Frame α ℕ)}
    (hd : s.data = f :: rest) (hp : f.position = some s.recv) : Covered e s.accept := by
  have hdata : s.accept.data = rest := Inv.deliver_data hd
  have hrecv : s.accept.recv = s.recv + 1 := by
    rw [State.accept, Inv.deliver_recv hd, if_pos hp]
  have hlen : s.accept.sent = s.sent := SlidingWindow.State.deliver_sent
  have hqueue : s.accept.queue = s.queue := SlidingWindow.State.deliver_queue
  have hfm : f ∈ s.data := by rw [hd]; exact List.mem_cons_self
  obtain ⟨hft, -⟩ := hi.tag_of_awaited hfm hp
  -- what covered the gap before covers it now, unless it was the head
  refine ⟨fun he hround hlt => ?_, fun he => (h.givenUp he).accept hi hd hp,
    fun _ hn => absurd hn Bool.false_ne_true⟩
  rw [hrecv, hlen] at hlt
  rw [hlen, hqueue]
  rcases h.tail he hround (Nat.lt_of_succ_lt hlt) with hpos | hq | ⟨g, hg, hgt, i, hgi, hor⟩
  · exact .inl hpos
  · exact .inr (.inl hq)
  · -- the awaited frame is neither the newest nor does it show a gap
    have hne : i ≠ s.recv := by rcases hor with h | ⟨h, -⟩ <;> omega
    have hgr : g ∈ rest := by
      rw [hd] at hg
      rcases List.mem_cons.mp hg with rfl | hg
      · rw [hp, Option.some.injEq] at hgi; exact absurd hgi.symm hne
      · exact hg
    refine .inr (.inr ⟨g, by rw [hdata]; exact hgr, hgt, i, hgi, ?_⟩)
    rw [hlen, hdata, hrecv]
    refine hor.imp_right fun ⟨hgt', hgap⟩ => ⟨?_, fun f' hf' => hgap f' (by
      rw [hd]; exact List.mem_cons_of_mem f hf')⟩
    have : s.recv ≠ i - 1 := fun heq => hgap f hfm hft (heq ▸ hp)
    omega

/-- A head frame that changes nothing was not needed, unless a calm receiver overlooked it. -/
theorem ignore (h : Covered e s) (hi : Inv W s) {f : Frame α ℕ} {rest : List (Frame α ℕ)}
    (hd : s.data = f :: rest) (hp : f.position ≠ some s.recv)
    (hseen : s.nack = false → f.position = none) : Covered e s.ignore := by
  have hdata : s.ignore.data = rest := Inv.deliver_data hd
  have hrecv : s.ignore.recv = s.recv := by
    rw [State.ignore, Inv.deliver_recv hd, if_neg hp]
  have hlen : s.ignore.sent = s.sent := SlidingWindow.State.deliver_sent
  have hqueue : s.ignore.queue = s.queue := SlidingWindow.State.deliver_queue
  -- positions of a round arrive in order
  have hinc := hi.data_round
  rw [hd, List.pairwise_cons] at hinc
  refine ⟨fun he hround hlt => ?_, fun he => (h.givenUp he).ignore hi hd hp,
    fun hround hn => ?_⟩
  · rw [hrecv, hlen] at hlt
    rw [hlen, hqueue]
    rcases h.tail he hround hlt with hpos | hq | ⟨g, hg, hgt, i, hgi, hor⟩
    · exact .inl hpos
    · exact .inr (.inl hq)
    · rw [hd] at hg
      rcases List.mem_cons.mp hg with rfl | hg
      · -- what would have shown the gap went by: the awaited position cannot be behind it
        have hn : s.nack = true := by
          cases hn : s.nack with
          | true => rfl
          | false => rw [hseen hn] at hgi; cases hgi
        have hri : s.recv < i := by
          rcases hor with hlast | ⟨hgt', -⟩
          · have : i ≠ s.recv := fun heq => hp (heq ▸ hgi)
            omega
          · exact hgt'
        refine .inl ?_
        rcases h.awaited hround hn with hpos | ⟨f', hf', hft', hfp'⟩
        · exact Nat.lt_of_le_of_lt hpos hlt
        · rw [hd] at hf'
          rcases List.mem_cons.mp hf' with rfl | hf'
          · exact absurd hfp' hp
          · have := hinc.1 f' hf' (hgt.trans hft'.symm) _ _ hgi hfp'
            omega
      · refine .inr (.inr ⟨g, by rw [hdata]; exact hg, hgt, i, hgi, ?_⟩)
        rw [hlen, hdata, hrecv]
        exact hor.imp_right fun ⟨hgt', hgap⟩ => ⟨hgt', fun f' hf' => hgap f' (by
          rw [hd]; exact List.mem_cons_of_mem f hf')⟩
  · rw [hrecv, hdata]
    rcases h.awaited hround hn with hpos | ⟨g, hg, hgt, hgp⟩
    · exact .inl hpos
    · rw [hd] at hg
      rcases List.mem_cons.mp hg with rfl | hg
      · exact absurd hgp hp
      · exact .inr ⟨g, hg, hgt, hgp⟩

/-- After a request the rounds differ until the sender serves it. -/
theorem reject (h : Covered e s) (hi : Inv W s) {f : Frame α ℕ} {rest : List (Frame α ℕ)}
    (hd : s.data = f :: rest) (hcalm : s.nack = false) {i : ℕ} (hp : f.position = some i)
    (hgap : s.recv < i) : Covered e s.reject := by
  have hne : s.sRound ≠ s.rRound + 1 := by
    have := hi.round_le
    omega
  refine ⟨fun _ hround => absurd hround hne, fun he => ?_, fun hround => absurd hround hne⟩
  have htag := (hi.fresh hcalm f (by rw [hd]; exact List.mem_cons_self)).1
  exact absurd ((h.givenUp he).head_le hi hd htag hp) (Nat.not_le.mpr hgap)

/-- Acknowledgements are no part of what the receiver waits for. -/
theorem sendAck (h : Covered e s) : Covered e s.sendAck where
  tail := h.tail
  givenUp := fun he => { h.givenUp he with }
  awaited := h.awaited

theorem loseAck (h : Covered e s) (i : ℕ) : Covered e (s.loseAck i) where
  tail := h.tail
  givenUp := fun he => { h.givenUp he with }
  awaited := h.awaited

/-- An acknowledgement may move the sender past positions the receiver has, not past others. -/
theorem takeAck (h : Covered e s) {b p : ℕ} (hpp : s.pos ≤ p) (hp : s.pos = p ∨ p ≤ s.recv) :
    Covered e (s.takeAck b p) where
  tail := fun he hround hlt => by
    rcases h.tail he hround hlt with hpos | hq
    · refine .inl ?_
      rcases hp with rfl | hp
      · exact hpos
      · exact Nat.lt_of_le_of_lt hp hlt
    · exact .inr hq
  givenUp := fun he => by
    have hg := h.givenUp he
    have hpos : s.pos = p := hp.resolve_right fun hle => by
      have := hg.lacks
      have := hg.done
      omega
    exact { hg with done := hpos ▸ hg.done }
  awaited := fun hround hn => by
    rcases hp with rfl | hp
    · exact h.awaited hround hn
    · exact .inl hp

/-- A new round covers everything from the base on. -/
theorem restart (h : Covered e s) {b : ℕ} (hround : s.sRound ≠ s.rRound) (hb : b ≤ s.recv) :
    Covered e (s.restart b) :=
  ⟨fun _ _ hlt => .inl (Nat.lt_of_le_of_lt hb hlt), fun he => absurd (h.givenUp he).round hround,
    fun _ _ => .inl hb⟩

/-- A frame other than an awaited retransmission is lost. Whether the direction is exposed then
depends on what is left. -/
theorem loseData (h : Covered e s) {i : ℕ} {e' : Bool}
    (hloss : ∀ f, s.data[i]? = some f → s.nack = true → f.tag = s.rRound →
      f.position ≠ some s.recv)
    (htail : e' = false → s.sRound = s.rRound → s.recv < s.sent.length →
      s.pos < s.sent.length ∨ s.queue ≠ [] ∨ Shows (s.loseData i))
    (hgone : e' = true → GivenUp (s.loseData i)) : Covered e' (s.loseData i) where
  tail := htail
  givenUp := hgone
  awaited := fun hround hn => by
    rcases h.awaited hround hn with hp | ⟨f, hf, hft, hfp⟩
    · exact .inl hp
    · -- an awaited frame is not the one lost
      obtain ⟨j, hj⟩ := List.mem_iff_getElem?.mp hf
      have hji : j ≠ i := by
        rintro rfl
        exact hloss f hj hn hft hfp
      exact .inr ⟨f, List.mem_eraseIdx_iff_getElem?.mpr ⟨j, hji, hj⟩, hft, hfp⟩

end Covered

end GoBackN
