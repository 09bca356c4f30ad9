import Mathlib.Data.Nat.ModEq
import Mathlib.Logic.Relation

/-!
# A sliding-window protocol over lossy in-order channels

One direction of a reliable link, in its own terms. The sender numbers payloads
`0, 1, 2, …` without ever wrapping, keeps the unacknowledged window `[base, sent.length)`,
and may send any position of the window again at any time. The receiver takes exactly the
position it waits for. Frames and acknowledgements travel through two in-order channels
that may lose an element anywhere but not reorder, duplicate or alter one.

Frames and acknowledgements carry a tag of an arbitrary type; the window rules ignore it.
`hi` is a ghost of the frame: how many payloads were numbered when it was sent. It orders
the frames in flight, which bounds how far behind the receiver an old copy can be
(`Inv.near_of_head`): within a window of `W`, positions are told apart modulo any `M > W`.
-/

namespace SlidingWindow

/-- A frame in flight; a fill-in carries no payload. -/
structure Frame (α τ : Type*) where
  body : Option (ℕ × α)
  hi : ℕ
  tag : τ

/-- A cumulative acknowledgement in flight: everything below `upto` has arrived. -/
structure Ack (τ : Type*) where
  upto : ℕ
  tag : τ

/-- The position a frame carries. -/
def Frame.position {α τ : Type*} (f : Frame α τ) : Option ℕ := f.body.map Prod.fst

/-- Sender, receiver and the two channels. -/
structure State (α τ : Type*) where
  sent : List α
  queue : List α
  base : ℕ
  recv : ℕ
  data : List (Frame α τ)
  acks : List (Ack τ)

variable {α τ : Type*} {W : ℕ} {s : State α τ}

namespace State

def init : State α τ := ⟨[], [], 0, 0, [], []⟩

def submit (s : State α τ) (a : α) : State α τ := { s with queue := s.queue ++ [a] }

/-- Number a payload and send it for the first time. -/
def number (s : State α τ) (a : α) (rest : List α) (tag : τ) : State α τ :=
  { s with
    sent := s.sent ++ [a]
    queue := rest
    data := s.data ++ [⟨some (s.sent.length, a), s.sent.length + 1, tag⟩] }

/-- Send a position of the window again. -/
def resend (s : State α τ) (i : ℕ) (a : α) (tag : τ) : State α τ :=
  { s with data := s.data ++ [⟨some (i, a), s.sent.length, tag⟩] }

def fill (s : State α τ) (tag : τ) : State α τ :=
  { s with data := s.data ++ [⟨none, s.sent.length, tag⟩] }

/-- The receiver takes the oldest frame and moves on if it carries the awaited position. -/
def deliver (s : State α τ) : State α τ :=
  match s.data with
  | [] => s
  | f :: rest =>
    { s with data := rest, recv := if f.position = some s.recv then s.recv + 1 else s.recv }

def loseData (s : State α τ) (i : ℕ) : State α τ := { s with data := s.data.eraseIdx i }

def sendAck (s : State α τ) (tag : τ) : State α τ := { s with acks := s.acks ++ [⟨s.recv, tag⟩] }

/-- The sender takes the oldest acknowledgement and moves its window to `base`. -/
def takeAck (s : State α τ) (base : ℕ) : State α τ := { s with base := base, acks := s.acks.tail }

def loseAck (s : State α τ) (i : ℕ) : State α τ := { s with acks := s.acks.eraseIdx i }

@[simp] theorem deliver_sent : s.deliver.sent = s.sent := by unfold deliver; split <;> rfl
@[simp] theorem deliver_queue : s.deliver.queue = s.queue := by unfold deliver; split <;> rfl
@[simp] theorem deliver_base : s.deliver.base = s.base := by unfold deliver; split <;> rfl

end State

/-- The window invariant: at most `W` positions outstanding, and every frame and
acknowledgement in flight within reach of both sides. -/
structure Inv (W : ℕ) (s : State α τ) : Prop where
  base_le : s.base ≤ s.recv
  recv_le : s.recv ≤ s.sent.length
  window : s.sent.length ≤ s.base + W
  ack_mem : ∀ k ∈ s.acks, s.base ≤ k.upto ∧ k.upto ≤ s.recv
  ack_sorted : s.acks.Pairwise fun k k' => k.upto ≤ k'.upto
  data_hi : ∀ f ∈ s.data, s.recv ≤ f.hi ∧ f.hi ≤ s.sent.length
  data_sorted : s.data.Pairwise fun f f' => f.hi ≤ f'.hi
  data_body : ∀ f ∈ s.data, ∀ i a, f.body = some (i, a) →
    i < f.hi ∧ f.hi ≤ i + W ∧ s.sent[i]? = some a

theorem inv_init : Inv W (State.init : State α τ) := by
  constructor <;> simp [State.init]

namespace Inv

/-! ## What the invariant says of the head frame -/

/-- The head frame's position is within `W` of the position the receiver waits for. -/
theorem near_of_head (h : Inv W s) {f : Frame α τ} (hf : f ∈ s.data) {i : ℕ} {a : α}
    (hb : f.body = some (i, a)) : i < s.recv + W ∧ s.recv ≤ i + W ∧ i < s.sent.length := by
  obtain ⟨hlt, hW, -⟩ := h.data_body f hf i a hb
  have := h.data_hi f hf
  have := h.base_le
  have := h.window
  omega

/-- Modulo any `M > W` the receiver recognises the position it waits for. -/
theorem mod_eq_iff (h : Inv W s) {M : ℕ} (hM : W < M) {f : Frame α τ} (hf : f ∈ s.data) {i : ℕ}
    {a : α} (hb : f.body = some (i, a)) : i % M = s.recv % M ↔ i = s.recv := by
  obtain ⟨h1, h2, -⟩ := h.near_of_head hf hb
  refine ⟨fun hmod => ?_, fun heq => by rw [heq]⟩
  -- congruent positions less than `M` apart are equal
  refine Nat.ModEq.eq_of_abs_lt (m := M) hmod ?_
  rw [abs_lt]
  omega

/-! ## Preservation, one lemma an operation -/

/-- Submitting touches neither the window nor a channel. -/
theorem submit (h : Inv W s) (a : α) : Inv W (s.submit a) :=
  ⟨h.base_le, h.recv_le, h.window, h.ack_mem, h.ack_sorted, h.data_hi, h.data_sorted, h.data_body⟩

/-- Appending a frame sent now keeps the channel facts. -/
theorem push (h : Inv W s) (f : Frame α τ) (hhi : f.hi = s.sent.length)
    (hbody : ∀ i a, f.body = some (i, a) → s.base ≤ i ∧ i < s.sent.length ∧ s.sent[i]? = some a) :
    Inv W { s with data := s.data ++ [f] } where
  base_le := h.base_le
  recv_le := h.recv_le
  window := h.window
  ack_mem := h.ack_mem
  ack_sorted := h.ack_sorted
  data_hi := by
    intro g hg
    rcases List.mem_append.mp hg with hg | hg
    · exact h.data_hi g hg
    · rw [List.mem_singleton.mp hg, hhi]; exact ⟨h.recv_le, Nat.le_refl _⟩
  data_sorted := by
    rw [List.pairwise_append]
    refine ⟨h.data_sorted, List.pairwise_singleton _ _, fun g hg g' hg' => ?_⟩
    rw [List.mem_singleton.mp hg', hhi]
    exact (h.data_hi g hg).2
  data_body := by
    intro g hg i a hb
    rcases List.mem_append.mp hg with hg | hg
    · exact h.data_body g hg i a hb
    · rw [List.mem_singleton.mp hg] at hb ⊢
      obtain ⟨h1, h2, h3⟩ := hbody i a hb
      have := h.window
      exact ⟨by omega, by omega, h3⟩

/-- A position of the window goes out again. -/
theorem resend (h : Inv W s) {i : ℕ} {a : α} (tag : τ) (hi : s.base ≤ i)
    (ha : s.sent[i]? = some a) : Inv W (s.resend i a tag) := by
  refine h.push _ rfl fun j b hb => ?_
  cases hb
  exact ⟨hi, (List.getElem?_eq_some_iff.mp ha).1, ha⟩

/-- A fill-in carries no position at all. -/
theorem fill (h : Inv W s) (tag : τ) : Inv W (s.fill tag) :=
  h.push _ rfl (by simp)

/-- Numbering one more payload, as long as the window has room. -/
theorem number (h : Inv W s) (a : α) (rest : List α) (tag : τ)
    (hroom : s.sent.length < s.base + W) : Inv W (s.number a rest tag) := by
  -- first the log grows, then the frame goes out
  have hgrow : Inv W { s with sent := s.sent ++ [a], queue := rest } := {
    base_le := h.base_le
    recv_le := by simpa using Nat.le_succ_of_le h.recv_le
    window := by simpa using Nat.succ_le_of_lt hroom
    ack_mem := h.ack_mem
    ack_sorted := h.ack_sorted
    data_hi := fun f hf => ⟨(h.data_hi f hf).1, by
      simpa using Nat.le_succ_of_le (h.data_hi f hf).2⟩
    data_sorted := h.data_sorted
    data_body := fun f hf i b hb => by
      obtain ⟨h1, h2, h3⟩ := h.data_body f hf i b hb
      exact ⟨h1, h2, by rw [List.getElem?_append_left (List.getElem?_eq_some_iff.mp h3).1, h3]⟩ }
  refine hgrow.push ⟨some (s.sent.length, a), s.sent.length + 1, tag⟩ (by simp) fun i b hb => ?_
  cases hb
  have := h.base_le
  have := h.recv_le
  exact ⟨by show s.base ≤ s.sent.length; omega, by simp, by simp⟩

/-- The receiver moves no further than the head frame has seen. -/
theorem deliver (h : Inv W s) : Inv W s.deliver := by
  unfold State.deliver
  split
  · exact h
  · next f rest hdata =>
    have hmem : ∀ g ∈ rest, g ∈ s.data := fun g hg => by rw [hdata]; exact List.mem_cons_of_mem f hg
    have hsort := h.data_sorted
    rw [hdata, List.pairwise_cons] at hsort
    have hf := h.data_hi f (by rw [hdata]; exact List.mem_cons_self)
    -- the receiver moves only to the position after the frame's own, at most its `hi`
    have hrecv : ∀ r, r = (if f.position = some s.recv then s.recv + 1 else s.recv) →
        s.recv ≤ r ∧ r ≤ f.hi := by
      rintro r rfl
      split
      · next hpos =>
        obtain ⟨⟨i, a⟩, hb, rfl⟩ := Option.map_eq_some_iff.mp hpos
        have := (h.data_body f (by rw [hdata]; exact List.mem_cons_self) _ a hb).1
        exact ⟨by omega, this⟩
      · exact ⟨Nat.le_refl _, hf.1⟩
    obtain ⟨hle, hhi⟩ := hrecv _ rfl
    exact {
      base_le := Nat.le_trans h.base_le hle
      recv_le := Nat.le_trans hhi hf.2
      window := h.window
      ack_mem := fun k hk => ⟨(h.ack_mem k hk).1, Nat.le_trans (h.ack_mem k hk).2 hle⟩
      ack_sorted := h.ack_sorted
      data_hi := fun g hg => ⟨Nat.le_trans hhi (hsort.1 g hg), (h.data_hi g (hmem g hg)).2⟩
      data_sorted := hsort.2
      data_body := fun g hg => h.data_body g (hmem g hg) }

theorem loseData (h : Inv W s) (i : ℕ) : Inv W (s.loseData i) :=
  ⟨h.base_le, h.recv_le, h.window, h.ack_mem, h.ack_sorted,
    fun f hf => h.data_hi f (List.mem_of_mem_eraseIdx hf),
    h.data_sorted.eraseIdx i, fun f hf => h.data_body f (List.mem_of_mem_eraseIdx hf)⟩

/-- An acknowledgement sent now says more than those before it. -/
theorem sendAck (h : Inv W s) (tag : τ) : Inv W (s.sendAck tag) := by
  refine ⟨h.base_le, h.recv_le, h.window, fun k hk => ?_, ?_, h.data_hi, h.data_sorted, h.data_body⟩
  · rcases List.mem_append.mp hk with hk | hk
    · exact h.ack_mem k hk
    · rw [List.mem_singleton.mp hk]; exact ⟨h.base_le, Nat.le_refl _⟩
  · show (s.acks ++ [(⟨s.recv, tag⟩ : Ack τ)]).Pairwise _
    rw [List.pairwise_append]
    refine ⟨h.ack_sorted, List.pairwise_singleton _ _, fun k hk k' hk' => ?_⟩
    rw [List.mem_singleton.mp hk']
    exact (h.ack_mem k hk).2

/-- The window may move up to what the oldest acknowledgement says. -/
theorem takeAck (h : Inv W s) {k : Ack τ} {rest : List (Ack τ)} (hk : s.acks = k :: rest) {b : ℕ}
    (hb : s.base ≤ b) (hbk : b ≤ k.upto) : Inv W (s.takeAck b) := by
  have hsort := h.ack_sorted
  rw [hk, List.pairwise_cons] at hsort
  have hkm := h.ack_mem k (by rw [hk]; exact List.mem_cons_self)
  have hmem : ∀ k' ∈ s.acks.tail, k' ∈ rest := fun k' hk' => by simpa [hk] using hk'
  refine ⟨Nat.le_trans hbk hkm.2, h.recv_le,
    Nat.le_trans h.window (Nat.add_le_add_right hb W), fun k' hk' => ?_,
    by simpa [State.takeAck, hk] using hsort.2, h.data_hi, h.data_sorted, h.data_body⟩
  have hr := hmem k' hk'
  exact ⟨Nat.le_trans hbk (hsort.1 k' hr),
    (h.ack_mem k' (by rw [hk]; exact List.mem_cons_of_mem k hr)).2⟩

theorem loseAck (h : Inv W s) (i : ℕ) : Inv W (s.loseAck i) :=
  ⟨h.base_le, h.recv_le, h.window, fun k hk => h.ack_mem k (List.mem_of_mem_eraseIdx hk),
    h.ack_sorted.eraseIdx i, h.data_hi, h.data_sorted, h.data_body⟩

end Inv

/-! ## The protocol as a relation -/

/-- One step, by either side or by a channel. The sender makes nothing of an acknowledgement more
than `near` positions past its base. -/
inductive Step (W near : ℕ) (s : State α τ) : State α τ → Prop where
  | submit (a : α) : Step W near s (s.submit a)
  | number {a : α} {rest : List α} (tag : τ) (hq : s.queue = a :: rest)
      (hroom : s.sent.length < s.base + W) : Step W near s (s.number a rest tag)
  | resend {i : ℕ} {a : α} (tag : τ) (hi : s.base ≤ i) (ha : s.sent[i]? = some a) :
      Step W near s (s.resend i a tag)
  | fill (tag : τ) : Step W near s (s.fill tag)
  | deliver : Step W near s s.deliver
  | loseData (i : ℕ) : Step W near s (s.loseData i)
  | sendAck (tag : τ) : Step W near s (s.sendAck tag)
  | loseAck (i : ℕ) : Step W near s (s.loseAck i)
  | takeAck {k : Ack τ} {rest : List (Ack τ)} (hk : s.acks = k :: rest) :
      Step W near s (s.takeAck (if k.upto ≤ s.base + near then k.upto else s.base))

variable {near : ℕ} {s' : State α τ}

/-- **Every step keeps the window.** -/
theorem Step.inv (h : Step W near s s') (hs : Inv W s) : Inv W s' := by
  cases h with
  | submit a => exact hs.submit a
  | number tag hq hroom => exact hs.number _ _ tag hroom
  | resend tag hi ha => exact hs.resend tag hi ha
  | fill tag => exact hs.fill tag
  | deliver => exact hs.deliver
  | loseData i => exact hs.loseData i
  | sendAck tag => exact hs.sendAck tag
  | loseAck i => exact hs.loseAck i
  | @takeAck k rest hk =>
    have := (hs.ack_mem k (by rw [hk]; exact List.mem_cons_self)).1
    refine hs.takeAck hk ?_ ?_ <;> split <;> omega

/-- What was numbered stays numbered. -/
theorem Step.sent_prefix (h : Step W near s s') : s.sent <+: s'.sent := by
  cases h with
  | number tag hq hroom => exact List.prefix_append _ _
  | deliver => exact ⟨[], by rw [List.append_nil, State.deliver_sent]⟩
  | submit | resend | fill | loseData | sendAck | loseAck | takeAck => exact List.prefix_refl _

/-- The receiver does not go back. -/
theorem State.deliver_recv (s : State α τ) : s.recv ≤ s.deliver.recv := by
  unfold State.deliver
  split
  · exact Nat.le_refl _
  · dsimp only
    split <;> omega

/-- The receiver is out of the sender's sight: more than `near` past the base, and so is every
acknowledgement in flight. -/
structure Stalled (near : ℕ) (s : State α τ) : Prop where
  recv : s.base + near < s.recv
  acks : ∀ k ∈ s.acks, s.base + near < k.upto

/-- **Out of sight, the base never moves again.** -/
theorem Step.stalled (h : Step W near s s') (hs : Stalled near s) :
    Stalled near s' ∧ s'.base = s.base := by
  cases h with
  | submit | number | resend | fill | loseData => exact ⟨⟨hs.recv, hs.acks⟩, rfl⟩
  | deliver =>
    have := s.deliver_recv
    have := hs.recv
    have hacks : s.deliver.acks = s.acks := by unfold State.deliver; split <;> rfl
    refine ⟨⟨?_, ?_⟩, State.deliver_base⟩
    · rw [State.deliver_base]
      omega
    · rw [State.deliver_base, hacks]
      exact hs.acks
  | sendAck tag =>
    refine ⟨⟨hs.recv, fun k hk => ?_⟩, rfl⟩
    rcases List.mem_append.mp hk with hk | hk
    · exact hs.acks k hk
    · rw [List.mem_singleton.mp hk]
      exact hs.recv
  | loseAck i => exact ⟨⟨hs.recv, fun k hk => hs.acks k (List.mem_of_mem_eraseIdx hk)⟩, rfl⟩
  | @takeAck k rest hk =>
    -- the acknowledgement at the head says too much to be believed
    have hfar := hs.acks k (by rw [hk]; exact List.mem_cons_self)
    rw [if_neg (Nat.not_le.mpr hfar)]
    exact ⟨⟨hs.recv, fun k' hk' => hs.acks k' (List.mem_of_mem_tail hk')⟩, rfl⟩

/-- Any number of steps. -/
abbrev Steps (W near : ℕ) : State α τ → State α τ → Prop := Relation.ReflTransGen (Step W near)

theorem Steps.sent_prefix (h : Steps W near s s') : s.sent <+: s'.sent := by
  induction h with
  | refl => exact List.prefix_refl _
  | tail _ hstep ih => exact ih.trans hstep.sent_prefix

/-- A stalled sender stays so, with its base where it is. -/
theorem Steps.stalled (h : Steps W near s s') (hs : Stalled near s) :
    Stalled near s' ∧ s'.base = s.base := by
  induction h with
  | refl => exact ⟨hs, rfl⟩
  | tail _ hstep ih =>
    obtain ⟨hs', hbase⟩ := hstep.stalled ih.1
    exact ⟨hs', hbase.trans ih.2⟩

end SlidingWindow
