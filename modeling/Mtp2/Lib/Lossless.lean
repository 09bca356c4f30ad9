import Mtp2.Lib.SlidingWindow

/-!
# A sliding window that loses no payload

As long as no frame with a payload is lost, the payloads in flight are the ones numbered from the
awaited position on, in order. The receiver takes each as it comes, so the size of the window does
not matter, and nothing needs to be sent again.

* **`Intact`** — the payloads in flight;
* **`Intact.deliver`** — the head of them is the awaited one;
* **`Inv.number_grows`** — a window that grows with the buffer.
-/

namespace SlidingWindow

variable {α τ : Type*} {W W' : ℕ} {s : State α τ}

/-! ## A window that grows -/

/-- A smaller window is kept by a larger one. -/
theorem Inv.mono (h : Inv W s) (hW : W ≤ W') : Inv W' s :=
  ⟨h.base_le, h.recv_le, Nat.le_trans h.window (Nat.add_le_add_left hW _), h.ack_mem, h.ack_sorted,
    h.data_hi, h.data_sorted, fun f hf i a hb => by
      obtain ⟨hlt, hle, hget⟩ := h.data_body f hf i a hb
      exact ⟨hlt, Nat.le_trans hle (Nat.add_le_add_left hW _), hget⟩⟩

/-- With one place more there is room for one payload more. -/
theorem Inv.number_grows (h : Inv W s) (a : α) (rest : List α) (tag : τ) :
    Inv (W + 1) (s.number a rest tag) :=
  (h.mono (Nat.le_succ W)).number a rest tag (Nat.lt_succ_of_le h.window)

/-! ## The payloads in flight -/

/-- The payloads in flight, oldest first. -/
def State.inFlight (s : State α τ) : List α := s.data.filterMap fun f => f.body.map Prod.snd

/-- The frames in flight carry what was numbered from the awaited position on. -/
structure Intact (s : State α τ) : Prop where
  recv_le : s.recv ≤ s.sent.length
  flight : s.data.filterMap Frame.body = (s.sent.zipIdx.drop s.recv).map Prod.swap

theorem intact_init : Intact (State.init : State α τ) := ⟨Nat.le_refl 0, rfl⟩

namespace Intact

/-- **Nothing is missing**: what arrived, then what is in flight, is what was numbered. -/
theorem sent (h : Intact s) : s.sent.take s.recv ++ s.inFlight = s.sent := by
  have hflight : s.inFlight = (s.data.filterMap Frame.body).map Prod.snd :=
    (List.map_filterMap ..).symm
  rw [hflight, h.flight, List.map_map,
    show Prod.snd ∘ Prod.swap = (Prod.fst : α × ℕ → α) from rfl, List.map_drop,
    List.zipIdx_map_fst, List.take_append_drop]

theorem submit (h : Intact s) (a : α) : Intact (s.submit a) := ⟨h.recv_le, h.flight⟩

theorem fill (h : Intact s) (tag : τ) : Intact (s.fill tag) :=
  ⟨h.recv_le, by rw [State.fill, List.filterMap_append, h.flight]; exact List.append_nil _⟩

/-- A payload numbered now lies past everything in flight. -/
theorem number (h : Intact s) (a : α) (rest : List α) (tag : τ) :
    Intact (s.number a rest tag) := by
  refine ⟨by rw [State.number, List.length_append]; exact Nat.le_add_right_of_le h.recv_le, ?_⟩
  have hle : s.recv ≤ s.sent.zipIdx.length := by rw [List.length_zipIdx]; exact h.recv_le
  rw [State.number, List.filterMap_append, h.flight, List.zipIdx_append,
    List.drop_append_of_le_length hle, List.map_append, Nat.zero_add]
  rfl

/-- **The payload that arrives first is the awaited one.** -/
theorem deliver {f : Frame α τ} {rest : List (Frame α τ)} (h : Intact s) (hd : s.data = f :: rest) :
    Intact s.deliver ∧ ∀ i a, f.body = some (i, a) → i = s.recv ∧ s.sent[i]? = some a := by
  have hflight := h.flight
  rw [hd] at hflight
  cases hb : f.body with
  | none =>
    rw [List.filterMap_cons_none hb] at hflight
    have hdel : s.deliver = { s with data := rest } := by
      simp [State.deliver, hd, Frame.position, hb]
    rw [hdel]
    exact ⟨⟨h.recv_le, hflight⟩, by simp⟩
  | some b =>
    obtain ⟨i, a⟩ := b
    rw [List.filterMap_cons_some hb] at hflight
    -- something is numbered from the awaited position on, so that position is
    have hlt : s.recv < s.sent.zipIdx.length := by
      refine Nat.lt_of_not_le fun hge => ?_
      rw [List.drop_eq_nil_of_le hge] at hflight
      cases hflight
    rw [List.drop_eq_getElem_cons hlt, List.map_cons, List.getElem_zipIdx, Nat.zero_add] at hflight
    obtain ⟨hhead, htail⟩ := List.cons_eq_cons.mp hflight
    cases hhead
    rw [List.length_zipIdx] at hlt
    have hdel : s.deliver = { s with data := rest, recv := s.recv + 1 } := by
      simp [State.deliver, hd, Frame.position, hb]
    rw [hdel]
    refine ⟨⟨hlt, htail⟩, fun j b hj => ?_⟩
    cases hj
    exact ⟨rfl, List.getElem?_eq_getElem hlt⟩

/-- Losing a frame without a payload. -/
theorem loseData (h : Intact s) {i : ℕ} (hi : ∀ f ∈ s.data[i]?, f.body = none) :
    Intact (s.loseData i) := by
  refine ⟨h.recv_le, ?_⟩
  rw [State.loseData, ← show _ = _ from h.flight]
  rcases Nat.lt_or_ge i s.data.length with hlt | hge
  · have hnone := hi s.data[i] (List.getElem?_eq_getElem hlt)
    conv_rhs => rw [← List.take_append_drop i s.data, List.drop_eq_getElem_cons hlt,
      List.filterMap_append, List.filterMap_cons_none hnone]
    rw [List.eraseIdx_eq_take_drop_succ, List.filterMap_append]
  · rw [List.eraseIdx_of_length_le hge]

theorem of_acks (h : Intact s) {base : ℕ} {acks : List (Ack τ)} :
    Intact { s with base := base, acks := acks } := ⟨h.recv_le, h.flight⟩

end Intact

end SlidingWindow
