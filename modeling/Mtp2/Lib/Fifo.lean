import Mathlib.Data.List.Infix

/-!
# A queue that serves one a round

In each round some arrive, and then the head of the queue is served.

* **`State.round_eq`** — a round, from what it does to the queue and to the whole;
* **`State.run_served`** — what waits is served, one a round.
-/

namespace Fifo

/-- Who waits, and who has been served, in order. -/
structure State (α : Type*) where
  queue : List α
  served : List α

namespace State

variable {α : Type*} {s s' : State α}

def round (s : State α) (arrivals : List α) : State α where
  queue := (s.queue ++ arrivals).tail
  served := s.served ++ (s.queue ++ arrivals).head?.toList

def run (s : State α) (arrivals : List (List α)) : State α := arrivals.foldl round s

/-- No one is lost, doubled or overtaken in a round. -/
theorem round_all (s : State α) (arrivals : List α) :
    (s.round arrivals).served ++ (s.round arrivals).queue =
      s.served ++ (s.queue ++ arrivals) := by
  rw [round, List.append_assoc]
  cases s.queue ++ arrivals <;> rfl

/-- What leaves the queue at its head and is not lost has been served. -/
theorem round_eq {arrivals : List α} (hq : s'.queue = (s.queue ++ arrivals).tail)
    (hall : s'.served ++ s'.queue = s.served ++ (s.queue ++ arrivals)) :
    s' = s.round arrivals := by
  have hqueue : s'.queue = (s.round arrivals).queue := hq
  rw [← round_all, hqueue] at hall
  obtain ⟨queue, served⟩ := s'
  exact congrArg₂ State.mk hqueue (List.append_cancel_right hall)

/-- **What waits is served, one a round**, whatever arrives behind it. -/
theorem run_served (s : State α) (arrivals : List (List α)) :
    s.served ++ s.queue.take arrivals.length <+: (s.run arrivals).served := by
  induction arrivals generalizing s with
  | nil =>
    rw [List.length_nil, List.take_zero, List.append_nil]
    exact List.prefix_refl s.served
  | cons as rest ih =>
    refine List.IsPrefix.trans ?_ (ih (s.round as))
    rw [round]
    cases hq : s.queue with
    | nil =>
      rw [List.take_nil, List.append_nil, List.append_assoc]
      exact List.prefix_append _ _
    | cons a queue =>
      rw [List.length_cons, List.take_succ_cons, List.cons_append, List.tail_cons, List.head?_cons,
        Option.toList_some, List.append_assoc, List.singleton_append, List.take_append]
      exact ⟨(as.take (rest.length - queue.length)), by
        rw [List.append_assoc, List.cons_append]⟩

end State

end Fifo
