import Mtp2.Lib.Run

/-!
# The log of a run

A system that emits events as it steps leaves a log. A partial automaton that follows the system
reads the whole log: `log_read` is the rule, from the events of one step to those of a run. What
an automaton makes of a log then says how the log is built; `Toggles` is the case of two events
that take turns.
-/

namespace Run

variable {σ ι ε τ : Type*} {step : σ → ι → σ} {out : σ → ι → List ε} {next : τ → ε → Option τ}

/-- Everything the run from `s` over the labels emits. -/
def log (step : σ → ι → σ) (out : σ → ι → List ε) : σ → List ι → List ε
  | _, [] => []
  | s, i :: is => out s i ++ log step out (step s i) is

/-- An automaton reads a log piece by piece. -/
theorem read_append_iff {s t : τ} {p q : List ε} :
    (p ++ q).foldlM next s = some t ↔
      ∃ m, p.foldlM next s = some m ∧ q.foldlM next m = some t := by
  rw [List.foldlM_append, Option.bind_eq_bind, Option.bind_eq_some_iff]

/-- The automaton reads a log an event at a time. -/
theorem read_cons_iff {s t : τ} {e : ε} {q : List ε} :
    (e :: q).foldlM next s = some t ↔ ∃ m, next s e = some m ∧ q.foldlM next m = some t := by
  rw [List.foldlM_cons, Option.bind_eq_bind, Option.bind_eq_some_iff]

theorem read_singleton {s : τ} {e : ε} : [e].foldlM next s = next s e := by
  rw [List.foldlM_cons, Option.bind_eq_bind]
  exact Option.bind_fun_some _

/-- **An automaton that reads what every step emits reads the log of every run**, and ends where
the run ends. -/
theorem log_read (Inv : σ → Prop) (abs : σ → τ) (hinv : ∀ s i, Inv s → Inv (step s i))
    (hread : ∀ s i, Inv s → (out s i).foldlM next (abs s) = some (abs (step s i))) {s : σ}
    (h : Inv s) (is : List ι) :
    (log step out s is).foldlM next (abs s) = some (abs (is.foldl step s)) := by
  induction is generalizing s with
  | nil => rfl
  | cons i is ih => exact read_append_iff.mpr ⟨_, hread s i h, ih (hinv s i h)⟩

/-! ## Two events that take turns -/

variable [DecidableEq ε] {a b x : ε} {xs : List ε} {on : Bool}

/-- The events of `xs` that are `a` or `b` strictly alternate, starting with `a`. -/
def Alternates (a b : ε) (xs : List ε) : Prop :=
  ∀ i x, (xs.filter fun x => x = a ∨ x = b)[i]? = some x → x = if i % 2 = 0 then a else b

/-- They do, and `on` says whether the last of them is an `a`. -/
structure Toggles (a b : ε) (xs : List ε) (on : Bool) : Prop where
  alternates : Alternates a b xs
  parity : (xs.filter fun x => x = a ∨ x = b).length % 2 = on.toNat

namespace Toggles

theorem nil : Toggles a b [] false where
  alternates := nofun
  parity := rfl

theorem other (h : Toggles a b xs on) (ha : x ≠ a) (hb : x ≠ b) : Toggles a b (xs ++ [x]) on := by
  have heq : (xs ++ [x]).filter (fun x => x = a ∨ x = b) = xs.filter fun x => x = a ∨ x = b := by
    rw [List.filter_append, List.filter_cons_of_neg (by simp [ha, hb]), List.filter_nil,
      List.append_nil]
  exact ⟨by rw [Alternates, heq]; exact h.alternates, by rw [heq]; exact h.parity⟩

/-- The next of the two events, in its turn. -/
theorem turn (h : Toggles a b xs on) (hx : x = if on then b else a) :
    Toggles a b (xs ++ [x]) (!on) := by
  have heq : (xs ++ [x]).filter (fun x => x = a ∨ x = b) =
      (xs.filter fun x => x = a ∨ x = b) ++ [x] := by
    rw [List.filter_append, List.filter_cons_of_pos, List.filter_nil]
    cases on <;> simp [hx]
  have hpar := h.parity
  refine ⟨fun i y hy => ?_, ?_⟩
  · rw [heq] at hy
    rcases Nat.lt_trichotomy i (xs.filter fun x => x = a ∨ x = b).length with hi | hi | hi
    · rw [List.getElem?_append_left hi] at hy
      exact h.alternates i y hy
    · rw [hi, List.getElem?_concat_length] at hy
      rw [← Option.some.inj hy, hx, hi, hpar]
      cases on <;> rfl
    · rw [List.getElem?_eq_none (by rw [List.length_append]; exact hi)] at hy
      cases hy
  · rw [heq, List.length_append, List.length_singleton, Nat.add_mod, hpar]
    cases on <;> rfl

end Toggles

end Run
