import Mathlib.Data.List.Basic

/-!
# Runs of a deterministic labelled transition system

A system is a step function `σ → ι → σ`; a run is the left fold of the step over a list of
labels. Invariants of unguarded runs come from `List.foldlRecOn`; this module adds the runs
whose every step meets a condition on the state before it and the label.
-/

namespace Run

variable {σ ι : Type*} {step : σ → ι → σ} {P Q : σ → ι → Prop}

/-- Every step of the run from `s` over the labels meets `P` in the state it is taken in. -/
def Along (step : σ → ι → σ) (P : σ → ι → Prop) : σ → List ι → Prop
  | _, [] => True
  | s, i :: is => P s i ∧ Along step P (step s i) is

instance Along.decidable [∀ s i, Decidable (P s i)] (s : σ) (is : List ι) :
    Decidable (Along step P s is) :=
  match is with
  | [] => isTrue trivial
  | i :: is =>
    have := Along.decidable (step s i) is
    inferInstanceAs (Decidable (P s i ∧ Along step P (step s i) is))

/-- A run in two parts. -/
theorem Along.append_iff {s : σ} {is js : List ι} :
    Along step P s (is ++ js) ↔ Along step P s is ∧ Along step P (is.foldl step s) js := by
  induction is generalizing s with
  | nil => simp [Along]
  | cons i is ih => simp only [List.cons_append, Along, ih, List.foldl_cons, and_assoc]

/-- One more step, in the state the run has reached. -/
theorem Along.snoc {s : σ} {is : List ι} {i : ι} (h : Along step P s is)
    (hi : P (is.foldl step s) i) : Along step P s (is ++ [i]) :=
  append_iff.mpr ⟨h, hi, trivial⟩

/-- Labels that meet `P` in every state. -/
theorem Along.of_forall {s : σ} {is : List ι} (h : ∀ i ∈ is, ∀ s, P s i) : Along step P s is := by
  induction is generalizing s with
  | nil => trivial
  | cons i is ih =>
    exact ⟨h i List.mem_cons_self s, ih fun j hj => h j (List.mem_cons_of_mem i hj)⟩

/-- The step lemma gives the run lemma. -/
theorem invariant (Inv : σ → Prop) (hstep : ∀ s i, Inv s → Inv (step s i)) {s : σ} (h : Inv s)
    (is : List ι) : Inv (is.foldl step s) :=
  List.foldlRecOn is step h fun s hs i _ => hstep s i hs

/-- The run lemma over runs whose steps all meet `P`. -/
theorem invariant_along (Inv : σ → Prop) (hstep : ∀ s i, Inv s → P s i → Inv (step s i)) {s : σ}
    (h : Inv s) {is : List ι} (hrun : Along step P s is) : Inv (is.foldl step s) := by
  induction is generalizing s with
  | nil => exact h
  | cons i is ih => exact ih (hstep s i h hrun.1) hrun.2

/-- Conditions that agree wherever the invariant holds are met by the same runs. -/
theorem along_congr (Inv : σ → Prop) (hinv : ∀ s i, Inv s → Inv (step s i))
    (hpq : ∀ s i, Inv s → (P s i ↔ Q s i)) {s : σ} (h : Inv s) (is : List ι) :
    Along step P s is ↔ Along step Q s is := by
  induction is generalizing s with
  | nil => exact Iff.rfl
  | cons i is ih => exact and_congr (hpq s i h) (ih (hinv s i h))

/-- A property of all prefixes: it holds where the run starts, and of all prefixes from the state
after the first step. -/
theorem forall_prefix_cons {Good : σ → Prop} {s : σ} {i : ι} {is : List ι} :
    (∀ is', is' <+: i :: is → Good (is'.foldl step s)) ↔
      Good s ∧ ∀ is', is' <+: is → Good (is'.foldl step (step s i)) := by
  refine ⟨fun hall => ⟨hall [] List.nil_prefix, fun is' his' => ?_⟩, fun ⟨hs, hall⟩ is' his' => ?_⟩
  · exact hall (i :: is') ((List.prefix_cons_inj i).mpr his')
  · rcases List.prefix_cons_iff.mp his' with rfl | ⟨is'', rfl, his''⟩
    · exact hs
    · exact hall is'' his''

/-- The empty run has no state but its first. -/
theorem forall_prefix_nil {Good : σ → Prop} {s : σ} :
    (∀ is', is' <+: ([] : List ι) → Good (is'.foldl step s)) ↔ Good s := by
  simp only [List.prefix_nil, forall_eq, List.foldl_nil]

/-- **When a property fails exactly at the steps that miss `P`**, it holds in every state of a
run exactly if the run meets `P`. -/
theorem along_iff_forall_prefix (Inv : σ → Prop) {Good : σ → Prop}
    (hinv : ∀ s i, Inv s → Inv (step s i))
    (hgood : ∀ s i, Inv s → Good s → (Good (step s i) ↔ P s i)) {s : σ} (h : Inv s) (hs : Good s)
    (is : List ι) : (∀ is', is' <+: is → Good (is'.foldl step s)) ↔ Along step P s is := by
  induction is generalizing s with
  | nil => exact forall_prefix_nil.trans (iff_of_true hs trivial)
  | cons i is ih =>
    have hstep := hgood s i h hs
    rw [forall_prefix_cons]
    refine ⟨fun ⟨_, hall⟩ => ?_, fun ⟨hp, hrest⟩ => ?_⟩
    · have hs' : Good (step s i) := hall [] List.nil_prefix
      exact ⟨hstep.mp hs', (ih (hinv s i h) hs').mp hall⟩
    · exact ⟨hs, (ih (hinv s i h) (hstep.mpr hp)).mpr hrest⟩

/-- **When a step that misses `P` shows**, the runs that show nothing are those that meet `P`. The
invariant need not survive a step that misses it. -/
theorem along_iff_shown (Inv : σ → Prop) {Good : σ → Prop}
    (hinv : ∀ s i, Inv s → P s i → Inv (step s i)) (hgood : ∀ s, Inv s → Good s)
    (hshown : ∀ s i, Inv s → Good (step s i) → P s i) {s : σ} (h : Inv s) (is : List ι) :
    (∀ is', is' <+: is → Good (is'.foldl step s)) ↔ Along step P s is := by
  induction is generalizing s with
  | nil => exact forall_prefix_nil.trans (iff_of_true (hgood s h) trivial)
  | cons i is ih =>
    rw [forall_prefix_cons]
    refine ⟨fun ⟨_, hall⟩ => ?_, fun ⟨hp, hrest⟩ => ?_⟩
    · have hp : P s i := hshown s i h (hall [] List.nil_prefix)
      exact ⟨hp, (ih (hinv s i h hp)).mp hall⟩
    · exact ⟨hgood s h, (ih (hinv s i h hp)).mpr hrest⟩

/-! ## Once -/

/-- Some state of the run, up to its end, has the property. -/
def Once (step : σ → ι → σ) (A : σ → Prop) (s : σ) (is : List ι) : Prop :=
  ∃ is', is' <+: is ∧ A (is'.foldl step s)

variable {A : σ → Prop}

theorem Once.now {s : σ} {is : List ι} (h : A (is.foldl step s)) : Once step A s is :=
  ⟨is, List.prefix_refl is, h⟩

theorem Once.snoc {s : σ} {is : List ι} (h : Once step A s is) (i : ι) :
    Once step A s (is ++ [i]) := by
  obtain ⟨is', hpre, ha⟩ := h
  exact ⟨is', hpre.trans (List.prefix_append is [i]), ha⟩

/-! ## Observations -/

/-- What is observed along a run. -/
def trace {ο : Type*} (step : σ → ι → σ) (out : σ → ι → ο) : σ → List ι → List ο
  | _, [] => []
  | s, i :: is => out s i :: trace step out (step s i) is

/-- **Bisimilar states have the same traces.** -/
theorem trace_congr {ο : Type*} {out : σ → ι → ο} (R : σ → σ → Prop)
    (hout : ∀ s t i, R s t → out s i = out t i)
    (hstep : ∀ s t i, R s t → R (step s i) (step t i)) {s t : σ} (h : R s t) (is : List ι) :
    trace step out s is = trace step out t is := by
  induction is generalizing s t with
  | nil => rfl
  | cons i is ih => exact congrArg₂ List.cons (hout s t i h) (ih (hstep s t i h))

end Run
