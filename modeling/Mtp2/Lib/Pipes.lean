import Mtp2.Lib.Run

/-!
# Two machines joined by pipes

Two machines of one kind, each with an in-order pipe to the other that loses nothing. An end
acts by itself, emits a message into its pipe, or hands the oldest message of its pipe to the
other end.

What one end knows of the other it has from messages. `Machine.Rule` collects what has to be
checked of one machine at a time, and `Rule.run` concludes it of the pair after every run.

* **`Rule.step`**, **`Rule.run`** — the invariant of a pair;
* **`exists_delivered`** — handing over a pipe reaches the first message that answers.
-/

namespace Pipes

/-- A machine with states `σ`, operations `ι` and messages `μ`. -/
structure Machine (σ ι μ : Type*) where
  act : σ → ι → σ
  emit : σ → Option μ × σ
  receive : σ → μ → σ

/-- A machine and the messages in flight from it, oldest first. -/
structure End (σ μ : Type*) where
  state : σ
  out : List μ
  deriving Repr, DecidableEq

structure Pair (σ μ : Type*) where
  a : End σ μ
  b : End σ μ
  deriving Repr, DecidableEq

inductive EndOp (ι : Type*) where
  | act (op : ι)
  | emit
  | deliver
  deriving Repr, DecidableEq

inductive PairOp (ι : Type*) where
  | atA (op : EndOp ι)
  | atB (op : EndOp ι)
  deriving Repr, DecidableEq

variable {σ ι μ : Type*}

def Pair.swap (p : Pair σ μ) : Pair σ μ := ⟨p.b, p.a⟩

namespace Machine

variable (m : Machine σ ι μ)

/-- One operation at `a`. -/
def stepA (p : Pair σ μ) : EndOp ι → Pair σ μ
  | .act op => { p with a := { p.a with state := m.act p.a.state op } }
  | .emit => { p with a := ⟨(m.emit p.a.state).2, p.a.out ++ (m.emit p.a.state).1.toList⟩ }
  | .deliver =>
    match p.a.out with
    | [] => p
    | x :: rest => ⟨{ p.a with out := rest }, { p.b with state := m.receive p.b.state x }⟩

def step (p : Pair σ μ) : PairOp ι → Pair σ μ
  | .atA op => m.stepA p op
  | .atB op => (m.stepA p.swap op).swap

def run (p : Pair σ μ) (ops : List (PairOp ι)) : Pair σ μ := ops.foldl m.step p

/-- What an end does by itself. -/
inductive Own (s : σ) : σ → Prop where
  | act (op : ι) : Own s (m.act s op)
  | emit : Own s (m.emit s).2

/-- What an end does. -/
inductive Next (s : σ) : σ → Prop where
  | own {s' : σ} (h : m.Own s s') : Next s s'
  | receive (x : μ) : Next s (m.receive s x)

/-! ## The invariant of a pair -/

/-- What is kept by one machine: `Ok` by itself, `Sent` between a machine and what is in flight
from it, `Knows s t` between a machine `s` and what the other end `t` may rely on. -/
structure Rule (Ok : σ → Prop) (Sent : σ → μ → Prop) (Knows : σ → σ → Prop) : Prop where
  ok {s s' : σ} : Ok s → m.Next s s' → Ok s'
  sent {s s' : σ} {x : μ} : Ok s → Sent s x → m.Next s s' → Sent s' x
  emits {s : σ} {x : μ} : Ok s → (m.emit s).1 = some x → Sent (m.emit s).2 x
  /-- What `t` relies on stays so. -/
  knows {s s' t : σ} : Ok s → Knows s t → m.Next s s' → Knows s' t
  /-- By itself `t` does not come to rely on anything. -/
  learns {s t t' : σ} : Ok t → Knows s t → m.Own t t' → Knows s t'
  hears {s t : σ} {x : μ} : Ok t → Knows s t → Sent s x → Knows s (m.receive t x)

end Machine

/-- The direction from `x` to an end in `t`. -/
structure Dir (Ok : σ → Prop) (Sent : σ → μ → Prop) (Knows : σ → σ → Prop) (x : End σ μ)
    (t : σ) : Prop where
  ok : Ok x.state
  sent : ∀ msg ∈ x.out, Sent x.state msg
  knows : Knows x.state t

/-- Both directions. -/
def Joined (Ok : σ → Prop) (Sent : σ → μ → Prop) (Knows : σ → σ → Prop) (p : Pair σ μ) : Prop :=
  Dir Ok Sent Knows p.a p.b.state ∧ Dir Ok Sent Knows p.b p.a.state

theorem Joined.swap {Ok : σ → Prop} {Sent : σ → μ → Prop} {Knows : σ → σ → Prop} {p : Pair σ μ}
    (h : Joined Ok Sent Knows p) : Joined Ok Sent Knows p.swap := h.symm

namespace Machine.Rule

variable {m : Machine σ ι μ} {Ok : σ → Prop} {Sent : σ → μ → Prop} {Knows : σ → σ → Prop}
  {x : End σ μ} {s t : σ} {p : Pair σ μ}

/-- The sender goes on, and what was in flight stays there or arrives. -/
theorem sender (hm : m.Rule Ok Sent Knows) (h : Dir Ok Sent Knows x t) (hs : m.Next x.state s)
    {out : List μ} (hout : ∀ msg ∈ out, msg ∈ x.out ∨ Sent s msg) :
    Dir Ok Sent Knows ⟨s, out⟩ t where
  ok := hm.ok h.ok hs
  sent msg hmsg := (hout msg hmsg).elim (fun hin => hm.sent h.ok (h.sent msg hin) hs) id
  knows := hm.knows h.ok h.knows hs

/-- An operation at `a` keeps the invariant. -/
theorem stepA (hm : m.Rule Ok Sent Knows) (h : Joined Ok Sent Knows p) (op : EndOp ι) :
    Joined Ok Sent Knows (m.stepA p op) := by
  obtain ⟨hab, hba⟩ := h
  cases op with
  | act op =>
    -- nothing arrives at `b`, and `a` learns nothing
    have hown : m.Own p.a.state _ := .act op
    exact ⟨hm.sender hab (.own hown) fun _ hin => .inl hin,
      hba.ok, hba.sent, hm.learns hab.ok hba.knows hown⟩
  | emit =>
    have hown : m.Own p.a.state _ := .emit
    refine ⟨hm.sender hab (.own hown) fun msg hmsg => ?_,
      hba.ok, hba.sent, hm.learns hab.ok hba.knows hown⟩
    -- a message in flight before, or the one emitted now
    refine (List.mem_append.mp hmsg).imp id fun hnew => ?_
    exact hm.emits hab.ok (Option.mem_toList.mp hnew)
  | deliver =>
    unfold Machine.stepA
    dsimp only
    split
    · exact ⟨hab, hba⟩
    · next msg rest hout =>
      -- `b` hears the oldest message, and the rest is still in flight
      have hrest : ∀ msg' ∈ rest, Sent p.a.state msg' := fun msg' hin =>
        hab.sent msg' (by rw [hout]; exact List.mem_cons_of_mem _ hin)
      have hmsg : Sent p.a.state msg := hab.sent msg (by rw [hout]; exact List.mem_cons_self)
      exact ⟨⟨hab.ok, hrest, hm.hears hba.ok hab.knows hmsg⟩,
        hm.sender hba (.receive msg) fun _ hin => .inl hin⟩

theorem step (hm : m.Rule Ok Sent Knows) (h : Joined Ok Sent Knows p) (op : PairOp ι) :
    Joined Ok Sent Knows (m.step p op) := by
  cases op with
  | atA op => exact hm.stepA h op
  | atB op => exact (hm.stepA h.swap op).swap

/-- **The invariant of a pair holds after every run.** -/
theorem run (hm : m.Rule Ok Sent Knows) (h : Joined Ok Sent Knows p) (ops : List (PairOp ι)) :
    Joined Ok Sent Knows (m.run p ops) :=
  Run.invariant (Joined Ok Sent Knows) (fun _ op h => hm.step h op) h ops

end Machine.Rule

/-! ## Delivery -/

/-- Handing over the pipe of `b` brings `a` to `Goal`, if `a` waits in `Waits` through the
messages before one that answers. -/
theorem exists_delivered (m : Machine σ ι μ) (Waits Goal : σ → Prop) (Answers Fine : μ → Prop)
    (hgoal : ∀ {s x}, Waits s → Answers x → Goal (m.receive s x))
    (hwaits : ∀ {s x}, Waits s → ¬ Answers x → Fine x → Waits (m.receive s x)) {p : Pair σ μ}
    (hw : Waits p.a.state) (hfine : ∀ x ∈ p.b.out, Fine x) (hans : ∃ x ∈ p.b.out, Answers x) :
    ∃ n, Goal (m.run p (List.replicate n (.atB .deliver))).a.state := by
  obtain ⟨a, ⟨t, out⟩⟩ := p
  dsimp only at hw hfine hans
  induction out generalizing a with
  | nil =>
    obtain ⟨x, hx, -⟩ := hans
    cases hx
  | cons x out ih =>
    -- one delivery if the oldest message answers, else the rest of the pipe by induction
    by_cases hx : Answers x
    · exact ⟨1, hgoal hw hx⟩
    · have hw' := hwaits hw hx (hfine x List.mem_cons_self)
      have hans' : ∃ y ∈ out, Answers y := by
        obtain ⟨y, hy, hya⟩ := hans
        rcases List.mem_cons.mp hy with rfl | hy
        · exact absurd hya hx
        · exact ⟨y, hy, hya⟩
      obtain ⟨n, hn⟩ := ih { a with state := m.receive a.state x } hw'
        (fun y hy => hfine y (List.mem_cons_of_mem _ hy)) hans'
      exact ⟨n + 1, hn⟩

end Pipes
