import Mtp2.Moves

/-!
# MTP2 — two links in lockstep

The synchronous exchange of the integration tests: one cycle polls both links, hands each the
unit of the other, and ticks both. Before a cycle MTP3 and management may call either link; the
calls and the cycle make a round.
-/

namespace Mtp2

/-- What MTP3 may call in the exchange. -/
def Op.ordinary : Op → Bool
  | .start | .submitMsu _ _ | .pollEvent => true
  | _ => false

/-- A link, with the events it has raised. -/
structure Party where
  link : Mtp2Link
  log : List Event
  deriving Repr, DecidableEq

namespace Party

def fresh (config : Mtp2Config) : Party := ⟨.new config, []⟩

def act (x : Party) (op : Op) : Party := ⟨x.link.step op, x.log ++ x.link.raised op⟩

def run (x : Party) (ops : List Op) : Party := ops.foldl act x

/-- The link polls, is handed the unit of the other end, if there is one, and ticks. -/
def turn (x : Party) (heard : Option SignalUnit) : Party :=
  x.run (.pollTransmit :: (heard.toList.map .handleSu ++ [.tick]))

theorem turn_some (x : Party) (su : SignalUnit) :
    x.turn (some su) = ((x.act .pollTransmit).act (.handleSu su)).act .tick := rfl

theorem run_link (x : Party) (ops : List Op) : (x.run ops).link = x.link.run ops := by
  induction ops generalizing x with
  | nil => rfl
  | cons op ops ih => exact ih (x.act op)

/-- An operation that appends `es` to the event queue logs `es`. -/
theorem act_log {x : Party} {op : Op} {es : List Event}
    (h : (x.link.step op).events = x.link.events ++ es) : (x.act op).log = x.log ++ es := by
  rw [act, Mtp2Link.raised_of_append h]

/-- Nothing is raised by what leaves the queue alone. -/
theorem act_log_eq {x : Party} {op : Op} (h : (x.link.step op).events = x.link.events) :
    (x.act op).log = x.log := by
  have hes : (x.link.step op).events = x.link.events ++ [] := by rw [h, List.append_nil]
  rw [act_log hes, List.append_nil]

end Party

/-- Two ends. -/
structure Lockstep where
  a : Party
  b : Party
  deriving Repr, DecidableEq

namespace Lockstep

def fresh (ca cb : Mtp2Config) : Lockstep := ⟨.fresh ca, .fresh cb⟩

/-- What is called at `a`, and at `b`. -/
def call (p : Lockstep) (ops : List Op × List Op) : Lockstep := ⟨p.a.run ops.1, p.b.run ops.2⟩

/-- One synchronous cycle. -/
def cycle (p : Lockstep) : Lockstep where
  a := p.a.turn p.b.link.pollTransmit.1
  b := p.b.turn p.a.link.pollTransmit.1

def round (p : Lockstep) (ops : List Op × List Op) : Lockstep := (p.call ops).cycle

/-- The pair after `n` rounds, with the calls before each. -/
def after (p : Lockstep) (calls : ℕ → List Op × List Op) : ℕ → Lockstep
  | 0 => p
  | n + 1 => (p.after calls n).round (calls n)

end Lockstep

end Mtp2
