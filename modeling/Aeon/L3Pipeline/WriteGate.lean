import Aeon.L1Types.Event

/-!
# The write gate of a partition

`crates/aeon-engine/src/write_gate.rs`. A source enters before every fetch and holds a guard; a
freeze closes the gate and commits once no guard is held. The flip and the turn of the wait loop
that finds no guard are separate steps.
-/
namespace Aeon.L3.Gate

/-- mirrors write_gate.rs:43-53 -/
inductive GateState
  | opened
  | freezeRequested
  | frozen
  deriving DecidableEq

/-- mirrors write_gate.rs:57-61 -/
structure WriteGate where
  state : GateState := .opened
  inFlight : Nat := 0
  deriving DecidableEq

namespace WriteGate

variable {g : WriteGate}

/-- mirrors write_gate.rs:88-102 -/
def tryEnter (g : WriteGate) : Option WriteGate :=
  if g.state = .opened then some { g with inFlight := g.inFlight + 1 } else none

/-- mirrors write_gate.rs:192-200 -/
def dropGuard (g : WriteGate) : WriteGate := { g with inFlight := g.inFlight - 1 }

/-- mirrors write_gate.rs:116-136 -/
def requestFreeze (g : WriteGate) : WriteGate :=
  if g.state = .opened then { g with state := .freezeRequested } else g

/-- mirrors write_gate.rs:138-151 -/
def commitFreeze (g : WriteGate) : Option WriteGate :=
  if g.inFlight = 0 then
    some (if g.state = .freezeRequested then { g with state := .frozen } else g)
  else none

/-- mirrors write_gate.rs:164-169 -/
def reopen (g : WriteGate) : WriteGate := { g with state := .opened }

lemma state_tryEnter (h : g.tryEnter = some g') : g'.state = g.state := by grind [tryEnter]

lemma state_commitFreeze (h : g.commitFreeze = some g') : g'.state = .opened ↔ g.state = .opened := by
  unfold commitFreeze at h; grind

end WriteGate

end Aeon.L3.Gate
