/-!
# Debouncer — the least time between two accepted triggers

A trigger that comes too early is lost, and it does not make the wait any longer.
-/

namespace Semicolon

/-- The time of the last trigger that was accepted, in milliseconds. -/
structure Debouncer where
  last : Option Nat
  deriving DecidableEq, Repr

namespace Debouncer

/-- No trigger was accepted yet. -/
def fresh : Debouncer := ⟨none⟩

/-- A trigger at `now` comes too early: the last one is less than `window` ago.  A last trigger in
the future counts as just now. -/
def isTooEarly (d : Debouncer) (now window : Nat) : Bool :=
  match d.last with
  | none      => false
  | some last => now - last < window

/-- The debouncer after a trigger at `now`, if it accepts it. -/
def accept? (d : Debouncer) (now window : Nat) : Option Debouncer :=
  if d.isTooEarly now window then none else some ⟨some now⟩

end Debouncer

end Semicolon
