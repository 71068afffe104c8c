import Semicolon.Settings.Source

/-!
# Settings — the cache

Settings are loaded when they are first asked for, and again when they are asked for after they were
invalidated.  A load that fails leaves the settings of the last one that did not, or the defaults.
-/

namespace Semicolon

/-- Settings in use, with their source. -/
structure Cache where
  source : Source
  /-- The settings in use, until they are invalidated. -/
  current : Option Settings
  /-- The settings of the last load that did not fail. -/
  lastGood : Option Settings
  /-- The number of loads so far. -/
  loads : Nat

namespace Cache

/-- Nothing is loaded yet. -/
def ofSource (source : Source) : Cache := ⟨source, none, none, 0⟩

/-- Load from the source. -/
def load (c : Cache) : Settings × Cache :=
  match c.source.load with
  | .ok s    => (s, { c with current := some s, lastGood := some s, loads := c.loads + 1 })
  | .error _ =>
    let s := c.lastGood.getD .default
    (s, { c with current := some s, loads := c.loads + 1 })

/-- The settings in use, and the cache once they are loaded. -/
def get (c : Cache) : Settings × Cache :=
  match c.current with
  | some s => (s, c)
  | none   => c.load

/-- The next time the settings are asked for, they are loaded again. -/
def invalidate (c : Cache) : Cache := { c with current := none }

/-- What the next load sees. -/
def setSource (c : Cache) (source : Source) : Cache := { c with source := source }

/-- Settings are in use. -/
def isLoaded (c : Cache) : Bool := c.current.isSome

end Cache

end Semicolon
