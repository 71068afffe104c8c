/-!
# Toml — values and tables

A table remembers where it comes from, because that decides which later keys and headers may add to
it.  Of floats, dates and times it is only known that they stood there.
-/

namespace Semicolon.Toml

/-- Where a table comes from. -/
inductive Origin where
  /-- A header names it, or it is the whole document. -/
  | header
  /-- It lies on the way to a table that a header names. -/
  | path
  /-- A dotted key goes through it. -/
  | dotted
  /-- It is written between braces. -/
  | inline
  deriving DecidableEq, Repr

inductive Value where
  | boolean (b : Bool)
  | integer (n : Int)
  | string (s : String)
  | float
  | moment
  | array (items : List Value)
  | table (origin : Origin) (entries : List (String × Value))
  /-- The tables that share one header in double brackets, the newest first. -/
  | tables (elements : List (List (String × Value)))

/-- Keys and their values, in the order of the text. -/
abbrev Table := List (String × Value)

namespace Table

/-- The value of a key. -/
def get? : Table → String → Option Value
  | [],              _   => none
  | (key', v) :: es, key => if key' = key then some v else get? es key

/-- Give a value to a key. -/
def put (key : String) (v : Value) : Table → Table
  | []               => [(key, v)]
  | (key', v') :: es => if key' = key then (key, v) :: es else (key', v') :: put key v es

/-- Walk along a path of keys and change the table at its end by `f`, which may refuse.  Tables that
are missing on the way are created.  A dotted key only goes through tables that no header and no
braces have made; a path in a header goes through those of other headers too, and into the newest of
several tables with one header. -/
def descend {α : Type} (isDotted : Bool) (f : Origin → Table → Option (Table × α)) :
    List String → Origin → Table → Option (Table × α)
  | [],          origin, t => f origin t
  | key :: path, _,      t =>
    match t.get? key with
    | none => do
      let origin : Origin := if isDotted then .dotted else .path
      let (child, a) ← descend isDotted f path origin []
      return (t.put key (.table origin child), a)
    | some (.table origin child) =>
      if origin = .inline ∨ (isDotted ∧ origin = .header) then none
      else do
        let (child, a) ← descend isDotted f path origin child
        return (t.put key (.table origin child), a)
    | some (.tables (child :: older)) => do
      let (child, a) ← descend isDotted f path .header child
      return (t.put key (.tables (child :: older)), a)
    | some _ => none

/-- The table with one more value, under a key behind a dotted path.  The key has to be new, and the
path may not end in a table that was not made by dotted keys. -/
def insert? (path : List String) (key : String) (v : Value) (t : Table) : Option Table :=
  let place (origin : Origin) (t : Table) : Option (Table × Unit) :=
    if (path ≠ [] ∧ origin ≠ .dotted) ∨ (t.get? key).isSome then none
    else some (t.put key v, ())
  (descend true place path .header t).map Prod.fst

end Table

end Semicolon.Toml
