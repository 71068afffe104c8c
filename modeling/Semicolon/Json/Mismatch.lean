import Semicolon.Json.Value
import Semicolon.Text.Quoted

/-!
# Json — values of the wrong kind

A reader of settings expects a certain kind of value.  A `Mismatch` says what it found instead, as
far as a message shows it.
-/

namespace Semicolon.Json

/-- What a message shows of a value. -/
inductive Kind where
  | null
  | boolean (b : Bool)
  | number (n : Number)
  | string (s : String)
  | sequence
  | map
  deriving DecidableEq, Repr

def Value.kind : Value → Kind
  | .null      => .null
  | .boolean b => .boolean b
  | .number n  => .number n
  | .string s  => .string s
  | .array _   => .sequence
  | .object _  => .map

def Kind.describe : Kind → String
  | .null                          => "null"
  | .boolean b                     => "boolean `" ++ toString b ++ "`"
  | .number (.float isNegative x)  => "floating point `" ++ signedFloatText isNegative x ++ "`"
  | .number n                      => "integer `" ++ n.text ++ "`"
  | .string s                      => "string " ++ String.ofList (Text.quoted s.toList)
  | .sequence                      => "sequence"
  | .map                           => "map"

/-- What a reader expects. -/
inductive Expected where
  | boolean
  | natural
  | string
  | sequence
  deriving DecidableEq, Repr

def Expected.describe : Expected → String
  | .boolean  => "a boolean"
  | .natural  => "u64"
  | .string   => "a string"
  | .sequence => "a sequence"

/-- A value of the wrong kind. -/
structure Mismatch where
  found : Kind
  expected : Expected
  deriving DecidableEq, Repr

/-- A negative whole number has the right type for a natural one, but the wrong value. -/
def Mismatch.message (m : Mismatch) : String :=
  let fault := match m with
    | ⟨.number (.negative _), .natural⟩ => "invalid value: "
    | _                                 => "invalid type: "
  fault ++ m.found.describe ++ ", expected " ++ m.expected.describe

namespace Value

def boolean? : Value → Except Mismatch Bool
  | .boolean b => .ok b
  | v          => .error ⟨v.kind, .boolean⟩

def natural? : Value → Except Mismatch Nat
  | .number (.natural n) => .ok n
  | v                    => .error ⟨v.kind, .natural⟩

def string? : Value → Except Mismatch String
  | .string s => .ok s
  | v         => .error ⟨v.kind, .string⟩

/-- The strings of an array; the first item that is none is the fault. -/
def strings? : Value → Except Mismatch (List String)
  | .array items => items.mapM string?
  | v            => .error ⟨v.kind, .sequence⟩

end Value

end Semicolon.Json
