import Semicolon.Decimal.Shortest

/-!
# Json — values

A number is whole, if it was written so and fits into 64 bits, or else a binary float with its sign.
An object is a list of members; one that was read is sorted by name and holds each name once.
-/

namespace Semicolon.Json

/-- A number as it was written. -/
inductive Number where
  | natural (n : Nat)
  /-- The whole number `-n`. -/
  | negative (n : Nat)
  | float (isNegative : Bool) (magnitude : Binary64)
  deriving DecidableEq, Repr

inductive Value where
  | null
  | boolean (b : Bool)
  | number (n : Number)
  | string (s : String)
  | array (items : List Value)
  | object (members : List (String × Value))

/-- The members of an object. -/
abbrev Members := List (String × Value)

namespace Members

/-- Members sorted by name, with one more; it takes the place of an older one of its name. -/
def insert (name : String) (v : Value) : Members → Members
  | []                 => [(name, v)]
  | (name', v') :: ms =>
    if name < name' then (name, v) :: (name', v') :: ms
    else if name = name' then (name, v) :: ms
    else (name', v') :: insert name v ms

/-- The value of a member. -/
def get? : Members → String → Option Value
  | [],               _    => none
  | (name', v) :: ms, name => if name' = name then some v else get? ms name

/-- The members in the order in which they were written, sorted; of two with one name the later
counts. -/
def sorted (written : Members) : Members :=
  written.foldl (fun ms (name, v) => insert name v ms) []

end Members

/-! ### The text of numbers -/

/-- Floats from `10 ^ -5` up to `10 ^ 16` are written with a point and at least one digit behind it,
all others with an exponent of a sign and at least two digits. -/
def floatText (d : Decimal) : List Char :=
  let count : Int := d.digits.length
  if -4 ≤ d.point ∧ d.point ≤ 16 then
    if count ≤ d.point then
      d.digits ++ List.replicate (d.point - count).toNat '0' ++ ['.', '0']
    else if 0 < d.point then
      d.digits.take d.point.toNat ++ '.' :: d.digits.drop d.point.toNat
    else ['0', '.'] ++ List.replicate (-d.point).toNat '0' ++ d.digits
  else
    let exponent := d.point - 1
    let shown := Nat.toDigits 10 exponent.natAbs
    d.digits.take 1 ++ (if d.digits.length ≤ 1 then [] else '.' :: d.digits.drop 1)
      ++ ['e', if exponent < 0 then '-' else '+']
      ++ List.replicate (2 - shown.length) '0' ++ shown

/-- The text of a float; a negative zero keeps its sign. -/
def signedFloatText (isNegative : Bool) (magnitude : Binary64) : String :=
  String.ofList ((if isNegative then ['-'] else []) ++ floatText (Shortest.of magnitude))

/-- The text of a number. -/
def Number.text : Number → String
  | .natural n              => toString n
  | .negative n             => "-" ++ toString n
  | .float isNegative value => signedFloatText isNegative value

end Semicolon.Json
