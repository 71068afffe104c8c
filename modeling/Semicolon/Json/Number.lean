import Semicolon.Json.Value
import Semicolon.Text.Basic

/-!
# Json — reading numbers

The digits of a number are collected into a significand of 64 bits; digits that no longer fit only
move the decimal point, and behind the point they are dropped.  A whole number that fits is exact.
Any other number is its significand, rounded to a float and then scaled by a power of ten, with one
more rounding; the powers of ten are themselves rounded, and none is greater than `10 ^ 308`.
-/

namespace Semicolon.Json

/-- Why a text is not JSON. -/
inductive Failure where
  /-- A character is not allowed where it stands, or a number is too large for a float. -/
  | unexpected
  /-- The text ends too early. -/
  | endOfText
  deriving DecidableEq, Repr

/-- What goes wrong in front of a rest that had to begin in another way. -/
def Failure.before (rest : Text) : Failure := if rest.isEmpty then .endOfText else .unexpected

/-- The value of a decimal digit. -/
def digitValue (c : Char) : Nat := c.toNat - '0'.toNat

/-- The number that the digits continue from `n` on, as far as it fits into 64 bits, and the digits
that are left. -/
def collect : Nat → List Char → Nat × List Char
  | n, []      => (n, [])
  | n, c :: cs =>
    let m := 10 * n + digitValue c
    if m < power 2 64 then collect m cs else (n, c :: cs)

/-! ### Scaling -/

/-- The float nearest to a power of ten, which is at most the 308th. -/
def powerOfTen (k : Nat) : Binary64 := (Binary64.ofRatio? (power 10 k) 1).getD .zero

/-- The greatest power of ten to scale by in one step. -/
def maxPower : Nat := 308

/-- The float divided by `10 ^ 308` a number of times. -/
def lower : Nat → Binary64 → Option Binary64
  | 0,     x => some x
  | n + 1, x => if x.isZero then some x else x.div? (powerOfTen maxPower) >>= lower n

/-- The float divided by a power of ten, in steps of at most `10 ^ 308`. -/
def scaleDown (x : Binary64) (k : Nat) : Option Binary64 := do
  let steps := (k - 1) / maxPower
  let y ← lower steps x
  if y.isZero then some y else y.div? (powerOfTen (k - maxPower * steps))

/-- The float times a power of ten; none if it is too large. -/
def scaleUp (x : Binary64) (k : Nat) : Option Binary64 :=
  if k ≤ maxPower then x.mul? (powerOfTen k) else if x.isZero then some x else none

/-- The float for a significand and a decimal exponent. -/
def float? (significand : Nat) (exponent : Int) : Option Binary64 := do
  let x ← Binary64.ofRatio? significand 1
  if 0 ≤ exponent then scaleUp x exponent.toNat else scaleDown x (-exponent).toNat

/-! ### Numbers -/

/-- The parts of a written number. -/
structure Written where
  isNegative : Bool
  whole : List Char
  /-- The digits behind the point, if there is one. -/
  fraction : Option (List Char)
  exponent : Option Int

/-- A whole number; a negative zero and a number below the least of 64 bits are floats. -/
def wholeNumber (isNegative : Bool) (n : Nat) : Option Number :=
  if !isNegative then some (.natural n)
  else if 0 < n ∧ n ≤ power 2 63 then some (.negative n)
  else (Binary64.ofRatio? n 1).map (.float true)

/-- The number that was written; none if it is too large. -/
def Written.number? (w : Written) : Option Number :=
  let (n, dropped) := collect 0 w.whole
  if dropped.isEmpty && w.fraction.isNone && w.exponent.isNone then wholeNumber w.isNegative n
  else
    let fraction := w.fraction.getD []
    let (n, rest) := collect n fraction
    let point : Int := (dropped.length : Int) - (fraction.length - rest.length : Nat)
    (float? n (point + w.exponent.getD 0)).map (.float w.isNegative)

/-- The digits at the start of the text and what follows; there has to be one. -/
def digits (t : Text) : Except Failure (List Char × Text) :=
  if (t.takeWhile Char.isDigit).isEmpty then .error (.before t)
  else .ok (t.takeWhile Char.isDigit, t.dropWhile Char.isDigit)

/-- The fraction at the start of the text, if a point begins one. -/
def fraction : Text → Except Failure (Option (List Char) × Text)
  | '.' :: t => do
    let (ds, t) ← digits t
    return (some ds, t)
  | t => .ok (none, t)

/-- The value of decimal digits. -/
def natOfDigits (ds : List Char) : Nat := ds.foldl (fun n c => 10 * n + digitValue c) 0

/-- The exponent at the start of the text, if a letter begins one. -/
def exponent : Text → Except Failure (Option Int × Text)
  | c :: t =>
    if c = 'e' ∨ c = 'E' then do
      let (isNegative, t) := match t with
        | '-' :: t => (true, t)
        | '+' :: t => (false, t)
        | t        => (false, t)
      let (ds, t) ← digits t
      let n : Int := natOfDigits ds
      return (some (if isNegative then -n else n), t)
    else .ok (none, c :: t)
  | [] => .ok (none, [])

/-- The number at the start of the text, behind its sign.  A zero is not followed by a digit. -/
def unsigned (isNegative : Bool) (t : Text) : Except Failure (Number × Text) := do
  let (whole, t) ← digits t
  if whole.head? = some '0' ∧ 1 < whole.length then throw .unexpected
  let (fraction, t) ← fraction t
  let (exponent, t) ← exponent t
  match Written.number? ⟨isNegative, whole, fraction, exponent⟩ with
  | some n => return (n, t)
  | none   => throw .unexpected

/-- The number at the start of the text. -/
def number : Text → Except Failure (Number × Text)
  | '-' :: t => unsigned true t
  | t        => unsigned false t

end Semicolon.Json
