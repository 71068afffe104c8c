/-!
# Decimal — binary numbers of 53 bits

A magnitude is `mantissa · 2 ^ exponent`.  `Binary64.ofRatio?` rounds a fraction to the nearest of
them, a tie to the even mantissa, and products and quotients are rounded from their exact values.
A fraction too large for the format has no rounding.
-/

namespace Semicolon

/-- The power `base ^ exponent`; one if the exponent is negative. -/
def power (base : Nat) (exponent : Int) : Nat := Nat.pow base exponent.toNat

/-- A magnitude of the binary format with 53 bits of precision and exponents from -1074 to 971. -/
structure Binary64 where
  mantissa : Nat
  exponent : Int
  deriving DecidableEq, Repr

namespace Binary64

def zero : Binary64 := ⟨0, -1074⟩

def isZero (x : Binary64) : Bool := x.mantissa = 0

/-- The numerator of the value. -/
def num (x : Binary64) : Nat := x.mantissa * power 2 x.exponent

/-- The denominator of the value. -/
def den (x : Binary64) : Nat := power 2 (-x.exponent)

/-- The quotient rounded to the nearest whole number, a tie to the even one. -/
def roundDiv (num den : Nat) : Nat :=
  let q := num / den
  let r := num % den
  if 2 * r < den then q else if den < 2 * r then q + 1 else q + q % 2

/-- The fraction `num / den / 2 ^ exponent`. -/
def scaled (num den : Nat) (exponent : Int) : Nat × Nat :=
  (num * power 2 (-exponent), den * power 2 exponent)

/-- The exponent at which the fraction has a mantissa of at most 53 bits, if it is not rounded up to
one more. -/
def exponentFor (num den : Nat) : Int :=
  let guess := max ((num.log2 : Int) - den.log2 - 53) (-1074)
  let (n, d) := scaled num den guess
  if n / d < power 2 53 then guess else guess + 1

/-- The nearest magnitude, if the fraction is not too large. -/
def ofRatio? (num den : Nat) : Option Binary64 :=
  if num = 0 then some zero
  else
    let exponent := exponentFor num den
    let (n, d) := scaled num den exponent
    let mantissa := roundDiv n d
    let (mantissa, exponent) :=
      if mantissa = power 2 53 then (power 2 52, exponent + 1) else (mantissa, exponent)
    if exponent ≤ 971 then some ⟨mantissa, exponent⟩ else none

def mul? (x y : Binary64) : Option Binary64 := ofRatio? (x.num * y.num) (x.den * y.den)

def div? (x y : Binary64) : Option Binary64 := ofRatio? (x.num * y.den) (x.den * y.num)

end Binary64

end Semicolon
