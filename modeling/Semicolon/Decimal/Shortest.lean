import Semicolon.Decimal.Binary64

/-!
# Decimal — the fewest digits that read back

The reals that round to a magnitude form an interval around it.  `Shortest.of` takes the decimal
with the fewest digits in that interval and, of those, the one nearest to the magnitude.  For each
number of digits only the two neighbours of the magnitude on the grid of such decimals have to be
tried.
-/

namespace Semicolon

/-- The decimal `0.d₁d₂… · 10 ^ point`, by its digits. -/
structure Decimal where
  digits : List Char
  point : Int
  deriving DecidableEq, Repr

namespace Shortest

/-- The interval of the reals that round to a magnitude, in quarters of its last binary place. -/
structure Interval where
  low : Nat
  value : Nat
  high : Nat
  /-- The ends belong to the interval. -/
  closed : Bool

/-- Below a power of two the gap to the next magnitude is half as wide. -/
def interval (x : Binary64) : Interval where
  low    := 4 * x.mantissa - (if x.mantissa = power 2 52 ∧ x.exponent > -1074 then 1 else 2)
  value  := 4 * x.mantissa
  high   := 4 * x.mantissa + 2
  closed := x.mantissa % 2 = 0

/-- The number of decimal digits of a whole number. -/
def digitCount (n : Nat) : Nat := (Nat.toDigits 10 n).length

/-- The power of ten below the fraction: `10 ^ p ≤ num / den < 10 ^ (p + 1)`. -/
def leadingPlace (num den : Nat) : Int :=
  if den ≤ num then digitCount (num / den) - 1
  else -(digitCount ((den + num - 1) / num - 1) : Int)

/-- The decimals with `count` digits next to the value, as multiples of `10 ^ place`, nearest
first. -/
def neighbours (num den : Nat) (place : Int) : List Nat :=
  let n := num * power 10 (-place)
  let d := den * power 10 place
  let below := n / d
  if 2 * (n % d) < d ∨ (2 * (n % d) = d ∧ below % 2 = 0) then [below, below + 1]
  else [below + 1, below]

/-- `count · 10 ^ place` lies in the interval, whose unit is `num / den`. -/
def reads (i : Interval) (num den : Nat) (place : Int) (count : Nat) : Bool :=
  let c := count * power 10 place * den
  let low := i.low * num * power 10 (-place)
  let high := i.high * num * power 10 (-place)
  if i.closed then low ≤ c && c ≤ high else low < c && c < high

/-- The decimal `count · 10 ^ place`, without zeros at its end. -/
def ofCount (count : Nat) (place : Int) : Decimal :=
  let digits := Nat.toDigits 10 count
  ⟨(digits.reverse.dropWhile (· = '0')).reverse, place + digits.length⟩

/-- The shortest decimal that reads back as a magnitude; 17 digits always do. -/
def of (x : Binary64) : Decimal :=
  if x.isZero then ⟨['0'], 1⟩
  else
    let i := interval x
    let unit := x.exponent - 2
    let num := power 2 unit
    let den := power 2 (-unit)
    let first := leadingPlace (i.value * num) den
    let hit := (List.range 17).findSome? fun (k : Nat) =>
      let place := first - k
      ((neighbours (i.value * num) den place).find? (reads i num den place)).map (ofCount · place)
    hit.getD ⟨['0'], 1⟩

end Shortest

end Semicolon
