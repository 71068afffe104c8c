import Semicolon.Decimal.Binary64
import Semicolon.Text.Basic
import Semicolon.Toml.Value

/-!
# Toml — strings, numbers, dates and times

A reader takes what it reads from the start of a text and returns what follows.
-/

namespace Semicolon.Toml

/-! ### Characters -/

/-- A blank inside of a line. -/
def isSpace (c : Char) : Bool := c = ' ' || c = '\t'

/-- A character outside of ASCII, or a printable one, or a tabulator. -/
def isInLine (c : Char) : Bool := c = '\t' || (0x20 ≤ c.toNat && c.toNat ≠ 0x7F)

/-- A hexadecimal digit. -/
def isHex (c : Char) : Bool := c.isDigit || ('a' ≤ c && c ≤ 'f') || ('A' ≤ c && c ≤ 'F')

/-- The value of a digit in any base up to 16. -/
def digitValue (c : Char) : Nat :=
  if c.isDigit then c.toNat - '0'.toNat
  else if 'a' ≤ c then c.toNat - 'a'.toNat + 10
  else c.toNat - 'A'.toNat + 10

/-- The number with these digits. -/
def natOfDigits (base : Nat) (ds : List Char) : Nat :=
  ds.foldl (fun n c => base * n + digitValue c) 0

/-- The text behind a line break. -/
def newline? : Text → Option Text
  | '\n' :: t         => some t
  | '\r' :: '\n' :: t => some t
  | _                 => none

/-! ### Strings -/

/-- The character with a code point, given by hexadecimal digits. -/
def codePoint? (ds : List Char) : Option Char :=
  let n := natOfDigits 16 ds
  if ds.all isHex ∧ n.isValidChar then some (.ofNat n) else none

/-- The character that a letter behind a backslash stands for. -/
def escaped? : Char → Option Char
  | 'b'  => some '\x08'
  | 't'  => some '\t'
  | 'n'  => some '\n'
  | 'f'  => some '\x0c'
  | 'r'  => some '\r'
  | '"'  => some '"'
  | '\\' => some '\\'
  | _    => none

/-- Put a character in front of what was read. -/
def push (c : Char) (r : Option (List Char × Text)) : Option (List Char × Text) :=
  r.map fun (cs, t) => (c :: cs, t)

/-- A string up to its double quote. -/
def basic : Text → Option (List Char × Text)
  | '"' :: t => some ([], t)
  | '\\' :: 'u' :: a :: b :: c :: d :: t =>
    codePoint? [a, b, c, d] >>= fun x => push x (basic t)
  | '\\' :: 'U' :: a :: b :: c :: d :: e :: f :: g :: h :: t =>
    codePoint? [a, b, c, d, e, f, g, h] >>= fun x => push x (basic t)
  | '\\' :: c :: t => escaped? c >>= fun x => push x (basic t)
  | c :: t => if c ≠ '\\' ∧ isInLine c then push c (basic t) else none
  | [] => none

/-- A string up to its single quote. -/
def literal : Text → Option (List Char × Text)
  | '\'' :: t => some ([], t)
  | c :: t    => if isInLine c then push c (literal t) else none
  | []        => none

/-- A string of several lines up to its three double quotes; up to two more belong to the string.  A
backslash at the end of a line skips everything up to the next character that is not blank, which
`isSkipping` says. -/
def multilineBasic (isSkipping : Bool) : Text → Option (List Char × Text)
  | '"' :: '"' :: '"' :: '"' :: '"' :: t => some (['"', '"'], t)
  | '"' :: '"' :: '"' :: '"' :: t => some (['"'], t)
  | '"' :: '"' :: '"' :: t => some ([], t)
  | '\r' :: '\n' :: t =>
    if isSkipping then multilineBasic true t else push '\n' (multilineBasic false t)
  | '\\' :: 'u' :: a :: b :: c :: d :: t =>
    codePoint? [a, b, c, d] >>= fun x => push x (multilineBasic false t)
  | '\\' :: 'U' :: a :: b :: c :: d :: e :: f :: g :: h :: t =>
    codePoint? [a, b, c, d, e, f, g, h] >>= fun x => push x (multilineBasic false t)
  | '\\' :: c :: t =>
    match escaped? c with
    | some x => push x (multilineBasic false t)
    | none   =>
      if (newline? ((c :: t).dropWhile isSpace)).isSome then multilineBasic true t else none
  | c :: t =>
    if isSkipping ∧ (isSpace c ∨ c = '\n') then multilineBasic true t
    else if c ≠ '\\' ∧ (isInLine c ∨ c = '\n') then push c (multilineBasic false t)
    else none
  | [] => none

/-- A string of several lines up to its three single quotes; up to two more belong to the string. -/
def multilineLiteral : Text → Option (List Char × Text)
  | '\'' :: '\'' :: '\'' :: '\'' :: '\'' :: t => some (['\'', '\''], t)
  | '\'' :: '\'' :: '\'' :: '\'' :: t => some (['\''], t)
  | '\'' :: '\'' :: '\'' :: t => some ([], t)
  | '\r' :: '\n' :: t => push '\n' (multilineLiteral t)
  | c :: t => if isInLine c ∨ c = '\n' then push c (multilineLiteral t) else none
  | [] => none

/-- A string of either kind, on one line or on several.  A line break right behind three opening
quotes does not belong to the string. -/
def string : Text → Option (String × Text)
  | '"' :: '"' :: '"' :: t    => finish (multilineBasic false ((newline? t).getD t))
  | '\'' :: '\'' :: '\'' :: t => finish (multilineLiteral ((newline? t).getD t))
  | '"' :: t                  => finish (basic t)
  | '\'' :: t                 => finish (literal t)
  | _                         => none
where
  finish (r : Option (List Char × Text)) : Option (String × Text) :=
    r.map fun (cs, t) => (String.ofList cs, t)

/-! ### Numbers -/

/-- More digits, each possibly behind one underscore. -/
def moreDigits (isDigit : Char → Bool) : Text → List Char × Text
  | '_' :: c :: t =>
    if isDigit c then
      let (ds, t) := moreDigits isDigit t
      (c :: ds, t)
    else ([], '_' :: c :: t)
  | c :: t =>
    if isDigit c then
      let (ds, t) := moreDigits isDigit t
      (c :: ds, t)
    else ([], c :: t)
  | [] => ([], [])

/-- Digits, at least one, with single underscores between them. -/
def digits (isDigit : Char → Bool) : Text → Option (List Char × Text)
  | c :: t =>
    if isDigit c then
      let (ds, t) := moreDigits isDigit t
      some (c :: ds, t)
    else none
  | [] => none

/-- A sign, if there is one; true for a minus. -/
def sign : Text → Bool × Text
  | '-' :: t => (true, t)
  | '+' :: t => (false, t)
  | t        => (false, t)

/-- A decimal whole number with its sign; no zero stands in front of other digits. -/
def decimal (t : Text) : Option (Bool × List Char × Text) :=
  let (isNegative, t) := sign t
  match t with
  | '0' :: t => some (isNegative, ['0'], t)
  | t        => (digits Char.isDigit t).map fun (ds, t) => (isNegative, ds, t)

/-- A whole number of 64 bits. -/
def inRange? (n : Int) : Option Int :=
  if -(power 2 63 : Int) ≤ n ∧ n < power 2 63 then some n else none

/-- A whole number in a base other than ten. -/
def based (base : Nat) (isDigit : Char → Bool) (t : Text) : Option (Value × Text) := do
  let (ds, t) ← digits isDigit t
  let n ← inRange? (natOfDigits base ds)
  return (.integer n, t)

/-- A whole number, with its base in front if it is not ten. -/
def integer : Text → Option (Value × Text)
  | '0' :: 'x' :: t => based 16 isHex t
  | '0' :: 'o' :: t => based 8 (fun c => '0' ≤ c && c ≤ '7') t
  | '0' :: 'b' :: t => based 2 (fun c => c = '0' || c = '1') t
  | t => do
    let (isNegative, ds, t) ← decimal t
    let n : Int := natOfDigits 10 ds
    let n ← inRange? (if isNegative then -n else n)
    return (.integer n, t)

/-- The digits behind a point. -/
def fraction? : Text → Option (List Char × Text)
  | '.' :: t => digits Char.isDigit t
  | _        => none

/-- The exponent behind its letter. -/
def exponent? : Text → Option (Int × Text)
  | c :: t =>
    if c = 'e' ∨ c = 'E' then do
      let (isNegative, t) := sign t
      let (ds, t) ← digits Char.isDigit t
      let n : Int := natOfDigits 10 ds
      return (if isNegative then -n else n, t)
    else none
  | [] => none

/-- The number `digits · 10 ^ exponent` is too large for a float.  The first tests spare huge powers
of ten. -/
def isTooLarge (ds : List Char) (exponent : Int) : Bool :=
  let n := natOfDigits 10 ds
  if n = 0 ∨ ds.length + exponent < 300 then false
  else if 700 < (Nat.toDigits 10 n).length + exponent then true
  else (Binary64.ofRatio? (n * power 10 exponent) (power 10 (-exponent))).isNone

/-- A float: a decimal number with a fraction, an exponent or both, or the word `inf` or `nan`.  A
positive one that is too large is refused. -/
def float (t : Text) : Option (Value × Text) :=
  match (sign t).2 with
  | 'i' :: 'n' :: 'f' :: t => some (.float, t)
  | 'n' :: 'a' :: 'n' :: t => some (.float, t)
  | _ => do
    let (isNegative, whole, t) ← decimal t
    let fraction := fraction? t
    let (ds, t) := fraction.getD ([], t)
    let exponent := exponent? t
    if fraction.isNone && exponent.isNone then none
    else
      let (n, t) := exponent.getD (0, t)
      if !isNegative && isTooLarge (whole ++ ds) (n - ds.length) then none else some (.float, t)

/-! ### Dates and times -/

/-- A number of exactly `count` digits, between two bounds. -/
def fixedDigits (count low high : Nat) (t : Text) : Option (Nat × Text) :=
  let ds := t.take count
  let n := natOfDigits 10 ds
  if ds.length = count ∧ ds.all Char.isDigit ∧ low ≤ n ∧ n ≤ high then some (n, t.drop count)
  else none

/-- What follows a character. -/
def after? (c : Char) : Text → Option Text
  | d :: t => if d = c then some t else none
  | []     => none

/-- The number of days of a month. -/
def monthLength (year month : Nat) : Nat :=
  let isLeap := year % 4 = 0 ∧ (year % 100 ≠ 0 ∨ year % 400 = 0)
  if month = 2 then (if isLeap then 29 else 28)
  else if month = 4 ∨ month = 6 ∨ month = 9 ∨ month = 11 then 30
  else 31

/-- What follows a date. -/
def date? (t : Text) : Option Text := do
  let (year, t) ← fixedDigits 4 0 9999 t
  let t ← after? '-' t
  let (month, t) ← fixedDigits 2 1 12 t
  let t ← after? '-' t
  let (_, t) ← fixedDigits 2 1 (monthLength year month) t
  return t

/-- What follows a fraction of a second, if there is one. -/
def secondFraction : Text → Option Text
  | '.' :: t =>
    match t with
    | c :: _ => if c.isDigit then some (t.dropWhile Char.isDigit) else none
    | []     => none
  | t => some t

/-- What follows a time of the day. -/
def time? (t : Text) : Option Text := do
  let (_, t) ← fixedDigits 2 0 23 t
  let t ← after? ':' t
  let (_, t) ← fixedDigits 2 0 59 t
  let t ← after? ':' t
  let (_, t) ← fixedDigits 2 0 60 t
  secondFraction t

/-- What follows the offset of a time zone. -/
def zone? : Text → Option Text
  | [] => none
  | c :: t =>
    if c = 'Z' ∨ c = 'z' then some t
    else if c = '+' ∨ c = '-' then do
      let (_, t) ← fixedDigits 2 0 23 t
      let t ← after? ':' t
      let (_, t) ← fixedDigits 2 0 59 t
      return t
    else none

/-- What follows the time behind a date, with its time zone, if there is one. -/
def timeOfDate? : Text → Option Text
  | [] => none
  | c :: t =>
    if c = 'T' ∨ c = 't' ∨ c = ' ' then (time? t).map fun t => (zone? t).getD t
    else none

/-- A date, a time, or a date with a time. -/
def moment (t : Text) : Option (Value × Text) :=
  match date? t with
  | some t => some (.moment, (timeOfDate? t).getD t)
  | none   => (time? t).map (.moment, ·)

/-! ### Scalars -/

/-- A boolean word. -/
def boolean : Text → Option (Value × Text)
  | 't' :: 'r' :: 'u' :: 'e' :: t        => some (.boolean true, t)
  | 'f' :: 'a' :: 'l' :: 's' :: 'e' :: t => some (.boolean false, t)
  | _                                    => none

/-- A value that is not a container. -/
def scalar (t : Text) : Option (Value × Text) :=
  ((string t).map fun (s, t) => (.string s, t))
    <|> boolean t <|> moment t <|> float t <|> integer t

end Semicolon.Toml
