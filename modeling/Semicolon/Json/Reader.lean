import Semicolon.Json.Number

/-!
# Json — reading

A text is cut into tokens, and an automaton with a stack of open containers reads the tokens.  A
token that cannot be read is a token too: it carries its failure, which counts if the automaton
gets that far and if such a token may stand there.

* `State.step`: what the automaton does with one token; `Frame` is an open container.
* `read`: the value of a text.  Between any two tokens there may be blanks, containers may be nested
  127 deep, and of two members with one name the later counts.
-/

namespace Semicolon.Json

/-! ### Strings -/

/-- The value of a hexadecimal digit. -/
def hexValue? (c : Char) : Option Nat :=
  if c.isDigit then some (c.toNat - '0'.toNat)
  else if 'a' ≤ c && c ≤ 'f' then some (c.toNat - 'a'.toNat + 10)
  else if 'A' ≤ c && c ≤ 'F' then some (c.toNat - 'A'.toNat + 10)
  else none

/-- The value of hexadecimal digits. -/
def hexNumber? (ds : List Char) : Option Nat :=
  ds.foldlM (fun n c => (hexValue? c).map (16 * n + ·)) 0

/-- The four hexadecimal digits at the start of the text.  The text ends too early if fewer than
four bytes are left. -/
def hexUnit (t : Text) : Except Failure (Nat × Text) :=
  if Text.byteSize (t.take 4) < 4 then .error .endOfText
  else
    match hexNumber? (t.take 4) with
    | some n => .ok (n, t.drop 4)
    | none   => .error .unexpected

/-- The rest behind a character that has to stand at the start of the text. -/
def expect (c : Char) : Text → Except Failure Text
  | []     => .error .endOfText
  | d :: t => if d = c then .ok t else .error .unexpected

/-- The character of a hexadecimal escape, behind its `\u`.  A character outside of the basic plane
is written as two escapes, a high and a low surrogate; neither stands alone. -/
def hexEscape (t : Text) : Except Failure (Char × Text) := do
  let (high, t) ← hexUnit t
  if 0xDC00 ≤ high ∧ high ≤ 0xDFFF then throw .unexpected
  if high < 0xD800 ∨ 0xDBFF < high then return (.ofNat high, t)
  let t ← expect '\\' t
  let t ← expect 'u' t
  let (low, t) ← hexUnit t
  if low < 0xDC00 ∨ 0xDFFF < low then throw .unexpected
  return (.ofNat (0x10000 + (high - 0xD800) * 0x400 + (low - 0xDC00)), t)

/-- The character of an escape, behind its backslash. -/
def escape : Text → Except Failure (Char × Text)
  | []       => .error .endOfText
  | '"' :: t  => .ok ('"', t)
  | '\\' :: t => .ok ('\\', t)
  | '/' :: t  => .ok ('/', t)
  | 'b' :: t  => .ok ('\x08', t)
  | 'f' :: t  => .ok ('\x0c', t)
  | 'n' :: t  => .ok ('\n', t)
  | 'r' :: t  => .ok ('\r', t)
  | 't' :: t  => .ok ('\t', t)
  | 'u' :: t  => hexEscape t
  | _ :: _    => .error .unexpected

/-- The characters of a string, behind its opening quote, and what follows the closing one.  Every
step reads a character, so the length of the text is fuel enough. -/
def stringBody : Nat → Text → Except Failure (List Char × Text)
  | 0,        _         => .error .endOfText
  | _ + 1,    []        => .error .endOfText
  | _ + 1,    '"' :: t  => .ok ([], t)
  | fuel + 1, '\\' :: t => do
    let (c, t) ← escape t
    let (cs, t) ← stringBody fuel t
    return (c :: cs, t)
  | fuel + 1, c :: t    =>
    if c.toNat < 0x20 then .error .unexpected
    else do
      let (cs, t) ← stringBody fuel t
      return (c :: cs, t)

/-! ### Tokens -/

inductive Token where
  | openArray
  | closeArray
  | openObject
  | closeObject
  | comma
  | colon
  | scalar (v : Value)
  | string (s : String)
  /-- A token that cannot be read; `isString` if it begins with a quote. -/
  | broken (failure : Failure) (isString : Bool)

/-- The characters between tokens. -/
def isSpace (c : Char) : Bool := c = ' ' || c = '\n' || c = '\t' || c = '\r'

/-- What follows a word that has to stand at the start of the text. -/
def expectWord (word : List Char) (t : Text) : Except Failure Text :=
  word.foldlM (fun t c => expect c t) t

/-- The token that begins with the character `c`, and what follows it. -/
def token (c : Char) (t : Text) : Except Failure (Token × Text) :=
  match c with
  | '[' => .ok (.openArray, t)
  | ']' => .ok (.closeArray, t)
  | '{' => .ok (.openObject, t)
  | '}' => .ok (.closeObject, t)
  | ',' => .ok (.comma, t)
  | ':' => .ok (.colon, t)
  | 'n' => (expectWord "ull".toList t).map (.scalar .null, ·)
  | 't' => (expectWord "rue".toList t).map (.scalar (.boolean true), ·)
  | 'f' => (expectWord "alse".toList t).map (.scalar (.boolean false), ·)
  | '"' => (stringBody (t.length + 1) t).map fun (cs, t) => (.string (String.ofList cs), t)
  | c   =>
    if c = '-' || c.isDigit then (number (c :: t)).map fun (n, t) => (.scalar (.number n), t)
    else .error .unexpected

/-- The tokens of a text; nothing follows a broken one.  Every token has a character, so the length
of the text is fuel enough. -/
def tokens : Nat → Text → List Token
  | 0,        _ => []
  | fuel + 1, t =>
    match t.dropWhile isSpace with
    | []     => []
    | c :: t =>
      match token c t with
      | .ok (k, t)      => k :: tokens fuel t
      | .error failure => [.broken failure (c = '"')]

/-! ### The automaton -/

/-- A container that is still open, with what it holds so far, the newest first. -/
inductive Frame where
  | array (items : List Value)
  /-- An object that waits for the value of the member `name`. -/
  | object (members : List (String × Value)) (name : String)

/-- What may come next, inside of the open containers. -/
inductive State where
  | value (frames : List Frame)
  /-- Right behind the opening of an array. -/
  | firstItem (frames : List Frame)
  | nextItem (items : List Value) (frames : List Frame)
  /-- Right behind the opening of an object. -/
  | firstMember (frames : List Frame)
  | memberName (members : List (String × Value)) (frames : List Frame)
  | colon (members : List (String × Value)) (name : String) (frames : List Frame)
  | nextMember (members : List (String × Value)) (frames : List Frame)
  | done (v : Value)

namespace State

/-- A value is complete. -/
def supply (v : Value) : List Frame → State
  | []                             => .done v
  | .array items :: frames         => .nextItem (v :: items) frames
  | .object members name :: frames => .nextMember ((name, v) :: members) frames

/-- The deepest nesting of containers. -/
def maxDepth : Nat := 127

/-- A value begins. -/
def begin (frames : List Frame) : Token → Except Failure State
  | .scalar v         => .ok (supply v frames)
  | .string s         => .ok (supply (.string s) frames)
  | .openArray        =>
    if frames.length < maxDepth then .ok (.firstItem frames) else .error .unexpected
  | .openObject       =>
    if frames.length < maxDepth then .ok (.firstMember frames) else .error .unexpected
  | .broken failure _ => .error failure
  | _                 => .error .unexpected

/-- The name of a member begins. -/
def beginName (members : List (String × Value)) (frames : List Frame) :
    Token → Except Failure State
  | .string s            => .ok (.colon members s frames)
  | .broken failure true => .error failure
  | _                    => .error .unexpected

/-- The object with the members that were written, the newest first. -/
def objectOf (members : List (String × Value)) : Value := .object (Members.sorted members.reverse)

/-- Read one token. -/
def step : State → Token → Except Failure State
  | .value frames,               k            => begin frames k
  | .firstItem frames,           .closeArray  => .ok (supply (.array []) frames)
  | .firstItem frames,           k            => begin (.array [] :: frames) k
  | .nextItem items frames,      .comma       => .ok (.value (.array items :: frames))
  | .nextItem items frames,      .closeArray  => .ok (supply (.array items.reverse) frames)
  | .firstMember frames,         .closeObject => .ok (supply (.object []) frames)
  | .firstMember frames,         k            => beginName [] frames k
  | .memberName members frames,  k            => beginName members frames k
  | .colon members name frames,  .colon       => .ok (.value (.object members name :: frames))
  | .nextMember members frames,  .comma       => .ok (.memberName members frames)
  | .nextMember members frames,  .closeObject => .ok (supply (objectOf members) frames)
  | _,                           _            => .error .unexpected

/-- The value, if it is complete. -/
def finish : State → Except Failure Value
  | .done v => .ok v
  | _       => .error .endOfText

end State

/-- The value that a text holds. -/
def read (t : Text) : Except Failure Value := do
  (← (tokens (t.length + 1) t).foldlM State.step (.value [])).finish

end Semicolon.Json
