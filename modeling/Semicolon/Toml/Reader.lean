import Semicolon.Toml.Scalar

/-!
# Toml — keys, values and documents

A document is read line by line into a table.  While lines follow a header, their keys go into the
table of the header, which is put into the document when the next header comes or the text ends.

* `value`: containers may be nested 79 deep; the depth that is left is what the reader recurs on.
* `Builder`: the document so far and the table that is being filled.
* `read`: the table of a text, if the text is well formed.  A byte order mark may precede it.
-/

namespace Semicolon.Toml

/-! ### Keys -/

/-- A character of a key without quotes. -/
def isBare (c : Char) : Bool := c.isAlphanum || c = '_' || c = '-'

/-- One part of a key: a string on one line, or bare characters. -/
def keyPart : Text → Option (String × Text)
  | '"' :: t  => (basic t).map fun (cs, t) => (String.ofList cs, t)
  | '\'' :: t => (literal t).map fun (cs, t) => (String.ofList cs, t)
  | t =>
    if (t.takeWhile isBare).isEmpty then none
    else some (String.ofList (t.takeWhile isBare), t.dropWhile isBare)

/-- The parts of a key, with points and blanks between them.  Every part has a character, so the
length of the text is fuel enough. -/
def keyParts : Nat → Text → Option (List String × Text)
  | 0,        _ => none
  | fuel + 1, t => do
    let (part, t) ← keyPart (t.dropWhile isSpace)
    match t.dropWhile isSpace with
    | '.' :: t => do
      let (parts, t) ← keyParts fuel t
      return (part :: parts, t)
    | t => return ([part], t)

/-- Keys and containers go 79 deep. -/
def maxDepth : Nat := 79

/-- A key, with what stands in front of its last part. -/
def key (t : Text) : Option (List String × String × Text) := do
  let (parts, t) ← keyParts (t.length + 1) t
  if parts.length ≤ maxDepth then
    let last ← parts.getLast?
    return (parts.dropLast, last, t)
  else none

/-! ### Values -/

/-- What follows blanks, line breaks and comments; `isComment` in a comment, which a line break has
to end. -/
def skipLines (isComment : Bool) : Text → Option Text
  | '\n' :: t         => skipLines false t
  | '\r' :: '\n' :: t => skipLines false t
  | c :: t =>
    if isComment then (if isInLine c then skipLines true t else none)
    else if isSpace c then skipLines false t
    else if c = '#' then skipLines true t
    else some (c :: t)
  | [] => if isComment then none else some []

/-- The items of an array up to its closing bracket; a comma may follow the last one. -/
def items (item : Text → Option (Value × Text)) : Nat → Text → Option (List Value × Text)
  | 0,        _ => none
  | fuel + 1, t => do
    match ← skipLines false t with
    | ']' :: t => return ([], t)
    | t =>
      let (v, t) ← item t
      match ← skipLines false t with
      | ',' :: t => do
        let (vs, t) ← items item fuel t
        return (v :: vs, t)
      | ']' :: t => return ([v], t)
      | _ => none

/-- A key, an equals sign and a value. -/
def keyValue (value : Text → Option (Value × Text)) (t : Text) :
    Option ((Table → Option Table) × Text) := do
  let (path, last, t) ← key t
  let t ← after? '=' t
  let (v, t) ← value (t.dropWhile isSpace)
  return (Table.insert? path last v, t.dropWhile isSpace)

/-- The entries of a table up to its closing brace, all on one line, added to `table`. -/
def entries (value : Text → Option (Value × Text)) :
    Nat → Table → Text → Option (Table × Text)
  | 0,        _,     _ => none
  | fuel + 1, table, t => do
    let (add, t) ← keyValue value t
    let table ← add table
    match t with
    | ',' :: t => entries value fuel table t
    | '}' :: t => return (table, t)
    | _        => none

/-- A value with at most `depth` containers around its scalars. -/
def value : Nat → Text → Option (Value × Text)
  | depth + 1, '[' :: t => (items (value depth) (t.length + 1) t).map fun (vs, t) => (.array vs, t)
  | depth + 1, '{' :: t =>
    match t.dropWhile isSpace with
    | '}' :: t => some (.table .inline [], t)
    | t        =>
      (entries (value depth) (t.length + 1) [] t).map fun (es, t) => (.table .inline es, t)
  | _,         t        => scalar t

/-! ### Documents -/

/-- A document that is being read. -/
structure Builder where
  document : Table
  /-- The table that is being filled. -/
  current : Table
  /-- The keys in front of the last key of its header. -/
  path : List String
  /-- The last key of its header, if a header names it. -/
  key? : Option String
  /-- The header stands in double brackets. -/
  isElement : Bool

namespace Builder

def empty : Builder := ⟨[], [], [], none, false⟩

/-- Put the table that is being filled into the document. -/
def close (b : Builder) : Option Table :=
  match b.key? with
  | none     => some b.current
  | some key =>
    let place (_ : Origin) (t : Table) : Option (Table × Unit) :=
      if b.isElement then
        match t.get? key with
        | none                    => some (t.put key (.tables [b.current]), ())
        | some (.tables elements) => some (t.put key (.tables (b.current :: elements)), ())
        | some _                  => none
      else some (t.put key (.table .header b.current), ())
    (b.document.descend false place b.path .header).map Prod.fst

/-- A header begins the table under a key: a new one, or one that until now only lay on the way to
others. -/
def openTable (path : List String) (key : String) (b : Builder) : Option Builder := do
  let document ← b.close
  let place (_ : Origin) (t : Table) : Option (Table × Table) :=
    match t.get? key with
    | none                      => some (t, [])
    | some (.table .path child) => some (t, child)
    | some _                    => none
  let (document, current) ← document.descend false place path .header
  return ⟨document, current, path, some key, false⟩

/-- A header in double brackets begins one more table under a key. -/
def openElement (path : List String) (key : String) (b : Builder) : Option Builder := do
  let document ← b.close
  let place (_ : Origin) (t : Table) : Option (Table × Unit) :=
    match t.get? key with
    | none | some (.tables _) => some (t, ())
    | some _                  => none
  let (document, ()) ← document.descend false place path .header
  return ⟨document, [], path, some key, true⟩

end Builder

/-- What follows the end of a line, behind a comment if there is one. -/
def lineEnd? (t : Text) : Option Text :=
  let t := match t.dropWhile isSpace with
    | '#' :: t => t.dropWhile isInLine
    | t        => t
  if t.isEmpty then some [] else newline? t

/-- Read one line that is not blank, but without its end. -/
def line (b : Builder) : Text → Option (Builder × Text)
  | '#' :: t => some (b, '#' :: t)
  | '[' :: '[' :: t => do
    let (path, last, t) ← key t
    let t ← after? ']' t
    let t ← after? ']' t
    return (← b.openElement path last, t)
  | '[' :: t => do
    let (path, last, t) ← key t
    let t ← after? ']' t
    return (← b.openTable path last, t)
  | t => do
    let (add, t) ← keyValue (value maxDepth) t
    return ({ b with current := ← add b.current }, t)

/-- Read the lines of a document.  Every line has a character, so the length of the text is fuel
enough. -/
def lines : Nat → Builder → Text → Option Table
  | 0,        _, _ => none
  | fuel + 1, b, t =>
    let t := t.dropWhile isSpace
    if t.isEmpty then b.close
    else
      match newline? t with
      | some t => lines fuel b t
      | none   => do
        let (b, t) ← line b t
        lines fuel b (← lineEnd? t)

/-- The text without the byte order mark at its start. -/
def dropMark : Text → Text
  | '\uFEFF' :: t => t
  | t             => t

/-- The table of a document. -/
def read (t : Text) : Option Table := lines (t.length + 1) .empty (dropMark t)

end Semicolon.Toml
