/-!
# Text — characters, bytes and marks

A text is a list of characters.  Offsets into it count the bytes of its UTF-8 form, so they are
measures of prefixes.

* `takeBytes_append_dropBytes`: a cut at a byte offset loses nothing.  An offset inside a character
  cuts before that character, and an offset past the end cuts at the end.
* `splitFirst?` and `splitLast?` cut a text around the first and the last place where a mark
  stands.
-/

namespace Semicolon

/-- A text, as the list of its characters. -/
abbrev Text := List Char

namespace Text

/-! ### Byte offsets -/

/-- The number of bytes of the UTF-8 form. -/
def byteSize : Text → Nat
  | []     => 0
  | c :: t => c.utf8Size + byteSize t

/-- The longest prefix of at most `n` bytes. -/
def takeBytes : Nat → Text → Text
  | _, []     => []
  | n, c :: t => if c.utf8Size ≤ n then c :: takeBytes (n - c.utf8Size) t else []

/-- What `takeBytes` leaves. -/
def dropBytes : Nat → Text → Text
  | _, []     => []
  | n, c :: t => if c.utf8Size ≤ n then dropBytes (n - c.utf8Size) t else c :: t

@[simp] theorem byteSize_nil : byteSize [] = 0 := rfl

@[simp] theorem byteSize_cons (c : Char) (t : Text) :
    byteSize (c :: t) = c.utf8Size + byteSize t := rfl

@[simp] theorem byteSize_append (s t : Text) : byteSize (s ++ t) = byteSize s + byteSize t := by
  induction s with
  | nil => simp
  | cons c s ih => simp [ih, Nat.add_assoc]

/-- A cut loses nothing. -/
theorem takeBytes_append_dropBytes (n : Nat) (t : Text) : takeBytes n t ++ dropBytes n t = t := by
  induction t generalizing n with
  | nil => rfl
  | cons c t ih => by_cases h : c.utf8Size ≤ n <;> simp [takeBytes, dropBytes, h, ih]

/-! ### Marks -/

/-- `mark` stands at the start of the text. -/
def startsWith (t mark : Text) : Bool := mark.isPrefixOf t

/-- `mark` stands at the end of the text. -/
def endsWith (t mark : Text) : Bool := mark.isSuffixOf t

/-- What stands before and after the first place where `mark` stands. -/
def splitFirst? (mark : Text) : Text → Option (Text × Text)
  | []     => if mark.isEmpty then some ([], []) else none
  | c :: t =>
    if mark.isPrefixOf (c :: t) then some ([], (c :: t).drop mark.length)
    else (splitFirst? mark t).map fun (before, after) => (c :: before, after)

/-- What stands before and after the last place where `mark` stands. -/
def splitLast? (mark : Text) : Text → Option (Text × Text)
  | []     => if mark.isEmpty then some ([], []) else none
  | c :: t =>
    match splitLast? mark t with
    | some (before, after) => some (c :: before, after)
    | none =>
      if mark.isPrefixOf (c :: t) then some ([], (c :: t).drop mark.length) else none

/-- `mark` stands somewhere in the text. -/
def containsMark (t mark : Text) : Bool := (splitFirst? mark t).isSome

end Text

end Semicolon
