import Mathlib.Data.List.Basic
import Semicolon.Proofs.Literal.Body
import Semicolon.Proofs.Literal.Quotes
import Semicolon.Proofs.Text.Bytes

/-!
# Literal — the count of quotes on ordinary literals

`isInside` counts quotes instead of reading literals.  On a text in pieces (`Pieces`), where
literals hold other quotes only behind a backslash and no backslash stands for itself, the count is
exact.

* `Body.unescapedCount_eq_zero`: no quote counts inside of such a literal, however far it is read.
* `IsSettled`: behind a piece every kind of quote stands an even number of times, and no backslash
  is left to hide the next one.
* `IsSettled.endsInside_open`: behind the quote that opens a literal its kind is odd.

**Main result** (`isInside_iff`).  A place is inside of a string exactly if it stands behind the
opening quote of a literal and not behind its closing quote.
-/

namespace Semicolon.Literal

open Text

/-! ### Texts in pieces -/

/-- A quote with what follows it up to the next quote of its kind. -/
structure Ordinary where
  quote : Char
  body : Text
  quote_mem : quote ∈ quotes
  body_ordinary : Body (· ∉ quotes) (· ≠ '\\') body

/-- A part of a text outside of literals, or a literal with its two quotes. -/
inductive Piece where
  | plain (t : Text) (quoteless : Quoteless t) (no_backslash : '\\' ∉ t)
  | literal (l : Ordinary)

/-- Pieces, and at their end possibly a literal that is not closed. -/
structure Pieces where
  closed : List Piece
  unclosed : Option Ordinary

/-- The literal up to its closing quote. -/
def Ordinary.opened (l : Ordinary) : Text := l.quote :: l.body

def Piece.text : Piece → Text
  | .plain t _ _ => t
  | .literal l   => l.opened ++ [l.quote]

def Pieces.text (p : Pieces) : Text :=
  p.closed.flatMap Piece.text ++ p.unclosed.elim [] Ordinary.opened

/-- The place stands behind the opening quote of a literal and not behind its closing quote. -/
def Pieces.Encloses (p : Pieces) (offset : Nat) : Prop :=
  (∃ front l behind, p.closed = front ++ .literal l :: behind ∧
    byteSize (front.flatMap Piece.text) < offset ∧
    offset ≤ byteSize (front.flatMap Piece.text) + byteSize l.opened) ∨
  ∃ l ∈ p.unclosed, byteSize (p.closed.flatMap Piece.text) < offset

/-! ### Inside of a literal -/

/-- Inside of a literal no quote counts, however far it is read. -/
theorem Body.unescapedCount_eq_zero {body : Text} (h : Body (· ∉ quotes) (· ≠ '\\') body)
    {quote : Char} (hquote : quote ∈ quotes) {before : Option Char} (hbefore : before ≠ some '\\')
    {part : Text} (hpart : part <+: body) : unescapedCount quote before part = 0 := by
  induction h generalizing before part with
  | nil =>
    obtain rfl := List.prefix_nil.mp hpart
    rfl
  | @char c t hc halone _ ih =>
    rcases List.prefix_cons_iff.mp hpart with rfl | ⟨rest, rfl, hrest⟩
    · rfl
    have hne : c ≠ quote := fun heq => halone (heq ▸ hquote)
    rw [unescapedCount, if_neg fun hq => hne hq.1, ih (by simpa using hc) hrest]
  | @pair c t hc _ ih =>
    rcases List.prefix_cons_iff.mp hpart with rfl | ⟨rest, rfl, hrest⟩
    · rfl
    have hbackslash : '\\' ≠ quote := (ne_of_mem_of_not_mem hquote (by decide)).symm
    rw [unescapedCount, if_neg fun hq => hbackslash hq.1]
    -- the backslash hides the next character, and that is none to hide another
    rcases List.prefix_cons_iff.mp hrest with rfl | ⟨rest', rfl, hrest'⟩
    · rfl
    · rw [unescapedCount, if_neg fun hq => hq.2 rfl, ih (by simpa using hc) hrest']

/-- A body does not end in a backslash that would hide the next character. -/
theorem Body.getLast?_ne {body : Text} (h : Body (· ∉ quotes) (· ≠ '\\') body) :
    body.getLast? ≠ some '\\' := by
  induction h with
  | nil => simp
  | @char c t hc _ _ ih =>
    cases t with
    | nil => simpa using hc
    | cons d t => rwa [List.getLast?_cons_cons]
  | @pair c t hc _ ih =>
    rw [List.getLast?_cons_cons]
    cases t with
    | nil => simpa using hc
    | cons d t => rwa [List.getLast?_cons_cons]

theorem Ordinary.quote_ne_backslash (l : Ordinary) : l.quote ≠ '\\' :=
  ne_of_mem_of_not_mem l.quote_mem (by decide)

/-- No backslash of a literal is left to hide its closing quote. -/
theorem Ordinary.getLast?_opened_ne (l : Ordinary) : l.opened.getLast? ≠ some '\\' := by
  have hbody := l.body_ordinary.getLast?_ne
  rw [opened]
  cases h : l.body with
  | nil => simpa using l.quote_ne_backslash
  | cons c t =>
    rw [h] at hbody
    rwa [List.getLast?_cons_cons]

/-! ### Behind a piece -/

/-- Behind the text no literal is open, and no backslash hides the next character. -/
structure IsSettled (front : Text) : Prop where
  even : ∀ quote ∈ quotes, unescapedCount quote none front % 2 = 0
  last_ne : front.getLast? ≠ some '\\'

namespace IsSettled

theorem nil : IsSettled [] := ⟨fun _ _ => rfl, by simp⟩

variable {front : Text} (h : IsSettled front)

include h

/-- The end of such a text is outside of strings. -/
theorem endsInside_eq : endsInside front = false := endsInside_eq_false_iff.mpr h.even

/-- Text outside of literals leaves it so. -/
theorem append_plain {t : Text} (hquoteless : Quoteless t) (hbackslash : '\\' ∉ t) :
    IsSettled (front ++ t) := by
  constructor
  · intro quote hquote
    rw [unescapedCount_append, unescapedCount_of_notMem (hquoteless quote hquote), Nat.add_zero,
      h.even quote hquote]
  · rw [List.getLast?_append]
    intro hlast
    cases ht : t.getLast? with
    | none => exact h.last_ne (by simpa [ht] using hlast)
    | some c => exact hbackslash (List.mem_of_getLast? (by simpa [ht] using hlast))

/-- Of the kinds of quotes only that of the literal counts once more than in front of it. -/
theorem unescapedCount_open (l : Ordinary) {part : Text} (hpart : part <+: l.body) {quote : Char}
    (hquote : quote ∈ quotes) : unescapedCount quote none (front ++ l.quote :: part) =
      unescapedCount quote none front + if l.quote = quote then 1 else 0 := by
  have hbefore : front.getLast?.or none ≠ some '\\' := by rw [Option.or_none]; exact h.last_ne
  have hopening : some l.quote ≠ some '\\' := by simpa using l.quote_ne_backslash
  rw [unescapedCount_append, unescapedCount,
    l.body_ordinary.unescapedCount_eq_zero hquote hopening hpart, Nat.add_zero]
  simp only [hbefore, ne_eq, not_false_eq_true, and_true]

/-- Behind the quote that opens a literal the place is inside of a string. -/
theorem endsInside_open (l : Ordinary) {part : Text} (hpart : part <+: l.body) :
    endsInside (front ++ l.quote :: part) = true := by
  have heven := h.even l.quote l.quote_mem
  refine endsInside_iff.mpr ⟨l.quote, l.quote_mem, ?_⟩
  rw [h.unescapedCount_open l hpart l.quote_mem, if_pos rfl]
  omega

/-- Behind the closing quote the literal has counted twice. -/
theorem append_literal (l : Ordinary) : IsSettled (front ++ (Piece.literal l).text) := by
  have hopened : l.opened ≠ [] := List.cons_ne_nil _ _
  have hlast : (front ++ l.opened).getLast?.or none ≠ some '\\' := by
    rw [Option.or_none, List.getLast?_append_of_ne_nil _ hopened]
    exact l.getLast?_opened_ne
  rw [Piece.text, ← List.append_assoc]
  constructor
  · intro quote hquote
    have hopen := h.unescapedCount_open l (List.prefix_refl _) hquote
    have heven := h.even quote hquote
    rw [unescapedCount_append, Ordinary.opened, hopen, ← Ordinary.opened]
    simp only [unescapedCount, hlast, ne_eq, not_false_eq_true, and_true]
    -- the quote of the literal counts once at each of its ends, the other kinds nowhere
    split <;> omega
  · rw [List.getLast?_concat]
    simpa using l.quote_ne_backslash

/-- So does every piece. -/
theorem append_piece (x : Piece) : IsSettled (front ++ x.text) := by
  cases x with
  | plain t hquoteless hbackslash => exact h.append_plain hquoteless hbackslash
  | literal l => exact h.append_literal l

/-! ### One piece -/

/-- A literal that is not closed yet is entered with its first character. -/
theorem endsInside_opened_iff (l : Ordinary) (offset : Nat) :
    endsInside (front ++ takeBytes offset l.opened) = true ↔ 0 < offset := by
  cases Nat.eq_zero_or_pos offset with
  | inl hzero =>
    subst hzero
    rw [takeBytes_zero, List.append_nil, h.endsInside_eq]
    decide
  | inr hpos =>
    rw [Ordinary.opened, takeBytes, utf8Size_of_quote l.quote_mem,
      if_pos (show 1 ≤ offset from hpos), h.endsInside_open l (takeBytes_isPrefix _ _)]
    exact iff_of_true rfl hpos

/-- In front of the end of a piece, the places inside are those of a literal behind its opening
quote. -/
theorem endsInside_piece_iff (x : Piece) {offset : Nat} (hoffset : offset < byteSize x.text) :
    endsInside (front ++ takeBytes offset x.text) = true ↔
      ∃ l, x = .literal l ∧ 0 < offset ∧ offset ≤ byteSize l.opened := by
  cases x with
  | plain t hquoteless hbackslash =>
    have hpart := takeBytes_isPrefix offset t
    have hsettled := h.append_plain (hquoteless.of_isPrefix hpart)
      fun hmem => hbackslash (hpart.subset hmem)
    rw [Piece.text, hsettled.endsInside_eq]
    simp
  | literal l =>
    have hle : offset ≤ byteSize l.opened := by
      simp only [Piece.text, byteSize_append, byteSize_cons, byteSize_nil,
        utf8Size_of_quote l.quote_mem] at hoffset
      omega
    rw [Piece.text, takeBytes_append_of_le hle, h.endsInside_opened_iff]
    simp [hle]

end IsSettled

/-! ### All pieces -/

namespace Pieces

theorem text_cons (x : Piece) (closed : List Piece) (unclosed : Option Ordinary) :
    text ⟨x :: closed, unclosed⟩ = x.text ++ text ⟨closed, unclosed⟩ := by
  simp [text]

/-- A place is inside of the first piece, or of a later one if it stands behind the first. -/
theorem encloses_cons (x : Piece) (closed : List Piece) (unclosed : Option Ordinary)
    (offset : Nat) :
    Encloses ⟨x :: closed, unclosed⟩ offset ↔
      (∃ l, x = .literal l ∧ 0 < offset ∧ offset ≤ byteSize l.opened) ∨
      Encloses ⟨closed, unclosed⟩ (offset - byteSize x.text) := by
  simp only [Encloses, List.flatMap_cons, byteSize_append]
  constructor
  · rintro (⟨front, l, behind, hclosed, hlt, hle⟩ | ⟨l, hl, hlt⟩)
    · rcases List.cons_eq_append_iff.mp hclosed with ⟨rfl, heq⟩ | ⟨front, rfl, hrest⟩
      · obtain ⟨rfl, -⟩ := List.cons.inj heq
        exact .inl ⟨l, rfl, by simpa using hlt, by simpa using hle⟩
      · rw [List.flatMap_cons, byteSize_append] at hlt hle
        exact .inr (.inl ⟨front, l, behind, hrest, by omega, by omega⟩)
    · exact .inr (.inr ⟨l, hl, by omega⟩)
  · rintro (⟨l, rfl, hlt, hle⟩ | ⟨front, l, behind, rfl, hlt, hle⟩ | ⟨l, hl, hlt⟩)
    · exact .inl ⟨[], l, closed, rfl, by simpa using hlt, by simpa using hle⟩
    · refine .inl ⟨x :: front, l, behind, rfl, ?_, ?_⟩
      all_goals rw [List.flatMap_cons, byteSize_append]; omega
    · exact .inr ⟨l, hl, by omega⟩

/-- Behind settled text, the places inside of strings are those that the pieces enclose. -/
theorem endsInside_iff (p : Pieces) {front : Text} (h : IsSettled front) (offset : Nat) :
    endsInside (front ++ takeBytes offset p.text) = true ↔ p.Encloses offset := by
  obtain ⟨closed, unclosed⟩ := p
  induction closed generalizing front offset with
  | nil =>
    cases unclosed with
    | none => simp [text, Encloses, takeBytes, h.endsInside_eq]
    | some l => simpa [text, Encloses] using h.endsInside_opened_iff l offset
  | cons x closed ih =>
    rw [text_cons, encloses_cons]
    cases Nat.lt_or_ge offset (byteSize x.text) with
    | inl hlt =>
      -- the cut is in the first piece, in front of all the others
      have hno : ¬ Encloses ⟨closed, unclosed⟩ 0 := by simp [Encloses]
      rw [takeBytes_append_of_le (Nat.le_of_lt hlt), h.endsInside_piece_iff x hlt,
        Nat.sub_eq_zero_of_le (Nat.le_of_lt hlt)]
      simp [hno]
    | inr hge =>
      -- behind its end the first piece encloses nothing, and the text is settled again
      have hno : ¬ ∃ l, x = .literal l ∧ 0 < offset ∧ offset ≤ byteSize l.opened := by
        rintro ⟨l, rfl, -, hle⟩
        have := l.quote.utf8Size_pos
        simp only [Piece.text, byteSize_append, byteSize_cons, byteSize_nil] at hge
        omega
      rw [takeBytes_append_of_ge hge, ← List.append_assoc, ih (h.append_piece x)]
      simp [hno]

end Pieces

/-- The count of quotes finds the literals of a text in pieces, at every place. -/
theorem isInside_iff (p : Pieces) (offset : Nat) :
    isInside p.text offset = true ↔ p.Encloses offset :=
  p.endsInside_iff .nil offset

/-- A literal with an escaped quote, and another one that is not closed. -/
def escapedQuote : Pieces where
  closed := [
    .plain "s = ".toList (by decide) (by decide),
    .literal ⟨'"', ['a', '\\', '"', 'b'], by decide,
      .char (by decide) (by decide) (.pair (by decide) (.char (by decide) (by decide) .nil))⟩,
    .plain " + ".toList (by decide) (by decide)]
  unclosed := some ⟨'\'', ['c'], by decide, .char (by decide) (by decide) .nil⟩

/-- Behind the escaped quote the place is still inside, between the literals it is not, and at the
end it is inside again. -/
theorem isInside_iff_of_escape :
    escapedQuote.text = "s = \"a\\\"b\" + 'c".toList ∧
      escapedQuote.Encloses 8 ∧ ¬ escapedQuote.Encloses 10 ∧ escapedQuote.Encloses 15 :=
  ⟨rfl, (isInside_iff _ 8).mp (by decide), fun h => absurd ((isInside_iff _ 10).mpr h) (by decide),
    (isInside_iff _ 15).mp (by decide)⟩

end Semicolon.Literal
