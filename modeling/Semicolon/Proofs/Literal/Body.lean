import Semicolon.Delimiters

/-!
# Literal — what stands between two quotes

The body of a literal is made of characters that stand for themselves and of pairs, a backslash and
the character behind it.  Which characters may stand alone, and which behind a backslash, is left to
those who ask: `Body alone paired`.  There are three characters that can quote (`mem_quotes_iff`),
of one byte each (`utf8Size_of_quote`).
-/

namespace Semicolon.Literal

theorem mem_quotes_iff {c : Char} : c ∈ quotes ↔ c = '"' ∨ c = '\'' ∨ c = '`' := by
  simp [quotes]

/-- A quote is one byte. -/
theorem utf8Size_of_quote {quote : Char} (h : quote ∈ quotes) : quote.utf8Size = 1 := by
  rcases mem_quotes_iff.mp h with rfl | rfl | rfl <;> rfl

/-- A text of characters of `alone`, and of pairs of a backslash and a character of `paired`. -/
inductive Body (alone paired : Char → Prop) : Text → Prop where
  | nil : Body alone paired []
  | char {c : Char} {t : Text} (hc : c ≠ '\\') (halone : alone c) (ht : Body alone paired t) :
      Body alone paired (c :: t)
  | pair {c : Char} {t : Text} (hpaired : paired c) (ht : Body alone paired t) :
      Body alone paired ('\\' :: c :: t)

end Semicolon.Literal
