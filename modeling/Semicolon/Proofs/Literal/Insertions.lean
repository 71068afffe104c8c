import Mathlib.Data.List.Basic
import Semicolon.Proofs.Literal.Body
import Semicolon.Proofs.Literal.Quotes

/-!
# Literal — text that is put in between

A text without quotes and backslashes, put between two others, holds nothing to count.  But it parts
the two, and a quote that a backslash in front of it has hidden then counts (`Hides`).

* `unescapedCount_add_hidden`: only the first character of a text sees what stands in front of it.
* `unescapedCount_insert`: so with the text in between each kind of quote counts as often as before,
  and once more if one was hidden.

**Main result** (`isInside_insert`).  Behind the text that is put in, a place is inside of a string
exactly if it was before.  The exception is a hidden quote that is parted from its backslash: where
no string is open, it opens one.
-/

namespace Semicolon.Literal

open Text

/-- A backslash at the end of `front` hides a quote at the start of `behind`. -/
def Hides (quote : Char) (front behind : Text) : Prop :=
  front.getLast? = some '\\' ∧ behind.head? = some quote

instance (quote : Char) (front behind : Text) : Decidable (Hides quote front behind) :=
  inferInstanceAs (Decidable (_ ∧ _))

variable {quote : Char} {front mid behind : Text}

/-- A quote hidden at the start of a part is hidden at the start of the whole. -/
theorem Hides.of_isPrefix {part : Text} (h : Hides quote front part) (hpart : part <+: behind) :
    Hides quote front behind := by
  obtain ⟨rest, rfl⟩ := hpart
  exact ⟨h.1, by rw [List.head?_append, h.2, Option.some_or]⟩

/-! ### Counting -/

/-- Read behind another character, a text misses its first quote if a backslash hides it. -/
theorem unescapedCount_add_hidden (quote : Char) (front behind : Text) :
    unescapedCount quote front.getLast? behind + (if Hides quote front behind then 1 else 0) =
      unescapedCount quote none behind := by
  cases behind with
  | nil => simp [unescapedCount, Hides]
  | cons c behind =>
    -- the rest is read behind `c` on both sides
    by_cases hquote : c = quote <;> by_cases hlast : front.getLast? = some '\\' <;>
      simp [unescapedCount, Hides, hquote, hlast, Nat.add_comm]

/-- A quote that is parted from its backslash counts once more; nothing else changes. -/
theorem unescapedCount_insert (hquote : quote ∉ mid) (hbackslash : '\\' ∉ mid) (hne : mid ≠ []) :
    unescapedCount quote none (front ++ mid ++ behind) =
      unescapedCount quote none (front ++ behind) + if Hides quote front behind then 1 else 0 := by
  have hlast : (front ++ mid).getLast? ≠ some '\\' := by
    rw [List.getLast?_append_of_ne_nil _ hne]
    exact fun h => hbackslash (List.mem_of_getLast? h)
  have hparted := unescapedCount_add_hidden quote (front ++ mid) behind
  have htogether := unescapedCount_add_hidden quote front behind
  rw [if_neg fun h => hlast h.1, Nat.add_zero] at hparted
  rw [unescapedCount_append, unescapedCount_append _ _ front mid, unescapedCount_append,
    unescapedCount_of_notMem hquote, Option.or_none, Option.or_none, hparted, ← htogether]
  omega

/-! ### Places -/

/-- If no quote is parted from its backslash, the text in between changes nothing. -/
theorem endsInside_insert (hquoteless : Quoteless mid) (hbackslash : '\\' ∉ mid)
    (hapart : ∀ quote ∈ quotes, ¬ Hides quote front behind) :
    endsInside (front ++ mid ++ behind) = endsInside (front ++ behind) := by
  by_cases hne : mid = []
  · rw [hne, List.append_nil]
  · apply endsInside_congr
    intro quote hquote
    rw [unescapedCount_insert (hquoteless quote hquote) hbackslash hne,
      if_neg (hapart quote hquote), Nat.add_zero]

/-- A hidden quote opens no string. -/
theorem endsInside_hidden (hout : endsInside front = false) (hlast : front.getLast? = some '\\') :
    endsInside (front ++ [quote]) = false := by
  rw [endsInside_eq_false_iff] at hout ⊢
  intro other hother
  rw [unescapedCount_append, hlast]
  simp [unescapedCount, hout other hother]

/-- Parted from its backslash the same quote opens one. -/
theorem endsInside_parted (hout : endsInside front = false) (hlast : front.getLast? = some '\\')
    (hquote : quote ∈ quotes) (hquoteless : Quoteless mid) (hbackslash : '\\' ∉ mid)
    (hne : mid ≠ []) : endsInside (front ++ mid ++ [quote]) = true := by
  have hhidden : endsInside (front ++ [quote]) = false := endsInside_hidden hout hlast
  have heven := endsInside_eq_false_iff.mp hhidden quote hquote
  refine endsInside_iff.mpr ⟨quote, hquote, ?_⟩
  -- the count that was even is one higher
  rw [unescapedCount_insert (hquoteless quote hquote) hbackslash hne, if_pos ⟨hlast, rfl⟩]
  omega

/-- A place behind a seam is judged by the first part and a cut of the second. -/
theorem isInside_append_add (front behind : Text) (offset : Nat) :
    isInside (front ++ behind) (byteSize front + offset) =
      endsInside (front ++ takeBytes offset behind) := by
  rw [isInside, takeBytes_append_of_ge (Nat.le_add_right _ _), Nat.add_sub_cancel_left]

theorem takeBytes_one_of_quote (hquote : quote ∈ quotes) (hhead : behind.head? = some quote) :
    takeBytes 1 behind = [quote] := by
  obtain ⟨rest, rfl⟩ := List.head?_eq_some_iff.mp hhead
  rw [takeBytes, utf8Size_of_quote hquote, if_pos (Nat.le_refl 1), takeBytes_zero]

/-- Behind a text without quotes and backslashes that is put in between, a place is inside of a
string exactly if it was before, provided no backslash in front of the seam hides a quote behind it.
If one does, and no string is open there, the quote opens one only now. -/
theorem isInside_insert (hquoteless : Quoteless mid) (hbackslash : '\\' ∉ mid) :
    ((∀ quote ∈ quotes, ¬ Hides quote front behind) → ∀ offset,
      isInside (front ++ mid ++ behind) (byteSize front + byteSize mid + offset) =
        isInside (front ++ behind) (byteSize front + offset)) ∧
    (mid ≠ [] → endsInside front = false → ∀ quote ∈ quotes, Hides quote front behind →
      isInside (front ++ behind) (byteSize front + 1) = false ∧
        isInside (front ++ mid ++ behind) (byteSize front + byteSize mid + 1) = true) := by
  rw [← byteSize_append]
  simp only [isInside_append_add]
  refine ⟨fun hapart offset => ?_, fun hne hout quote hquote hhides => ?_⟩
  · -- what is read of `behind` begins as it does
    exact endsInside_insert hquoteless hbackslash fun quote hquote hhides =>
      hapart quote hquote (hhides.of_isPrefix (takeBytes_isPrefix offset behind))
  · rw [takeBytes_one_of_quote hquote hhides.2]
    exact ⟨endsInside_hidden hout hhides.1,
      endsInside_parted hout hhides.1 hquote hquoteless hbackslash hne⟩

/-- A terminator and a line break, put into a literal in front of an escaped quote, and between a
backslash and a quote. -/
theorem isInside_insert_of_terminator :
    let front := "s = \"é".toList
    let mid := ";\r\n".toList
    let behind := "\\\"a\" + 'c".toList
    Quoteless mid ∧ '\\' ∉ mid ∧ mid ≠ [] ∧
    ((∀ quote ∈ quotes, ¬ Hides quote front behind) ∧
      isInside (front ++ mid ++ behind) (byteSize front + byteSize mid + 4) =
        isInside (front ++ behind) (byteSize front + 4)) ∧
    (endsInside ['\\'] = false ∧ '"' ∈ quotes ∧ Hides '"' ['\\'] ['"'] ∧
      isInside (['\\'] ++ ['"']) 2 = false ∧ isInside (['\\'] ++ mid ++ ['"']) 5 = true) := by
  intro front mid behind
  have hquoteless : Quoteless mid := by decide
  have hbackslash : '\\' ∉ mid := by decide
  have hne : mid ≠ [] := by decide
  have hapart : ∀ quote ∈ quotes, ¬ Hides quote front behind := fun _ _ h => absurd h.1 (by decide)
  have hout : endsInside ['\\'] = false := by decide
  have hquote : '"' ∈ quotes := by decide
  have hhides : Hides '"' ['\\'] ['"'] := ⟨rfl, rfl⟩
  exact ⟨hquoteless, hbackslash, hne,
    ⟨hapart, (isInside_insert hquoteless hbackslash).1 hapart 4⟩,
    hout, hquote, hhides, (isInside_insert hquoteless hbackslash).2 hne hout _ hquote hhides⟩

end Semicolon.Literal
