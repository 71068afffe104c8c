import Semicolon.Literal
import Semicolon.Proofs.Text.Bytes

/-!
# Literal — counting quotes in two parts

The count of a text is the count of its first part and the count of the rest, read with the last
character in front of it (`unescapedCount_append`).  Whether the end of a text is inside a string
depends on the counts alone (`endsInside_congr`).  So two texts that hold the same quotes and end
in the same character are alike for whatever follows (`SameQuotes`), and they stay so when the same
line is put behind them, whatever ends it (`SameQuotes.line`).
-/

namespace Semicolon.Literal

open Text

/-- A place behind a prefix is judged by that prefix alone. -/
theorem isInside_append (front behind : Text) :
    isInside (front ++ behind) (byteSize front) = endsInside front := by
  rw [isInside, takeBytes_byteSize_append]

/-- Inside of a string some kind of quote has counted an odd number of times. -/
theorem endsInside_iff {t : Text} :
    endsInside t = true ↔ ∃ quote ∈ quotes, unescapedCount quote none t % 2 = 1 := by
  simp only [endsInside, List.any_eq_true, decide_eq_true_eq]

/-- Outside of strings every kind has counted an even number of times. -/
theorem endsInside_eq_false_iff {t : Text} :
    endsInside t = false ↔ ∀ quote ∈ quotes, unescapedCount quote none t % 2 = 0 := by
  simp only [endsInside, List.any_eq_false, decide_eq_true_eq, Nat.mod_two_not_eq_one]

/-- Texts with the same counts both end inside of a string, or both outside. -/
theorem endsInside_congr {s t : Text}
    (h : ∀ quote ∈ quotes, unescapedCount quote none s = unescapedCount quote none t) :
    endsInside s = endsInside t := by
  rw [Bool.eq_iff_iff, endsInside_iff, endsInside_iff]
  refine exists_congr fun quote => and_congr_right fun hq => ?_
  rw [h quote hq]

/-- A text is counted in two parts, the second one behind the last character of the first. -/
theorem unescapedCount_append (quote : Char) (before : Option Char) (s t : Text) :
    unescapedCount quote before (s ++ t) =
      unescapedCount quote before s + unescapedCount quote (s.getLast?.or before) t := by
  induction s generalizing before with
  | nil => simp [unescapedCount]
  | cons c s ih =>
    have hlast : (c :: s).getLast?.or before = s.getLast?.or (some c) := by
      rw [List.getLast?_cons, Option.some_or, Option.or_some]
    rw [List.cons_append, unescapedCount, unescapedCount, ih, hlast, Nat.add_assoc]

/-- A quote that does not occur does not count. -/
theorem unescapedCount_of_notMem {quote : Char} {t : Text} (h : quote ∉ t)
    (before : Option Char) : unescapedCount quote before t = 0 := by
  induction t generalizing before with
  | nil => rfl
  | cons c t ih =>
    obtain ⟨hc, ht⟩ := List.ne_and_not_mem_of_not_mem_cons h
    rw [unescapedCount, ih ht, if_neg fun hq => hc hq.1.symm]

/-- The text holds no quote. -/
def Quoteless (t : Text) : Prop := ∀ quote ∈ quotes, quote ∉ t

instance (t : Text) : Decidable (Quoteless t) := List.decidableBAll (· ∉ t) quotes

theorem quoteless_nil : Quoteless [] := fun _ _ => List.not_mem_nil

theorem quoteless_singleton {c : Char} (hc : c ∉ quotes) : Quoteless [c] := by
  intro quote hq hmem
  obtain rfl := List.mem_singleton.mp hmem
  exact hc hq

/-- Without a quote there is no string to be inside of. -/
theorem Quoteless.endsInside_eq {t : Text} (h : Quoteless t) : endsInside t = false := by
  rw [endsInside_eq_false_iff]
  intro quote hq
  rw [unescapedCount_of_notMem (h quote hq)]

theorem Quoteless.of_isPrefix {s t : Text} (h : Quoteless t) (hs : s <+: t) : Quoteless s :=
  fun quote hq hmem => h quote hq (hs.subset hmem)

/-- The two texts hold the same quotes, and the same character ends them. -/
structure SameQuotes (s t : Text) : Prop where
  count_eq : ∀ quote ∈ quotes, unescapedCount quote none s = unescapedCount quote none t
  last_eq : s.getLast? = t.getLast?

namespace SameQuotes

variable {s t : Text}

theorem refl (t : Text) : SameQuotes t t := ⟨fun _ _ => rfl, rfl⟩

/-- Such texts go on alike, whatever is put behind both. -/
theorem endsInside_append (h : SameQuotes s t) (x : Text) :
    endsInside (s ++ x) = endsInside (t ++ x) := by
  apply endsInside_congr
  intro quote hq
  rw [unescapedCount_append, unescapedCount_append, h.count_eq quote hq, h.last_eq]

/-- The same line behind both, each with an end of its own that holds no quote. -/
theorem line (h : SameQuotes s t) (l : Text) {x y : Text} (hx : Quoteless x) (hy : Quoteless y) :
    SameQuotes (s ++ (l ++ x ++ ['\n'])) (t ++ (l ++ y ++ ['\n'])) := by
  have hbreak : Quoteless ['\n'] := quoteless_singleton (by decide)
  constructor
  · intro quote hq
    simp only [unescapedCount_append, unescapedCount_of_notMem (hx quote hq),
      unescapedCount_of_notMem (hy quote hq), unescapedCount_of_notMem (hbreak quote hq),
      h.count_eq quote hq, h.last_eq]
  · simp

end SameQuotes

end Semicolon.Literal
