import Semicolon.Proofs.Classification.Insertion
import Semicolon.Proofs.Pattern.Prefixes
import Semicolon.Proofs.Text.Marks

/-!
# Classification — lines that begin with the word of a statement

`return`, `throw`, `break` and `continue` leave, and `else` stands between two statements.  None of
these words begins a declaration, a header or a shape that takes no terminator, in any language
(`shapes_shun_words`, `header_apart`).

**Main results** (`not_opened`, `not_suppressed`, `not_header`).  A line that begins with one of
them passes the questions that ask for such a beginning.
-/

namespace Semicolon

open Text

/-- The words that leave a block or a loop. -/
def exitWords : List String := ["return", "throw", "break", "continue"]

/-- The words that begin a statement in all languages, without a header. -/
def statementWords : List String := "else" :: exitWords

/-- What all languages hold against a line: the shape of a declaration, and the suppressing ones. -/
def Profile.objections (p : Profile) : List Pattern :=
  p.declaration :: p.suppress.map Rule.pattern

/-! ### The words -/

theorem all_isWord_of_mem {word : String} (h : word ∈ statementWords) :
    ∀ c ∈ word.toList, isWord c = true := by
  have hall : ∀ w ∈ statementWords, w.toList.all isWord = true := by decide
  exact List.all_eq_true.mp (hall word h)

/-- No declaration and no shape that takes no terminator begins with one of the words. -/
theorem shapes_shun_words (l : Language) : ∀ word ∈ statementWords,
    ∀ shape ∈ l.profile.objections, shape.shuns word.toList = true := by
  cases l <;> decide +kernel

/-- The keyword of a header neither begins one of the words nor begins with it. -/
theorem header_apart (l : Language) : ∀ word ∈ statementWords, ∀ keyword ∈ l.profile.headerKeywords,
    ¬ keyword.toList <+: word.toList ∧ ¬ word.toList <+: keyword.toList := by
  cases l <;> decide

/-! ### The questions -/

/-- A line that begins with `else` and no longer word begins with a control keyword. -/
theorem opensControl_of_else (l : Language) {x : Text} (hx : x.head?.any isWord = false) :
    l.profile.opensControl ("else".toList ++ x) = true := by
  have helse : "else" ∈ l.profile.controlKeywords := by cases l <;> decide
  exact Pattern.opens_iff.mpr ⟨_, _, rfl, Pattern.reads_keyword_of_mem helse (by decide) hx⟩

/-- The line begins with the word of a statement. -/
structure BeginsStatement (word : String) (line : Text) : Prop where
  mem : word ∈ statementWords
  beginsWith : BeginsWith word.toList line

namespace BeginsStatement

variable {l : Language} {word : String} {line : Text}

/-- So nothing is held against a line that begins with one of them. -/
theorem opens_objection_eq (h : BeginsStatement word line) {shape : Pattern}
    (hshape : shape ∈ l.profile.objections) : shape.opens line = false :=
  Pattern.opens_of_shuns (shapes_shun_words l word h.mem shape hshape)
    (spaced_of_word (all_isWord_of_mem h.mem)) h.beginsWith

theorem not_opened (h : BeginsStatement word line) :
    (l.profile.declaration.opens line && opensBlock line) = false := by
  rw [h.opens_objection_eq List.mem_cons_self]
  rfl

theorem not_suppressed (h : BeginsStatement word line) :
    Rule.first? l.profile.suppress line = none := by
  rw [Rule.first?_eq_none_iff]
  intro rule hrule
  exact h.opens_objection_eq (List.mem_cons_of_mem _ (List.mem_map_of_mem hrule))

theorem not_header (h : BeginsStatement word line) : l.profile.isControlHeader line = false := by
  have hheaded : l.profile.headerKeywords.any (Profile.isHeaded line) = false := by
    rw [List.any_eq_false]
    intro keyword hkeyword
    obtain ⟨x, rfl, -⟩ := h.beginsWith
    obtain ⟨hshort, hlong⟩ := header_apart l word h.mem keyword hkeyword
    -- of two beginnings of a line, the shorter one begins the other
    have hstart : startsWith (word.toList ++ x) keyword.toList = false := by
      rw [startsWith_eq_false_iff]
      intro hprefix
      exact (List.prefix_or_prefix_of_prefix hprefix (List.prefix_append _ x)).elim hshort hlong
    rw [Profile.isHeaded, hstart]
    exact Bool.false_ne_true
  rw [Profile.isControlHeader, hheaded, Bool.and_false]

end BeginsStatement

end Semicolon
