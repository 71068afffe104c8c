import Semicolon.Proofs.Classification.Insertion
import Semicolon.Proofs.Literal.Body
import Semicolon.Proofs.Text.Trim

/-!
# Delimiters — counting brackets and matching them

`Balance.of` has a counter for each kind of bracket and does not see whether a closing bracket
belongs to the one that was opened last.  `Nests` reads a line with a stack of the brackets that are
open: plain characters and closed literals leave it alone, and a closing bracket takes the bracket
of its kind from the top.

* `scan_literal`: the scanner is behind a closed literal where it was in front of it.
* `scan_nests`: on a line that can be read with a stack, the counters always show how often each
  kind is on the stack.
* `Balance.of_trim` and `suppressed_of_unclosed`: blanks around a line do not matter, and a line
  that leaves a bracket open is suppressed.

**Main result** (`balance_of_nests`).  Where brackets are properly nested, the counters say which
brackets are left open, and a line that leaves one open gets no terminator.
-/

namespace Semicolon

open Literal (Body mem_quotes_iff)

/-! ### Brackets -/

/-- The kinds of brackets. -/
inductive Bracket where
  | round
  | square
  | curly
  deriving DecidableEq, Repr

namespace Bracket

def opening : Bracket → Char
  | .round  => '('
  | .square => '['
  | .curly  => '{'

def closing : Bracket → Char
  | .round  => ')'
  | .square => ']'
  | .curly  => '}'

/-- The characters that open or close a bracket. -/
def marks : List Char := ['(', ')', '[', ']', '{', '}']

end Bracket

/-- The text can be read with the brackets of `stack` open, the last one first, and leaves those of
`stack'` open. -/
inductive Nests : List Bracket → Text → List Bracket → Prop where
  | nil {stack : List Bracket} : Nests stack [] stack
  | plain {c : Char} {t : Text} {stack stack' : List Bracket} (hquote : c ∉ quotes)
      (hmark : c ∉ Bracket.marks) (ht : Nests stack t stack') : Nests stack (c :: t) stack'
  | literal {quote : Char} {body t : Text} {stack stack' : List Bracket} (hquote : quote ∈ quotes)
      (hbody : Body (· ≠ quote) (fun _ => True) body) (ht : Nests stack t stack') :
      Nests stack (quote :: (body ++ quote :: t)) stack'
  | opening {b : Bracket} {t : Text} {stack stack' : List Bracket}
      (ht : Nests (b :: stack) t stack') : Nests stack (b.opening :: t) stack'
  | closing {b : Bracket} {t : Text} {stack stack' : List Bracket} (ht : Nests stack t stack') :
      Nests (b :: stack) (b.closing :: t) stack'

namespace Balance

/-- The counters that a stack of open brackets calls for. -/
def ofStack (stack : List Bracket) : Balance :=
  ⟨stack.count .round, stack.count .square, stack.count .curly⟩

/-! ### One character -/

/-- Only brackets are counted. -/
theorem count_of_notMem {c : Char} (h : c ∉ Bracket.marks) (b : Balance) : b.count c = b := by
  simp only [Bracket.marks, List.mem_cons, List.not_mem_nil, or_false, not_or] at h
  simp only [count]
  split <;> simp_all

@[simp] theorem count_opening (b : Bracket) (stack : List Bracket) :
    (ofStack stack).count b.opening = ofStack (b :: stack) := by
  cases b <;> simp [Bracket.opening, count, ofStack]

@[simp] theorem count_closing (b : Bracket) (stack : List Bracket) :
    (ofStack (b :: stack)).count b.closing = ofStack stack := by
  cases b <;> simp [Bracket.closing, count, ofStack]

theorem next_of_notMem {c : Char} (h : c ∉ quotes) : Place.next c .code = .code := by
  simp [Place.next, h]

theorem opening_notMem_quotes (b : Bracket) : b.opening ∉ quotes := by cases b <;> decide

theorem closing_notMem_quotes (b : Bracket) : b.closing ∉ quotes := by cases b <;> decide

/-- Outside of literals a character that is no quote is counted. -/
theorem scan_code_cons {c : Char} (h : c ∉ quotes) (b : Balance) (t : Text) :
    scan .code b (c :: t) = scan .code (b.count c) t := by
  rw [scan, next_of_notMem h, if_pos rfl]

/-! ### Literals -/

/-- Inside of a literal nothing is counted up to its end. -/
theorem scan_body {quote : Char} {body : Text} (h : Body (· ≠ quote) (fun _ => True) body)
    (hquote : quote ≠ '\\') (b : Balance) (t : Text) :
    scan (.literal quote) b (body ++ quote :: t) = scan .code b t := by
  induction h with
  | nil => simp [scan, Place.next, hquote]
  | char hc halone _ ih => simp [scan, Place.next, hc, halone, ih]
  | pair _ _ ih => simp [scan, Place.next, ih]

theorem notMem_marks_of_quote {quote : Char} (h : quote ∈ quotes) : quote ∉ Bracket.marks := by
  rcases mem_quotes_iff.mp h with rfl | rfl | rfl <;> decide

/-- Behind a closed literal the scanner is where it was in front of it. -/
theorem scan_literal {quote : Char} {body : Text} (hquote : quote ∈ quotes)
    (h : Body (· ≠ quote) (fun _ => True) body) (b : Balance) (t : Text) :
    scan .code b (quote :: (body ++ quote :: t)) = scan .code b t := by
  have hbackslash : quote ≠ '\\' := ne_of_mem_of_not_mem hquote (by decide)
  have hnext : Place.next quote .code = .literal quote := by simp [Place.next, hquote]
  rw [scan, hnext, if_pos rfl, count_of_notMem (notMem_marks_of_quote hquote),
    scan_body h hbackslash]

/-! ### The counters and the stack -/

/-- The counters follow the stack. -/
theorem scan_nests {stack stack' : List Bracket} {t : Text} (h : Nests stack t stack') :
    scan .code (ofStack stack) t = ofStack stack' := by
  induction h with
  | nil => rfl
  | plain hquote hmark _ ih => rw [scan_code_cons hquote, count_of_notMem hmark, ih]
  | literal hquote hbody _ ih => rw [scan_literal hquote hbody, ih]
  | @opening b _ _ _ _ ih => rw [scan_code_cons (opening_notMem_quotes b), count_opening, ih]
  | @closing b _ _ _ _ ih => rw [scan_code_cons (closing_notMem_quotes b), count_closing, ih]

/-- The counters show an open bracket exactly if the stack has one. -/
theorem hasUnclosed_ofStack (stack : List Bracket) :
    (ofStack stack).hasUnclosed = true ↔ stack ≠ [] := by
  cases stack with
  | nil => decide
  | cons b stack => cases b <;> simp [ofStack, hasUnclosed]

/-! ### Blanks around a line -/

theorem blank_notMem {c : Char} (h : Text.isBlank c = true) : c ∉ quotes ∧ c ∉ Bracket.marks := by
  constructor
  · intro hmem
    rcases mem_quotes_iff.mp hmem with rfl | rfl | rfl <;> exact absurd h (by decide)
  · intro hmem
    simp only [Bracket.marks, List.mem_cons, List.not_mem_nil, or_false] at hmem
    rcases hmem with rfl | rfl | rfl | rfl | rfl | rfl <;> exact absurd h (by decide)

theorem scan_trimStart (b : Balance) (t : Text) : scan .code b t.trimStart = scan .code b t := by
  induction t with
  | nil => rfl
  | cons c t ih =>
    cases hc : Text.isBlank c with
    | false => rw [Text.trimStart, List.dropWhile_cons_of_neg (by simp [hc])]
    | true =>
      obtain ⟨hquote, hmark⟩ := blank_notMem hc
      rw [scan_code_cons hquote, count_of_notMem hmark, ← ih, Text.trimStart, Text.trimStart,
        List.dropWhile_cons_of_pos hc]

theorem scan_blank {r : Text} (hr : ∀ c ∈ r, Text.isBlank c = true) (p : Place) (b : Balance) :
    scan p b r = b := by
  induction r generalizing p with
  | nil => rfl
  | cons c r ih =>
    obtain ⟨hc, hr⟩ := List.forall_mem_cons.mp hr
    rw [scan, count_of_notMem (blank_notMem hc).2, ite_self, ih hr]

/-- Blanks at the end count for nothing, wherever the scanner stands. -/
theorem scan_append_blank {r : Text} (hr : ∀ c ∈ r, Text.isBlank c = true) (p : Place)
    (b : Balance) (t : Text) : scan p b (t ++ r) = scan p b t := by
  induction t generalizing p b with
  | nil => exact scan_blank hr p b
  | cons c t ih => rw [List.cons_append, scan, scan, ih]

/-- So blanks around a line do not matter. -/
theorem of_trim (t : Text) : of t.trim = of t := by
  obtain ⟨r, hr, ht⟩ := Text.exists_trimEnd_append t.trimStart
  rw [of, of, ← scan_trimStart zero t, ← ht, scan_append_blank hr, Text.trim]

end Balance

/-- A line that leaves a bracket open is suppressed, in every language. -/
theorem suppressed_of_unclosed {line : Text} (h : (Balance.of line).hasUnclosed = true)
    (languageId : String) : (classifyFor languageId line).decision = .suppress := by
  rw [classifyFor]
  split
  · next l _ =>
    cases hdecision : (l.classify line).decision with
    | suppress => rfl
    | insert =>
      -- a line that gets a terminator has passed the question for open brackets
      obtain ⟨rule, hrule⟩ := Profile.decision_eq_insert_iff.mp hdecision
      have hclosed := hrule.not_unclosed
      rw [Balance.of_trim, h] at hclosed
      cases hclosed
  · rfl

/-! ### Lines with properly nested brackets -/

/-- The counters say how many brackets of each kind are left open, so they show that a bracket is
left open if and only if one is; and then the line gets no terminator. -/
theorem balance_of_nests {line : Text} {stack : List Bracket} (h : Nests [] line stack) :
    Balance.of line = ⟨stack.count .round, stack.count .square, stack.count .curly⟩ ∧
    ((Balance.of line).hasUnclosed = true ↔ stack ≠ []) ∧
    (stack ≠ [] → ∀ languageId, (classifyFor languageId line).decision = .suppress) := by
  have hof : Balance.of line = Balance.ofStack stack := Balance.scan_nests h
  have hunclosed : (Balance.of line).hasUnclosed = true ↔ stack ≠ [] := by
    rw [hof, Balance.hasUnclosed_ofStack]
  exact ⟨hof, hunclosed, fun hne => suppressed_of_unclosed (hunclosed.mpr hne)⟩

/-- A call whose argument holds a quote and a bracket, and behind it two brackets that stay open. -/
theorem balance_of_nests_of_call :
    let line := ['f', '(', '"', '\\', '"', '(', '"', ')', '[', '{']
    Nests [] line [.curly, .square] ∧ Balance.of line = ⟨0, 1, 1⟩ ∧
      (Balance.of line).hasUnclosed = true ∧
      (classifyFor "java" line).decision = .suppress := by
  intro line
  have hbody : Body (· ≠ '"') (fun _ => True) ['\\', '"', '('] :=
    .pair trivial (.char (by decide) (by decide) .nil)
  have hnests : Nests [] line [.curly, .square] := by
    refine .plain (by decide) (by decide) (.opening (b := .round) ?_)
    refine .literal (by decide) hbody (.closing (b := .round) ?_)
    exact .opening (b := .square) (.opening (b := .curly) .nil)
  obtain ⟨hof, hunclosed, hsuppress⟩ := balance_of_nests hnests
  exact ⟨hnests, hof, hunclosed.mpr (List.cons_ne_nil _ _),
    hsuppress (List.cons_ne_nil _ _) "java"⟩

end Semicolon
