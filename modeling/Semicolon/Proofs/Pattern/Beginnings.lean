import Semicolon.Proofs.Pattern.Prefixes

/-!
# Pattern — how a pattern may begin

There are too many word characters to try each of them.  Instead, `Pattern.mayBegin s` asks whether
the pattern has a set in front that may have a character in common with `s`.

* `CharSet.mayMeet_of_contains`: sets with a character in common may meet.  The converse is not
  wanted; the answer is yes wherever it would take a closer look at the sets.
* `mayStop_of_reads`, `mayBegin_of_reads`: what a pattern reads is in line with the two questions.
* `not_reads_of_bars`: a pattern that `bars` a set reads no text that begins with one of it.

**Main result** (`opens_of_avoidsSet`).  A pattern that `avoidsSet` a word, a mark and a set opens
no line that begins with the word, blanks, the mark and a character of the set.
-/

namespace Semicolon

open Text

namespace CharSet

/-- The parts may have a character in common. -/
def Part.mayMeet : Part → Part → Bool
  | .one c, part | part, .one c     => part.contains c
  | .word, .blank  | .blank, .word  => false
  | .range .., _   | _, .range ..   => true
  | .word, .word   | .blank, .blank => true

/-- The sets may have a character in common. -/
def mayMeet (s u : CharSet) : Bool :=
  s.inverted || u.inverted || s.parts.any fun part => u.parts.any part.mayMeet

theorem Part.mayMeet_of_contains {part other : Part} {c : Char} (h : part.contains c = true)
    (hother : other.contains c = true) : part.mayMeet other = true := by
  have hword : isBlank c = true → isWord c = true → False := by
    intro hblank hword
    rw [isWord_of_isBlank hblank] at hword
    cases hword
  cases part with
  | one d =>
    obtain rfl : c = d := beq_iff_eq.mp h
    cases other <;> exact hother
  | range => cases other with
    | one d =>
      obtain rfl : c = d := beq_iff_eq.mp hother
      exact h
    | range | word | blank => rfl
  | word => cases other with
    | one d =>
      obtain rfl : c = d := beq_iff_eq.mp hother
      exact h
    | blank => exact (hword hother h).elim
    | range | word => rfl
  | blank => cases other with
    | one d =>
      obtain rfl : c = d := beq_iff_eq.mp hother
      exact h
    | word => exact (hword h hother).elim
    | range | blank => rfl

/-- Sets with a character in common may meet. -/
theorem mayMeet_of_contains {s u : CharSet} {c : Char} (hs : s.contains c = true)
    (hu : u.contains c = true) : s.mayMeet u = true := by
  rw [mayMeet, Bool.or_eq_true, Bool.or_eq_true]
  by_cases hinverted : s.inverted = true ∨ u.inverted = true
  · exact .inl hinverted
  · rw [not_or, Bool.not_eq_true, Bool.not_eq_true] at hinverted
    rw [contains, hinverted.1, Bool.bne_false, List.any_eq_true] at hs
    rw [contains, hinverted.2, Bool.bne_false, List.any_eq_true] at hu
    obtain ⟨part, hpart, hc⟩ := hs
    obtain ⟨other, hother, hc'⟩ := hu
    refine .inr (List.any_eq_true.mpr ⟨part, hpart, List.any_eq_true.mpr ⟨other, hother, ?_⟩⟩)
    exact Part.mayMeet_of_contains hc hc'

theorem not_blank_of_contains {s : CharSet} (hs : s.mayMeet blank = false) {c : Char}
    (h : s.contains c = true) : isBlank c = false := by
  rw [← Bool.not_eq_true, ← Pattern.contains_blank]
  intro hblank
  rw [mayMeet_of_contains h hblank] at hs
  cases hs

end CharSet

namespace Pattern

/-- The pattern reads nothing, at some places at least. -/
def mayStop : Pattern → Bool
  | .empty | .wordEdge | .lineEnd | .star _ => true
  | .set _                                  => false
  | .seq p q                                => p.mayStop && q.mayStop
  | .alt p q                                => p.mayStop || q.mayStop

/-- The pattern may read a character of the set first. -/
def mayBegin (s : CharSet) : Pattern → Bool
  | .empty | .wordEdge | .lineEnd => false
  | .set u                        => u.mayMeet s
  | .seq p q                      => p.mayBegin s || (p.mayStop && q.mayBegin s)
  | .alt p q                      => p.mayBegin s || q.mayBegin s
  | .star p                       => p.mayBegin s

/-- The pattern reads a character first, and it is none of the set. -/
def bars (s : CharSet) (p : Pattern) : Bool := !p.mayStop && !p.mayBegin s

variable {b : Option Char} {c : Char} {p : Pattern} {ps : List Pattern} {s : CharSet} {t r : Text}

/-- A pattern that reads nothing may stop. -/
theorem mayStop_of_reads (h : Reads b p [] r) : p.mayStop = true := by
  induction p generalizing b r with
  | empty | wordEdge | lineEnd | star => rfl
  | set u =>
    obtain ⟨c, -, hc⟩ := reads_set_iff.mp h
    cases hc
  | seq p q ihp ihq =>
    obtain ⟨u, v, huv, hp, hq⟩ := reads_seq_iff.mp h
    obtain ⟨rfl, rfl⟩ := List.append_eq_nil_iff.mp huv.symm
    rw [mayStop, ihp hp, ihq hq]
    rfl
  | alt p q ihp ihq => exact Bool.or_eq_true_iff.mpr ((reads_alt_iff.mp h).imp ihp ihq)

/-- A pattern that reads a character of the set first may begin with one. -/
theorem mayBegin_of_reads (h : Reads b p (c :: t) r) (hc : s.contains c = true) :
    p.mayBegin s = true := by
  induction p generalizing b t r with
  | empty => cases reads_empty_iff.mp h
  | wordEdge => cases (reads_wordEdge_iff.mp h).1
  | lineEnd => cases (reads_lineEnd_iff.mp h).1
  | set u =>
    obtain ⟨d, hd, hcd⟩ := reads_set_iff.mp h
    obtain ⟨rfl, -⟩ := List.cons.inj hcd
    exact CharSet.mayMeet_of_contains hd hc
  | seq p q ihp ihq =>
    obtain ⟨u, v, huv, hp, hq⟩ := reads_seq_iff.mp h
    rw [mayBegin, Bool.or_eq_true, Bool.and_eq_true]
    cases u with
    | nil =>
      -- `p` reads nothing, so the character is read by `q`
      obtain rfl : c :: t = v := huv
      exact .inr ⟨mayStop_of_reads hp, ihq hq⟩
    | cons d u =>
      obtain ⟨rfl, -⟩ := List.cons.inj huv
      exact .inl (ihp hp)
  | alt p q ihp ihq => exact Bool.or_eq_true_iff.mpr ((reads_alt_iff.mp h).imp ihp ihq)
  | star p ih =>
    obtain ⟨u, v, -, hu, -⟩ := exists_of_reads_star h
    exact ih hu

/-- What a pattern reads that bars a set begins with a character outside of the set. -/
theorem Reads.exists_cons (h : Reads b p t r) (hp : p.bars s = true) :
    ∃ c u, t = c :: u ∧ s.contains c = false := by
  rw [bars, Bool.and_eq_true, Bool.not_eq_true', Bool.not_eq_true'] at hp
  cases t with
  | nil =>
    have hstop := mayStop_of_reads h
    rw [hp.1] at hstop
    cases hstop
  | cons c u =>
    refine ⟨c, u, rfl, ?_⟩
    rw [← Bool.not_eq_true]
    intro hc
    have hbegin := mayBegin_of_reads h hc
    rw [hp.2] at hbegin
    cases hbegin

theorem not_reads_of_bars (hp : p.bars s = true) (hc : s.contains c = true) :
    ¬ Reads b p (c :: t) r := by
  intro h
  obtain ⟨d, u, hdu, hd⟩ := h.exists_cons hp
  obtain ⟨rfl, -⟩ := List.cons.inj hdu
  rw [hc] at hd
  cases hd

theorem openAny_of_bars (h : ps.all (bars s) = true) (hc : s.contains c = true) :
    openAny b (c :: t) ps = false := by
  rw [← Bool.not_eq_true, openAny_iff]
  rintro ⟨p, hp, u, r, hur, hreads⟩
  have hbars := List.all_eq_true.mp h p hp
  obtain ⟨d, u, rfl, -⟩ := hreads.exists_cons hbars
  obtain ⟨rfl, -⟩ := List.cons.inj hur
  exact not_reads_of_bars hbars hc hreads

/-- The pattern opens no line that begins with the word, blanks, the mark and a character of the
set. -/
def avoidsSet (p : Pattern) (word mark : Text) (s : CharSet) : Bool :=
  let behind := remainders none (word ++ [' ']) [p]
  p.takesSpaces && runsOn none (word ++ [' ']) [p] && settled behind &&
    runsOn (some ' ') mark behind && (remainders (some ' ') mark behind).all (bars s)

/-- The line begins with the word, the mark and a character of the set, so the pattern does not open
it. -/
theorem opens_of_avoidsSet {word mark blanks : Text} (h : p.avoidsSet word mark s = true)
    (hword : word.spaced = word) (hmark : mark.spaced = mark) (hne : blanks ≠ [])
    (hblanks : ∀ c ∈ blanks, isBlank c = true) (hs : s.contains c = true)
    (hc : isBlank c = false) (x : Text) :
    p.opens (word ++ (blanks ++ (mark ++ c :: x))) = false := by
  simp only [avoidsSet, Bool.and_eq_true] at h
  obtain ⟨⟨⟨⟨hp, hruns⟩, hsettled⟩, hrunsMark⟩, hbars⟩ := h
  rw [← Bool.not_eq_true]
  intro hopens
  have hsame : toSpace c = c := if_neg (by simp [hc])
  have hbehind : (mark ++ c :: x).spaced = mark ++ c :: x.spaced := by
    rw [spaced_append, hmark, Text.spaced, List.map_cons, hsame]
    rfl
  -- behind the mark the remainders bar the set, and the line goes on with one of it
  have hopen := openAny_of_opens_word hp hruns hsettled hword hne hblanks hopens
  rw [hbehind, openAny_append hrunsMark, openAny_of_bars hbars hs] at hopen
  cases hopen

end Pattern

end Semicolon
