import Semicolon.Proofs.Pattern.Reading

/-!
# Pattern — lines that a pattern cannot open

Whether a pattern opens a line is often settled by its first word and the mark behind it.

* `Reads.spaced`: a pattern that `takesSpaces` reads no less if every blank is made a space.  So it
  does not matter which blanks stand between the word and the mark.
* `openAny_spaces`: patterns that are `settled` are no others after one more space.  So it does not
  matter how many there are.

**Main results**.  A pattern that `avoids` a word and a mark opens no line that begins with them,
whatever blanks stand between them and whatever follows (`opens_of_avoids`).  A pattern that `shuns`
a word opens no line that begins with it, alone or with a blank behind it (`opens_of_shuns`).
-/

namespace Semicolon

open Text (isBlank isWord)

/-! ### Spaces in the place of blanks -/

namespace Text

/-- A space in the place of a blank. -/
def toSpace (c : Char) : Char := if isBlank c then ' ' else c

/-- The text with its blanks made spaces. -/
def spaced (t : Text) : Text := t.map toSpace

theorem toSpace_of_isBlank {c : Char} (h : isBlank c = true) : toSpace c = ' ' := if_pos h

theorem spaced_append (s t : Text) : spaced (s ++ t) = spaced s ++ spaced t := List.map_append

/-- Blanks become as many spaces. -/
theorem spaced_of_blank {t : Text} (h : ∀ c ∈ t, isBlank c = true) :
    spaced t = List.replicate t.length ' ' := by
  rw [spaced, List.map_eq_replicate_iff]
  exact fun c hc => toSpace_of_isBlank (h c hc)

/-- The code points of the blanks. -/
def blankCodes : List Nat :=
  [0x09, 0x0A, 0x0B, 0x0C, 0x0D, 0x20, 0x85, 0xA0, 0x1680, 0x2000, 0x2001, 0x2002, 0x2003, 0x2004,
    0x2005, 0x2006, 0x2007, 0x2008, 0x2009, 0x200A, 0x2028, 0x2029, 0x202F, 0x205F, 0x3000]

/-- There are no other blanks. -/
theorem toNat_mem_blankCodes {c : Char} (h : isBlank c = true) : c.toNat ∈ blankCodes := by
  simp only [isBlank, Bool.or_eq_true, Bool.and_eq_true, decide_eq_true_eq, beq_iff_eq] at h
  simp only [blankCodes, List.mem_cons, List.not_mem_nil, or_false]
  omega

theorem isWord_of_isBlank {c : Char} (h : isBlank c = true) : isWord c = false := by
  have hall : ∀ n ∈ blankCodes, isWord (Char.ofNat n) = false := by decide +kernel
  rw [← Char.ofNat_toNat c]
  exact hall _ (toNat_mem_blankCodes h)

/-- No blank is in a word. -/
theorem spaced_of_word {t : Text} (h : ∀ c ∈ t, isWord c = true) : spaced t = t := by
  have hsame : ∀ c ∈ t, toSpace c = id c := by
    intro c hc
    refine if_neg fun hblank => ?_
    have hword := h c hc
    rw [isWord_of_isBlank hblank] at hword
    cases hword
  rw [spaced, List.map_congr_left hsame, List.map_id]

/-- The text is the word, or begins with the word and a blank. -/
def BeginsWith (word t : Text) : Prop :=
  ∃ x : Text, t = word ++ x ∧ ∀ c, x.head? = some c → isBlank c = true

theorem isWord_toSpace (c : Char) : isWord (toSpace c) = isWord c := by
  rw [toSpace]
  split
  · next h =>
    rw [isWord_of_isBlank h]
    rfl
  · rfl

end Text

open Text

namespace CharSet

/-- No blank is in the part. -/
def Part.isSpaceless : Part → Bool
  | .one c            => !isBlank c
  | .range first last => 0x20 < first.toNat && last.toNat < 0x80
  | .word             => true
  | .blank            => false

/-- A set with any blank has the space. -/
def takesSpaces (s : CharSet) : Bool :=
  s.contains ' ' || (if s.inverted then s.parts.contains .blank else s.parts.all Part.isSpaceless)

theorem Part.not_contains_of_isSpaceless {part : Part} (hpart : part.isSpaceless = true) {c : Char}
    (hc : isBlank c = true) : part.contains c = false := by
  cases part with
  | one d =>
    rw [contains, beq_eq_false_iff_ne]
    rintro rfl
    rw [isSpaceless, hc] at hpart
    cases hpart
  | range first last =>
    have hcode := toNat_mem_blankCodes hc
    simp only [isSpaceless, Bool.and_eq_true, decide_eq_true_eq] at hpart
    simp only [blankCodes, List.mem_cons, List.not_mem_nil, or_false] at hcode
    rw [contains, ← Bool.not_eq_true, Bool.and_eq_true, decide_eq_true_eq, decide_eq_true_eq]
    rintro ⟨hfirst, hlast⟩
    have hlow : first.toNat ≤ c.toNat := UInt32.le_iff_toNat_le.mp hfirst
    have hhigh : c.toNat ≤ last.toNat := UInt32.le_iff_toNat_le.mp hlast
    omega
  | word => exact isWord_of_isBlank hc
  | blank => cases hpart

/-- A set that takes spaces has the space, if it has any blank. -/
theorem contains_space {s : CharSet} (hs : s.takesSpaces = true) {c : Char}
    (hc : isBlank c = true) (h : s.contains c = true) : s.contains ' ' = true := by
  rw [takesSpaces, Bool.or_eq_true] at hs
  refine hs.resolve_right fun hparts => ?_
  rw [contains] at h
  split at hparts
  · next hinverted =>
    have hblank : s.parts.any (·.contains c) = true :=
      List.any_eq_true.mpr ⟨.blank, List.contains_iff_mem.mp hparts, hc⟩
    rw [hblank, hinverted] at h
    cases h
  · next hinverted =>
    have hnone : s.parts.any (·.contains c) = false := by
      rw [List.any_eq_false]
      intro part hpart
      rw [Part.not_contains_of_isSpaceless (List.all_eq_true.mp hparts part hpart) hc]
      exact Bool.false_ne_true
    rw [Bool.not_eq_true] at hinverted
    rw [hnone, hinverted] at h
    cases h

end CharSet

namespace Pattern

/-- Every set of the pattern that has a blank has the space. -/
def takesSpaces : Pattern → Bool
  | .empty | .wordEdge | .lineEnd => true
  | .set s                        => s.takesSpaces
  | .seq p q | .alt p q           => p.takesSpaces && q.takesSpaces
  | .star p                       => p.takesSpaces

variable {b : Option Char} {p : Pattern} {ps : List Pattern} {s t r : Text}

theorem any_isWord_toSpace (b : Option Char) :
    (b.map toSpace).any isWord = b.any isWord := by
  cases b with
  | none => rfl
  | some c => exact isWord_toSpace c

theorem getLast?_spaced_or (t : Text) (b : Option Char) :
    t.spaced.getLast?.or (b.map toSpace) = (t.getLast?.or b).map toSpace := by
  rw [Text.spaced, List.getLast?_map]
  cases t.getLast? <;> rfl

/-- A pattern that takes spaces reads no less if every blank is made a space. -/
theorem Reads.spaced (h : Reads b p t r) (hp : p.takesSpaces = true) :
    Reads (b.map toSpace) p t.spaced r.spaced := by
  induction h with
  | empty => exact .empty
  | @set b s c r hc =>
    by_cases hblank : isBlank c = true
    · have hspace := CharSet.contains_space hp hblank hc
      rw [← toSpace_of_isBlank hblank] at hspace
      exact .set hspace
    · have hsame : toSpace c = c := if_neg hblank
      exact .set (hsame.symm ▸ hc)
  | wordEdge h =>
    refine .wordEdge ?_
    rwa [Text.spaced, List.head?_map, any_isWord_toSpace, any_isWord_toSpace]
  | lineEnd => exact .lineEnd
  | @seq b p q t u r _ _ ihp ihq =>
    rw [takesSpaces, Bool.and_eq_true] at hp
    have hfirst := ihp hp.1
    have hsecond := ihq hp.2
    rw [spaced_append] at hfirst
    rw [← getLast?_spaced_or] at hsecond
    exact spaced_append t u ▸ .seq hfirst hsecond
  | left _ ih =>
    rw [takesSpaces, Bool.and_eq_true] at hp
    exact .left (ih hp.1)
  | right _ ih =>
    rw [takesSpaces, Bool.and_eq_true] at hp
    exact .right (ih hp.2)
  | stop => exact .stop
  | @again b p t u r _ _ ihp ihq =>
    have hfirst := ihp hp
    have hsecond := ihq hp
    rw [spaced_append] at hfirst
    rw [← getLast?_spaced_or] at hsecond
    exact spaced_append t u ▸ .again hfirst hsecond

/-- So such a pattern opens a line with spaces in the place of blanks, if it opens the line. -/
theorem opens_spaced (hp : p.takesSpaces = true) {line : Text} (h : p.opens line = true) :
    p.opens line.spaced = true := by
  obtain ⟨t, r, rfl, hreads⟩ := opens_iff.mp h
  exact opens_iff.mpr ⟨_, _, spaced_append t r, hreads.spaced hp⟩

/-! ### Texts that end a pattern -/

/-- What is left of the patterns after they have read a text. -/
def remainders (before : Option Char) : Text → List Pattern → List Pattern
  | [],     ps => ps
  | c :: t, ps => remainders (some c) t (afterAll before c ps)

/-- None of the patterns is done in front of a character of the text. -/
def runsOn (before : Option Char) : Text → List Pattern → Bool
  | [],     _  => true
  | c :: t, ps => !ps.any (isDone before (some c)) && runsOn (some c) t (afterAll before c ps)

/-- No line that goes on with the text is opened by one of the patterns. -/
def rejects (before : Option Char) (t : Text) (ps : List Pattern) : Bool :=
  runsOn before t ps && (remainders before t ps).isEmpty

/-- Where no pattern is done inside of a text, the remainders decide what follows it. -/
theorem openAny_append (h : runsOn b s ps = true) (t : Text) :
    openAny b (s ++ t) ps = openAny (s.getLast?.or b) t (remainders b s ps) := by
  induction s generalizing b ps with
  | nil => rfl
  | cons c s ih =>
    rw [runsOn, Bool.and_eq_true, Bool.not_eq_true'] at h
    rw [List.cons_append, openAny_cons, h.1, Bool.false_or, ih h.2, getLast?_cons_or]
    rfl

theorem openAny_of_rejects (h : rejects b s ps = true) (t : Text) :
    openAny b (s ++ t) ps = false := by
  rw [rejects, Bool.and_eq_true, List.isEmpty_iff] at h
  rw [openAny_append h.1, h.2, openAny.eq_def]

/-! ### Runs of spaces -/

/-- After one more space the patterns are no others, and none of them is done in front of it. -/
def settled (ps : List Pattern) : Bool :=
  !ps.any (isDone (some ' ') (some ' ')) && (afterAll (some ' ') ' ' ps).all ps.contains

theorem openAny_mono {qs : List Pattern} (hsub : ps ⊆ qs) (h : openAny b t ps = true) :
    openAny b t qs = true := by
  obtain ⟨p, hp, hreads⟩ := openAny_iff.mp h
  exact openAny_iff.mpr ⟨p, hsub hp, hreads⟩

/-- Settled patterns that open a text behind spaces open the text alone. -/
theorem openAny_spaces (hps : settled ps = true) (n : Nat) {t : Text}
    (h : openAny (some ' ') (List.replicate n ' ' ++ t) ps = true) :
    openAny (some ' ') t ps = true := by
  rw [settled, Bool.and_eq_true, Bool.not_eq_true', List.all_eq_true] at hps
  induction n with
  | zero => exact h
  | succ n ih =>
    rw [List.replicate_succ, List.cons_append, openAny_cons, hps.1, Bool.false_or] at h
    exact ih (openAny_mono (fun p hp => List.contains_iff_mem.mp (hps.2 p hp)) h)

/-- Behind a word and blanks, it is the remainders behind the word and one space that go on. -/
theorem openAny_of_opens_word {word blanks : Text} (hp : p.takesSpaces = true)
    (hruns : runsOn none (word ++ [' ']) [p] = true)
    (hsettled : settled (remainders none (word ++ [' ']) [p]) = true)
    (hword : word.spaced = word) (hne : blanks ≠ []) (hblanks : ∀ c ∈ blanks, isBlank c = true)
    {x : Text} (h : p.opens (word ++ (blanks ++ x)) = true) :
    openAny (some ' ') x.spaced (remainders none (word ++ [' ']) [p]) = true := by
  obtain ⟨c, blanks, rfl⟩ := List.exists_cons_of_ne_nil hne
  have hspaced : (word ++ ((c :: blanks) ++ x)).spaced =
      (word ++ [' ']) ++ (List.replicate blanks.length ' ' ++ x.spaced) := by
    rw [spaced_append, spaced_append, hword, spaced_of_blank hblanks, List.length_cons,
      List.replicate_succ, List.cons_append, List.append_cons]
  have hopen := opens_spaced hp h
  rw [opens, hspaced, openAny_append hruns, List.getLast?_concat] at hopen
  exact openAny_spaces hsettled _ hopen

/-- The pattern opens no line that begins with the word and the mark, with or without blanks between
them. -/
def avoids (p : Pattern) (word mark : Text) : Bool :=
  let behind := remainders none (word ++ [' ']) [p]
  rejects none (word ++ mark) [p] && runsOn none (word ++ [' ']) [p] && settled behind &&
    rejects (some ' ') mark behind

/-- A line that begins with the word and the mark is not opened, whatever blanks stand between them
and whatever follows. -/
theorem opens_of_avoids {word mark blanks : Text} (hp : p.takesSpaces = true)
    (h : p.avoids word mark = true) (hword : word.spaced = word) (hmark : mark.spaced = mark)
    (hblanks : ∀ c ∈ blanks, isBlank c = true) (x : Text) :
    p.opens (word ++ (blanks ++ (mark ++ x))) = false := by
  simp only [avoids, Bool.and_eq_true] at h
  obtain ⟨⟨⟨hclose, hruns⟩, hsettled⟩, hapart⟩ := h
  rw [← Bool.not_eq_true]
  intro hopens
  -- without a blank the pattern reads on inside of the word and the mark
  by_cases hne : blanks = []
  · have hopen := opens_spaced hp hopens
    rw [hne, List.nil_append, opens, spaced_append, spaced_append, hword, hmark,
      ← List.append_assoc, openAny_of_rejects hclose] at hopen
    cases hopen
  · have hopen := openAny_of_opens_word hp hruns hsettled hword hne hblanks hopens
    rw [spaced_append, hmark, openAny_of_rejects hapart] at hopen
    cases hopen

/-! ### Lines that begin with a word -/

/-- The pattern opens no line that begins with the word, as the line ends or a blank follows. -/
def shuns (p : Pattern) (word : Text) : Bool :=
  p.takesSpaces && !p.opens word && rejects none (word ++ [' ']) [p]

/-- A line that begins with the word is not opened, if the word ends the line or a blank follows. -/
theorem opens_of_shuns {word line : Text} (h : p.shuns word = true) (hword : word.spaced = word)
    (hline : BeginsWith word line) : p.opens line = false := by
  simp only [shuns, Bool.and_eq_true, Bool.not_eq_true'] at h
  obtain ⟨⟨hp, halone⟩, hrejects⟩ := h
  obtain ⟨x, rfl, hx⟩ := hline
  cases x with
  | nil => rwa [List.append_nil]
  | cons c x =>
    rw [← Bool.not_eq_true]
    intro hopens
    have hc : Text.spaced (c :: x) = [' '] ++ Text.spaced x := by
      rw [Text.spaced, List.map_cons, toSpace_of_isBlank (hx c rfl)]
      rfl
    have hopen := opens_spaced hp hopens
    rw [opens, spaced_append, hword, hc, ← List.append_assoc, openAny_of_rejects hrejects] at hopen
    cases hopen

end Pattern

end Semicolon
