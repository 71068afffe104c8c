import Mathlib.Data.List.Basic
import Semicolon.Pattern.Matching

/-!
# Pattern — what a pattern reads

`Reads before p t rest` says that the pattern `p` can read the text `t`, where `before` is the
character in front of it and `rest` stands behind it.  Its rules follow the pattern, not the text.

* `isDone_iff`: a pattern is done if it reads nothing more.
* `after_iff`: the remainders of a pattern read what the pattern reads behind one character.

**Main result** (`opens_iff`).  A line is opened by the patterns that read a beginning of it.  So
every pattern of this library can be told by the texts that it reads; for the pieces of lines the
lemmas of the last section do so.
-/

namespace Semicolon

open Text (isBlank isWord)

namespace Pattern

/-- The pattern can read a text between a character and another text. -/
inductive Reads : Option Char → Pattern → Text → Text → Prop where
  | empty {b r} : Reads b .empty [] r
  | set {b s c r} (h : s.contains c = true) : Reads b (.set s) [c] r
  | wordEdge {b r} (h : b.any isWord ≠ r.head?.any isWord) : Reads b .wordEdge [] r
  | lineEnd {b} : Reads b .lineEnd [] []
  | seq {b p q t u r} (hp : Reads b p t (u ++ r)) (hq : Reads (t.getLast?.or b) q u r) :
      Reads b (.seq p q) (t ++ u) r
  | left {b p q t r} (h : Reads b p t r) : Reads b (.alt p q) t r
  | right {b p q t r} (h : Reads b q t r) : Reads b (.alt p q) t r
  | stop {b p r} : Reads b (.star p) [] r
  | again {b p t u r} (hp : Reads b p t (u ++ r)) (hq : Reads (t.getLast?.or b) (.star p) u r) :
      Reads b (.star p) (t ++ u) r

variable {b : Option Char} {c : Char} {p q : Pattern} {ps : List Pattern} {t u r : Text}

/-! ### The rules, read backwards -/

@[simp] theorem reads_empty_iff : Reads b .empty t r ↔ t = [] :=
  ⟨fun h => by cases h; rfl, by rintro rfl; exact .empty⟩

@[simp] theorem reads_set_iff {s : CharSet} :
    Reads b (.set s) t r ↔ ∃ c, s.contains c = true ∧ t = [c] :=
  ⟨fun h => by cases h with | set h => exact ⟨_, h, rfl⟩, by rintro ⟨c, h, rfl⟩; exact .set h⟩

@[simp] theorem reads_wordEdge_iff :
    Reads b .wordEdge t r ↔ t = [] ∧ b.any isWord ≠ r.head?.any isWord :=
  ⟨fun h => by cases h with | wordEdge h => exact ⟨rfl, h⟩, by rintro ⟨rfl, h⟩; exact .wordEdge h⟩

@[simp] theorem reads_lineEnd_iff : Reads b .lineEnd t r ↔ t = [] ∧ r = [] :=
  ⟨fun h => by cases h; exact ⟨rfl, rfl⟩, by rintro ⟨rfl, rfl⟩; exact .lineEnd⟩

theorem reads_seq_iff :
    Reads b (.seq p q) t r ↔
      ∃ u v, t = u ++ v ∧ Reads b p u (v ++ r) ∧ Reads (u.getLast?.or b) q v r :=
  ⟨fun h => by cases h with | seq hp hq => exact ⟨_, _, rfl, hp, hq⟩,
    by rintro ⟨u, v, rfl, hp, hq⟩; exact .seq hp hq⟩

theorem reads_append_iff :
    Reads b (p ++ q) t r ↔
      ∃ u v, t = u ++ v ∧ Reads b p u (v ++ r) ∧ Reads (u.getLast?.or b) q v r :=
  reads_seq_iff

@[simp] theorem reads_alt_iff : Reads b (.alt p q) t r ↔ Reads b p t r ∨ Reads b q t r :=
  ⟨fun h => by cases h with | left h => exact .inl h | right h => exact .inr h,
    fun h => h.elim .left .right⟩

theorem getLast?_cons_or (c : Char) (t : Text) (b : Option Char) :
    (c :: t).getLast?.or b = t.getLast?.or (some c) := by
  rw [List.getLast?_cons, Option.some_or, Option.or_some]

/-- A repetition that reads something begins with a round that does. -/
theorem exists_of_reads_star (h : Reads b (.star p) (c :: t) r) :
    ∃ u v, t = u ++ v ∧ Reads b p (c :: u) (v ++ r) ∧
      Reads (u.getLast?.or (some c)) (.star p) v r := by
  generalize hs : Pattern.star p = s at h
  generalize ht : c :: t = x at h
  induction h with
  | stop => cases ht
  | @again b p' u v r hp hq _ ih =>
    cases hs
    cases u with
    | nil => exact ih rfl ht
    | cons c' u =>
      rw [List.cons_append, List.cons.injEq] at ht
      obtain ⟨rfl, rfl⟩ := ht
      exact ⟨u, v, rfl, hp, getLast?_cons_or .. ▸ hq⟩
  | empty | set | wordEdge | lineEnd | seq | left | right => cases hs

/-! ### Matching -/

/-- A pattern is done if it reads nothing more. -/
theorem isDone_iff : isDone b r.head? p = true ↔ Reads b p [] r := by
  induction p generalizing b with
  | empty => simp [isDone]
  | set s => simp [isDone]
  | wordEdge => simp [isDone]
  | lineEnd => cases r <;> simp [isDone]
  | seq p q ihp ihq =>
    rw [isDone, Bool.and_eq_true, ihp, ihq, reads_seq_iff]
    constructor
    · rintro ⟨hp, hq⟩
      exact ⟨[], [], rfl, hp, hq⟩
    · rintro ⟨u, v, huv, hp, hq⟩
      obtain ⟨rfl, rfl⟩ := List.append_eq_nil_iff.mp huv.symm
      exact ⟨hp, hq⟩
  | alt p q ihp ihq => rw [isDone, Bool.or_eq_true, ihp, ihq, reads_alt_iff]
  | star p => exact iff_of_true rfl .stop

/-- A first part that reads nothing can be left out. -/
theorem reads_andThen_iff : Reads b (andThen p q) t r ↔ Reads b (.seq p q) t r := by
  rw [andThen.eq_def]
  split
  · rw [reads_seq_iff]
    constructor
    · exact fun h => ⟨[], t, rfl, .empty, h⟩
    · rintro ⟨u, v, rfl, hp, hq⟩
      obtain rfl := reads_empty_iff.mp hp
      exact hq
  · rfl

/-- The remainders of a pattern read what the pattern reads behind one character. -/
theorem after_iff : (∃ q ∈ after b c p, Reads (some c) q t r) ↔ Reads b p (c :: t) r := by
  induction p generalizing b t r with
  | empty | wordEdge | lineEnd => simp [after]
  | set s =>
    by_cases hs : s.contains c = true <;> simp [after, hs]
  | seq p q ihp ihq =>
    -- the first character is read by `p`, or by `q` behind a `p` that reads nothing
    have hfirst : (∃ q' ∈ (p.after b c).map (andThen · q), Reads (some c) q' t r) ↔
        ∃ u v, t = u ++ v ∧ Reads b p (c :: u) (v ++ r) ∧ Reads (u.getLast?.or (some c)) q v r := by
      simp only [List.mem_map, exists_exists_and_eq_and, reads_andThen_iff, reads_seq_iff]
      constructor
      · rintro ⟨p', hp', u, v, rfl, hu, hv⟩
        exact ⟨u, v, rfl, ihp.mp ⟨p', hp', hu⟩, hv⟩
      · rintro ⟨u, v, rfl, hu, hv⟩
        obtain ⟨p', hp', hu⟩ := ihp.mpr hu
        exact ⟨p', hp', u, v, rfl, hu, hv⟩
    have hsecond : isDone b (some c) p = true ↔ Reads b p [] (c :: (t ++ r)) :=
      isDone_iff (r := c :: (t ++ r))
    have hsplit : (∃ q' ∈ (Pattern.seq p q).after b c, Reads (some c) q' t r) ↔
        (∃ q' ∈ (p.after b c).map (andThen · q), Reads (some c) q' t r) ∨
          isDone b (some c) p = true ∧ ∃ q' ∈ q.after b c, Reads (some c) q' t r := by
      rw [after]
      cases isDone b (some c) p with
      | true => simp only [if_true, List.mem_append, or_and_right, exists_or, true_and]
      | false => simp only [Bool.false_eq_true, if_false, false_and, or_false]
    rw [hsplit, hfirst, hsecond, ihq, reads_seq_iff]
    constructor
    · rintro (⟨u, v, rfl, hu, hv⟩ | ⟨hp, hq⟩)
      · exact ⟨c :: u, v, rfl, hu, (getLast?_cons_or c u b).symm ▸ hv⟩
      · exact ⟨[], c :: t, rfl, hp, hq⟩
    · rintro ⟨u, v, huv, hp, hq⟩
      cases u with
      | nil =>
        obtain rfl : c :: t = v := huv
        exact .inr ⟨hp, hq⟩
      | cons c' u =>
        rw [List.cons_append, List.cons.injEq] at huv
        obtain ⟨rfl, rfl⟩ := huv
        exact .inl ⟨u, v, rfl, hp, getLast?_cons_or c u b ▸ hq⟩
  | alt p q ihp ihq =>
    rw [reads_alt_iff, ← ihp, ← ihq]
    simp only [after, List.mem_append, or_and_right, exists_or]
  | star p ih =>
    -- a round that reads nothing can be left out, so the character is read by the first round
    simp only [after, List.mem_map, exists_exists_and_eq_and, reads_andThen_iff, reads_seq_iff]
    constructor
    · rintro ⟨p', hp', u, v, rfl, hu, hv⟩
      exact .again (ih.mp ⟨p', hp', hu⟩) ((getLast?_cons_or c u b).symm ▸ hv)
    · intro h
      obtain ⟨u, v, rfl, hu, hv⟩ := exists_of_reads_star h
      obtain ⟨p', hp', hu⟩ := ih.mpr hu
      exact ⟨p', hp', u, v, rfl, hu, hv⟩

theorem any_isDone_iff :
    ps.any (isDone b r.head?) = true ↔ ∃ p ∈ ps, Reads b p [] r := by
  simp only [List.any_eq_true, isDone_iff]

/-- So do the remainders of several patterns. -/
theorem afterAll_iff :
    (∃ q ∈ afterAll b c ps, Reads (some c) q t r) ↔ ∃ p ∈ ps, Reads b p (c :: t) r := by
  simp only [← after_iff, afterAll, List.mem_eraseDups, List.mem_flatMap]
  constructor
  · rintro ⟨q, ⟨p, hp, hq⟩, h⟩
    exact ⟨p, hp, q, hq, h⟩
  · rintro ⟨p, hp, q, hq, h⟩
    exact ⟨q, ⟨p, hp, hq⟩, h⟩

theorem openAny_nil (b : Option Char) (ps : List Pattern) :
    openAny b [] ps = ps.any (isDone b none) := by
  cases ps <;> rfl

theorem openAny_cons (b : Option Char) (c : Char) (t : Text) (ps : List Pattern) :
    openAny b (c :: t) ps =
      (ps.any (isDone b (some c)) || openAny (some c) t (afterAll b c ps)) := by
  cases ps with
  | nil => cases t <;> rfl
  | cons p ps => rfl

/-- The text is opened by the patterns that read a beginning of it. -/
theorem openAny_iff :
    openAny b t ps = true ↔ ∃ p ∈ ps, ∃ u r, t = u ++ r ∧ Reads b p u r := by
  induction t generalizing b ps with
  | nil =>
    rw [openAny_nil, ← List.head?_nil, any_isDone_iff]
    constructor
    · rintro ⟨p, hp, h⟩
      exact ⟨p, hp, [], [], rfl, h⟩
    · rintro ⟨p, hp, u, r, hur, h⟩
      obtain ⟨rfl, rfl⟩ := List.append_eq_nil_iff.mp hur.symm
      exact ⟨p, hp, h⟩
  | cons c t ih =>
    rw [openAny_cons, Bool.or_eq_true, ← List.head?_cons (l := t), any_isDone_iff, ih]
    constructor
    · rintro (⟨p, hp, h⟩ | ⟨q, hq, u, r, rfl, h⟩)
      · exact ⟨p, hp, [], c :: t, rfl, h⟩
      · obtain ⟨p, hp, h⟩ := afterAll_iff.mp ⟨q, hq, h⟩
        exact ⟨p, hp, c :: u, r, rfl, h⟩
    · rintro ⟨p, hp, u, r, hur, h⟩
      cases u with
      | nil =>
        obtain rfl : c :: t = r := hur
        exact .inl ⟨p, hp, h⟩
      | cons c' u =>
        rw [List.cons_append, List.cons.injEq] at hur
        obtain ⟨rfl, rfl⟩ := hur
        obtain ⟨q, hq, h⟩ := afterAll_iff.mpr ⟨p, hp, h⟩
        exact .inr ⟨q, hq, u, r, rfl, h⟩

/-- A line is opened by a pattern that reads a beginning of it. -/
theorem opens_iff {line : Text} :
    p.opens line = true ↔ ∃ t r, line = t ++ r ∧ Reads none p t r := by
  rw [opens, openAny_iff]
  simp only [List.mem_singleton, exists_eq_left]

/-! ### Pieces of lines -/

@[simp] theorem reads_literal_iff {s : Text} : Reads b (literal s) t r ↔ t = s := by
  induction s generalizing b t with
  | nil => simp [literal]
  | cons c s ih =>
    have hone : ∀ x, CharSet.contains ⟨[.one c], false⟩ x = true ↔ x = c := by
      simp [CharSet.contains, CharSet.Part.contains]
    cases s with
    | nil => simp [literal, hone]
    | cons c' s =>
      simp only [literal, reads_seq_iff, reads_set_iff, hone, exists_eq_left]
      constructor
      · rintro ⟨u, v, rfl, rfl, h⟩
        rw [ih.mp h]
        rfl
      · rintro rfl
        exact ⟨[c], c' :: s, rfl, rfl, ih.mpr rfl⟩

@[simp] theorem reads_word_iff {s : String} : Reads b (word s) t r ↔ t = s.toList :=
  reads_literal_iff

/-- A choice reads what one of its patterns reads. -/
@[simp] theorem reads_oneOf_iff : Reads b (oneOf ps) t r ↔ ∃ p ∈ ps, Reads b p t r := by
  induction ps with
  | nil => simp [oneOf, CharSet.contains, CharSet.of]
  | cons p ps ih =>
    cases ps with
    | nil => simp [oneOf]
    | cons p' ps =>
      have hcons : oneOf (p :: p' :: ps) = .alt p (oneOf (p' :: ps)) := rfl
      rw [hcons, reads_alt_iff, ih, List.exists_mem_cons_iff (a := p)]

@[simp] theorem reads_oneOf_words_iff {words : List String} :
    Reads b (oneOf (words.map word)) t r ↔ ∃ w ∈ words, t = w.toList := by
  simp only [reads_oneOf_iff, List.mem_map, exists_exists_and_eq_and, reads_word_iff]

@[simp] theorem reads_optional_iff : Reads b p.optional t r ↔ Reads b p t r ∨ t = [] := by
  rw [optional, reads_alt_iff, reads_empty_iff]

/-- Sets are repeated for as long as the characters belong to them. -/
@[simp] theorem reads_many_set_iff {s : CharSet} :
    Reads b (many (.set s)) t r ↔ ∀ c ∈ t, s.contains c = true := by
  rw [many]
  constructor
  · intro h
    induction t generalizing b with
    | nil => simp
    | cons c t ih =>
      obtain ⟨u, v, rfl, hu, hv⟩ := exists_of_reads_star h
      obtain ⟨c', hc, hu⟩ := reads_set_iff.mp hu
      rw [List.cons.injEq] at hu
      obtain ⟨rfl, rfl⟩ := hu
      exact List.forall_mem_cons.mpr ⟨hc, ih hv⟩
  · intro h
    induction t generalizing b with
    | nil => exact .stop
    | cons c t ih =>
      obtain ⟨hc, ht⟩ := List.forall_mem_cons.mp h
      exact .again (t := [c]) (.set hc) (ih ht)

@[simp] theorem reads_many1_set_iff {s : CharSet} :
    Reads b (many1 (.set s)) t r ↔ t ≠ [] ∧ ∀ c ∈ t, s.contains c = true := by
  rw [many1, reads_append_iff]
  simp only [reads_set_iff, reads_many_set_iff]
  constructor
  · rintro ⟨_, v, rfl, ⟨c, hc, rfl⟩, hv⟩
    exact ⟨by simp, List.forall_mem_cons.mpr ⟨hc, hv⟩⟩
  · rintro ⟨hne, h⟩
    obtain ⟨c, t, rfl⟩ := List.exists_cons_of_ne_nil hne
    obtain ⟨hc, ht⟩ := List.forall_mem_cons.mp h
    exact ⟨[c], t, rfl, ⟨c, hc, rfl⟩, ht⟩

theorem contains_blank (c : Char) : CharSet.blank.contains c = isBlank c := by
  simp [CharSet.blank, CharSet.blankOr, CharSet.contains, CharSet.Part.contains]

theorem contains_inLine {c : Char} : CharSet.inLine.contains c = true ↔ c ≠ '\n' := by
  simp [CharSet.inLine, CharSet.but, CharSet.contains, CharSet.Part.contains]

@[simp] theorem reads_blanks_iff : Reads b blanks t r ↔ ∀ c ∈ t, isBlank c = true := by
  rw [blanks, reads_many_set_iff]
  simp only [contains_blank]

@[simp] theorem reads_blanks1_iff :
    Reads b blanks1 t r ↔ t ≠ [] ∧ ∀ c ∈ t, isBlank c = true := by
  rw [blanks1, reads_many1_set_iff]
  simp only [contains_blank]

/-- A modifier is one of its words, with blanks behind it. -/
theorem reads_modifier_iff {words : List String} :
    Reads b (modifier words) t r ↔
      ∃ w ∈ words, ∃ gap : Text, gap ≠ [] ∧ (∀ c ∈ gap, isBlank c = true) ∧
        t = w.toList ++ gap := by
  simp only [modifier, reads_append_iff, reads_oneOf_words_iff, reads_blanks1_iff]
  constructor
  · rintro ⟨_, gap, rfl, ⟨w, hw, rfl⟩, hne, hgap⟩
    exact ⟨w, hw, gap, hne, hgap, rfl⟩
  · rintro ⟨w, hw, gap, hne, hgap, rfl⟩
    exact ⟨_, gap, rfl, ⟨w, hw, rfl⟩, hne, hgap⟩

@[simp] theorem reads_rest_iff : Reads b rest t r ↔ '\n' ∉ t := by
  rw [rest, reads_many_set_iff]
  simp only [contains_inLine]
  exact ⟨fun h hmem => h _ hmem rfl, fun h c hc heq => h (heq ▸ hc)⟩

/-- A keyword is one of its words, up to an edge of the word. -/
@[simp] theorem reads_keyword_iff {words : List String} :
    Reads b (keyword words) t r ↔
      ∃ w ∈ words, t = w.toList ∧ (t.getLast?.or b).any isWord ≠ r.head?.any isWord := by
  simp only [keyword, reads_append_iff, reads_oneOf_words_iff, reads_wordEdge_iff]
  constructor
  · rintro ⟨u, v, rfl, ⟨w, hw, rfl⟩, rfl, hedge⟩
    exact ⟨w, hw, List.append_nil _, by rwa [List.append_nil]⟩
  · rintro ⟨w, hw, rfl, hedge⟩
    exact ⟨_, [], (List.append_nil _).symm, ⟨w, hw, rfl⟩, rfl, hedge⟩

/-- At the start of a line a keyword is read, if no part of a word follows it. -/
theorem reads_keyword_of_mem {words : List String} {w : String} (hw : w ∈ words)
    (hlast : w.toList.getLast?.any isWord = true) (hr : r.head?.any isWord = false) :
    Reads none (keyword words) w.toList r := by
  refine reads_keyword_iff.mpr ⟨w, hw, rfl, ?_⟩
  rw [Option.or_none, hlast, hr]
  exact Bool.noConfusion

@[simp] theorem reads_parenthesised_iff :
    Reads b parenthesised t r ↔ ∃ v, t = '(' :: (v ++ [')']) ∧ '\n' ∉ v := by
  simp only [parenthesised, reads_append_iff, reads_word_iff, reads_rest_iff]
  constructor
  · rintro ⟨_, w, rfl, ⟨u, v, rfl, rfl, hv⟩, rfl⟩
    exact ⟨v, by simp, hv⟩
  · rintro ⟨v, rfl, hv⟩
    exact ⟨'(' :: v, [')'], rfl, ⟨['('], v, rfl, rfl, hv⟩, rfl⟩

end Pattern
end Semicolon
