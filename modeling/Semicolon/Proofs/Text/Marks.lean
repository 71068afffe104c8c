import Mathlib.Data.List.Infix
import Semicolon.Text.Basic

/-!
# Text — where a mark stands

* `splitFirst?_some` and `splitLast?_some`: the two sides of a split and the mark make the text.
* `containsMark_iff`: a mark is found if and only if it is a part of the text.
* `splitFirst?_length_le`: no place where the mark stands is in front of the first one.
* `splitFirst?_append` and `splitLast?_append`: a text that shares no character with the mark can be
  put behind without moving a split, so the mark stands nowhere else (`infix_append_iff`).
-/

namespace Semicolon.Text

variable {mark t before after : Text}

/-- A text that begins with a mark is the mark and what is left without it. -/
theorem eq_append_of_isPrefixOf (h : mark.isPrefixOf t = true) :
    t = mark ++ t.drop mark.length := by
  obtain ⟨r, rfl⟩ := List.isPrefixOf_iff_prefix.mp h
  rw [List.drop_left]

theorem startsWith_iff : startsWith t mark = true ↔ mark <+: t := List.isPrefixOf_iff_prefix

theorem startsWith_eq_false_iff : startsWith t mark = false ↔ ¬ mark <+: t := by
  rw [← startsWith_iff, Bool.not_eq_true]

/-- A mark ends a text in its own last character. -/
theorem endsWith_eq_false {c : Char} (hmark : mark ≠ []) (hlast : mark.getLast? ≠ some c)
    (ht : t.getLast? = some c) : endsWith t mark = false := by
  rw [endsWith, ← Bool.not_eq_true, List.isSuffixOf_iff_suffix]
  rintro ⟨u, rfl⟩
  rw [List.getLast?_append_of_ne_nil u hmark] at ht
  exact hlast ht

/-! ### The first place -/

/-- The two sides of a split and the mark between them make up the text. -/
theorem splitFirst?_some (h : splitFirst? mark t = some (before, after)) :
    t = before ++ (mark ++ after) := by
  induction t generalizing before with
  | nil =>
    obtain ⟨hm, h⟩ := Option.ite_none_right_eq_some.mp h
    obtain rfl : mark = [] := List.isEmpty_iff.mp hm
    cases h
    rfl
  | cons c t ih =>
    rw [splitFirst?] at h
    split at h
    · next hp =>
      cases h
      exact eq_append_of_isPrefixOf hp
    · obtain ⟨⟨b, a⟩, hs, heq⟩ := Option.map_eq_some_iff.mp h
      cases heq
      rw [List.cons_append, ← ih hs]

/-- No place where the mark stands is in front of the first one. -/
theorem splitFirst?_length_le (h : splitFirst? mark t = some (before, after)) {b a : Text}
    (ht : t = b ++ (mark ++ a)) : before.length ≤ b.length := by
  induction t generalizing before b with
  | nil =>
    obtain ⟨-, h⟩ := Option.ite_none_right_eq_some.mp h
    cases h
    exact Nat.zero_le _
  | cons c t ih =>
    rw [splitFirst?] at h
    split at h
    · cases h
      exact Nat.zero_le _
    · next hp =>
      obtain ⟨⟨b', a'⟩, hs, heq⟩ := Option.map_eq_some_iff.mp h
      cases heq
      cases b with
      -- a mark at the start would have been found there
      | nil => exact absurd (List.isPrefixOf_iff_prefix.mpr ⟨a, ht.symm⟩) hp
      | cons x b =>
        injection ht with _ ht
        exact Nat.succ_le_succ (ih hs ht)

/-- The mark does not stand in front of its first place. -/
theorem splitFirst?_not_infix (h : splitFirst? mark t = some (before, after)) (hm : mark ≠ []) :
    ¬ mark <:+: before := by
  rintro ⟨b, a, rfl⟩
  have ht : t = b ++ (mark ++ (a ++ (mark ++ after))) := by simpa using splitFirst?_some h
  have hle := splitFirst?_length_le h ht
  have := List.length_pos_iff.mpr hm
  simp only [List.length_append] at hle
  omega

/-- There is no split exactly if the mark is no part of the text. -/
theorem splitFirst?_eq_none_iff : splitFirst? mark t = none ↔ ¬ mark <:+: t := by
  induction t with
  | nil => cases mark <;> simp [splitFirst?]
  | cons c t ih =>
    rw [splitFirst?, List.infix_cons_iff, ← List.isPrefixOf_iff_prefix]
    by_cases hp : mark.isPrefixOf (c :: t) = true
    · simp [hp]
    · simp [hp, ih]

/-- A mark is found exactly if it is a part of the text. -/
theorem containsMark_iff : containsMark t mark = true ↔ mark <:+: t := by
  rw [containsMark, Option.isSome_iff_ne_none, Ne, splitFirst?_eq_none_iff, not_not]

/-- A mark that is a part of the text splits it. -/
theorem exists_splitFirst?_eq (h : mark <:+: t) :
    ∃ before after, splitFirst? mark t = some (before, after) := by
  obtain ⟨⟨before, after⟩, hs⟩ := Option.isSome_iff_exists.mp (containsMark_iff.mpr h)
  exact ⟨before, after, hs⟩

/-! ### The last place -/

/-- The two sides of a split at the last place make up the text, too. -/
theorem splitLast?_some (h : splitLast? mark t = some (before, after)) :
    t = before ++ (mark ++ after) := by
  induction t generalizing before after with
  | nil =>
    obtain ⟨hm, h⟩ := Option.ite_none_right_eq_some.mp h
    obtain rfl : mark = [] := List.isEmpty_iff.mp hm
    cases h
    rfl
  | cons c t ih =>
    rw [splitLast?] at h
    split at h
    · next b a hs =>
      cases h
      rw [List.cons_append, ← ih hs]
    · obtain ⟨hp, h⟩ := Option.ite_none_right_eq_some.mp h
      cases h
      exact eq_append_of_isPrefixOf hp

/-- The search from the end misses no mark either. -/
theorem splitLast?_eq_none_iff : splitLast? mark t = none ↔ ¬ mark <:+: t := by
  induction t with
  | nil => cases mark <;> simp [splitLast?]
  | cons c t ih =>
    rw [splitLast?, List.infix_cons_iff, ← List.isPrefixOf_iff_prefix]
    cases hs : splitLast? mark t with
    | none => simp [ih.mp hs]
    | some s =>
      have hin : mark <:+: t := by
        by_contra hno
        rw [ih.mpr hno] at hs
        cases hs
      simp [hin]

/-! ### Texts that share no character with a mark -/

/-- What is put behind a text completes no mark at its start. -/
theorem isPrefixOf_append (hm : mark ≠ []) {x : Text} (hx : ∀ c ∈ mark, c ∉ x) (t : Text) :
    mark.isPrefixOf (t ++ x) = mark.isPrefixOf t := by
  induction mark generalizing t with
  | nil => exact absurd rfl hm
  | cons m mark ih =>
    obtain ⟨hmx, hx⟩ := List.forall_mem_cons.mp hx
    cases t with
    | nil =>
      cases x with
      | nil => rfl
      | cons c x =>
        -- behind the end of `t` the mark would go on with a character of `x`
        have hne : (m == c) = false := beq_eq_false_iff_ne.mpr (List.ne_of_not_mem_cons hmx)
        rw [List.nil_append, List.isPrefixOf_cons_cons, hne, Bool.false_and]
        rfl
    | cons c t =>
      rw [List.cons_append, List.isPrefixOf_cons_cons, List.isPrefixOf_cons_cons]
      cases mark with
      | nil => simp
      | cons m' mark => rw [ih (by simp) hx t]

/-- A text without the characters of a mark does not hold the mark. -/
theorem not_infix_of_disjoint (hm : mark ≠ []) {x : Text} (hx : ∀ c ∈ mark, c ∉ x) :
    ¬ mark <:+: x := by
  intro hin
  obtain ⟨m, mark', rfl⟩ := List.exists_cons_of_ne_nil hm
  exact hx m List.mem_cons_self (hin.subset List.mem_cons_self)

/-- What is put behind a text does not move the first place of a mark. -/
theorem splitFirst?_append (hm : mark ≠ []) {x : Text} (hx : ∀ c ∈ mark, c ∉ x) (t : Text) :
    splitFirst? mark (t ++ x) = (splitFirst? mark t).map fun s => (s.1, s.2 ++ x) := by
  induction t with
  | nil =>
    have hnil : ¬ mark <:+: [] := fun h => hm (List.infix_nil.mp h)
    rw [splitFirst?_eq_none_iff.mpr hnil, List.nil_append,
      splitFirst?_eq_none_iff.mpr (not_infix_of_disjoint hm hx)]
    rfl
  | cons c t ih =>
    have hp := isPrefixOf_append hm hx (c :: t)
    rw [List.cons_append] at hp ⊢
    rw [splitFirst?, splitFirst?, hp]
    split
    · next hpre =>
      -- the mark ends inside of `c :: t`, so dropping it leaves `x` whole
      have hlen := (List.isPrefixOf_iff_prefix.mp hpre).length_le
      rw [← List.cons_append, List.drop_append_of_le_length hlen]
      rfl
    · rw [ih, Option.map_map, Option.map_map]
      rfl

/-- Nor does it move the last one. -/
theorem splitLast?_append (hm : mark ≠ []) {x : Text} (hx : ∀ c ∈ mark, c ∉ x) (t : Text) :
    splitLast? mark (t ++ x) = (splitLast? mark t).map fun s => (s.1, s.2 ++ x) := by
  induction t with
  | nil =>
    have hnil : ¬ mark <:+: [] := fun h => hm (List.infix_nil.mp h)
    rw [splitLast?_eq_none_iff.mpr hnil, List.nil_append,
      splitLast?_eq_none_iff.mpr (not_infix_of_disjoint hm hx)]
    rfl
  | cons c t ih =>
    have hp := isPrefixOf_append hm hx (c :: t)
    rw [List.cons_append] at hp ⊢
    rw [splitLast?, splitLast?, ih, hp]
    cases splitLast? mark t with
    | some s => rfl
    | none =>
      by_cases hpre : mark.isPrefixOf (c :: t) = true
      · have hlen := (List.isPrefixOf_iff_prefix.mp hpre).length_le
        simp only [hpre, if_true, Option.map_none, Option.map_some]
        rw [← List.cons_append, List.drop_append_of_le_length hlen]
      · simp [hpre]

theorem containsMark_append (hm : mark ≠ []) {x : Text} (hx : ∀ c ∈ mark, c ∉ x) (t : Text) :
    containsMark (t ++ x) mark = containsMark t mark := by
  rw [containsMark, containsMark, splitFirst?_append hm hx, Option.isSome_map]

/-- No mark stands across the seam. -/
theorem infix_append_iff (hm : mark ≠ []) {x : Text} (hx : ∀ c ∈ mark, c ∉ x) :
    mark <:+: t ++ x ↔ mark <:+: t := by
  rw [← containsMark_iff, containsMark_append hm hx, containsMark_iff]

end Semicolon.Text
