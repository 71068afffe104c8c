import Semicolon.Proofs.Classification.Insertion
import Semicolon.Proofs.Pattern.Beginnings
import Semicolon.Proofs.Pattern.Inclusion

/-!
# Classification — TypeScript beside JavaScript

A line of JavaScript may stand in TypeScript, so the two languages should decide alike but for what
TypeScript adds.

* `declaration_within`, `suppress_within`: TypeScript holds at least as much against a line.
* `requires_javaScript`: a rule of JavaScript that inserts in TypeScript inserts in JavaScript.
* `not_method_of_required`: a line that a rule of JavaScript accepts is no method header, not even
  one with the modifiers and types of TypeScript.
* `exists_requires_typeScript`: so only a header of a type can keep TypeScript from inserting
  (`HeadsType`).

**Main results**.  TypeScript inserts by a rule of its own, or as JavaScript does
(`typeScript_inserts_as_javaScript`).  Where JavaScript inserts, TypeScript does, unless the line
heads a type (`typeScript_inserts_where_javaScript`).
-/

namespace Semicolon

open Text Rules Pattern

/-! ### What TypeScript holds against a line -/

theorem declaration_within : JavaScript.declaration.Within TypeScript.declaration := by
  -- two more modifiers, and more words to choose from
  have hmodifiers : JavaScript.exported.Within (JavaScript.exported ++
      optional (modifier ["declare"]) ++ optional (modifier ["abstract"])) :=
    (within_append_optional _ _).trans (within_append_optional _ _)
  exact ((hmodifiers.append (.refl _)).append (.oneOf (by decide))).append (.refl _)

theorem classHeader_within :
    JavaScript.classHeader.pattern.Within TypeScript.classHeader.pattern :=
  (within_append_optional _ _).append (.refl _)

theorem methodHeader_within :
    JavaScript.methodHeader.pattern.Within TypeScript.methodHeader.pattern := by
  have hmodifiers : (many1 (modifier ["static", "async", "get", "set"])).Within
      (many1 (modifier TypeScript.methodModifiers)) := .many1 (.modifier (by decide))
  have hname := (((hmodifiers.append (.refl (optional "*"))).append
    (.refl (many1 (CharSet.wordOr "$#")))).append (.refl blanks)).trans
    (within_append_optional _ ("<" ++ rest ++ ">"))
  exact ((hname.append (.refl parenthesised)).trans (within_append_optional _ _)).append (.refl _)

/-- Every suppressing rule of JavaScript has its like in TypeScript. -/
theorem suppress_within : ∀ rule ∈ Profile.javaScript.suppress,
    ∃ other ∈ Profile.typeScript.suppress, rule.pattern.Within other.pattern := by
  intro rule hrule
  have hown : ∀ other ∈ TypeScript.suppress, other ∈ Profile.typeScript.suppress :=
    fun _ h => List.mem_append_right _ h
  rcases List.mem_append.mp hrule with hshared | hjavaScript
  · exact ⟨rule, List.mem_append_left _ hshared, .refl _⟩
  · simp only [JavaScript.suppress, List.mem_cons, List.not_mem_nil, or_false] at hjavaScript
    rcases hjavaScript with rfl | rfl | rfl | rfl
    · exact ⟨JavaScript.functionHeader, hown _ (by simp [TypeScript.suppress]), .refl _⟩
    · exact ⟨TypeScript.classHeader, hown _ (by simp [TypeScript.suppress]), classHeader_within⟩
    · exact ⟨JavaScript.decorator, hown _ (by simp [TypeScript.suppress]), .refl _⟩
    · exact ⟨TypeScript.methodHeader, hown _ (by simp [TypeScript.suppress]), methodHeader_within⟩

variable {terminator : Char} {line : Text} {rule : Rule}

theorem not_suppressed_javaScript (h : Rule.first? Profile.typeScript.suppress line = none) :
    Rule.first? Profile.javaScript.suppress line = none := by
  rw [Rule.first?_eq_none_iff] at h ⊢
  intro rule hrule
  obtain ⟨other, hother, hwithin⟩ := suppress_within rule hrule
  have hrejects := h other hother
  rw [← Bool.not_eq_true] at hrejects ⊢
  exact fun haccepts => hrejects (hwithin.opens haccepts)

/-! ### Insertions of TypeScript -/

theorem typeScript_require : Profile.typeScript.require =
    TypeScript.require ++ Profile.javaScript.require := List.append_assoc _ _ _

/-- A rule that is not TypeScript's own inserts in JavaScript as well. -/
theorem requires_javaScript (h : Profile.typeScript.Requires terminator line rule)
    (hrule : rule ∉ TypeScript.require) : Profile.javaScript.Requires terminator line rule := by
  have hopened : (JavaScript.declaration.opens line && opensBlock line) = false := by
    have hopened := h.not_opened
    rw [← Bool.not_eq_true, Bool.and_eq_true] at hopened ⊢
    exact fun ⟨hdeclaration, hblock⟩ => hopened ⟨declaration_within.opens hdeclaration, hblock⟩
  have hrequired : Rule.first? Profile.javaScript.require line = some rule := by
    have hrequired := h.required
    rw [Rule.first?, typeScript_require, List.find?_append] at hrequired
    cases hown : TypeScript.require.find? (·.accepts line) with
    | none => rwa [hown, Option.none_or] at hrequired
    | some own =>
      rw [hown, Option.some_or, Option.some.injEq] at hrequired
      exact absurd (hrequired ▸ List.mem_of_find?_eq_some hown) hrule
  exact h.transfer rfl rfl hopened (not_suppressed_javaScript h.not_suppressed) hrequired

/-! ### Insertions of JavaScript -/

/-- The line has a shape that heads a class, a type or a module in TypeScript.  The shapes go by the
words in front, whatever they stand for on the line. -/
def HeadsType (line : Text) : Prop :=
  TypeScript.classHeader.accepts line = true ∨ TypeScript.typeHeader.accepts line = true ∨
    (TypeScript.declaration.opens line && opensBlock line) = true

instance (line : Text) : Decidable (HeadsType line) :=
  inferInstanceAs (Decidable (_ = true ∨ _ = true ∨ _ = true))

/-- Behind a modifier, no rule of JavaScript goes on with a name. -/
theorem require_avoids_methods : ∀ word ∈ TypeScript.methodModifiers,
    ∀ rule ∈ Profile.javaScript.require, ∀ mark ∈ ["", "*"],
      rule.pattern.avoidsSet word.toList mark.toList (CharSet.wordOr "$#") = true := by
  decide +kernel

/-- A method header begins with a modifier, blanks and a name, which may have a star in front. -/
theorem exists_name_of_method (h : TypeScript.methodHeader.accepts line = true) :
    ∃ word ∈ TypeScript.methodModifiers, ∃ gap : Text, gap ≠ [] ∧ (∀ c ∈ gap, isBlank c = true) ∧
      ∃ mark ∈ ["", "*"], ∃ c x, (CharSet.wordOr "$#").contains c = true ∧
        line = word.toList ++ (gap ++ (mark.toList ++ c :: x)) := by
  have hfirst : ∀ w ∈ TypeScript.methodModifiers, w.toList ≠ [] ∧
      w.toList.all (CharSet.wordOr "$#").contains = true := by decide
  -- only the modifiers, the star and the name matter
  have hopens : (many1 (modifier TypeScript.methodModifiers) ++ optional "*" ++
      many1 (CharSet.wordOr "$#")).opens line = true :=
    opens_of_append (opens_of_append (opens_of_append (opens_of_append (opens_of_append h))))
  obtain ⟨t, r, rfl, hreads⟩ := opens_iff.mp hopens
  obtain ⟨_, name, rfl, hstarred, hname⟩ := reads_append_iff.mp hreads
  obtain ⟨_, star, rfl, hmodifiers, hstar⟩ := reads_append_iff.mp hstarred
  obtain ⟨_, more, rfl, hmodifier, hmore⟩ := reads_append_iff.mp hmodifiers
  obtain ⟨word, hword, gap, hne, hgap, rfl⟩ := reads_modifier_iff.mp hmodifier
  refine ⟨word, hword, gap, hne, hgap, ?_⟩
  cases more with
  | cons d more =>
    obtain ⟨u, v, rfl, hnext, -⟩ := exists_of_reads_star hmore
    obtain ⟨next, hmem, gap', -, -, hu⟩ := reads_modifier_iff.mp hnext
    obtain ⟨hne', hall⟩ := hfirst next hmem
    obtain ⟨c, w, hw⟩ := List.exists_cons_of_ne_nil hne'
    rw [hw, List.cons_append, List.cons.injEq] at hu
    refine ⟨"", by simp, d, u ++ v ++ star ++ name ++ r, ?_, by simp⟩
    exact hu.1 ▸ List.all_eq_true.mp hall c (by simp [hw])
  | nil =>
    obtain ⟨hnameNe, hall⟩ := reads_many1_set_iff.mp hname
    obtain ⟨c, name, rfl⟩ := List.exists_cons_of_ne_nil hnameNe
    have hc := hall c List.mem_cons_self
    rcases reads_optional_iff.mp hstar with hstar | rfl
    · obtain rfl := reads_word_iff.mp hstar
      exact ⟨"*", by simp, c, name ++ r, hc, by simp⟩
    · exact ⟨"", by simp, c, name ++ r, hc, by simp⟩

/-- A line that a rule of JavaScript accepts is no method header. -/
theorem not_method_of_required (h : Rule.first? Profile.javaScript.require line = some rule) :
    TypeScript.methodHeader.accepts line = false := by
  rw [← Bool.not_eq_true]
  intro hmethod
  obtain ⟨word, hword, gap, hne, hgap, mark, hmark, c, x, hc, rfl⟩ := exists_name_of_method hmethod
  have hspaced : ∀ w ∈ TypeScript.methodModifiers ++ ["", "*"],
      Text.spaced w.toList = w.toList := by decide
  obtain ⟨hrule, haccepts⟩ := Rule.first?_eq_some h
  have havoids := require_avoids_methods word hword rule hrule mark hmark
  have hrejected := opens_of_avoidsSet havoids (hspaced word (List.mem_append_left _ hword))
    (hspaced mark (List.mem_append_right _ hmark)) hne hgap hc
    (CharSet.not_blank_of_contains (by decide) hc) x
  rw [Rule.accepts, hrejected] at haccepts
  cases haccepts

/-- Only a header of a type can keep TypeScript from inserting where JavaScript does. -/
theorem exists_requires_typeScript (h : Profile.javaScript.Requires terminator line rule)
    (hheader : ¬ HeadsType line) : ∃ other, Profile.typeScript.Requires terminator line other := by
  rw [HeadsType, not_or, not_or, Bool.not_eq_true, Bool.not_eq_true, Bool.not_eq_true] at hheader
  obtain ⟨hclass, htype, hopened⟩ := hheader
  have hsuppressed : Rule.first? Profile.typeScript.suppress line = none := by
    have hjavaScript := h.not_suppressed
    rw [Rule.first?_eq_none_iff] at hjavaScript ⊢
    intro other hother
    rcases List.mem_append.mp hother with hshared | hown
    · exact hjavaScript other (List.mem_append_left _ hshared)
    · simp only [TypeScript.suppress, List.mem_cons, List.not_mem_nil, or_false] at hown
      rcases hown with rfl | rfl | rfl | rfl | rfl
      · exact hjavaScript _ (List.mem_append_right _ (by simp [JavaScript.suppress]))
      · exact hclass
      · exact htype
      · exact hjavaScript _ (List.mem_append_right _ (by simp [JavaScript.suppress]))
      · exact not_method_of_required h.required
  obtain ⟨hrule, haccepts⟩ := Rule.first?_eq_some h.required
  have hmem : rule ∈ Profile.typeScript.require :=
    typeScript_require ▸ List.mem_append_right _ hrule
  obtain ⟨other, hother⟩ := Rule.exists_first? hmem haccepts
  exact ⟨other, h.transfer rfl rfl hopened hsuppressed hother⟩

/-! ### The two languages -/

/-- The names of the rules that TypeScript adds. -/
def typeScriptRules : List String := ["type-alias", "ambient", "class-field"]

/-- TypeScript inserts by a rule of its own, or by the rule by which JavaScript inserts. -/
theorem typeScript_inserts_as_javaScript {name : String}
    (h : Language.typeScript.classify line = .insert name) :
    name ∈ typeScriptRules ∨ Language.javaScript.classify line = .insert name := by
  have hnames : ∀ rule ∈ TypeScript.require, rule.name ∈ typeScriptRules := by decide
  obtain ⟨rule, hrequires⟩ := Profile.exists_requires (congrArg Classification.decision h)
  obtain rfl : rule.name = name := by
    have hclassify := Profile.classifyTrimmed_of_requires hrequires
    rw [Language.classify, hclassify] at h
    injection h with _ hreason
    injection hreason
  by_cases hrule : rule ∈ TypeScript.require
  · exact .inl (hnames rule hrule)
  · exact .inr (Profile.classifyTrimmed_of_requires (requires_javaScript hrequires hrule))

/-- An arrow function is a declaration in both languages. -/
theorem typeScript_inserts_as_javaScript_of_arrow :
    Language.typeScript.classify "export const f = (x) => g(x)".toList = .insert "declaration" ∧
      Language.javaScript.classify "export const f = (x) => g(x)".toList =
        .insert "declaration" := by
  have hline : Language.typeScript.classify "export const f = (x) => g(x)".toList =
      .insert "declaration" := by decide
  exact ⟨hline, (typeScript_inserts_as_javaScript hline).resolve_left (by decide)⟩

/-- Where JavaScript inserts, TypeScript does, unless the line heads a type. -/
theorem typeScript_inserts_where_javaScript
    (h : (Language.javaScript.classify line).decision = .insert) (hheader : ¬ HeadsType line.trim) :
    (Language.typeScript.classify line).decision = .insert := by
  obtain ⟨rule, hrequires⟩ := Profile.exists_requires h
  exact Profile.decision_eq_insert_iff.mpr (exists_requires_typeScript hrequires hheader)

/-- The words of a method header and of a module may be names. -/
theorem typeScript_inserts_where_javaScript_of_names :
    (Language.javaScript.classify "get *= module.size".toList).decision = .insert ∧
      ¬ HeadsType (trim "get *= module.size".toList) ∧
      (Language.typeScript.classify "get *= module.size".toList).decision = .insert := by
  have hinsert : (Language.javaScript.classify "get *= module.size".toList).decision = .insert := by
    decide
  have hheader : ¬ HeadsType (trim "get *= module.size".toList) := by decide
  exact ⟨hinsert, hheader, typeScript_inserts_where_javaScript hinsert hheader⟩

/-- JavaScript ends every line that begins with `export`; in TypeScript this one heads a type. -/
theorem enum_suppressed_in_typeScript :
    let line := "export enum Color".toList
    (Language.javaScript.classify line).decision = .insert ∧
      Language.typeScript.classify line = .suppress (.suppressRule "type-header") :=
  ⟨by decide, by decide⟩

end Semicolon
