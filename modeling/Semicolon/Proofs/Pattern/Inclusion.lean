import Semicolon.Proofs.Pattern.Reading

/-!
# Pattern — patterns that read no less than others

`p.Within q` says that `q` reads whatever `p` reads, between the same characters.

* `Within.append`, `Within.many1`, `Within.oneOf`: it is enough to compare patterns part by part.
* `within_append_optional`: a part that may be left out can be added.
* `opens_of_append`: a part at the end can be dropped, as far as lines are only opened.

**Main result** (`Within.opens`).  Every line that `p` opens is then opened by `q`.
-/

namespace Semicolon.Pattern

/-- Whatever the first pattern reads, the second one reads as well. -/
def Within (p q : Pattern) : Prop := ∀ ⦃b t r⦄, Reads b p t r → Reads b q t r

variable {p q p' q' : Pattern} {ps qs : List Pattern}

namespace Within

theorem refl (p : Pattern) : p.Within p := fun _ _ _ h => h

theorem trans (h : p.Within q) (h' : q.Within q') : p.Within q' := fun _ _ _ hp => h' (h hp)

/-- Patterns behind one another are compared one by one. -/
theorem append (hp : p.Within p') (hq : q.Within q') : (p ++ q).Within (p' ++ q') := by
  intro b t r h
  obtain ⟨u, v, rfl, hu, hv⟩ := reads_append_iff.mp h
  exact reads_append_iff.mpr ⟨u, v, rfl, hp hu, hq hv⟩

/-- A repetition reads no less if its rounds do. -/
theorem many (h : p.Within q) : (many p).Within (many q) := by
  intro b t r hreads
  rw [Pattern.many] at hreads ⊢
  generalize hs : Pattern.star p = s at hreads
  induction hreads with
  | stop => exact .stop
  | again hu _ _ ihv =>
    cases hs
    exact .again (h hu) (ihv rfl)
  | empty | set | wordEdge | lineEnd | seq | left | right => cases hs

theorem many1 (h : p.Within q) : (many1 p).Within (many1 q) := h.append h.many

/-- More patterns to choose from read no less. -/
theorem oneOf (h : ps ⊆ qs) : (oneOf ps).Within (oneOf qs) := by
  intro b t r hreads
  obtain ⟨p, hp, hread⟩ := reads_oneOf_iff.mp hreads
  exact reads_oneOf_iff.mpr ⟨p, h hp, hread⟩

theorem modifier {words others : List String} (h : words ⊆ others) :
    (modifier words).Within (modifier others) :=
  append (oneOf (List.map_subset word h)) (refl blanks1)

/-- Every line that the first pattern opens is opened by the second one. -/
theorem opens (h : p.Within q) {line : Text} (hline : p.opens line = true) :
    q.opens line = true := by
  obtain ⟨t, r, rfl, hreads⟩ := opens_iff.mp hline
  exact opens_iff.mpr ⟨t, r, rfl, h hreads⟩

end Within

/-- A part that may be left out can be added behind a pattern. -/
theorem within_append_optional (p q : Pattern) : p.Within (p ++ q.optional) := by
  intro b t r h
  refine reads_append_iff.mpr ⟨t, [], (List.append_nil t).symm, h, ?_⟩
  exact reads_optional_iff.mpr (.inr rfl)

/-- A line is opened by the first part of a pattern that opens it. -/
theorem opens_of_append {line : Text} (h : (p ++ q).opens line = true) : p.opens line = true := by
  obtain ⟨t, r, rfl, hreads⟩ := opens_iff.mp h
  obtain ⟨u, v, rfl, hu, -⟩ := reads_append_iff.mp hreads
  exact opens_iff.mpr ⟨u, v ++ r, List.append_assoc u v r, hu⟩

end Semicolon.Pattern
