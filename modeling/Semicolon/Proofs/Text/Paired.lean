import Semicolon.Proofs.Text.Lines

/-!
# Text — carriage returns that belong to line breaks

`ReturnsPaired` can be read off a text from left to right (`returnsPaired_cons`), so it can be
decided.  Texts that have the property can be put behind one another (`ReturnsPaired.append`), and a
text that has it can be cut wherever no carriage return stands in front of the cut
(`ReturnsPaired.of_append`).
-/

namespace Semicolon.Text

theorem returnsPaired_nil : ReturnsPaired [] := by
  intro a b h
  simp at h

/-- The property is read off a text from left to right. -/
theorem returnsPaired_cons {c : Char} {t : Text} :
    ReturnsPaired (c :: t) ↔ (c = '\r' → t.head? = some '\n') ∧ ReturnsPaired t := by
  constructor
  · intro h
    refine ⟨?_, fun a b hab => h (c :: a) b (by rw [hab, List.cons_append])⟩
    rintro rfl
    obtain ⟨u, rfl⟩ := h [] t rfl
    rfl
  · rintro ⟨hc, ht⟩ a b hab
    cases a with
    | nil =>
      rw [List.nil_append, List.cons.injEq] at hab
      obtain ⟨rfl, rfl⟩ := hab
      exact List.head?_eq_some_iff.mp (hc rfl)
    | cons a₀ a =>
      rw [List.cons_append, List.cons.injEq] at hab
      exact ht a b hab.2

/-- A text without carriage returns has it. -/
theorem returnsPaired_of_notMem {t : Text} (h : '\r' ∉ t) : ReturnsPaired t := by
  rintro a b rfl
  exact absurd (List.mem_append_right a List.mem_cons_self) h

instance decidableReturnsPaired : (t : Text) → Decidable (ReturnsPaired t)
  | []     => isTrue returnsPaired_nil
  | _ :: t =>
    have := decidableReturnsPaired t
    decidable_of_iff _ returnsPaired_cons.symm

namespace ReturnsPaired

variable {s t : Text}

/-- It passes to two texts behind one another. -/
theorem append (hs : ReturnsPaired s) (ht : ReturnsPaired t) : ReturnsPaired (s ++ t) := by
  induction s with
  | nil => exact ht
  | cons c s ih =>
    rw [returnsPaired_cons] at hs
    rw [List.cons_append, returnsPaired_cons]
    refine ⟨fun hc => ?_, ih hs.2⟩
    rw [List.head?_append, hs.1 hc]
    rfl

/-- The cut must not part a carriage return from its line feed. -/
theorem of_append (h : ReturnsPaired (s ++ t)) (hlast : s.getLast? ≠ some '\r') :
    ReturnsPaired s ∧ ReturnsPaired t := by
  constructor
  · intro a b hs
    obtain ⟨c, hc⟩ := h a (b ++ t) (by rw [hs, List.append_assoc, List.cons_append])
    cases b with
    | nil => exact absurd (by rw [hs, List.getLast?_concat]) hlast
    | cons b₀ b =>
      rw [List.cons_append, List.cons.injEq] at hc
      exact ⟨b, by rw [hc.1]⟩
  · intro a b ht
    exact h (s ++ a) b (by rw [ht, List.append_assoc])

end ReturnsPaired

/-- A line of such a text ends in one carriage return at most. -/
theorem StemAt.dropLast_eq_nil {t stem returns rest : Text} {before : List Text}
    (h : StemAt t before stem returns rest) (hpaired : ReturnsPaired t) :
    returns.dropLast = [] := by
  cases returns with
  | nil => rfl
  | cons r returns =>
    cases returns with
    | nil => rfl
    | cons r' returns =>
      -- the first of two carriage returns would have no line feed behind it
      obtain rfl : r = '\r' := h.returns_only r (by simp)
      obtain rfl : r' = '\r' := h.returns_only r' (by simp)
      obtain ⟨c, hc⟩ := hpaired (terminated before ++ stem) ('\r' :: (returns ++ rest))
        (by rw [h.text_eq]; simp)
      cases hc

end Semicolon.Text
