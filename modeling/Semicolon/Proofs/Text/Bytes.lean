import Semicolon.Text.Basic

/-!
# Text — cutting behind a prefix

A cut at the size of a prefix gives back that prefix and what stands behind it.  A cut further to
the front cuts the prefix (`takeBytes_append_of_le`), and one further behind cuts what stands behind
it (`takeBytes_append_of_ge`).

Of two prefixes the shorter has fewer bytes (`byteSize_le_of_isPrefix`,
`byteSize_eq_iff_of_isPrefix`).
-/

namespace Semicolon.Text

theorem takeBytes_zero (t : Text) : takeBytes 0 t = [] := by
  cases t with
  | nil => rfl
  | cons c t => exact if_neg (Nat.not_le.mpr c.utf8Size_pos)

theorem dropBytes_zero (t : Text) : dropBytes 0 t = t := by
  cases t with
  | nil => rfl
  | cons c t => exact if_neg (Nat.not_le.mpr c.utf8Size_pos)

/-- A cut at the size of a prefix gives back that prefix. -/
theorem takeBytes_byteSize_append (front behind : Text) :
    takeBytes (byteSize front) (front ++ behind) = front := by
  induction front with
  | nil => exact takeBytes_zero behind
  | cons c front ih =>
    rw [byteSize_cons, List.cons_append, takeBytes, if_pos (Nat.le_add_right _ _),
      Nat.add_sub_cancel_left, ih]

/-- What such a cut leaves is the text behind the prefix. -/
theorem dropBytes_byteSize_append (front behind : Text) :
    dropBytes (byteSize front) (front ++ behind) = behind := by
  induction front with
  | nil => exact dropBytes_zero behind
  | cons c front ih =>
    rw [byteSize_cons, List.cons_append, dropBytes, if_pos (Nat.le_add_right _ _),
      Nat.add_sub_cancel_left, ih]

/-- Whatever the offset, a cut takes a prefix. -/
theorem takeBytes_isPrefix (n : Nat) (t : Text) : takeBytes n t <+: t :=
  ⟨dropBytes n t, takeBytes_append_dropBytes n t⟩

/-- A cut in front of a seam is a cut of the first part. -/
theorem takeBytes_append_of_le {n : Nat} {s : Text} (h : n ≤ byteSize s) (t : Text) :
    takeBytes n (s ++ t) = takeBytes n s := by
  induction s generalizing n with
  | nil =>
    obtain rfl : n = 0 := Nat.le_zero.mp h
    exact takeBytes_zero t
  | cons c s ih =>
    rw [byteSize_cons] at h
    rw [List.cons_append, takeBytes, takeBytes, ih (by omega)]

/-- A cut behind a seam takes all of the first part. -/
theorem takeBytes_append_of_ge {n : Nat} {s : Text} (h : byteSize s ≤ n) (t : Text) :
    takeBytes n (s ++ t) = s ++ takeBytes (n - byteSize s) t := by
  induction s generalizing n with
  | nil => rfl
  | cons c s ih =>
    rw [byteSize_cons] at h
    rw [List.cons_append, takeBytes, if_pos (by omega), ih (by omega), byteSize_cons,
      Nat.sub_add_eq, List.cons_append]

/-! ### Prefixes -/

/-- Only the empty text has no bytes. -/
theorem byteSize_eq_zero_iff {t : Text} : byteSize t = 0 ↔ t = [] := by
  cases t with
  | nil => exact iff_of_true rfl rfl
  | cons c t =>
    have hpos := c.utf8Size_pos
    refine iff_of_false ?_ (List.cons_ne_nil c t)
    rw [byteSize_cons]
    omega

theorem byteSize_le_of_isPrefix {s t : Text} (h : s <+: t) : byteSize s ≤ byteSize t := by
  obtain ⟨u, rfl⟩ := h
  rw [byteSize_append]
  exact Nat.le_add_right _ _

/-- A prefix with all bytes of the text is the text. -/
theorem byteSize_eq_iff_of_isPrefix {s t : Text} (h : s <+: t) :
    byteSize s = byteSize t ↔ s = t := by
  obtain ⟨u, rfl⟩ := h
  rw [byteSize_append, Nat.left_eq_add, byteSize_eq_zero_iff, List.self_eq_append_right]

end Semicolon.Text
