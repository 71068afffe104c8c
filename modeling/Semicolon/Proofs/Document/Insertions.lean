import Semicolon.Proofs.Document.Places
import Semicolon.Proofs.Text.Paired

/-!
# Document — an insertion and its removal

A place of a line is found again behind the same characters, whatever stands behind them now,
unless a carriage return stands in front of it (`cuts_of_whole`).  So what was put in there can be
taken out again (`remove_of_cut`).

In a text whose carriage returns belong to line breaks, all places of a line are such places
(`exists_cut_of_paired`), and an insertion of another such text makes a third
(`insert_of_paired`).
-/

namespace Semicolon.Document
open Text

/-! ### Places that stay -/

/-- A text is its first line and what stands behind it. -/
theorem exists_first_line (t : Text) :
    ∃ line rest, t = line ++ rest ∧ '\n' ∉ line ∧ (rest = [] ∨ ∃ r, rest = '\n' :: r) := by
  by_cases h : '\n' ∈ t
  · obtain ⟨line, r, rfl, hline⟩ := List.eq_append_cons_of_mem h
    exact ⟨line, _, rfl, hline, .inr ⟨r, rfl⟩⟩
  · exact ⟨t, [], (List.append_nil t).symm, h, .inl rfl⟩

/-- A place behind the characters `left` of a line cuts the text there, whatever follows. -/
theorem cuts_of_whole {d : Document} {before : List Text} {left behind : Text}
    (hbefore : ∀ l ∈ before, '\n' ∉ l) (hleft : '\n' ∉ left) (hlast : left.getLast? ≠ some '\r')
    (htext : d.text = terminated before ++ left ++ behind) :
    d.Cuts ⟨before.length, left.length⟩ (terminated before ++ left) behind := by
  obtain ⟨line, rest, rfl, hline, hrest⟩ := exists_first_line behind
  obtain ⟨stem, returns, rfl, hs, hr⟩ := exists_stem line
  -- the carriage returns that end the line all stand behind the place
  have hstem : StemAt d.text before (left ++ stem) returns rest := {
    text_eq := by rw [htext]; simp only [List.append_assoc]
    before_whole := hbefore
    piece_whole := by
      rw [List.append_assoc, List.mem_append, not_or]
      exact ⟨hleft, hline⟩
    rest_breaks := hrest
    stem_last := by
      rw [List.getLast?_append]
      cases hlast' : stem.getLast? with
      | none => exact hlast
      | some c => rwa [hlast'] at hs
    returns_only := hr }
  have hcut := cuts_of_stemAt hstem left.length
  rwa [List.take_left, List.drop_left, ← List.append_assoc] at hcut

/-- What was put in behind the characters `left` of a line is found there and taken out. -/
theorem remove_of_cut {d : Document} {before : List Text} {left right : Text}
    (hbefore : ∀ l ∈ before, '\n' ∉ l) (hleft : '\n' ∉ left) (hlast : left.getLast? ≠ some '\r')
    (htext : d.text = terminated before ++ left ++ right) (x : Text) :
    ({ d with text := terminated before ++ left ++ (x ++ right) } : Document).remove
      ⟨before.length, left.length⟩ x = d := by
  have hcut : Document.Cuts { d with text := terminated before ++ left ++ (x ++ right) }
      ⟨before.length, left.length⟩ (terminated before ++ left) (x ++ right) :=
    cuts_of_whole hbefore hleft hlast rfl
  rw [hcut.remove_eq, ← htext]

/-! ### Insertions -/

/-- Nothing is inserted at a place that an edit may not use. -/
theorem check?_of_insert {d d' : Document} {p : Position} {x : Text}
    (h : d.insert p x = .ok d') : d.check? p = none := by
  rw [insert] at h
  split at h
  · cases h
  · assumption

/-- Where carriage returns belong to line breaks, a place of a line stands behind as many characters
of the line as its column says, and not behind a carriage return. -/
theorem exists_cut_of_paired {d : Document} {p : Position} (hp : d.check? p = none)
    (hd : ReturnsPaired d.text) :
    ∃ before left right, p = ⟨before.length, left.length⟩ ∧ (∀ l ∈ before, '\n' ∉ l) ∧
      '\n' ∉ left ∧ left.getLast? ≠ some '\r' ∧ d.Cuts p (terminated before ++ left) right := by
  obtain ⟨line, hline, hcolumn⟩ := check?_eq_none_iff.mp hp
  obtain ⟨before, stem, returns, rest, hk, rfl, h, hsplits⟩ := exists_splits_of_line? hline
  rw [h.dropLast_eq_nil hd, List.append_nil] at hcolumn
  have hlast := hsplits.notBehindReturn_iff.mp (notBehindReturn_of_paired hp hd)
  refine ⟨before, stem.take p.column, _, ?_, h.before_whole, hsplits.left_whole, hlast,
    hsplits.cuts⟩
  rw [List.length_take_of_le hcolumn, ← hk]

/-- An insertion keeps carriage returns with their line feeds, and can be taken out again. -/
theorem insert_of_paired {d d' : Document} {p : Position} {x : Text} (hd : ReturnsPaired d.text)
    (hx : ReturnsPaired x) (h : d.insert p x = .ok d') :
    ReturnsPaired d'.text ∧ d'.remove p x = d := by
  have hp := check?_of_insert h
  obtain ⟨before, left, right, rfl, hbefore, hleft, hlast, hcut⟩ := exists_cut_of_paired hp hd
  rw [hcut.insert_eq hp] at h
  cases h
  refine ⟨?_, remove_of_cut hbefore hleft hlast hcut.text_eq x⟩
  have hfront : (terminated before ++ left).getLast? ≠ some '\r' := by
    rw [← hcut.takeBytes_eq]
    exact notBehindReturn_of_paired hp hd
  rw [hcut.text_eq] at hd
  obtain ⟨hfront, hbehind⟩ := hd.of_append hfront
  exact hfront.append (hx.append hbehind)

end Semicolon.Document
