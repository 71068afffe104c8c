import Semicolon.Dispatcher
import Semicolon.Proofs.Comment.Strip
import Semicolon.Proofs.Document.Places
import Semicolon.Proofs.Literal.Quotes
import Semicolon.Proofs.Text.Trim

/-!
# Dispatcher — what the decision about a line depends on

`verdictOn` looks at a document, a place and a snapshot.  `classifyLine` is the same decision as a
function of three texts: what stands in front of the line, the part of the line in front of the
place, and the line.

* `verdictOn_of_cut`: the two agree wherever the place cuts the line.
* `classifyLine_congr`: of the text in front of the line, only its quotes matter.
* `classifyLine_terminated`: a line that has its terminator gets no other, whatever the settings.
-/

namespace Semicolon
open Text

/-- The line that is decided: comments are removed if they are skipped. -/
def Settings.uncomment (s : Settings) (line : Text) : Text :=
  if s.skipComments then Comment.strip line else line

/-- The decision about the line `raw`, where `front` stands in front of the line and `left` between
its start and the place that was left. -/
def classifyLine (settings : Settings) (language : Language) (front left raw : Text) :
    Classification :=
  if raw.trim.isEmpty then .suppress .empty
  else if Comment.leads raw.trim then .suppress .commentLine
  else if settings.skipStrings && Literal.endsInside (front ++ left) then .suppress .insideString
  else if settings.skipComments && Comment.endsInside left then .suppress .insideComment
  else language.classify (settings.uncomment raw).trim

theorem Language.id_of_ofId? {id : String} {l : Language} (h : Language.ofId? id = some l) :
    l.id = id := by
  simpa using List.find?_some h

theorem snapshotAt?_eq (settings : Settings) {d : Document} {l : Language}
    (hl : d.languageId = l.id) {line : Nat} {raw : Text} (h : d.line? line = some raw) :
    snapshotAt? settings d line =
      some (.of raw (settings.uncomment raw) line (d.offsetAt ⟨line, raw.length⟩)) := by
  rw [snapshotAt?, h, Option.map_some, hl, Comment.stripFor_id]
  rfl

/-- Where a place cuts a line, the two decisions agree. -/
theorem verdictOn_of_cut (settings : Settings) (language : Language) {d : Document}
    {cursor : Position} {front left behind : Text} (h : d.Cuts cursor (front ++ left) behind)
    (hf : front = [] ∨ front.getLast? = some '\n') (hl : '\n' ∉ left) (raw : Text)
    (line offset : Nat) :
    verdictOn settings d language cursor (.of raw (settings.uncomment raw) line offset) =
      classifyLine settings language front left raw := by
  have hstring : Literal.isInside d.text (d.offsetAt cursor) = Literal.endsInside (front ++ left) :=
    congrArg Literal.endsInside h.takeBytes_eq
  have hcomment : Comment.isInside d.text (d.offsetAt cursor) = Comment.endsInside left := by
    rw [Comment.isInside, h.takeBytes_eq, Comment.lastLine_append hf hl]
  rw [verdictOn, hstring, hcomment]
  rfl

/-- Of the text in front of the line, only its quotes matter. -/
theorem classifyLine_congr (settings : Settings) (language : Language) {front front' : Text}
    (h : Literal.SameQuotes front front') (left raw : Text) :
    classifyLine settings language front left raw =
      classifyLine settings language front' left raw := by
  rw [classifyLine, classifyLine, h.endsInside_append left]

/-! ### Lines that have their terminator -/

/-- In every language a line that ends in a terminator is suppressed. -/
theorem classify_terminated (l : Language) (t : Text) {r : Text} (hr : ∀ b ∈ r, isBlank b = true) :
    (l.classify (t ++ ';' :: r)).decision = .suppress := by
  obtain ⟨u, hu⟩ := trim_append_cons t (c := ';') (by decide) hr
  have hne : (u ++ [';']).isEmpty = false := by simp
  have hend : endsWith (u ++ [';']) [l.terminator] = true :=
    List.isSuffixOf_iff_suffix.mpr (List.suffix_append u _)
  rw [Language.classify, hu, Profile.classifyTrimmed, hne, hend]
  rfl

theorem isPlain_terminator {returns : Text} (hr : IsReturns returns) :
    Comment.IsPlain (';' :: returns) := by
  constructor
  · intro hmem
    rcases List.mem_cons.mp hmem with h | h
    · exact absurd h (by decide)
    · exact absurd (hr _ h) (by decide)
  · intro hmem
    rcases List.mem_cons.mp hmem with h | h
    · exact absurd h (by decide)
    · exact absurd (hr _ h) (by decide)

/-- A line that has its terminator gets no other, whatever the settings, if the place that was left
is in front of the terminator or behind it. -/
theorem classifyLine_terminated (settings : Settings) (language : Language)
    (front stem : Text) {left returns : Text} (hleft : left = stem ∨ left = stem ++ [';'])
    (hr : IsReturns returns) :
    (classifyLine settings language front left (stem ++ ';' :: returns)).decision = .suppress := by
  have hblank : ∀ b ∈ returns, isBlank b = true := by
    intro b hb
    rw [hr b hb]
    rfl
  -- only the last answer of the sequence is not fixed
  rw [classifyLine]
  split
  · rfl
  split
  · rfl
  split
  · rfl
  split
  · rfl
  next hcomment =>
  obtain ⟨u, hu⟩ : ∃ u, (settings.uncomment (stem ++ ';' :: returns)).trim = u ++ [';'] := by
    rw [Settings.uncomment]
    split
    · next hskip =>
      have hout : Comment.endsInside stem = false := by
        rw [hskip, Bool.true_and] at hcomment
        rcases hleft with rfl | rfl
        · exact Bool.not_eq_true _ ▸ hcomment
        · -- a comment open in front of the terminator would be open behind it
          by_contra hin
          rw [Bool.not_eq_false] at hin
          have hsemi := isPlain_terminator (List.forall_mem_nil _)
          exact absurd (Comment.endsInside_append hsemi hin) hcomment
      rw [Comment.strip_append hout (isPlain_terminator hr)]
      exact trim_append_cons _ (by decide) hblank
    · exact trim_append_cons _ (by decide) hblank
  rw [hu]
  exact classify_terminated language u (List.forall_mem_nil _)

end Semicolon
