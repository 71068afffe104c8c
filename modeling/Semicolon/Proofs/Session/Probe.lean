import Semicolon.Proofs.Dispatcher.Breaks
import Semicolon.Proofs.Dispatcher.Effect
import Semicolon.Proofs.Session.Runs

/-!
# Session — the place that is probed is the place that is edited

**Main result** (`probed_where_edited`).  Strings and comments are looked for in front of the place
where a line break was typed, and the terminator goes to the end of the line that is left.  Both are
the same byte offset, so a terminator that is inserted stands neither in a string nor in a comment
that is to be left alone.

The two places may have different columns: the line that is left may end in carriage returns, and
the place may lie behind some of them.  But no byte offset lies behind the carriage returns that end
a line (`Dispatcher.endOffset_of_judge`).
-/

namespace Semicolon
open Text

/-- A terminator is decided only where no string and no comment is to be left alone. -/
theorem outside_of_insert {settings : Settings} {d : Document} {language : Language}
    {cursor : Position} {snapshot : Snapshot}
    (h : (verdictOn settings d language cursor snapshot).decision = .insert) :
    (settings.skipStrings = true → Literal.isInside d.text (d.offsetAt cursor) = false) ∧
      (settings.skipComments = true → Comment.isInside d.text (d.offsetAt cursor) = false) := by
  rw [verdictOn] at h
  split at h
  · cases h
  split at h
  · cases h
  split at h
  · cases h
  next hstring =>
  split at h
  · cases h
  next hcomment =>
  rw [Bool.and_eq_true, not_and, Bool.not_eq_true] at hstring hcomment
  exact ⟨hstring, hcomment⟩

/-- An event finds its line as a line break left it. -/
theorem Dispatcher.probed_of_leftAt {D : Dispatcher} {now : Nat} {event : Event} {change : Change}
    {d : Document} {v : Verdict} (hchange : event.firstChange? = some change)
    (hd : D.editor.get? event.document = some d) (hleft : d.LeftAt change.range.start)
    (hv : (D.handleAndEdit now event).1.1 = .decided v) :
    v.snapshot.endOffset = d.offsetAt change.range.start ∧
      ((D.handleAndEdit now event).1.2 = .applied → ∃ front behind,
        d.text = front ++ behind ∧ byteSize front = v.snapshot.endOffset ∧
        (D.handleAndEdit now event).2.editor.get? event.document =
          some { d with text := front ++ (';' :: behind) } ∧
        (D.cache.get.1.skipStrings = true →
          Literal.isInside (front ++ (';' :: behind)) v.snapshot.endOffset = false) ∧
        (D.cache.get.1.skipComments = true →
          Comment.isInside (front ++ (';' :: behind)) v.snapshot.endOffset = false)) := by
  rw [handleAndEdit_outcome] at hv
  have hjudge := handle_eq_decided hchange hv
  have hoffset := endOffset_of_judge hd hleft hjudge
  refine ⟨hoffset, fun happlied => ?_⟩
  obtain ⟨hdecision, hterminated⟩ := terminated_of_applied hv happlied
  obtain ⟨d₁, front, behind, hd₁, htext, hfront, hedited⟩ := hterminated.text
  obtain rfl : d = d₁ := Option.some.inj (hd.symm.trans hd₁)
  obtain ⟨d₂, hd₂, -, -, -, -, -, hclassification⟩ := judge_eq_decided hjudge
  obtain rfl : d = d₂ := Option.some.inj (hd.symm.trans hd₂)
  rw [hclassification] at hdecision
  -- what stands in front of the offset is the same text before and after the edit
  obtain ⟨hstring, hcomment⟩ := outside_of_insert hdecision
  rw [← hoffset, ← hfront, htext, Literal.isInside_append] at hstring
  rw [← hoffset, ← hfront, htext, Comment.isInside_append] at hcomment
  refine ⟨front, behind, htext, hfront, hedited, fun hskip => ?_, fun hskip => ?_⟩
  · rw [← hfront, Literal.isInside_append]
    exact hstring hskip
  · rw [← hfront, Comment.isInside_append]
    exact hcomment hskip

namespace Session

/-- A line break is typed at a place and its event delivered.  The end of the line that is decided
has the byte offset of the place; a terminator lands at this offset, and in the edited text the
offset is outside of strings and of comments, if these are to be left alone. -/
theorem probed_where_edited (s : Session) {name : String} {d : Document} {p : Position} {nl : Text}
    (hd : s.editor.get? name = some d) (hp : d.check? p = none) (hnl : Document.IsLineBreak nl) :
    ∃ entered d', s.perform (.type name p nl .keep) = (.reported (.typed name p nl), entered) ∧
      entered.editor.get? name = some d' ∧
      ∃ outcome status edited,
        entered.perform (.deliver (.typed name p nl) .edit) = (.edited outcome status, edited) ∧
        ∀ v, outcome = .decided v →
          v.snapshot.endOffset = d'.offsetAt p ∧
          (status = .applied → ∃ front behind, d'.text = front ++ behind ∧
            byteSize front = v.snapshot.endOffset ∧
            edited.editor.get? name = some { d' with text := front ++ (';' :: behind) } ∧
            (entered.dispatcher.cache.get.1.skipStrings = true →
              Literal.isInside (front ++ (';' :: behind)) v.snapshot.endOffset = false) ∧
            (entered.dispatcher.cache.get.1.skipComments = true →
              Comment.isInside (front ++ (';' :: behind)) v.snapshot.endOffset = false)) := by
  obtain ⟨before, left, right, h⟩ := Document.exists_splits hp
  have htype := Editor.type_eq hd (h.cuts.insert_eq hp nl)
  refine ⟨_, _, perform_type htype .keep, Editor.get?_typed, _, _, _, perform_deliver _ _,
    fun v hv => ?_⟩
  exact Dispatcher.probed_of_leftAt rfl Editor.get?_typed (h.leftAt_break hnl) hv

/-- A line break is typed behind stray carriage returns: the terminator goes in front of them, where
the strings and comments of the line are over. -/
theorem probed_where_edited_of_returns :
    ∃ entered d' v edited,
      (ofDocument "Main" ⟨"java", "int x = 1\r\rfoo()".toList⟩).perform
        (.type "Main" ⟨0, 11⟩ ['\r', '\n'] .keep) =
          (.reported (.typed "Main" ⟨0, 11⟩ ['\r', '\n']), entered) ∧
      entered.editor.get? "Main" = some d' ∧
      entered.perform (.deliver (.typed "Main" ⟨0, 11⟩ ['\r', '\n']) .edit) =
        (.edited (.decided v) .applied, edited) ∧
      v.snapshot.endOffset = d'.offsetAt ⟨0, 11⟩ ∧
      ∃ front behind, d'.text = front ++ behind ∧ byteSize front = v.snapshot.endOffset ∧
        edited.editor.get? "Main" = some { d' with text := front ++ (';' :: behind) } := by
  have hd : (ofDocument "Main" ⟨"java", "int x = 1\r\rfoo()".toList⟩).editor.get? "Main" =
      some ⟨"java", "int x = 1\r\rfoo()".toList⟩ := rfl
  have hp : (⟨"java", "int x = 1\r\rfoo()".toList⟩ : Document).check? ⟨0, 11⟩ = none := by decide
  have hnl : Document.IsLineBreak ['\r', '\n'] := .inr rfl
  obtain ⟨entered, d', htype, hget, outcome, status, edited, hdeliver, hall⟩ :=
    probed_where_edited _ hd hp hnl
  have hentered : entered = ((ofDocument "Main" ⟨"java", "int x = 1\r\rfoo()".toList⟩).perform
      (.type "Main" ⟨0, 11⟩ ['\r', '\n'] .keep)).2 := by rw [htype]
  have hanswer :
      (entered.perform
        (.deliver (.typed "Main" ⟨0, 11⟩ ['\r', '\n']) .edit)).1.isApplied = true ∧
      (entered.perform
        (.deliver (.typed "Main" ⟨0, 11⟩ ['\r', '\n']) .edit)).1.isQuiet = false := by
    rw [hentered]
    decide
  rw [hdeliver, Answer.isApplied_edited] at hanswer
  obtain ⟨rfl, hinsert⟩ := hanswer
  obtain ⟨v, rfl, -⟩ : ∃ v, outcome = .decided v ∧ v.classification.decision = .insert := by
    apply Outcome.decision?_eq_some
    simpa [Answer.isQuiet] using hinsert
  obtain ⟨hoffset, hterminated⟩ := hall v rfl
  obtain ⟨front, behind, htext, hfront, hedited, -⟩ := hterminated rfl
  exact ⟨entered, d', v, edited, htype, hget, hdeliver, hoffset, front, behind, htext, hfront,
    hedited⟩

end Session

end Semicolon
