import Semicolon.Proofs.Dispatcher.Breaks
import Semicolon.Proofs.Editor.Keystroke
import Semicolon.Proofs.Session.Runs

/-!
# Session — a line break gets one terminator at most

**Main result** (`terminated_once`).  However often the event of a line break is delivered, and
whatever happens around the documents in between, one terminator is inserted at most, and no other
is decided afterwards.

A delivery finds the line as it was left, or with its terminator (`Document.LeftAt`,
`Document.TerminatedAt`).  It keeps the first state or moves on to the second
(`leftAt_step`), and it cannot get out of the second (`terminatedAt_step`).
-/

namespace Semicolon

/-- The event is delivered, or something happens around the documents. -/
inductive Action.Redelivers (event : Event) : Action → Prop where
  | deliver : Redelivers event (.deliver event .edit)
  | around {a : Action} (h : a.IsAround) : Redelivers event a

namespace Session

/-- The document with the name has the property. -/
def Holds (s : Session) (name : String) (P : Document → Prop) : Prop :=
  ∃ d, s.editor.get? name = some d ∧ P d

section

variable {s : Session} {name : String} {p : Position} {nl : Text} {a : Action}

/-! ### One action -/

/-- A line that has its terminator keeps it, and no other is decided. -/
theorem terminatedAt_step (h : s.Holds name (·.TerminatedAt p))
    (ha : a.Redelivers (.typed name p nl)) :
    (s.perform a).2.Holds name (·.TerminatedAt p) ∧ (s.perform a).1.isApplied = false ∧
      (s.perform a).1.isQuiet = true := by
  obtain ⟨d, hd, ht⟩ := h
  cases ha with
  | around ha =>
    obtain ⟨hdone, hget⟩ := perform_of_isAround ha s
    rw [hdone]
    exact ⟨⟨d, (hget name).trans hd, ht⟩, rfl, rfl⟩
  | deliver =>
    have hquiet : ∀ v, (s.dispatcher.handle s.now (.typed name p nl)).1 = .decided v →
        v.classification.decision = .suppress :=
      fun v hv => Dispatcher.judge_terminatedAt hd ht (Dispatcher.handle_eq_decided rfl hv)
    rw [perform_deliver, Dispatcher.handleAndEdit_outcome]
    rcases Dispatcher.handleAndEdit_cases s.dispatcher s.now (.typed name p nl) with
      ⟨hstatus, hkept⟩ | ⟨v, hv, hinsert, -⟩
    · refine ⟨⟨d, (congrArg (Editor.get? · name) hkept).trans hd, ht⟩, ?_, ?_⟩
      · rw [← Bool.not_eq_true, Answer.isApplied_edited]
        exact hstatus
      · rw [Answer.isQuiet_edited]
        exact hquiet
    · rw [hquiet v hv] at hinsert
      cases hinsert

/-- A line that was left gets no terminator, or it has one from now on. -/
theorem leftAt_step (h : s.Holds name (·.LeftAt p)) (ha : a.Redelivers (.typed name p nl)) :
    ((s.perform a).2.Holds name (·.LeftAt p) ∧ (s.perform a).1.isApplied = false) ∨
      (s.perform a).2.Holds name (·.TerminatedAt p) := by
  obtain ⟨d, hd, hleft⟩ := h
  cases ha with
  | around ha =>
    obtain ⟨hdone, hget⟩ := perform_of_isAround ha s
    rw [hdone]
    exact .inl ⟨⟨d, (hget name).trans hd, hleft⟩, rfl⟩
  | deliver =>
    rw [perform_deliver]
    rcases Dispatcher.handleAndEdit_cases s.dispatcher s.now (.typed name p nl) with
      ⟨hstatus, hkept⟩ | ⟨v, hv, -, -, hinsert⟩
    · refine .inl ⟨⟨d, (congrArg (Editor.get? · name) hkept).trans hd, hleft⟩, ?_⟩
      rw [← Bool.not_eq_true, Answer.isApplied_edited]
      exact hstatus
    · obtain ⟨-, d₁, d₂, hd₁, hd₂, hedited⟩ := Editor.insert_eq_ok hinsert
      obtain rfl : d = d₁ := Option.some.inj (hd.symm.trans hd₁)
      have hget : (s.dispatcher.handleAndEdit s.now (.typed name p nl)).2.editor.get? name =
          some d₂ := by
        rw [hedited]
        exact Documents.get?_put_self _ _ _
      have hjudge := Dispatcher.handle_eq_decided rfl hv
      exact .inr ⟨d₂, hget, Dispatcher.terminatedAt_of_judge hd hleft hjudge hd₂⟩

/-! ### All actions -/

theorem answers_of_terminatedAt {actions : List Action} (h : s.Holds name (·.TerminatedAt p))
    (ha : ∀ a ∈ actions, a.Redelivers (.typed name p nl)) :
    ∀ answer ∈ s.answers actions, answer.isApplied = false ∧ answer.isQuiet = true := by
  induction actions generalizing s with
  | nil => exact List.forall_mem_nil _
  | cons a actions ih =>
    rw [List.forall_mem_cons] at ha
    obtain ⟨hnext, happlied, hquiet⟩ := terminatedAt_step h ha.1
    rw [answers, List.forall_mem_cons]
    exact ⟨⟨happlied, hquiet⟩, ih hnext ha.2⟩

theorem answers_of_leftAt {actions : List Action} (h : s.Holds name (·.LeftAt p))
    (ha : ∀ a ∈ actions, a.Redelivers (.typed name p nl)) :
    (s.answers actions).countP Answer.isApplied ≤ 1 ∧
      (s.answers actions).Pairwise fun earlier later =>
        earlier.isApplied = true → later.isQuiet = true := by
  induction actions generalizing s with
  | nil => exact ⟨Nat.zero_le _, .nil⟩
  | cons a actions ih =>
    rw [List.forall_mem_cons] at ha
    rw [answers, List.countP_cons, List.pairwise_cons]
    rcases leftAt_step h ha.1 with ⟨hnext, happlied⟩ | hnext
    · obtain ⟨hcount, hpairwise⟩ := ih hnext ha.2
      refine ⟨?_, fun later hlater hearlier => ?_, hpairwise⟩
      · rw [happlied]
        exact hcount
      · rw [happlied] at hearlier
        cases hearlier
    · -- from here on nothing is inserted, whatever this action did
      have hrest := answers_of_terminatedAt hnext ha.2
      have hzero : ((s.perform a).2.answers actions).countP Answer.isApplied = 0 := by
        rw [List.countP_eq_zero]
        intro answer hanswer happlied
        rw [(hrest answer hanswer).1] at happlied
        cases happlied
      refine ⟨?_, fun later hlater _ => (hrest later hlater).2, ?_⟩
      · rw [hzero]
        split <;> decide
      · exact List.pairwise_of_forall_mem_list fun _ _ later hlater _ => (hrest later hlater).2

end

/-- After a line break is typed, its event inserts one terminator at most, and once it did, it is
skipped or nothing is to be inserted. -/
theorem terminated_once (s : Session) {name : String} {d : Document} {p : Position} {nl : Text}
    (hd : s.editor.get? name = some d) (hp : d.check? p = none) (hnl : Document.IsLineBreak nl) :
    ∃ entered, s.perform (.type name p nl .keep) = (.reported (.typed name p nl), entered) ∧
      ∀ actions : List Action, (∀ a ∈ actions, a.Redelivers (.typed name p nl)) →
        (entered.answers actions).countP Answer.isApplied ≤ 1 ∧
        (entered.answers actions).Pairwise fun earlier later =>
          earlier.isApplied = true → later.isQuiet = true := by
  obtain ⟨before, left, right, h⟩ := Document.exists_splits hp
  have htype := Editor.type_eq hd (h.cuts.insert_eq hp nl)
  refine ⟨_, perform_type htype .keep, fun actions ha => answers_of_leftAt ?_ ha⟩
  exact ⟨_, Editor.get?_typed, h.leftAt_break hnl⟩

/-- The event of a line break is delivered twice, with other settings and some time in between, and
one terminator is inserted. -/
theorem terminated_once_of_declaration :
    ∃ entered,
      (ofDocument "Main" ⟨"java", "int x = 1".toList⟩).perform (.type "Main" ⟨0, 9⟩ ['\n'] .keep) =
        (.reported (.typed "Main" ⟨0, 9⟩ ['\n']), entered) ∧
      (entered.answers [
        .deliver (.typed "Main" ⟨0, 9⟩ ['\n']) .edit, .setSource (.fixed .allLanguages),
        .settingsChanged, .advance 300,
        .deliver (.typed "Main" ⟨0, 9⟩ ['\n']) .edit]).countP Answer.isApplied = 1 := by
  have hd : (ofDocument "Main" ⟨"java", "int x = 1".toList⟩).editor.get? "Main" =
      some ⟨"java", "int x = 1".toList⟩ := rfl
  have hp : (⟨"java", "int x = 1".toList⟩ : Document).check? ⟨0, 9⟩ = none := by decide
  have hnl : Document.IsLineBreak ['\n'] := .inl rfl
  obtain ⟨entered, hperform, hrun⟩ := terminated_once _ hd hp hnl
  have hentered : entered = ((ofDocument "Main" ⟨"java", "int x = 1".toList⟩).perform
      (.type "Main" ⟨0, 9⟩ ['\n'] .keep)).2 := by rw [hperform]
  have hfirst : (entered.perform (.deliver (.typed "Main" ⟨0, 9⟩ ['\n']) .edit)).1.isApplied =
      true := by
    rw [hentered]
    decide
  refine ⟨entered, hperform, Nat.le_antisymm (hrun _ ?_).1 ?_⟩
  · simp only [List.forall_mem_cons]
    exact ⟨.deliver, .around (.setSource _), .around .settingsChanged, .around (.advance 300),
      .deliver, List.forall_mem_nil _⟩
  · exact List.countP_pos_iff.mpr ⟨_, List.mem_cons_self, hfirst⟩

end Session

end Semicolon
