import Semicolon.Proofs.Dispatcher.Outcomes

/-!
# FileRun — which lines get a terminator

`terminators` decides lines one after the other, each behind the ones in front of it, and
`withTerminators` puts the terminators in.

* `terminates_congr`: of the text in front of a line, only the quotes matter.  So it does not matter
  whether the lines in front have their terminators (`sameQuotes_withTerminator`) or carriage
  returns at their ends (`sameQuotes_terminated`).
* `terminators_withTerminators` and `withTerminators_idempotent`: lines that have their terminators
  get no others.
-/

namespace Semicolon.FileRun
open Text

/-- A line that is finished behind the text `front` gets a terminator. -/
def terminates (settings : Settings) (language : Language) (front line : Text) : Bool :=
  settings.admits language && (classifyLine settings language front line line).decision = .insert

/-- Which lines get a terminator, where `front` is the text in front of them. -/
def terminators (settings : Settings) (language : Language) : Text → List Text → List Bool
  | _,     []      => []
  | front, l :: ls =>
    terminates settings language front l ::
      terminators settings language (front ++ (l ++ ['\n'])) ls

/-- The line with the terminator that it gets. -/
def withTerminator (on : Bool) (line : Text) : Text := line ++ if on then [';'] else []

@[simp] theorem withTerminator_false (line : Text) : withTerminator false line = line :=
  List.append_nil line

@[simp] theorem withTerminator_true (line : Text) : withTerminator true line = line ++ [';'] := rfl

/-- The lines with the terminators that they get. -/
def withTerminators (settings : Settings) (language : Language) (front : Text) (ls : List Text) :
    List Text :=
  List.zipWith withTerminator (terminators settings language front ls) ls

section

variable {settings : Settings} {language : Language} {front front' : Text}

theorem withTerminators_cons (front l : Text) (ls : List Text) :
    withTerminators settings language front (l :: ls) =
      withTerminator (terminates settings language front l) l ::
        withTerminators settings language (front ++ (l ++ ['\n'])) ls := rfl

/-- Every line is decided. -/
theorem length_terminators (front : Text) (ls : List Text) :
    (terminators settings language front ls).length = ls.length := by
  induction ls generalizing front with
  | nil => rfl
  | cons l ls ih => rw [terminators, List.length_cons, List.length_cons, ih]

/-- A line is decided behind the lines in front of it, each with its line feed. -/
theorem getElem?_terminators (front : Text) (ls : List Text) (i : Nat) :
    (terminators settings language front ls)[i]? =
      ls[i]?.map (terminates settings language (front ++ terminated (ls.take i))) := by
  induction ls generalizing front i with
  | nil => rfl
  | cons l ls ih =>
    cases i with
    | zero => simp [terminators]
    | succ i =>
      rw [terminators, List.getElem?_cons_succ, List.getElem?_cons_succ, ih, List.take_succ_cons,
        terminated_cons]
      simp only [List.append_assoc, List.singleton_append]

/-- Of the text in front of a line only the quotes matter. -/
theorem terminates_congr (h : Literal.SameQuotes front front') (line : Text) :
    terminates settings language front line = terminates settings language front' line := by
  rw [terminates, terminates, classifyLine_congr settings language h]

/-- A line that has got its terminator gets no other. -/
theorem terminates_withTerminator (h : Literal.SameQuotes front front') (line : Text) :
    terminates settings language front'
      (withTerminator (terminates settings language front line) line) = false := by
  cases ht : terminates settings language front line with
  | false =>
    rw [withTerminator_false, ← terminates_congr h, ht]
  | true =>
    have hsuppress := classifyLine_terminated settings language front' line (.inr rfl)
      (List.forall_mem_nil _)
    rw [withTerminator_true, terminates, hsuppress]
    exact Bool.and_false _

/-- A terminator is no quote, so the next line is decided as if it was not there. -/
theorem sameQuotes_withTerminator (h : Literal.SameQuotes front front') (line : Text) (on : Bool) :
    Literal.SameQuotes (front ++ (line ++ ['\n']))
      (front' ++ (withTerminator on line ++ ['\n'])) := by
  have hend : Literal.Quoteless (if on then [';'] else []) := by
    cases on with
    | false => exact Literal.quoteless_nil
    | true => exact Literal.quoteless_singleton (by decide)
  have hline := h.line line Literal.quoteless_nil hend
  rwa [List.append_nil] at hline

/-- Lines hold the same quotes with or without a carriage return at their ends. -/
theorem sameQuotes_terminated {ls ps : List Text}
    (h : List.Forall₂ (fun l piece => piece = l ∨ piece = l ++ ['\r']) ls ps) {s s' : Text}
    (hs : Literal.SameQuotes s s') :
    Literal.SameQuotes (s ++ terminated ls) (s' ++ terminated ps) := by
  induction h generalizing s s' with
  | nil => simpa using hs
  | @cons l piece ls ps hpiece _ ih =>
    -- the piece is the line and a carriage return, which is no quote, or nothing
    obtain ⟨x, hx, rfl⟩ : ∃ x, Literal.Quoteless x ∧ piece = l ++ x := by
      rcases hpiece with rfl | rfl
      · exact ⟨[], Literal.quoteless_nil, (List.append_nil _).symm⟩
      · exact ⟨['\r'], Literal.quoteless_singleton (by decide), rfl⟩
    have hline := hs.line l Literal.quoteless_nil hx
    rw [List.append_nil] at hline
    have hnext := ih hline
    simpa using hnext

/-- Lines that have got their terminators get no others. -/
theorem terminators_withTerminators (h : Literal.SameQuotes front front') (ls : List Text) :
    terminators settings language front' (withTerminators settings language front ls) =
      List.replicate ls.length false := by
  induction ls generalizing front front' with
  | nil => rfl
  | cons l ls ih =>
    have hnext := sameQuotes_withTerminator h l (terminates settings language front l)
    rw [withTerminators_cons, terminators, terminates_withTerminator h, ih hnext, List.length_cons,
      List.replicate_succ]

theorem zipWith_withTerminator_false (ls : List Text) :
    List.zipWith withTerminator (List.replicate ls.length false) ls = ls := by
  induction ls with
  | nil => rfl
  | cons l ls ih =>
    rw [List.length_cons, List.replicate_succ, List.zipWith_cons_cons, withTerminator_false, ih]

/-- Where no line gets a terminator, the lines stay as they are. -/
theorem withTerminators_of_none {ls : List Text}
    (h : terminators settings language front ls = List.replicate ls.length false) :
    withTerminators settings language front ls = ls := by
  rw [withTerminators, h, zipWith_withTerminator_false]

/-- Terminators make no more lines. -/
theorem length_withTerminators (front : Text) (ls : List Text) :
    (withTerminators settings language front ls).length = ls.length := by
  rw [withTerminators, List.length_zipWith, length_terminators, Nat.min_self]

/-- So the terminators are put in only once. -/
theorem withTerminators_idempotent (h : Literal.SameQuotes front front') (ls : List Text) :
    withTerminators settings language front' (withTerminators settings language front ls) =
      withTerminators settings language front ls := by
  apply withTerminators_of_none
  rw [terminators_withTerminators h, length_withTerminators]

/-- What every line with its terminator satisfies, the lines with their terminators satisfy. -/
theorem forall_mem_withTerminators {P : Text → Prop} {ls : List Text}
    (h : ∀ l ∈ ls, ∀ on, P (withTerminator on l)) (front : Text) :
    ∀ l ∈ withTerminators settings language front ls, P l := by
  induction ls generalizing front with
  | nil => exact List.forall_mem_nil _
  | cons l ls ih =>
    rw [List.forall_mem_cons] at h
    rw [withTerminators_cons, List.forall_mem_cons]
    exact ⟨h.1 _, ih h.2 _⟩

end

/-! ### The line with its terminator -/

/-- A terminator breaks no line. -/
theorem notMem_withTerminator {line : Text} (h : '\n' ∉ line) (on : Bool) :
    '\n' ∉ withTerminator on line := by
  rw [withTerminator, List.mem_append, not_or]
  exact ⟨h, by cases on <;> decide⟩

/-- Nor does it put a carriage return at the end of a line. -/
theorem getLast?_withTerminator {line : Text} (h : line.getLast? ≠ some '\r') (on : Bool) :
    (withTerminator on line).getLast? ≠ some '\r' := by
  cases on with
  | false => rwa [withTerminator_false]
  | true => simp

end Semicolon.FileRun
