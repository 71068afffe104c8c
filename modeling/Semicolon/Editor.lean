import Semicolon.Document

/-!
# Editor — open documents, focus and undo

An editor holds documents by name, the one that has the focus, and the edits it can take back.  The
history is a list of steps, each of them a list of edits; the newest step and the newest edit of a
step come first.

* `Editor.apply`: an edit is either refused, and then nothing changes, or recorded.
* `Editor.undo?` takes back one step, its newest edit first.
* `Documents.get?_put_self`, `Documents.get?_put_of_ne`: putting a document under a name changes
  what that name holds and nothing else; `Documents.put_put` and `Documents.put_get?` say that the
  order of the names stays as it was.
-/

namespace Semicolon

/-! ### Named documents -/

/-- Open documents by name, each name once. -/
abbrev Documents := List (String × Document)

namespace Documents

/-- The document with a name. -/
def get? : Documents → String → Option Document
  | [],               _    => none
  | (name', d) :: ds, name => if name' = name then some d else get? ds name

/-- Give a name to a document, in the place of the one that had it. -/
def put (name : String) (d : Document) : Documents → Documents
  | []               => [(name, d)]
  | (name', d') :: ds => if name' = name then (name, d) :: ds else (name', d') :: put name d ds

@[simp] theorem get?_put_self (name : String) (d : Document) (ds : Documents) :
    get? (put name d ds) name = some d := by
  induction ds with
  | nil => simp [put, get?]
  | cons p ds ih => by_cases h : p.1 = name <;> simp [put, get?, h, ih]

@[simp] theorem get?_put_of_ne {name other : String} (d : Document) (ds : Documents)
    (h : other ≠ name) : get? (put name d ds) other = get? ds other := by
  induction ds with
  | nil => simp [put, get?, Ne.symm h]
  | cons p ds ih =>
    obtain ⟨name', d'⟩ := p
    by_cases hp : name' = name
    · subst hp
      simp [put, get?, Ne.symm h]
    · simp [put, get?, hp, ih]

@[simp] theorem put_put (name : String) (d d' : Document) (ds : Documents) :
    put name d' (put name d ds) = put name d' ds := by
  induction ds with
  | nil => simp [put]
  | cons p ds ih => by_cases h : p.1 = name <;> simp [put, h, ih]

theorem put_get? {name : String} {d : Document} {ds : Documents} (h : get? ds name = some d) :
    put name d ds = ds := by
  induction ds with
  | nil => simp [get?] at h
  | cons p ds ih =>
    obtain ⟨name', d'⟩ := p
    by_cases hp : name' = name
    · subst hp
      simp only [get?, if_true, Option.some.injEq] at h
      simp [put, h]
    · simp only [get?, hp, if_false] at h
      simp [put, hp, ih h]

end Documents

/-! ### Edits -/

/-- How an edit joins the history. -/
inductive Joining where
  /-- It belongs to the newest step. -/
  | withPrevious
  /-- It is a step of its own. -/
  | separate
  deriving DecidableEq, Repr

/-- The request to put a text into a document. -/
structure Edit where
  document : String
  position : Position
  text : Text
  joining : Joining
  deriving DecidableEq, Repr

/-- Why an edit is refused. -/
inductive EditError where
  | unknownDocument (document : String)
  | rejected (rejection : Rejection)
  deriving DecidableEq, Repr

def EditError.message : EditError → String
  | .unknownDocument document => "Unknown document: " ++ document
  | .rejected rejection       => "Edit rejected: " ++ rejection.message

/-- Steps of edits, the newest first. -/
abbrev History := List (List Edit)

/-- The history with one more edit; without an earlier step every edit is a step of its own. -/
def History.record (edit : Edit) : History → History
  | step :: steps =>
    match edit.joining with
    | .withPrevious => (edit :: step) :: steps
    | .separate     => [edit] :: step :: steps
  | [] => [[edit]]

/-! ### The editor -/

structure Editor where
  documents : Documents
  focused : Option String
  history : History
  /-- Insertions are refused, while typing is not. -/
  isReadOnly : Bool
  deriving DecidableEq, Repr

namespace Editor

/-- Nothing is open. -/
def empty : Editor := ⟨[], none, [], false⟩

def get? (e : Editor) (document : String) : Option Document := e.documents.get? document

/-- Open a document under a name, and give it the focus. -/
def openDocument (e : Editor) (name : String) (d : Document) : Editor :=
  { e with documents := e.documents.put name d, focused := some name }

/-- Give the focus to a document, if it is open. -/
def focus (e : Editor) (name : String) : Editor :=
  if (e.get? name).isSome then { e with focused := some name } else e

/-- Carry out an edit and record it. -/
def apply (e : Editor) (edit : Edit) : Except EditError Editor :=
  match e.get? edit.document with
  | none   => .error (.unknownDocument edit.document)
  | some d =>
    match d.insert edit.position edit.text with
    | .error rejection => .error (.rejected rejection)
    | .ok d' =>
      .ok { e with
        documents := e.documents.put edit.document d'
        history   := e.history.record edit }

/-- A keystroke: it is a step of its own, and it is reported. -/
def type (e : Editor) (document : String) (p : Position) (text : Text) :
    Except EditError (Event × Editor) := do
  let e ← e.apply ⟨document, p, text, .separate⟩
  return (.typed document p text, e)

/-- An insertion that was not typed. -/
def insert (e : Editor) (edit : Edit) : Except EditError Editor :=
  if e.isReadOnly then .error (.rejected (.readOnly edit.document)) else e.apply edit

/-- Take one edit back, if its document is still open. -/
def revert (ds : Documents) (edit : Edit) : Documents :=
  match ds.get? edit.document with
  | none   => ds
  | some d => ds.put edit.document (d.remove edit.position edit.text)

/-- Take back the newest step. -/
def undo? (e : Editor) : Option Editor :=
  match e.history with
  | []            => none
  | step :: steps => some { e with documents := step.foldl revert e.documents, history := steps }

end Editor

end Semicolon
