import Semicolon.FileRun
import Semicolon.Json.Writer

/-!
# Cli — reports

Explanations and verdicts as JSON values, and as lines of text.
-/

namespace Semicolon

open Json (Value)

/-- A text as a JSON string. -/
def Text.toJson (t : Text) : Value := .string (String.ofList t)

/-- A count as a JSON number. -/
def countToJson (n : Nat) : Value := .number (.natural n)

def Reason.toJson (r : Reason) : Value :=
  .object (("kind", .string r.kind) ::
    match r.detail? with
    | some detail => [("detail", .string detail)]
    | none        => [])

def Classification.toJson (c : Classification) : Value :=
  .object [("decision", .string c.decision.name), ("reason", c.reason.toJson)]

def Position.toJson (p : Position) : Value :=
  .object [("line", countToJson p.line), ("character", countToJson p.column)]

def Snapshot.toJson (s : Snapshot) : Value :=
  .object [
    ("raw", s.raw.toJson),
    ("trimmed", s.trimmed.toJson),
    ("stripped", s.stripped.toJson),
    ("line", countToJson s.line),
    ("end_offset", countToJson s.endOffset),
    ("end_position", s.endPosition.toJson)]

def Verdict.toJson (v : Verdict) : Value :=
  .object [
    ("language", .string v.language.id),
    ("classification", v.classification.toJson),
    ("snapshot", v.snapshot.toJson)]

def Explanation.toJson (e : Explanation) : Value :=
  .object [
    ("language", .string e.language.id),
    ("line", e.line.toJson),
    ("stripped", e.stripped.toJson),
    ("classification", e.classification.toJson)]

namespace Cli

/-- A value as the last thing on its line. -/
def report (v : Value) : String := Json.write 0 v ++ "\n"

/-- A decision with its reason. -/
def decisionLine (c : Classification) : String :=
  c.decision.name ++ " (" ++ c.reason.describe ++ ")\n"

/-- A line of a file that would get a terminator.  Lines are counted from one. -/
def verdictLine (path : String) (v : Verdict) : String :=
  path ++ ":" ++ toString (v.snapshot.line + 1) ++ ": " ++ String.ofList v.snapshot.trimmed ++ "\n"

end Cli

end Semicolon
