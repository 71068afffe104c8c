import Semicolon.Json.Reader
import Semicolon.Settings.Basic
import Semicolon.Settings.Error
import Semicolon.Toml.Reader

/-!
# Settings — reading

Settings are read from the members of a JSON object or from the table of a TOML document.  What is
not there keeps its default, and names that no setting has are ignored.  The members of an object
are read in the order of their names, so the first wrong one is the error.

In an object that several programs share, the names of this program's settings have a common start.
Such a name stands for the bare one; a bare name wins over it, since it comes later in the order of
names.
-/

namespace Semicolon.Settings

/-- Settings that may be used. -/
def validated (s : Settings) : Except SettingsError Settings :=
  if s.isValid then .ok s else .error (.delayTooLong s)

/-! ### JSON -/

/-- The start of the names of this program's settings in an object that several programs share. -/
def sharedStart : Text := "autosemi.".toList

/-- The bare name of a setting of this program; a name with a point that does not begin with the
shared start belongs to another program. -/
def ownName? (name : String) : Option String :=
  if Text.startsWith name.toList sharedStart then
    some (String.ofList (name.toList.drop sharedStart.length))
  else if name.toList.contains '.' then none
  else some name

/-- The members that belong to this program, under their bare names. -/
def ownMembers (ms : Json.Members) : Json.Members :=
  ms.foldl (fun own (name, v) =>
    match ownName? name with
    | some bare => own.insert bare v
    | none      => own) []

/-- The settings with one of them set. -/
def setJson (s : Settings) (v : Json.Value) : Field → Except Json.Mismatch Settings
  | .switch switch => do return s.setSwitch (← v.boolean?) switch
  | .languages     => do return { s with languages := identifiers (← v.strings?) }
  | .debounceDelay => do return { s with debounceDelay := ← v.natural? }

/-- The settings with one member read. -/
def readMember (s : Settings) (member : String × Json.Value) : Except Json.Mismatch Settings :=
  match Field.ofKey? member.1 with
  | some field => s.setJson member.2 field
  | none       => .ok s

/-- The settings that an object holds. -/
def ofMembers (ms : Json.Members) : Except Json.Mismatch Settings :=
  (ownMembers ms).foldlM readMember default

/-- The settings that a JSON value holds. -/
def ofJson : Json.Value → Except SettingsError Settings
  | .object ms =>
    match ofMembers ms with
    | .ok s    => s.validated
    | .error m => .error (.mismatch m)
  | _ => .error .notAnObject

/-- The settings in a JSON text. -/
def readJson (t : Text) : Except SettingsError Settings :=
  match Json.read t with
  | .ok v          => ofJson v
  | .error failure => .error (.malformedJson failure)

/-! ### TOML -/

/-- The settings with one of them set. -/
def setToml (s : Settings) : Field → Toml.Value → Option Settings
  | .switch switch, .boolean on   => some (s.setSwitch on switch)
  | .languages,     .array items  => do
    let ids ← items.mapM fun | .string id => some id | _ => none
    return { s with languages := identifiers ids }
  | .debounceDelay, .integer n    =>
    if 0 ≤ n then some { s with debounceDelay := n.toNat } else none
  | _,              _             => none

/-- The settings that a table holds. -/
def ofTable (t : Toml.Table) : Option Settings :=
  t.foldlM (fun s (key, v) =>
    match Field.ofKey? key with
    | some field => s.setToml field v
    | none       => some s) default

/-- The settings in a TOML text. -/
def readToml (t : Text) : Except SettingsError Settings :=
  match Toml.read t >>= ofTable with
  | some s => s.validated
  | none   => .error .malformedToml

end Semicolon.Settings
