import Semicolon.Language

/-!
# Settings — what a user can set

A setting is a switch, the list of language identifiers, or the delay between two decisions.  Every
language has a switch of its own besides its place in the list.

* `Settings.isValid`: the delay has an upper bound.  Identifiers of languages that are not supported
  are only worth a notice, for they never match a supported language.
-/

namespace Semicolon

/-- A yes or no for each language. -/
structure Switches where
  javaScript : Bool
  typeScript : Bool
  java : Bool
  cSharp : Bool
  cpp : Bool
  deriving DecidableEq, Repr

namespace Switches

def get (s : Switches) : Language → Bool
  | .javaScript => s.javaScript
  | .typeScript => s.typeScript
  | .java       => s.java
  | .cSharp     => s.cSharp
  | .cpp        => s.cpp

def set (s : Switches) (on : Bool) : Language → Switches
  | .javaScript => { s with javaScript := on }
  | .typeScript => { s with typeScript := on }
  | .java       => { s with java := on }
  | .cSharp     => { s with cSharp := on }
  | .cpp        => { s with cpp := on }

@[simp] theorem get_set_self (s : Switches) (on : Bool) (l : Language) :
    (s.set on l).get l = on := by
  cases l <;> rfl

theorem get_set_of_ne (s : Switches) (on : Bool) {l l' : Language} (h : l' ≠ l) :
    (s.set on l).get l' = s.get l' := by
  cases l <;> cases l' <;> first | rfl | exact absurd rfl h

end Switches

/-! ### Identifiers -/

/-- A sorted list of identifiers with one more, if it is not there yet. -/
def insertIdentifier (id : String) : List String → List String
  | []        => [id]
  | id' :: ids =>
    if id < id' then id :: id' :: ids
    else if id = id' then id' :: ids
    else id' :: insertIdentifier id ids

/-- The identifiers of a list, sorted and each once. -/
def identifiers (ids : List String) : List String :=
  ids.foldr insertIdentifier []

/-! ### Settings -/

structure Settings where
  /-- Nothing is decided while this is off. -/
  enabled : Bool
  /-- The identifiers of the languages to decide for, sorted and each once. -/
  languages : List String
  /-- Line breaks inside of comments are left alone, and comments are removed from a line before it
  is decided. -/
  skipComments : Bool
  /-- Line breaks inside of strings are left alone. -/
  skipStrings : Bool
  /-- The least time between two accepted events, in milliseconds. -/
  debounceDelay : Nat
  /-- The switch of each language. -/
  enableFor : Switches
  deriving DecidableEq, Repr

namespace Settings

/-- The settings where nothing is set. -/
def default : Settings where
  enabled       := true
  languages     := ["java", "javascript", "typescript"]
  skipComments  := true
  skipStrings   := true
  debounceDelay := 50
  enableFor     := ⟨true, true, true, false, false⟩

/-- All languages are listed and switched on, and there is no delay. -/
def allLanguages : Settings :=
  { default with
    languages     := identifiers (Language.all.map Language.id)
    debounceDelay := 0
    enableFor     := ⟨true, true, true, true, true⟩ }

instance : Inhabited Settings := ⟨default⟩

/-- The longest delay, in milliseconds. -/
def maxDelay : Nat := 10000

/-- The delay is not too long. -/
def isValid (s : Settings) : Bool := s.debounceDelay ≤ maxDelay

/-- The listed identifiers that no supported language has. -/
def unknownLanguages (s : Settings) : List String :=
  s.languages.filter fun id => (Language.ofId? id).isNone

/-- The settings without a delay. -/
def withoutDelay (s : Settings) : Settings := { s with debounceDelay := 0 }

end Settings

/-! ### Fields -/

/-- A setting that is a switch. -/
inductive Switch where
  | enabled
  | skipComments
  | skipStrings
  | language (l : Language)
  deriving DecidableEq, Repr

/-- A setting. -/
inductive Field where
  | switch (s : Switch)
  | languages
  | debounceDelay
  deriving DecidableEq, Repr

namespace Field

/-- All settings, in the order of their keys. -/
def all : List Field := [
  .debounceDelay,
  .switch (.language .cSharp),
  .switch (.language .cpp),
  .switch (.language .java),
  .switch (.language .javaScript),
  .switch (.language .typeScript),
  .switch .enabled,
  .languages,
  .switch .skipComments,
  .switch .skipStrings]

theorem mem_all (f : Field) : f ∈ all := by
  cases f with
  | switch s =>
    cases s with
    | language l => cases l <;> decide
    | enabled | skipComments | skipStrings => decide
  | languages | debounceDelay => decide

/-- The name of the setting in a file. -/
def key : Field → String
  | .debounceDelay                   => "debounceDelay"
  | .languages                       => "languages"
  | .switch .enabled                 => "enabled"
  | .switch .skipComments            => "skipComments"
  | .switch .skipStrings             => "skipStrings"
  | .switch (.language .javaScript)  => "enableForJavaScript"
  | .switch (.language .typeScript)  => "enableForTypeScript"
  | .switch (.language .java)        => "enableForJava"
  | .switch (.language .cSharp)      => "enableForCSharp"
  | .switch (.language .cpp)         => "enableForCpp"

/-- The setting with this name in a file. -/
def ofKey? (key : String) : Option Field := all.find? (·.key = key)

theorem ofKey?_key (f : Field) : ofKey? f.key = some f := by
  cases f with
  | switch s =>
    cases s with
    | language l => cases l <;> decide
    | enabled | skipComments | skipStrings => decide
  | languages | debounceDelay => decide

end Field

/-- The settings with one switch set. -/
def Settings.setSwitch (s : Settings) (on : Bool) : Switch → Settings
  | .enabled      => { s with enabled := on }
  | .skipComments => { s with skipComments := on }
  | .skipStrings  => { s with skipStrings := on }
  | .language l   => { s with enableFor := s.enableFor.set on l }

end Semicolon
