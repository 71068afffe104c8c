/-!
# Cli — arguments

The words of the command line are read from left to right.  An option is written `--name`, with its
value in the next word or behind `=`, or as a letter in a word that begins with one dash, where the
value is the rest of the word.  Behind `--` every word is a plain one.  An option may be given once
in front of the command and once behind it; the one behind the command counts.
-/

namespace Semicolon.Cli

/-- An option of the program or of one of its commands. -/
inductive CliOption where
  | verbose
  | quiet
  | config
  | language
  | json
  | version
  | help
  deriving DecidableEq, Repr

/-- Why no command is carried out. -/
inductive Stop where
  /-- The words make no command. -/
  | misuse
  /-- The version was asked for. -/
  | version
  /-- Help was asked for. -/
  | help
  deriving DecidableEq, Repr

namespace CliOption

def long : CliOption → String
  | .verbose  => "verbose"
  | .quiet    => "quiet"
  | .config   => "config"
  | .language => "language"
  | .json     => "json"
  | .version  => "version"
  | .help     => "help"

def short? : CliOption → Option Char
  | .verbose  => some 'v'
  | .language => some 'l'
  | .version  => some 'V'
  | .help     => some 'h'
  | .quiet | .config | .json => none

def takesValue : CliOption → Bool
  | .config | .language => true
  | _                   => false

/-- The option asks for something else than a command. -/
def stop? : CliOption → Option Stop
  | .version => some .version
  | .help    => some .help
  | _        => none

/-- A path may not be empty, while an identifier may. -/
def acceptsValue (o : CliOption) (value : String) : Bool := o ≠ .config || value ≠ ""

end CliOption

/-- What may be written at one place of the command line. -/
structure Grammar where
  options : List CliOption
  /-- The plain words that are taken. -/
  plain : Nat
  /-- The commands that may follow. -/
  commands : List String

/-- What was read at one place. -/
structure Reading where
  flags : List CliOption
  values : List (CliOption × String)
  plain : List String
  deriving DecidableEq, Repr

namespace Reading

def empty : Reading := ⟨[], [], []⟩

/-- The option was given. -/
def has (r : Reading) (o : CliOption) : Bool := r.flags.contains o

/-- The value of an option. -/
def value? (r : Reading) (o : CliOption) : Option String := r.values.lookup o

/-- Take a flag, once. -/
def takeFlag (r : Reading) (o : CliOption) : Except Stop Reading :=
  match o.stop? with
  | some stop => .error stop
  | none      => if r.has o then .error .misuse else .ok { r with flags := o :: r.flags }

/-- Take an option with its value, once. -/
def takeValue (r : Reading) (o : CliOption) (value : String) : Except Stop Reading :=
  if (r.value? o).isSome ∨ !o.acceptsValue value then .error .misuse
  else .ok { r with values := (o, value) :: r.values }

/-- Take a plain word. -/
def takePlain (g : Grammar) (r : Reading) (word : String) : Except Stop Reading :=
  if r.plain.length < g.plain then .ok { r with plain := r.plain ++ [word] } else .error .misuse

end Reading

/-- A word that begins like an option: with a dash, and more than that. -/
def looksLikeOption (word : String) : Bool :=
  match word.toList with
  | '-' :: _ :: _ => true
  | _             => false

/-- The part of a word in front of the first `=` and the part behind it, if there is one. -/
def splitAtEquals : List Char → List Char × Option (List Char)
  | []        => ([], none)
  | '=' :: cs => ([], some cs)
  | c :: cs   =>
    let (name, value) := splitAtEquals cs
    (c :: name, value)

/-- Read the letters of a word behind its dash.  An option with a value takes the rest of the word,
without an `=` in front; if nothing is left, its value is the next word. -/
def readLetters (g : Grammar) (r : Reading) : List Char → Except Stop (Reading × Option CliOption)
  | []      => .ok (r, none)
  | c :: cs =>
    match g.options.find? (·.short? = some c) with
    | none   => .error .misuse
    | some o =>
      if o.takesValue then
        match cs with
        | []        => .ok (r, some o)
        | '=' :: cs => do return (← r.takeValue o (String.ofList cs), none)
        | cs        => do return (← r.takeValue o (String.ofList cs), none)
      else do readLetters g (← r.takeFlag o) cs

/-- Read a word behind its two dashes. -/
def readLong (g : Grammar) (r : Reading) (word : List Char) :
    Except Stop (Reading × Option CliOption) :=
  let (name, value) := splitAtEquals word
  match g.options.find? (·.long.toList = name), value with
  | none,   _          => .error .misuse
  | some o, none       => if o.takesValue then .ok (r, some o) else do return (← r.takeFlag o, none)
  | some o, some value =>
    if o.takesValue then do return (← r.takeValue o (String.ofList value), none) else .error .misuse

/-- Read words up to a command.  `pending` is an option that waits for its value. -/
def readWords (g : Grammar) (r : Reading) (pending : Option CliOption) :
    List String → Except Stop (Reading × Option (String × List String))
  | [] => if pending.isSome then .error .misuse else .ok (r, none)
  | word :: words =>
    match pending with
    | some o =>
      if looksLikeOption word then .error .misuse
      else do readWords g (← r.takeValue o word) none words
    | none =>
      if g.commands.contains word then .ok (r, some (word, words))
      else if word = "--" then do
        return (← words.foldlM (Reading.takePlain g) r, none)
      else
        match word.toList with
        | '-' :: '-' :: cs     => do
          let (r, pending) ← readLong g r cs
          readWords g r pending words
        | '-' :: c :: cs       => do
          let (r, pending) ← readLetters g r (c :: cs)
          readWords g r pending words
        | _                    => do readWords g (← r.takePlain g word) none words

/-! ### Commands -/

/-- What the program is asked to do. -/
inductive Command where
  | explain (languageId line : String) (asJson : Bool)
  | check (path : String) (languageId? : Option String) (asJson : Bool)
  | replay (path : String) (languageId? : Option String)
  deriving DecidableEq, Repr

/-- The command line. -/
structure Arguments where
  command : Command
  verbose : Bool
  quiet : Bool
  /-- The path of the settings. -/
  config? : Option String
  deriving DecidableEq, Repr

/-- In front of the command. -/
def programGrammar : Grammar :=
  ⟨[.verbose, .quiet, .config, .version, .help], 0, ["explain", "check", "replay", "help"]⟩

/-- Behind the command. -/
def commandGrammar (options : List CliOption) : Grammar :=
  ⟨options ++ [.verbose, .quiet, .config, .help], 1, []⟩

/-- The options of a command, besides those of the program. -/
def commandOptions (name : String) : List CliOption :=
  if name = "replay" then [.language] else [.language, .json]

/-- The command with the words read behind its name. -/
def Command.of? (name : String) (r : Reading) : Option Command :=
  match name, r.plain with
  | "explain", [line] => (r.value? .language).map fun id => .explain id line (r.has .json)
  | "check",   [path] =>
    if path = "" then none else some (.check path (r.value? .language) (r.has .json))
  | "replay",  [path] => if path = "" then none else some (.replay path (r.value? .language))
  | _,         _      => none

/-- Read the command line. -/
def Arguments.read (words : List String) : Except Stop Arguments := do
  let (program, rest) ← readWords programGrammar .empty none words
  match rest with
  | none               => throw .misuse
  | some (name, words) =>
    if name = "help" then throw .help
    let (r, _) ← readWords (commandGrammar (commandOptions name)) .empty none words
    match Command.of? name r with
    | none         => throw .misuse
    | some command =>
      return {
        command := command
        verbose := program.has .verbose || r.has .verbose
        quiet   := program.has .quiet || r.has .quiet
        config? := r.value? .config <|> program.value? .config }

end Semicolon.Cli
