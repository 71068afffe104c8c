import Semicolon.Delimiters
import Semicolon.Profile

/-!
# Classification — does a line get a terminator?

`Profile.classify` runs a fixed sequence of questions on the trimmed line; the first one that has an
answer settles the decision and is its reason.  Only the last question, the table of requiring
rules, can insert a terminator.
-/

namespace Semicolon

inductive Decision where
  | insert
  | suppress
  deriving DecidableEq, Repr

def Decision.name : Decision → String
  | .insert   => "insert"
  | .suppress => "suppress"

/-- The question that settled a decision. -/
inductive Reason where
  | empty
  | unsupportedLanguage
  /-- The line is a comment. -/
  | commentLine
  | insideString
  | insideComment
  | alreadyTerminated
  | bareElse
  | elseIf
  | braceOnControlLine
  | bareControlKeyword
  | braceOnDeclarationLine
  | unclosedDelimiter
  | suppressRule (name : String)
  | controlHeader
  /-- The line ends with an operator or an opening mark. -/
  | continuation (suffix : String)
  | requireRule (name : String)
  | unrecognized
  deriving DecidableEq, Repr

namespace Reason

/-- The word for the kind of reason. -/
def kind : Reason → String
  | .empty                  => "empty"
  | .unsupportedLanguage    => "unsupported_language"
  | .commentLine            => "comment_line"
  | .insideString           => "inside_string"
  | .insideComment          => "inside_comment"
  | .alreadyTerminated      => "already_terminated"
  | .bareElse               => "bare_else"
  | .elseIf                 => "else_if"
  | .braceOnControlLine     => "brace_on_control_line"
  | .bareControlKeyword     => "bare_control_keyword"
  | .braceOnDeclarationLine => "brace_on_declaration_line"
  | .unclosedDelimiter      => "unclosed_delimiter"
  | .suppressRule _         => "suppress_rule"
  | .controlHeader          => "control_header"
  | .continuation _         => "continuation"
  | .requireRule _          => "require_rule"
  | .unrecognized           => "unrecognized"

/-- The rule or the suffix that the reason names. -/
def detail? : Reason → Option String
  | .suppressRule name | .continuation name | .requireRule name => some name
  | _                                                           => none

/-- The reason in words.  A suffix is shown without its blank. -/
def describe : Reason → String
  | .empty                  => "empty line"
  | .unsupportedLanguage    => "no profile for language"
  | .commentLine            => "comment line"
  | .insideString           => "line ends inside a string"
  | .insideComment          => "line ends inside a comment"
  | .alreadyTerminated      => "already terminated"
  | .bareElse               => "bare else"
  | .elseIf                 => "else-if header"
  | .braceOnControlLine     => "control line opens a block"
  | .bareControlKeyword     => "bare control keyword"
  | .braceOnDeclarationLine => "declaration opens a block"
  | .unclosedDelimiter      => "unclosed delimiter"
  | .suppressRule name      => "suppress rule `" ++ name ++ "`"
  | .controlHeader          => "control header awaiting body"
  | .continuation suffix    =>
    "continues after `" ++ String.ofList (Text.trim suffix.toList) ++ "`"
  | .requireRule name       => "require rule `" ++ name ++ "`"
  | .unrecognized           => "unrecognized shape"

end Reason

/-- A decision with its reason. -/
structure Classification where
  decision : Decision
  reason : Reason
  deriving DecidableEq, Repr

namespace Classification

def suppress (reason : Reason) : Classification := ⟨.suppress, reason⟩

def insert (rule : String) : Classification := ⟨.insert, .requireRule rule⟩

end Classification

open Text (startsWith endsWith trimStart)

/-! ### The questions -/

/-- A brace that begins a body: no `=` stands in front of the first one. -/
def opensBlock (line : Text) : Bool :=
  line.contains '{' && !(line.takeWhile (· ≠ '{')).contains '='

/-- The marks at the end of a line that leave its statement open.  A `>` counts only behind a blank,
since type arguments end in one as well. -/
def continuationSuffixes : List String :=
  ["=>", "&&", "||", "??", "->", ">>", "<<", "<", " >", "+", "-", "*", "/", "%", "=", "&", "|",
   "^", "?", ":", ".", ",", "\x7b", "(", "["]

/-- The first suffix of the table that ends the line; a line that ends in `++` or `--` has none. -/
def continuationSuffix? (line : Text) : Option String :=
  if endsWith line ['+', '+'] || endsWith line ['-', '-'] then none
  else continuationSuffixes.find? fun suffix => endsWith line suffix.toList

namespace Profile

/-- What is wrong with a line that begins with a control keyword.  Any other such line is left to
the later questions, as its body may stand on it. -/
def controlException? (p : Profile) (line : Text) : Option Reason :=
  if !p.opensControl line then none
  else if line = "else".toList then some .bareElse
  else if startsWith line "else if".toList then some .elseIf
  else if line.contains '{' then some .braceOnControlLine
  else if p.controlKeywords.any (·.toList = line) then some .bareControlKeyword
  else none

/-- The line begins with the keyword and an opening round bracket. -/
def isHeaded (line : Text) (keyword : String) : Bool :=
  startsWith line keyword.toList
    && startsWith (trimStart (line.drop keyword.toList.length)) ['(']

/-- A header such as `while (…)`: it ends in `)` and its round brackets are balanced.  A header with
a call behind it counts too, for its body is still being typed. -/
def isControlHeader (p : Profile) (line : Text) : Bool :=
  endsWith line [')'] && (Balance.of line).parens = 0 && p.headerKeywords.any (isHeaded line)

/-- The decision for a line without blanks at its ends. -/
def classifyTrimmed (p : Profile) (terminator : Char) (line : Text) : Classification :=
  if line.isEmpty then .suppress .empty
  else if endsWith line [terminator] then .suppress .alreadyTerminated
  else match p.controlException? line with
  | some reason => .suppress reason
  | none =>
  if p.declaration.opens line && opensBlock line then .suppress .braceOnDeclarationLine
  else if (Balance.of line).hasUnclosed then .suppress .unclosedDelimiter
  else match Rule.first? p.suppress line with
  | some rule => .suppress (.suppressRule rule.name)
  | none =>
  if p.isControlHeader line then .suppress .controlHeader
  else match continuationSuffix? line with
  | some suffix => .suppress (.continuation suffix)
  | none =>
  match Rule.first? p.require line with
  | some rule => .insert rule.name
  | none      => .suppress .unrecognized

end Profile

/-- The decision for a line of a language. -/
def Language.classify (l : Language) (line : Text) : Classification :=
  l.profile.classifyTrimmed l.terminator line.trim

/-- The decision for a line in an editor's language; one that is not supported suppresses. -/
def classifyFor (languageId : String) (line : Text) : Classification :=
  match Language.ofId? languageId with
  | some l => l.classify line
  | none   => .suppress .unsupportedLanguage

end Semicolon
