import Semicolon.Language
import Semicolon.Rules.Cpp
import Semicolon.Rules.CSharp
import Semicolon.Rules.Java
import Semicolon.Rules.TypeScript

/-!
# Profile — what a decision has to know about a language

Every language is decided by the same procedure; a profile is its vocabulary.  In a profile the
shared suppressing rules come first and the shared requiring rules last.
-/

namespace Semicolon

/-- The vocabulary of one language. -/
structure Profile where
  /-- The keywords that open a control structure. -/
  controlKeywords : List String
  /-- The keywords whose header in round brackets may stand alone on a line. -/
  headerKeywords : List String
  /-- The shape of a declaration, whose block may open on the same line. -/
  declaration : Pattern
  /-- Shapes that take no terminator. -/
  suppress : List Rule
  /-- Shapes that take one. -/
  require : List Rule
  deriving DecidableEq, Repr

namespace Profile

open Rules

/-- The control keywords of all languages. -/
def sharedControl : List String :=
  ["if", "else", "for", "while", "do", "switch", "try", "catch", "finally"]

/-- The header keywords of all languages. -/
def sharedHeaders : List String := ["if", "for", "while", "switch", "catch"]

def javaScript : Profile where
  controlKeywords := sharedControl
  headerKeywords  := sharedHeaders
  declaration     := JavaScript.declaration
  suppress        := sharedSuppress ++ JavaScript.suppress
  require         := JavaScript.require ++ sharedRequire

def typeScript : Profile where
  controlKeywords := sharedControl
  headerKeywords  := sharedHeaders
  declaration     := TypeScript.declaration
  suppress        := sharedSuppress ++ TypeScript.suppress
  require         := TypeScript.require ++ JavaScript.require ++ sharedRequire

def java : Profile where
  controlKeywords := sharedControl ++ Java.controlKeywords
  headerKeywords  := sharedHeaders ++ Java.controlKeywords
  declaration     := Java.declaration
  suppress        := sharedSuppress ++ Java.suppress
  require         := Java.require ++ sharedRequire

def cSharp : Profile where
  controlKeywords := sharedControl ++ CSharp.controlKeywords
  headerKeywords  := sharedHeaders ++ CSharp.headerKeywords
  declaration     := CSharp.declaration
  suppress        := sharedSuppress ++ CSharp.suppress
  require         := CSharp.require ++ sharedRequire

def cpp : Profile where
  controlKeywords := sharedControl
  headerKeywords  := sharedHeaders
  declaration     := Cpp.declaration
  suppress        := sharedSuppress ++ Cpp.suppress
  require         := Cpp.require ++ sharedRequire

/-- The line begins with a control keyword. -/
def opensControl (p : Profile) (line : Text) : Bool :=
  (Pattern.keyword p.controlKeywords).opens line

end Profile

/-- The vocabulary of a language. -/
def Language.profile : Language → Profile
  | .javaScript => .javaScript
  | .typeScript => .typeScript
  | .java       => .java
  | .cSharp     => .cSharp
  | .cpp        => .cpp

end Semicolon
