/-!
# Syntax of patterns

The syntax trees of regular expressions, as they are written: escapes are resolved, but flags,
named classes and case folding still wait for their meaning.
-/

namespace MessageConstraints

namespace Pattern

/-- The switches of a pattern. -/
inductive Flag where
  | caseInsensitive
  | multiLine
  | dotMatchesNewline
  | swapGreed
  | unicode
  | crlf
  | ignoreBlanks
deriving Repr, DecidableEq

/-- Switches that are turned on or off together. -/
abbrev FlagChanges := List (Flag × Bool)

/-- A character that stands for itself; one written as `\xNN` stands for a byte where Unicode is
turned off. -/
structure Literal where
  char : Char
  isByte : Bool
deriving Repr, DecidableEq

/-- The classes with a one-letter escape. -/
inductive LetterClass where
  | digit
  | blank
  | word
deriving Repr, DecidableEq

/-- The classes that are named between `[:` and `:]`. -/
inductive BracketName where
  | alnum | alpha | ascii | blank | cntrl | digit | graph | lower | print | punct | space | upper
  | word | xdigit
deriving Repr, DecidableEq

/-- A class of the Unicode standard, named alone or as the value of a property. -/
inductive ClassName where
  | alone (name : String)
  | value (property value : String)
deriving Repr, DecidableEq

/-- The operations on sets inside brackets. -/
inductive SetOperation where
  | intersection
  | difference
  | symmetricDifference
deriving Repr, DecidableEq

/-- What can stand inside brackets. -/
inductive SetSyntax where
  | empty
  | literal (c : Literal)
  | range (low high : Literal)
  | bracketName (negated : Bool) (name : BracketName)
  | letterClass (negated : Bool) (name : LetterClass)
  | namedClass (negated : Bool) (name : ClassName)
  | bracket (negated : Bool) (inner : SetSyntax)
  | union (items : List SetSyntax)
  | operation (kind : SetOperation) (left right : SetSyntax)
deriving Repr

/-- The conditions on a place between two characters. -/
inductive Anchor where
  | lineStart
  | lineEnd
  | textStart
  | textEnd
  | wordBoundary
  | notWordBoundary
  | wordStart
  | wordEnd
  | wordStartHalf
  | wordEndHalf
deriving Repr, DecidableEq

/-- A regular expression. -/
inductive Syntax where
  | empty
  | flags (changes : FlagChanges)
  | literal (c : Literal)
  | dot
  | anchor (kind : Anchor)
  | letterClass (negated : Bool) (name : LetterClass)
  | namedClass (negated : Bool) (name : ClassName)
  | set (negated : Bool) (inner : SetSyntax)
  | repetition (min : Nat) (max : Option Nat) (isLazy : Bool) (inner : Syntax)
  | group (changes : FlagChanges) (isCapture : Bool) (inner : Syntax)
  | alternation (branches : List Syntax)
  | concat (items : List Syntax)
deriving Repr

namespace SetSyntax

mutual

/-- How deep brackets, unions and operations are nested. -/
def depth : SetSyntax → Nat
  | bracket _ inner => depth inner + 1
  | union items => depthAll items + 1
  | operation _ left right => max (depth left) (depth right) + 1
  | _ => 0

/-- The greatest depth of some sets. -/
def depthAll : List SetSyntax → Nat
  | [] => 0
  | item :: rest => max (depth item) (depthAll rest)

end

/-- Several items as one set. -/
def ofItems : List SetSyntax → SetSyntax
  | [] => empty
  | [item] => item
  | items => union items

end SetSyntax

namespace Syntax

mutual

/-- How deep the parts of an expression are nested. -/
def depth : Syntax → Nat
  | set _ inner => SetSyntax.depth inner + 1
  | repetition _ _ _ inner => depth inner + 1
  | group _ _ inner => depth inner + 1
  | alternation branches => depthAll branches + 1
  | concat items => depthAll items + 1
  | _ => 0

/-- The greatest depth of some expressions. -/
def depthAll : List Syntax → Nat
  | [] => 0
  | item :: rest => max (depth item) (depthAll rest)

end

/-- Expressions one after the other. -/
def ofItems : List Syntax → Syntax
  | [] => empty
  | [item] => item
  | items => concat items

/-- Expressions to choose from. -/
def ofBranches : List Syntax → Syntax
  | [branch] => branch
  | branches => alternation branches

end Syntax

end Pattern

end MessageConstraints
