/-!
# Field combinations

Which fields of a message have to be set together: names joined by `&` and `|`, of which `&` binds
tighter, with parentheses.  A name is any run of characters other than these signs and the four
blanks, so points and letters of any script belong to names.
-/

namespace MessageConstraints

/-- A demand on which fields are set. -/
inductive Combination where
  | field (name : String)
  | all (operands : List Combination)
  | any (operands : List Combination)
deriving Repr

namespace Combination

/-! ## Words -/

/-- The words of the notation. -/
inductive Token where
  | openParen
  | closeParen
  | or
  | and
  | name (text : String)
deriving Repr, DecidableEq

namespace Token

/-- The blanks that set words apart. -/
def isBlank (c : Char) : Bool :=
  c == ' ' || c == '\t' || c == '\r' || c == '\n'

/-- The word that a sign stands for. -/
def sign? : Char → Option Token
  | '(' => some openParen
  | ')' => some closeParen
  | '|' => some or
  | '&' => some and
  | _ => none

/-- Whether a character may be part of a name. -/
def isNameChar (c : Char) : Bool :=
  !isBlank c && (sign? c).isNone

/-- The word of a name that has been read in reverse, if it is not empty. -/
def ofName (name : List Char) : List Token :=
  if name.isEmpty then [] else [.name (String.ofList name.reverse)]

/-- The words of a text, given the characters of an unfinished name in reverse. -/
def scan (unfinished : List Char) : List Char → List Token
  | [] => ofName unfinished
  | c :: rest =>
    match sign? c with
    | some token => ofName unfinished ++ token :: scan [] rest
    | none =>
      if isBlank c then ofName unfinished ++ scan [] rest
      else scan (c :: unfinished) rest

/-- The words of a text. -/
def ofText (text : String) : List Token :=
  scan [] text.toList

end Token

/-! ## Reading -/

/-- Operands joined by `&`; one alone needs no joining. -/
def ofAnd : List Combination → Combination
  | [operand] => operand
  | operands => all operands

/-- Operands joined by `|`; one alone needs no joining. -/
def ofOr : List Combination → Combination
  | [operand] => operand
  | operands => any operands

/-- What is unfinished inside an open parenthesis: the operands of `|` before the current one, and
those of `&` in the current one, in reverse. -/
structure Frame where
  ors : List Combination
  ands : List Combination

namespace Frame

/-- Nothing read yet. -/
def start : Frame := ⟨[], []⟩

/-- Adds an operand. -/
def push (frame : Frame) (operand : Combination) : Frame :=
  { frame with ands := operand :: frame.ands }

/-- Ends the current operand of `|`. -/
def endOr (frame : Frame) : Frame :=
  ⟨ofAnd frame.ands.reverse :: frame.ors, []⟩

/-- The combination that has been read. -/
def finish (frame : Frame) : Combination :=
  ofOr (frame.endOr.ors).reverse

end Frame

mutual

/-- Reads on where an operand has to come. -/
def expectOperand (frame : Frame) (outer : List Frame) : List Token → Option Combination
  | .name text :: rest => expectSign (frame.push (field text)) outer rest
  | .openParen :: rest => expectOperand .start (frame :: outer) rest
  | _ => none

/-- Reads on after an operand. -/
def expectSign (frame : Frame) (outer : List Frame) : List Token → Option Combination
  | [] => if outer.isEmpty then some frame.finish else none
  | .and :: rest => expectOperand frame outer rest
  | .or :: rest => expectOperand frame.endOr outer rest
  | .closeParen :: rest =>
    match outer with
    | enclosing :: outer => expectSign (enclosing.push frame.finish) outer rest
    | [] => none
  | _ => none

end

/-- The combination that some words denote. -/
def ofTokens? (tokens : List Token) : Option Combination :=
  expectOperand .start [] tokens

/-- The combination that a text denotes; none if it is malformed. -/
def parse? (source : String) : Option Combination :=
  ofTokens? (Token.ofText source)

/-! ## Meaning -/

mutual

/-- Whether the demand is met, given which fields are set. -/
def holds (isSet : String → Bool) : Combination → Bool
  | field name => isSet name
  | all operands => holdsAll isSet operands
  | any operands => holdsAny isSet operands

/-- Whether all of some demands are met. -/
def holdsAll (isSet : String → Bool) : List Combination → Bool
  | [] => true
  | operand :: rest => holds isSet operand && holdsAll isSet rest

/-- Whether one of some demands is met. -/
def holdsAny (isSet : String → Bool) : List Combination → Bool
  | [] => false
  | operand :: rest => holds isSet operand || holdsAny isSet rest

end

mutual

/-- The names of the fields in the order in which they are written. -/
def names : Combination → List String
  | field name => [name]
  | all operands => namesOf operands
  | any operands => namesOf operands

/-- The names in some combinations. -/
def namesOf : List Combination → List String
  | [] => []
  | operand :: rest => names operand ++ namesOf rest

end

end Combination

end MessageConstraints
