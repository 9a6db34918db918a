import MessageConstraints.Pattern.Search
import MessageConstraints.Pattern.Syntax

/-!
# The meaning of patterns

From the syntax tree of a pattern to its matcher.  Flags hold from where they are set to the end
of the group around them.  With Unicode turned off the classes are those of ASCII, and an
expression that could match less than a whole character has no meaning; neither has a class that
the Unicode standard does not name.
-/

namespace MessageConstraints

namespace Pattern

/-- The switches in force at a place of a pattern. -/
structure Mode where
  caseInsensitive : Bool
  multiLine : Bool
  dotMatchesNewline : Bool
  unicode : Bool
  crlf : Bool
  ignoreBlanks : Bool
  swapGreed : Bool
deriving Repr, DecidableEq

namespace Mode

/-- Unicode on, all else off. -/
def default : Mode := ⟨false, false, false, true, false, false, false⟩

/-- The mode with one switch turned on or off. -/
def set (mode : Mode) (change : Flag × Bool) : Mode :=
  match change with
  | (.caseInsensitive, on) => { mode with caseInsensitive := on }
  | (.multiLine, on) => { mode with multiLine := on }
  | (.dotMatchesNewline, on) => { mode with dotMatchesNewline := on }
  | (.unicode, on) => { mode with unicode := on }
  | (.crlf, on) => { mode with crlf := on }
  | (.ignoreBlanks, on) => { mode with ignoreBlanks := on }
  | (.swapGreed, on) => { mode with swapGreed := on }

/-- The mode after some changes. -/
def apply (mode : Mode) (changes : FlagChanges) : Mode :=
  changes.foldl set mode

/-- A set with the members that differ only in case, if case does not count. -/
def fold (mode : Mode) (set : CharSet) : CharSet :=
  if !mode.caseInsensitive then set
  else if mode.unicode then Unicode.foldCase set
  else
    let partners := (List.range 26).flatMap fun i =>
      if set.holds (65 + i) || set.holds (97 + i) then [(65 + i, 65 + i), (97 + i, 97 + i)] else []
    CharSet.ofRanges (set.ranges ++ partners)

/-- The members of the universe that are not in a set; without Unicode the universe is bytes. -/
def complement (mode : Mode) (set : CharSet) : CharSet :=
  if mode.unicode then set.complement else set.complement.intersection (.range 0 255)

/-- A set as it may stand in a pattern: without Unicode it may not reach beyond ASCII. -/
def whole? (mode : Mode) (set : CharSet) : Option CharSet :=
  if mode.unicode || set.isAscii then some set else none

/-- A set folded, negated if asked for, and checked. -/
def finish? (mode : Mode) (negated : Bool) (set : CharSet) : Option CharSet :=
  let folded := mode.fold set
  mode.whole? (if negated then mode.complement folded else folded)

end Mode

/-! ## Sets -/

/-- The members of a class that is named between `[:` and `:]`. -/
def BracketName.set : BracketName → CharSet
  | alnum => .ofRanges [(48, 57), (65, 90), (97, 122)]
  | alpha => .ofRanges [(65, 90), (97, 122)]
  | ascii => .range 0 127
  | blank => .ofRanges [(9, 9), (32, 32)]
  | cntrl => .ofRanges [(0, 31), (127, 127)]
  | digit => .range 48 57
  | graph => .range 33 126
  | lower => .range 97 122
  | print => .range 32 126
  | punct => .ofRanges [(33, 47), (58, 64), (91, 96), (123, 126)]
  | space => .ofRanges [(9, 13), (32, 32)]
  | upper => .range 65 90
  | word => asciiWordChars
  | xdigit => .ofRanges [(48, 57), (65, 70), (97, 102)]

/-- The members of a class with a one-letter escape. -/
def LetterClass.set (unicode : Bool) : LetterClass → CharSet
  | digit => if unicode then Unicode.digits else .range 48 57
  | blank => if unicode then Unicode.blanks else .ofRanges [(9, 13), (32, 32)]
  | word => wordSet unicode

/-- The members of a class of the Unicode standard. -/
def ClassName.set? : ClassName → Option CharSet
  | .alone name => Unicode.class? name
  | .value property name => Unicode.classOf? property name

/-- A class with a one-letter escape, in a given mode. -/
def letterSet? (mode : Mode) (negated : Bool) (name : LetterClass) : Option CharSet :=
  let set := name.set mode.unicode
  mode.whole? (if negated then mode.complement set else set)

/-- A class of the Unicode standard, in a given mode. -/
def namedSet? (mode : Mode) (negated : Bool) (name : ClassName) : Option CharSet :=
  if mode.unicode then name.set?.bind (mode.finish? negated) else none

/-- The code point of a literal inside brackets; without Unicode only those of ASCII. -/
def literalCode? (mode : Mode) (c : Literal) : Option Nat :=
  if mode.unicode || c.char.toNat < 128 then some c.char.toNat else none

/-- What an operation makes of two sets. -/
def SetOperation.apply : SetOperation → CharSet → CharSet → CharSet
  | intersection => CharSet.intersection
  | difference => CharSet.difference
  | symmetricDifference => CharSet.symmetricDifference

mutual

/-- The members of a set. -/
def setOf? (mode : Mode) : SetSyntax → Option CharSet
  | .empty => some .empty
  | .literal c => (literalCode? mode c).map fun n => .range n n
  | .range low high => do some (.range (← literalCode? mode low) (← literalCode? mode high))
  | .bracketName negated name => mode.finish? negated name.set
  | .letterClass negated name => letterSet? mode negated name
  | .namedClass negated name => namedSet? mode negated name
  | .bracket negated inner => do
    mode.finish? negated (CharSet.empty.union (← setOf? mode inner))
  | .union items => setOfAny? mode .empty items
  | .operation kind left right => do
    let left := mode.fold (CharSet.empty.union (← setOf? mode left))
    let right := mode.fold (CharSet.empty.union (← setOf? mode right))
    some (kind.apply left right)

/-- The members of a set and of any of some others. -/
def setOfAny? (mode : Mode) (members : CharSet) : List SetSyntax → Option CharSet
  | [] => some members
  | item :: rest => do setOfAny? mode (members.union (← setOf? mode item)) rest

end

/-! ## Expressions -/

/-- The matcher of a literal; case counts for characters that have no other one. -/
def literalMatcher? (mode : Mode) (c : Literal) : Option Matcher :=
  if !mode.unicode && 128 ≤ c.char.toNat then
    if c.isByte then none else some (.literal [c.char])
  else some (.ofSet (mode.fold (.single c.char)) (!mode.unicode))

/-- The characters that a dot matches. -/
def dotSet? (mode : Mode) : Option CharSet :=
  if !mode.unicode then none
  else if mode.dotMatchesNewline then some .full
  else if mode.crlf then some (CharSet.ofRanges [(10, 10), (13, 13)]).complement
  else some (CharSet.single '\n').complement

/-- The condition that an anchor stands for. -/
def placeOf (mode : Mode) : Anchor → Place
  | .lineStart =>
    if !mode.multiLine then .textStart else if mode.crlf then .crlfLineStart else .lineStart
  | .lineEnd => if !mode.multiLine then .textEnd else if mode.crlf then .crlfLineEnd else .lineEnd
  | .textStart => .textStart
  | .textEnd => .textEnd
  | .wordBoundary => .wordBoundary mode.unicode
  | .notWordBoundary => .notWordBoundary mode.unicode
  | .wordStart => .wordStart mode.unicode
  | .wordEnd => .wordEnd mode.unicode
  | .wordStartHalf => .wordStartHalf mode.unicode
  | .wordEndHalf => .wordEndHalf mode.unicode

mutual

/-- The matcher of an expression, and the mode that holds after it. -/
def matcherOf? (mode : Mode) : Syntax → Option (Matcher × Mode)
  | .empty => some (.empty, mode)
  | .flags changes => some (.empty, mode.apply changes)
  | .literal c => (literalMatcher? mode c).map fun m => (m, mode)
  | .dot => (dotSet? mode).map fun set => (.ofSet set false, mode)
  | .anchor kind => some (.place (placeOf mode kind), mode)
  | .letterClass negated name =>
    (letterSet? mode negated name).map fun set => (.ofSet set (!mode.unicode), mode)
  | .namedClass negated name =>
    (namedSet? mode negated name).map fun set => (.ofSet set false, mode)
  | .set negated inner => do
    let set ← mode.finish? negated (CharSet.empty.union (← setOf? mode inner))
    some (.ofSet set (!mode.unicode), mode)
  | .repetition min max isLazy inner => do
    let (inner, mode) ← matcherOf? mode inner
    some (.repeated min max (isLazy != mode.swapGreed) inner, mode)
  | .group changes isCapture inner => do
    let (inner, _) ← matcherOf? (mode.apply changes) inner
    some (if isCapture then .capture inner else inner, mode)
  | .alternation branches => do
    let (branches, mode) ← matchersOf? mode branches
    some (.ofChoice branches, mode)
  | .concat items => do
    let (items, mode) ← matchersOf? mode items
    some (.ofRow items, mode)

/-- The matchers of some expressions, each in the mode that holds after the one before it. -/
def matchersOf? (mode : Mode) : List Syntax → Option (List Matcher × Mode)
  | [] => some ([], mode)
  | item :: rest => do
    let (first, mode) ← matcherOf? mode item
    let (others, mode) ← matchersOf? mode rest
    some (first :: others, mode)

end

end Pattern

end MessageConstraints
