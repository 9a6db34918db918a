import MessageConstraints.Pattern.Matcher

/-!
# Searching a text

Matching works on sets of places.  A place is a position between two characters of the text, and a
set of places is the natural number with those bits.  A matcher takes the places where a match may
start to the places where it may end: a character set keeps the places before one of its members
and moves them by one, an anchor keeps the places that it allows, a repetition goes on until no
place is new.  The pattern is found in the text if a match that may start anywhere ends somewhere.
-/

namespace MessageConstraints

namespace Pattern

/-! ## Places -/

/-- The ASCII characters of words. -/
def asciiWordChars : CharSet :=
  .ofRanges [(48, 57), (65, 90), (95, 95), (97, 122)]

/-- The characters of words in either sense. -/
def wordSet (unicode : Bool) : CharSet :=
  if unicode then Unicode.wordChars else asciiWordChars

/-- The set of word characters that a condition looks at; none if it looks at none. -/
def Place.words : Place → CharSet
  | wordBoundary u => wordSet u
  | notWordBoundary u => wordSet u
  | wordStart u => wordSet u
  | wordEnd u => wordSet u
  | wordStartHalf u => wordSet u
  | wordEndHalf u => wordSet u
  | _ => .empty

/-- Whether a condition holds between two characters, which are none at the ends of the text. -/
def Place.holds (kind : Place) (words : CharSet) (before after : Option Char) : Bool :=
  let isWord := fun (c : Option Char) => c.any words.contains
  match kind with
  | textStart => before.isNone
  | textEnd => after.isNone
  | lineStart => before.isNone || before == some '\n'
  | lineEnd => after.isNone || after == some '\n'
  | crlfLineStart =>
    before.isNone || before == some '\n' || (before == some '\r' && after != some '\n')
  | crlfLineEnd =>
    after.isNone || after == some '\r' || (after == some '\n' && before != some '\r')
  | wordBoundary _ => isWord before != isWord after
  | notWordBoundary _ => isWord before == isWord after
  | wordStart _ => !isWord before && isWord after
  | wordEnd _ => isWord before && !isWord after
  | wordStartHalf _ => !isWord before
  | wordEndHalf _ => !isWord after

/-- The places of a text that a condition allows, the first character of the text coming after
`before`. -/
def placeBits (holds : Option Char → Option Char → Bool) (before : Option Char) :
    List Char → Nat
  | [] => if holds before none then 1 else 0
  | c :: rest => 2 * placeBits holds (some c) rest + if holds before (some c) then 1 else 0

/-- The places of a text that stand before a member of a set. -/
def charBits (set : CharSet) : List Char → Nat
  | [] => 0
  | c :: rest => 2 * charBits set rest + if set.contains c then 1 else 0

/-! ## Tracks -/

/-- A matcher on a given text: its sets and conditions as sets of places. -/
inductive Track where
  | stay
  | stop
  | move (allowed : Nat)
  | keep (allowed : Nat)
  | seq (first second : Track)
  | alt (left right : Track)
  | repetition (min : Nat) (max : Option Nat) (inner : Track)

mutual

/-- A matcher on a text. -/
def Matcher.track (text : List Char) : Matcher → Track
  | .empty => .stay
  | .literal cs => cs.foldr (fun c rest => .seq (.move (charBits (.single c) text)) rest) .stay
  | .chars set _ => .move (charBits set text)
  | .place kind =>
    let words := kind.words
    .keep (placeBits (kind.holds words) none text)
  | .repetition min max _ inner => .repetition min max (Matcher.track text inner)
  | .capture inner => Matcher.track text inner
  | .row items => Matcher.trackOfRow text items
  | .choice branches => Matcher.trackOfChoice text branches

/-- A row on a text. -/
def Matcher.trackOfRow (text : List Char) : List Matcher → Track
  | [] => .stay
  | item :: rest => .seq (Matcher.track text item) (Matcher.trackOfRow text rest)

/-- A choice on a text. -/
def Matcher.trackOfChoice (text : List Char) : List Matcher → Track
  | [] => .stop
  | branch :: rest => .alt (Matcher.track text branch) (Matcher.trackOfChoice text rest)

end

/-! ## Matching -/

/-- The places after exactly so many steps.  Once a step changes nothing, no later one does. -/
def stepTimes (step : Nat → Nat) : Nat → Nat → Nat
  | 0, places => places
  | count + 1, places =>
    let next := step places
    if next = places then places else stepTimes step count next

/-- The places after at most so many steps: `frontier` holds those that were new in the last one. -/
def stepUpTo (step : Nat → Nat) : Nat → Nat → Nat → Nat
  | 0, reached, _ => reached
  | count + 1, reached, frontier =>
    let next := step frontier
    let new := (next ||| reached) ^^^ reached
    if new = 0 then reached else stepUpTo step count (reached ||| new) new

/-- The places where matches that start at given places end, in a text of a given length. -/
def Track.ends (length : Nat) : Track → Nat → Nat
  | stay, places => places
  | stop, _ => 0
  | move allowed, places => (places &&& allowed) <<< 1
  | keep allowed, places => places &&& allowed
  | seq first second, places => second.ends length (first.ends length places)
  | alt left right, places => left.ends length places ||| right.ends length places
  | repetition min max inner, places =>
    let step := inner.ends length
    let started := stepTimes step min places
    let more := match max with
      | some max => Nat.min (max - min) (length + 1)
      | none => length + 1
    stepUpTo step more started started

/-- Whether a match is found somewhere in a text. -/
def Matcher.isFoundIn (m : Matcher) (text : List Char) : Bool :=
  let everywhere := 1 <<< (text.length + 1) - 1
  (m.track text).ends text.length everywhere != 0

end Pattern

end MessageConstraints
