import MessageConstraints.Unicode.Classes

/-!
# Regular expressions over sets of characters

A matcher is a regular expression whose characters are sets and whose anchors are conditions on
the characters at their two sides: flags, named classes and case folding have been worked out.

Matchers are kept in a normal form, which the functions that put them together see to.  A row has
no row in it and no two literals side by side, a choice has no choice in it and is not only of
characters, its branches do not all begin alike, and what can only match the empty text is not
repeated.  The size of a pattern is that of its normal form.
-/

namespace MessageConstraints

namespace Pattern

/-- A condition on a place.  Word characters are those of all scripts, or the ASCII ones. -/
inductive Place where
  | textStart
  | textEnd
  | lineStart
  | lineEnd
  | crlfLineStart
  | crlfLineEnd
  | wordBoundary (unicode : Bool)
  | notWordBoundary (unicode : Bool)
  | wordStart (unicode : Bool)
  | wordEnd (unicode : Bool)
  | wordStartHalf (unicode : Bool)
  | wordEndHalf (unicode : Bool)
deriving Repr, DecidableEq

/-- A regular expression over sets of characters.  Whether a set was written as one of bytes, and
whether a repetition prefers few rounds, tells expressions apart but not what they match. -/
inductive Matcher where
  | empty
  | literal (text : List Char)
  | chars (set : CharSet) (ofBytes : Bool)
  | place (kind : Place)
  | repetition (min : Nat) (max : Option Nat) (isLazy : Bool) (inner : Matcher)
  | capture (inner : Matcher)
  | row (items : List Matcher)
  | choice (branches : List Matcher)
deriving Repr

namespace Matcher

/-! ## Lengths -/

/-- How many bytes the shortest and the longest character of a set take; none if it is empty. -/
def charLengths? (set : CharSet) : Option (Nat × Nat) :=
  match set.ranges.head?, set.ranges.getLast? with
  | some first, some last =>
    some ((Char.ofNat first.1).utf8Size, (Char.ofNat last.2).utf8Size)
  | _, _ => none

/-- How many bytes a literal takes. -/
def literalLength (text : List Char) : Nat :=
  text.foldl (fun total c => total + c.utf8Size) 0

mutual

/-- A lower bound of the number of bytes matched; none if part of the expression matches nothing. -/
def minLength? : Matcher → Option Nat
  | empty => some 0
  | literal text => some (literalLength text)
  | chars set _ => (charLengths? set).map (·.1)
  | place _ => some 0
  | repetition min _ _ inner => (minLength? inner).map (· * min)
  | capture inner => minLength? inner
  | row items => minLengthOfRow? items
  | choice branches => minLengthOfChoice? branches

/-- The lower bound of a row. -/
def minLengthOfRow? : List Matcher → Option Nat
  | [] => some 0
  | item :: rest =>
    match minLength? item, minLengthOfRow? rest with
    | some first, some others => some (first + others)
    | _, _ => none

/-- The lower bound of a choice. -/
def minLengthOfChoice? : List Matcher → Option Nat
  | [] => none
  | [branch] => minLength? branch
  | branch :: rest =>
    match minLength? branch, minLengthOfChoice? rest with
    | some first, some others => some (min first others)
    | _, _ => none

end

mutual

/-- An upper bound of the number of bytes matched; none if there is none, or if part of the
expression matches nothing. -/
def maxLength? : Matcher → Option Nat
  | empty => some 0
  | literal text => some (literalLength text)
  | chars set _ => (charLengths? set).map (·.2)
  | place _ => some 0
  | repetition _ max _ inner =>
    match max, maxLength? inner with
    | some max, some length => some (length * max)
    | _, _ => none
  | capture inner => maxLength? inner
  | row items => maxLengthOfRow? items
  | choice branches => maxLengthOfChoice? branches

/-- The upper bound of a row. -/
def maxLengthOfRow? : List Matcher → Option Nat
  | [] => some 0
  | item :: rest =>
    match maxLength? item, maxLengthOfRow? rest with
    | some first, some others => some (first + others)
    | _, _ => none

/-- The upper bound of a choice. -/
def maxLengthOfChoice? : List Matcher → Option Nat
  | [] => none
  | [branch] => maxLength? branch
  | branch :: rest =>
    match maxLength? branch, maxLengthOfChoice? rest with
    | some first, some others => some (max first others)
    | _, _ => none

end

/-- Whether an expression can only match the empty text. -/
def isHollow (m : Matcher) : Bool := m.maxLength? == some 0

mutual

/-- Whether every match has to begin with a condition of a kind, as far as the form shows. -/
def beginsWith (kind : Place) : Matcher → Bool
  | place other => kind == other
  | repetition min _ _ inner => min != 0 && beginsWith kind inner
  | capture inner => beginsWith kind inner
  | row items => rowBeginsWith kind items
  | choice branches => allBeginWith kind branches
  | _ => false

/-- Whether one of the items of a row begins with a condition of a kind, up to the first that can
match more than the empty text. -/
def rowBeginsWith (kind : Place) : List Matcher → Bool
  | [] => false
  | item :: rest => beginsWith kind item || (item.isHollow && rowBeginsWith kind rest)

/-- Whether all branches begin with a condition of a kind. -/
def allBeginWith (kind : Place) : List Matcher → Bool
  | [] => true
  | branch :: rest => beginsWith kind branch && allBeginWith kind rest

end

mutual

/-- Whether every match has to end with a condition of a kind, as far as the form shows. -/
def endsWith (kind : Place) : Matcher → Bool
  | place other => kind == other
  | repetition min _ _ inner => min != 0 && endsWith kind inner
  | capture inner => endsWith kind inner
  | row items => rowEndsWith kind items
  | choice branches => allEndWith kind branches
  | _ => false

/-- Whether one of the items of a row ends with a condition of a kind, where all items after it
can only match the empty text. -/
def rowEndsWith (kind : Place) : List Matcher → Bool
  | [] => false
  | item :: rest =>
    rowEndsWith kind rest || (rest.all isHollow && endsWith kind item)

/-- Whether all branches end with a condition of a kind. -/
def allEndWith (kind : Place) : List Matcher → Bool
  | [] => true
  | branch :: rest => endsWith kind branch && allEndWith kind rest

end

/-! ## Equal forms -/

mutual

/-- Whether two expressions have the same form.  No two groups that take down what they match are
the same, since each has a number of its own. -/
def same : Matcher → Matcher → Bool
  | empty, empty => true
  | literal a, literal b => a == b
  | chars a ofBytes, chars b ofBytes' => a == b && ofBytes == ofBytes'
  | place a, place b => a == b
  | repetition min max isLazy inner, repetition min' max' isLazy' inner' =>
    min == min' && max == max' && isLazy == isLazy' && same inner inner'
  | row items, row items' => allSame items items'
  | choice branches, choice branches' => allSame branches branches'
  | _, _ => false

/-- Whether two lists of expressions have the same forms one by one. -/
def allSame : List Matcher → List Matcher → Bool
  | [], [] => true
  | a :: rest, b :: rest' => same a b && allSame rest rest'
  | _, _ => false

end

/-- The part that two lists of expressions have in common at their beginning. -/
def commonFront : List Matcher → List Matcher → List Matcher
  | a :: rest, b :: rest' => if same a b then a :: commonFront rest rest' else []
  | _, _ => []

/-! ## Putting expressions together -/

/-- What matches nothing. -/
def fail : Matcher := chars .empty true

/-- A set of characters; a single one is a literal. -/
def ofSet (set : CharSet) (ofBytes : Bool) : Matcher :=
  match set.ranges with
  | [] => fail
  | [(low, high)] => if low = high then literal [Char.ofNat low] else chars set ofBytes
  | _ => chars set ofBytes

/-- A repetition.  What can only match the empty text need not match it more than once. -/
def repeated (min : Nat) (max : Option Nat) (isLazy : Bool) (inner : Matcher) : Matcher :=
  let (min, max) :=
    if inner.isHollow then (Nat.min min 1, some (Nat.min (max.getD 1) 1)) else (min, max)
  if min = 0 ∧ max = some 0 then empty
  else if min = 1 ∧ max = some 1 then inner
  else repetition min max isLazy inner

/-- The items of a row in another row. -/
def rowItems : Matcher → List Matcher
  | empty => []
  | row items => items
  | m => [m]

/-- Makes one literal of those that stand side by side. -/
def joinLiterals : List Matcher → List Matcher
  | [] => []
  | literal text :: rest =>
    match joinLiterals rest with
    | literal more :: rest => literal (text ++ more) :: rest
    | rest => literal text :: rest
  | m :: rest => m :: joinLiterals rest

/-- Expressions one after the other. -/
def ofRow (items : List Matcher) : Matcher :=
  match joinLiterals (items.flatMap rowItems) with
  | [] => empty
  | [item] => item
  | items => row items

/-- The branches of a choice in another choice. -/
def choiceBranches : Matcher → List Matcher
  | choice branches => branches
  | m => [m]

/-- The character of a literal of one character. -/
def singleChar? : Matcher → Option Char
  | literal [c] => some c
  | _ => none

/-- The set of an expression that is one. -/
def set? : Matcher → Option CharSet
  | chars set _ => some set
  | _ => none

/-- The set that some branches make up, if all of them are single characters or all are sets. -/
def choiceSet? (branches : List Matcher) : Option CharSet :=
  match branches.mapM singleChar? with
  | some cs => some (.ofRanges (cs.map fun c => (c.toNat, c.toNat)))
  | none =>
    (branches.mapM set?).map fun sets => .ofRanges (sets.flatMap CharSet.ranges)

/-- The items of an expression that is a row. -/
def row? : Matcher → Option (List Matcher)
  | row items => some items
  | _ => none

/-- The items with which all of some branches begin; none if one is no row. -/
def sharedFront (branches : List Matcher) : List Matcher :=
  match branches.mapM row? with
  | some (first :: rest) => rest.foldl commonFront first
  | _ => []

mutual

/-- How many parts an expression has, itself included. -/
def parts : Matcher → Nat
  | repetition _ _ _ inner => parts inner + 1
  | capture inner => parts inner + 1
  | row items => partsOfAll items + 1
  | choice branches => partsOfAll branches + 1
  | _ => 1

/-- How many parts some expressions have. -/
def partsOfAll : List Matcher → Nat
  | [] => 0
  | m :: rest => parts m + partsOfAll rest

end

/-- Expressions to choose from.  Each round takes a part off every branch, so `rounds` is enough
if it is not smaller than the number of parts. -/
def ofChoiceIn : (rounds : Nat) → List Matcher → Matcher
  | 0, branches => choice branches
  | rounds + 1, branches =>
    match branches.flatMap choiceBranches with
    | [] => fail
    | [branch] => branch
    | branches =>
      match choiceSet? branches with
      | some set => ofSet set false
      | none =>
        match sharedFront branches with
        | [] => choice branches
        | front =>
          let rests := branches.map fun branch => ofRow ((rowItems branch).drop front.length)
          ofRow (front ++ [ofChoiceIn rounds rests])

/-- Expressions to choose from. -/
def ofChoice (branches : List Matcher) : Matcher :=
  ofChoiceIn (partsOfAll branches) branches

end Matcher

end Pattern

end MessageConstraints
