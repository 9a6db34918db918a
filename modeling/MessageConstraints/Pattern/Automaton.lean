import MessageConstraints.Pattern.LiteralTree
import MessageConstraints.Pattern.Matcher
import MessageConstraints.Unicode.Utf8Range

/-!
# The size of a pattern

A pattern is refused if it is too large, and its size is that of the automata that read its texts
byte by byte, one forward and one backward, with every repetition written out.  The automata are
not run here, only counted: a state takes 32 bytes, and what it holds on top of that is 8 bytes for
each range of bytes of a state with several of them and 4 bytes for each way on of a fork.

Sets of characters beyond ASCII share states where they have byte ranges in common.  Forward, the
states for a set are looked up by all their ways on; backward, by a single range and the state
after it.  Either look-up has a fixed number of places and keeps the newest entry of each, so how
much is shared depends on the numbers of the states, which are given in the order of building.
-/

namespace MessageConstraints

namespace Pattern

open Unicode (ByteRange)

/-- An automaton that is being built: the number of its states, and the bytes of what they hold. -/
structure Automaton where
  states : Nat
  held : Nat
deriving Repr, DecidableEq

namespace Automaton

/-- The automaton without states. -/
def empty : Automaton := ⟨0, 0⟩

/-- The bytes that an automaton takes. -/
def bytes (a : Automaton) : Nat := 32 * a.states + a.held

/-- The number of bytes that an automaton may take. -/
def maxBytes : Nat := 10 <<< 20

/-- Adds states and bytes held; none if the automaton becomes too large. -/
def grow? (a : Automaton) (states held : Nat) : Option Automaton :=
  let grown : Automaton := ⟨a.states + states, a.held + held⟩
  if grown.bytes ≤ maxBytes then some grown else none

/-- The bytes of a way on of a fork. -/
def wayBytes : Nat := 4

/-- The bytes of the ranges of a state, each with a way on. -/
def rangeBytes (count : Nat) : Nat := 8 * count

end Automaton

/-- A part of an automaton that has been built, and whether it ends in a fork, to which going on
adds another way. -/
abbrev Part := Automaton × Bool

namespace Part

/-- Goes on from the end of a part. -/
def leave? (part : Part) : Option Automaton :=
  if part.2 then part.1.grow? 0 Automaton.wayBytes else some part.1

end Part

namespace Automaton

/-- Adds states at the end of which there is one way on. -/
def straight? (a : Automaton) (states held : Nat) : Option Part :=
  (a.grow? states held).map fun a => (a, false)

/-! ## Sets of characters -/

/-- Takes a number into a hash. -/
def hashWith (hash : UInt64) (n : Nat) : UInt64 :=
  (hash ^^^ n.toUInt64) * 1099511628211

/-- The hash of nothing. -/
def emptyHash : UInt64 := 14695981039346656037

/-- A range of bytes and the state after it. -/
structure Way where
  range : ByteRange
  next : Nat
deriving Repr, DecidableEq

/-- A look-up of states by what they hold. -/
structure StateTable where
  places : Array (Option (List Way × Nat))

namespace StateTable

/-- A table with a number of places. -/
def empty (size : Nat) : StateTable := ⟨Array.replicate size none⟩

/-- The place of some ways on. -/
def place (table : StateTable) (hash : UInt64) : Nat :=
  (hash % table.places.size.toUInt64).toNat

/-- The state with some ways on, if the place holds it. -/
def find? (table : StateTable) (place : Nat) (ways : List Way) : Option Nat :=
  match table.places[place]? with
  | some (some (held, state)) => if held = ways then some state else none
  | _ => none

/-- Puts a state into a place. -/
def put (table : StateTable) (place : Nat) (ways : List Way) (state : Nat) : StateTable :=
  ⟨table.places.setIfInBounds place (some (ways, state))⟩

end StateTable

/-- The hash of the ways on of a forward state. -/
def forwardHash (ways : List Way) : UInt64 :=
  ways.foldl (fun hash way =>
    hashWith (hashWith (hashWith hash way.range.low) way.range.high) way.next) emptyHash

/-- The hash of the single way on of a backward state. -/
def backwardHash (way : Way) : UInt64 :=
  hashWith (hashWith (hashWith emptyHash way.next) way.range.low) way.range.high

/-- The state with some ways on, a new one if the table does not know it. -/
def forwardState? (a : Automaton) (table : StateTable) (ways : List Way) :
    Option (Automaton × StateTable × Nat) :=
  let place := table.place (forwardHash ways)
  match table.find? place ways with
  | some state => some (a, table, state)
  | none =>
    (a.grow? 1 (rangeBytes ways.length)).map fun grown =>
      (grown, table.put place ways a.states, a.states)

/-- Puts rows that begin alike together: their first range with the rests of the rows. -/
def groupRows : List (List ByteRange) → List (ByteRange × List (List ByteRange))
  | [] => []
  | [] :: rows => groupRows rows
  | (range :: row) :: rows =>
    match groupRows rows with
    | (next, others) :: groups =>
      if next = range then (range, row :: others) :: groups
      else (range, [row]) :: (next, others) :: groups
    | [] => [(range, [row])]

/-- The state from which rows of at most `length` ranges lead to a target.  What follows a range
is built before what follows the next one, and both before the state itself. -/
def forwardRows? (target : Nat) : (length : Nat) → List (List ByteRange) → Automaton →
    StateTable → Option (Automaton × StateTable × Nat)
  | 0, _, a, table => some (a, table, target)
  | length + 1, rows, a, table =>
    let step := fun (built : Automaton × StateTable × List Way)
        (group : ByteRange × List (List ByteRange)) =>
      let (a, table, ways) := built
      let next :=
        if group.2.all List.isEmpty then some (a, table, target)
        else forwardRows? target length group.2 a table
      next.map fun (a, table, state) => (a, table, ⟨group.1, state⟩ :: ways)
    match (groupRows rows).foldlM step (a, table, []) with
    | some (a, table, ways) => forwardState? a table ways.reverse
    | none => none

/-- The number of places of the forward look-up. -/
def forwardPlaces : Nat := 10000

/-- The number of places of the backward look-up. -/
def backwardPlaces : Nat := 1000

/-- A set of characters, read forward. -/
def forwardSet? (a : Automaton) (rows : List (List ByteRange)) : Option Part :=
  match a.grow? 1 0 with
  | none => none
  | some grown =>
    (forwardRows? a.states 4 rows grown (.empty forwardPlaces)).map fun (a, _, _) => (a, false)

/-- The state from which a row of ranges leads, read backward, to a given one. -/
def backwardRow? : List ByteRange → Automaton → StateTable → Nat →
    Option (Automaton × StateTable)
  | [], a, table, _ => some (a, table)
  | range :: row, a, table, next =>
    let way : Way := ⟨range, next⟩
    let place := table.place (backwardHash way)
    match table.find? place [way] with
    | some state => backwardRow? row a table state
    | none =>
      match a.grow? 1 0 with
      | some grown => backwardRow? row grown (table.put place [way] a.states) a.states
      | none => none

/-- A set of characters, read backward: a fork with a way on for every row. -/
def backwardSet? (a : Automaton) (rows : List (List ByteRange)) : Option Part := do
  let grown ← a.grow? 2 (wayBytes * rows.length)
  let (a, _) ← rows.foldlM
    (fun (built : Automaton × StateTable) row =>
      backwardRow? row built.1 built.2 (a.states + 1))
    (grown, .empty backwardPlaces)
  some (a, false)

/-- A set of characters.  One of ASCII takes a single state with all ranges. -/
def set? (backward : Bool) (a : Automaton) (set : CharSet) : Option Part :=
  if set.isAscii then a.straight? 2 (rangeBytes set.ranges.length)
  else if backward then a.backwardSet? (Unicode.utf8Rows set)
  else a.forwardSet? (Unicode.utf8Rows set)

/-! ## Literals -/

/-- The bytes of a literal in the order in which they are read. -/
def literalBytes (backward : Bool) (text : List Char) : List Nat :=
  let bytes := text.flatMap fun c => Unicode.charBytes c.toNat
  if backward then bytes.reverse else bytes

/-- The branches of a tree that stand between two marks take a state, with ranges if there are
several of them. -/
def branchesSize (branches : Nat) : Automaton :=
  if branches = 0 then empty
  else if branches = 1 then ⟨1, 0⟩
  else ⟨1, rangeBytes branches⟩

/-- The size of two automata together. -/
def add (a b : Automaton) : Automaton := ⟨a.states + b.states, a.held + b.held⟩

/-- What a tree of literals takes, given how many branches have come since the last mark and how
many ways on its fork has before that. -/
def treeSize (branches ways : Nat) : LiteralTree → Automaton
  | .done => (branchesSize branches).add ⟨1, wayBytes * (ways + min branches 1)⟩
  | .mark rest => (branchesSize branches).add (treeSize 0 (ways + min branches 1 + 1) rest)
  | .branch _ child rest =>
    let below := if child.hasBranch then treeSize 0 0 child else empty
    below.add (treeSize (branches + 1) ways rest)

/-- A choice of literals. -/
def literals? (backward : Bool) (a : Automaton) (texts : List (List Char)) : Option Part :=
  let tree := LiteralTree.ofLiterals (texts.map (literalBytes backward))
  let size := treeSize 0 0 tree
  a.straight? (size.states + 1) size.held

/-- The texts of some expressions if all are literals. -/
def literalTexts? (branches : List Matcher) : Option (List (List Char)) :=
  branches.mapM fun branch =>
    match branch with
    | .literal text => some text
    | _ => none

/-! ## Expressions -/

/-- Builds a part after what is there; `before` is absent where nothing comes before it. -/
def after? (build : Automaton → Option Part) (before : Option Part) (a : Automaton) :
    Option Part :=
  match before with
  | none => build a
  | some part => part.leave?.bind build

/-- Builds a part so many times over, each after the other. -/
def times? (build : Automaton → Option Part) : Nat → Part → Option Part
  | 0, part => some part
  | count + 1, part => (part.leave?.bind build).bind (times? build count)

/-- Builds a part exactly so many times; not at all takes a state that does nothing. -/
def exactly? (build : Automaton → Option Part) (count : Nat) (a : Automaton) : Option Part :=
  match count with
  | 0 => a.straight? 1 0
  | count + 1 => (build a).bind (times? build count)

/-- Builds a part so many times over, before each of them a fork that may leave them all out. -/
def optionally? (build : Automaton → Option Part) : Nat → Part → Option Part
  | 0, part => some part
  | count + 1, part => do
    let a ← part.leave?
    let part ← build (← a.grow? 1 (2 * wayBytes))
    optionally? build count part

/-- A repetition of a part, which matches at least one byte or may match none. -/
def repetition? (min : Nat) (max : Option Nat) (takesBytes : Bool)
    (build : Automaton → Option Part) (a : Automaton) : Option Part := do
  match max with
  | some max =>
    if min = 0 ∧ max = 1 then
      let part ← build (← a.grow? 1 (2 * wayBytes))
      (← part.leave?).straight? 1 0
    else if min = max then exactly? build min a
    else
      let (front, isFork) ← exactly? build min a
      let part ← optionally? build (max - min) (← front.grow? 1 0, isFork)
      some (← part.leave?, false)
  | none =>
    if 0 < min then
      let front ←
        if min = 1 then build a
        else
          let front ← exactly? build (min - 1) a
          build (← front.leave?)
      some (← (← front.leave?).grow? 1 wayBytes, true)
    else if takesBytes then
      let part ← build (← a.grow? 1 wayBytes)
      some (← part.leave?, true)
    else
      let part ← build a
      (← part.leave?).straight? 3 (4 * wayBytes)

mutual

/-- Adds an expression, read in one direction.  Only the forward automaton takes down what groups
match, for which it has a state at either end. -/
def add? (backward : Bool) : Matcher → Automaton → Option Part
  | .empty, a => a.straight? 1 0
  | .literal text, a => a.straight? (Matcher.literalLength text) 0
  | .chars set _, a => a.set? backward set
  | .place _, a => a.straight? 1 0
  | .repetition min max _ inner, a =>
    a.repetition? min max (inner.minLength?.any (0 < ·)) (add? backward inner)
  | .capture inner, a =>
    if backward then add? backward inner a
    else do
      let part ← add? backward inner (← a.grow? 1 0)
      (← part.leave?).straight? 1 0
  | .row items, a => (addRow? backward items none a)
  | .choice branches, a =>
    match literalTexts? branches with
    | some texts => a.literals? backward texts
    | none => addChoice? backward 0 branches a

/-- Adds expressions one after the other, the last one first if they are read backward. -/
def addRow? (backward : Bool) : List Matcher → Option Part → Automaton → Option Part
  | [], before, a => some (before.getD (a, false))
  | item :: rest, before, a =>
    if backward then
      match rest with
      | [] => after? (add? backward item) before a
      | _ :: _ => (addRow? backward rest before a).bind fun part =>
        after? (add? backward item) (some part) a
    else
      (after? (add? backward item) before a).bind fun part =>
        addRow? backward rest (some part) a

/-- Adds branches: a fork with a way to each of them, and a state where they meet.  Both are built
once there are two branches; `done` counts the branches that have been added before. -/
def addChoice? (backward : Bool) : (done : Nat) → List Matcher → Automaton → Option Part
  | _, [], a => some (a, false)
  | done, branch :: rest, a => do
    let part ← add? backward branch a
    let joined ← (← part.leave?).grow? 0 wayBytes
    addChoice? backward (done + 1) rest (← joined.grow? (if done = 1 then 2 else 0) 0)

end

/-! ## The whole pattern -/

/-- The automaton of a pattern, read in one direction; none if it is too large.  Unless all
matches begin at the end of the text where reading starts, bytes may be passed over before. -/
def ofMatcher? (backward : Bool) (m : Matcher) : Option Automaton := do
  let isAnchored := if backward then m.endsWith .textEnd else m.beginsWith .textStart
  let start ←
    if isAnchored then empty.grow? 1 0 else empty.grow? 3 (2 * wayBytes + rangeBytes 1)
  let part ← add? backward (.capture m) start
  (← part.leave?).grow? 1 0

end Automaton

/-- Whether the automata of a pattern are small enough. -/
def Matcher.fits (m : Matcher) : Bool :=
  (Automaton.ofMatcher? false m).isSome && (Automaton.ofMatcher? true m).isSome

end Pattern

end MessageConstraints
