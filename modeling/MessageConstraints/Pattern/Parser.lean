import MessageConstraints.Pattern.Syntax
import MessageConstraints.Text.Blank
import MessageConstraints.Text.Split
import MessageConstraints.Unicode.Latest

/-!
# Reading patterns

The notation of regular expressions: literals and escapes, classes in brackets with set
operations, groups with names and flags, anchors, and repetitions.  There is no look-around and
there are no references to groups.  Reading gives a syntax tree, or nothing when the text is no
regular expression.

Where blanks are ignored, blanks and comments may stand between any two parts of an expression;
`skip` passes over them and is called wherever the notation allows them.
-/

namespace MessageConstraints

namespace Pattern

/-! ## Blanks and comments -/

/-- Passes over blanks and over comments, which run from `#` to the end of the line. -/
def skipBlanks (inComment : Bool) : List Char → List Char
  | [] => []
  | c :: rest =>
    if inComment then skipBlanks (c != '\n') rest
    else if Text.isBlank c then skipBlanks false rest
    else if c = '#' then skipBlanks true rest
    else c :: rest

/-- Passes over blanks and comments if they are ignored. -/
def skip (ignore : Bool) (cs : List Char) : List Char :=
  if ignore then skipBlanks false cs else cs

theorem length_skipBlanks_le (inComment : Bool) (cs : List Char) :
    (skipBlanks inComment cs).length ≤ cs.length := by
  induction cs generalizing inComment with
  | nil => simp [skipBlanks]
  | cons c rest ih =>
    simp only [skipBlanks]
    split
    · exact Nat.le_succ_of_le (ih _)
    · split
      · exact Nat.le_succ_of_le (ih _)
      · split
        · exact Nat.le_succ_of_le (ih _)
        · exact Nat.le_refl _

theorem length_skip_le (ignore : Bool) (cs : List Char) :
    (skip ignore cs).length ≤ cs.length := by
  unfold skip
  split
  · exact length_skipBlanks_le _ _
  · exact Nat.le_refl _

/-! ## Escapes -/

/-- A part of an expression that is no group, no set and no repetition. -/
inductive Primitive where
  | literal (c : Literal)
  | dot
  | anchor (kind : Anchor)
  | letterClass (negated : Bool) (name : LetterClass)
  | namedClass (negated : Bool) (name : ClassName)
deriving Repr

/-- The value of a hexadecimal digit. -/
def hexValue? (c : Char) : Option Nat :=
  if c.isDigit then some (c.toNat - 48)
  else if 'a' ≤ c ∧ c ≤ 'f' then some (c.toNat - 87)
  else if 'A' ≤ c ∧ c ≤ 'F' then some (c.toNat - 55)
  else none

/-- The character with a code point, if there is one. -/
def charOf? (n : Nat) : Option Char :=
  if n.isValidChar then some (Char.ofNat n) else none

/-- A number of exactly so many hexadecimal digits. -/
def fixedHex (ignore : Bool) (value : Nat) : Nat → List Char → Option (Nat × List Char)
  | 0, cs => some (value, cs)
  | _ + 1, [] => none
  | count + 1, c :: rest =>
    match hexValue? c with
    | some digit => fixedHex ignore (value * 16 + digit) count (skip ignore rest)
    | none => none

/-- A hexadecimal number up to a close brace, of at least one digit. -/
def bracedHex (ignore : Bool) (value : Option Nat) : List Char → Option (Nat × List Char)
  | [] => none
  | c :: rest =>
    if c = '}' then value.map fun n => (n, skip ignore rest)
    else
      match hexValue? c with
      | some digit => bracedHex ignore (some (value.getD 0 * 16 + digit)) (skip ignore rest)
      | none => none
termination_by cs => cs.length
decreasing_by exact Nat.lt_succ_of_le (length_skip_le _ _)

/-- The text up to a close brace. -/
def bracedName (ignore : Bool) (name : List Char) :
    List Char → Option (List Char × List Char)
  | [] => none
  | c :: rest =>
    if c = '}' then some (name.reverse, rest)
    else bracedName ignore (c :: name) (skip ignore rest)
termination_by cs => cs.length
decreasing_by exact Nat.lt_succ_of_le (length_skip_le _ _)

/-- A character by its number in hexadecimal digits, so many of them or any number in braces. -/
def readHex (ignore : Bool) (digits : Nat) (cs : List Char) : Option (Primitive × List Char) := do
  match skip ignore cs with
  | '{' :: rest =>
    let (n, rest) ← bracedHex ignore none (skip ignore rest)
    some (.literal ⟨← charOf? n, false⟩, rest)
  | rest =>
    let (n, rest) ← fixedHex ignore 0 digits rest
    some (.literal ⟨← charOf? n, digits == 2⟩, rest)

/-- The class named between braces, and whether it is negated there.  A property and its value are
set apart by a colon or an equal sign; an exclamation mark before the equal sign negates. -/
def classNameOf (name : List Char) : Bool × ClassName :=
  let value := fun (parts : List Char × List Char) =>
    ClassName.value (String.ofList parts.1) (String.ofList parts.2)
  match Text.splitOnce? ['!', '='] name, Text.splitOnce? [':'] name, Text.splitOnce? ['='] name with
  | some parts, _, _ => (true, value parts)
  | none, some parts, _ => (false, value parts)
  | none, none, some parts => (false, value parts)
  | none, none, none => (false, .alone (String.ofList name))

/-- A class of the Unicode standard, by one letter or by a name in braces. -/
def readNamedClass (ignore negated : Bool) (cs : List Char) :
    Option (Primitive × List Char) := do
  match skip ignore cs with
  | [] => none
  | '{' :: rest =>
    let (name, rest) ← bracedName ignore [] (skip ignore rest)
    let (isNegatedValue, className) := classNameOf name
    some (.namedClass (negated != isNegatedValue) className, rest)
  | c :: rest =>
    if c = '\\' then none
    else some (.namedClass negated (.alone (String.ofList [c])), skip ignore rest)

/-- Whether a character may be part of the name of a word boundary. -/
def isBoundaryChar (c : Char) : Bool :=
  c.isAlpha || c == '-'

/-- The name of a word boundary up to a close brace. -/
def boundaryName (ignore : Bool) (name : List Char) :
    List Char → Option (List Char × List Char)
  | [] => none
  | c :: rest =>
    if isBoundaryChar c then boundaryName ignore (c :: name) (skip ignore rest)
    else if c = '}' then some (name.reverse, rest)
    else none
termination_by cs => cs.length
decreasing_by exact Nat.lt_succ_of_le (length_skip_le _ _)

/-- What follows the letter of a word boundary.  An open brace before a letter starts the name of
a special boundary, before anything else it is left to be read as a repetition. -/
def readBoundary (ignore : Bool) (cs : List Char) : Option (Primitive × List Char) := do
  match cs with
  | '{' :: rest =>
    match skip ignore rest with
    | [] => none
    | c :: after =>
      if isBoundaryChar c then
        let (name, rest) ← boundaryName ignore [] (c :: after)
        let kind ← match String.ofList name with
          | "start" => some Anchor.wordStart
          | "end" => some .wordEnd
          | "start-half" => some .wordStartHalf
          | "end-half" => some .wordEndHalf
          | _ => none
        some (.anchor kind, rest)
      else some (.anchor .wordBoundary, cs)
  | _ => some (.anchor .wordBoundary, cs)

/-- What follows a backslash.  A backslash before an ASCII character that is no letter, no digit
and no angle bracket only says that the character stands for itself. -/
def readEscape (ignore : Bool) : List Char → Option (Primitive × List Char)
  | [] => none
  | c :: rest =>
    let literal := fun (d : Char) => some (Primitive.literal ⟨d, false⟩, rest)
    let anchor := fun (kind : Anchor) => some (Primitive.anchor kind, rest)
    match c with
    | 'x' => readHex ignore 2 rest
    | 'u' => readHex ignore 4 rest
    | 'U' => readHex ignore 8 rest
    | 'p' => readNamedClass ignore false rest
    | 'P' => readNamedClass ignore true rest
    | 'd' => some (.letterClass false .digit, rest)
    | 'D' => some (.letterClass true .digit, rest)
    | 's' => some (.letterClass false .blank, rest)
    | 'S' => some (.letterClass true .blank, rest)
    | 'w' => some (.letterClass false .word, rest)
    | 'W' => some (.letterClass true .word, rest)
    | 'a' => literal '\x07'
    | 'f' => literal '\x0c'
    | 't' => literal '\t'
    | 'n' => literal '\n'
    | 'r' => literal '\r'
    | 'v' => literal '\x0b'
    | 'A' => anchor .textStart
    | 'z' => anchor .textEnd
    | 'b' => readBoundary ignore rest
    | 'B' => anchor .notWordBoundary
    | '<' => anchor .wordStart
    | '>' => anchor .wordEnd
    | _ => if c.toNat < 128 ∧ !c.isAlphanum then literal c else none

/-! ## Sets in brackets -/

/-- What is unfinished around the items of a set: an open bracket with the items before it, or an
operation that waits for its right side. -/
inductive SetFrame where
  | bracket (outer : List SetSyntax) (negated : Bool)
  | operation (kind : SetOperation) (left : SetSyntax)

/-- The class with a name between `[:` and `:]`. -/
def bracketName? (name : String) : Option BracketName :=
  match name with
  | "alnum" => some .alnum
  | "alpha" => some .alpha
  | "ascii" => some .ascii
  | "blank" => some .blank
  | "cntrl" => some .cntrl
  | "digit" => some .digit
  | "graph" => some .graph
  | "lower" => some .lower
  | "print" => some .print
  | "punct" => some .punct
  | "space" => some .space
  | "upper" => some .upper
  | "word" => some .word
  | "xdigit" => some .xdigit
  | _ => none

/-- A class between `[:` and `:]`, after its first bracket; none if it is something else. -/
def readBracketName (cs : List Char) : Option (SetSyntax × List Char) := do
  let rest ← match cs with
    | ':' :: rest => some rest
    | _ => none
  let (negated, rest) := match rest with
    | '^' :: rest => (true, rest)
    | _ => (false, rest)
  let name ← bracketName? (String.ofList (rest.takeWhile (· != ':')))
  match rest.dropWhile (· != ':') with
  | ':' :: ']' :: rest => some (.bracketName negated name, rest)
  | _ => none

/-- The hyphens at the start of a set, which stand for themselves, put before the items. -/
def leadingHyphens (ignore : Bool) (items : List SetSyntax) :
    List Char → List SetSyntax × List Char
  | [] => (items, [])
  | c :: rest =>
    if c = '-' then leadingHyphens ignore (.literal ⟨'-', false⟩ :: items) (skip ignore rest)
    else (items, c :: rest)
termination_by cs => cs.length
decreasing_by exact Nat.lt_succ_of_le (length_skip_le _ _)

/-- The start of a set after its bracket: whether it is negated, the items that only the start of
a set can have (hyphens, or a close bracket), and the rest. -/
def openSet (ignore : Bool) (cs : List Char) : Bool × List SetSyntax × List Char :=
  let (negated, cs) := match skip ignore cs with
    | '^' :: rest => (true, skip ignore rest)
    | cs => (false, cs)
  match leadingHyphens ignore [] cs with
  | ([], ']' :: rest) => (negated, [.literal ⟨']', false⟩], skip ignore rest)
  | (items, rest) => (negated, items, rest)

/-- A single item of a set or an end of a range. -/
def readSetItem (ignore : Bool) : List Char → Option (Primitive × List Char)
  | [] => none
  | '\\' :: rest => readEscape ignore rest
  | c :: rest => some (.literal ⟨c, false⟩, rest)

/-- A primitive as a member of a set; anchors are none. -/
def Primitive.toSet? : Primitive → Option SetSyntax
  | .literal c => some (.literal c)
  | .letterClass negated name => some (.letterClass negated name)
  | .namedClass negated name => some (.namedClass negated name)
  | _ => none

/-- A primitive as an end of a range. -/
def Primitive.toLiteral? : Primitive → Option Literal
  | .literal c => some c
  | _ => none

/-- The character that decides whether the hyphen before it makes a range: past blanks, and past
the sign of a comment the first character of the comment itself. -/
def afterHyphen? (ignore : Bool) (cs : List Char) : Option Char :=
  if ignore then
    match cs.dropWhile Text.isBlank with
    | '#' :: comment => (comment.dropWhile Text.isBlank).head?
    | rest => rest.head?
  else cs.head?

/-- An item of a set, or a range if a hyphen and another item follow. -/
def readSetRange (ignore : Bool) (cs : List Char) : Option (SetSyntax × List Char) := do
  let (first, rest) ← readSetItem ignore cs
  match skip ignore rest with
  | [] => none
  | '-' :: after =>
    match afterHyphen? ignore after with
    | some ']' => some (← first.toSet?, '-' :: after)
    | some '-' => some (← first.toSet?, '-' :: after)
    | _ =>
      let (second, rest) ← readSetItem ignore (skip ignore after)
      let low ← first.toLiteral?
      let high ← second.toLiteral?
      if low.char ≤ high.char then some (.range low high, rest) else none
  | rest => some (← first.toSet?, rest)

/-- Finishes the operation that waits for a right side, if there is one. -/
def finishOperation (right : SetSyntax) : List SetFrame → SetSyntax × List SetFrame
  | .operation kind left :: frames => (.operation kind left right, frames)
  | frames => (right, frames)

/-- The operation that two equal signs denote. -/
def setOperation? : List Char → Option (SetOperation × List Char)
  | '&' :: '&' :: rest => some (.intersection, rest)
  | '-' :: '-' :: rest => some (.difference, rest)
  | '~' :: '~' :: rest => some (.symmetricDifference, rest)
  | _ => none

/-- Reads a set from inside its bracket on: the items so far in reverse, and the unfinished sets
around them.  Every round takes a character, so the length of the text bounds the rounds. -/
def readSetLoop (ignore : Bool) :
    Nat → List SetSyntax → List SetFrame → List Char → Option (Bool × SetSyntax × List Char)
  | 0, _, _, _ => none
  | rounds + 1, items, frames, cs =>
    match skip ignore cs with
    | [] => none
    | '[' :: rest =>
      match readBracketName rest with
      | some (item, rest) => readSetLoop ignore rounds (item :: items) frames rest
      | none =>
        let (negated, inner, rest) := openSet ignore rest
        readSetLoop ignore rounds inner (.bracket items negated :: frames) rest
    | ']' :: rest =>
      let (set, frames) := finishOperation (SetSyntax.ofItems items.reverse) frames
      match frames with
      | .bracket outer negated :: frames =>
        if frames.isEmpty then some (negated, set, rest)
        else readSetLoop ignore rounds (.bracket negated set :: outer) frames rest
      | _ => none
    | cs =>
      match setOperation? cs with
      | some (kind, rest) =>
        let (left, frames) := finishOperation (SetSyntax.ofItems items.reverse) frames
        readSetLoop ignore rounds [] (.operation kind left :: frames) rest
      | none =>
        match readSetRange ignore cs with
        | some (item, rest) => readSetLoop ignore rounds (item :: items) frames rest
        | none => none

/-- Reads a set after its open bracket. -/
def readSet (ignore : Bool) (cs : List Char) : Option (Bool × SetSyntax × List Char) :=
  let (negated, items, rest) := openSet ignore cs
  readSetLoop ignore (cs.length + 1) items [.bracket [] negated] rest

/-! ## Repetitions -/

/-- Decimal digits between blanks, with what comes after them. -/
def readDigits (ignore : Bool) (digits : List Char) : List Char → List Char × List Char
  | [] => (digits.reverse, [])
  | c :: rest =>
    if c.isDigit then readDigits ignore (c :: digits) (skip ignore rest)
    else (digits.reverse, (c :: rest).dropWhile Text.isBlank)
termination_by cs => cs.length
decreasing_by exact Nat.lt_succ_of_le (length_skip_le _ _)

/-- A count of a repetition, below `2 ^ 32`. -/
def readCount (ignore : Bool) (cs : List Char) : Option (Nat × List Char) :=
  let (digits, rest) := readDigits ignore [] (cs.dropWhile Text.isBlank)
  let count := digits.foldl (fun acc c => acc * 10 + (c.toNat - 48)) 0
  if digits.isEmpty ∨ 1 <<< 32 ≤ count then none else some (count, skip ignore rest)

/-- Whether a question mark follows a repetition, which then prefers few rounds to many. -/
def readLazy : List Char → Bool × List Char
  | '?' :: rest => (true, rest)
  | cs => (false, cs)

/-- The counts of a repetition after its open brace. -/
def readCounts (ignore : Bool) (cs : List Char) :
    Option (Nat × Option Nat × List Char) := do
  let (low, rest) ← readCount ignore (skip ignore cs)
  let (high, rest) ← match rest with
    | ',' :: rest =>
      match skip ignore rest with
      | '}' :: rest => some (none, '}' :: rest)
      | rest =>
        let (high, rest) ← readCount ignore rest
        some (some high, rest)
    | rest => some (some low, rest)
  match rest with
  | '}' :: rest =>
    if high.all (low ≤ ·) then some (low, high, skip ignore rest) else none
  | _ => none

/-! ## Groups -/

/-- The switch with a letter. -/
def flag? : Char → Option Flag
  | 'i' => some .caseInsensitive
  | 'm' => some .multiLine
  | 's' => some .dotMatchesNewline
  | 'U' => some .swapGreed
  | 'u' => some .unicode
  | 'R' => some .crlf
  | 'x' => some .ignoreBlanks
  | _ => none

/-- The switches of a group after its question mark, up to a colon (true) or a parenthesis
(false).  A switch may be named once, and a hyphen, after which switches are turned off, may come
once and not last. -/
def readFlags (negated dangling : Bool) (changes : FlagChanges) :
    List Char → Option (FlagChanges × Bool × List Char)
  | [] => none
  | ':' :: rest => if dangling then none else some (changes.reverse, true, rest)
  | ')' :: rest => if dangling ∨ changes.isEmpty then none else some (changes.reverse, false, rest)
  | '-' :: rest => if negated then none else readFlags true true changes rest
  | c :: rest =>
    match flag? c with
    | some flag =>
      if changes.any (·.1 = flag) then none
      else readFlags negated false ((flag, !negated) :: changes) rest
    | none => none

/-- Whether a character may be part of a group's name. -/
def isGroupChar (first : Bool) (c : Char) : Bool :=
  if first then c == '_' || Unicode.alphabetic.contains c
  else c == '_' || c == '.' || c == '[' || c == ']' || Unicode.alphanumeric.contains c

/-- The name of a group up to its close bracket. -/
def readGroupName (cs : List Char) : Option (List Char × List Char) :=
  let name := cs.takeWhile (· != '>')
  match name, cs.dropWhile (· != '>') with
  | first :: others, '>' :: rest =>
    if isGroupChar true first && others.all (isGroupChar false) then some (name, rest) else none
  | _, _ => none

/-- What is unfinished around a group: the branches and items before it, its switches, whether it
takes down what it matches, and whether blanks were ignored outside. -/
structure GroupFrame where
  branches : List Syntax
  items : List Syntax
  changes : FlagChanges
  isCapture : Bool
  ignore : Bool

/-- What has been read: the branches and items of the innermost open group in reverse, the groups
around it, the names of groups, and whether blanks are ignored. -/
structure Reading where
  branches : List Syntax
  items : List Syntax
  frames : List GroupFrame
  names : List (List Char)
  ignore : Bool

namespace Reading

/-- Nothing read yet. -/
def start (ignore : Bool) : Reading := ⟨[], [], [], [], ignore⟩

/-- Adds an item. -/
def push (r : Reading) (item : Syntax) : Reading :=
  { r with items := item :: r.items }

/-- What the innermost open group contains. -/
def body (r : Reading) : Syntax :=
  Syntax.ofBranches ((Syntax.ofItems r.items.reverse :: r.branches).reverse)

/-- Starts another branch. -/
def nextBranch (r : Reading) : Reading :=
  { r with branches := Syntax.ofItems r.items.reverse :: r.branches, items := [] }

/-- Opens a group. -/
def openGroup (r : Reading) (changes : FlagChanges) (isCapture : Bool) : Reading :=
  { r with
    branches := [], items := []
    frames := ⟨r.branches, r.items, changes, isCapture, r.ignore⟩ :: r.frames
    ignore := (changes.lookup Flag.ignoreBlanks).getD r.ignore }

/-- Closes the innermost group. -/
def closeGroup? (r : Reading) : Option Reading :=
  match r.frames with
  | [] => none
  | frame :: frames =>
    some { r with
      branches := frame.branches
      items := .group frame.changes frame.isCapture r.body :: frame.items
      frames := frames, ignore := frame.ignore }

/-- Repeats the last item; there has to be one, and switches cannot be repeated. -/
def repeatLast? (r : Reading) (min : Nat) (max : Option Nat) (isLazy : Bool) : Option Reading :=
  match r.items with
  | [] => none
  | .flags _ :: _ => none
  | item :: items => some { r with items := .repetition min max isLazy item :: items }

/-- Reads what follows an open parenthesis. -/
def readGroup? (r : Reading) (cs : List Char) : Option (Reading × List Char) := do
  let named := fun (rest : List Char) => do
    let (name, rest) ← readGroupName rest
    if r.names.contains name then none
    else some ({ r with names := name :: r.names }.openGroup [] true, rest)
  match skip r.ignore cs with
  | '?' :: '=' :: _ => none
  | '?' :: '!' :: _ => none
  | '?' :: '<' :: '=' :: _ => none
  | '?' :: '<' :: '!' :: _ => none
  | '?' :: 'P' :: '<' :: rest => named rest
  | '?' :: '<' :: rest => named rest
  | '?' :: rest =>
    let (changes, isGroup, rest) ← readFlags false false [] rest
    if isGroup then some (r.openGroup changes false, rest)
    else
      let ignore := (changes.lookup Flag.ignoreBlanks).getD r.ignore
      some ({ r with ignore }.push (.flags changes), rest)
  | rest => some (r.openGroup [] true, rest)

end Reading

/-- A primitive as an expression. -/
def Primitive.toSyntax : Primitive → Syntax
  | .literal c => .literal c
  | .dot => .dot
  | .anchor kind => .anchor kind
  | .letterClass negated name => .letterClass negated name
  | .namedClass negated name => .namedClass negated name

/-! ## Expressions -/

/-- Reads one part of an expression and puts it where it belongs. -/
def readPart (r : Reading) (c : Char) (rest : List Char) : Option (Reading × List Char) :=
  let repeated := fun (min : Nat) (max : Option Nat) (rest : List Char) =>
    let (isLazy, rest) := readLazy rest
    (r.repeatLast? min max isLazy).map fun r => (r, rest)
  match c with
  | '(' => r.readGroup? rest
  | ')' => r.closeGroup?.map fun r => (r, rest)
  | '|' => some (r.nextBranch, rest)
  | '[' => (readSet r.ignore rest).map fun (negated, set, rest) => (r.push (.set negated set), rest)
  | '?' => repeated 0 (some 1) rest
  | '*' => repeated 0 none rest
  | '+' => repeated 1 none rest
  | '{' => do
    let (min, max, rest) ← readCounts r.ignore rest
    repeated min max rest
  | '\\' => (readEscape r.ignore rest).map fun (part, rest) => (r.push part.toSyntax, rest)
  | '.' => some (r.push .dot, rest)
  | '^' => some (r.push (.anchor .lineStart), rest)
  | '$' => some (r.push (.anchor .lineEnd), rest)
  | c => some (r.push (.literal ⟨c, false⟩), rest)

/-- Reads an expression to its end.  Every round takes a character, so the length of the text
bounds the rounds. -/
def readLoop : Nat → Reading → List Char → Option Syntax
  | 0, _, _ => none
  | rounds + 1, r, cs =>
    match skip r.ignore cs with
    | [] => if r.frames.isEmpty then some r.body else none
    | c :: rest =>
      match readPart r c rest with
      | some (r, rest) => readLoop rounds r rest
      | none => none

/-- The depth to which expressions may be nested. -/
def maxDepth : Nat := 250

/-- The syntax tree of a pattern; none if the text is no pattern or is nested too deep. -/
def parse? (ignoreBlanks : Bool) (source : String) : Option Syntax := do
  let cs := source.toList
  let tree ← readLoop (cs.length + 1) (.start ignoreBlanks) cs
  if tree.depth ≤ maxDepth then some tree else none

end Pattern

end MessageConstraints
