import MessageConstraints.Text.Quoted

/-!
# Escapes for bytes

Reading the escaped form in which the default of a bytes field is declared: after a backslash there
is a letter for a control character, up to three octal digits, or the letter `x` and a hexadecimal
number in two characters, the first of which may be a plus sign.  All other characters stand for
their UTF-8 bytes.
-/

namespace MessageConstraints

namespace Text

/-- The value of a digit in a base up to sixteen. -/
def digitIn? (base : Nat) (c : Char) : Option Nat :=
  let value :=
    if '0' ≤ c ∧ c ≤ '9' then some (c.toNat - '0'.toNat)
    else if 'a' ≤ c ∧ c ≤ 'f' then some (c.toNat - 'a'.toNat + 10)
    else if 'A' ≤ c ∧ c ≤ 'F' then some (c.toNat - 'A'.toNat + 10)
    else none
  value.filter (· < base)

/-- The byte that a letter stands for after a backslash. -/
def letterEscape? : Char → Option UInt8
  | 'a' => some 7
  | 'b' => some 8
  | 't' => some 9
  | 'n' => some 10
  | 'v' => some 11
  | 'f' => some 12
  | 'r' => some 13
  | '"' => some 34
  | '\'' => some 39
  | '?' => some 63
  | '\\' => some 92
  | _ => none

/-- The number that two characters denote, two hexadecimal digits or one after a plus sign. -/
def hexPair? (first second : Char) : Option Nat := do
  let high ← if first = '+' then some 0 else digitIn? 16 first
  let low ← digitIn? 16 second
  some (high * 16 + low)

/-- What is being read: plain characters, the character after a backslash, octal digits, of which
at most so many more may follow, or the two characters of a hexadecimal number, of which the first
one may have been read. -/
inductive EscapeState where
  | plain
  | escape
  | octal (room value : Nat)
  | hex (first : Option Char)

/-- The bytes that an escaped text stands for; none if an escape is broken. -/
def unescape? : EscapeState → List Char → Option (List UInt8)
  | .plain, [] => some []
  | .octal _ value, [] => some [value.toUInt8]
  | .escape, [] => none
  | .hex _, [] => none
  | .plain, '\\' :: rest => unescape? .escape rest
  | .plain, c :: rest => (unescape? .plain rest).map (c.toString.toUTF8.toList ++ ·)
  | .escape, c :: rest =>
    match letterEscape? c with
    | some byte => (unescape? .plain rest).map (byte :: ·)
    | none =>
      if c = 'x' ∨ c = 'X' then unescape? (.hex none) rest
      else
        match digitIn? 8 c with
        | some value => unescape? (.octal 2 value) rest
        | none => none
  | .hex none, c :: rest => unescape? (.hex (some c)) rest
  | .hex (some first), c :: rest =>
    match hexPair? first c with
    | some value => (unescape? .plain rest).map (value.toUInt8 :: ·)
    | none => none
  | .octal room value, c :: rest =>
    match room, digitIn? 8 c with
    | room + 1, some digit => unescape? (.octal room (value * 8 + digit)) rest
    | _, _ =>
      let tail := if c = '\\' then unescape? .escape rest
        else (unescape? .plain rest).map (c.toString.toUTF8.toList ++ ·)
      tail.map (value.toUInt8 :: ·)

end Text

end MessageConstraints
