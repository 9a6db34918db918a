/-!
# Base64

Bytes as text, six bits a character.  Both alphabets are read, the standard one and the one for
URLs, but not a mixture of them.  Padding at the end may be left out, and the bits that are left
over in the last character are ignored.
-/

namespace MessageConstraints

namespace Base64

/-- The two characters that are not the same in both alphabets. -/
structure Alphabet where
  plus : Char
  slash : Char
deriving Repr, DecidableEq

/-- The standard alphabet. -/
def standard : Alphabet := ⟨'+', '/'⟩

/-- The alphabet for URLs. -/
def urlSafe : Alphabet := ⟨'-', '_'⟩

/-- The six bits that a character stands for. -/
def sextet? (alphabet : Alphabet) (c : Char) : Option Nat :=
  if 'A' ≤ c ∧ c ≤ 'Z' then some (c.toNat - 'A'.toNat)
  else if 'a' ≤ c ∧ c ≤ 'z' then some (c.toNat - 'a'.toNat + 26)
  else if '0' ≤ c ∧ c ≤ '9' then some (c.toNat - '0'.toNat + 52)
  else if c = alphabet.plus then some 62
  else if c = alphabet.slash then some 63
  else none

/-- The bytes of the last characters, two or three of them. -/
def lastBytes? : List Nat → Option (List UInt8)
  | [a, b] => some [(a * 4 + b / 16).toUInt8]
  | [a, b, c] => some [(a * 4 + b / 16).toUInt8, (b * 16 + c / 4).toUInt8]
  | _ => none

/-- The bytes that sextets hold, four of them three bytes. -/
def bytes? : List Nat → Option (List UInt8)
  | [] => some []
  | a :: b :: c :: d :: rest =>
    (bytes? rest).map fun tail =>
      (a * 4 + b / 16).toUInt8 :: (b * 16 + c / 4).toUInt8 :: (c * 64 + d).toUInt8 :: tail
  | rest => lastBytes? rest

/-- A text without its padding: the padding, if any, fills the last four characters or a part of
them, after two or three others. -/
def withoutPadding? (cs : List Char) : Option (List Char) :=
  let padding := (cs.reverse.takeWhile (· == '=')).length
  let rest := cs.take (cs.length - padding)
  if padding = 0 ∨ (2 ≤ rest.length % 4 ∧ rest.length % 4 + padding ≤ 4) then some rest else none

/-- The bytes of a text in one alphabet. -/
def decodeIn? (alphabet : Alphabet) (cs : List Char) : Option (List UInt8) := do
  let rest ← withoutPadding? cs
  let sextets ← rest.mapM (sextet? alphabet)
  bytes? sextets

/-- The bytes of a text. -/
def decode? (text : String) : Option (List UInt8) :=
  decodeIn? standard text.toList <|> decodeIn? urlSafe text.toList

end Base64

end MessageConstraints
