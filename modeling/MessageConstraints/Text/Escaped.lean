import MessageConstraints.Text.Quoted
import MessageConstraints.Unicode.Latest

/-!
# Escaped notation

How texts and bytes are written in error texts about options: in double quotes, and everything
that would not be seen is escaped.
-/

namespace MessageConstraints

namespace Text

/-- The lower-case hexadecimal digits of a number, without leading zeros. -/
def hexDigits (n : Nat) : List Char :=
  Nat.toDigits 16 n

/-- A character by its code point in braces. -/
def codePointEscape (c : Char) : List Char :=
  ['\\', 'u', '\x7b'] ++ hexDigits c.toNat ++ ['\x7d']

/-- How a character is written between double quotes, given the characters that are not written
as they are. -/
def escapedChar (hidden : CharSet) (c : Char) : List Char :=
  match c with
  | '\x00' => ['\\', '0']
  | '\t' => ['\\', 't']
  | '\n' => ['\\', 'n']
  | '\r' => ['\\', 'r']
  | '"' => ['\\', '"']
  | '\\' => ['\\', '\\']
  | c => if hidden.contains c then codePointEscape c else [c]

/-- A text in double quotes with unprintable characters and combining marks escaped. -/
def escapedText (s : String) : String :=
  let hidden := Unicode.unprintable.union Unicode.graphemeExtenders
  String.ofList ('"' :: (s.toList.flatMap (escapedChar hidden) ++ ['"']))

/-- How a byte is written between double quotes. -/
def escapedByte (b : UInt8) : List Char :=
  match b.toNat with
  | 0 => ['\\', '0']
  | 9 => ['\\', 't']
  | 10 => ['\\', 'n']
  | 13 => ['\\', 'r']
  | 34 => ['\\', '"']
  | 92 => ['\\', '\\']
  | n => if 32 ≤ n ∧ n < 127 then [Char.ofNat n] else ['\\', 'x'] ++ hexByte n

/-- Bytes in double quotes. -/
def escapedBytes (bytes : List UInt8) : String :=
  String.ofList ('b' :: '"' :: (bytes.flatMap escapedByte ++ ['"']))

end Text

end MessageConstraints
