/-!
# Quoted text

The double-quoted notation of JSON: quotes, backslashes and the control characters below the
space are escaped, every other character stands for itself.  Map keys in a field path and every
text of a JSON report are written in it.
-/

namespace MessageConstraints

namespace Text

/-- The lower-case hexadecimal digit of a number below sixteen. -/
def hexDigit (n : Nat) : Char :=
  if n < 10 then Char.ofNat (48 + n) else Char.ofNat (87 + n)

/-- The two lower-case hexadecimal digits of a number below 256. -/
def hexByte (n : Nat) : List Char :=
  [hexDigit (n / 16), hexDigit (n % 16)]

/-- How one character is written between the quotes. -/
def escapeChar (c : Char) : List Char :=
  if c = '"' then ['\\', '"']
  else if c = '\\' then ['\\', '\\']
  else if c.toNat < 0x20 then
    match c.toNat with
    | 8 => ['\\', 'b']
    | 9 => ['\\', 't']
    | 10 => ['\\', 'n']
    | 12 => ['\\', 'f']
    | 13 => ['\\', 'r']
    | n => ['\\', 'u', '0', '0'] ++ hexByte n
  else [c]

/-- The characters of a quoted text, with its quotes. -/
def quoteChars (cs : List Char) : List Char :=
  '"' :: (cs.flatMap escapeChar ++ ['"'])

/-- A text in double quotes, escaped as JSON escapes it. -/
def quote (s : String) : String :=
  String.ofList (quoteChars s.toList)

end Text

end MessageConstraints
