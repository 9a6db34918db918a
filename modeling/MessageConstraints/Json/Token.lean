import MessageConstraints.Json.Number
import MessageConstraints.Text.Unescaped

/-!
# The tokens of a JSON text

Punctuation, strings, and the bare words and numbers between them.  In a string, an escape gives a
unit of UTF-16; two such units that form a pair are one character, and a unit of a pair that
stands alone is refused.
-/

namespace MessageConstraints

/-- A token of a JSON text. -/
inductive JsonToken where
  | openBrace
  | closeBrace
  | openBracket
  | closeBracket
  | comma
  | colon
  | string (s : String)
  /-- A number, a truth value or null. -/
  | bare (value : Json)
deriving Repr

namespace JsonToken

/-! ## Strings -/

/-- The character that a letter stands for after a backslash. -/
def escapedCode? : Char → Option Nat
  | '"' => some 0x22
  | '\\' => some 0x5C
  | '/' => some 0x2F
  | 'b' => some 8
  | 'f' => some 12
  | 'n' => some 10
  | 'r' => some 13
  | 't' => some 9
  | _ => none

/-- The unit that four hexadecimal digits denote. -/
def unit? (cs : List Char) : Option Nat :=
  (cs.mapM (Text.digitIn? 16)).map fun digits => digits.foldl (fun acc d => acc * 16 + d) 0

/-- The codes of a string up to its closing quote, and the text after it.  Control characters have
to be escaped. -/
def stringCodes? : List Char → Option (List Nat × List Char)
  | [] => none
  | '"' :: rest => some ([], rest)
  | '\\' :: 'u' :: a :: b :: c :: d :: rest =>
    match unit? [a, b, c, d] with
    | some unit => (stringCodes? rest).map fun (codes, after) => (unit :: codes, after)
    | none => none
  | '\\' :: c :: rest =>
    match escapedCode? c with
    | some code => (stringCodes? rest).map fun (codes, after) => (code :: codes, after)
    | none => none
  | c :: rest =>
    if c = '\\' ∨ c.toNat < 0x20 then none
    else (stringCodes? rest).map fun (codes, after) => (c.toNat :: codes, after)

/-- Whether a code is the first unit of a pair. -/
def isHighUnit (code : Nat) : Bool := 0xD800 ≤ code && code ≤ 0xDBFF

/-- Whether a code is the second unit of a pair. -/
def isLowUnit (code : Nat) : Bool := 0xDC00 ≤ code && code ≤ 0xDFFF

/-- The characters that codes stand for, pairs of units put together. -/
def charsOfCodes? : List Nat → Option (List Char)
  | [] => some []
  | [code] =>
    if isHighUnit code || isLowUnit code then none else some [Char.ofNat code]
  | code :: next :: rest =>
    if isHighUnit code then
      if isLowUnit next then
        (charsOfCodes? rest).map
          (Char.ofNat (0x10000 + (code - 0xD800) * 0x400 + (next - 0xDC00)) :: ·)
      else none
    else if isLowUnit code then none
    else (charsOfCodes? (next :: rest)).map (Char.ofNat code :: ·)

theorem length_stringCodes?_lt {cs after : List Char} {codes : List Nat}
    (h : stringCodes? cs = some (codes, after)) : after.length < cs.length := by
  fun_induction stringCodes? cs generalizing codes after with
  | case1 => simp at h
  | case2 rest =>
    simp only [Option.some.injEq, Prod.mk.injEq] at h
    simp [h.2]
  | case3 a b c d rest unit _ ih =>
    obtain ⟨⟨codes', after'⟩, hrest, heq⟩ := Option.map_eq_some_iff.mp h
    simp only [Prod.mk.injEq] at heq
    have := ih hrest
    simp only [List.length_cons, ← heq.2]
    omega
  | case4 => simp at h
  | case5 c rest _ code _ ih =>
    obtain ⟨⟨codes', after'⟩, hrest, heq⟩ := Option.map_eq_some_iff.mp h
    simp only [Prod.mk.injEq] at heq
    have := ih hrest
    simp only [List.length_cons, ← heq.2]
    omega
  | case6 => simp at h
  | case7 => simp at h
  | case8 c rest _ _ _ _ ih =>
    obtain ⟨⟨codes', after'⟩, hrest, heq⟩ := Option.map_eq_some_iff.mp h
    simp only [Prod.mk.injEq] at heq
    have := ih hrest
    simp only [List.length_cons, ← heq.2]
    omega

/-! ## Tokens -/

/-- The characters that may stand between tokens. -/
def isSpace (c : Char) : Bool :=
  c == ' ' || c == '\t' || c == '\n' || c == '\r'

/-- The characters of bare words and numbers. -/
def isBareChar (c : Char) : Bool :=
  c.isAlphanum || c == '+' || c == '-' || c == '.'

/-- The token that a single character is. -/
def punctuation? : Char → Option JsonToken
  | '{' => some openBrace
  | '}' => some closeBrace
  | '[' => some openBracket
  | ']' => some closeBracket
  | ',' => some comma
  | ':' => some colon
  | _ => none

/-- The value of a bare word or number. -/
def bareValue? (word : List Char) : Option Json :=
  match String.ofList word with
  | "null" => some .null
  | "true" => some (.bool true)
  | "false" => some (.bool false)
  | _ => (JsonNumber.ofChars? word).map .number

/-- The tokens of a text; none if a part of it is no token. -/
def scan? : List Char → Option (List JsonToken)
  | [] => some []
  | c :: rest =>
    if isSpace c then scan? rest
    else if c = '"' then
      match h : stringCodes? rest with
      | none => none
      | some (codes, after) =>
        have := length_stringCodes?_lt h
        match charsOfCodes? codes with
        | none => none
        | some chars => (scan? after).map (string (String.ofList chars) :: ·)
    else
      match punctuation? c with
      | some token => (scan? rest).map (token :: ·)
      | none =>
        if isBareChar c then
          have := (List.dropWhile_sublist (l := rest) isBareChar).length_le
          match bareValue? (c :: rest.takeWhile isBareChar) with
          | none => none
          | some value => (scan? (rest.dropWhile isBareChar)).map (bare value :: ·)
        else none
termination_by cs => cs.length
decreasing_by all_goals (simp only [List.length_cons]; omega)

end JsonToken

end MessageConstraints
