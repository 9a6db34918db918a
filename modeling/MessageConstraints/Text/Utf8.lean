/-!
# Bytes as text

Reading bytes as UTF-8.  Every stretch of bytes that is no character is shown as one replacement
character; such a stretch ends as soon as the next byte cannot belong to the character that was
begun.
-/

namespace MessageConstraints

namespace Text

/-- What stands for bytes that are no character. -/
def replacement : Char := '\uFFFD'

/-- A character that its first byte announces: how many bytes follow, the bounds of the second
byte, and the bits that the first byte brings. -/
structure LeadByte where
  following : Nat
  low : Nat
  high : Nat
  bits : Nat
deriving Repr, DecidableEq

/-- What a first byte announces; none if no character starts with it. -/
def leadByte? (b : Nat) : Option LeadByte :=
  if b < 0x80 then some ⟨0, 0, 0, b⟩
  else if 0xC2 ≤ b ∧ b ≤ 0xDF then some ⟨1, 0x80, 0xBF, b - 0xC0⟩
  else if b = 0xE0 then some ⟨2, 0xA0, 0xBF, 0⟩
  else if b = 0xED then some ⟨2, 0x80, 0x9F, 13⟩
  else if 0xE1 ≤ b ∧ b ≤ 0xEF then some ⟨2, 0x80, 0xBF, b - 0xE0⟩
  else if b = 0xF0 then some ⟨3, 0x90, 0xBF, 0⟩
  else if 0xF1 ≤ b ∧ b ≤ 0xF3 then some ⟨3, 0x80, 0xBF, b - 0xF0⟩
  else if b = 0xF4 then some ⟨3, 0x80, 0x8F, 4⟩
  else none

/-- Reads the bytes that follow a first byte, the next one within bounds: the character if they
are all there, and the bytes that are left. -/
def continueChar (low high : Nat) (value : Nat) : Nat → List UInt8 → Option Char × List UInt8
  | 0, rest => (some (Char.ofNat value), rest)
  | _ + 1, [] => (none, [])
  | count + 1, b :: rest =>
    if low ≤ b.toNat ∧ b.toNat ≤ high then
      continueChar 0x80 0xBF (value * 64 + (b.toNat - 0x80)) count rest
    else (none, b :: rest)

theorem length_continueChar_le (low high value count : Nat) (bytes : List UInt8) :
    (continueChar low high value count bytes).2.length ≤ bytes.length := by
  induction bytes generalizing low high value count with
  | nil => cases count <;> simp [continueChar]
  | cons b rest ih =>
    cases count with
    | zero => simp [continueChar]
    | succ count =>
      simp only [continueChar]
      split
      · exact Nat.le_succ_of_le (ih _ _ _ _)
      · exact Nat.le_refl _

/-- The first character of some bytes, none if it is broken, and the bytes after it. -/
def nextChar (b : UInt8) (rest : List UInt8) : Option Char × List UInt8 :=
  match leadByte? b.toNat with
  | some lead => continueChar lead.low lead.high lead.bits lead.following rest
  | none => (none, rest)

theorem length_nextChar_le (b : UInt8) (rest : List UInt8) :
    (nextChar b rest).2.length ≤ rest.length := by
  unfold nextChar
  split
  · exact length_continueChar_le _ _ _ _ _
  · exact Nat.le_refl _

/-- The characters of some bytes, none in place of each broken one. -/
def decodeUtf8 : List UInt8 → List (Option Char)
  | [] => []
  | b :: rest => (nextChar b rest).1 :: decodeUtf8 (nextChar b rest).2
termination_by bytes => bytes.length
decreasing_by exact Nat.lt_succ_of_le (length_nextChar_le b rest)

/-- Bytes as text, broken characters replaced. -/
def ofBytes (bytes : List UInt8) : String :=
  String.ofList ((decodeUtf8 bytes).map (·.getD replacement))

/-- Bytes as text; none if a character is broken. -/
def ofBytes? (bytes : List UInt8) : Option String :=
  ((decodeUtf8 bytes).mapM id).map String.ofList

end Text

end MessageConstraints
