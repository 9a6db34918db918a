import MessageConstraints.Unicode.CharSet

/-!
# Characters as rows of bytes

How a range of characters looks in UTF-8: as few rows of byte ranges as will do, such that the
characters of the range are the byte rows that agree with one of them place by place.
-/

namespace MessageConstraints

namespace Unicode

/-- A range of bytes, both ends included. -/
structure ByteRange where
  low : Nat
  high : Nat
deriving Repr, DecidableEq

/-- The bounds between which all characters take the same number of bytes, the surrogates left
out. -/
def lengthBounds : List (Nat × Nat) :=
  [(0, 0x7F), (0x80, 0x7FF), (0x800, 0xD7FF), (0xE000, 0xFFFF), (0x10000, 0x10FFFF)]

/-- The sizes of the blocks of characters that share all bytes but the last one, two or three. -/
def blockSizes : List Nat := [64, 4096, 262144]

/-- Cuts a range of characters of one length into pieces, each of which lies within a block or is
made of whole blocks, for blocks of ever larger sizes. -/
def blockPieces (low high : Nat) : List Nat → List (Nat × Nat)
  | [] => [(low, high)]
  | size :: sizes =>
    if low / size = high / size then [(low, high)]
    else
      let startsWhole := low % size = 0
      let endsWhole := high % size = size - 1
      let first := if startsWhole then low else (low / size + 1) * size
      let last := if endsWhole then high else high / size * size - 1
      (if startsWhole then [] else [(low, first - 1)]) ++
        (if first ≤ last then blockPieces first last sizes else []) ++
        (if endsWhole then [] else [(last + 1, high)])

/-- The pieces of a range of characters whose rows of bytes differ within one range per place. -/
def rangePieces (low high : Nat) : List (Nat × Nat) :=
  lengthBounds.flatMap fun bounds =>
    match CharSet.common? (low, high) bounds with
    | none => []
    | some (low, high) => if high < 0x80 then [(low, high)] else blockPieces low high blockSizes

/-- The bytes of a character. -/
def charBytes (n : Nat) : List Nat :=
  (String.utf8EncodeChar (Char.ofNat n)).map UInt8.toNat

/-- The byte ranges of a piece. -/
def pieceRow (piece : Nat × Nat) : List ByteRange :=
  (charBytes piece.1).zipWith ByteRange.mk (charBytes piece.2)

/-- The rows of byte ranges of a set of characters, in ascending order. -/
def utf8Rows (set : CharSet) : List (List ByteRange) :=
  set.ranges.flatMap fun range => (rangePieces range.1 range.2).map pieceRow

end Unicode

end MessageConstraints
