import MessageConstraints.Number.Layout
import MessageConstraints.Text.Utf8

/-!
# Values

The values that the fields of a message hold.  A message holds its fields by number, so a value
can be read by whatever declaration has that number; it also knows the name of its own type.
-/

namespace MessageConstraints

/-- A key of a map. -/
inductive MapKey where
  | bool (b : Bool)
  | int32 (n : Int32)
  | int64 (n : Int64)
  | uint32 (n : UInt32)
  | uint64 (n : UInt64)
  | string (s : String)
deriving Repr, DecidableEq

/-- A value of a field.  A message is the name of its type with the values stored in it, by field
number. -/
inductive Value where
  | bool (b : Bool)
  | int32 (n : Int32)
  | int64 (n : Int64)
  | uint32 (n : UInt32)
  | uint64 (n : UInt64)
  | float (x : Binary .single)
  | double (x : Binary .double)
  | string (s : String)
  | bytes (bytes : List UInt8)
  | enum (n : Int32)
  | message (typeName : String) (fields : List (Nat × Value))
  | list (items : List Value)
  | map (entries : List (MapKey × Value))
deriving Repr

/-- A message: the name of its type and the values stored in it, by field number. -/
structure Message where
  typeName : String
  fields : List (Nat × Value)
deriving Repr

/-! ## Map keys -/

namespace MapKey

/-- The bare text of a key. -/
def text : MapKey → String
  | bool b => if b then "true" else "false"
  | int32 n => toString n.toInt
  | int64 n => toString n.toInt
  | uint32 n => toString n.toNat
  | uint64 n => toString n.toNat
  | string s => s

/-- Keys of different kinds, which no map holds together, are ordered by kind. -/
def kind : MapKey → Nat
  | bool _ => 0
  | int32 _ => 1
  | int64 _ => 1
  | uint32 _ => 2
  | uint64 _ => 2
  | string _ => 3

/-- The number by which keys of a kind are ordered; texts have none. -/
def number : MapKey → Int
  | bool b => if b then 1 else 0
  | int32 n => n.toInt
  | int64 n => n.toInt
  | uint32 n => n.toNat
  | uint64 n => n.toNat
  | string _ => 0

/-- The text by which keys of a kind are ordered; numbers have none. -/
def word : MapKey → String
  | string s => s
  | _ => ""

/-- The order of keys: false before true, numbers by size, texts by code points. -/
def le (a b : MapKey) : Bool :=
  decide (a.kind < b.kind)
    || (a.kind == b.kind
      && (decide (a.number < b.number) || (a.number == b.number && decide (a.word ≤ b.word))))

end MapKey

/-! ## Values -/

/-- A scalar value as a key. -/
def MapKey.ofValue? : Value → Option MapKey
  | .bool b => some (bool b)
  | .int32 n => some (int32 n)
  | .int64 n => some (int64 n)
  | .uint32 n => some (uint32 n)
  | .uint64 n => some (uint64 n)
  | .string s => some (string s)
  | _ => none

namespace Value

/-- Puts an entry into the entries of a map, in place of one with the same key. -/
def putEntry (entries : List (MapKey × Value)) (key : MapKey) (value : Value) :
    List (MapKey × Value) :=
  entries.filter (·.1 ≠ key) ++ [(key, value)]

/-- A message value as a message. -/
def asMessage? : Value → Option Message
  | message typeName fields => some ⟨typeName, fields⟩
  | _ => none

/-- The text of a value in messages; lists and maps show only their size, messages only their
type. -/
def text : Value → String
  | bool b => if b then "true" else "false"
  | int32 n => toString n.toInt
  | int64 n => toString n.toInt
  | uint32 n => toString n.toNat
  | uint64 n => toString n.toNat
  | float x => x.text
  | double x => x.text
  | string s => s
  | bytes bs => Text.ofBytes bs
  | enum n => toString n.toInt
  | message typeName _ => typeName
  | list items => toString items.length ++ " items"
  | map entries => toString entries.length ++ " entries"

/-- Whether a value by itself counts as set: booleans and messages always do, numbers unless they
are zero, texts, bytes and collections unless they are empty. -/
def isSet : Value → Bool
  | bool _ => true
  | message .. => true
  | int32 n => n != 0
  | int64 n => n != 0
  | uint32 n => n != 0
  | uint64 n => n != 0
  | float x => !x.isZero
  | double x => !x.isZero
  | string s => !s.isEmpty
  | bytes bs => !bs.isEmpty
  | enum n => n != 0
  | list items => !items.isEmpty
  | map entries => !entries.isEmpty

/-- Whether two elements are duplicates: equal texts, bytes, truth values or enum numbers, or
numbers that are equal as numbers.  No number is equal to nothing, and messages and collections
are never duplicates. -/
def duplicates : Value → Value → Bool
  | bool a, bool b => a == b
  | int32 a, int32 b => a.toInt == b.toInt
  | int32 a, int64 b => a.toInt == b.toInt
  | int64 a, int32 b => a.toInt == b.toInt
  | int64 a, int64 b => a.toInt == b.toInt
  | uint32 a, uint32 b => a.toNat == b.toNat
  | uint32 a, uint64 b => a.toNat == b.toNat
  | uint64 a, uint32 b => a.toNat == b.toNat
  | uint64 a, uint64 b => a.toNat == b.toNat
  | float a, float b => a.same b
  | double a, double b => a.same b
  | string a, string b => a == b
  | bytes a, bytes b => a == b
  | enum a, enum b => a == b
  | _, _ => false

/-- What an element is recognised by when it comes again.  Integers of both widths are recognised
by their number, numbers with a point by what they are worth. -/
inductive Identity where
  | bool (b : Bool)
  | signed (n : Int)
  | unsigned (n : Nat)
  | float (worth : Binary.Worth)
  | double (worth : Binary.Worth)
  | string (s : String)
  | bytes (bytes : List UInt8)
  | enum (n : Int32)
deriving Repr, DecidableEq

/-- What an element is recognised by.  What is no number is equal to nothing and so has no
identity; nor have messages and collections. -/
def identity? : Value → Option Identity
  | bool b => some (.bool b)
  | int32 n => some (.signed n.toInt)
  | int64 n => some (.signed n.toInt)
  | uint32 n => some (.unsigned n.toNat)
  | uint64 n => some (.unsigned n.toNat)
  | float x => x.worth?.map .float
  | double x => x.worth?.map .double
  | string s => some (.string s)
  | bytes bs => some (.bytes bs)
  | enum n => some (.enum n)
  | message .. | list _ | map _ => none

end Value

/-! ## Messages -/

namespace Message

/-- A message of a type with nothing stored. -/
def empty (typeName : String) : Message := ⟨typeName, []⟩

/-- The value stored under a field number. -/
def stored? (message : Message) (number : Nat) : Option Value :=
  message.fields.lookup number

/-- Whether something is stored under a field number. -/
def holds (message : Message) (number : Nat) : Bool :=
  (message.stored? number).isSome

/-- Stores a value under a field number, in place of what is there. -/
def store (message : Message) (number : Nat) (value : Value) : Message :=
  { message with fields := (number, value) :: message.fields.filter (·.1 != number) }

/-- A message as a value. -/
def toValue (message : Message) : Value :=
  .message message.typeName message.fields

end Message

end MessageConstraints
