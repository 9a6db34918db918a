import MessageConstraints.Descriptor.Link
import MessageConstraints.Wire.Record

/-!
# Values in wire format

What the records of a field mean, given the type of the field.  Of several records for a single
value the last one counts; those of a single message add up.  Lists of numbers may be packed into
one record, and of the fields of a oneof the last one counts.
-/

namespace MessageConstraints

namespace Binary

/-- The number that the bits of a format's interchange form denote, given the number of bits of
the exponent. -/
def ofBits (format : BinaryFormat) (exponentBits bits : Nat) : Binary format :=
  let places := format.precision - 1
  let fraction := bits % 1 <<< places
  let exponent := (bits >>> places) % 1 <<< exponentBits
  let isNegative := (bits >>> (places + exponentBits)) % 2 = 1
  if exponent = 1 <<< exponentBits - 1 then
    if fraction = 0 then infinite isNegative else nan
  else if exponent = 0 then finite isNegative fraction format.minExponent
  else finite isNegative (1 <<< places + fraction) (format.minExponent + (exponent - 1 : Nat))

end Binary

namespace WireValue

/-- A signed number from one whose lowest bit is its sign. -/
def zigzag (n : Nat) : Int :=
  if n % 2 = 0 then (n / 2 : Nat) else -((n / 2 : Nat) : Int) - 1

/-- A value of a scalar type. -/
def scalar? : ScalarType → WireValue → Option Value
  | .double, fixed64 n => some (.double (.ofBits .double 11 n))
  | .float, fixed32 n => some (.float (.ofBits .single 8 n))
  | .int32, varint n => some (.int32 (Int32.ofNat n))
  | .int64, varint n => some (.int64 (Int64.ofNat n))
  | .uint32, varint n => some (.uint32 n.toUInt32)
  | .uint64, varint n => some (.uint64 n.toUInt64)
  | .sint32, varint n => some (.int32 (Int32.ofInt (zigzag (n % 1 <<< 32))))
  | .sint64, varint n => some (.int64 (Int64.ofInt (zigzag n)))
  | .fixed32, fixed32 n => some (.uint32 n.toUInt32)
  | .fixed64, fixed64 n => some (.uint64 n.toUInt64)
  | .sfixed32, fixed32 n => some (.int32 (Int32.ofNat n))
  | .sfixed64, fixed64 n => some (.int64 (Int64.ofNat n))
  | .bool, varint n => some (.bool (n != 0))
  | .string, bytes bs => (Text.ofBytes? bs).map .string
  | .bytes, bytes bs => some (.bytes bs)
  | _, _ => none

/-- The bytes of a record of bytes. -/
def bytes? : WireValue → Option (List UInt8)
  | bytes bs => some bs
  | _ => none

/-- The values packed into bytes: numbers, or numbers of four or eight bytes each. -/
def unpack? (read : List UInt8 → Option (WireValue × List UInt8)) :
    Nat → List UInt8 → Option (List WireValue)
  | _, [] => some []
  | 0, _ :: _ => none
  | room + 1, b :: rest =>
    (read (b :: rest)).bind fun (value, after) => (unpack? read room after).map (value :: ·)

/-- How a packed value of a scalar type is read; texts and bytes are never packed. -/
def packedReader? : ScalarType → Option (List UInt8 → Option (WireValue × List UInt8))
  | .string | .bytes => none
  | .double | .fixed64 | .sfixed64 => some fun bs =>
    (WireItem.split? 8 bs).map fun (front, after) =>
      (fixed64 (WireItem.littleEndian front), after)
  | .float | .fixed32 | .sfixed32 => some fun bs =>
    (WireItem.split? 4 bs).map fun (front, after) =>
      (fixed32 (WireItem.littleEndian front), after)
  | _ => some fun bs => (WireItem.varint? 10 bs).map fun (n, after) => (varint n, after)

/-- The elements of a list that a record holds: one, or those packed into it. -/
def elements? (type : FieldType) (value : WireValue) : Option (List WireValue) :=
  let reader :=
    match type with
    | .scalar type => packedReader? type
    | .enum _ => packedReader? .int32
    | .message _ => none
  match reader, value with
  | some read, bytes bs => unpack? read bs.length bs
  | _, value => some [value]

end WireValue

namespace Value

/-- The records without those that a later record of the same oneof makes void: of the fields of a
oneof only the last one counts, from its first record after those of the others. -/
def settleOneof (members : List Nat) (records : WireRecords) : WireRecords :=
  let step (record : Nat × WireValue) (state : WireRecords × Option Nat × Bool) :=
    let (kept, last, isClosed) := state
    if !members.contains record.1 then (record :: kept, last, isClosed)
    else if isClosed then state
    else if last.all (· == record.1) then (record :: kept, some record.1, false)
    else (kept, last, true)
  (records.foldr step ([], none, false)).1

mutual

/-- The message of a type whose fields and extensions are in some records; `levels` of messages may
lie inside each other. -/
def messageOfRecords? (pool : Pool) (levels : Nat) (type : MessageType) (records : WireRecords) :
    Option Message :=
  match levels with
  | 0 => none
  | levels + 1 =>
    let settled :=
      type.oneofs.foldl (fun rest oneof => settleOneof oneof.members rest) records
    (type.fields ++ type.numberedExtensions).foldlM
      (fun (message : Message) (field : Field) =>
        match records.values field.number with
        | [] => some message
        | value :: values =>
          (fieldOfWire? pool levels field (value :: values)).map fun stored =>
            if settled.values field.number = [] then message
            else message.store field.number stored)
      (Message.empty type.fullName)
termination_by (levels, 0)

/-- What a field holds by the values of its records. -/
def fieldOfWire? (pool : Pool) (levels : Nat) (field : Field) (values : List WireValue) :
    Option Value :=
  match field.shape with
  | .singular => ofWire? pool levels field.type values
  | .list => do
    let elements ← values.mapM (WireValue.elements? field.type)
    let items ← elements.flatten.mapM fun element => ofWire? pool levels field.type [element]
    some (.list items)
  | .map key => do
    let entries ← values.mapM (entryOfWire? pool levels key field.type)
    some (.map (entries.foldl (fun acc entry => putEntry acc entry.1 entry.2) []))
termination_by (levels, 3)

/-- An entry of a map: a message in which a key and a value may be left out. -/
def entryOfWire? (pool : Pool) (levels : Nat) (key : ScalarType) (type : FieldType)
    (value : WireValue) : Option (MapKey × Value) := do
  let records ← value.bytes?.bind WireRecords.ofBytes?
  let key ←
    match records.values 1 with
    | [] => MapKey.ofValue? key.zero
    | value :: values =>
      (ofWire? pool levels (.scalar key) (value :: values)).bind MapKey.ofValue?
  let value ←
    match records.values 2 with
    | [] => some type.zero
    | value :: values => ofWire? pool levels type (value :: values)
  some (key, value)
termination_by (levels, 2)

/-- A single value of a type from the records of its field. -/
def ofWire? (pool : Pool) (levels : Nat) (type : FieldType) (values : List WireValue) :
    Option Value :=
  match type, values.getLast? with
  | _, none => none
  | .scalar type, some value => value.scalar? type
  | .enum _, some value =>
    match value with
    | .varint n => some (.enum (Int32.ofNat n))
    | _ => none
  | .message name, some _ => do
    let type ← pool.find? name
    let parts ← values.mapM WireValue.bytes?
    let records ← WireRecords.ofBytes? parts.flatten
    let message ← messageOfRecords? pool levels type records
    some message.toValue
termination_by (levels, 1)

end

end Value

namespace Message

/-- The message of a type in wire format. -/
def ofWire? (pool : Pool) (levels : Nat) (type : MessageType) (bytes : List UInt8) :
    Option Message :=
  (WireRecords.ofBytes? bytes).bind (Value.messageOfRecords? pool levels type)

end Message

end MessageConstraints
