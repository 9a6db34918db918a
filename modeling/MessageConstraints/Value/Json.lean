import MessageConstraints.Number.Arithmetic
import MessageConstraints.Text.Base64
import MessageConstraints.Value.WellKnown

/-!
# Messages from JSON

How a message is given as a JSON object.  A member is named by the JSON name or the plain name of
a field, or by the full name of an extension in brackets; null leaves the field unset, unless null
is a value of its type.  Integers may be written as texts or as whole floating point numbers,
floating point numbers as texts, enum values by name or number, bytes in base64.
Anything else is refused: unknown names, numbers out of range, two members of one oneof.
Messages of some well-known types have forms of their own.
-/

namespace MessageConstraints

namespace Json

/-! ## Scalars -/

/-- An integer within bounds.  A floating point number is held against the upper bound as a
floating point number, and brought down to the bound if that is above it. -/
def integer? (low high : Int) (read : List Char → Option Int) : Json → Option Int
  | number (.natural n) => within? low high n
  | number (.negative n) => within? low high (-n)
  | number (.real x) =>
    match x.toInt?, (Binary.ofInt .double high).toInt? with
    | some n, some ceiling => (within? low ceiling n).map (min high)
    | _, _ => none
  | string text => (read text.toList).bind (within? low high)
  | _ => none

/-- A signed integer of so many bits. -/
def signed? (bits : Nat) (json : Json) : Option Int :=
  let half : Int := (1 <<< (bits - 1) : Nat)
  json.integer? (-half) (half - 1) signedInteger?

/-- An unsigned integer of so many bits. -/
def unsigned? (bits : Nat) (json : Json) : Option Nat :=
  let high : Int := (1 <<< bits - 1 : Nat)
  (json.integer? 0 high fun cs => (unsignedInteger? cs).map Int.ofNat).map Int.toNat

/-- The floating point number that a text stands for. -/
def realText? (format : BinaryFormat) : String → Option (Binary format)
  | "Infinity" => some (.infinite false)
  | "-Infinity" => some (.infinite true)
  | "NaN" => some .nan
  | text => Binary.ofText? format text

/-- A double precision number. -/
def double? : Json → Option (Binary .double)
  | number (.natural n) => some (Binary.ofInt .double n)
  | number (.negative n) => some (Binary.ofInt .double (-n))
  | number (.real x) => some x
  | string text => realText? .double text
  | _ => none

/-- The size of the largest finite single precision number. -/
def largestSingle : Binary .double := .finite false (1 <<< 24 - 1) 104

/-- A single precision number.  One with a fraction or an exponent may not be larger than the
largest finite one. -/
def single? : Json → Option (Binary .single)
  | number (.natural n) => some (Binary.ofInt .single n)
  | number (.negative n) => some (Binary.ofInt .single (-n))
  | number (.real x) =>
    if x.le largestSingle && largestSingle.negate.le x then some (x.convert .single) else none
  | string text => realText? .single text
  | _ => none

/-- The number of an enum value. -/
def enum? (type : EnumType) : Json → Option Int32
  | null => if type.fullName = nullEnum then some 0 else none
  | string name => type.number? name
  | number (.natural n) => (signedWithin? 32 n).map Int32.ofInt
  | number (.negative n) => (signedWithin? 32 (-n)).map Int32.ofInt
  | _ => none

/-- A value of a scalar type. -/
def scalar? (type : ScalarType) (json : Json) : Option Value :=
  match type, json with
  | .double, _ => json.double?.map .double
  | .float, _ => json.single?.map .float
  | .int32, _ | .sint32, _ | .sfixed32, _ => (json.signed? 32).map fun n => .int32 (Int32.ofInt n)
  | .int64, _ | .sint64, _ | .sfixed64, _ => (json.signed? 64).map fun n => .int64 (Int64.ofInt n)
  | .uint32, _ | .fixed32, _ => (json.unsigned? 32).map fun n => .uint32 n.toUInt32
  | .uint64, _ | .fixed64, _ => (json.unsigned? 64).map fun n => .uint64 n.toUInt64
  | .bool, bool b => some (.bool b)
  | .string, string s => some (.string s)
  | .bytes, string s => (Base64.decode? s).map .bytes
  | _, _ => none

end Json

namespace MapKey

/-- The key of a scalar type that a text denotes. -/
def read? (type : ScalarType) (text : String) : Option MapKey :=
  (type.read? text).bind ofValue?

end MapKey

/-! ## Values that have no parts -/

namespace JsonForm

/-- A message whose form is neither an object nor an array. -/
def leaf? (form : JsonForm) (json : Json) : Option Value :=
  match form, json with
  | duration, .string text => (Moment.duration? text).map (Value.ofMoment "Duration")
  | timestamp, .string text => (Moment.timestamp? text).map (Value.ofMoment "Timestamp")
  | mask, .string text => Value.ofMask? text
  | value, json => some (.ofAnyJson json)
  | _, _ => none

/-- A wrapped scalar of a type with the given name. -/
def wrapped? (typeName : String) (type : ScalarType) (json : Json) : Option Value :=
  (json.scalar? type).map fun value =>
    .message typeName (if value.isZero then [] else [(1, value)])

end JsonForm

namespace Value

/-- A value of a type that is written as neither an object nor an array. -/
def leafOfJson? (type : FieldType) (json : Json) : Option Value :=
  match type with
  | .scalar type => json.scalar? type
  | .enum type => (json.enum? type).map .enum
  | .message name =>
    match JsonForm.ofTypeName? name with
    | some (.wrapper type) => JsonForm.wrapped? name type json
    | some form => form.leaf? json
    | none => none

/-- What null stands for in a field, if it does not leave the field unset. -/
def nullOf? (field : Field) : Option Value :=
  match field.shape, field.type with
  | .singular, .enum type => if type.fullName = nullEnum then some (.enum 0) else none
  | .singular, .message name => if JsonForm.ofTypeName? name = some .value then some null else none
  | _, _ => none

end Value

/-! ## Messages -/

namespace MessageType

/-- The field that a member of an object stands for; of fields that share a JSON name it is the
last one. -/
def memberField? (type : MessageType) (name : String) : Option Field :=
  (type.fields.reverse.find? fun field => field.jsonName = name) <|> type.field? name
    <|> type.extensions.find? fun field => field.jsonName = name

/-- Whether a message holds a field of the oneof that a field belongs to. -/
def excludes (type : MessageType) (message : Message) (field : Field) : Bool :=
  type.oneofs.any fun oneof =>
    oneof.members.contains field.number && oneof.members.any message.holds

end MessageType

namespace Value

mutual

/-- A value of a type in a shape. -/
def ofJson? (pool : Pool) (shape : FieldShape) (type : FieldType) : Json → Option Value
  | .object members =>
    match shape, type with
    | .singular, .message name =>
      match JsonForm.ofTypeName? name with
      | none =>
        (pool.find? name).bind fun type =>
          (membersOfJson? pool type none (.empty name) members).map Message.toValue
      | some .any =>
        (JsonForm.typeUrl? members).bind fun url =>
          ((JsonForm.typeNameOf? url).bind pool.named?).bind fun type =>
            let isPayload := (JsonForm.ofTypeName? type.fullName).isSome
            let isRead :=
              if isPayload then holdsPayload pool type.fullName false members
              else (membersOfJson? pool type (some JsonForm.typeMember) (.empty type.fullName)
                members).isSome
            if isRead then some (wellKnown "Any" [(1, string url)]) else none
      | some .struct => some (wellKnown "Struct" [(1, map (ofAnyMembers [] members))])
      | some .value => some (ofAnyJson (.object members))
      | some .empty => if members.isEmpty then some (message name []) else none
      | some _ => none
    | .map key, _ => (entriesOfJson? pool key type [] members).map .map
    | _, _ => none
  | .array items =>
    match shape, type with
    | .list, _ => (itemsOfJson? pool type items).map .list
    | .singular, .message name =>
      match JsonForm.ofTypeName? name with
      | some .list => some (wellKnown "ListValue" [(1, list (ofAnyItems items))])
      | some .value => some (ofAnyJson (.array items))
      | _ => none
    | _, _ => none
  | json =>
    match shape with
    | .singular => leafOfJson? type json
    | _ => none

/-- The elements of a list. -/
def itemsOfJson? (pool : Pool) (type : FieldType) : List Json → Option (List Value)
  | [] => some []
  | json :: rest =>
    match ofJson? pool .singular type json with
    | some item => (itemsOfJson? pool type rest).map (item :: ·)
    | none => none

/-- The entries of a map, added to those that are there. -/
def entriesOfJson? (pool : Pool) (key : ScalarType) (type : FieldType)
    (entries : List (MapKey × Value)) : List (String × Json) → Option (List (MapKey × Value))
  | [] => some entries
  | (name, json) :: rest =>
    match MapKey.read? key name, ofJson? pool .singular type json with
    | some key', some value => entriesOfJson? pool key type (putEntry entries key' value) rest
    | _, _ => none

/-- A message of a type to which the members of an object are added; the member with the name that
is passed over is not one of its fields. -/
def membersOfJson? (pool : Pool) (type : MessageType) (passed : Option String)
    (message : Message) : List (String × Json) → Option Message
  | [] => some message
  | (name, json) :: rest =>
    if passed = some name then membersOfJson? pool type passed message rest
    else
      match type.memberField? name with
      | none => none
      | some field =>
        let value := if json.isNull then some (nullOf? field)
          else (ofJson? pool field.shape field.type json).map some
        match value with
        | none => none
        | some none => membersOfJson? pool type passed message rest
        | some (some value) =>
          if type.excludes message field then none
          else membersOfJson? pool type passed (message.store field.number value) rest

/-- Whether the members of an object that names its type hold a message of this type in its own
form, under the name for values, and nothing else. -/
def holdsPayload (pool : Pool) (typeName : String) (isFound : Bool) :
    List (String × Json) → Bool
  | [] => isFound
  | (name, json) :: rest =>
    if name = JsonForm.typeMember then holdsPayload pool typeName isFound rest
    else if name = "value" then
      (ofJson? pool .singular (.message typeName) json).isSome
        && holdsPayload pool typeName true rest
    else false

end

end Value

namespace Message

/-- The message of a type that a JSON value stands for. -/
def ofJson? (pool : Pool) (type : MessageType) (json : Json) : Option Message :=
  (Value.ofJson? pool .singular (.message type.fullName) json).bind Value.asMessage?

end Message

end MessageConstraints
