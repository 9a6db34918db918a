import MessageConstraints.NameMap
import MessageConstraints.Value

/-!
# Descriptors

The declarations of message types: their fields in the order of their numbers, their oneofs in
the order of declaration, and the options set on each of them.  A field names the type of the
messages it holds; the types themselves are kept in a pool, and several pools, which may declare
the same names differently, make up a catalog.
-/

namespace MessageConstraints

/-- The types of fields that are neither enums nor messages. -/
inductive ScalarType where
  | double | float
  | int32 | int64 | uint32 | uint64 | sint32 | sint64
  | fixed32 | fixed64 | sfixed32 | sfixed64
  | bool | string | bytes
deriving Repr, DecidableEq

/-- The families of scalar types that constraints tell apart. -/
inductive ScalarFamily where
  | signed
  | unsigned
  | float
  | string
  | bytes
  | bool
deriving Repr, DecidableEq

namespace ScalarFamily

/-- Whether the values of a family are numbers. -/
def isNumeric : ScalarFamily → Bool
  | signed | unsigned | float => true
  | _ => false

end ScalarFamily

namespace ScalarType

/-- The family of a scalar type. -/
def family : ScalarType → ScalarFamily
  | int32 | int64 | sint32 | sint64 | sfixed32 | sfixed64 => .signed
  | uint32 | uint64 | fixed32 | fixed64 => .unsigned
  | float | double => .float
  | string => .string
  | bytes => .bytes
  | bool => .bool

/-- The zero or empty value of a scalar type. -/
def zero : ScalarType → Value
  | double => .double .zero
  | float => .float .zero
  | int32 | sint32 | sfixed32 => .int32 0
  | int64 | sint64 | sfixed64 => .int64 0
  | uint32 | fixed32 => .uint32 0
  | uint64 | fixed64 => .uint64 0
  | bool => .bool false
  | string => .string ""
  | bytes => .bytes []

end ScalarType

/-- An enum: its full name and its values in the order of declaration. -/
structure EnumType where
  fullName : String
  values : List (String × Int32)
deriving Repr, DecidableEq

namespace EnumType

/-- The number of the value that is declared first. -/
def firstNumber (type : EnumType) : Int32 :=
  match type.values with
  | (_, number) :: _ => number
  | [] => 0

/-- The number of the value with a name. -/
def number? (type : EnumType) (name : String) : Option Int32 :=
  type.values.lookup name

end EnumType

/-- The type of a field's values, or of their elements. -/
inductive FieldType where
  | scalar (type : ScalarType)
  | enum (type : EnumType)
  | message (fullName : String)
deriving Repr, DecidableEq

namespace FieldType

/-- The value that stands for an absent one. -/
def zero : FieldType → Value
  | scalar type => type.zero
  | enum type => .enum type.firstNumber
  | message fullName => .message fullName []

end FieldType

/-- Whether a field holds one value, a list of them, or a map from keys to them. -/
inductive FieldShape where
  | singular
  | list
  | map (key : ScalarType)
deriving Repr, DecidableEq

/-- An option set on a declaration: the full name and number of the extension, and its value. -/
structure OptionSetting where
  name : String
  number : Nat
  value : Value
deriving Repr

/-- A field of a message type.  A map's `type` is that of its values. -/
structure Field where
  name : String
  fullName : String
  jsonName : String
  number : Nat
  type : FieldType
  shape : FieldShape
  declaredDefault : Option Value
  options : List OptionSetting
deriving Repr

namespace Field

/-- What is read from a field in which nothing is stored. -/
def default (field : Field) : Value :=
  match field.shape with
  | .singular => field.declaredDefault.getD field.type.zero
  | .list => .list []
  | .map _ => .map []

/-- The name of the message type that a field's values, elements or entries have. -/
def nested? (field : Field) : Option String :=
  match field.type with
  | .message fullName => some fullName
  | _ => none

end Field

/-- A group of fields of which at most one is set.  A synthetic one stands for the presence of a
single field and takes no constraints. -/
structure Oneof where
  name : String
  fullName : String
  members : List Nat
  isSynthetic : Bool
  options : List OptionSetting
deriving Repr

/-- A message type: its fields by ascending number, its oneofs as declared, and the extensions,
which are fields that are declared elsewhere and that its messages may hold as well. -/
structure MessageType where
  fullName : String
  fields : List Field
  oneofs : List Oneof
  extensions : List Field
  options : List OptionSetting
deriving Repr

namespace MessageType

/-- The field with a name. -/
def field? (type : MessageType) (name : String) : Option Field :=
  type.fields.find? fun field => field.name = name

/-- The extension with a full name. -/
def extension? (type : MessageType) (fullName : String) : Option Field :=
  type.extensions.find? fun field => field.fullName = fullName

/-- The extensions by which numbers are read: of several with one number, the first. -/
def numberedExtensions (type : MessageType) : List Field :=
  type.extensions.eraseDupsBy fun first second => first.number == second.number

/-- Whether a name is that of a oneof that takes constraints. -/
def hasOneof (type : MessageType) (name : String) : Bool :=
  type.oneofs.any fun oneof => !oneof.isSynthetic && oneof.name = name

end MessageType

/-- Message types that refer to each other by full name. -/
abbrev Pool := NameMap MessageType

/-- A full name without the point that may stand before it. -/
def bareName (name : String) : String :=
  match name.toList with
  | '.' :: rest => String.ofList rest
  | _ => name

namespace Pool

/-- The message type that a name stands for; a point before the full name does not matter. -/
def named? (pool : Pool) (name : String) : Option MessageType :=
  pool.find? (bareName name)

end Pool

/-- A message type's full name in one of the pools of a catalog. -/
structure TypeRef where
  pool : Nat
  name : String
deriving Repr, DecidableEq

/-- Independent pools of message types. -/
structure Catalog where
  pools : List Pool
deriving Repr

namespace Catalog

/-- The catalog of a single pool. -/
def single (pool : Pool) : Catalog := ⟨[pool]⟩

/-- The pool with a position, empty beyond the last one. -/
def pool (catalog : Catalog) (position : Nat) : Pool :=
  catalog.pools.getD position .empty

/-- The message type that a reference names. -/
def type? (catalog : Catalog) (ref : TypeRef) : Option MessageType :=
  (catalog.pool ref.pool).find? ref.name

/-- The names that are declared in any of the pools. -/
def names (catalog : Catalog) : List String :=
  catalog.pools.flatMap NameMap.names

end Catalog

/-! ## Reading fields -/

namespace Message

/-- What a field holds in a message: the value stored under its number, or its default. -/
def get (message : Message) (field : Field) : Value :=
  (message.stored? field.number).getD field.default

/-- Whether a field counts as set.  A singular message field is set if something is stored;
every other field is set if what it holds is. -/
def isSet (message : Message) (field : Field) : Bool :=
  match field.shape, field.type with
  | .singular, .message _ => message.holds field.number
  | _, _ => (message.get field).isSet

end Message

end MessageConstraints
