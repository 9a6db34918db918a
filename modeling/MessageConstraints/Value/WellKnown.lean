import MessageConstraints.Descriptor.WellKnown
import MessageConstraints.Json.Basic
import MessageConstraints.Text.Split
import MessageConstraints.Value.Moment

/-!
# Well-known types in JSON

Messages of some well-known types are not objects in JSON but what they stand for: durations and
timestamps are texts, wrapped scalars are written without the wrapper, and any JSON value is a
message of the type for such values.  Fields that hold zero are left out of these messages.
-/

namespace MessageConstraints

/-- How messages of a well-known type are written in JSON. -/
inductive JsonForm where
  /-- A message of a type that it names itself. -/
  | any
  | duration
  | timestamp
  /-- Names of fields with commas between them. -/
  | mask
  /-- An object with any members. -/
  | struct
  /-- An array with any elements. -/
  | list
  /-- Any value. -/
  | value
  /-- An object without members. -/
  | empty
  | wrapper (type : ScalarType)
deriving Repr, DecidableEq

namespace JsonForm

/-- The forms by the names of the types that have one. -/
def table : List (String × JsonForm) := [
  ("Any", any), ("Duration", duration), ("Timestamp", timestamp), ("FieldMask", mask),
  ("Struct", struct), ("ListValue", list), ("Value", value), ("Empty", empty),
  ("DoubleValue", wrapper .double), ("FloatValue", wrapper .float),
  ("Int64Value", wrapper .int64), ("UInt64Value", wrapper .uint64),
  ("Int32Value", wrapper .int32), ("UInt32Value", wrapper .uint32),
  ("BoolValue", wrapper .bool), ("StringValue", wrapper .string),
  ("BytesValue", wrapper .bytes)]

/-- The form of the messages of a type, if they have one of their own. -/
def ofTypeName? (typeName : String) : Option JsonForm :=
  (table.find? fun entry => WellKnown.fullName entry.1 = typeName).map (·.2)

end JsonForm

/-- The enum whose only value is written as null. -/
def nullEnum : String := WellKnown.fullName "NullValue"

namespace Value

/-- Whether a value is the zero of its type. -/
def isZero : Value → Bool
  | bool b => !b
  | value => !value.isSet

/-- A message of a well-known type with some fields, those that hold zero left out. -/
def wellKnown (name : String) (fields : List (Nat × Value)) : Value :=
  message (WellKnown.fullName name) (fields.filter fun field => !field.2.isZero)

/-- A duration or a timestamp. -/
def ofMoment (name : String) (moment : Moment) : Value :=
  wellKnown name [(1, int64 (Int64.ofInt moment.seconds)), (2, int32 (Int32.ofInt moment.nanos))]

/-! ## Any values -/

/-- A message that holds any value, as what it is. -/
def kindOf (number : Nat) (value : Value) : Value :=
  message (WellKnown.fullName "Value") [(number, value)]

/-- Null as any value. -/
def null : Value := kindOf 1 (enum 0)

/-- A number as any value. -/
def ofNumber : JsonNumber → Value
  | .natural n => kindOf 2 (double (Binary.ofInt .double n))
  | .negative n => kindOf 2 (double (Binary.ofInt .double (-n)))
  | .real x => kindOf 2 (double x)

mutual

/-- A JSON value as a message that holds any value. -/
def ofAnyJson : Json → Value
  | .null => null
  | .bool b => kindOf 4 (bool b)
  | .number n => ofNumber n
  | .string s => kindOf 3 (string s)
  | .array items => kindOf 6 (wellKnown "ListValue" [(1, list (ofAnyItems items))])
  | .object members => kindOf 5 (wellKnown "Struct" [(1, map (ofAnyMembers [] members))])

/-- The elements of an array as messages that hold any value. -/
def ofAnyItems : List Json → List Value
  | [] => []
  | json :: rest => ofAnyJson json :: ofAnyItems rest

/-- The members of an object as messages that hold any value, added to those that are there. -/
def ofAnyMembers (entries : List (MapKey × Value)) : List (String × Json) →
    List (MapKey × Value)
  | [] => entries
  | (name, json) :: rest => ofAnyMembers (putEntry entries (.string name) (ofAnyJson json)) rest

end

/-! ## Field masks -/

/-- A name in which every capital letter is written small after an underscore; one that has
underscores already is none. -/
def maskPath? (cs : List Char) : Option String :=
  if cs.contains '_' then none
  else some (String.ofList (cs.flatMap fun c => if c.isUpper then ['_', c.toLower] else [c]))

/-- The names in a field mask. -/
def ofMask? (text : String) : Option Value := do
  let paths := (text.splitOn ",").filter (! ·.isEmpty)
  let names ← paths.mapM fun path => maskPath? path.toList
  some (wellKnown "FieldMask" [(1, list (names.map string))])

end Value

/-! ## Messages that name their type -/

namespace JsonForm

/-- The member of an object by which a message names its type. -/
def typeMember : String := "@type"

/-- The text by which the members of an object name a type, which they have to do once. -/
def typeUrl? (members : List (String × Json)) : Option String :=
  match members.filter (·.1 = typeMember) with
  | [(_, .string url)] => some url
  | _ => none

/-- The full name of the type that a text names: what follows its last slash. -/
def typeNameOf? (url : String) : Option String :=
  match (url.splitOn "/").reverse with
  | name :: _ :: _ => some name
  | _ => none

end JsonForm

end MessageConstraints
