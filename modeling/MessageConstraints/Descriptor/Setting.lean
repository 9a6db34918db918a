import MessageConstraints.Descriptor.Scope

/-!
# Settings of options

How a compiled file sets the options of an element.  Most settings are fields of the message that
holds the options, in wire format.  A file may also leave settings as they were written: a path of
names that leads from the options to a field, and the value for this field.  Names in brackets are
those of extensions and are looked up where the setting is written.
-/

namespace MessageConstraints

/-- A step on the way to an option: an extension by its full name, or a field by its name. -/
inductive OptionStep where
  | extension (fullName : String)
  | field (name : String)
deriving Repr, DecidableEq

/-- A value as it was written: at most one of a word, a number of some kind and a text. -/
structure WrittenValue where
  word : Option String
  integer : Option Int
  real : Option (Binary .double)
  text : Option (List UInt8)
deriving Repr

/-- A setting of options. -/
inductive WireSetting where
  | record (number : Nat) (value : WireValue)
  | written (path : List OptionStep) (value : WrittenValue)
deriving Repr

namespace WrittenValue

/-- The first whole number of a field that has any sign. -/
def integerOfWire (records : WireRecords) : Option Int :=
  let numbers (number : Nat) := (records.values number).filterMap WireRecords.varint?
  match (numbers 4).getLast?, (numbers 5).getLast? with
  | some n, _ => some n
  | none, some n => some (Int64.ofNat n).toInt
  | none, none => none

/-- A number that a record holds. -/
def realOfWire (records : WireRecords) : Option (Binary .double) :=
  match (records.values 6).getLast?.bind (WireValue.scalar? .double) with
  | some (.double x) => some x
  | _ => none

/-- A written value from its records. -/
def ofWire (records : WireRecords) : WrittenValue where
  word := records.text? 3
  integer := integerOfWire records
  real := realOfWire records
  text := (records.parts 7).getLast?

/-- A number of a format. -/
def float? (format : BinaryFormat) (value : WrittenValue) : Option (Binary format) :=
  match value.real, value.integer, value.word with
  | some x, _, _ => some (x.convert format)
  | none, some n, _ => some (Binary.ofInt format n)
  | none, none, some "inf" => some (.infinite false)
  | none, none, some "nan" => some .nan
  | _, _, _ => none

/-- A value of a scalar type. -/
def scalar? (value : WrittenValue) : ScalarType → Option Value
  | .double => (value.float? .double).map .double
  | .float => (value.float? .single).map .float
  | .int32 | .sint32 | .sfixed32 =>
    (value.integer.bind (signedWithin? 32)).map fun n => .int32 (Int32.ofInt n)
  | .int64 | .sint64 | .sfixed64 =>
    (value.integer.bind (signedWithin? 64)).map fun n => .int64 (Int64.ofInt n)
  | .uint32 | .fixed32 =>
    (value.integer.bind (within? 0 4294967295)).map fun n => .uint32 n.toNat.toUInt32
  | .uint64 | .fixed64 =>
    (value.integer.bind (within? 0 18446744073709551615)).map fun n => .uint64 n.toNat.toUInt64
  | .bool => (value.word.bind truthValue?).map .bool
  | .string => (value.text.bind Text.ofBytes?).map .string
  | .bytes => value.text.map .bytes

/-- A value of a type; messages cannot be written in this way. -/
def value? (value : WrittenValue) : FieldType → Option Value
  | .scalar type => value.scalar? type
  | .enum type => (value.word.bind type.number?).map .enum
  | .message _ => none

end WrittenValue

/-! ## Reading settings -/

namespace WireSetting

/-- The number of the field in which options keep settings as they were written. -/
def writtenNumber : Nat := 999

/-- A step from its records. -/
def stepOfWire (scope : Scope) (writtenIn : String) (records : WireRecords) :
    Except LinkError OptionStep :=
  let name := records.text 1
  if records.flag 2 then
    match scope.resolve? (· == .extension) writtenIn name with
    | some fullName => .ok (.extension fullName)
    | none => .error (.invalidOption name)
  else .ok (.field name)

/-- A setting as it was written from its records. -/
def writtenOfWire (scope : Scope) (writtenIn : String) (records : WireRecords) :
    Except LinkError WireSetting :=
  match records.messages? 2 with
  | none => .error .malformed
  | some steps => do
    let path ← steps.mapM (stepOfWire scope writtenIn)
    pure (.written path (.ofWire records))

/-- The settings in the options of an element with a full name. -/
def ofOptions (scope : Scope) (writtenIn : String) (options : WireOptions) :
    Except LinkError (List WireSetting) :=
  options.mapM fun (number, value) =>
    if number = writtenNumber then
      match value.bytes?.bind WireRecords.ofBytes? with
      | some records => writtenOfWire scope writtenIn records
      | none => .error .malformed
    else .ok (.record number value)

end WireSetting

/-! ## Options as messages -/

namespace MessageType

/-- The field that a step leads to. -/
def step? (type : MessageType) : OptionStep → Option Field
  | .extension fullName => type.extension? fullName
  | .field name => type.field? name

end MessageType

namespace Message

/-- Puts a written value where a path leads: at the end of a list, or into a field that is not set
yet; on the way there are single messages, new ones where there are none. -/
def assign? (pool : Pool) (value : WrittenValue) (type : MessageType) (message : Message) :
    List OptionStep → Option Message
  | [] => none
  | [step] => do
    let field ← type.step? step
    let value ← value.value? field.type
    match field.shape with
    | .singular => if message.holds field.number then none else message.store field.number value
    | .list =>
      match message.get field with
      | .list items => message.store field.number (.list (items ++ [value]))
      | _ => none
    | .map _ => none
  | step :: next :: rest => do
    let field ← type.step? step
    match field.shape, field.type with
    | .singular, .message name =>
      let nested ← (message.get field).asMessage?
      let changed ← assign? pool value (← pool.find? name) nested (next :: rest)
      some (message.store field.number changed.toValue)
    | _, _ => none

end Message

namespace WireSetting

/-- The message of a type that holds options with some settings. -/
def message? (pool : Pool) (type : MessageType) (settings : List WireSetting) :
    Option Message := do
  let records := settings.filterMap fun
    | record number value => some (number, value)
    | written _ _ => none
  let message ← Value.messageOfRecords? pool (FileForm.wireLevels + 1) type records
  settings.foldlM
    (fun message setting =>
      match setting with
      | record _ _ => some message
      | written path value => message.assign? pool value type path)
    message

/-- The extensions that are set in a message. -/
def extensionsIn (type : MessageType) (message : Message) : List OptionSetting :=
  type.numberedExtensions.filterMap fun field =>
    (message.stored? field.number).map fun value => ⟨field.fullName, field.number, value⟩

/-- The settings of extensions in options of a type.  If the type is not declared, options are read
as messages of the well-known one, which has no extensions. -/
def read (table : TypeTable) (optionsType : String) (settings : List WireSetting) :
    Except LinkError (List OptionSetting) :=
  let owner := if table.messages.contains optionsType then table else WellKnown.table
  match owner.messages.find? optionsType with
  | none => .error (.unknownType optionsType)
  | some type =>
    match message? owner.messages type settings with
    | some message => .ok (extensionsIn type message)
    | none => .error (.invalidOption optionsType)

end WireSetting

end MessageConstraints
