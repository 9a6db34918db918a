import MessageConstraints.Descriptor.WellKnown
import MessageConstraints.Wire.Value

/-!
# Compiled files

The files of a descriptor set as the schema compiler writes them: messages in wire format, in which
message types lie inside files and inside each other.  Here every definition stands by itself and
knows the scope that it lies in; names are still as they are written, numbers have not been
checked, and options stay in wire format.

A descriptor set is read as a message of the well-known type for it first.  This settles that every
record has the kind that its field asks for, so that the readers of this module need only look at
the records of that kind.
-/

namespace MessageConstraints

/-! ## Reading fields -/

namespace WireRecords

/-- The bytes of the records of a field. -/
def parts (records : WireRecords) (number : Nat) : List (List UInt8) :=
  (records.values number).filterMap WireValue.bytes?

/-- The messages of a field. -/
def messages? (records : WireRecords) (number : Nat) : Option (List WireRecords) :=
  (records.parts number).mapM ofBytes?

/-- The parts of a message field put together; a message that is not there is empty. -/
def merged? (records : WireRecords) (number : Nat) : Option WireRecords :=
  ofBytes? (records.parts number).flatten

/-- The texts of a field. -/
def texts (records : WireRecords) (number : Nat) : List String :=
  (records.parts number).map Text.ofBytes

/-- A text field, if it is there. -/
def text? (records : WireRecords) (number : Nat) : Option String :=
  (records.texts number).getLast?

/-- A text field, empty if it is not there. -/
def text (records : WireRecords) (number : Nat) : String :=
  (records.text? number).getD ""

/-- The number of a record that holds one by itself. -/
def varint? : WireValue → Option Nat
  | .varint n => some n
  | _ => none

/-- An integer field, if it is there. -/
def integer? (records : WireRecords) (number : Nat) : Option Int :=
  ((records.values number).filterMap varint?).getLast?.map fun n => (Int32.ofNat n).toInt

/-- An integer field, zero if it is not there. -/
def integer (records : WireRecords) (number : Nat) : Int :=
  (records.integer? number).getD 0

/-- Whether a truth value is there and true. -/
def flag (records : WireRecords) (number : Nat) : Bool :=
  ((records.values number).filterMap varint?).getLast?.any (· != 0)

/-- The integers of a list field, each in a record or many packed into one. -/
def integers? (records : WireRecords) (number : Nat) : Option (List Int) := do
  let elements ← (records.values number).mapM (WireValue.elements? (.scalar .int32))
  some ((elements.flatten.filterMap varint?).map fun n => (Int32.ofNat n).toInt)

end WireRecords

/-! ## Definitions -/

/-- A definition: its name and the full name of what it lies in. -/
structure Place where
  scope : String
  name : String
deriving Repr, DecidableEq

namespace Place

/-- The full name of a definition. -/
def fullName (place : Place) : String := qualifiedName place.scope place.name

/-- A definition in a scope by the name that its records give it. -/
def ofWire (scope : String) (records : WireRecords) : Place := ⟨scope, records.text 1⟩

end Place

/-- A range of numbers from the first one up to, but not including, the last one. -/
structure NumberRange where
  first : Int
  last : Int
deriving Repr, DecidableEq

namespace NumberRange

/-- Whether a number lies in a range. -/
def covers (range : NumberRange) (number : Int) : Bool :=
  decide (range.first ≤ number ∧ number < range.last)

/-- The ranges of a field. -/
def listOfWire? (records : WireRecords) (number : Nat) : Option (List NumberRange) := do
  let ranges ← records.messages? number
  some (ranges.map fun range => ⟨range.integer 1, range.integer 2⟩)

end NumberRange

/-- Options in wire format. -/
abbrev WireOptions := WireRecords

/-- A field or an extension as a file gives it.  The kind of its type is a number; the name of its
type, and that of the type that it extends, are empty if they are not given. -/
structure FieldForm where
  place : Place
  number : Int
  isRepeated : Bool
  kind : Nat
  typeName : String
  extendee : String
  defaultText : Option String
  jsonName : Option String
  oneof : Option Int
  isOptional : Bool
  options : WireOptions

/-- A oneof as a file gives it. -/
structure OneofForm where
  place : Place
  options : WireOptions

/-- A value of an enum as a file gives it. -/
structure EnumValueForm where
  name : String
  number : Int
  options : WireOptions

/-- An enum as a file gives it. -/
structure EnumForm where
  place : Place
  values : List EnumValueForm
  reserved : List NumberRange
  allowsAliases : Bool
  options : WireOptions

/-- A message type as a file gives it, without the definitions inside it. -/
structure MessageForm where
  place : Place
  fields : List FieldForm
  oneofs : List OneofForm
  reserved : List NumberRange
  extensible : List NumberRange
  extensibleOptions : List WireOptions
  isEntry : Bool
  options : WireOptions

/-- A method of a service as a file gives it. -/
structure MethodForm where
  place : Place
  input : String
  output : String
  options : WireOptions

/-- A service as a file gives it. -/
structure ServiceForm where
  place : Place
  methods : List MethodForm
  options : WireOptions

/-- Definitions wherever they lie in a file. -/
structure FileBody where
  messages : List MessageForm
  enums : List EnumForm
  extensions : List FieldForm

/-- A file: its name, its package, the names of the files that it imports with the positions
of those that it passes on, and what it defines. -/
structure FileForm where
  name : String
  package : String
  edition : Option String
  imports : List String
  publicImports : List Int
  weakImports : List Int
  body : FileBody
  services : List ServiceForm
  options : WireOptions

/-! ## Reading definitions -/

namespace FieldForm

/-- A field. -/
def ofWire? (scope : String) (records : WireRecords) : Option FieldForm := do
  let options ← records.merged? 8
  some {
    place := .ofWire scope records, number := records.integer 3,
    isRepeated := records.integer 4 == 3, kind := (records.integer 5).toNat,
    typeName := records.text 6, extendee := records.text 2, defaultText := records.text? 7,
    jsonName := records.text? 10, oneof := records.integer? 9, isOptional := records.flag 17,
    options }

end FieldForm

namespace OneofForm

/-- A oneof. -/
def ofWire? (scope : String) (records : WireRecords) : Option OneofForm :=
  (records.merged? 2).map fun options => ⟨.ofWire scope records, options⟩

end OneofForm

namespace EnumForm

/-- A value of an enum. -/
def valueOfWire? (records : WireRecords) : Option EnumValueForm :=
  (records.merged? 3).map fun options => ⟨records.text 1, records.integer 2, options⟩

/-- An enum.  The ranges that it reserves include their last number. -/
def ofWire? (scope : String) (records : WireRecords) : Option EnumForm := do
  let values ← records.messages? 2
  let values ← values.mapM valueOfWire?
  let options ← records.merged? 3
  let reserved ← NumberRange.listOfWire? records 4
  some {
    place := .ofWire scope records, values,
    reserved := reserved.map fun range => { range with last := range.last + 1 },
    allowsAliases := options.flag 2, options }

end EnumForm

namespace MessageForm

/-- A message type, without the definitions inside it. -/
def ofWire? (scope : String) (records : WireRecords) : Option MessageForm := do
  let place := Place.ofWire scope records
  let fields ← records.messages? 2
  let fields ← fields.mapM (FieldForm.ofWire? place.fullName)
  let oneofs ← records.messages? 8
  let oneofs ← oneofs.mapM (OneofForm.ofWire? place.fullName)
  let reserved ← NumberRange.listOfWire? records 9
  let extensible ← NumberRange.listOfWire? records 5
  let ranges ← records.messages? 5
  let extensibleOptions ← ranges.mapM (·.merged? 3)
  let options ← records.merged? 7
  some {
    place, fields, oneofs, reserved, extensible, extensibleOptions,
    isEntry := options.flag 7, options }

end MessageForm

namespace ServiceForm

/-- A method of a service. -/
def methodOfWire? (scope : String) (records : WireRecords) : Option MethodForm :=
  (records.merged? 4).map fun options =>
    ⟨.ofWire scope records, records.text 2, records.text 3, options⟩

/-- A service. -/
def ofWire? (scope : String) (records : WireRecords) : Option ServiceForm := do
  let place := Place.ofWire scope records
  let methods ← records.messages? 2
  let methods ← methods.mapM (methodOfWire? place.fullName)
  let options ← records.merged? 3
  some ⟨place, methods, options⟩

end ServiceForm

namespace FileBody

/-- Nothing defined. -/
def empty : FileBody := ⟨[], [], []⟩

/-- What both define. -/
def append (first second : FileBody) : FileBody where
  messages := first.messages ++ second.messages
  enums := first.enums ++ second.enums
  extensions := first.extensions ++ second.extensions

/-- The definitions in a scope whose message types, enums and extensions are the fields with the
given numbers, and all definitions inside them; `levels` of message types may lie inside each
other. -/
def ofWire? (messages enums extensions : Nat) : (levels : Nat) → (scope : String) →
    WireRecords → Option FileBody
  | 0, _, _ => none
  | levels + 1, scope, records => do
    let inner ← records.messages? messages
    let forms ← inner.mapM (MessageForm.ofWire? scope)
    let bodies ← inner.mapM fun message =>
      ofWire? 3 4 6 levels (Place.ofWire scope message).fullName message
    let enums ← records.messages? enums
    let enums ← enums.mapM (EnumForm.ofWire? scope)
    let extensions ← records.messages? extensions
    let extensions ← extensions.mapM (FieldForm.ofWire? scope)
    some (bodies.foldl append ⟨forms, enums, extensions⟩)

end FileBody

namespace FileForm

/-- How many levels messages in wire format may lie inside each other. -/
def wireLevels : Nat := 100

/-- A file. -/
def ofWire? (records : WireRecords) : Option FileForm := do
  let package := records.text 2
  let publicImports ← records.integers? 10
  let weakImports ← records.integers? 11
  let body ← FileBody.ofWire? 4 5 7 wireLevels package records
  let services ← records.messages? 6
  let services ← services.mapM (ServiceForm.ofWire? package)
  let options ← records.merged? 8
  some {
    name := records.text 1, package, edition := records.text? 12, imports := records.texts 3,
    publicImports, weakImports, body, services, options }

/-- Whether a file follows the older rules, by which fields may have defaults of their own and
enums need not begin with zero; none if its rules are unknown. -/
def isOlder? (file : FileForm) : Option Bool :=
  match file.edition with
  | none | some "proto2" => some true
  | some "proto3" => some false
  | some _ => none

/-- The files of a descriptor set. -/
def ofDescriptorSet? (bytes : List UInt8) : Option (List FileForm) := do
  let type ← WellKnown.table.messages.find? (WellKnown.fullName "FileDescriptorSet")
  let _ ← Message.ofWire? WellKnown.table.messages (wireLevels + 1) type bytes
  let records ← WireRecords.ofBytes? bytes
  let files ← records.messages? 1
  files.mapM ofWire?

end FileForm

end MessageConstraints
