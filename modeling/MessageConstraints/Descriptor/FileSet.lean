import MessageConstraints.Descriptor.Numbering
import MessageConstraints.Descriptor.Setting

/-!
# Descriptor sets

From the files of a descriptor set to a pool of types.  The files are declarations once every name
in them is a full one; oneofs that only track the presence of a field are taken up into that field.
The options of all elements have to be readable, also of those that no constraints are attached to.
-/

namespace MessageConstraints

namespace ScalarType

/-- The scalar type that the kind of a field stands for; a kind that is missing or unknown stands
for the first one.  Groups, messages and enums are no scalar types. -/
def ofKind? : Nat → Option ScalarType
  | 2 => some float
  | 3 => some int64
  | 4 => some uint64
  | 5 => some int32
  | 6 => some fixed64
  | 7 => some fixed32
  | 8 => some bool
  | 9 => some string
  | 10 | 11 | 14 => none
  | 12 => some bytes
  | 13 => some uint32
  | 15 => some sfixed32
  | 16 => some sfixed64
  | 17 => some sint32
  | 18 => some sint64
  | _ => some double

end ScalarType

/-! ## Declarations -/

namespace FieldForm

/-- The type of a field: what its type's name stands for, or else what its kind says. -/
def type (scope : Scope) (field : FieldForm) : Except LinkError TypeName :=
  if field.typeName.isEmpty then
    match ScalarType.ofKind? field.kind with
    | some type => .ok (.scalar type)
    | none => .error (.unknownType field.typeName)
  else
    match scope.resolve? (·.isType) field.place.fullName field.typeName with
    | none => .error (.unknownType field.typeName)
    | some fullName =>
      if (scope.definition? fullName).any (·.kind == .enum) then .ok (.enum fullName)
      else .ok (.message fullName)

/-- The position of the oneof that a field is in. -/
def oneofPosition? (oneofs : List OneofForm) (field : FieldForm) :
    Except LinkError (Option Nat) :=
  match field.oneof with
  | none => .ok none
  | some (.ofNat position) =>
    if position < oneofs.length then .ok (some position)
    else .error (.noSuchPosition position)
  | some (.negSucc n) => .error (.noSuchPosition (.negSucc n))

/-- A field of a message type with some oneofs, of which those at the given positions only track
the presence of a field. -/
def declaration (scope : Scope) (oneofs : List OneofForm) (tracking : List Nat)
    (field : FieldForm) : Except LinkError (FieldDeclaration WireSetting) := do
  let type ← field.type scope
  let position ← field.oneofPosition? oneofs
  let options ← WireSetting.ofOptions scope field.place.fullName field.options
  let isOptional := position.any tracking.contains
  pure {
    name := field.place.name, number := field.number.toNat, type,
    shape := if field.isRepeated then .list else .singular,
    oneof := if isOptional then none else
      (position.bind fun position => oneofs[position]?).map (·.place.name),
    isOptional, defaultText := field.defaultText, jsonName := field.jsonName, options }

/-- An extension; its number has to lie in a range that the extended type leaves to extensions. -/
def extension (scope : Scope) (messages : List MessageForm) (field : FieldForm) :
    Except LinkError ExtensionDeclaration := do
  let type ← field.type scope
  match scope.resolve? (· == .message) field.place.fullName field.extendee with
  | none => throw (.unknownType field.extendee)
  | some extendee =>
    let ranges := (messages.filter (·.place.fullName = extendee)).flatMap (·.extensible)
    unless ranges.any (·.covers field.number) do
      throw (.invalidNumber field.place.fullName field.number)
    pure ⟨field.place.fullName, extendee, field.number.toNat, type, field.isRepeated⟩

end FieldForm

namespace MessageForm

/-- The positions of the oneofs that only track the presence of a field: the field is the only one
in them, and marked as optional. -/
def trackingOneofs (message : MessageForm) : List Nat :=
  (List.range message.oneofs.length).filter fun position =>
    match message.fields.filter (·.oneof = some (position : Int)) with
    | [field] => field.isOptional
    | _ => false

/-- A message type. -/
def declaration (scope : Scope) (message : MessageForm) :
    Except LinkError (MessageDeclaration WireSetting) := do
  let tracking := message.trackingOneofs
  let fields ← message.fields.mapM (·.declaration scope message.oneofs tracking)
  let oneofs ← message.oneofs.mapM fun oneof => do
    let options ← WireSetting.ofOptions scope oneof.place.fullName oneof.options
    pure (⟨oneof.place.name, options⟩ : OneofDeclaration WireSetting)
  let options ← WireSetting.ofOptions scope message.place.fullName message.options
  let kept := oneofs.zipIdx.filter fun (_, position) => !tracking.contains position
  pure ⟨message.place.fullName, message.isEntry, fields, kept.map (·.1), options⟩

end MessageForm

namespace EnumForm

/-- The enum that a form describes. -/
def type (form : EnumForm) : EnumType :=
  ⟨form.place.fullName, form.values.map fun value => (value.name, Int32.ofInt value.number)⟩

end EnumForm

namespace FileForm

/-- Refuses a method whose messages have unknown types. -/
def checkMethod (scope : Scope) (method : MethodForm) : Except LinkError Unit :=
  match [method.input, method.output].find? fun name =>
    (scope.resolve? (· == .message) method.place.fullName name).isNone with
  | some name => .error (.unknownType name)
  | none => .ok ()

/-- The declarations in a file among others. -/
def declarations (files : List FileForm) (scope : Scope) (file : FileForm) :
    Except LinkError (Declarations WireSetting) := do
  file.checkParts
  for service in file.services do
    for method in service.methods do checkMethod scope method
  let messages ← file.body.messages.mapM (·.declaration scope)
  let all := files.flatMap (·.body.messages)
  let extensions ← file.body.extensions.mapM (·.extension scope all)
  pure ⟨messages, file.body.enums.map (·.type), extensions⟩

/-! ## Other options -/

/-- The options in a file that no constraints are attached to: the name of the type of the messages
that hold them, the full name of the element, and the options. -/
def otherOptions (file : FileForm) : List (String × String × WireOptions) :=
  let body := file.body
  [("FileOptions", file.package, file.options)]
    ++ body.messages.flatMap (fun message =>
      message.extensibleOptions.map fun options =>
        ("ExtensionRangeOptions", message.place.fullName, options))
    ++ body.enums.flatMap (fun type =>
      ("EnumOptions", type.place.fullName, type.options)
        :: type.values.map fun value =>
          ("EnumValueOptions", qualifiedName type.place.scope value.name, value.options))
    ++ body.extensions.map (fun field => ("FieldOptions", field.place.fullName, field.options))
    ++ file.services.flatMap (fun service =>
      ("ServiceOptions", service.place.fullName, service.options)
        :: service.methods.map fun method =>
          ("MethodOptions", method.place.fullName, method.options))

/-- Refuses a file with options that cannot be read. -/
def checkOtherOptions (table : TypeTable) (scope : Scope) (file : FileForm) :
    Except LinkError Unit := do
  for (type, writtenIn, options) in file.otherOptions do
    let settings ← WireSetting.ofOptions scope writtenIn options
    let _ ← WireSetting.read table (WellKnown.fullName type) settings

/-! ## Types -/

/-- Refuses files of which two have the same name. -/
def checkNames (files : List FileForm) : Except LinkError Unit :=
  match files.find? fun file => 1 < files.countP (·.name = file.name) with
  | some file => .error (.duplicateName file.name)
  | none => .ok ()

/-- The types of some files. -/
def link (files : List FileForm) : Except LinkError TypeTable := do
  checkNames files
  let definitions ← Definitions.ofFiles files
  let visible ← visibleFiles files
  let pairs := files.zip (visible.map fun positions => Scope.mk definitions positions)
  let parts ← pairs.mapM fun (file, scope) => file.declarations files scope
  let table ← (Declarations.concat parts).link .empty WireSetting.read
  for (file, scope) in pairs do file.checkOtherOptions table scope
  pure table

end FileForm

namespace Pool

/-- The message types of a descriptor set. -/
def ofDescriptorSet (bytes : List UInt8) : Except LinkError Pool :=
  match FileForm.ofDescriptorSet? bytes with
  | none => .error .malformed
  | some files => (FileForm.link files).map (·.messages)

/-- The message types of a descriptor set; none if it is broken. -/
def ofDescriptorSet? (bytes : List UInt8) : Option Pool :=
  (ofDescriptorSet bytes).toOption

end Pool

end MessageConstraints
