import MessageConstraints.Descriptor.Declaration
import MessageConstraints.Number.Reading
import MessageConstraints.Text.Unescaped

/-!
# Linking declarations

From declarations to types: names are looked up, defaults are read, fields are put in the order of
their numbers, and options are read.  The values of options can be messages, so options are read in
a second round, when all types are known but for their options.
-/

namespace MessageConstraints

/-- Why declarations do not fit together. -/
inductive LinkError where
  | malformed
  | unknownRules (file : String)
  | unknownFile (name : String)
  | noSuchPosition (position : Int)
  | unknownType (name : String)
  | invalidNumber (name : String) (number : Int)
  | conflictingNames (owner : String)
  | invalidEnum (name : String)
  | duplicateName (name : String)
  | invalidDefault (field text : String)
  | invalidOption (name : String)
deriving Repr, DecidableEq

/-- Linked types, and the types of keys and values by the type of the entries that hold them. -/
structure TypeTable where
  messages : Pool
  enums : NameMap EnumType
  entries : NameMap (ScalarType × TypeName)

namespace TypeTable

/-- The table without any type. -/
def empty : TypeTable := ⟨.empty, .empty, .empty⟩

instance : Inhabited TypeTable := ⟨empty⟩

end TypeTable

/-! ## Defaults -/

/-- The truth value that a word names. -/
def truthValue? : String → Option Bool
  | "true" => some true
  | "false" => some false
  | _ => none

namespace ScalarType

/-- The value that a text denotes for a scalar type. -/
def read? (type : ScalarType) (text : String) : Option Value :=
  let signed (bits : Nat) : Option Int :=
    (signedInteger? text.toList).bind (signedWithin? bits)
  let unsigned (bits : Nat) : Option Nat :=
    (unsignedInteger? text.toList).bind (unsignedWithin? bits)
  match type with
  | double => (Binary.ofText? .double text).map .double
  | float => (Binary.ofText? .single text).map .float
  | int32 | sint32 | sfixed32 => (signed 32).map fun n => .int32 (Int32.ofInt n)
  | int64 | sint64 | sfixed64 => (signed 64).map fun n => .int64 (Int64.ofInt n)
  | uint32 | fixed32 => (unsigned 32).map fun n => .uint32 n.toUInt32
  | uint64 | fixed64 => (unsigned 64).map fun n => .uint64 n.toUInt64
  | bool => (truthValue? text).map .bool
  | string => some (.string text)
  | bytes => (Text.unescape? .plain text.toList).map .bytes

end ScalarType

namespace FieldType

/-- The value that the text of a declared default denotes. -/
def readDefault? (type : FieldType) (text : String) : Option Value :=
  match type with
  | scalar type => type.read? text
  | enum type => (type.number? text).map .enum
  | message _ => none

end FieldType

/-! ## Options -/

namespace OptionSetting

/-- Whether an option is there once it is set: a list only if it is not empty. -/
def isPresent (setting : OptionSetting) : Bool :=
  match setting.value with
  | .list items => !items.isEmpty
  | _ => true

/-- Puts a setting in its place among settings by ascending number, for one of its own number. -/
def insertInto (setting : OptionSetting) : List OptionSetting → List OptionSetting
  | [] => [setting]
  | other :: rest =>
    if setting.number < other.number then setting :: other :: rest
    else if setting.number = other.number then setting :: rest
    else other :: insertInto setting rest

/-- The settings that are there in the end, by ascending number. -/
def settle (settings : List OptionSetting) : List OptionSetting :=
  (settings.foldl (fun settled setting => setting.insertInto settled) []).filter isPresent

end OptionSetting

/-! ## Types -/

/-- What linking needs to know: the types that are there already, the names that are declared, and
how the options in messages of a type are read. -/
structure Linker (Setting : Type) where
  base : TypeTable
  messageNames : List String
  enums : NameMap EnumType
  entries : NameMap (ScalarType × TypeName)
  readOptions : String → List Setting → Except LinkError (List OptionSetting)

namespace Linker

variable {Setting : Type}

/-- The type that a declaration names. -/
def resolve (linker : Linker Setting) : TypeName → Except LinkError FieldType
  | .scalar type => .ok (.scalar type)
  | .enum name =>
    match linker.enums.find? name <|> linker.base.enums.find? name with
    | some type => .ok (.enum type)
    | none => .error (.unknownType name)
  | .message name =>
    if linker.messageNames.contains name || linker.base.messages.contains name then
      .ok (.message name)
    else .error (.unknownType name)

/-- The shape of a field with the type of its values: a list of entries is a map. -/
def shapeAndType (linker : Linker Setting) (shape : FieldShape) (type : TypeName) :
    FieldShape × TypeName :=
  match shape, type with
  | .list, .message name =>
    match linker.entries.find? name <|> linker.base.entries.find? name with
    | some (key, value) => (.map key, value)
    | none => (shape, type)
  | _, _ => (shape, type)

/-- The options of an element. -/
def options (linker : Linker Setting) (target : Target) (raw : List Setting) :
    Except LinkError (List OptionSetting) :=
  (linker.readOptions target.optionsType raw).map OptionSetting.settle

/-- The value that the text of a default denotes for a declared field. -/
def readDefault (fullName : String) (type : FieldType) : Option String →
    Except LinkError (Option Value)
  | none => .ok none
  | some text =>
    match type.readDefault? text with
    | some value => .ok (some value)
    | none => .error (.invalidDefault fullName text)

/-- A field of a message type. -/
def linkField (linker : Linker Setting) (owner : String) (field : FieldDeclaration Setting) :
    Except LinkError Field := do
  let fullName := qualifiedName owner field.name
  let declared ← linker.resolve field.type
  let declaredDefault ← readDefault fullName declared field.defaultText
  let (shape, typeName) := linker.shapeAndType field.shape field.type
  let type ← linker.resolve typeName
  let options ← linker.options .field field.options
  pure {
    name := field.name, fullName, jsonName := field.jsonName.getD (defaultJsonName field.name),
    number := field.number, type, shape, declaredDefault, options }

/-- A oneof of a message type, with the fields that name it. -/
def linkOneof (linker : Linker Setting) (message : MessageDeclaration Setting)
    (oneof : OneofDeclaration Setting) : Except LinkError Oneof := do
  let options ← linker.options .oneof oneof.options
  pure {
    name := oneof.name, fullName := qualifiedName message.fullName oneof.name,
    members := (message.fields.filter (·.oneof = some oneof.name)).map (·.number),
    isSynthetic := false, options }

/-- The oneof that stands for the presence of an optional field. -/
def presenceOneof (owner : String) (field : FieldDeclaration Setting) : Oneof where
  name := "_" ++ field.name
  fullName := qualifiedName owner ("_" ++ field.name)
  members := [field.number]
  isSynthetic := true
  options := []

/-- A message type. -/
def linkMessage (linker : Linker Setting) (message : MessageDeclaration Setting) :
    Except LinkError MessageType := do
  let fields ← message.fields.mapM (linker.linkField message.fullName)
  let oneofs ← message.oneofs.mapM (linker.linkOneof message)
  let presence := (message.fields.filter (·.isOptional)).map (presenceOneof message.fullName)
  let options ← linker.options .message message.options
  pure {
    fullName := message.fullName,
    fields := fields.mergeSort fun a b => decide (a.number ≤ b.number),
    oneofs := oneofs ++ presence, extensions := [], options }

/-- An extension; in JSON its name is the full one in brackets. -/
def linkExtension (linker : Linker Setting) (extension : ExtensionDeclaration) :
    Except LinkError Field := do
  let declared := if extension.isRepeated then FieldShape.list else .singular
  let (shape, typeName) := linker.shapeAndType declared extension.type
  let type ← linker.resolve typeName
  pure {
    name := extension.fullName, fullName := extension.fullName,
    jsonName := "[" ++ extension.fullName ++ "]", number := extension.number, type, shape,
    declaredDefault := none, options := [] }

/-- Types in a table by name, each name once. -/
def tabulate (types : List MessageType) : Except LinkError Pool :=
  types.foldlM
    (fun pool type =>
      if pool.contains type.fullName then .error (.duplicateName type.fullName)
      else .ok (pool.insert type.fullName type))
    .empty

/-- Adds an extension to the type that it extends. -/
def addExtension (linker : Linker Setting) (pool : Pool) (extension : ExtensionDeclaration) :
    Except LinkError Pool := do
  let field ← linker.linkExtension extension
  match pool.find? extension.extendee with
  | none => .error (.unknownType extension.extendee)
  | some type =>
    pure (pool.insert type.fullName { type with extensions := type.extensions ++ [field] })

/-- All declared types and those that were there. -/
def linkTypes (linker : Linker Setting) (messages : List (MessageDeclaration Setting))
    (extensions : List ExtensionDeclaration) : Except LinkError TypeTable := do
  let types ← messages.mapM linker.linkMessage
  let pool ← tabulate (types ++ linker.base.messages.entries.map (·.2))
  let pool ← extensions.foldlM linker.addExtension pool
  pure {
    messages := pool,
    enums := ⟨linker.enums.entries ++ linker.base.enums.entries⟩,
    entries := ⟨linker.entries.entries ++ linker.base.entries.entries⟩ }

end Linker

namespace Declarations

variable {Setting : Type}

/-- How to link declarations on top of types that are there when options are read in a given
way. -/
def linker (declarations : Declarations Setting) (base : TypeTable)
    (messages : List (MessageDeclaration Setting))
    (readOptions : String → List Setting → Except LinkError (List OptionSetting)) :
    Linker Setting where
  base := base
  messageNames := messages.map (·.fullName)
  enums := declarations.enums.foldl (fun table type => table.insert type.fullName type) .empty
  entries := ⟨(messages.filter (·.isEntry)).filterMap fun message =>
    message.keyAndValue?.map fun types => (message.fullName, types)⟩
  readOptions := readOptions

/-- The declared types on top of those that are there, given how options are read once the types
are known. -/
def link (declarations : Declarations Setting) (base : TypeTable)
    (readOptions : TypeTable → String → List Setting →
      Except LinkError (List OptionSetting)) : Except LinkError TypeTable := do
  let messages := declarations.messages.flatMap (·.withEntries)
  let plain := declarations.linker base messages fun _ _ => .ok []
  let table ← plain.linkTypes messages declarations.extensions
  let linker := declarations.linker base messages (readOptions table)
  linker.linkTypes messages declarations.extensions

end Declarations

end MessageConstraints
