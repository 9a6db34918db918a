import MessageConstraints.Descriptor.Basic
import MessageConstraints.Constraint.Basic

/-!
# Declarations

Message types, enums and extensions as they are written down: a field names its type and gives its
default as text, and the options of an element are still in the form in which they were read.
What becomes of declarations once the names are looked up is a pool of types.

A map field is short for a list of entries, which are messages of a type of their own with a key
and a value.  That type can be named like any other, and a list of its messages is again a map.
-/

namespace MessageConstraints

/-- The type of a field as its declaration gives it. -/
inductive TypeName where
  | scalar (type : ScalarType)
  | enum (fullName : String)
  | message (fullName : String)
deriving Repr, DecidableEq

/-- A declared field.  An optional one tracks whether it is set, by a oneof of its own. -/
structure FieldDeclaration (Setting : Type) where
  name : String
  number : Nat
  type : TypeName
  shape : FieldShape
  oneof : Option String
  isOptional : Bool
  defaultText : Option String
  jsonName : Option String
  options : List Setting

/-- A declared oneof. -/
structure OneofDeclaration (Setting : Type) where
  name : String
  options : List Setting

/-- A declared message type, or the type of the entries of a map. -/
structure MessageDeclaration (Setting : Type) where
  fullName : String
  isEntry : Bool
  fields : List (FieldDeclaration Setting)
  oneofs : List (OneofDeclaration Setting)
  options : List Setting

/-- A field declared for the messages of a type that is declared elsewhere. -/
structure ExtensionDeclaration where
  fullName : String
  extendee : String
  number : Nat
  type : TypeName
  isRepeated : Bool
deriving Repr, DecidableEq

/-- Declarations that may refer to each other. -/
structure Declarations (Setting : Type) where
  messages : List (MessageDeclaration Setting)
  enums : List EnumType
  extensions : List ExtensionDeclaration

namespace Declarations

variable {Setting : Type}

/-- No declarations. -/
def empty : Declarations Setting := ⟨[], [], []⟩

/-- The declarations of both. -/
def append (first second : Declarations Setting) : Declarations Setting where
  messages := first.messages ++ second.messages
  enums := first.enums ++ second.enums
  extensions := first.extensions ++ second.extensions

instance : Append (Declarations Setting) := ⟨append⟩

/-- The declarations of all. -/
def concat (parts : List (Declarations Setting)) : Declarations Setting :=
  parts.foldl append empty

end Declarations

/-! ## Names -/

/-- The package in which the options of elements are declared. -/
def optionsPackage : String := "google.protobuf"

/-- A name inside a scope; the empty scope adds no point. -/
def qualifiedName (scope name : String) : String :=
  if scope.isEmpty then name else scope ++ "." ++ name

namespace Target

/-- The type of the messages that hold the options of an element. -/
def optionsType : Target → String
  | field => qualifiedName optionsPackage "FieldOptions"
  | oneof => qualifiedName optionsPackage "OneofOptions"
  | message => qualifiedName optionsPackage "MessageOptions"

end Target

/-- A text without underscores, the letter after each of them in upper case. -/
def joinWords (raiseNext : Bool) : List Char → List Char
  | [] => []
  | '_' :: rest => joinWords true rest
  | c :: rest => (if raiseNext then c.toUpper else c) :: joinWords false rest

/-- The name of a field in JSON unless one is declared. -/
def defaultJsonName (name : String) : String :=
  String.ofList (joinWords false name.toList)

/-- The name of the type of a map field's entries. -/
def entryName (name : String) : String :=
  String.ofList (joinWords true name.toList) ++ "Entry"

/-! ## Entries of maps -/

namespace FieldDeclaration

variable {Setting : Type}

/-- A singular field with a name and a number, and nothing else to it. -/
def single (number : Nat) (name : String) (type : TypeName) : FieldDeclaration Setting where
  name := name
  number := number
  type := type
  shape := .singular
  oneof := none
  isOptional := false
  defaultText := none
  jsonName := none
  options := []

/-- The type of the entries of a map field: the key has number 1 and the value number 2. -/
def entryDeclaration (owner : String) (field : FieldDeclaration Setting) :
    Option (MessageDeclaration Setting) :=
  match field.shape with
  | .map key => some {
      fullName := qualifiedName owner (entryName field.name), isEntry := true,
      fields := [single 1 "key" (.scalar key), single 2 "value" field.type],
      oneofs := [], options := [] }
  | _ => none

end FieldDeclaration

namespace MessageDeclaration

variable {Setting : Type}

/-- The types of the keys and values of a map with entries of a type. -/
def keyAndValue? (message : MessageDeclaration Setting) : Option (ScalarType × TypeName) := do
  let key ← message.fields.find? (·.number = 1)
  let value ← message.fields.find? (·.number = 2)
  match key.type with
  | .scalar type => some (type, value.type)
  | _ => none

/-- A message type with the types of the entries of its map fields. -/
def withEntries (message : MessageDeclaration Setting) : List (MessageDeclaration Setting) :=
  message :: message.fields.filterMap (·.entryDeclaration message.fullName)

end MessageDeclaration

end MessageConstraints
