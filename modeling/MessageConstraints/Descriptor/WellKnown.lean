import MessageConstraints.Descriptor.Link

/-!
# The well-known types

The types that every schema can name without declaring them: those in which descriptors and their
options are written down, those that describe types and interfaces as data, and those for values
of common kinds, such as durations.  All of them lie in one package, and names in this module are
relative to it.
-/

namespace MessageConstraints

namespace WellKnown

/-- The full name of a well-known type. -/
def fullName (name : String) : String := qualifiedName optionsPackage name

/-! ## Writing declarations -/

/-- A field without options. -/
abbrev Plain := FieldDeclaration Empty

/-- A scalar type. -/
def scalar (type : ScalarType) : TypeName := .scalar type

/-- A well-known enum. -/
def enum (name : String) : TypeName := .enum (fullName name)

/-- A well-known message type. -/
def message (name : String) : TypeName := .message (fullName name)

/-- A singular field. -/
def one (number : Nat) (name : String) (type : TypeName) : Plain :=
  .single number name type

/-- A list field. -/
def several (number : Nat) (name : String) (type : TypeName) : Plain :=
  { one number name type with shape := .list }

/-- A map field whose keys are texts. -/
def keyed (number : Nat) (name : String) (type : TypeName) : Plain :=
  { one number name type with shape := .map .string }

/-- A field of a oneof. -/
def oneOf (oneof : String) (number : Nat) (name : String) (type : TypeName) : Plain :=
  { one number name type with oneof := some oneof }

/-- A message type with the oneofs that its fields name. -/
def type (name : String) (fields : List Plain) : MessageDeclaration Empty where
  fullName := fullName name
  isEntry := false
  fields := fields
  oneofs := (fields.filterMap (·.oneof)).eraseDups.map fun name => ⟨name, []⟩
  options := []

/-- An enum whose values are numbered in a row. -/
def values (name : String) (first : Nat) (names : List String) : EnumType where
  fullName := fullName name
  values := names.zipIdx.map fun (name, index) => (name, Int32.ofNat (first + index))

/-! ## Files and what is declared in them -/

/-- Files and what is declared in them. -/
def files : List (MessageDeclaration Empty) := [
  type "FileDescriptorSet" [several 1 "file" (message "FileDescriptorProto")],
  type "FileDescriptorProto" [
    one 1 "name" (scalar .string), one 2 "package" (scalar .string),
    several 3 "dependency" (scalar .string), several 4 "message_type" (message "DescriptorProto"),
    several 5 "enum_type" (message "EnumDescriptorProto"),
    several 6 "service" (message "ServiceDescriptorProto"),
    several 7 "extension" (message "FieldDescriptorProto"),
    one 8 "options" (message "FileOptions"), one 9 "source_code_info" (message "SourceCodeInfo"),
    several 10 "public_dependency" (scalar .int32), several 11 "weak_dependency" (scalar .int32),
    one 12 "syntax" (scalar .string)],
  type "DescriptorProto" [
    one 1 "name" (scalar .string), several 2 "field" (message "FieldDescriptorProto"),
    several 3 "nested_type" (message "DescriptorProto"),
    several 4 "enum_type" (message "EnumDescriptorProto"),
    several 5 "extension_range" (message "DescriptorProto.ExtensionRange"),
    several 6 "extension" (message "FieldDescriptorProto"),
    one 7 "options" (message "MessageOptions"),
    several 8 "oneof_decl" (message "OneofDescriptorProto"),
    several 9 "reserved_range" (message "DescriptorProto.ReservedRange"),
    several 10 "reserved_name" (scalar .string)],
  type "DescriptorProto.ExtensionRange" [
    one 1 "start" (scalar .int32), one 2 "end" (scalar .int32),
    one 3 "options" (message "ExtensionRangeOptions")],
  type "DescriptorProto.ReservedRange" [
    one 1 "start" (scalar .int32), one 2 "end" (scalar .int32)],
  type "FieldDescriptorProto" [
    one 1 "name" (scalar .string), one 2 "extendee" (scalar .string),
    one 3 "number" (scalar .int32), one 4 "label" (enum "FieldDescriptorProto.Label"),
    one 5 "type" (enum "FieldDescriptorProto.Type"), one 6 "type_name" (scalar .string),
    one 7 "default_value" (scalar .string), one 8 "options" (message "FieldOptions"),
    one 9 "oneof_index" (scalar .int32), one 10 "json_name" (scalar .string),
    one 17 "proto3_optional" (scalar .bool)],
  type "OneofDescriptorProto" [
    one 1 "name" (scalar .string), one 2 "options" (message "OneofOptions")],
  type "EnumDescriptorProto" [
    one 1 "name" (scalar .string), several 2 "value" (message "EnumValueDescriptorProto"),
    one 3 "options" (message "EnumOptions"),
    several 4 "reserved_range" (message "EnumDescriptorProto.EnumReservedRange"),
    several 5 "reserved_name" (scalar .string)],
  type "EnumDescriptorProto.EnumReservedRange" [
    one 1 "start" (scalar .int32), one 2 "end" (scalar .int32)],
  type "EnumValueDescriptorProto" [
    one 1 "name" (scalar .string), one 2 "number" (scalar .int32),
    one 3 "options" (message "EnumValueOptions")],
  type "ServiceDescriptorProto" [
    one 1 "name" (scalar .string), several 2 "method" (message "MethodDescriptorProto"),
    one 3 "options" (message "ServiceOptions")],
  type "MethodDescriptorProto" [
    one 1 "name" (scalar .string), one 2 "input_type" (scalar .string),
    one 3 "output_type" (scalar .string), one 4 "options" (message "MethodOptions"),
    one 5 "client_streaming" (scalar .bool), one 6 "server_streaming" (scalar .bool)]]

/-! ## Options -/

/-- Options. -/
def optionTypes : List (MessageDeclaration Empty) := [
  type "FileOptions" [
    one 1 "java_package" (scalar .string), one 8 "java_outer_classname" (scalar .string),
    one 9 "optimize_for" (enum "FileOptions.OptimizeMode"),
    one 10 "java_multiple_files" (scalar .bool), one 11 "go_package" (scalar .string),
    one 16 "cc_generic_services" (scalar .bool), one 17 "java_generic_services" (scalar .bool),
    one 18 "py_generic_services" (scalar .bool),
    one 20 "java_generate_equals_and_hash" (scalar .bool), one 23 "deprecated" (scalar .bool),
    one 27 "java_string_check_utf8" (scalar .bool), one 31 "cc_enable_arenas" (scalar .bool),
    one 36 "objc_class_prefix" (scalar .string), one 37 "csharp_namespace" (scalar .string),
    one 39 "swift_prefix" (scalar .string), one 40 "php_class_prefix" (scalar .string),
    one 41 "php_namespace" (scalar .string), one 42 "php_generic_services" (scalar .bool),
    one 44 "php_metadata_namespace" (scalar .string), one 45 "ruby_package" (scalar .string),
    several 999 "uninterpreted_option" (message "UninterpretedOption")],
  type "MessageOptions" [
    one 1 "message_set_wire_format" (scalar .bool),
    one 2 "no_standard_descriptor_accessor" (scalar .bool), one 3 "deprecated" (scalar .bool),
    one 7 "map_entry" (scalar .bool),
    several 999 "uninterpreted_option" (message "UninterpretedOption")],
  type "FieldOptions" [
    one 1 "ctype" (enum "FieldOptions.CType"), one 2 "packed" (scalar .bool),
    one 3 "deprecated" (scalar .bool), one 5 "lazy" (scalar .bool),
    one 6 "jstype" (enum "FieldOptions.JSType"), one 10 "weak" (scalar .bool),
    one 15 "unverified_lazy" (scalar .bool),
    several 999 "uninterpreted_option" (message "UninterpretedOption")],
  type "OneofOptions" [several 999 "uninterpreted_option" (message "UninterpretedOption")],
  type "ExtensionRangeOptions" [
    several 999 "uninterpreted_option" (message "UninterpretedOption")],
  type "EnumOptions" [
    one 2 "allow_alias" (scalar .bool), one 3 "deprecated" (scalar .bool),
    several 999 "uninterpreted_option" (message "UninterpretedOption")],
  type "EnumValueOptions" [
    one 1 "deprecated" (scalar .bool),
    several 999 "uninterpreted_option" (message "UninterpretedOption")],
  type "ServiceOptions" [
    one 33 "deprecated" (scalar .bool),
    several 999 "uninterpreted_option" (message "UninterpretedOption")],
  type "MethodOptions" [
    one 33 "deprecated" (scalar .bool),
    one 34 "idempotency_level" (enum "MethodOptions.IdempotencyLevel"),
    several 999 "uninterpreted_option" (message "UninterpretedOption")],
  type "UninterpretedOption" [
    several 2 "name" (message "UninterpretedOption.NamePart"),
    one 3 "identifier_value" (scalar .string), one 4 "positive_int_value" (scalar .uint64),
    one 5 "negative_int_value" (scalar .int64), one 6 "double_value" (scalar .double),
    one 7 "string_value" (scalar .bytes), one 8 "aggregate_value" (scalar .string)],
  type "UninterpretedOption.NamePart" [
    one 1 "name_part" (scalar .string), one 2 "is_extension" (scalar .bool)]]

/-! ## Places in source texts -/

/-- Places in source texts. -/
def sourceTypes : List (MessageDeclaration Empty) := [
  type "SourceCodeInfo" [several 1 "location" (message "SourceCodeInfo.Location")],
  type "SourceCodeInfo.Location" [
    several 1 "path" (scalar .int32), several 2 "span" (scalar .int32),
    one 3 "leading_comments" (scalar .string), one 4 "trailing_comments" (scalar .string),
    several 6 "leading_detached_comments" (scalar .string)],
  type "GeneratedCodeInfo" [several 1 "annotation" (message "GeneratedCodeInfo.Annotation")],
  type "GeneratedCodeInfo.Annotation" [
    several 1 "path" (scalar .int32), one 2 "source_file" (scalar .string),
    one 3 "begin" (scalar .int32), one 4 "end" (scalar .int32)]]

/-! ## Types and interfaces as data -/

/-- Types and interfaces as data. -/
def typeTypes : List (MessageDeclaration Empty) := [
  type "SourceContext" [one 1 "file_name" (scalar .string)],
  type "Type" [
    one 1 "name" (scalar .string), several 2 "fields" (message "Field"),
    several 3 "oneofs" (scalar .string), several 4 "options" (message "Option"),
    one 5 "source_context" (message "SourceContext"), one 6 "syntax" (enum "Syntax")],
  type "Field" [
    one 1 "kind" (enum "Field.Kind"), one 2 "cardinality" (enum "Field.Cardinality"),
    one 3 "number" (scalar .int32), one 4 "name" (scalar .string),
    one 6 "type_url" (scalar .string), one 7 "oneof_index" (scalar .int32),
    one 8 "packed" (scalar .bool), several 9 "options" (message "Option"),
    one 10 "json_name" (scalar .string), one 11 "default_value" (scalar .string)],
  type "Enum" [
    one 1 "name" (scalar .string), several 2 "enumvalue" (message "EnumValue"),
    several 3 "options" (message "Option"), one 4 "source_context" (message "SourceContext"),
    one 5 "syntax" (enum "Syntax")],
  type "EnumValue" [
    one 1 "name" (scalar .string), one 2 "number" (scalar .int32),
    several 3 "options" (message "Option")],
  type "Option" [one 1 "name" (scalar .string), one 2 "value" (message "Any")],
  type "Api" [
    one 1 "name" (scalar .string), several 2 "methods" (message "Method"),
    several 3 "options" (message "Option"), one 4 "version" (scalar .string),
    one 5 "source_context" (message "SourceContext"), several 6 "mixins" (message "Mixin"),
    one 7 "syntax" (enum "Syntax")],
  type "Method" [
    one 1 "name" (scalar .string), one 2 "request_type_url" (scalar .string),
    one 3 "request_streaming" (scalar .bool), one 4 "response_type_url" (scalar .string),
    one 5 "response_streaming" (scalar .bool), several 6 "options" (message "Option"),
    one 7 "syntax" (enum "Syntax")],
  type "Mixin" [one 1 "name" (scalar .string), one 2 "root" (scalar .string)]]

/-! ## Values of common kinds -/

/-- Values of common kinds. -/
def valueTypes : List (MessageDeclaration Empty) := [
  type "Any" [one 1 "type_url" (scalar .string), one 2 "value" (scalar .bytes)],
  type "Duration" [one 1 "seconds" (scalar .int64), one 2 "nanos" (scalar .int32)],
  type "Timestamp" [one 1 "seconds" (scalar .int64), one 2 "nanos" (scalar .int32)],
  type "FieldMask" [several 1 "paths" (scalar .string)],
  type "Empty" [],
  type "Struct" [keyed 1 "fields" (message "Value")],
  type "Value" [
    oneOf "kind" 1 "null_value" (enum "NullValue"),
    oneOf "kind" 2 "number_value" (scalar .double),
    oneOf "kind" 3 "string_value" (scalar .string), oneOf "kind" 4 "bool_value" (scalar .bool),
    oneOf "kind" 5 "struct_value" (message "Struct"),
    oneOf "kind" 6 "list_value" (message "ListValue")],
  type "ListValue" [several 1 "values" (message "Value")],
  type "DoubleValue" [one 1 "value" (scalar .double)],
  type "FloatValue" [one 1 "value" (scalar .float)],
  type "Int64Value" [one 1 "value" (scalar .int64)],
  type "UInt64Value" [one 1 "value" (scalar .uint64)],
  type "Int32Value" [one 1 "value" (scalar .int32)],
  type "UInt32Value" [one 1 "value" (scalar .uint32)],
  type "BoolValue" [one 1 "value" (scalar .bool)],
  type "StringValue" [one 1 "value" (scalar .string)],
  type "BytesValue" [one 1 "value" (scalar .bytes)]]

/-! ## Enums -/

/-- The kinds of field, numbered from one. -/
def kindNames : List String := [
  "TYPE_DOUBLE", "TYPE_FLOAT", "TYPE_INT64", "TYPE_UINT64", "TYPE_INT32", "TYPE_FIXED64",
  "TYPE_FIXED32", "TYPE_BOOL", "TYPE_STRING", "TYPE_GROUP", "TYPE_MESSAGE", "TYPE_BYTES",
  "TYPE_UINT32", "TYPE_ENUM", "TYPE_SFIXED32", "TYPE_SFIXED64", "TYPE_SINT32", "TYPE_SINT64"]

/-- The enums. -/
def enums : List EnumType := [
  values "FieldDescriptorProto.Type" 1 kindNames,
  values "FieldDescriptorProto.Label" 1 ["LABEL_OPTIONAL", "LABEL_REQUIRED", "LABEL_REPEATED"],
  values "FileOptions.OptimizeMode" 1 ["SPEED", "CODE_SIZE", "LITE_RUNTIME"],
  values "FieldOptions.CType" 0 ["STRING", "CORD", "STRING_PIECE"],
  values "FieldOptions.JSType" 0 ["JS_NORMAL", "JS_STRING", "JS_NUMBER"],
  values "MethodOptions.IdempotencyLevel" 0 [
    "IDEMPOTENCY_UNKNOWN", "NO_SIDE_EFFECTS", "IDEMPOTENT"],
  values "Field.Kind" 0 ("TYPE_UNKNOWN" :: kindNames),
  values "Field.Cardinality" 0 [
    "CARDINALITY_UNKNOWN", "CARDINALITY_OPTIONAL", "CARDINALITY_REQUIRED",
    "CARDINALITY_REPEATED"],
  values "Syntax" 0 ["SYNTAX_PROTO2", "SYNTAX_PROTO3"],
  values "NullValue" 0 ["NULL_VALUE"]]

/-! ## All of them -/

/-- The declarations of the well-known types. -/
def declarations : Declarations Empty where
  messages := files ++ optionTypes ++ sourceTypes ++ typeTypes ++ valueTypes
  enums := enums
  extensions := []

/-- The well-known types. -/
def table : TypeTable :=
  (declarations.link .empty fun _ _ _ => .ok []).toOption.getD .empty

end WellKnown

end MessageConstraints
