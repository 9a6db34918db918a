import MessageConstraints.Text.Escaped
import MessageConstraints.Value

/-!
# Literal notation of values

How the value of an option is written in an error text: the name of its type and the value itself,
lists with all their elements.
-/

namespace MessageConstraints

namespace Value

/-- A text in parentheses after a word. -/
def tagged (word text : String) : String :=
  word ++ "(" ++ text ++ ")"

mutual

/-- A value in literal notation; messages and maps show only what they are. -/
def literal : Value → String
  | bool b => tagged "Bool" (if b then "true" else "false")
  | int32 n => tagged "I32" (toString n.toInt)
  | int64 n => tagged "I64" (toString n.toInt)
  | uint32 n => tagged "U32" (toString n.toNat)
  | uint64 n => tagged "U64" (toString n.toNat)
  | float x => tagged "F32" x.literal
  | double x => tagged "F64" x.literal
  | string s => tagged "String" (Text.escapedText s)
  | bytes bs => tagged "Bytes" (Text.escapedBytes bs)
  | enum n => tagged "EnumNumber" (toString n.toInt)
  | message typeName _ => tagged "Message" typeName
  | list items => tagged "List" ("[" ++ ", ".intercalate (literals items) ++ "]")
  | map entries => tagged "Map" (toString entries.length ++ " entries")

/-- Some values in literal notation. -/
def literals : List Value → List String
  | [] => []
  | item :: rest => literal item :: literals rest

end

end Value

end MessageConstraints
