import MessageConstraints.Json.Token
import MessageConstraints.Text.Utf8

/-!
# Reading JSON

A machine that takes a text token by token.  It keeps the containers that are open, innermost
first, each with what it holds so far; the number of open containers is limited.
-/

namespace MessageConstraints

/-- An open container: a list with the items so far, or an object with the members so far and the
name of the member that is being read; the last one comes first. -/
inductive JsonFrame where
  | array (items : List Json)
  | object (members : List (String × Json)) (name : String)
deriving Repr

/-- What the machine waits for. -/
inductive JsonReader where
  /-- A value, or, in a list that has just been opened, its end. -/
  | value (stack : List JsonFrame) (mayClose : Bool)
  /-- The name of a member, or, in an object that has just been opened, its end. -/
  | name (stack : List JsonFrame) (members : List (String × Json)) (mayClose : Bool)
  /-- The colon after a name. -/
  | colon (stack : List JsonFrame) (members : List (String × Json)) (name : String)
  /-- What follows a value: in a container a comma or its end, else the end of the text. -/
  | after (stack : List JsonFrame) (value : Json)
deriving Repr

namespace JsonReader

/-- How many containers may be open at a time. -/
def depthLimit : Nat := 127

/-- The machine before the first token. -/
def start : JsonReader := value [] false

/-- Takes a token at a place where a value is awaited. -/
def takeValue (stack : List JsonFrame) (mayClose : Bool) : JsonToken → Option JsonReader
  | .bare json => some (after stack json)
  | .string s => some (after stack (.string s))
  | .openBracket =>
    if stack.length < depthLimit then some (value (.array [] :: stack) true) else none
  | .openBrace => if stack.length < depthLimit then some (name stack [] true) else none
  | .closeBracket =>
    match mayClose, stack with
    | true, .array items :: outer => some (after outer (.array items.reverse))
    | _, _ => none
  | _ => none

/-- Takes a token after a value. -/
def takeAfter (json : Json) : List JsonFrame → JsonToken → Option JsonReader
  | .array items :: outer, .comma => some (value (.array (json :: items) :: outer) false)
  | .array items :: outer, .closeBracket => some (after outer (.array (json :: items).reverse))
  | .object members key :: outer, .comma => some (name outer ((key, json) :: members) false)
  | .object members key :: outer, .closeBrace =>
    some (after outer (.object ((key, json) :: members).reverse))
  | _, _ => none

/-- Takes a token; none if it is not awaited. -/
def take : JsonReader → JsonToken → Option JsonReader
  | value stack mayClose, token => takeValue stack mayClose token
  | name stack members _, .string key => some (colon stack members key)
  | name stack members true, .closeBrace => some (after stack (.object members.reverse))
  | colon stack members key, .colon => some (value (.object members key :: stack) false)
  | after stack json, token => takeAfter json stack token
  | _, _ => none

/-- The value that has been read, if nothing is open. -/
def result? : JsonReader → Option Json
  | after [] json => some json
  | _ => none

end JsonReader

namespace Json

/-- The value that tokens spell. -/
def ofTokens? (tokens : List JsonToken) : Option Json :=
  (tokens.foldlM JsonReader.take JsonReader.start).bind JsonReader.result?

/-- The value of a JSON text. -/
def parse? (text : String) : Option Json :=
  (JsonToken.scan? text.toList).bind ofTokens?

/-- The value of a JSON text in UTF-8. -/
def ofBytes? (bytes : List UInt8) : Option Json :=
  (Text.ofBytes? bytes).bind parse?

end Json

end MessageConstraints
