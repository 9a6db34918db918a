import MessageConstraints.Text.Quoted

/-!
# Field paths

Where in a message a violation lies: a list of steps from the message inwards.  A path is shown
as field names joined by points, list indices in brackets and map keys quoted in brackets, so
that an index is never taken for a key.
-/

namespace MessageConstraints

/-- One step of a path. -/
inductive Segment where
  | field (name : String)
  | index (position : Nat)
  | key (text : String)
deriving Repr, DecidableEq

namespace Segment

/-- The bare text of a step. -/
def text : Segment → String
  | field name => name
  | index position => toString position
  | key text => text

end Segment

/-- The steps from a message to a place inside it. -/
abbrev FieldPath := List Segment

namespace FieldPath

/-- The message itself. -/
def root : FieldPath := []

/-- How a step is written; a field name is set off by a point unless it comes first. -/
def segmentChars (first : Bool) : Segment → List Char
  | .field name => if first then name.toList else '.' :: name.toList
  | .index position => '[' :: ((toString position).toList ++ [']'])
  | .key text => '[' :: (Text.quoteChars text.toList ++ [']'])

/-- The characters of a path. -/
def chars : FieldPath → List Char
  | [] => []
  | step :: rest => segmentChars true step ++ rest.flatMap (segmentChars false)

/-- The text of a path. -/
def display (path : FieldPath) : String :=
  String.ofList (chars path)

/-- The bare texts of a path's steps. -/
def texts (path : FieldPath) : List String :=
  path.map Segment.text

end FieldPath

end MessageConstraints
