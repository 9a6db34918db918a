/-!
# Splitting texts

Cutting a text in two at the first place where a separator starts.
-/

namespace MessageConstraints

namespace Text

/-- The text before the first separator and the text after it; none if there is no separator. -/
def splitOnce? (separator : List Char) : List Char → Option (List Char × List Char)
  | [] => none
  | c :: rest =>
    if separator.isPrefixOf (c :: rest) then some ([], (c :: rest).drop separator.length)
    else (splitOnce? separator rest).map fun (before, after) => (c :: before, after)

end Text

end MessageConstraints
