import MessageConstraints.Pattern.Automaton
import MessageConstraints.Pattern.Meaning
import MessageConstraints.Pattern.Parser

/-!
# Patterns

A pattern is a regular expression that has been read and given its meaning; whether it is found
in a text is then a matter of running its matcher.
-/

namespace MessageConstraints

/-- A regular expression that is ready to be searched for. -/
structure Pattern where
  source : String
  matcher : Pattern.Matcher

namespace Pattern

/-- The mode that modifier letters ask for, or the first letter that is no modifier. -/
def modeOf (mode : Mode) : List Char → Except Char Mode
  | [] => .ok mode
  | c :: rest =>
    match c with
    | 'i' => modeOf { mode with caseInsensitive := true } rest
    | 'm' => modeOf { mode with multiLine := true } rest
    | 's' => modeOf { mode with dotMatchesNewline := true } rest
    | 'u' => modeOf { mode with unicode := true } rest
    | 'x' => modeOf { mode with ignoreBlanks := true } rest
    | _ => .error c

/-- The pattern of a text in a given mode; none if the text is no regular expression, if part of
it has no meaning, or if it is too large. -/
def compile? (mode : Mode) (source : String) : Option Pattern := do
  let tree ← parse? mode.ignoreBlanks source
  let (matcher, _) ← matcherOf? mode tree
  if matcher.fits then some ⟨source, matcher⟩ else none

/-- Whether a pattern is found somewhere in a text. -/
def isFoundIn (pattern : Pattern) (text : String) : Bool :=
  pattern.matcher.isFoundIn text.toList

end Pattern

end MessageConstraints
