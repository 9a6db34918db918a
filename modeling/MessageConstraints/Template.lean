import MessageConstraints.NameMap

/-!
# Message templates

The text of a violation is a format with placeholders, and the values that fill them.  A format
is first cut into pieces, which says once and for all where its placeholders are; filling the
pieces is then a plain substitution.  A doubled brace is a brace, a brace that starts no
placeholder stands for itself, and a placeholder without a value is left as it is written.
-/

namespace MessageConstraints

/-- A piece of a format: one character of its text, or a placeholder. -/
inductive Piece where
  | char (c : Char)
  | slot (name : List Char)
deriving Repr, DecidableEq

namespace Piece

/-- The characters that a placeholder's name is made of. -/
def isNameChar (c : Char) : Bool :=
  c.isAlphanum || c == '_'

/-- Whether a text between braces names a placeholder. -/
def isName (name : List Char) : Bool :=
  !name.isEmpty && name.all isNameChar

/-- A text as pieces that stand for themselves. -/
def verbatim (cs : List Char) : List Piece :=
  cs.map char

/-- What a piece becomes, given the values of the placeholders. -/
def fill (params : NameMap String) : Piece → List Char
  | char c => [c]
  | slot name =>
    match params.find? (String.ofList name) with
    | some value => value.toList
    | none => '{' :: (name ++ ['}'])

end Piece

namespace Template

/-- What follows a close brace is shorter than the text it is looked for in. -/
theorem length_after_lt {rest after : List Char} {close : Char}
    (h : rest.dropWhile (· != '}') = close :: after) : after.length < rest.length := by
  have hle := (List.dropWhile_sublist (l := rest) (· != '}')).length_le
  rw [h, List.length_cons] at hle
  exact hle

/-- The pieces of a format.  After a single open brace the text up to the next close brace is a
placeholder if it is a name, and stands for itself, braces included, if it is not; without a
close brace the rest of the format stands for itself. -/
def pieces : List Char → List Piece
  | [] => []
  | '{' :: '{' :: rest => .char '{' :: pieces rest
  | '}' :: '}' :: rest => .char '}' :: pieces rest
  | '{' :: rest =>
    let name := rest.takeWhile (· != '}')
    match h : rest.dropWhile (· != '}') with
    | [] => Piece.verbatim ('{' :: rest)
    | close :: after =>
      have := length_after_lt h
      (if Piece.isName name then [.slot name]
        else Piece.verbatim ('{' :: (name ++ [close]))) ++ pieces after
  | c :: rest => .char c :: pieces rest
termination_by cs => cs.length
decreasing_by all_goals (simp only [List.length_cons]; omega)

/-- A format with its placeholders replaced by their values. -/
def render (format : String) (params : NameMap String) : String :=
  String.ofList ((pieces format.toList).flatMap (Piece.fill params))

end Template

/-- A format together with the values of its placeholders. -/
structure Template where
  format : String
  params : NameMap String
deriving Repr, DecidableEq

namespace Template

/-- A template without parameters. -/
def ofFormat (format : String) : Template :=
  ⟨format, .empty⟩

/-- Gives a placeholder its value. -/
def withParam (template : Template) (name value : String) : Template :=
  { template with params := template.params.insert name value }

/-- The value of a placeholder. -/
def param? (template : Template) (name : String) : Option String :=
  template.params.find? name

/-- The text of a template. -/
def text (template : Template) : String :=
  render template.format template.params

end Template

end MessageConstraints
