import MessageConstraints.Unicode.Age
import MessageConstraints.Unicode.Break
import MessageConstraints.Unicode.Category
import MessageConstraints.Unicode.CharSet
import MessageConstraints.Unicode.Folding
import MessageConstraints.Unicode.Property
import MessageConstraints.Unicode.Script
import MessageConstraints.Unicode.ScriptExtension

/-!
# Named character classes

The look-up of character classes by the names that the Unicode standard gives them.  Names are
compared loosely: case, spaces, hyphens and underscores do not count, nor does a leading `is`.
A class is named alone, by its category, script or property, or as a value of a property that has
more than two of them.
-/

namespace MessageConstraints

namespace Unicode

/-- The characters of a name that count, in lower case: those of ASCII, but for separators. -/
def letters (name : List Char) : List Char :=
  (name.filter fun c => c.toNat < 128 && c != ' ' && c != '_' && c != '-').map Char.toLower

/-- A name as it is compared.  What starts with `is` and comes down to the single letter `c` is the
name of another property, and no general category. -/
def looseName (name : String) : String :=
  match name.toList with
  | first :: second :: rest =>
    if first.toLower = 'i' ∧ second.toLower = 's' then
      if letters rest = ['c'] then "isc" else String.ofList (letters rest)
    else String.ofList (letters (first :: second :: rest))
  | cs => String.ofList (letters cs)

/-- The class that a table gives for a name. -/
def findClass? (table : List (List String × String)) (name : String) : Option CharSet :=
  (table.find? fun entry => entry.1.contains name).map fun entry => CharSet.decode entry.2

/-- The names of the groups of general categories, with their members. -/
def categoryGroups : List (List String × List String) := [
  (["l", "letter"], ["lu", "ll", "lt", "lm", "lo"]),
  (["lc", "casedletter"], ["lu", "ll", "lt"]),
  (["m", "mark", "combiningmark"], ["mn", "mc", "me"]),
  (["n", "number"], ["nd", "nl", "no"]),
  (["p", "punctuation", "punct"], ["pc", "pd", "ps", "pe", "pi", "pf", "po"]),
  (["s", "symbol"], ["sm", "sc", "sk", "so"]),
  (["z", "separator"], ["zs", "zl", "zp"])]

/-- The code points of one of some general categories. -/
def categoryUnion (names : List String) : CharSet :=
  CharSet.ofRanges (names.flatMap fun name =>
    ((findClass? categories name).getD .empty).ranges)

/-- The surrogates, which are code points but no characters. -/
def surrogates : CharSet := .range 0xD800 0xDFFF

/-- A general category or a group of them.  The surrogates have a category of their own; it has no
name here, but counts where the rest of the code points is asked for. -/
def category? (name : String) : Option CharSet :=
  match name with
  | "any" => some .full
  | "assigned" => some (categoryUnion ["cn"]).complement
  | "ascii" => some (.range 0 127)
  | "c" | "other" => some ((categoryUnion ["cc", "cf", "co", "cn"]).union surrogates)
  | _ =>
    match categoryGroups.find? fun entry => entry.1.contains name with
    | some (_, members) => some (categoryUnion members)
    | none => findClass? categories name

/-- The characters that are in a version of the database, those of older versions among them. -/
def age? (name : String) : Option CharSet :=
  let isNamed := fun (entry : List String × String) => entry.1.contains name
  match ages.find? isNamed with
  | none => none
  | some newest =>
    let older := ages.takeWhile fun entry => !isNamed entry
    some (CharSet.ofRanges ((older ++ [newest]).flatMap fun entry =>
      (CharSet.decode entry.2).ranges))

/-- A class named alone. -/
def class? (name : String) : Option CharSet :=
  let name := looseName name
  let property := if name ∈ ["cf", "sc", "lc"] then none else findClass? properties name
  property <|> category? name <|> findClass? scripts name

/-- A class named as the value of a property. -/
def classOf? (property value : String) : Option CharSet :=
  let value := looseName value
  match looseName property with
  | "gc" | "generalcategory" => category? value
  | "sc" | "script" => findClass? scripts value
  | "scx" | "scriptextensions" => findClass? scriptExtensions value
  | "age" => age? value
  | "gcb" | "graphemeclusterbreak" => findClass? graphemeBreaks value
  | "wb" | "wordbreak" => findClass? wordBreaks value
  | "sb" | "sentencebreak" => findClass? sentenceBreaks value
  | _ => none

/-- The decimal digits of all scripts. -/
def digits : CharSet := categoryUnion ["nd"]

/-- The characters of words: letters, marks, decimal digits, connectors and joiners. -/
def wordChars : CharSet :=
  let named := fun name => (findClass? properties name).getD .empty
  (named "alphabetic").union
    ((categoryUnion ["mn", "mc", "me", "nd", "pc"]).union (named "joincontrol"))

/-- The blank characters. -/
def blanks : CharSet := (findClass? properties "whitespace").getD .empty

/-- A set with all characters that differ from its members only in case. -/
def foldCase (set : CharSet) : CharSet :=
  let partners := foldingGroups.flatMap fun group =>
    if group.any set.holds then group.map fun n => (n, n) else []
  CharSet.ofRanges (set.ranges ++ partners)

end Unicode

end MessageConstraints
