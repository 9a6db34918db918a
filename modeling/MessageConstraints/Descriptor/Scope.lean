import MessageConstraints.Descriptor.File

/-!
# Names in compiled files

What a full name stands for in a set of files, and which full name is meant by a name that is
written somewhere in one of them.  A name with a point before it is full.  Any other is looked up
in the scope where it is written and then in those around it; once the first word of a longer name
stands for something that can have parts, the search ends there.

A file sees what it defines itself, what the files define that it imports, and what these pass on
from the files that they import publicly.  Packages belong to no file and are seen everywhere.
-/

namespace MessageConstraints

/-- What a full name can stand for. -/
inductive DefinitionKind where
  | package
  | message
  | enum
  | service
  | extension
  /-- A field, a oneof, a value of an enum or a method. -/
  | part
deriving Repr, DecidableEq

namespace DefinitionKind

/-- Whether a definition is the type of something. -/
def isType : DefinitionKind → Bool
  | message | enum => true
  | _ => false

/-- Whether a definition can have other ones inside it. -/
def hasParts : DefinitionKind → Bool
  | package | message | enum | service => true
  | _ => false

end DefinitionKind

/-- What a full name stands for, and the position of the file that says so. -/
structure Definition where
  kind : DefinitionKind
  file : Nat
deriving Repr, DecidableEq

/-- What full names stand for. -/
abbrev Definitions := NameMap Definition

/-! ## Collecting definitions -/

/-- A full name and those around it, innermost first, the empty one left out. -/
def enclosingNames (fullName : String) : List String :=
  let words := fullName.splitOn "."
  (List.range words.length).map fun count =>
    ".".intercalate (words.take (words.length - count))

namespace FileForm

/-- The packages that a file names: its own and those around it. -/
def packages (file : FileForm) : List String :=
  if file.package.isEmpty then [] else enclosingNames file.package

/-- The full names that a file defines. -/
def definitions (file : FileForm) : List (String × DefinitionKind) :=
  let part (place : Place) := (place.fullName, DefinitionKind.part)
  file.packages.map (·, .package)
    ++ file.body.messages.flatMap (fun message =>
      (message.place.fullName, .message)
        :: message.fields.map (part ·.place) ++ message.oneofs.map (part ·.place))
    ++ file.body.enums.flatMap (fun type =>
      (type.place.fullName, .enum)
        :: type.values.map fun value => part ⟨type.place.scope, value.name⟩)
    ++ file.body.extensions.map (fun field => (field.place.fullName, .extension))
    ++ file.services.flatMap (fun service =>
      (service.place.fullName, .service) :: service.methods.map (part ·.place))

end FileForm

namespace Definitions

/-- Adds what a full name stands for; only packages may be named again. -/
def add (definitions : Definitions) (name : String) (definition : Definition) :
    Except LinkError Definitions :=
  match definitions.find? name with
  | none => .ok (definitions.insert name definition)
  | some earlier =>
    if earlier.kind = .package ∧ definition.kind = .package then .ok definitions
    else .error (.duplicateName name)

/-- What the full names in some files stand for. -/
def ofFiles (files : List FileForm) : Except LinkError Definitions :=
  files.zipIdx.foldlM
    (fun table (file, position) =>
      file.definitions.foldlM (fun table (name, kind) => table.add name ⟨kind, position⟩) table)
    NameMap.empty

end Definitions

/-! ## Imports -/

namespace FileForm

/-- The position of a file among others. -/
def position? (files : List FileForm) (name : String) : Except LinkError Nat :=
  match files.findIdx? fun file => file.name = name with
  | some position => .ok position
  | none => .error (.unknownFile name)

/-- The import with a position. -/
def atPosition {α : Type} (imports : List α) (position : Int) : Except LinkError α :=
  match position with
  | .ofNat n =>
    match imports[n]? with
    | some found => .ok found
    | none => .error (.noSuchPosition position)
  | .negSucc _ => .error (.noSuchPosition position)

/-- The positions of the files that a file imports, and of those of them that it passes on. -/
def resolveImports (files : List FileForm) (file : FileForm) :
    Except LinkError (List Nat × List Nat) := do
  let imports ← file.imports.mapM (position? files)
  let passedOn ← file.publicImports.mapM (atPosition imports)
  let _ ← file.weakImports.mapM (atPosition imports)
  pure (imports, passedOn)

/-- Positions with those that are reached from them in at most so many steps. -/
def reach (next : Nat → List Nat) : (steps : Nat) → List Nat → List Nat
  | 0, reached => reached
  | steps + 1, reached => reach next steps (reached ++ reached.flatMap next).eraseDups

/-- The positions of the files that each file sees. -/
def visibleFiles (files : List FileForm) : Except LinkError (List (List Nat)) := do
  let imports ← files.mapM (resolveImports files)
  let passedOn (position : Nat) : List Nat := (imports[position]?.map (·.2)).getD []
  pure (imports.zipIdx.map fun ((direct, _), position) =>
    position :: reach passedOn files.length direct.eraseDups)

end FileForm

/-! ## Looking up names -/

/-- What can be named in a file. -/
structure Scope where
  definitions : Definitions
  visible : List Nat

namespace Scope

/-- What a full name stands for, if that can be seen. -/
def definition? (scope : Scope) (fullName : String) : Option Definition :=
  (scope.definitions.find? fullName).filter fun definition =>
    definition.kind = .package || scope.visible.contains definition.file

/-- A full name if it stands for something of a kind that is wanted. -/
def wanted? (scope : Scope) (isWanted : DefinitionKind → Bool) (fullName : String) :
    Option String :=
  match scope.definition? fullName with
  | some definition => if isWanted definition.kind then some fullName else none
  | none => none

/-- The full name that a single word stands for in the innermost of some scopes. -/
def findWord? (scope : Scope) (isWanted : DefinitionKind → Bool) (word : String) :
    List String → Option String
  | [] => none
  | around :: outer =>
    match scope.wanted? isWanted (qualifiedName around word) with
    | some found => some found
    | none => findWord? scope isWanted word outer

/-- The full name that a word with more after it stands for: the innermost scope in which the word
can have parts decides. -/
def findPath? (scope : Scope) (isWanted : DefinitionKind → Bool) (word rest : String) :
    List String → Option String
  | [] => none
  | around :: outer =>
    let start := qualifiedName around word
    if (scope.definition? start).any (·.kind.hasParts) then
      scope.wanted? isWanted (qualifiedName start rest)
    else findPath? scope isWanted word rest outer

/-- The full name that is meant by a name written in a definition. -/
def resolve? (scope : Scope) (isWanted : DefinitionKind → Bool) (writtenIn name : String) :
    Option String :=
  let around := enclosingNames writtenIn ++ [""]
  match name.splitOn "." with
  | "" :: rest => scope.wanted? isWanted (".".intercalate rest)
  | [word] => scope.findWord? isWanted word around
  | word :: rest => scope.findPath? isWanted word (".".intercalate rest) around
  | [] => none

end Scope

end MessageConstraints
