import MessageConstraints.Constraint.Registry
import MessageConstraints.Number.Reading

/-!
# Command line arguments

The options of the command.  A long option takes its value after an equals sign or as the next
argument, a short one also directly after its letter.  An argument that starts with a hyphen is
never taken as the value of the option before it, unless it is a hyphen alone.  No option may be
given twice, and nothing but options may be given.
-/

namespace MessageConstraints

namespace CommandLine

/-- How violations are written. -/
inductive OutputFormat where
  | text
  | json
deriving Repr, DecidableEq

/-- The options of the command. -/
inductive Flag where
  | descriptorSet
  | message
  | input
  | format
  | failFast
  | maxDepth
  | package
deriving Repr, DecidableEq

namespace Flag

/-- All options. -/
def all : List Flag := [descriptorSet, message, input, format, failFast, maxDepth, package]

/-- The long name of an option. -/
def long : Flag → String
  | descriptorSet => "descriptor-set"
  | message => "message"
  | input => "input"
  | format => "format"
  | failFast => "fail-fast"
  | maxDepth => "max-depth"
  | package => "package"

/-- The letter of an option. -/
def short? : Flag → Option Char
  | descriptorSet => some 'd'
  | message => some 'm'
  | input => some 'i'
  | format => some 'f'
  | _ => none

/-- Whether an option has a value. -/
def takesValue : Flag → Bool
  | failFast => false
  | _ => true

end Flag

/-- What a single argument is. -/
inductive Argument where
  /-- An option with the value it has, empty for an option without one. -/
  | complete (flag : Flag) (value : String)
  /-- An option whose value is the next argument. -/
  | awaiting (flag : Flag)
  /-- The mark after which no options follow. -/
  | separator
  | unknown
deriving Repr, DecidableEq

namespace Argument

/-- An option with the value that is attached to it, if there is one. -/
def ofFlag (flag : Flag) (attached : Option String) : Argument :=
  match flag.takesValue, attached with
  | true, some value => complete flag value
  | true, none => awaiting flag
  | false, none => complete flag ""
  | false, some _ => unknown

/-- A long option, given by what follows the two hyphens. -/
def ofLong (body : List Char) : Argument :=
  let name := body.takeWhile (· != '=')
  let attached :=
    match body.dropWhile (· != '=') with
    | _ :: value => some (String.ofList value)
    | [] => none
  match Flag.all.find? fun flag => flag.long.toList = name with
  | some flag => ofFlag flag attached
  | none => unknown

/-- A short option, given by its letter and what follows it. -/
def ofShort (letter : Char) (body : List Char) : Argument :=
  let attached :=
    match body with
    | [] => none
    | '=' :: value => some (String.ofList value)
    | value => some (String.ofList value)
  match Flag.all.find? fun flag => flag.short? = some letter with
  | some flag => ofFlag flag attached
  | none => unknown

/-- What an argument is where an option may stand. -/
def ofText (text : String) : Argument :=
  match text.toList with
  | ['-', '-'] => separator
  | '-' :: '-' :: body => ofLong body
  | '-' :: letter :: body => ofShort letter body
  | _ => unknown

/-- Whether a text can be the value of the option before it. -/
def isValue (text : String) : Bool :=
  match text.toList with
  | '-' :: _ :: _ => false
  | _ => true

end Argument

/-- The options that are given, with their values. -/
def occurrences? : List String → Option (List (Flag × String))
  | [] => some []
  | text :: rest =>
    match Argument.ofText text with
    | .complete flag value => (occurrences? rest).map ((flag, value) :: ·)
    | .awaiting flag =>
      match rest with
      | value :: rest =>
        if Argument.isValue value then (occurrences? rest).map ((flag, value) :: ·) else none
      | [] => none
    | .separator => if rest.isEmpty then some [] else none
    | .unknown => none

/-- What the command is asked to do. -/
structure Arguments where
  descriptorSet : String
  message : String
  input : Option String
  format : OutputFormat
  failFast : Bool
  maxDepth : Option Nat
  package : String
deriving Repr, DecidableEq

namespace Arguments

/-- The path that a text is. -/
def path? (text : String) : Option String :=
  if text.isEmpty then none else some text

/-- The output format that a text names. -/
def format? : String → Option OutputFormat
  | "text" => some .text
  | "json" => some .json
  | _ => none

/-- The number of levels that a text denotes. -/
def levels? (text : String) : Option Nat :=
  (unsignedInteger? text.toList).bind (unsignedWithin? 64)

/-- The value of an option that is read in some way: absent if the option is not given, none at
all if it is given with a value that cannot be read. -/
def optional? {α : Type} (given : List (Flag × String)) (flag : Flag) (read : String → Option α) :
    Option (Option α) :=
  match given.lookup flag with
  | none => some none
  | some text => (read text).map some

/-- The value of an option that has to be given. -/
def required? {α : Type} (given : List (Flag × String)) (flag : Flag) (read : String → Option α) :
    Option α :=
  (given.lookup flag).bind read

/-- What given options ask for. -/
def ofOccurrences? (given : List (Flag × String)) : Option Arguments := do
  guard (given.map (·.1)).Nodup
  let descriptorSet ← required? given .descriptorSet path?
  let message ← required? given .message some
  let input ← optional? given .input path?
  let format ← optional? given .format format?
  let maxDepth ← optional? given .maxDepth levels?
  let package ← optional? given .package some
  some {
    descriptorSet, message, input, maxDepth,
    format := format.getD .text,
    failFast := (given.lookup .failFast).isSome,
    package := package.getD Registry.default.package }

/-- What the arguments of the command ask for; none if they are not used rightly. -/
def ofList? (texts : List String) : Option Arguments :=
  (occurrences? texts).bind ofOccurrences?

end Arguments

end CommandLine

end MessageConstraints
