import MessageConstraints.Descriptor.File

/-!
# Numbers and names of parts

What is asked of the numbers and the names of fields and of the values of enums, apart from what
they refer to.  Numbers of fields lie in a fixed range with a gap, differ within a message type,
and keep out of the ranges that the type reserves or leaves to extensions.  Under the newer rules
names of fields that differ only in case and underscores are refused, and enums begin with zero.
-/

namespace MessageConstraints

namespace FieldForm

/-- Whether a number can be that of a field. -/
def isFieldNumber (number : Int) : Bool :=
  decide (1 ≤ number ∧ number < 536870912) && !decide (19000 ≤ number ∧ number < 20000)

/-- Refuses a number that no field can have. -/
def checkNumber (field : FieldForm) : Except LinkError Unit :=
  if isFieldNumber field.number then .ok ()
  else .error (.invalidNumber field.place.fullName field.number)

/-- The name of a field without regard to case and underscores. -/
def foldedName (field : FieldForm) : String :=
  String.ofList ((field.place.name.toList.filter (· != '_')).map Char.toLower)

end FieldForm

namespace MessageForm

/-- Refuses two fields with one number, or with names that may not stand side by side. -/
def checkDistinct (isOlder : Bool) (message : MessageForm) : Except LinkError Unit := do
  let fields := message.fields
  unless (fields.map (·.number)).Nodup do throw (.conflictingNames message.place.fullName)
  unless isOlder || (fields.map (·.foldedName)).Nodup do
    throw (.conflictingNames message.place.fullName)

/-- Refuses a field whose number the message type has set aside. -/
def checkRanges (message : MessageForm) (field : FieldForm) : Except LinkError Unit :=
  if (message.reserved ++ message.extensible).any (·.covers field.number) then
    .error (.invalidNumber field.place.fullName field.number)
  else .ok ()

/-- Checks the numbers and the names of the fields of a message type. -/
def check (isOlder : Bool) (message : MessageForm) : Except LinkError Unit := do
  message.checkDistinct isOlder
  for field in message.fields do
    field.checkNumber
    message.checkRanges field

end MessageForm

namespace EnumForm

/-- Whether the numbers of an enum are as they have to be: there are some, the first one is zero
under the newer rules, no number comes twice unless that is allowed, and none is reserved. -/
def isValid (isOlder : Bool) (type : EnumForm) : Bool :=
  let numbers := type.values.map (·.number)
  !numbers.isEmpty && (isOlder || numbers.head? == some 0)
    && (type.allowsAliases || decide numbers.Nodup)
    && numbers.all fun number => !type.reserved.any (·.covers number)

/-- Checks the numbers of an enum. -/
def check (isOlder : Bool) (type : EnumForm) : Except LinkError Unit :=
  if type.isValid isOlder then .ok () else .error (.invalidEnum type.place.fullName)

end EnumForm

namespace FileForm

/-- Checks the numbers and the names of parts in a file. -/
def checkParts (file : FileForm) : Except LinkError Unit := do
  match file.isOlder? with
  | none => throw (.unknownRules file.name)
  | some isOlder =>
    for message in file.body.messages do message.check isOlder
    for type in file.body.enums do type.check isOlder
    for extension in file.body.extensions do extension.checkNumber

end FileForm

end MessageConstraints
