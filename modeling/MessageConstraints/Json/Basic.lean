import MessageConstraints.Number.Binary

/-!
# JSON values

The data of a JSON text.  Numbers without a fraction and an exponent are integers as long as they
fit into 64 bits; all others are floating point numbers.  The members of an object are kept in
order, and a name may occur more than once.
-/

namespace MessageConstraints

/-- A number of a JSON text. -/
inductive JsonNumber where
  | natural (n : Nat)
  | negative (n : Nat)
  | real (x : Binary .double)
deriving Repr, DecidableEq

/-- A value of a JSON text. -/
inductive Json where
  | null
  | bool (b : Bool)
  | number (n : JsonNumber)
  | string (s : String)
  | array (items : List Json)
  | object (members : List (String × Json))
deriving Repr

namespace Json

/-- Whether a value is null. -/
def isNull : Json → Bool
  | null => true
  | _ => false

end Json

end MessageConstraints
