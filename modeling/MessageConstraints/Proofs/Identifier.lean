import Mathlib
import MessageConstraints.Template

/-!
# Identifiers

Names of ASCII letters, digits and underscores.  Fields are named by them, and so are the
placeholders of a message format (`Piece.isName_iff`).  No sign that sets off a name in a text can
be part of one, so a name ends where the first such sign stands.
-/

namespace MessageConstraints

/-- An ASCII letter, a decimal digit or an underscore. -/
def IsWordChar (c : Char) : Prop :=
  ('a' ≤ c ∧ c ≤ 'z') ∨ ('A' ≤ c ∧ c ≤ 'Z') ∨ ('0' ≤ c ∧ c ≤ '9') ∨ c = '_'

/-- A name of ASCII letters, digits and underscores that is not empty. -/
def IsIdentifier (name : String) : Prop :=
  name.toList ≠ [] ∧ ∀ c ∈ name.toList, IsWordChar c

instance : DecidablePred IsWordChar := fun c =>
  inferInstanceAs (Decidable (('a' ≤ c ∧ c ≤ 'z') ∨ ('A' ≤ c ∧ c ≤ 'Z') ∨
    ('0' ≤ c ∧ c ≤ '9') ∨ c = '_'))

/-- A word character differs from every character that is none. -/
theorem IsWordChar.ne {c d : Char} (h : IsWordChar c) (hd : ¬ IsWordChar d) : c ≠ d := by
  rintro rfl
  exact hd h

namespace Piece

theorem isNameChar_iff {c : Char} : isNameChar c = true ↔ IsWordChar c := by
  simp only [isNameChar, IsWordChar, Char.isAlphanum, Char.isAlpha, Char.isUpper, Char.isLower,
    Char.isDigit, Bool.or_eq_true, Bool.and_eq_true, decide_eq_true_eq, beq_iff_eq]
  rw [or_assoc, or_assoc, or_left_comm]
  rfl

/-- Placeholders are named by identifiers. -/
theorem isName_iff {name : String} : isName name.toList = true ↔ IsIdentifier name := by
  simp only [isName, IsIdentifier, Bool.and_eq_true, Bool.not_eq_true', List.isEmpty_eq_false_iff,
    List.all_eq_true, isNameChar_iff]

end Piece

instance : DecidablePred IsIdentifier := fun _ => decidable_of_iff _ Piece.isName_iff

end MessageConstraints
