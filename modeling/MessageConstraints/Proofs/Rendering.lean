import Mathlib.Tactic.Common
import MessageConstraints.Proofs.Identifier

/-!
# Formats that are built from parts

A message format can be built from texts and placeholders: in a text every brace is doubled, and a
placeholder is its name in braces.  Rendering takes such a format apart again
(`Template.render_formatOf`).  The parts may follow each other in any way, because the scanner that
looks for placeholders always stops between two of them: it takes a doubled brace as one character
(`Template.pieces_doubled`), and a placeholder up to its own close brace
(`Template.pieces_braced`).
-/

namespace MessageConstraints
namespace Template

/-! ## Building a format -/

/-- How a character of a text is written in a format: a brace is doubled. -/
def doubled (c : Char) : List Char :=
  if c = '{' ∨ c = '}' then [c, c] else [c]

/-- A name in braces. -/
def braced (name : String) : String :=
  "\x7b" ++ name ++ "\x7d"

/-- A part of a format: a text that stands for itself, or a placeholder. -/
inductive Part where
  | literal (text : String)
  | placeholder (name : String) (isIdentifier : IsIdentifier name)

namespace Part

/-- How a part is written in a format. -/
def written : Part → String
  | literal text => String.ofList (text.toList.flatMap doubled)
  | placeholder name _ => braced name

/-- What a part stands for, given the values of the placeholders. -/
def meant (params : NameMap String) : Part → String
  | literal text => text
  | placeholder name _ => (params.find? name).getD (braced name)

end Part

/-- The format that consists of some parts. -/
def formatOf (parts : List Part) : String :=
  String.join (parts.map Part.written)

/-! ## Taking it apart -/

theorem toList_braced (name : String) : (braced name).toList = '{' :: (name.toList ++ ['}']) := by
  rw [braced, String.toList_append, String.toList_append, List.append_assoc]
  rfl

/-- A doubled brace, or any other character, is read as the character. -/
theorem pieces_doubled (c : Char) (rest : List Char) :
    pieces (doubled c ++ rest) = .char c :: pieces rest := by
  unfold doubled
  split
  case isTrue hbrace =>
    rcases hbrace with rfl | rfl
    · exact pieces.eq_2 rest
    · exact pieces.eq_3 rest
  case isFalse hother =>
    obtain ⟨hopen, hclose⟩ := not_or.mp hother
    exact pieces.eq_5 c rest (fun _ h _ => hopen h) (fun _ h _ => hclose h) hopen

/-- A text is read as its characters, whatever follows it. -/
theorem pieces_literal (text rest : List Char) :
    pieces (text.flatMap doubled ++ rest) = Piece.verbatim text ++ pieces rest := by
  induction text with
  | nil => rfl
  | cons c text ih =>
    rw [List.flatMap_cons, List.append_assoc, pieces_doubled, ih]
    rfl

/-- After a single open brace, what comes up to the next close brace is a placeholder if it is a
name, and stands for itself otherwise. -/
theorem pieces_open {inner : List Char} (hsingle : inner.head? ≠ some '{') (hclose : '}' ∉ inner)
    (rest : List Char) :
    pieces ('{' :: (inner ++ '}' :: rest)) =
      (if Piece.isName inner then [.slot inner] else Piece.verbatim ('{' :: (inner ++ ['}']))) ++
        pieces rest := by
  have hinside : ∀ c ∈ inner, (c != '}') = true := fun c hc =>
    bne_iff_ne.mpr (ne_of_mem_of_not_mem hc hclose)
  have htake : (inner ++ '}' :: rest).takeWhile (· != '}') = inner := by
    rw [List.takeWhile_append_of_pos hinside]
    simp
  have hdrop : (inner ++ '}' :: rest).dropWhile (· != '}') = '}' :: rest := by
    rw [List.dropWhile_append_of_pos hinside]
    simp
  have hnext : ∀ after, inner ++ '}' :: rest = '{' :: after → False := by
    intro after heq
    cases inner with
    | nil => exact absurd (List.cons.inj heq).1 (by decide)
    | cons c cs => exact hsingle (congrArg some (List.cons.inj heq).1)
  rw [pieces.eq_4 _ hnext]
  split
  case h_1 hnil =>
    rw [hdrop] at hnil
    cases hnil
  case h_2 close after hcons =>
    obtain ⟨rfl, rfl⟩ := List.cons.inj (hdrop.symm.trans hcons)
    rw [htake]

/-- A name in braces is read as a placeholder, whatever follows it. -/
theorem pieces_braced {name : String} (hname : IsIdentifier name) (rest : List Char) :
    pieces ((braced name).toList ++ rest) = .slot name.toList :: pieces rest := by
  have hword : ∀ c, ¬ IsWordChar c → c ∉ name.toList := fun c hc hmem => hc (hname.2 c hmem)
  have hsingle : name.toList.head? ≠ some '{' := fun hhead =>
    hword '{' (by decide) (List.mem_of_head? hhead)
  rw [toList_braced, List.cons_append, List.append_assoc, List.singleton_append,
    pieces_open hsingle (hword '}' (by decide)), if_pos (Piece.isName_iff.mpr hname)]
  rfl

/-! ## Filling in -/

theorem fill_verbatim (params : NameMap String) (text : List Char) :
    (Piece.verbatim text).flatMap (Piece.fill params) = text := by
  induction text with
  | nil => rfl
  | cons c text ih => exact congrArg (c :: ·) ih

theorem fill_slot (params : NameMap String) (name : String) :
    Piece.fill params (.slot name.toList) = ((params.find? name).getD (braced name)).toList := by
  rw [Piece.fill, String.ofList_toList]
  cases params.find? name with
  | none => exact (toList_braced name).symm
  | some value => rfl

/-- What a part is written as is read, and filled in, as what it stands for. -/
theorem fill_pieces_written (params : NameMap String) (part : Part) (rest : List Char) :
    (pieces (part.written.toList ++ rest)).flatMap (Piece.fill params) =
      (part.meant params).toList ++ (pieces rest).flatMap (Piece.fill params) := by
  cases part with
  | literal text =>
    rw [Part.written, String.toList_ofList, pieces_literal, List.flatMap_append, fill_verbatim]
    rfl
  | placeholder name hname =>
    rw [Part.written, pieces_braced hname, List.flatMap_cons, fill_slot]
    rfl

/-- **Rendering undoes building.**  A format that consists of texts and placeholders, in any order
and number, is rendered as the texts and the values of the placeholders; a placeholder without a
value is left as it is written.  Braces in the texts and in the values do not matter. -/
theorem render_formatOf (params : NameMap String) (parts : List Part) :
    render (formatOf parts) params = String.join (parts.map (Part.meant params)) := by
  refine String.toList_inj.mp ?_
  rw [render, formatOf, String.toList_ofList, String.toList_join, String.toList_join]
  induction parts with
  | nil => simp [pieces]
  | cons part rest ih =>
    simp only [List.map_cons, List.flatMap_cons]
    rw [fill_pieces_written, ih]

/-- Braces meet in every way: one that ends a text stands before a placeholder, one that starts a
text stands after it, and a value looks like a placeholder. -/
example :
    render "\x7b\x7b\x7ba\x7d\x7d\x7d\x7b\x7b\x7bb_1\x7d" (NameMap.empty.insert "a" "\x7bb_1\x7d") =
      "\x7b\x7bb_1\x7d\x7d\x7b\x7bb_1\x7d" := by
  cbv

end Template
end MessageConstraints
