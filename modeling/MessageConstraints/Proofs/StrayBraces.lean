import Mathlib.Tactic.Common
import MessageConstraints.Proofs.Rendering

/-!
# Stray open braces

In a format an open brace may be left over that no close brace belongs to.  When open braces are
taken in pairs from the left, at most the last one of them stays single (`Template.leavesOpen`), so
a text without close braces is either one that was written as a text, or such a one with a stray
brace and more text behind it (`Template.exists_written`).  A text of the first sort does not touch
the placeholder that follows it.  A stray brace takes everything up to the close brace of that
placeholder, which is no name, and so the placeholder stands for itself; what comes after it is
rendered as always (`Template.render_append_braced`).
-/

namespace MessageConstraints
namespace Template

/-- Whether an open brace of a text without close braces is left over when they are taken in pairs
from the left. -/
def leavesOpen : List Char → Bool
  | [] => false
  | '{' :: '{' :: rest => leavesOpen rest
  | '{' :: _ => true
  | _ :: rest => leavesOpen rest

/-! ## Texts without close braces -/

/-- A text without close braces is written as some text, up to the stray brace if there is one. -/
theorem exists_written {cs : List Char} (hclose : '}' ∉ cs) :
    (leavesOpen cs = false ∧ ∃ text : List Char, cs = text.flatMap doubled) ∨
      (leavesOpen cs = true ∧ ∃ (text rest : List Char),
        cs = text.flatMap doubled ++ '{' :: rest ∧ rest.head? ≠ some '{') := by
  induction cs using leavesOpen.induct with
  | case1 => exact .inl ⟨rfl, [], rfl⟩
  | case2 rest ih =>
    have hrest : '}' ∉ rest := fun hmem =>
      hclose (List.mem_cons_of_mem _ (List.mem_cons_of_mem _ hmem))
    obtain ⟨hopen, text, rfl⟩ | ⟨hopen, text, stray, rfl, hhead⟩ := ih hrest
    · exact .inl ⟨hopen, '{' :: text, rfl⟩
    · exact .inr ⟨hopen, '{' :: text, stray, rfl, hhead⟩
  | case3 rest hsingle =>
    refine .inr ⟨leavesOpen.eq_3 rest hsingle, [], rest, rfl, fun hhead => ?_⟩
    obtain ⟨tail, rfl⟩ := List.head?_eq_some_iff.mp hhead
    exact hsingle tail rfl
  | case4 c rest _ hother ih =>
    obtain ⟨hc, hrest⟩ := not_or.mp (mt List.mem_cons.mpr hclose)
    have hleaves : leavesOpen (c :: rest) = leavesOpen rest := leavesOpen.eq_4 c rest ‹_› hother
    have hplain : doubled c = [c] := if_neg (not_or.mpr ⟨hother, fun heq => hc heq.symm⟩)
    rw [hleaves]
    obtain ⟨hopen, text, rfl⟩ | ⟨hopen, text, stray, rfl, hhead⟩ := ih hrest
    · exact .inl ⟨hopen, c :: text, by rw [List.flatMap_cons, hplain]; rfl⟩
    · exact .inr ⟨hopen, c :: text, stray, by rw [List.flatMap_cons, hplain]; rfl, hhead⟩

/-- Without a close brace, what follows a single open brace stands for itself. -/
theorem pieces_unclosed {rest : List Char} (hsingle : rest.head? ≠ some '{') (hclose : '}' ∉ rest) :
    pieces ('{' :: rest) = Piece.verbatim ('{' :: rest) := by
  have hnext : ∀ after, rest = '{' :: after → False := by
    rintro after rfl
    exact hsingle rfl
  have hdrop : rest.dropWhile (· != '}') = [] := by
    rw [List.dropWhile_eq_nil_iff]
    exact fun c hc => bne_iff_ne.mpr (ne_of_mem_of_not_mem hc hclose)
  rw [pieces.eq_4 _ hnext]
  split
  case h_1 => rfl
  case h_2 close after hcons =>
    rw [hdrop] at hcons
    cases hcons

/-! ## The placeholder after a stray brace -/

/-- What a stray brace takes is no name: another open brace is part of it. -/
theorem isName_capture (stray name : List Char) : Piece.isName (stray ++ '{' :: name) = false := by
  have hbrace : Piece.isNameChar '{' = false := by decide
  rw [Piece.isName, List.all_append, List.all_cons, hbrace, Bool.false_and, Bool.and_false,
    Bool.and_false]

/-- A stray brace keeps a placeholder after it from being filled in, and touches nothing else. -/
theorem fill_stray (params : NameMap String) {stray : List Char} (hne : stray ≠ [])
    (hsingle : stray.head? ≠ some '{') (hclose : '}' ∉ stray) {name : String}
    (hname : IsIdentifier name) (rest : List Char) :
    (pieces ('{' :: (stray ++ ((braced name).toList ++ rest)))).flatMap (Piece.fill params) =
      '{' :: (stray ++ ((braced name).toList ++
        (pieces rest).flatMap (Piece.fill params))) := by
  have hword : '}' ∉ name.toList := fun hmem => absurd (hname.2 '}' hmem) (by decide)
  have hcapture : stray ++ ((braced name).toList ++ rest) =
      (stray ++ '{' :: name.toList) ++ '}' :: rest := by
    simp [toList_braced]
  have hhead : (stray ++ '{' :: name.toList).head? ≠ some '{' := by
    obtain ⟨c, cs, rfl⟩ := List.exists_cons_of_ne_nil hne
    exact hsingle
  have hinside : '}' ∉ stray ++ '{' :: name.toList := by
    simp [hclose, hword]
  rw [hcapture, pieces_open hhead hinside, isName_capture, if_neg Bool.false_ne_true,
    List.flatMap_append, fill_verbatim]
  simp [toList_braced]

/-- **What stands before a placeholder.**  A text without close braces, which does not end in an
open brace, comes before a placeholder for a parameter, and any text after it.  The three are
rendered one by one, except that the placeholder stands for itself if an open brace of the first
text is left over.

The text before the placeholder is read from the left, so whether a brace is left over is seen from
this text alone, and the text after the placeholder never matters for it. -/
theorem render_append_braced {params : NameMap String} {name value text : String}
    (hname : IsIdentifier name) (hvalue : params.find? name = some value)
    (hclose : '}' ∉ text.toList) (hlast : text.toList.getLast? ≠ some '{') (after : String) :
    render (text ++ braced name ++ after) params =
      render text params ++ (if leavesOpen text.toList then braced name else value) ++
        render after params := by
  refine String.toList_inj.mp ?_
  simp only [render, String.toList_ofList, String.toList_append, List.append_assoc]
  obtain ⟨hopen, written, hwritten⟩ | ⟨hopen, written, stray, hwritten, hsingle⟩ :=
    exists_written hclose
  · have htext : pieces text.toList = Piece.verbatim written := by
      have hliteral := pieces_literal written []
      rw [List.append_nil, ← hwritten] at hliteral
      rw [hliteral, pieces, List.append_nil]
    rw [htext, hopen, hwritten, pieces_literal, pieces_braced hname, List.flatMap_append,
      List.flatMap_cons, fill_slot, hvalue]
    rfl
  · have hne : stray ≠ [] := by
      rintro rfl
      exact hlast (by rw [hwritten, List.getLast?_concat])
    have hinside : '}' ∉ stray := fun hmem =>
      hclose (hwritten ▸ List.mem_append_right _ (List.mem_cons_of_mem _ hmem))
    rw [hopen, hwritten, List.append_assoc, List.cons_append, pieces_literal, pieces_literal,
      pieces_unclosed hsingle hinside, List.flatMap_append, List.flatMap_append,
      fill_stray params hne hsingle hinside hname, fill_verbatim, fill_verbatim]
    simp

/-- Doubled braces before a placeholder do not matter for it. -/
theorem render_append_braced_doubled :
    render ("\x7b\x7b a: " ++ braced "field" ++ ", \x7bfield\x7d")
        (NameMap.empty.insert "field" "x") =
      render "\x7b\x7b a: " (NameMap.empty.insert "field" "x") ++ "x" ++
        render ", \x7bfield\x7d" (NameMap.empty.insert "field" "x") := by
  have hname : IsIdentifier "field" := by decide
  have hvalue : (NameMap.empty.insert "field" "x").find? "field" = some "x" := by decide
  have hopen : leavesOpen "\x7b\x7b a: ".toList = false := by decide
  rw [render_append_braced hname hvalue (by decide) (by decide), hopen]
  rfl

/-- A single open brace is left alone, and the placeholder after it as well. -/
theorem render_stray_brace :
    IsIdentifier "field" ∧ (NameMap.empty.insert "field" "x").find? "field" = some "x" ∧
      '}' ∉ "open \x7b then ".toList ∧ "open \x7b then ".toList.getLast? ≠ some '{' ∧
      render ("open \x7b then " ++ braced "field" ++ "") (NameMap.empty.insert "field" "x") =
        "open \x7b then \x7bfield\x7d" ∧
      render ("open \x7b then " ++ braced "field" ++ "") (NameMap.empty.insert "field" "x") ≠
        render "open \x7b then " (NameMap.empty.insert "field" "x") ++ "x" ++
          render "" (NameMap.empty.insert "field" "x") := by
  have htext : render ("open \x7b then " ++ braced "field" ++ "")
      (NameMap.empty.insert "field" "x") = "open \x7b then \x7bfield\x7d" := by
    cbv
  refine ⟨by decide, by decide, by decide, by decide, htext, ?_⟩
  rw [htext]
  cbv

end Template
end MessageConstraints
