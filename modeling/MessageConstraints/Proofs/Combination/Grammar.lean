import Mathlib.Tactic.Common
import MessageConstraints.Proofs.Combination.Words

/-!
# The grammar of field combinations

A combination is written in words as

* `Or := And ('|' And)*`,
* `And := Atom ('&' Atom)*`,
* `Atom := '(' Or ')' | name`.

Derivations of this grammar are a data type, with the words that each derives, the tree that it
stands for and its value when the names are true or false.  The reader keeps a stack of unfinished
parentheses instead; `expectOperand_tokens` follows it along a derivation, and `exists_tokens`
finds a derivation behind every list of words that it does not refuse.  Together they say that it
accepts exactly the grammar (`ofTokens?_eq_some_iff`), and what it gives.
-/

namespace MessageConstraints
namespace Combination

/-! ## Derivations -/

mutual

/-- A derivation of operands joined by `|`. -/
inductive OrDerivation where
  | last (operand : AndDerivation)
  | more (operand : AndDerivation) (rest : OrDerivation)

/-- A derivation of operands joined by `&`. -/
inductive AndDerivation where
  | last (operand : AtomDerivation)
  | more (operand : AtomDerivation) (rest : AndDerivation)

/-- A derivation of a name or of a combination in parentheses. -/
inductive AtomDerivation where
  | group (inner : OrDerivation)
  | name (text : String)

end

mutual

/-- The words that are derived. -/
def OrDerivation.tokens : OrDerivation → List Token
  | .last operand => operand.tokens
  | .more operand rest => operand.tokens ++ .or :: rest.tokens

@[inherit_doc OrDerivation.tokens]
def AndDerivation.tokens : AndDerivation → List Token
  | .last operand => operand.tokens
  | .more operand rest => operand.tokens ++ .and :: rest.tokens

@[inherit_doc OrDerivation.tokens]
def AtomDerivation.tokens : AtomDerivation → List Token
  | .group inner => .openParen :: (inner.tokens ++ [.closeParen])
  | .name text => [.name text]

end

mutual

/-- The operands of `|`, each with a node of its own even if it has one operand only. -/
def OrDerivation.operands : OrDerivation → List Combination
  | .last operand => [.all operand.operands]
  | .more operand rest => .all operand.operands :: rest.operands

/-- The operands of `&`. -/
def AndDerivation.operands : AndDerivation → List Combination
  | .last operand => [operand.tree]
  | .more operand rest => operand.tree :: rest.operands

/-- The tree of a derivation; parentheses leave no node. -/
def AtomDerivation.tree : AtomDerivation → Combination
  | .group inner => .any inner.operands
  | .name text => .field text

end

/-- The tree of a derivation, with a node for every `Or` and every `And`. -/
def OrDerivation.tree (derivation : OrDerivation) : Combination :=
  .any derivation.operands

mutual

/-- A tree without the nodes that have one operand only. -/
def collapse : Combination → Combination
  | field name => field name
  | all operands =>
    match collapseAll operands with
    | [operand] => operand
    | operands => all operands
  | any operands =>
    match collapseAll operands with
    | [operand] => operand
    | operands => any operands

/-- Some trees without the nodes that have one operand only. -/
def collapseAll : List Combination → List Combination
  | [] => []
  | operand :: rest => collapse operand :: collapseAll rest

end

mutual

/-- The value of a derivation when each name is true or false: `|` is disjunction. -/
def OrDerivation.value (isSet : String → Bool) : OrDerivation → Bool
  | .last operand => operand.value isSet
  | .more operand rest => operand.value isSet || rest.value isSet

/-- The value of a derivation when each name is true or false: `&` is conjunction. -/
def AndDerivation.value (isSet : String → Bool) : AndDerivation → Bool
  | .last operand => operand.value isSet
  | .more operand rest => operand.value isSet && rest.value isSet

/-- The value of a derivation when each name is true or false. -/
def AtomDerivation.value (isSet : String → Bool) : AtomDerivation → Bool
  | .group inner => inner.value isSet
  | .name text => isSet text

end

/-! ## Collapsing keeps names and meaning -/

theorem collapse_all (operands : List Combination) :
    collapse (all operands) = ofAnd (collapseAll operands) := by
  rw [collapse]
  cases collapseAll operands with
  | nil => rfl
  | cons operand rest => cases rest <;> rfl

theorem collapse_any (operands : List Combination) :
    collapse (any operands) = ofOr (collapseAll operands) := by
  rw [collapse]
  cases collapseAll operands with
  | nil => rfl
  | cons operand rest => cases rest <;> rfl

theorem names_ofAnd (operands : List Combination) : (ofAnd operands).names = namesOf operands := by
  match operands with
  | [] => rfl
  | [operand] => simp [ofAnd, namesOf]
  | _ :: _ :: _ => simp [ofAnd, names]

theorem names_ofOr (operands : List Combination) : (ofOr operands).names = namesOf operands := by
  match operands with
  | [] => rfl
  | [operand] => simp [ofOr, namesOf]
  | _ :: _ :: _ => simp [ofOr, names]

theorem holds_ofAnd (isSet : String → Bool) (operands : List Combination) :
    (ofAnd operands).holds isSet = holdsAll isSet operands := by
  match operands with
  | [] => rfl
  | [operand] => simp [ofAnd, holdsAll]
  | _ :: _ :: _ => simp [ofAnd, holds]

theorem holds_ofOr (isSet : String → Bool) (operands : List Combination) :
    (ofOr operands).holds isSet = holdsAny isSet operands := by
  match operands with
  | [] => rfl
  | [operand] => simp [ofOr, holdsAny]
  | _ :: _ :: _ => simp [ofOr, holds]

mutual

/-- The collapsed operands of a derivation have the names of its words, in order. -/
theorem OrDerivation.namesOf_operands (derivation : OrDerivation) :
    namesOf (collapseAll derivation.operands) = derivation.tokens.filterMap Token.name? := by
  match derivation with
  | .last operand =>
    have h := operand.namesOf_operands
    simp [OrDerivation.operands, OrDerivation.tokens, collapseAll, namesOf, collapse_all,
      names_ofAnd, h]
  | .more operand rest =>
    have h := operand.namesOf_operands
    have hrest := rest.namesOf_operands
    simp [OrDerivation.operands, OrDerivation.tokens, collapseAll, namesOf, collapse_all,
      names_ofAnd, h, hrest, Token.name?, List.filterMap_cons]

@[inherit_doc OrDerivation.namesOf_operands]
theorem AndDerivation.namesOf_operands (derivation : AndDerivation) :
    namesOf (collapseAll derivation.operands) = derivation.tokens.filterMap Token.name? := by
  match derivation with
  | .last operand =>
    have h := operand.names_tree
    simp [AndDerivation.operands, AndDerivation.tokens, collapseAll, namesOf, h]
  | .more operand rest =>
    have h := operand.names_tree
    have hrest := rest.namesOf_operands
    simp [AndDerivation.operands, AndDerivation.tokens, collapseAll, namesOf, h, hrest,
      Token.name?, List.filterMap_cons]

@[inherit_doc OrDerivation.namesOf_operands]
theorem AtomDerivation.names_tree (derivation : AtomDerivation) :
    (collapse derivation.tree).names = derivation.tokens.filterMap Token.name? := by
  match derivation with
  | .group inner =>
    have h := inner.namesOf_operands
    simp [AtomDerivation.tree, AtomDerivation.tokens, collapse_any, names_ofOr, h, Token.name?,
      List.filterMap_cons]
  | .name text => rfl

end

mutual

/-- The collapsed operands of a derivation have its value. -/
theorem OrDerivation.holdsAny_operands (isSet : String → Bool) (derivation : OrDerivation) :
    holdsAny isSet (collapseAll derivation.operands) = derivation.value isSet := by
  match derivation with
  | .last operand =>
    have h := operand.holdsAll_operands isSet
    simp [OrDerivation.operands, OrDerivation.value, collapseAll, holdsAny, collapse_all,
      holds_ofAnd, h]
  | .more operand rest =>
    have h := operand.holdsAll_operands isSet
    have hrest := rest.holdsAny_operands isSet
    simp [OrDerivation.operands, OrDerivation.value, collapseAll, holdsAny, collapse_all,
      holds_ofAnd, h, hrest]

@[inherit_doc OrDerivation.holdsAny_operands]
theorem AndDerivation.holdsAll_operands (isSet : String → Bool) (derivation : AndDerivation) :
    holdsAll isSet (collapseAll derivation.operands) = derivation.value isSet := by
  match derivation with
  | .last operand =>
    have h := operand.holds_tree isSet
    simp [AndDerivation.operands, AndDerivation.value, collapseAll, holdsAll, h]
  | .more operand rest =>
    have h := operand.holds_tree isSet
    have hrest := rest.holdsAll_operands isSet
    simp [AndDerivation.operands, AndDerivation.value, collapseAll, holdsAll, h, hrest]

@[inherit_doc OrDerivation.holdsAny_operands]
theorem AtomDerivation.holds_tree (isSet : String → Bool) (derivation : AtomDerivation) :
    (collapse derivation.tree).holds isSet = derivation.value isSet := by
  match derivation with
  | .group inner =>
    have h := inner.holdsAny_operands isSet
    simp [AtomDerivation.tree, AtomDerivation.value, collapse_any, holds_ofOr, h]
  | .name text => simp [AtomDerivation.tree, AtomDerivation.value, collapse, holds]

end

/-! ## Reading along a derivation -/

/-- What has been read when the words of a derivation have been read, after some operands of `|`
in reverse. -/
def OrDerivation.frame (ors : List Combination) : OrDerivation → Frame
  | .last operand => ⟨ors, (collapseAll operand.operands).reverse⟩
  | .more operand rest => rest.frame (ofAnd (collapseAll operand.operands) :: ors)

theorem OrDerivation.finish_frame (ors : List Combination) (derivation : OrDerivation) :
    (derivation.frame ors).finish = ofOr (ors.reverse ++ collapseAll derivation.operands) := by
  match derivation with
  | .last operand =>
    simp [OrDerivation.frame, OrDerivation.operands, Frame.finish, Frame.endOr, collapseAll,
      collapse_all]
  | .more operand rest =>
    rw [OrDerivation.frame, rest.finish_frame]
    simp [OrDerivation.operands, collapseAll, collapse_all]

/-- The tree of a derivation is what its frame comes to. -/
theorem OrDerivation.finish_frame_nil (derivation : OrDerivation) :
    (derivation.frame []).finish = collapse derivation.tree := by
  rw [derivation.finish_frame, OrDerivation.tree, collapse_any]
  rfl

mutual

/-- Reading the words of a derivation leads from where an operand has to come to where a sign has
to come. -/
theorem OrDerivation.expectOperand_tokens (derivation : OrDerivation) (ors : List Combination)
    (outer : List Frame) (rest : List Token) :
    expectOperand ⟨ors, []⟩ outer (derivation.tokens ++ rest) =
      expectSign (derivation.frame ors) outer rest := by
  match derivation with
  | .last operand =>
    rw [OrDerivation.tokens, operand.expectOperand_tokens, List.append_nil]
    rfl
  | .more operand more =>
    rw [OrDerivation.tokens, List.append_assoc, List.cons_append, operand.expectOperand_tokens,
      expectSign, List.append_nil, OrDerivation.frame,
      ← more.expectOperand_tokens _ outer rest]
    simp only [Frame.endOr, List.reverse_reverse]

@[inherit_doc OrDerivation.expectOperand_tokens]
theorem AndDerivation.expectOperand_tokens (derivation : AndDerivation) (frame : Frame)
    (outer : List Frame) (rest : List Token) :
    expectOperand frame outer (derivation.tokens ++ rest) =
      expectSign ⟨frame.ors, (collapseAll derivation.operands).reverse ++ frame.ands⟩ outer
        rest := by
  match derivation with
  | .last operand =>
    rw [AndDerivation.tokens, operand.expectOperand_tokens]
    rfl
  | .more operand more =>
    rw [AndDerivation.tokens, List.append_assoc, List.cons_append, operand.expectOperand_tokens,
      expectSign, more.expectOperand_tokens]
    simp [Frame.push, AndDerivation.operands, collapseAll]

@[inherit_doc OrDerivation.expectOperand_tokens]
theorem AtomDerivation.expectOperand_tokens (derivation : AtomDerivation) (frame : Frame)
    (outer : List Frame) (rest : List Token) :
    expectOperand frame outer (derivation.tokens ++ rest) =
      expectSign (frame.push (collapse derivation.tree)) outer rest := by
  match derivation with
  | .group inner =>
    rw [AtomDerivation.tokens, List.cons_append, List.append_assoc, expectOperand, Frame.start,
      inner.expectOperand_tokens, List.cons_append, expectSign, inner.finish_frame_nil]
    rfl
  | .name text =>
    rw [AtomDerivation.tokens, List.cons_append, expectOperand]
    rfl

end

/-- The words of a derivation are read as its tree. -/
theorem ofTokens?_tokens (derivation : OrDerivation) :
    ofTokens? derivation.tokens = some (collapse derivation.tree) := by
  have h := derivation.expectOperand_tokens [] [] []
  rw [List.append_nil] at h
  rw [ofTokens?, Frame.start, h, expectSign, derivation.finish_frame_nil]
  rfl

/-! ## A derivation behind what is read -/

/-- What may follow a derivation: the end of the text outside all parentheses, and inside some the
parenthesis that closes the innermost one. -/
def Ends (outer : List Frame) (rest : List Token) : Prop :=
  (outer = [] ∧ rest = []) ∨ (outer ≠ [] ∧ ∃ after, rest = .closeParen :: after)

/-- The derivation that has one more operand of `&` in front. -/
def OrDerivation.addFactor (operand : AtomDerivation) : OrDerivation → OrDerivation
  | .last factors => .last (.more operand factors)
  | .more factors rest => .more (.more operand factors) rest

theorem OrDerivation.tokens_addFactor (operand : AtomDerivation) (derivation : OrDerivation) :
    (derivation.addFactor operand).tokens = operand.tokens ++ .and :: derivation.tokens := by
  cases derivation with
  | last factors => rfl
  | more factors rest =>
    simp [OrDerivation.addFactor, OrDerivation.tokens, AndDerivation.tokens]

/-- What follows an operand that is not refused: the end, or a sign and a derivation. -/
theorem exists_tokens_of_sign {frame : Frame} {outer : List Frame} {words : List Token}
    (h : (expectSign frame outer words).isSome) (operand : AtomDerivation)
    (ih : ∀ (frame : Frame) (shorter : List Token), shorter.length < words.length →
      (expectOperand frame outer shorter).isSome →
        ∃ derivation rest, shorter = OrDerivation.tokens derivation ++ rest ∧ Ends outer rest) :
    ∃ derivation rest, operand.tokens ++ words = OrDerivation.tokens derivation ++ rest ∧
      Ends outer rest := by
  match words with
  | [] =>
    have houter : outer = [] := by
      by_contra hne
      simp [expectSign, hne] at h
    exact ⟨.last (.last operand), [], rfl, Or.inl ⟨houter, rfl⟩⟩
  | .and :: shorter =>
    rw [expectSign] at h
    obtain ⟨derivation, rest, rfl, hends⟩ := ih _ shorter (Nat.lt_succ_self _) h
    refine ⟨derivation.addFactor operand, rest, ?_, hends⟩
    rw [derivation.tokens_addFactor, List.append_assoc, List.cons_append]
  | .or :: shorter =>
    rw [expectSign] at h
    obtain ⟨derivation, rest, rfl, hends⟩ := ih _ shorter (Nat.lt_succ_self _) h
    refine ⟨.more (.last operand) derivation, rest, ?_, hends⟩
    rw [OrDerivation.tokens, AndDerivation.tokens, List.append_assoc, List.cons_append]
  | .closeParen :: after =>
    have houter : outer ≠ [] := by
      rintro rfl
      simp [expectSign] at h
    exact ⟨.last (.last operand), _, rfl, Or.inr ⟨houter, after, rfl⟩⟩
  | .openParen :: _ => simp [expectSign] at h
  | .name _ :: _ => simp [expectSign] at h

/-- Words that are not refused where an operand has to come start with those of a derivation. -/
theorem exists_tokens {frame : Frame} {outer : List Frame} {words : List Token}
    (h : (expectOperand frame outer words).isSome) :
    ∃ derivation rest, words = OrDerivation.tokens derivation ++ rest ∧ Ends outer rest := by
  induction hn : words.length using Nat.strongRecOn generalizing frame outer words with
  | ind n ih =>
    have shorten : ∀ (outer : List Frame) (frame : Frame) (shorter : List Token),
        shorter.length < n → (expectOperand frame outer shorter).isSome →
          ∃ derivation rest, shorter = OrDerivation.tokens derivation ++ rest ∧ Ends outer rest :=
      fun _ _ shorter hlt hsome => ih shorter.length hlt hsome rfl
    match words with
    | .name text :: following =>
      rw [expectOperand] at h
      rw [List.length_cons] at hn
      exact exists_tokens_of_sign h (.name text)
        fun frame shorter hlt => shorten outer frame shorter (by omega)
    | .openParen :: inside =>
      rw [expectOperand] at h
      rw [List.length_cons] at hn
      obtain ⟨inner, rest, hinside, hends⟩ := shorten (frame :: outer) _ inside (by omega) h
      obtain ⟨hnil, -⟩ | ⟨-, following, rfl⟩ := hends
      · exact absurd hnil (List.cons_ne_nil _ _)
      · -- The parentheses and what they hold are an operand, after which reading goes on.
        have hgroup : Token.openParen :: inside =
            (AtomDerivation.group inner).tokens ++ following := by
          rw [AtomDerivation.tokens, hinside]
          simp
        have hlength := congrArg List.length hgroup
        rw [List.length_append, List.length_cons] at hlength
        have hpos : 0 < (AtomDerivation.group inner).tokens.length := by
          rw [AtomDerivation.tokens, List.length_cons]
          exact Nat.succ_pos _
        have hsome : (expectSign (frame.push (collapse (AtomDerivation.group inner).tree)) outer
            following).isSome := by
          rw [← AtomDerivation.expectOperand_tokens, ← hgroup, expectOperand]
          exact h
        rw [hgroup]
        exact exists_tokens_of_sign hsome (.group inner)
          fun frame shorter hlt => shorten outer frame shorter (by omega)
    | [] => simp [expectOperand] at h
    | .and :: _ => simp [expectOperand] at h
    | .or :: _ => simp [expectOperand] at h
    | .closeParen :: _ => simp [expectOperand] at h

/-- Words are read as a combination exactly if they are derived, and then it is the collapsed tree
of the derivation. -/
theorem ofTokens?_eq_some_iff {words : List Token} {combination : Combination} :
    ofTokens? words = some combination ↔
      ∃ derivation : OrDerivation,
        derivation.tokens = words ∧ combination = collapse derivation.tree := by
  constructor
  · intro h
    have hsome : (expectOperand .start [] words).isSome := by
      rw [← ofTokens?, h]
      rfl
    obtain ⟨derivation, rest, rfl, ⟨-, rfl⟩ | ⟨hne, -⟩⟩ := exists_tokens hsome
    · rw [List.append_nil, ofTokens?_tokens] at h
      exact ⟨derivation, (List.append_nil _).symm, (Option.some_inj.mp h).symm⟩
    · exact absurd rfl hne
  · rintro ⟨derivation, rfl, rfl⟩
    exact ofTokens?_tokens derivation

/-- **The notation of field combinations.**  A text is cut into words in one way.  It is read
exactly if the grammar derives these words; then it is read as the collapsed tree of the
derivation, whose names are the names among the words, in order, and whose meaning is the value of
the derivation, whatever fields are set. -/
theorem parse?_follows_grammar (text : String) :
    ∃ words, (∀ ws, Token.Cut text.toList ws ↔ ws = words) ∧
      ((parse? text).isSome ↔ ∃ derivation : OrDerivation, derivation.tokens = words) ∧
      ∀ derivation : OrDerivation, derivation.tokens = words →
        parse? text = some (collapse derivation.tree) ∧
        (collapse derivation.tree).names = words.filterMap Token.name? ∧
        ∀ isSet, (collapse derivation.tree).holds isSet = derivation.value isSet := by
  refine ⟨Token.ofText text, fun ws => ?_, ?_, ?_⟩
  · rw [Token.cut_iff_scan, Token.ofText]
    exact eq_comm
  · rw [parse?, Option.isSome_iff_exists]
    constructor
    · rintro ⟨combination, h⟩
      obtain ⟨derivation, hwords, -⟩ := ofTokens?_eq_some_iff.mp h
      exact ⟨derivation, hwords⟩
    · rintro ⟨derivation, hwords⟩
      exact ⟨_, ofTokens?_eq_some_iff.mpr ⟨derivation, hwords, rfl⟩⟩
  · intro derivation hwords
    refine ⟨ofTokens?_eq_some_iff.mpr ⟨derivation, hwords, rfl⟩, ?_, fun isSet => ?_⟩
    · rw [← hwords, OrDerivation.tree, collapse_any, names_ofOr, derivation.namesOf_operands]
    · rw [OrDerivation.tree, collapse_any, holds_ofOr, derivation.holdsAny_operands]

/-- Points belong to names, and `&` binds tighter than `|`. -/
example : (parse? "user.id |(a&b )").map names = some ["user.id", "a", "b"] := by cbv

end Combination
end MessageConstraints
