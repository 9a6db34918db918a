import Mathlib
import MessageConstraints.FieldPath
import MessageConstraints.Json.Token
import MessageConstraints.Proofs.Identifier

/-!
# Paths are told apart by their text

The text of a path is its steps one after the other.  Where a step ends can be seen from the text:
a field name and an index go up to the first sign that cannot be part of them, and a key goes up to
its closing quote, because inside the quotes every quote is escaped.  So two paths with one text
have the same first step and the same text after it (`FieldPath.segmentChars_append_inj`), and in
the end they are one path (`FieldPath.display_inj`).

That a quoted text is closed by its last quote and by no earlier one, and that different texts are
quoted differently, is seen by reading it: a JSON string is read as the characters that were quoted
(`JsonToken.stringCodes?_quoted`).
-/

namespace MessageConstraints

/-! ## Reading quoted texts -/

namespace JsonToken

open Text

theorem digitIn?_hexDigit : ∀ n < 16, digitIn? 16 (hexDigit n) = some n := by
  decide

/-- The four digits that are written for a control character denote its code. -/
theorem unit?_hexByte {n : Nat} (h : n < 256) :
    unit? ['0', '0', hexDigit (n / 16), hexDigit (n % 16)] = some n := by
  have hzero : digitIn? 16 '0' = some 0 := by decide
  have hhigh : digitIn? 16 (hexDigit (n / 16)) = some (n / 16) := digitIn?_hexDigit _ (by omega)
  have hlow : digitIn? 16 (hexDigit (n % 16)) = some (n % 16) := digitIn?_hexDigit _ (by omega)
  have hvalue : n / 16 * 16 + n % 16 = n := by omega
  simp [unit?, hzero, hhigh, hlow, hvalue]

/-- A letter after a backslash is read as the code that it stands for. -/
theorem stringCodes?_letter {letter : Char} {code : Nat} (h : escapedCode? letter = some code)
    (rest : List Char) :
    stringCodes? ('\\' :: letter :: rest) =
      (stringCodes? rest).map fun (codes, after) => (code :: codes, after) := by
  have hletter : letter ≠ 'u' := by
    rintro rfl
    cases h
  rw [stringCodes?.eq_4 letter rest fun _ _ _ _ _ hu _ => hletter hu, h]

/-- What is written for a character between quotes is read as its code. -/
theorem stringCodes?_escapeChar (c : Char) (rest : List Char) :
    stringCodes? (escapeChar c ++ rest) =
      (stringCodes? rest).map fun (codes, after) => (c.toNat :: codes, after) := by
  unfold escapeChar
  split_ifs with hquote hbackslash hcontrol
  · subst hquote
    exact stringCodes?_letter rfl rest
  · subst hbackslash
    exact stringCodes?_letter rfl rest
  · split
    case h_1 hcode => exact hcode ▸ stringCodes?_letter rfl rest
    case h_2 hcode => exact hcode ▸ stringCodes?_letter rfl rest
    case h_3 hcode => exact hcode ▸ stringCodes?_letter rfl rest
    case h_4 hcode => exact hcode ▸ stringCodes?_letter rfl rest
    case h_5 hcode => exact hcode ▸ stringCodes?_letter rfl rest
    case h_6 =>
      have hunit := unit?_hexByte (n := c.toNat) (by omega)
      show stringCodes? ('\\' :: 'u' :: '0' :: '0' :: _ :: _ :: rest) = _
      rw [stringCodes?.eq_3, hunit]
  · rw [List.singleton_append, stringCodes?.eq_5 c rest hquote
      (fun _ _ _ _ _ h _ => hbackslash h) (fun _ _ h _ => hbackslash h)]
    exact if_neg (not_or.mpr ⟨hbackslash, hcontrol⟩)

/-- **A quoted text is read back.**  After the opening quote, the characters that were quoted are
read, and reading ends at the quote that closes them. -/
theorem stringCodes?_quoted (cs rest : List Char) :
    stringCodes? (cs.flatMap escapeChar ++ '"' :: rest) = some (cs.map Char.toNat, rest) := by
  induction cs with
  | nil => exact stringCodes?.eq_2 rest
  | cons c cs ih =>
    rw [List.flatMap_cons, List.append_assoc, stringCodes?_escapeChar, ih]
    rfl

end JsonToken

/-- Two quoted texts that stand at the front of one text are the same. -/
theorem Text.quoteChars_append_inj {cs cs' rest rest' : List Char}
    (h : quoteChars cs ++ rest = quoteChars cs' ++ rest') : cs = cs' ∧ rest = rest' := by
  have hinside : cs.flatMap escapeChar ++ '"' :: rest =
      cs'.flatMap escapeChar ++ '"' :: rest' := by
    simpa [quoteChars] using h
  have hread := congrArg JsonToken.stringCodes? hinside
  rw [JsonToken.stringCodes?_quoted, JsonToken.stringCodes?_quoted] at hread
  obtain ⟨hcodes, hrest⟩ := Prod.mk.inj (Option.some.inj hread)
  exact ⟨(List.map_inj_right fun _ _ => Char.toNat_inj.mp).mp hcodes, hrest⟩

/-! ## Runs of characters -/

/-- A run of characters of one sort, up to the first character that is of another, is determined by
the text at whose front it stands. -/
theorem run_append_inj {sort : Char → Prop} {run run' rest rest' : List Char}
    (hrun : ∀ c ∈ run, sort c) (hrun' : ∀ c ∈ run', sort c)
    (hrest : ∀ c ∈ rest.head?, ¬ sort c) (hrest' : ∀ c ∈ rest'.head?, ¬ sort c)
    (h : run ++ rest = run' ++ rest') : run = run' ∧ rest = rest' := by
  induction run generalizing run' with
  | nil =>
    cases run' with
    | nil => exact ⟨rfl, h⟩
    | cons c cs =>
      have hhead : c ∈ rest.head? := by
        rw [show rest = c :: (cs ++ rest') from h]
        rfl
      exact absurd (hrun' c List.mem_cons_self) (hrest c hhead)
  | cons c cs ih =>
    cases run' with
    | nil =>
      have hhead : c ∈ rest'.head? := by
        rw [show rest' = c :: (cs ++ rest) from h.symm]
        rfl
      exact absurd (hrun c List.mem_cons_self) (hrest' c hhead)
    | cons d ds =>
      obtain ⟨rfl, htail⟩ := List.cons.inj h
      obtain ⟨rfl, hafter⟩ := ih (fun e he => hrun e (List.mem_cons_of_mem _ he))
        (fun e he => hrun' e (List.mem_cons_of_mem _ he)) htail
      exact ⟨rfl, hafter⟩

/-! ## Steps -/

namespace Segment

/-- A step is named properly if it is no field, or one whose name is an identifier. -/
def Named : Segment → Prop
  | field name => IsIdentifier name
  | _ => True

/-- Whether a step is written in brackets, and whether it is quoted in them. -/
def signs : Segment → Bool × Bool
  | field _ => (false, false)
  | index _ => (true, false)
  | key _ => (true, true)

end Segment

namespace FieldPath

/-- Whether a text starts with a bracket, and whether a quote comes next. -/
def signsOf : List Char → Bool × Bool
  | '[' :: '"' :: _ => (true, true)
  | '[' :: _ => (true, false)
  | _ => (false, false)

/-- A text is empty or starts with one of the signs that set off a step from the one before. -/
def SetOff (text : List Char) : Prop :=
  ∀ c ∈ text.head?, c = '.' ∨ c = '['

theorem digits_toString (n : Nat) :
    (toString n).toList ≠ [] ∧ ∀ c ∈ (toString n).toList, c.isDigit = true := by
  have hdigits : (toString n).toList = Nat.toDigits 10 n := Nat.toList_repr
  rw [hdigits]
  exact ⟨Nat.toDigits_ne_nil, fun c hc =>
    Nat.isDigit_of_mem_toDigits (by decide) (by decide) hc⟩

/-- A step can be seen to be a field, an index or a key. -/
theorem signsOf_segmentChars {first : Bool} {step : Segment} (hstep : step.Named)
    (rest : List Char) : signsOf (segmentChars first step ++ rest) = step.signs := by
  cases step with
  | field name =>
    cases first with
    | false => rfl
    | true =>
      obtain ⟨c, cs, hname⟩ := List.exists_cons_of_ne_nil hstep.1
      have hc : c ≠ '[' := (hstep.2 c (by rw [hname]; exact List.mem_cons_self)).ne (by decide)
      rw [segmentChars, if_pos rfl, hname]
      simp [signsOf, hc, Segment.signs]
  | index position =>
    obtain ⟨hne, hdigits⟩ := digits_toString position
    obtain ⟨c, cs, hposition⟩ := List.exists_cons_of_ne_nil hne
    have hc : c ≠ '"' := by
      rintro rfl
      exact absurd (hdigits '"' (by rw [hposition]; exact List.mem_cons_self)) (by decide)
    rw [segmentChars, hposition]
    simp [signsOf, hc, Segment.signs]
  | key text => rfl

/-- **A step is determined by the text at whose front it stands**, if the text after it is set
off. -/
theorem segmentChars_append_inj {first : Bool} {step step' : Segment} {rest rest' : List Char}
    (hstep : step.Named) (hstep' : step'.Named) (hrest : SetOff rest) (hrest' : SetOff rest')
    (h : segmentChars first step ++ rest = segmentChars first step' ++ rest') :
    step = step' ∧ rest = rest' := by
  have hsigns : step.signs = step'.signs := by
    rw [← signsOf_segmentChars hstep rest, h, signsOf_segmentChars hstep' rest']
  have hword : ∀ {text : List Char}, SetOff text → ∀ c ∈ text.head?, ¬ IsWordChar c := by
    intro text htext c hc
    rcases htext c hc with rfl | rfl <;> decide
  cases step with
  | field name =>
    cases step' with
    | field name' =>
      have hnames : name.toList ++ rest = name'.toList ++ rest' := by
        cases first with
        | false => exact (List.cons.inj h).2
        | true => exact h
      obtain ⟨hname, hafter⟩ :=
        run_append_inj hstep.2 hstep'.2 (hword hrest) (hword hrest') hnames
      exact ⟨congrArg Segment.field (String.toList_inj.mp hname), hafter⟩
    | index position => cases hsigns
    | key text => cases hsigns
  | index position =>
    cases step' with
    | index position' =>
      have hpositions : (toString position).toList ++ ']' :: rest =
          (toString position').toList ++ ']' :: rest' := by
        simpa [segmentChars] using h
      have hclose : ∀ {text : List Char}, ∀ c ∈ (']' :: text).head?, ¬ c.isDigit = true := by
        rintro text c hc
        obtain rfl := Option.some.inj hc
        decide
      obtain ⟨hposition, hafter⟩ := run_append_inj (digits_toString position).2
        (digits_toString position').2 hclose hclose hpositions
      exact ⟨congrArg Segment.index (Nat.repr_inj.mp (String.toList_inj.mp hposition)),
        (List.cons.inj hafter).2⟩
    | field name => cases hsigns
    | key text => cases hsigns
  | key text =>
    cases step' with
    | key text' =>
      have htexts : Text.quoteChars text.toList ++ ']' :: rest =
          Text.quoteChars text'.toList ++ ']' :: rest' := by
        simpa [segmentChars] using h
      obtain ⟨htext, hafter⟩ := Text.quoteChars_append_inj htexts
      exact ⟨congrArg Segment.key (String.toList_inj.mp htext), (List.cons.inj hafter).2⟩
    | field name => cases hsigns
    | index position => cases hsigns

/-! ## Paths -/

/-- All fields of a path are named by identifiers. -/
def Named (path : FieldPath) : Prop :=
  ∀ name, .field name ∈ path → IsIdentifier name

theorem Named.named_of_mem {path : FieldPath} (h : path.Named) {step : Segment}
    (hstep : step ∈ path) : step.Named := by
  cases step with
  | field name => exact h name hstep
  | index position => trivial
  | key text => trivial

theorem Named.tail {step : Segment} {path : FieldPath} (h : Named (step :: path)) : path.Named :=
  fun name hname => h name (List.mem_cons_of_mem step hname)

theorem segmentChars_ne_nil {first : Bool} {step : Segment} (hstep : step.Named) :
    segmentChars first step ≠ [] := by
  cases step with
  | field name =>
    cases first with
    | false => exact List.cons_ne_nil _ _
    | true => exact hstep.1
  | index position => exact List.cons_ne_nil _ _
  | key text => exact List.cons_ne_nil _ _

theorem chars_cons_ne_nil {step : Segment} {rest : FieldPath} (h : Named (step :: rest)) :
    chars (step :: rest) ≠ [] := fun hnil =>
  segmentChars_ne_nil (h.named_of_mem List.mem_cons_self) (List.append_eq_nil_iff.mp hnil).1

/-- The steps after the first one are set off. -/
theorem setOff_flatMap (path : FieldPath) : SetOff (path.flatMap (segmentChars false)) := by
  cases path with
  | nil =>
    intro c hc
    cases hc
  | cons step rest =>
    intro c hc
    cases step with
    | field name => exact Or.inl (Option.some.inj hc).symm
    | index position => exact Or.inr (Option.some.inj hc).symm
    | key text => exact Or.inr (Option.some.inj hc).symm

theorem flatMap_segmentChars_inj {path path' : FieldPath} (hpath : path.Named)
    (hpath' : path'.Named)
    (h : path.flatMap (segmentChars false) = path'.flatMap (segmentChars false)) :
    path = path' := by
  induction path generalizing path' with
  | nil =>
    cases path' with
    | nil => rfl
    | cons step rest =>
      exact absurd (List.append_eq_nil_iff.mp h.symm).1
        (segmentChars_ne_nil (hpath'.named_of_mem List.mem_cons_self))
  | cons step rest ih =>
    cases path' with
    | nil =>
      exact absurd (List.append_eq_nil_iff.mp h).1
        (segmentChars_ne_nil (hpath.named_of_mem List.mem_cons_self))
    | cons step' rest' =>
      obtain ⟨rfl, htail⟩ := segmentChars_append_inj
        (hpath.named_of_mem List.mem_cons_self) (hpath'.named_of_mem List.mem_cons_self)
        (setOff_flatMap rest) (setOff_flatMap rest') h
      rw [ih hpath.tail hpath'.tail htail]

/-- **Paths are told apart by their text.**  Two paths whose fields are named by identifiers are
displayed in the same way only if they are the same, step by step, whatever the texts of their keys
are. -/
theorem display_inj {path path' : FieldPath} (hpath : path.Named) (hpath' : path'.Named) :
    path.display = path'.display ↔ path = path' := by
  refine ⟨fun h => ?_, congrArg display⟩
  have hchars : chars path = chars path' := String.ofList_inj.mp h
  cases path with
  | nil =>
    cases path' with
    | nil => rfl
    | cons step rest => exact absurd hchars.symm (chars_cons_ne_nil hpath')
  | cons step rest =>
    cases path' with
    | nil => exact absurd hchars (chars_cons_ne_nil hpath)
    | cons step' rest' =>
      obtain ⟨rfl, htail⟩ := segmentChars_append_inj
        (hpath.named_of_mem List.mem_cons_self) (hpath'.named_of_mem List.mem_cons_self)
        (setOff_flatMap rest) (setOff_flatMap rest') hchars
      rw [flatMap_segmentChars_inj hpath.tail hpath'.tail htail]

/-- A key that looks like the end of a key and another one is not taken for two keys. -/
theorem display_inj_key :
    display [.field "m", .key "a\"][\"b"] ≠ display [.field "m", .key "a", .key "b"] := by
  have hpath : Named [.field "m", .key "a\"][\"b"] := by
    intro name hname
    obtain rfl : name = "m" := by simpa using hname
    decide
  have hpath' : Named [.field "m", .key "a", .key "b"] := by
    intro name hname
    obtain rfl : name = "m" := by simpa using hname
    decide
  exact (display_inj hpath hpath').not.mpr (by decide)

end FieldPath
end MessageConstraints
