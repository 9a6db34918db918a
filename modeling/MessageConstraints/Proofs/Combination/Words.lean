import Mathlib.Data.List.TakeWhile
import MessageConstraints.Combination

/-!
# How a text is cut into words

`Token.Cut` says what the words of a text are without reading it from left to right in one go: the
four signs are words, the four blanks are dropped, and a name is a run of name characters that
cannot be extended.  The scanner, which keeps an unfinished name while it reads, finds exactly
these words (`cut_iff_scan`), so every text has one list of words and no other.
-/

namespace MessageConstraints
namespace Combination
namespace Token

/-- The words of a text.  A name takes all name characters up to the next sign, the next blank or
the end. -/
inductive Cut : List Char → List Token → Prop where
  | done : Cut [] []
  | blank {c : Char} {cs : List Char} {words : List Token} :
      isBlank c = true → Cut cs words → Cut (c :: cs) words
  | sign {c : Char} {cs : List Char} {word : Token} {words : List Token} :
      sign? c = some word → Cut cs words → Cut (c :: cs) (word :: words)
  | name {run rest : List Char} {words : List Token} :
      run ≠ [] → (∀ c ∈ run, isNameChar c = true) → (∀ c ∈ rest.head?, isNameChar c = false) →
      Cut rest words → Cut (run ++ rest) (.name (String.ofList run) :: words)

/-- The text of a word that is a name. -/
def name? : Token → Option String
  | .name text => some text
  | _ => none

/-! ## The three sorts of characters -/

theorem sign?_of_isNameChar {c : Char} (h : isNameChar c = true) : sign? c = none := by
  simp only [isNameChar, Bool.and_eq_true] at h
  exact Option.isNone_iff_eq_none.mp h.2

theorem isBlank_of_isNameChar {c : Char} (h : isNameChar c = true) : isBlank c = false := by
  simp only [isNameChar, Bool.and_eq_true, Bool.not_eq_true'] at h
  exact h.1

/-- The four blanks are no signs. -/
theorem sign?_of_isBlank {c : Char} (h : isBlank c = true) : sign? c = none := by
  simp only [isBlank, Bool.or_eq_true, beq_iff_eq] at h
  rcases h with ((rfl | rfl) | rfl) | rfl <;> rfl

/-- A character that is neither a sign nor a blank belongs to a name. -/
theorem isNameChar_of_not {c : Char} (hs : sign? c = none) (hb : isBlank c = false) :
    isNameChar c = true := by
  simp [isNameChar, hs, hb]

/-! ## The scanner -/

theorem scan_sign {c : Char} {word : Token} (h : sign? c = some word) (unfinished cs : List Char) :
    scan unfinished (c :: cs) = ofName unfinished ++ word :: scan [] cs := by
  simp [scan, h]

theorem scan_blank {c : Char} (h : isBlank c = true) (unfinished cs : List Char) :
    scan unfinished (c :: cs) = ofName unfinished ++ scan [] cs := by
  simp [scan, sign?_of_isBlank h, h]

/-- A run of name characters is added to the unfinished name. -/
theorem scan_run {run : List Char} (h : ∀ c ∈ run, isNameChar c = true)
    (unfinished rest : List Char) :
    scan unfinished (run ++ rest) = scan (run.reverse ++ unfinished) rest := by
  induction run generalizing unfinished with
  | nil => rfl
  | cons c run ih =>
    have hc := h c List.mem_cons_self
    have hrest := ih (fun d hd => h d (List.mem_cons_of_mem _ hd)) (c :: unfinished)
    rw [List.cons_append, scan, sign?_of_isNameChar hc]
    simp only [isBlank_of_isNameChar hc, Bool.false_eq_true, if_false]
    rw [hrest, List.reverse_cons, List.append_assoc]
    rfl

/-- What follows a name is read as if nothing had come before. -/
theorem scan_boundary {rest : List Char} (h : ∀ c ∈ rest.head?, isNameChar c = false)
    (unfinished : List Char) : scan unfinished rest = ofName unfinished ++ scan [] rest := by
  cases rest with
  | nil => simp [scan, ofName]
  | cons c rest =>
    have hc : isNameChar c = false := h c rfl
    cases hs : sign? c with
    | some word => rw [scan_sign hs, scan_sign hs]; rfl
    | none =>
      have hb : isBlank c = true := by simpa [isNameChar, hs] using hc
      rw [scan_blank hb, scan_blank hb]
      rfl

/-- A whole name is one word. -/
theorem scan_name {run rest : List Char} (hne : run ≠ []) (hrun : ∀ c ∈ run, isNameChar c = true)
    (hrest : ∀ c ∈ rest.head?, isNameChar c = false) :
    scan [] (run ++ rest) = .name (String.ofList run) :: scan [] rest := by
  rw [scan_run hrun, List.append_nil, scan_boundary hrest]
  simp [ofName, hne]

/-- The scanner finds the words of a text. -/
theorem scan_of_cut {cs : List Char} {words : List Token} (h : Cut cs words) :
    scan [] cs = words := by
  induction h with
  | done => rfl
  | blank hb _ ih => rw [scan_blank hb, ih]; rfl
  | sign hs _ ih => rw [scan_sign hs, ih]; rfl
  | name hne hrun hrest _ ih => rw [scan_name hne hrun hrest, ih]

/-- A text that starts with a name character starts with a name that cannot be extended. -/
theorem exists_name {c : Char} (hc : isNameChar c = true) (cs : List Char) :
    ∃ run rest, c :: cs = run ++ rest ∧ run ≠ [] ∧ (∀ d ∈ run, isNameChar d = true) ∧
      (∀ d ∈ rest.head?, isNameChar d = false) ∧ rest.length ≤ cs.length := by
  refine ⟨c :: cs.takeWhile isNameChar, cs.dropWhile isNameChar, ?_, List.cons_ne_nil _ _, ?_, ?_,
    (List.dropWhile_sublist _).length_le⟩
  · rw [List.cons_append, List.takeWhile_append_dropWhile]
  · intro d hd
    rcases List.mem_cons.mp hd with rfl | hd
    · exact hc
    · exact List.mem_takeWhile_imp hd
  · intro d hd
    have hstop := List.head?_dropWhile_not isNameChar cs
    rw [Option.mem_def.mp hd] at hstop
    simpa using hstop

/-- What the scanner finds are the words of the text. -/
theorem cut_scan (cs : List Char) : Cut cs (scan [] cs) := by
  -- The induction is on the length, because a name is cut off as a whole.
  induction hn : cs.length using Nat.strongRecOn generalizing cs with
  | ind n ih =>
    cases cs with
    | nil => exact .done
    | cons c rest =>
      have hlt : rest.length < n := by rw [← hn]; exact Nat.lt_succ_self _
      cases hs : sign? c with
      | some word =>
        rw [scan_sign hs]
        exact .sign hs (ih _ hlt rest rfl)
      | none =>
        cases hb : isBlank c with
        | true =>
          rw [scan_blank hb]
          exact .blank hb (ih _ hlt rest rfl)
        | false =>
          obtain ⟨run, after, hsplit, hne, hrun, hstop, hle⟩ :=
            exists_name (isNameChar_of_not hs hb) rest
          rw [hsplit, scan_name hne hrun hstop]
          exact .name hne hrun hstop (ih _ (Nat.lt_of_le_of_lt hle hlt) after rfl)

/-- A text has exactly the words that the scanner finds in it. -/
theorem cut_iff_scan {cs : List Char} {words : List Token} : Cut cs words ↔ scan [] cs = words := by
  constructor
  · exact scan_of_cut
  · rintro rfl
    exact cut_scan cs

end Token
end Combination
end MessageConstraints
