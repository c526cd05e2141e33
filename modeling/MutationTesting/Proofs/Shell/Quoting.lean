import MutationTesting.Proofs.Text.Replace
import MutationTesting.Shell.Template

/-! Quoted texts read back as the words they were made from, and hold what these held. -/
namespace MutationTesting.Shell

variable {seen cs rest : List Char}

/-- A character of a quoted text is read as itself, whatever stands behind it. -/
private theorem wordsFrom?_quotedChar (c d : Char) :
    wordsFrom? true (some seen) (quotedChar c ++ d :: rest) =
      wordsFrom? true (some (c :: seen)) (d :: rest) := by
  by_cases single : c = '\''
  · subst single
    simp [quotedChar, wordsFrom?]
  · rw [quotedChar, if_neg single, List.singleton_append]
    by_cases escape : c = '\\'
    · subst escape
      simp [wordsFrom?]
    · rw [wordsFrom?]
      · simp
      · exact single
      · exact fun _ _ same _ => escape same

private theorem wordsFrom?_flatMap_quotedChar :
    wordsFrom? true (some seen) (cs.flatMap quotedChar ++ '\'' :: rest) =
      wordsFrom? false (some (cs.reverse ++ seen)) rest := by
  induction cs generalizing seen with
  | nil => simp [wordsFrom?]
  | cons c cs ih =>
    obtain ⟨d, more, next⟩ : ∃ d more, cs.flatMap quotedChar ++ '\'' :: rest = d :: more := by
      cases cs.flatMap quotedChar with
      | nil => exact ⟨_, _, rfl⟩
      | cons d ds => exact ⟨_, _, rfl⟩
    rw [List.flatMap_cons, List.append_assoc, next, wordsFrom?_quotedChar, ← next, ih]
    simp

/-- A quoted text opens a word of its characters, and the quotation is over behind it. -/
private theorem wordsFrom?_quoteChars :
    wordsFrom? false none (quoteChars cs ++ rest) = wordsFrom? false (some cs.reverse) rest := by
  rw [quoteChars, List.append_assoc, List.cons_append, wordsFrom?, Bool.not_false, Option.getD_none,
    List.singleton_append, wordsFrom?_flatMap_quotedChar, List.append_nil]

private theorem closeWord_reverse (v : String) : closeWord (some v.toList.reverse) = (v :: ·) := by
  funext later
  rw [closeWord, List.reverse_reverse, String.ofList_toList]

theorem words?_quote (v : String) : words? (quote v) = some [v] := by
  have read : wordsFrom? false none (quoteChars v.toList ++ []) = _ := wordsFrom?_quoteChars
  rw [List.append_nil] at read
  rw [words?, quote, String.toList_ofList, read, wordsFrom?, if_neg Bool.false_ne_true,
    closeWord_reverse]

/-- Quoted texts with blanks between them read as these texts, in their order. -/
theorem words?_intercalate (vs : List String) :
    words? (" ".intercalate (vs.map quote)) = some vs := by
  induction vs with
  | nil => rfl
  | cons v vs ih =>
    cases vs with
    | nil => exact words?_quote v
    | cons w vs =>
      have front : (" ".intercalate ((v :: w :: vs).map quote)).toList =
          quoteChars v.toList ++ ' ' :: (" ".intercalate ((w :: vs).map quote)).toList := by
        rw [List.map_cons, List.map_cons, String.intercalate_cons_cons, quote]
        simp
      have blank (more : List Char) : wordsFrom? false (some v.toList.reverse) (' ' :: more) =
          (wordsFrom? false none more).map (v :: ·) := by
        rw [← closeWord_reverse]
        simp [wordsFrom?, isBlank]
      rw [words?, front, wordsFrom?_quoteChars, blank, ← words?, ih]
      rfl

section Quotation

variable {needle cs : List Char} (unquoted : '\'' ∉ needle) (unescaped : '\\' ∉ needle)

include unquoted

private theorem prefix_quotation_iff :
    needle <+: cs.flatMap quotedChar ++ ['\''] ↔ needle <+: cs := by
  induction cs generalizing needle with
  | nil =>
    have none_ : needle <+: [] ++ ['\''] ↔ needle <+: [] := Text.prefix_append_cons_iff unquoted
    exact none_
  | cons c cs ih =>
    cases needle with
    | nil => simp
    | cons d needle =>
      rw [List.mem_cons, not_or] at unquoted
      by_cases single : c = '\''
      · have differs : d ≠ '\'' := fun h => unquoted.1 h.symm
        subst single
        simp [quotedChar, List.cons_prefix_cons, differs]
      · rw [List.flatMap_cons, quotedChar, if_neg single, List.append_assoc, List.singleton_append,
          List.cons_prefix_cons, List.cons_prefix_cons, ih unquoted.2]

include unescaped

/-- Quoting makes no place for a text without quotes and backslashes, and takes none away. -/
theorem infix_quotation_iff (some_ : needle ≠ []) :
    needle <:+: cs.flatMap quotedChar ++ ['\''] ↔ needle <:+: cs := by
  have foreign {c : Char} {more : List Char} (h : c ∉ needle) : ¬ needle <+: c :: more := by
    intro here
    cases needle with
    | nil => exact some_ rfl
    | cons d needle => exact h (List.mem_cons.mpr (.inl (List.cons_prefix_cons.mp here).1.symm))
  induction cs with
  | nil =>
    rw [List.flatMap_nil, List.nil_append, List.infix_cons_iff, or_iff_right (foreign unquoted)]
  | cons c cs ih =>
    refine Iff.trans ?_ ((or_congr_right ih).trans List.infix_cons_iff.symm)
    by_cases single : c = '\''
    · subst single
      rw [or_iff_right (foreign unquoted), List.flatMap_cons, quotedChar, if_pos rfl]
      simp only [List.cons_append, List.nil_append, List.infix_cons_iff, foreign unquoted,
        foreign unescaped, false_or]
    · have front : _ ↔ needle <+: c :: cs := prefix_quotation_iff unquoted
      rw [← front, List.flatMap_cons, quotedChar, if_neg single, List.append_assoc,
        List.singleton_append, List.infix_cons_iff]

end Quotation

end MutationTesting.Shell
