import Mathlib.Algebra.Group.Nat.Even
import Mathlib.Data.List.DropRight
import MutationTesting.Tree.Printer

/-! String literals read back. A scanner of double-quoted literals gets the value of a literal and
the text behind it, whatever text that is, and no dollar sign in the literal starts a variable. -/
namespace MutationTesting.Literal

/-- What a backslash and the character behind it stand for. A backslash that has nothing to escape
stands for itself. -/
def escapeValue (c : Char) : List Char :=
  if c = 'n' then ['\n']
  else if c = '"' ∨ c = '\\' ∨ c = '$' then [c]
  else ['\\', c]

/-- Reads a literal behind the quote that opens it: the value, and the text behind the quote that
closes it. In between a backslash may be waiting for the character that it escapes. -/
def scanInside? : (escaping : Bool) → List Char → Option (List Char × List Char)
  | _, [] => none
  | true, c :: rest => (scanInside? false rest).map (Prod.map (escapeValue c ++ ·) id)
  | false, c :: rest =>
    if c = '\\' then scanInside? true rest
    else if c = '"' then some ([], rest)
    else (scanInside? false rest).map (Prod.map (c :: ·) id)

/-- Reads the literal that a text begins with: its value, and what comes after it. -/
def scan? (text : String) : Option (String × String) :=
  match text.toList with
  | '"' :: rest => (scanInside? false rest).map (Prod.map String.ofList String.ofList)
  | _ => none

/-- A text has the character somewhere with no backslash to escape it: those right in front of it,
an even number of them, escape one another. -/
def Unescaped (c : Char) (text : List Char) : Prop :=
  ∃ before after, text = before ++ c :: after ∧ Even (before.rtakeWhile (· = '\\')).length

section Scanning

variable {c : Char} {cs rest : List Char}

private theorem scanInside?_escape (c : Char) (rest : List Char) :
    scanInside? false ('\\' :: c :: rest) =
      (scanInside? false rest).map (Prod.map (escapeValue c ++ ·) id) := by
  rw [scanInside?, if_pos rfl, scanInside?]

private theorem scanInside?_plain (quote : c ≠ '"') (backslash : c ≠ '\\') (rest : List Char) :
    scanInside? false (c :: rest) = (scanInside? false rest).map (Prod.map (c :: ·) id) := by
  rw [scanInside?, if_neg backslash, if_neg quote]

private theorem scanInside?_literalChar (c : Char) (rest : List Char) :
    scanInside? false (literalChar c ++ rest) =
      (scanInside? false rest).map (Prod.map (c :: ·) id) := by
  unfold literalChar
  split_ifs with quote backslash dollar newline
  · subst quote
    exact scanInside?_escape '"' rest
  · subst backslash
    exact scanInside?_escape '\\' rest
  · subst dollar
    exact scanInside?_escape '$' rest
  · subst newline
    exact scanInside?_escape 'n' rest
  · exact scanInside?_plain quote backslash rest

/-- The closing quote is the first one that no backslash escapes. -/
private theorem scanInside?_literal (cs rest : List Char) :
    scanInside? false (cs.flatMap literalChar ++ '"' :: rest) = some (cs, rest) := by
  induction cs with
  | nil => simp [scanInside?]
  | cons c cs ih =>
    rw [List.flatMap_cons, List.append_assoc, scanInside?_literalChar, ih]
    rfl

private theorem scan?_stringLiteral (value following : String) :
    scan? (stringLiteral value ++ following) = some (value, following) := by
  have text : (stringLiteral value ++ following).toList =
      '"' :: (value.toList.flatMap literalChar ++ '"' :: following.toList) := by
    simp [stringLiteral]
  rw [scan?, text]
  simp only [scanInside?_literal, Option.map_some, Prod.map_apply, String.ofList_toList]

end Scanning

section Escaping

variable {escaping : Bool} {c : Char} {cs rest : List Char}

/-- Whether a text ends in a backslash that escapes what comes next, if `escaping` says so of what
stands in front of the text. -/
def endsEscaping (escaping : Bool) (cs : List Char) : Bool :=
  cs.foldl (fun e c => c = '\\' && !e) escaping

private theorem endsEscaping_concat (escaping : Bool) (cs : List Char) (c : Char) :
    endsEscaping escaping (cs ++ [c]) = (c = '\\' && !endsEscaping escaping cs) := by
  rw [endsEscaping, List.foldl_concat, ← endsEscaping]

/-- Backslashes at the end escape one another in pairs. -/
private theorem endsEscaping_eq_false_iff :
    endsEscaping false cs = false ↔ Even (cs.rtakeWhile (· = '\\')).length := by
  induction cs using List.reverseRecOn with
  | nil => simp [endsEscaping]
  | append_singleton cs c ih =>
    rw [List.rtakeWhile_concat, endsEscaping_concat]
    by_cases backslash : c = '\\'
    · simp [backslash, Nat.even_add_one, ← ih]
    · simp [backslash]

def Guarded (escaping : Bool) (cs : List Char) : Prop :=
  ∀ before after, cs = before ++ '$' :: after → endsEscaping escaping before = true

private theorem guarded_nil : Guarded escaping [] := by
  intro before after same
  simp at same

private theorem guarded_cons : Guarded escaping (c :: cs) ↔
    (c = '$' → escaping = true) ∧ Guarded (c = '\\' && !escaping) cs := by
  constructor
  · intro guarded
    refine ⟨?_, fun before after same => ?_⟩
    · rintro rfl
      exact guarded [] cs rfl
    · exact guarded (c :: before) after (by rw [same, List.cons_append])
  · rintro ⟨first, later⟩ before after same
    cases before with
    | nil =>
      obtain ⟨rfl, -⟩ := List.cons.inj same
      exact first rfl
    | cons d before =>
      obtain ⟨rfl, tail⟩ := List.cons.inj same
      exact later before after tail

private theorem guarded_escape : Guarded false ('\\' :: c :: rest) ↔ Guarded false rest := by
  simp [guarded_cons]

private theorem guarded_literalChar :
    Guarded false (literalChar c ++ rest) ↔ Guarded false rest := by
  unfold literalChar
  split_ifs with quote backslash dollar newline
  · exact guarded_escape
  · exact guarded_escape
  · exact guarded_escape
  · exact guarded_escape
  · simp [guarded_cons, backslash, dollar]

private theorem guarded_literal (cs : List Char) :
    Guarded false (cs.flatMap literalChar ++ rest) ↔ Guarded false rest := by
  induction cs with
  | nil => rfl
  | cons c cs ih => rw [List.flatMap_cons, List.append_assoc, guarded_literalChar, ih]

private theorem not_unescaped_stringLiteral (value : String) :
    ¬ Unescaped '$' (stringLiteral value).toList := by
  rintro ⟨before, after, same, even⟩
  have guarded : Guarded false (stringLiteral value).toList := by
    rw [stringLiteral, String.toList_ofList, List.cons_append, guarded_cons]
    simp [guarded_literal, guarded_cons, guarded_nil]
  have escaped := guarded before after same
  rw [endsEscaping_eq_false_iff.mpr even] at escaped
  cases escaped

end Escaping

/-- A string prints as a literal that delimits itself and has no variables in it: a scanner gets the
string back and stops right behind the literal, whatever text follows, and every dollar sign is
escaped. -/
theorem printed_string_scans_back (style : PrintStyle) (source : Option String) (depth : Nat)
    (value : String) (span : Option Span) (attributes : Attributes) :
    ∃ literal, style.render source depth ⟨.str value, [], span, attributes⟩ = .ok literal ∧
      (∀ following, scan? (literal ++ following) = some (value, following)) ∧
      ¬ Unescaped '$' literal.toList :=
  ⟨stringLiteral value, rfl, scan?_stringLiteral value, not_unescaped_stringLiteral value⟩

end MutationTesting.Literal
