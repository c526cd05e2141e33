import Mathlib.Data.List.Basic
import MutationTesting.Proofs.Ordered
import MutationTesting.Proofs.Shell.Quoting

/-! The command of a request against its template: what stands where the template asks for the
artifact, the workspace or the tests, and when it is just the value asked for. -/
namespace MutationTesting.Shell

open Text (replaceFrom weigh)

inductive Hole where
  | artifact | workspace | tests
deriving DecidableEq

namespace Hole

def name : Hole → String
  | artifact => "\x7bartifact\x7d"
  | workspace => "\x7bworkspace\x7d"
  | tests => "\x7btests\x7d"

def all : List Hole := [artifact, workspace, tests]

def text (p : Hole) : List Char := p.name.toList

def at? (cs : List Char) : Option Hole := all.find? fun p => p.text.isPrefixOf cs

variable {p q : Hole} {cs rest : List Char}

theorem mem_all (p : Hole) : p ∈ all := by cases p <;> decide

private theorem text_ne_nil (p : Hole) : p.text ≠ [] := by cases p <;> decide

private theorem quote_not_mem_text (p : Hole) : '\'' ∉ p.text := by cases p <;> decide

private theorem escape_not_mem_text (p : Hole) : '\\' ∉ p.text := by cases p <;> decide

private theorem exists_text_eq (p : Hole) : ∃ tail, p.text = '\x7b' :: tail ∧ '\x7b' ∉ tail := by
  cases p with
  | artifact => exact ⟨"artifact\x7d".toList, rfl, by decide⟩
  | workspace => exact ⟨"workspace\x7d".toList, rfl, by decide⟩
  | tests => exact ⟨"tests\x7d".toList, rfl, by decide⟩

private theorem eq_of_text_begins (h : p.text <+: q.text) : p = q := by
  revert h
  cases p <;> cases q <;> decide

private theorem eq_of_begins (hp : p.text <+: cs) (hq : q.text <+: cs) : p = q := by
  rcases List.prefix_or_prefix_of_prefix hp hq with h | h
  · exact eq_of_text_begins h
  · exact (eq_of_text_begins h).symm

private theorem prefix_of_at? (h : at? cs = some p) : p.text <+: cs := by
  have found := List.find?_some (p := fun p : Hole => p.text.isPrefixOf cs) h
  exact List.isPrefixOf_iff_prefix.mp found

private theorem at?_eq_some : at? cs = some p ↔ p.text <+: cs := by
  refine ⟨prefix_of_at?, fun h => ?_⟩
  cases found : at? cs with
  | none =>
    exact absurd (List.isPrefixOf_iff_prefix.mpr h) (List.find?_eq_none.mp found p p.mem_all)
  | some q => rw [eq_of_begins h (prefix_of_at? found)]

private theorem at?_eq_none : at? cs = none ↔ ∀ p : Hole, ¬ p.text <+: cs := by
  rw [Option.eq_none_iff_forall_ne_some]
  exact forall_congr' fun p => not_congr at?_eq_some

/-- None of them begins inside another one. -/
private theorem infix_text_append :
    p.text <:+: q.text ++ rest ↔ p = q ∨ p.text <:+: rest := by
  constructor
  · intro h
    by_cases front : p.text <+: q.text ++ rest
    · exact .inl (eq_of_begins front (List.prefix_append _ _))
    · obtain ⟨tail, hq, absent⟩ := q.exists_text_eq
      obtain ⟨tail', hp, -⟩ := p.exists_text_eq
      rw [hq, List.cons_append] at h front
      rw [List.infix_cons_iff, or_iff_right front, hp] at h
      rw [hp]
      exact .inr (Text.infix_of_infix_append absent h)
  · rintro (rfl | h)
    · exact (List.prefix_append _ _).isInfix
    · exact h.trans (List.suffix_append _ _).isInfix

private theorem replaceFrom_text_append (other : p ≠ q) (value : List Char) :
    replaceFrom p.text value 0 (q.text ++ rest) = q.text ++ replaceFrom p.text value 0 rest := by
  obtain ⟨tail, hq, absent⟩ := q.exists_text_eq
  obtain ⟨tail', hp, -⟩ := p.exists_text_eq
  have elsewhere : ¬ p.text <+: q.text ++ rest := fun here =>
    other (eq_of_begins here (List.prefix_append _ _))
  rw [hq, List.cons_append] at elsewhere ⊢
  rw [Text.replaceFrom_cons elsewhere, hp, Text.replaceFrom_append_of_not_mem absent,
    List.cons_append]

end Hole

inductive TemplatePart where
  | plain (c : Char)
  | hole (p : Hole)
deriving DecidableEq

/-- A template in parts, read once from left to right. The first argument counts the characters of a
placeholder that are still to be passed over. -/
def templateParts : Nat → List Char → List TemplatePart
  | _, [] => []
  | skip + 1, _ :: cs => templateParts skip cs
  | 0, c :: cs =>
    match Hole.at? (c :: cs) with
    | some p => .hole p :: templateParts (p.text.length - 1) cs
    | none => .plain c :: templateParts 0 cs

def TemplatePart.fill (value : Hole → List Char) : TemplatePart → List Char
  | plain c => [c]
  | hole p => value p

/-- A template with all its places filled at once. What is put into a place is not searched. -/
def fill (value : Hole → List Char) (template : String) : String :=
  String.ofList ((templateParts 0 template.toList).flatMap (TemplatePart.fill value))

section Parts

variable {p : Hole} {cs rest : List Char}

private theorem templateParts_skip (xs : List Char) :
    templateParts xs.length (xs ++ rest) = templateParts 0 rest := by
  induction xs with
  | nil => rfl
  | cons c xs ih => exact ih

private theorem templateParts_hole :
    templateParts 0 (p.text ++ rest) = .hole p :: templateParts 0 rest := by
  have found := Hole.at?_eq_some.mpr (List.prefix_append p.text rest)
  cases hp : p.text with
  | nil => exact absurd hp p.text_ne_nil
  | cons c tail =>
    rw [hp, List.cons_append] at found
    rw [List.cons_append, templateParts, found]
    dsimp only
    rw [hp, List.length_cons, Nat.add_sub_cancel, templateParts_skip]

private theorem templateParts_plain {c : Char} (h : ∀ p : Hole, ¬ p.text <+: c :: cs) :
    templateParts 0 (c :: cs) = .plain c :: templateParts 0 cs := by
  rw [templateParts, Hole.at?_eq_none.mpr h]

@[elab_as_elim]
theorem template_induction {motive : List Char → Prop} (nil : motive [])
    (hole : ∀ (p : Hole) rest, motive rest → motive (p.text ++ rest))
    (plain : ∀ c rest, (∀ p : Hole, ¬ p.text <+: c :: rest) → motive rest → motive (c :: rest)) :
    (cs : List Char) → motive cs
  | [] => nil
  | c :: cs => by
    cases here : Hole.at? (c :: cs) with
    | none => exact plain c cs (Hole.at?_eq_none.mp here) (template_induction nil hole plain cs)
    | some p =>
      obtain ⟨rest, same⟩ := Hole.at?_eq_some.mp here
      have shorter : rest.length < (c :: cs).length := by
        have positive := List.length_pos_iff.mpr p.text_ne_nil
        rw [← same, List.length_append]
        omega
      rw [← same]
      exact hole p rest (template_induction nil hole plain rest)
termination_by cs => cs.length
decreasing_by
  · exact Nat.lt_succ_self cs.length
  · exact shorter

/-- A template has a place for a value wherever the placeholder stands. -/
private theorem hole_mem_templateParts : .hole p ∈ templateParts 0 cs ↔ p.text <:+: cs := by
  induction cs using template_induction with
  | nil => exact ⟨nofun, fun h => absurd (List.infix_nil.mp h) p.text_ne_nil⟩
  | hole q rest ih =>
    rw [templateParts_hole, List.mem_cons, ih, Hole.infix_text_append, TemplatePart.hole.injEq]
  | plain c rest none_ ih =>
    rw [templateParts_plain none_, List.mem_cons, ih, List.infix_cons_iff,
      or_iff_right (none_ p), or_iff_right nofun]

end Parts

/-- The value that a request has for each place: quoted paths, and the tests as quoted words. -/
def given (r : TestRequest) : Hole → List Char
  | .artifact => quoteChars r.artifact.toList
  | .workspace => quoteChars r.workspace.toList
  | .tests => r.selection.words.toList

/-- A value in which a placeholder is in turn replaced by its value. -/
def refill (r : TestRequest) (p : Hole) (cs : List Char) : List Char :=
  replaceFrom p.text (given r p) 0 cs

def refilled (r : TestRequest) : Hole → List Char
  | .artifact => refill r .tests (refill r .workspace (given r .artifact))
  | .workspace => refill r .tests (given r .workspace)
  | .tests => given r .tests

/-- No path that is put into the template holds a placeholder that is replaced after it. -/
structure Apart (template : String) (r : TestRequest) : Prop where
  artifact : Text.contains template Hole.artifact.name = true →
    Text.contains r.artifact Hole.workspace.name = false ∧
      Text.contains r.artifact Hole.tests.name = false
  workspace : Text.contains template Hole.workspace.name = true →
    Text.contains r.workspace Hole.tests.name = false

section Refilling

variable {r : TestRequest} {p q : Hole} {c : Char} {cs rest : List Char}

private theorem refill_hole : refill r p (p.text ++ rest) = given r p ++ refill r p rest :=
  Text.replaceFrom_self p.text_ne_nil

private theorem refill_other (other : p ≠ q) :
    refill r p (q.text ++ rest) = q.text ++ refill r p rest :=
  Hole.replaceFrom_text_append other _

private theorem refill_plain (none_ : ¬ p.text <+: c :: cs) : refill r p (c :: cs) = c ::
    refill r p cs :=
  Text.replaceFrom_cons none_

/-- A quotation ends here, so that no placeholder begins before this place and ends behind it. -/
def EndsQuoted (cs : List Char) : Prop := ∃ body, cs = body ++ ['\'']

private theorem endsQuoted_quoteChars (v : List Char) : EndsQuoted (quoteChars v) := ⟨_, rfl⟩

private theorem EndsQuoted.refill_append (h : EndsQuoted cs) :
    refill r p (cs ++ rest) = refill r p cs ++ refill r p rest := by
  obtain ⟨body, rfl⟩ := h
  have split (more : List Char) : refill r p (body ++ '\'' :: more) =
      refill r p body ++ '\'' :: refill r p more :=
    Text.replaceFrom_append_cons p.text_ne_nil p.quote_not_mem_text
  rw [List.append_assoc, List.singleton_append, split, split []]
  simp [refill, replaceFrom]

private theorem EndsQuoted.refill (h : EndsQuoted cs) : EndsQuoted (refill r p cs) := by
  obtain ⟨body, rfl⟩ := h
  exact ⟨Shell.refill r p body,
    Text.replaceFrom_append_cons p.text_ne_nil p.quote_not_mem_text⟩

/-- A quoted value makes no new placeholder together with the text before it. -/
private theorem not_prefix_refill {v : List Char} (quoted : given r p = quoteChars v)
    (none_ : ¬ q.text <+: c :: cs) : ¬ q.text <+: c :: refill r p cs := by
  obtain ⟨tail, hq, -⟩ := q.exists_text_eq
  have absent : '\'' ∉ tail := fun m => q.quote_not_mem_text (hq ▸ List.mem_cons_of_mem _ m)
  intro h
  rw [hq] at h none_
  obtain ⟨rfl, later⟩ := List.cons_prefix_cons.mp h
  rw [Shell.refill, quoted, quoteChars, List.cons_append] at later
  exact none_ (List.cons_prefix_cons.mpr
    ⟨rfl, Text.prefix_of_prefix_replaceFrom absent later⟩)

private theorem refill_template (r : TestRequest) (cs : List Char) :
    refill r .tests (refill r .workspace (refill r .artifact cs)) =
      (templateParts 0 cs).flatMap (TemplatePart.fill (refilled r)) := by
  induction cs using template_induction with
  | nil => rfl
  | hole p rest ih =>
    rw [templateParts_hole, List.flatMap_cons, ← ih, TemplatePart.fill]
    cases p with
    | artifact =>
      have quoted : EndsQuoted (given r .artifact) := endsQuoted_quoteChars _
      rw [refill_hole, quoted.refill_append, quoted.refill.refill_append, refilled]
    | workspace =>
      have quoted : EndsQuoted (given r .workspace) := endsQuoted_quoteChars _
      have passed : Hole.artifact ≠ .workspace := nofun
      rw [refill_other passed, refill_hole, quoted.refill_append, refilled]
    | tests =>
      have first : Hole.artifact ≠ .tests := nofun
      have second : Hole.workspace ≠ .tests := nofun
      rw [refill_other first, refill_other second, refill_hole, refilled]
  | plain c rest none_ ih =>
    have later : ∀ p : Hole, ¬ p.text <+: c :: refill r .artifact rest :=
      fun p => not_prefix_refill rfl (none_ p)
    rw [templateParts_plain none_, List.flatMap_cons, ← ih, refill_plain (none_ _),
      refill_plain (later _), refill_plain (not_prefix_refill rfl (later _))]
    rfl

/-- The command is the template with its places filled at once by the values as they end up: a path
is searched again for the placeholders that are replaced after its own. -/
private theorem render_eq_fill (template : String) (r : TestRequest) :
    render template r = fill (refilled r) template := by
  have replaced (s : String) (p : Hole) (v : String) :
      Text.replaceAll s p.name v = String.ofList (replaceFrom p.text v.toList 0 s.toList) := by
    have some_ : p.name.isEmpty = false := by cases p <;> decide
    rw [Text.replaceAll, some_, if_neg Bool.false_ne_true]
    rfl
  rw [fill, ← refill_template]
  change Text.replaceAll (Text.replaceAll (Text.replaceAll template Hole.artifact.name _)
    Hole.workspace.name _) Hole.tests.name _ = _
  rw [replaced, replaced, replaced, String.toList_ofList, String.toList_ofList, quote, quote,
    String.toList_ofList, String.toList_ofList]
  rfl

end Refilling

private theorem Hole.infix_quoteChars {p : Hole} {v : List Char} :
    p.text <:+: quoteChars v ↔ p.text <:+: v := by
  rw [quoteChars, List.cons_append, List.infix_cons_iff,
    infix_quotation_iff p.quote_not_mem_text p.escape_not_mem_text p.text_ne_nil]
  refine or_iff_right fun here => ?_
  obtain ⟨tail, hp, -⟩ := p.exists_text_eq
  rw [hp] at here
  exact absurd (List.cons_prefix_cons.mp here).1 (by decide)

private theorem Hole.contains_eq_false {p : Hole} {s : String} :
    Text.contains s p.name = false ↔ ¬ p.text <:+: quoteChars s.toList := by
  rw [Hole.infix_quoteChars, Hole.text, ← Text.contains_iff, Bool.not_eq_true]

section Weight

variable {height : Nat} {cs : List Char}

/-- Braces pull a text down and quotes pull it up. -/
def pull (height : Nat) (c : Char) : Int :=
  if c = '\'' then height else if c = '\x7b' then -1 else 0

private theorem weigh_text (p : Hole) : weigh (pull height) p.text = -1 := by
  obtain ⟨tail, hp, unbraced⟩ := p.exists_text_eq
  have unquoted : '\'' ∉ tail := fun m => p.quote_not_mem_text (hp ▸ List.mem_cons_of_mem _ m)
  have rest : weigh (pull height) tail = 0 := by
    refine Text.weigh_eq_zero fun c mc => ?_
    have single : c ≠ '\'' := ne_of_mem_of_not_mem mc unquoted
    have brace : c ≠ '\x7b' := ne_of_mem_of_not_mem mc unbraced
    rw [pull, if_neg single, if_neg brace]
  rw [hp, Text.weigh_cons, rest]
  rfl

private theorem le_weigh (cs : List Char) : -(cs.count '\x7b' : Int) ≤ weigh (pull height) cs := by
  induction cs with
  | nil => exact Int.le_refl _
  | cons c cs ih =>
    rw [Text.weigh_cons, List.count_cons, pull]
    by_cases single : c = '\''
    · subst single
      simp
      omega
    · by_cases brace : c = '\x7b'
      · subst brace
        simp
        omega
      · simpa [single, brace] using ih

private theorem weigh_pos (quoted : '\'' ∈ cs) (high : cs.count '\x7b' < height) :
    0 < weigh (pull height) cs := by
  obtain ⟨before, after, rfl⟩ := List.append_of_mem quoted
  have left := @le_weigh height before
  have right := @le_weigh height after
  rw [List.count_append, List.count_cons_of_ne (by decide)] at high
  rw [Text.weigh_append, Text.weigh_cons, pull, if_pos rfl]
  omega

private theorem quote_mem_quoteChars (v : List Char) : '\'' ∈ quoteChars v := List.mem_cons_self

private theorem words_eq_nil_or_quote_mem (s : TestSelection) :
    s.words.toList = [] ∨ '\'' ∈ s.words.toList := by
  cases s with
  | all => exact .inl rfl
  | only tests =>
    cases tests with
    | nil => exact .inl rfl
    | cons t ts =>
      right
      rw [TestSelection.words, String.toList_intercalate, List.map_cons, List.map_cons, quote,
        String.toList_ofList]
      cases ts <;> simp [quoteChars, List.intercalate]

/-- So high that quotes win over all the braces of the values that are filled in late. -/
def reach (r : TestRequest) : Nat :=
  (given r .workspace).count '\x7b' + (given r .tests).count '\x7b' + 1

variable {r : TestRequest} {p : Hole}

private theorem weigh_lt_given (late : p ≠ .artifact) :
    weigh (pull (reach r)) p.text < weigh (pull (reach r)) (given r p) := by
  rw [weigh_text]
  cases p with
  | artifact => exact absurd rfl late
  | workspace =>
    have positive : 0 < weigh (pull (reach r)) (given r .workspace) :=
      weigh_pos (quote_mem_quoteChars _) (by rw [reach]; omega)
    omega
  | tests =>
    rcases words_eq_nil_or_quote_mem r.selection with none_ | quoted
    · rw [given, none_, Text.weigh_nil]
      omega
    · have positive : 0 < weigh (pull (reach r)) (given r .tests) :=
        weigh_pos quoted (by rw [reach]; omega)
      omega

private theorem weigh_le_refill (late : p ≠ .artifact) (cs : List Char) :
    weigh (pull (reach r)) cs ≤ weigh (pull (reach r)) (refill r p cs) :=
  Text.weigh_le_replaceFrom p.text_ne_nil (weigh_lt_given late) cs

private theorem not_infix_of_refill (late : p ≠ .artifact)
    (kept : weigh (pull (reach r)) (refill r p cs) ≤ weigh (pull (reach r)) cs) :
    ¬ p.text <:+: cs :=
  Text.not_infix_of_weigh_eq p.text_ne_nil (weigh_lt_given late)
    (Int.le_antisymm kept (weigh_le_refill late cs))

private theorem workspace_late : Hole.workspace ≠ .artifact := nofun

private theorem tests_late : Hole.tests ≠ .artifact := nofun

private theorem weigh_given_le (r : TestRequest) (p : Hole) :
    weigh (pull (reach r)) (given r p) ≤ weigh (pull (reach r)) (refilled r p) := by
  cases p with
  | artifact => exact Int.le_trans (weigh_le_refill workspace_late _) (weigh_le_refill tests_late _)
  | workspace => exact weigh_le_refill tests_late _
  | tests => exact Int.le_refl _

/-- If values that are nowhere heavier make as heavy a text, they are as heavy where they are
used. -/
private theorem weigh_le_of_fill {weight : Char → Int} {v w : Hole → List Char}
    (le : ∀ p, weigh weight (v p) ≤ weigh weight (w p)) {parts : List TemplatePart}
    (same : weigh weight (parts.flatMap (TemplatePart.fill w)) ≤
      weigh weight (parts.flatMap (TemplatePart.fill v))) :
    ∀ p, .hole p ∈ parts → weigh weight (w p) ≤ weigh weight (v p) := by
  have part (x : TemplatePart) : weigh weight (x.fill v) ≤ weigh weight (x.fill w) := by
    cases x with
    | plain c => exact Int.le_refl _
    | hole p => exact le p
  have total (parts : List TemplatePart) : weigh weight (parts.flatMap (TemplatePart.fill v)) ≤
      weigh weight (parts.flatMap (TemplatePart.fill w)) := by
    induction parts with
    | nil => exact Int.le_refl _
    | cons x parts ih =>
      have first := part x
      rw [List.flatMap_cons, List.flatMap_cons, Text.weigh_append, Text.weigh_append]
      omega
  intro p used
  induction parts with
  | nil => cases used
  | cons x parts ih =>
    have first := part x
    have rest := total parts
    rw [List.flatMap_cons, List.flatMap_cons, Text.weigh_append, Text.weigh_append] at same
    rcases List.mem_cons.mp used with rfl | later
    · simp only [TemplatePart.fill] at same first ⊢
      omega
    · exact ih (by omega) later

end Weight

variable {template : String} {r : TestRequest}

private theorem refilled_eq_given (apart : Apart template r) {p : Hole}
    (used : Text.contains template p.name = true) : refilled r p = given r p := by
  cases p with
  | artifact =>
    obtain ⟨noWorkspace, noTests⟩ := apart.artifact used
    have first : refill r .workspace (given r .artifact) = given r .artifact :=
      Text.replaceFrom_eq_self (Hole.contains_eq_false.mp noWorkspace)
    rw [refilled, first]
    exact Text.replaceFrom_eq_self (Hole.contains_eq_false.mp noTests)
  | workspace => exact Text.replaceFrom_eq_self (Hole.contains_eq_false.mp (apart.workspace used))
  | tests => rfl

/-- Values that end up as they were given hold no placeholder that is replaced after them. -/
private theorem apart_of_fill_eq (h : fill (refilled r) template = fill (given r) template) :
    Apart template r := by
  have same : (templateParts 0 template.toList).flatMap (TemplatePart.fill (refilled r)) =
      (templateParts 0 template.toList).flatMap (TemplatePart.fill (given r)) :=
    String.ofList_injective h
  have kept {p : Hole} (used : Text.contains template p.name = true) :
      weigh (pull (reach r)) (refilled r p) ≤ weigh (pull (reach r)) (given r p) :=
    weigh_le_of_fill (weigh_given_le r) (Int.le_of_eq (congrArg _ same)) p
      (hole_mem_templateParts.mpr (Text.contains_iff.mp used))
  constructor
  · intro used
    have whole :
        weigh (pull (reach r)) (refill r .tests (refill r .workspace (given r .artifact))) ≤
          weigh (pull (reach r)) (given r .artifact) := kept used
    have noWorkspace : ¬ Hole.workspace.text <:+: given r .artifact :=
      not_infix_of_refill workspace_late (Int.le_trans (weigh_le_refill tests_late _) whole)
    have unchanged : refill r .workspace (given r .artifact) = given r .artifact :=
      Text.replaceFrom_eq_self noWorkspace
    rw [unchanged] at whole
    exact ⟨Hole.contains_eq_false.mpr noWorkspace,
      Hole.contains_eq_false.mpr (not_infix_of_refill tests_late whole)⟩
  · intro used
    exact Hole.contains_eq_false.mpr (not_infix_of_refill tests_late (kept used))

/-- The command is the template with each place filled by the quoted path or the quoted tests that
it asks for, each a word of its own, exactly if no path that is filled in holds a placeholder that
is replaced after it. In any case it is the template filled with values that were searched for
those. -/
theorem render_eq_fill_given_iff (template : String) (r : TestRequest) :
    (render template r = fill (given r) template ↔ Apart template r) ∧
      render template r = fill (refilled r) template ∧
      words? (String.ofList (given r .artifact)) = some [r.artifact] ∧
      words? (String.ofList (given r .workspace)) = some [r.workspace] := by
  refine ⟨⟨fun h => ?_, fun apart => ?_⟩, render_eq_fill template r, words?_quote _, words?_quote _⟩
  · rw [render_eq_fill] at h
    exact apart_of_fill_eq h
  · rw [render_eq_fill, fill, fill]
    congr 1
    refine List.flatMap_congr fun x used => ?_
    cases x with
    | plain c => rfl
    | hole p =>
      exact refilled_eq_given apart (Text.contains_iff.mpr (hole_mem_templateParts.mp used))

namespace Sample

/-- A file whose name reads like a placeholder, and a test with a blank in its name. -/
def braced : TestRequest where
  selection := .only ["Calc::adds two"]
  artifact := "/w/\x7btests\x7d.php"
  workspace := "/w"
  timeoutMs := 5000

end Sample

/-- A path with a placeholder in it does not stay one word: the quotes of what is filled in end its
own quotation. -/
theorem render_splits_braced_path :
    words? (fill (given Sample.braced) "phpunit \x7bartifact\x7d") =
        some ["phpunit", "/w/\x7btests\x7d.php"] ∧
      words? (render "phpunit \x7bartifact\x7d" Sample.braced) =
        some ["phpunit", "/w/Calc::adds", "two.php"] := by
  decide +kernel

/-- Where a template asks for tests, it gets words that read as just these tests, in order and each
once, whatever characters they are made of; and any single text that is quoted reads as itself. -/
theorem words?_tests (r : TestRequest) (ids : List TestId) (v : String) :
    words? (render Hole.tests.name { r with selection := .only (Ordered.ofList ids) }) =
        some (Ordered.ofList ids) ∧
      (Ordered.ofList ids).Pairwise (· < ·) ∧ (∀ t, t ∈ Ordered.ofList ids ↔ t ∈ ids) ∧
      words? (quote v) = some [v] := by
  refine ⟨?_, Ordered.pairwise_ofList ids, fun t => Ordered.mem_ofList, words?_quote v⟩
  have alone : templateParts 0 Hole.tests.name.toList = [.hole .tests] := by decide
  have text : render Hole.tests.name { r with selection := .only (Ordered.ofList ids) } =
      " ".intercalate ((Ordered.ofList ids).map quote) := by
    rw [render_eq_fill, fill, alone, List.flatMap_singleton]
    exact String.ofList_toList
  rw [text, words?_intercalate]

end MutationTesting.Shell
