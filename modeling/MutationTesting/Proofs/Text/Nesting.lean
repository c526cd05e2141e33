import MutationTesting.Proofs.Text.Search

/-! Program text cut at the blanks that stand outside all brackets and string literals. -/
namespace MutationTesting.Text

/-- Where a reader of a program text is: between string literals, in one, or behind a backslash of
one, each inside some number of open brackets. -/
inductive Nesting where
  | plain (depth : Nat)
  | quoted (depth : Nat)
  | escaped (depth : Nat)
deriving DecidableEq

namespace Nesting

def next : Nesting → Char → Nesting
  | escaped d, _ => quoted d
  | quoted d, c => if c = '\\' then escaped d else if c = '"' then plain d else quoted d
  | plain d, c =>
    if c = '"' then quoted d
    else if c = '(' ∨ c = '[' then plain (d + 1)
    else if c = ')' ∨ c = ']' then plain (d - 1)
    else plain d

def after (n : Nesting) (cs : List Char) : Nesting := cs.foldl next n

/-- The pieces between the blanks outside everything. -/
def words (n : Nesting) : List Char → List (List Char)
  | [] => [[]]
  | c :: cs =>
    if n = plain 0 ∧ c = ' ' then [] :: words n cs
    else (words (n.next c) cs).modifyHead (c :: ·)

/-- Pieces of two texts that stand side by side: the last and the first are one. -/
def glue : List (List Char) → List (List Char) → List (List Char)
  | [], vs => vs
  | [w], vs => vs.modifyHead (w ++ ·)
  | w :: ws, vs => w :: glue ws vs

variable {n : Nesting} {c : Char} {xs ys : List Char} {ws vs : List (List Char)} {d : Nat}

@[simp] theorem after_nil : n.after [] = n := rfl

@[simp] theorem after_cons : n.after (c :: xs) = (n.next c).after xs := rfl

@[simp] theorem after_append : n.after (xs ++ ys) = (n.after xs).after ys := List.foldl_append

private theorem words_ne_nil : n.words xs ≠ [] := by
  induction xs generalizing n with
  | nil => exact List.cons_ne_nil _ _
  | cons c xs ih =>
    rw [words]
    split
    · exact List.cons_ne_nil _ _
    · exact fun h => ih (List.modifyHead_eq_nil_iff.mp h)

private theorem glue_modifyHead (some_ : ws ≠ []) :
    glue (ws.modifyHead (c :: ·)) vs = (glue ws vs).modifyHead (c :: ·) := by
  cases ws with
  | nil => exact absurd rfl some_
  | cons w ws =>
    cases ws with
    | nil => cases vs <;> rfl
    | cons w' ws => rfl

theorem words_append : n.words (xs ++ ys) = glue (n.words xs) ((n.after xs).words ys) := by
  induction xs generalizing n with
  | nil =>
    cases h : n.words ys with
    | nil => exact absurd h words_ne_nil
    | cons v vs => simp [words, glue, h]
  | cons c xs ih =>
    rw [List.cons_append, words, words]
    split
    · next blank =>
      have same : n.next c = n := by
        rw [blank.1, blank.2]
        rfl
      rw [ih, after_cons, same]
      cases h : n.words xs with
      | nil => exact absurd h words_ne_nil
      | cons w ws => rfl
    · rw [ih, glue_modifyHead words_ne_nil, after_cons]

private theorem glue_nil_cons (some_ : ws ≠ []) : glue ws ([] :: vs) = ws ++ vs := by
  induction ws with
  | nil => exact absurd rfl some_
  | cons w ws ih =>
    cases ws with
    | nil => simp [glue]
    | cons w' ws => exact congrArg (w :: ·) (ih (List.cons_ne_nil _ _))

/-- The first piece is what stands in front, up to a blank or the end. -/
theorem exists_of_words_eq_cons {w : List Char} (h : n.words xs = w :: ws) :
    ∃ rest, xs = w ++ rest ∧ ∀ c ∈ rest.head?, c = ' ' := by
  induction xs generalizing n w ws with
  | nil =>
    obtain ⟨rfl, -⟩ := List.cons.inj h
    exact ⟨[], rfl, by simp⟩
  | cons c xs ih =>
    rw [words] at h
    split at h
    · next blank =>
      obtain ⟨rfl, -⟩ := List.cons.inj h
      exact ⟨c :: xs, rfl, by simpa using blank.2⟩
    · cases later : (n.next c).words xs with
      | nil => exact absurd later words_ne_nil
      | cons v vs =>
        rw [later, List.modifyHead_cons] at h
        obtain ⟨rfl, -⟩ := List.cons.inj h
        obtain ⟨rest, rfl, ends⟩ := ih later
        exact ⟨rest, rfl, ends⟩

end Nesting

open Nesting

def topWords (cs : List Char) : List (List Char) := (plain 0).words cs

/-- A text that leaves every bracket and literal as it found it, and has no blank outside those
around it and its own. -/
structure Closed (cs : List Char) : Prop where
  after (d : Nat) : (plain d).after cs = plain d
  inside (d : Nat) : (plain (d + 1)).words cs = [cs]

/-- A closed text that is one piece by itself. -/
structure Compact (cs : List Char) : Prop extends Closed cs where
  whole : topWords cs = [cs]

variable {c : Char} {cs xs ys t u t' u' : List Char}

theorem topWords_ne_nil : topWords cs ≠ [] := words_ne_nil

private theorem Compact.words_eq (h : Compact cs) (d : Nat) : (plain d).words cs = [cs] := by
  cases d with
  | zero => exact h.whole
  | succ d => exact h.inside d

theorem Compact.of_words (after : ∀ d, (plain d).after cs = plain d)
    (words : ∀ d, (plain d).words cs = [cs]) : Compact cs :=
  ⟨⟨after, fun d => words (d + 1)⟩, words 0⟩

theorem Compact.nil : Compact [] := .of_words (fun _ => rfl) fun _ => rfl

theorem Closed.append (hx : Closed xs) (hy : Closed ys) : Closed (xs ++ ys) where
  after d := by rw [after_append, hx.after, hy.after]
  inside d := by rw [words_append, hx.after, hx.inside, hy.inside]; rfl

theorem Compact.append (hx : Compact xs) (hy : Compact ys) : Compact (xs ++ ys) where
  toClosed := hx.toClosed.append hy.toClosed
  whole := by
    rw [topWords, words_append, hx.after, hx.words_eq, hy.words_eq]
    rfl

/-- Brackets make one piece of a closed text. -/
theorem Closed.bracket {opening closing : Char} (h : Closed cs)
    (opens : ∀ d, (plain d).next opening = plain (d + 1))
    (closes : ∀ d, (plain (d + 1)).next closing = plain d) (visible : opening ≠ ' ') :
    Compact (opening :: cs ++ [closing]) := by
  refine .of_words (fun d => ?_) fun d => ?_
  · rw [List.cons_append, after_cons, opens, after_append, h.after, after_cons, closes, after_nil]
  · have last : (plain (d + 1)).words [closing] = [[closing]] := by simp [words]
    rw [List.cons_append, words, if_neg fun blank => visible blank.2, opens, words_append, h.after,
      h.inside, last]
    rfl

theorem Closed.parentheses (h : Closed cs) : Compact ('(' :: cs ++ [')']) :=
  h.bracket (fun _ => rfl) (fun _ => rfl) (by decide)

def isQuiet (c : Char) : Bool := c ∉ [' ', '"', '(', ')', '[', ']']

private theorem next_of_isQuiet (h : isQuiet c = true) (d : Nat) : (plain d).next c = plain d := by
  simp [isQuiet] at h
  simp [Nesting.next, h]

theorem Compact.of_quiet (h : ∀ c ∈ cs, isQuiet c = true) : Compact cs := by
  induction cs with
  | nil => exact .nil
  | cons c cs ih =>
    have rest := ih fun d m => h d (List.mem_cons_of_mem _ m)
    have quiet := h c List.mem_cons_self
    have visible : c ≠ ' ' := by
      rintro rfl
      exact absurd quiet (by decide)
    refine .of_words (fun d => ?_) fun d => ?_
    · rw [after_cons, next_of_isQuiet quiet, rest.after]
    · rw [words, if_neg fun blank => visible blank.2, next_of_isQuiet quiet, rest.words_eq]
      rfl

theorem Compact.of_all (h : cs.all isQuiet = true) : Compact cs :=
  .of_quiet (List.all_eq_true.mp h)

theorem Closed.blank : Closed [' '] where
  after d := rfl
  inside d := by simp [words]

/-- Two pieces that a blank keeps apart. -/
theorem Closed.topWords_blank (h : Closed xs) :
    topWords (xs ++ ' ' :: ys) = topWords xs ++ topWords ys := by
  have second : (plain 0).words (' ' :: ys) = [] :: topWords ys := by
    rw [Nesting.words, if_pos ⟨rfl, rfl⟩]
    rfl
  rw [topWords, words_append, h.after, second, glue_nil_cons words_ne_nil]
  rfl

private theorem Closed.not_append_close (ht : Closed t) (ht' : Closed t') : t' ≠ t ++ ')' :: u := by
  rintro rfl
  -- One level deep the bracket would come out at the same place as at the bottom.
  have deep := ht'.after 1
  have bottom := ht'.after 0
  rw [after_append, ht.after, after_cons] at deep bottom
  exact absurd (deep.symm.trans bottom) (by decide)

/-- The first bracket that can close a closed text does. -/
theorem Closed.append_close_inj (ht : Closed t) (ht' : Closed t')
    (same : t ++ ')' :: u = t' ++ ')' :: u') : t = t' ∧ u = u' := by
  rcases List.append_eq_append_iff.mp same with ⟨a, rfl, rest⟩ | ⟨a, rfl, rest⟩
  · cases a with
    | nil => simpa using rest
    | cons c a =>
      obtain ⟨rfl, -⟩ := List.cons.inj rest
      exact absurd rfl (ht.not_append_close ht')
  · cases a with
    | nil => simpa [eq_comm] using rest
    | cons c a =>
      obtain ⟨rfl, -⟩ := List.cons.inj rest
      exact absurd rfl (ht'.not_append_close ht)

end MutationTesting.Text
