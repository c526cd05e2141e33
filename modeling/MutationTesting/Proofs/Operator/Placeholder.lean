import Mathlib.Data.List.Basic
import Mathlib.Data.List.TakeWhile
import Mathlib.Data.List.Induction
import MutationTesting.Operator.Placeholder

/-! The placeholders of a query are the words behind its colons. What a match takes has no colon in
it, so that going on behind the match passes none over. -/
namespace MutationTesting

section FirstOccurrences

variable {α : Type} [DecidableEq α] {x : α}

/-- An element at the end stays if it is new. -/
private theorem firstOccurrences_concat (xs : List α) (x : α) :
    firstOccurrences (xs ++ [x]) =
      if x ∈ firstOccurrences xs then firstOccurrences xs else firstOccurrences xs ++ [x] := by
  simp only [firstOccurrences, List.foldl_append, List.foldl_cons, List.foldl_nil,
    List.mem_reverse]
  split
  · rfl
  · exact List.reverse_cons

private theorem mem_firstOccurrences {xs : List α} : x ∈ firstOccurrences xs ↔ x ∈ xs := by
  induction xs using List.reverseRecOn with
  | nil => rfl
  | append_singleton xs y ih =>
    rw [firstOccurrences_concat]
    split
    · next seen =>
      rw [List.mem_append, List.mem_singleton, ih, iff_self_or]
      rintro rfl
      exact ih.mp seen
    · rw [List.mem_append, List.mem_append, ih]

private theorem nodup_firstOccurrences (xs : List α) : (firstOccurrences xs).Nodup := by
  induction xs using List.reverseRecOn with
  | nil => exact .nil
  | append_singleton xs y ih =>
    rw [firstOccurrences_concat]
    split
    · exact ih
    · next new =>
      refine List.nodup_append.mpr ⟨ih, by simp, ?_⟩
      intro x seen z here same
      obtain rfl := List.mem_singleton.mp here
      exact new (same ▸ seen)

/-- Elements stand in the order in which each of them is first seen. -/
private theorem pairwise_firstOccurrences (xs : List α) :
    (firstOccurrences xs).Pairwise fun x y => xs.idxOf x < xs.idxOf y := by
  induction xs using List.reverseRecOn with
  | nil => exact .nil
  | append_singleton xs z ih =>
    have old {y : α} (seen : y ∈ firstOccurrences xs) : (xs ++ [z]).idxOf y = xs.idxOf y :=
      List.idxOf_append_of_mem (mem_firstOccurrences.mp seen)
    have kept : (firstOccurrences xs).Pairwise fun x y =>
        (xs ++ [z]).idxOf x < (xs ++ [z]).idxOf y := by
      refine ih.imp_of_mem fun hx hy before => ?_
      rwa [old hx, old hy]
    rw [firstOccurrences_concat]
    split
    · exact kept
    · next new =>
      have last : (xs ++ [z]).idxOf z = xs.length := by
        rw [List.idxOf_append_of_notMem (mt mem_firstOccurrences.mpr new)]
        simp
      refine List.pairwise_append.mpr ⟨kept, List.pairwise_singleton _ z, ?_⟩
      intro x seen y here
      obtain rfl := List.mem_singleton.mp here
      rw [old seen, last]
      exact List.idxOf_lt_length_iff.mpr (mem_firstOccurrences.mp seen)

/-- Whatever comes first is found before every occurrence of the other. -/
private theorem mem_of_idxOf_lt {x y : α} {before after : List α}
    (first : (before ++ y :: after).idxOf x < (before ++ y :: after).idxOf y) : x ∈ before := by
  by_contra missing
  rw [List.idxOf_append_of_notMem missing] at first
  by_cases seen : y ∈ before
  · have inside := List.idxOf_lt_length_iff.mpr seen
    rw [List.idxOf_append_of_mem seen] at first
    omega
  · rw [List.idxOf_append_of_notMem seen, List.idxOf_cons_self] at first
    omega

end FirstOccurrences

/-- Behind the colon at place `i` of a text stands the word `run`, and the text ends there or goes
on with another character than those of words. -/
def PlaceholderAt (cs : List Char) (i : Nat) (run : List Char) : Prop :=
  ∃ before after, cs = before ++ ':' :: (run ++ after) ∧ before.length = i ∧ run ≠ [] ∧
    (∀ c ∈ run, Text.isWord c = true) ∧ ∀ c ∈ after.head?, Text.isWord c = false

variable {c : Char} {cs run xs ys : List Char} {i : Nat}

private theorem isWord_colon : Text.isWord ':' = false := by decide

/-- The word at the front of a text is all of it up to a character that is in no word. -/
private theorem eq_takeWhile_iff {p : Char → Bool} : run = cs.takeWhile p ↔
    ∃ after, cs = run ++ after ∧ (∀ c ∈ run, p c = true) ∧ ∀ c ∈ after.head?, p c = false := by
  constructor
  · rintro rfl
    refine ⟨cs.dropWhile p, List.takeWhile_append_dropWhile.symm,
      fun c member => List.mem_takeWhile_imp member, ?_⟩
    intro c head
    have stops := List.head?_dropWhile_not p cs
    rw [Option.mem_def.mp head] at stops
    exact stops
  · rintro ⟨after, rfl, word, stops⟩
    rw [List.takeWhile_append_of_pos word]
    cases after with
    | nil => simp
    | cons c after => simp [stops c rfl]

private theorem placeholderAt_cons_zero :
    PlaceholderAt (c :: cs) 0 run ↔ c = ':' ∧ run ≠ [] ∧ run = cs.takeWhile Text.isWord := by
  rw [eq_takeWhile_iff]
  constructor
  · rintro ⟨before, after, split, front, some_, word, stops⟩
    obtain rfl := List.length_eq_zero_iff.mp front
    obtain ⟨rfl, rfl⟩ := List.cons.inj split
    exact ⟨rfl, some_, after, rfl, word, stops⟩
  · rintro ⟨rfl, some_, after, rfl, word, stops⟩
    exact ⟨[], after, rfl, rfl, some_, word, stops⟩

private theorem placeholderAt_cons_succ :
    PlaceholderAt (c :: cs) (i + 1) run ↔ PlaceholderAt cs i run := by
  constructor
  · rintro ⟨before, after, split, place, rest⟩
    cases before with
    | nil => cases place
    | cons b before =>
      obtain ⟨rfl, rfl⟩ := List.cons.inj split
      exact ⟨before, after, rfl, Nat.succ.inj place, rest⟩
  · rintro ⟨before, after, rfl, rfl, rest⟩
    exact ⟨c :: before, after, rfl, rfl, rest⟩

private theorem placeholderRuns_of_ne (other : c ≠ ':') :
    placeholderRuns (c :: cs) = placeholderRuns cs := by
  rw [placeholderRuns, if_neg fun h => other h.1]

/-- No placeholder begins inside a word. -/
private theorem placeholderRuns_dropWhile (cs : List Char) :
    placeholderRuns (cs.dropWhile Text.isWord) = placeholderRuns cs := by
  induction cs with
  | nil => rfl
  | cons c cs ih =>
    rw [List.dropWhile_cons]
    split
    · next word =>
      have other : c ≠ ':' := by
        rintro rfl
        exact absurd word (by simp [isWord_colon])
      rw [ih, placeholderRuns_of_ne other]
    · rfl

private theorem placeholderRuns_colon (cs : List Char) : placeholderRuns (':' :: cs) =
    (if cs.takeWhile Text.isWord = [] then [] else [cs.takeWhile Text.isWord]) ++
      placeholderRuns cs := by
  rw [placeholderRuns, placeholderRuns_dropWhile]
  by_cases none_ : cs.takeWhile Text.isWord = [] <;> simp [none_]

/-- A word ends at a colon. -/
private theorem takeWhile_append_colon (xs ys : List Char) :
    (xs ++ ':' :: ys).takeWhile Text.isWord = xs.takeWhile Text.isWord := by
  induction xs with
  | nil => simp [isWord_colon]
  | cons c xs ih => simp only [List.cons_append, List.takeWhile_cons, ih]

private theorem head_colon {after : List Char}
    (stops : ∀ c ∈ after.head?, Text.isWord c = false) :
    ∀ c ∈ (after ++ ':' :: ys).head?, Text.isWord c = false := by
  cases after with
  | nil => simp [isWord_colon]
  | cons d after => exact stops

/-- What stands before a colon and what begins with it are searched apart. -/
private theorem placeholderRuns_append_colon (xs ys : List Char) :
    placeholderRuns (xs ++ ':' :: ys) = placeholderRuns xs ++ placeholderRuns (':' :: ys) := by
  induction xs with
  | nil => simp [placeholderRuns]
  | cons c xs ih =>
    by_cases colon : c = ':'
    · subst colon
      rw [List.cons_append, placeholderRuns_colon, placeholderRuns_colon xs,
        takeWhile_append_colon, ih, List.append_assoc]
    · rw [List.cons_append, placeholderRuns_of_ne colon, placeholderRuns_of_ne colon, ih]

/-- The search finds the words behind colons, wherever the colons stand. -/
private theorem mem_placeholderRuns : run ∈ placeholderRuns cs ↔ ∃ i, PlaceholderAt cs i run := by
  induction cs with
  | nil => simp [placeholderRuns, PlaceholderAt]
  | cons c cs ih =>
    rw [← Nat.or_exists_add_one]
    simp only [placeholderAt_cons_zero, placeholderAt_cons_succ, ← ih]
    by_cases colon : c = ':'
    · subst colon
      rw [placeholderRuns_colon, List.mem_append, or_congr_left]
      split
      · next none_ =>
        simp only [List.not_mem_nil, true_and, false_iff, not_and]
        rintro some_ rfl
        exact some_ none_
      · next some_ =>
        rw [List.mem_singleton]
        constructor
        · rintro rfl
          exact ⟨rfl, some_, rfl⟩
        · exact fun h => h.2.2
    · simp [placeholderRuns_of_ne colon, colon]

/-- A placeholder stays where it is when a colon and more text come behind. -/
private theorem placeholderAt_append_colon (here : PlaceholderAt xs i run) (ys : List Char) :
    i < xs.length ∧ PlaceholderAt (xs ++ ':' :: ys) i run := by
  obtain ⟨before, after, rfl, rfl, some_, word, stops⟩ := here
  constructor
  · simp
  · exact ⟨before, after ++ ':' :: ys, by simp, rfl, some_, word, head_colon stops⟩

/-- A text is searched up to a placeholder, which is found next. -/
private theorem exists_placeholderRuns_eq (here : PlaceholderAt cs i run) :
    ∃ xs ys rest, cs = xs ++ ':' :: ys ∧ xs.length = i ∧
      placeholderRuns cs = placeholderRuns xs ++ run :: rest := by
  obtain ⟨before, after, rfl, front, some_, ends⟩ := here
  have word : run = (run ++ after).takeWhile Text.isWord := eq_takeWhile_iff.mpr ⟨after, rfl, ends⟩
  refine ⟨before, run ++ after, placeholderRuns (run ++ after), rfl, front, ?_⟩
  rw [placeholderRuns_append_colon, placeholderRuns_colon, ← word, if_neg some_]
  rfl

theorem nodup_placeholderNames (query : String) : (placeholderNames query).Nodup := by
  refine List.Pairwise.map _ (fun cs cs' differ same => differ ?_) (nodup_firstOccurrences _)
  exact String.ofList_injective same

/-- The placeholders of a query are the words right behind its colons, each listed once. A colon
counts wherever it stands, also behind another colon or a placeholder, and its word is taken whole.
Names are listed in the order of their first places: of two of them, the one that is listed first
stands before every place of the other. -/
theorem placeholders_are_words_behind_colons (query : String) :
    (placeholderNames query).Nodup ∧
    (∀ name : String, name ∈ placeholderNames query ↔
      ∃ i, PlaceholderAt query.toList i name.toList) ∧
    (placeholderNames query).Pairwise fun name later =>
      ∀ j, PlaceholderAt query.toList j later.toList →
        ∃ i < j, PlaceholderAt query.toList i name.toList := by
  have ordered := pairwise_firstOccurrences (placeholderRuns query.toList)
  refine ⟨nodup_placeholderNames query, fun name => ?_, List.Pairwise.map _ ?_ ordered⟩
  · rw [placeholderNames, List.mem_map, ← mem_placeholderRuns, ← mem_firstOccurrences]
    constructor
    · rintro ⟨run, listed, rfl⟩
      rwa [String.toList_ofList]
    · intro listed
      exact ⟨name.toList, listed, String.ofList_toList⟩
  · intro run later first j there
    rw [String.toList_ofList] at there ⊢
    obtain ⟨xs, ys, rest, split, rfl, found⟩ := exists_placeholderRuns_eq there
    rw [found] at first
    obtain ⟨i, here⟩ := mem_placeholderRuns.mp (mem_of_idxOf_lt first)
    obtain ⟨before, still⟩ := placeholderAt_append_colon here ys
    exact ⟨i, before, split ▸ still⟩

example : placeholderNames "a = ::id: AND b = :id:x_1" = ["id", "x_1"] := by decide +kernel

end MutationTesting
