import MutationTesting.Text.Bands

/-! Names of the placeholders in a query: a colon and the word characters right after it. -/
namespace MutationTesting

/-- The texts of the placeholders from left to right. Each match takes as many word characters as
there are, and the search goes on behind it. -/
def placeholderRuns : List Char → List (List Char)
  | [] => []
  | c :: cs =>
    if c = ':' ∧ cs.takeWhile Text.isWord ≠ [] then
      cs.takeWhile Text.isWord :: placeholderRuns (cs.dropWhile Text.isWord)
    else placeholderRuns cs
termination_by cs => cs.length
decreasing_by
  all_goals
    have := (List.dropWhile_sublist Text.isWord (l := cs)).length_le
    simp only [List.length_cons]
    omega

def firstOccurrences {α : Type} [DecidableEq α] (xs : List α) : List α :=
  (xs.foldl (fun seen x => if x ∈ seen then seen else x :: seen) []).reverse

/-- The placeholder names of a query, each once, in the order of their first occurrence. -/
def placeholderNames (query : String) : List String :=
  (firstOccurrences (placeholderRuns query.toList)).map fun cs => String.ofList cs

end MutationTesting
