import MutationTesting.CommandLine.Report
import MutationTesting.Proofs.Mutant.Origin

/-! What a listing shows: the line that names a mutant begins with its identifier, so that the
identifiers can be read off. -/
namespace MutationTesting

def firstWord (line : String) : String := String.ofList (line.toList.takeWhile (· ≠ ' '))

def faultMark : String := "!"

/-- The identifier that a line begins with. A line about a change begins with blanks. -/
def shownId? (line : String) : Option String :=
  let word := firstWord line
  if word = "" ∨ word = faultMark then none else some word

/-- The identifiers in a listing, whose last line is the number of mutants. -/
def shownIds (lines : List String) : List String := lines.dropLast.filterMap shownId?

private theorem hexDigit_ne (n : Nat) : Sha256.hexDigit n ≠ ' ' ∧ Sha256.hexDigit n ≠ '!' := by
  have digits : ('0' :: "0123456789abcdef".toList).all (fun c => c != ' ' && c != '!') = true := by
    decide
  simp only [List.all_eq_true, Bool.and_eq_true, bne_iff_ne] at digits
  apply digits
  rw [Sha256.hexDigit, List.getD_eq_getElem?_getD]
  cases h : "0123456789abcdef".toList[n]? with
  | none => exact List.mem_cons_self
  | some c => exact List.mem_cons_of_mem _ (List.mem_of_getElem? h)

private theorem mutantId_ne {file operator : String} {path : Path} {ordinal : Nat} {c : Char}
    (h : c ∈ (mutantId file path operator ordinal).toList) : c ≠ ' ' ∧ c ≠ '!' := by
  rw [mutantId, String.toList_ofList] at h
  have member := List.mem_of_mem_take h
  rw [Sha256.hexDigest, List.mem_flatMap] at member
  obtain ⟨b, _, digit⟩ := member
  rw [Sha256.hexByte, List.mem_cons, List.mem_singleton] at digit
  rcases digit with rfl | rfl <;> exact hexDigit_ne _

private theorem mutantId_ne_empty (file operator : String) (path : Path) (ordinal : Nat) :
    mutantId file path operator ordinal ≠ "" := by
  intro empty
  have none_ : (mutantId file path operator ordinal).toList = [] := by rw [empty]; rfl
  simp [mutantId, idLength, Sha256.hexDigest, Sha256.digest, Sha256.bytesOfWord, Sha256.hexByte]
    at none_

private theorem firstWord_append (word rest : String) (h : ∀ c ∈ word.toList, c ≠ ' ') :
    firstWord (word ++ " " ++ rest) = word := by
  rw [firstWord, String.toList_append, String.toList_append, List.append_assoc,
    List.takeWhile_append_of_pos (by simpa using h)]
  simp

private theorem shownId?_fault (rest : String) : shownId? (faultMark ++ " " ++ rest) = none := by
  rw [shownId?, firstWord_append faultMark rest (by simp [faultMark])]
  exact if_pos (.inr rfl)

private theorem shownId?_change {line : String} (h : line.toList.head? = some ' ') :
    shownId? line = none := by
  obtain ⟨rest, split⟩ := List.head?_eq_some_iff.mp h
  have first : firstWord line = "" := by simp [firstWord, split]
  rw [shownId?, first]
  exact if_pos (.inl rfl)

/-- The lines of an item show the identifier of its mutant, and nothing else. -/
private theorem filterMap_shownId?_lines {rules : GenerationRules} {f : SourceFile}
    {item : Generated} (style : PrintStyle) (h : item ∈ rules.generate f) :
    (item.lines style f).filterMap shownId? = (item.mutant?.map Mutant.id).toList := by
  have named (m : Mutant) (remark : String) (hm : item.mutant? = some m) :
      shownId? (m.id ++ " " ++ m.describe ++ remark) = some m.id := by
    obtain ⟨_, _, _, _, _, _, _, _, _, _, made⟩ := GenerationRules.mutant_origin h hm
    have given : m.id ≠ "" := made ▸ mutantId_ne_empty _ _ _ _
    have unmarked : m.id ≠ faultMark := by
      intro same
      have bang : '!' ∈ m.id.toList := by rw [same]; decide
      rw [made] at bang
      exact (mutantId_ne bang).2 rfl
    rw [String.append_assoc, shownId?, firstWord_append m.id _ fun c member => by
      rw [made] at member
      exact (mutantId_ne member).1]
    exact if_neg (not_or.mpr ⟨given, unmarked⟩)
  have removed (text : Option String) :
      (text.map fun text => "    - " ++ text).toList.filterMap shownId? = [] := by
    cases text with
    | none => rfl
    | some text => simp [shownId?_change]
  have added (text : String) : shownId? ("    + " ++ text) = none := shownId?_change (by simp)
  cases item with
  | fault d =>
    simp only [Generated.lines, String.append_assoc]
    exact List.filterMap_cons_none (shownId?_fault _)
  | _ m => simp [Generated.lines, named m _ rfl, removed, added, Generated.mutant?]

private theorem entries_eq_map_offers (rules : GenerationRules) (style : PrintStyle)
    (sources : List SourceFile) :
    rules.entries style sources =
      (Scheduler.offers rules sources).map fun o => o.item.lines style o.source := by
  rw [GenerationRules.entries, Scheduler.offers, List.map_flatMap]
  simp only [List.map_map, Function.comp_def]

/-- A listing shows exactly the identifiers of the mutants, in their order. -/
theorem shownIds_listing (rules : GenerationRules) (style : PrintStyle)
    (sources : List SourceFile) :
    shownIds (rules.listing style sources) =
      ((Scheduler.offers rules sources).filterMap Scheduler.Offer.subject?).map
        fun j => j.mutant.id := by
  rw [shownIds, GenerationRules.listing, List.dropLast_concat, entries_eq_map_offers,
    List.filterMap_flatten, List.map_map, List.map_filterMap, List.filterMap_eq_flatMap_toList,
    ← List.flatMap_def]
  refine List.flatMap_congr fun o member => ?_
  rw [Function.comp_apply, filterMap_shownId?_lines style (Scheduler.mem_offers.mp member).2]
  simp [Scheduler.Offer.subject?, Function.comp_def]

end MutationTesting
