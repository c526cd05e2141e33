import MutationTesting.Json.Value

/-! Fields of records: a field that is written once is found, whatever stands around it. Words and
lists are read back from what they are written as. -/
namespace MutationTesting.Json

variable {key : String} {v : Json} {xs ys fields : List (String × Json)} {names : List String}

theorem lookup?_eq_none (absent : key ∉ fields.map Prod.fst) : lookup? key fields = none := by
  induction fields with
  | nil => rfl
  | cons e fields ih =>
    obtain ⟨k, w⟩ := e
    rw [List.map_cons, List.mem_cons, not_or] at absent
    rw [lookup?, if_neg (Ne.symm absent.1), ih absent.2]

theorem lookup?_eq_some (once : (fields.map Prod.fst).Nodup) (member : (key, v) ∈ fields) :
    lookup? key fields = some v := by
  induction fields with
  | nil => cases member
  | cons e fields ih =>
    obtain ⟨k, w⟩ := e
    obtain ⟨fresh, rest⟩ := List.nodup_cons.mp once
    rw [lookup?]
    rcases List.mem_cons.mp member with same | later
    · cases same
      rw [if_pos rfl]
    · have differs : k ≠ key := by
        rintro rfl
        exact fresh (List.mem_map.mpr ⟨_, later, rfl⟩)
      rw [if_neg differs, ih rest later]

theorem lookup?_append : lookup? key (xs ++ ys) = (lookup? key xs).or (lookup? key ys) := by
  induction xs with
  | nil => rfl
  | cons e xs ih =>
    obtain ⟨k, w⟩ := e
    rw [List.cons_append, lookup?, lookup?, ih]
    split <;> rfl

theorem lookup?_field? {α : Type} {name : String} {write : α → Json} {o : Option α} :
    lookup? key (field? name write o) = if name = key then o.map write else none := by
  cases o with
  | none => rw [Option.map_none, ite_self]; rfl
  | some a => rfl

theorem mem_of_lookup? (found : lookup? key fields = some v) : (key, v) ∈ fields := by
  induction fields with
  | nil => cases found
  | cons e fields ih =>
    obtain ⟨k, w⟩ := e
    rw [lookup?] at found
    split at found
    · next same =>
      obtain rfl := Option.some.inj found
      obtain rfl := same
      exact .head fields
    · exact .tail _ (ih found)

theorem distinct_of_nodup (once : (fields.map Prod.fst).Nodup) : distinct names fields = true := by
  refine List.all_eq_true.mpr fun name _ => decide_eq_true ?_
  have count := List.nodup_iff_count.mp once name
  rwa [List.count, List.countP_map] at count

theorem asInt64?_toInt (value : Int64) : asInt64? (.int value.toInt) = some value := by
  rw [asInt64?, if_pos ⟨value.minValue_le_toInt, value.toInt_lt⟩, Int64.ofInt_toInt]

theorem asList?_map {α : Type} {read : Json → Option α} (write : α → Json)
    (back : ∀ a, read (write a) = some a) (items : List α) :
    asList? read (.arr (items.map write)) = some items := by
  rw [asList?]
  induction items with
  | nil => rfl
  | cons a items ih =>
    rw [List.map_cons, List.mapM_cons, back, ih]
    rfl

end MutationTesting.Json
