import MutationTesting.Json.Parser
import MutationTesting.Proofs.Number.Binary64

/-! The numbers that values of documents hold, and what they are as doubles. -/
namespace MutationTesting.Json

/-- Every number of a value is one that a document can hold: whole and within sixty-four bits, or a
finite double. -/
inductive NumbersFit : Json → Prop where
  | null : NumbersFit .null
  | bool (b : Bool) : NumbersFit (.bool b)
  | int {i : Int} (low : -9223372036854775808 ≤ i) (high : i < 18446744073709551616) :
    NumbersFit (.int i)
  | real {x : Binary64} (finite : x.isFinite = true) : NumbersFit (.real x)
  | str (s : String) : NumbersFit (.str s)
  | arr {items : List Json} (each : ∀ j ∈ items, NumbersFit j) : NumbersFit (.arr items)
  | obj {fields : List (String × Json)} (each : ∀ e ∈ fields, NumbersFit e.2) :
    NumbersFit (.obj fields)

variable {j : Json} {x : Binary64}

theorem NumbersFit.isFinite_of_asReal? (fit : j.NumbersFit) (read : asReal? j = some x) :
    x.isFinite = true := by
  cases fit with
  | int low high =>
    obtain rfl := Option.some.inj read
    exact Binary64.isFinite_ofInt (by omega)
  | real finite =>
    obtain rfl := Option.some.inj read
    exact finite
  | _ => cases read

section Reading

variable {negative : Bool} {n fuel depth : Nat} {cs rest : List Char} {seen items : List Json}
  {seenFields fields : List (String × Json)}

private theorem numbersFit_of_finite? (read : finite? x = some j) : j.NumbersFit := by
  rw [finite?] at read
  split at read
  · next finite =>
    obtain rfl := Option.some.inj read
    exact .real finite
  · cases read

private theorem numbersFit_of_wholeNumber? (read : wholeNumber? negative n = some j) :
    j.NumbersFit := by
  rw [wholeNumber?] at read
  split at read
  · split at read
    · next within =>
      obtain rfl := Option.some.inj read
      exact .int (by omega) (by omega)
    · exact numbersFit_of_finite? read
  · split at read
    · next within =>
      obtain rfl := Option.some.inj read
      exact .int (by omega) (by omega)
    · exact numbersFit_of_finite? read

private theorem numbersFit_of_number? (read : number? cs = some (j, rest)) : j.NumbersFit := by
  unfold number? at read
  obtain ⟨whole, -, read⟩ := Option.bind_eq_some_iff.mp read
  obtain ⟨fraction, -, read⟩ := Option.bind_eq_some_iff.mp read
  obtain ⟨exponent, -, read⟩ := Option.bind_eq_some_iff.mp read
  dsimp only at read
  split at read
  · obtain ⟨value, chosen, same⟩ := Option.bind_eq_some_iff.mp read
    cases same
    exact numbersFit_of_wholeNumber? chosen
  · obtain ⟨value, chosen, same⟩ := Option.bind_eq_some_iff.mp read
    cases same
    exact numbersFit_of_finite? chosen

/-- Whatever is read with some fuel has only numbers that fit. -/
private structure ReadsFit (fuel : Nat) : Prop where
  value : ∀ {depth cs j rest}, value? fuel depth cs = some (j, rest) → j.NumbersFit
  items : ∀ {depth seen cs items rest}, (∀ j ∈ seen, j.NumbersFit) →
    items? fuel depth seen cs = some (items, rest) → ∀ j ∈ items, j.NumbersFit
  fields : ∀ {depth cs rest} {seen fields : List (String × Json)},
    (∀ e ∈ seen, e.2.NumbersFit) →
    fields? fuel depth seen cs = some (fields, rest) → ∀ e ∈ fields, e.2.NumbersFit

namespace ReadsFit

private theorem value_succ (less : ReadsFit fuel)
    (read : value? (fuel + 1) depth cs = some (j, rest)) : j.NumbersFit := by
  rw [value?] at read
  split at read
  · obtain ⟨_, -, same⟩ := Option.map_eq_some_iff.mp read
    cases same
    exact .str _
  · cases depth with
    | zero => cases read
    | succ depth =>
      dsimp only at read
      split at read
      · cases read
        exact .arr fun _ none_ => absurd none_ List.not_mem_nil
      · obtain ⟨p, inside, same⟩ := Option.map_eq_some_iff.mp read
        cases same
        exact .arr (less.items (fun _ none_ => absurd none_ List.not_mem_nil) inside)
  · cases depth with
    | zero => cases read
    | succ depth =>
      dsimp only at read
      split at read
      · cases read
        exact .obj fun _ none_ => absurd none_ List.not_mem_nil
      · obtain ⟨p, inside, same⟩ := Option.map_eq_some_iff.mp read
        cases same
        exact .obj (less.fields (fun _ none_ => absurd none_ List.not_mem_nil) inside)
  · cases read
    exact .null
  · cases read
    exact .bool true
  · cases read
    exact .bool false
  · exact numbersFit_of_number? read

private theorem items_succ (less : ReadsFit fuel) (old : ∀ j ∈ seen, j.NumbersFit)
    (read : items? (fuel + 1) depth seen cs = some (items, rest)) : ∀ j ∈ items, j.NumbersFit := by
  rw [items?] at read
  obtain ⟨⟨item, rest'⟩, first, read⟩ := Option.bind_eq_some_iff.mp read
  have all : ∀ j ∈ item :: seen, j.NumbersFit := List.forall_mem_cons.mpr ⟨less.value first, old⟩
  dsimp only at read
  split at read
  · exact less.items all read
  · cases read
    exact fun j member => all j (List.mem_reverse.mp member)
  · cases read

private theorem fields_succ (less : ReadsFit fuel) (old : ∀ e ∈ seenFields, e.2.NumbersFit)
    (read : fields? (fuel + 1) depth seenFields cs = some (fields, rest)) :
    ∀ e ∈ fields, e.2.NumbersFit := by
  rw [fields?] at read
  split at read
  · obtain ⟨⟨key, rest'⟩, -, read⟩ := Option.bind_eq_some_iff.mp read
    dsimp only at read
    split at read
    · obtain ⟨⟨item, rest'⟩, first, read⟩ := Option.bind_eq_some_iff.mp read
      have all : ∀ e ∈ (key, item) :: seenFields, e.2.NumbersFit :=
        List.forall_mem_cons.mpr ⟨less.value first, old⟩
      dsimp only at read
      split at read
      · exact less.fields all read
      · cases read
        exact fun e member => all e (List.mem_reverse.mp member)
      · cases read
    · cases read
  · cases read

end ReadsFit

private theorem readsFit : ∀ fuel : Nat, ReadsFit fuel
  | 0 => ⟨nofun, nofun, nofun⟩
  | fuel + 1 =>
    let less := readsFit fuel
    ⟨less.value_succ, less.items_succ, less.fields_succ⟩

theorem numbersFit_of_ofDocument? {text : String} (read : ofDocument? text = some j) :
    j.NumbersFit := by
  rw [ofDocument?, parse?] at read
  split at read
  · next v rest' found =>
    split at read
    · obtain rfl := Option.some.inj read
      exact (readsFit _).value found
    · cases read
  · cases read

end Reading

end MutationTesting.Json
