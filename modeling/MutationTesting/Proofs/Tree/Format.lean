import Mathlib.Data.List.Basic
import Mathlib.Data.Option.Basic
import MutationTesting.Tree.Format
import MutationTesting.Proofs.Json.Numbers
import MutationTesting.Proofs.Json.Record
import MutationTesting.Proofs.Tree.Edit

/-! Trees are read back from what they are written as.

The fields of a node have different names, so each is found whatever the others are, and a field
that is left out is read as what it was left out for. A number that is not finite has no written
form. -/
namespace MutationTesting

open Json (lookup?)

namespace Kind

variable {fields : List (String × Json)} {name : String} {v : Json}

def FloatFinite (k : Kind) : Prop := ∀ x, k = .float x → x.isFinite = true

private theorem own?_eq {α : Type} {read : Json → Option α} (once : (fields.map Prod.fst).Nodup)
    (member : (name, v) ∈ fields) : own? name read fields = read v := by
  rw [own?, if_pos (Json.distinct_of_nodup once), Json.required, Json.lookup?_eq_some once member]
  rfl

private theorem bind_map_eq {s n : Option String} {f : String → String → Kind} {a b : String}
    (first : s = some a) (second : n = some b) :
    (s.bind fun t => n.map (f t)) = some (f a b) := by
  rw [first, second]
  rfl

/-- A kind is read back from its label and its own fields, wherever they stand. -/
private theorem ofLabel?_label {k : Kind} (finite : k.FloatFinite)
    (once : (fields.map Prod.fst).Nodup) (own : ∀ e ∈ k.ownFields, e ∈ fields) :
    ofLabel? k.label fields = some k := by
  have slot {α : Type} {name : String} {v : Json} (read : Json → Option α)
      (h : (name, v) ∈ k.ownFields) : own? name read fields = read v := own?_eq once (own _ h)
  cases k with
  | module | block | conditional | exprStmt | returnStmt | arrayAccess | assign | negate | null
  | other => rfl
  | classDecl name | method name | methodCall name | functionCall name | propertyFetch name
  | variableRef name | constFetch name =>
    exact congrArg (Option.map _) (slot Json.asString? (.head _))
  | staticCall scope name =>
    exact bind_map_eq (f := staticCall) (slot Json.asString? (.head _))
      (slot Json.asString? (.tail _ (.head _)))
  | staticPropertyFetch scope name =>
    exact bind_map_eq (f := staticPropertyFetch) (slot Json.asString? (.head _))
      (slot Json.asString? (.tail _ (.head _)))
  | classConstFetch scope name =>
    exact bind_map_eq (f := classConstFetch) (slot Json.asString? (.head _))
      (slot Json.asString? (.tail _ (.head _)))
  | binary op | compoundAssign op =>
    have known := (slot BinaryOperator.ofJson? (.head _)).trans op.ofWord?_word
    exact congrArg (Option.map _) known
  | int value =>
    have fits := (slot Json.asInt64? (.head _)).trans (Json.asInt64?_toInt value)
    exact congrArg (Option.map _) fits
  | float value =>
    have written : own? "value" Json.asReal? fields = some value := by
      refine (slot Json.asReal? (.head _)).trans ?_
      rw [if_pos (finite value rfl), Json.asReal?]
    exact congrArg (Option.map _) written
  | str value => exact congrArg (Option.map _) (slot Json.asString? (.head _))
  | bool value => exact congrArg (Option.map _) (slot Json.asBool? (.head _))

/-- The kind of an object that is written with its label and its own fields, each once. -/
private theorem ofFields?_eq {k : Kind} (finite : k.FloatFinite)
    (once : (fields.map Prod.fst).Nodup) (label : ("kind", .str k.label) ∈ fields)
    (own : ∀ e ∈ k.ownFields, e ∈ fields) :
    ofFields? fields = some k := by
  rw [ofFields?, own?_eq once label]
  exact ofLabel?_label finite once own

private theorem keys_ownFields_subset (k : Kind) :
    k.ownFields.map Prod.fst ⊆ ["name", "class", "op", "value"] := by
  cases k <;> simp [ownFields]

/-- Only the label of float literals gives one, from the number beside it. -/
private theorem own?_of_ofLabel?_float {label : String} {x : Binary64}
    (read : ofLabel? label fields = some (.float x)) :
    own? "value" Json.asReal? fields = some x := by
  unfold ofLabel? at read
  split at read <;> simp [Option.bind_eq_some_iff] at read
  exact read

private theorem floatFinite_of_ofFields? {k : Kind} (fit : ∀ e ∈ fields, e.2.NumbersFit)
    (read : ofFields? fields = some k) : k.FloatFinite := by
  rintro x rfl
  obtain ⟨label, -, labelled⟩ := Option.bind_eq_some_iff.mp read
  have value := own?_of_ofLabel?_float labelled
  rw [own?] at value
  split at value
  · obtain ⟨j, found, number⟩ := Option.bind_eq_some_iff.mp value
    exact (fit _ (Json.mem_of_lookup? found)).isFinite_of_asReal? number
  · cases value

end Kind

namespace Span

theorem ofJson?_toJson (s : Span) : ofJson? s.toJson = some s := rfl

end Span

namespace Attributes

theorem ofJson?_toJson (a : Attributes) : ofJson? a.toJson = some a := by
  obtain ⟨line, enclosingClass, enclosingFunction⟩ := a
  cases line <;> cases enclosingClass <;> cases enclosingFunction <;> rfl

private theorem eq_default_of_isEmpty {a : Attributes} (none_ : a.isEmpty = true) : a = {} := by
  obtain ⟨line, enclosingClass, enclosingFunction⟩ := a
  simp_all [isEmpty]

end Attributes

namespace Node

def fields (n : Node) : List (String × Json) :=
  [("kind", .str n.kind.label)] ++ n.kind.ownFields
    ++ (if n.children.isEmpty then [] else [("children", .arr (toJsonList n.children))])
    ++ Json.field? "span" Span.toJson n.span
    ++ (if n.attributes.isEmpty then [] else [("attributes", n.attributes.toJson)])

private theorem toJson_eq_obj (n : Node) : n.toJson = .obj n.fields := by
  obtain ⟨kind, children, span, attributes⟩ := n
  rw [toJson]
  rfl

private theorem nodup_fields (n : Node) : (n.fields.map Prod.fst).Nodup := by
  have all : (["kind"] ++ n.kind.ownFields.map Prod.fst ++ ["children"] ++ ["span"] ++
      ["attributes"]).Nodup := by
    cases n.kind <;> simp [Kind.ownFields]
  refine all.sublist ?_
  simp only [fields, List.map_append]
  refine (((List.Sublist.refl _).append ?_).append ?_).append ?_
  · split <;> simp
  · cases n.span <;> simp [Json.field?]
  · split <;> simp

private theorem lookup?_ownFields (k : Kind) {key : String}
    (other : key ∉ ["name", "class", "op", "value"]) : lookup? key k.ownFields = none :=
  Json.lookup?_eq_none fun own => other (k.keys_ownFields_subset own)

private theorem lookup?_part {key name : String} {v : Json} {absent : Prop} [Decidable absent] :
    lookup? key (if absent then [] else [(name, v)]) =
      if absent ∨ name ≠ key then none else some v := by
  by_cases h : absent <;> simp [lookup?, h]

private theorem lookup?_children (n : Node) : lookup? "children" n.fields =
    if n.children.isEmpty then none else some (.arr (toJsonList n.children)) := by
  simp [fields, Json.lookup?_append, Json.lookup?_field?, lookup?_part, lookup?_ownFields, lookup?]

private theorem lookup?_span (n : Node) : lookup? "span" n.fields = n.span.map Span.toJson := by
  simp [fields, Json.lookup?_append, Json.lookup?_field?, lookup?_part, lookup?_ownFields, lookup?]

private theorem lookup?_attributes (n : Node) : lookup? "attributes" n.fields =
    if n.attributes.isEmpty then none else some n.attributes.toJson := by
  simp [fields, Json.lookup?_append, Json.lookup?_field?, lookup?_part, lookup?_ownFields, lookup?]

private theorem childrenField?_eq (fields : List (String × Json)) : childrenField? fields =
    Json.withDefault [] array? (lookup? "children" fields) := by
  induction fields with
  | nil => rfl
  | cons e fields ih =>
    obtain ⟨k, v⟩ := e
    rw [childrenField?, lookup?]
    split
    · rfl
    · exact ih

def FloatsFinite (n : Node) : Prop := n.Everywhere fun m => m.kind.FloatFinite

/-- A node is read back from its fields if its children are read back. -/
private theorem ofJson?_fields {n : Node} (finite : n.kind.FloatFinite)
    (children : ofJsonList? (toJsonList n.children) = some n.children) :
    ofJson? (.obj n.fields) = some n := by
  have once := n.nodup_fields
  have kind : Kind.ofFields? n.fields = some n.kind :=
    Kind.ofFields?_eq finite once (by simp [fields]) fun e own => by simp [fields, own]
  have children : childrenField? n.fields = some n.children := by
    rw [childrenField?_eq, lookup?_children]
    split
    · next none_ =>
      rw [List.isEmpty_iff.mp none_]
      rfl
    · exact children
  have span : Json.optional Span.ofJson? (lookup? "span" n.fields) = some n.span := by
    rw [lookup?_span]
    cases n.span with
    | none => rfl
    | some s => rfl
  have attributes : Json.withDefault {} Attributes.ofJson? (lookup? "attributes" n.fields) =
      some n.attributes := by
    rw [lookup?_attributes]
    split
    · next none_ =>
      rw [Attributes.eq_default_of_isEmpty none_]
      rfl
    · exact n.attributes.ofJson?_toJson
  rw [ofJson?, Json.distinct_of_nodup once, kind, children, span, attributes]
  cases n
  rfl

mutual

theorem ofJson?_toJson : (n : Node) → n.FloatsFinite → ofJson? n.toJson = some n
  | ⟨kind, children, span, attributes⟩, finite => by
    obtain ⟨self, below⟩ := everywhere_iff.mp finite
    rw [toJson_eq_obj]
    exact ofJson?_fields self (ofJsonList?_toJsonList children below)

private theorem ofJsonList?_toJsonList : (cs : List Node) → (∀ c ∈ cs, c.FloatsFinite) →
    ofJsonList? (toJsonList cs) = some cs
  | [], _ => rfl
  | c :: cs, finite => by
    rw [toJsonList, ofJsonList?, ofJson?_toJson c (finite c (.head cs)),
      ofJsonList?_toJsonList cs fun d member => finite d (.tail c member)]
    rfl

end

/-- What reading an object as a node reads from its fields. -/
private theorem fields_of_ofJson? {fields : List (String × Json)} {n : Node}
    (read : ofJson? (.obj fields) = some n) :
    Kind.ofFields? fields = some n.kind ∧ childrenField? fields = some n.children := by
  rw [ofJson?] at read
  obtain ⟨_, -, read⟩ := Option.bind_eq_some_iff.mp read
  obtain ⟨kind, own, read⟩ := Option.bind_eq_some_iff.mp read
  obtain ⟨children, below, read⟩ := Option.bind_eq_some_iff.mp read
  obtain ⟨span, -, read⟩ := Option.bind_eq_some_iff.mp read
  obtain ⟨attributes, -, read⟩ := Option.bind_eq_some_iff.mp read
  obtain rfl := Option.some.inj read
  exact ⟨own, below⟩

private theorem exists_item_of_ofJsonList? {items : List Json} {cs : List Node} {c : Node}
    (read : ofJsonList? items = some cs) (member : c ∈ cs) :
    ∃ j ∈ items, ofJson? j = some c := by
  induction items generalizing cs with
  | nil =>
    obtain rfl := Option.some.inj read
    cases member
  | cons j items ih =>
    simp only [ofJsonList?, Option.bind_eq_bind, Option.bind_eq_some_iff, Option.some.injEq] at read
    obtain ⟨n, first, ns, rest, rfl⟩ := read
    rcases List.mem_cons.mp member with rfl | later
    · exact ⟨j, .head items, first⟩
    · obtain ⟨j', listed, read⟩ := ih rest later
      exact ⟨j', .tail j listed, read⟩

/-- The children of a node are read from items of a value under its fields. -/
private theorem exists_item_of_childrenField? {fields : List (String × Json)} {cs : List Node}
    {c : Node} (read : childrenField? fields = some cs) (member : c ∈ cs) :
    ∃ items, ("children", .arr items) ∈ fields ∧ ∃ j ∈ items, ofJson? j = some c := by
  rw [childrenField?_eq] at read
  cases found : lookup? "children" fields with
  | none =>
    rw [found] at read
    obtain rfl := Option.some.inj read
    cases member
  | some v =>
    rw [found] at read
    cases v with
    | arr items => exact ⟨items, Json.mem_of_lookup? found, exists_item_of_ofJsonList? read member⟩
    | _ => cases read

/-- Values of documents have no other numbers than those a tree may hold. -/
theorem floatsFinite_of_ofJson? : (n : Node) → {j : Json} → j.NumbersFit → ofJson? j = some n →
    n.FloatsFinite
  | ⟨kind, children, span, attributes⟩, j, fit, read => by
    cases fit with
    | @obj fields each =>
      obtain ⟨own, inside⟩ := fields_of_ofJson? read
      refine everywhere_iff.mpr ⟨Kind.floatFinite_of_ofFields? each own, fun c member => ?_⟩
      obtain ⟨items, listed, i, item, below⟩ := exists_item_of_childrenField? inside member
      have fits : i.NumbersFit := by
        cases each _ listed with
        | arr each => exact each i item
      exact floatsFinite_of_ofJson? c fits below
    | _ => cases read

end Node
end MutationTesting
