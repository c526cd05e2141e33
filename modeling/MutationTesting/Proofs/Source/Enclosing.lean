import Mathlib.Data.List.Induction
import MutationTesting.Proofs.Source.Pending

/-! What annotating a file makes of each node, told by the nodes above it: the names are those of
the class next above the node and of the method next above it within that class. -/
namespace MutationTesting

namespace Path

variable {a b q : Path} {i : Nat}

def Above (a q : Path) : Prop := a <+: q ∧ a ≠ q

private theorem not_above_nil : ¬ a.Above [] := fun h => h.2 (List.prefix_nil.mp h.1)

theorem Above.asymm (h : a.Above b) : ¬ b.Above a := fun h' =>
  h.2 (h.1.eq_of_length_le h'.1.length_le)

/-- Above a child of a node are the node and what is above it. -/
private theorem above_concat : a.Above (q ++ [i]) ↔ a = q ∨ a.Above q := by
  constructor
  · rintro ⟨leads, other⟩
    have within : a <+: q := (List.prefix_concat_iff.mp leads).resolve_left other
    by_cases same : a = q
    · exact .inl same
    · exact .inr ⟨within, same⟩
  · intro h
    have within : a <+: q := by
      rcases h with rfl | above
      · exact List.prefix_refl a
      · exact above.1
    refine ⟨within.trans (List.prefix_append q [i]), ?_⟩
    rintro rfl
    exact absurd within.length_le (by simp)

/-- Of the places above `q` of which `P` holds, `a` is the deepest. -/
structure Deepest (P : Path → Prop) (q a : Path) : Prop where
  above : a.Above q
  holds : P a
  last : ∀ b, b.Above q → P b → b <+: a

variable {P : Path → Prop}

private theorem deepest_concat (here : P q) : Deepest P (q ++ [i]) a ↔ a = q := by
  constructor
  · intro deepest
    have whole : q <+: a := deepest.last q (above_concat.mpr (.inl rfl)) here
    rcases above_concat.mp deepest.above with same | above
    · exact same
    · exact absurd (whole.eq_of_length_le above.1.length_le).symm above.2
  · rintro rfl
    refine ⟨above_concat.mpr (.inl rfl), here, fun b above _ => ?_⟩
    rcases above_concat.mp above with rfl | above
    · exact List.prefix_refl b
    · exact above.1

private theorem deepest_concat_of_not (other : ¬ P q) : Deepest P (q ++ [i]) a ↔ Deepest P q a := by
  have passes {b : Path} (hb : P b) : b.Above (q ++ [i]) ↔ b.Above q := by
    refine above_concat.trans (or_iff_right ?_)
    rintro rfl
    exact other hb
  constructor
  · intro deepest
    exact ⟨(passes deepest.holds).mp deepest.above, deepest.holds, fun b above hb =>
      deepest.last b ((passes hb).mpr above) hb⟩
  · intro deepest
    exact ⟨(passes deepest.holds).mpr deepest.above, deepest.holds, fun b above hb =>
      deepest.last b ((passes hb).mp above) hb⟩

/-- The name of the deepest of the named places above `q`, or none where there are none. -/
inductive NameAbove (named : Path → String → Prop) (q : Path) : Option String → Prop
  | found {a : Path} {name : String} (deepest : Deepest (fun b => ∃ other, named b other) q a)
      (here : named a name) : NameAbove named q (some name)
  | absent (unnamed : ∀ a name, a.Above q → ¬ named a name) : NameAbove named q none

namespace NameAbove

variable {named : Path → String → Prop} {name : String} {o : Option String}

theorem root : NameAbove named [] none := .absent fun _ _ above _ => not_above_nil above

/-- A named place is the deepest one above its children. -/
theorem child (here : named q name) : NameAbove named (q ++ [i]) (some name) :=
  .found ((deepest_concat ⟨name, here⟩).mpr rfl) here

/-- A place without a name passes on what is above it. -/
private theorem through (unnamed : ∀ name, ¬ named q name) (h : NameAbove named q o) :
    NameAbove named (q ++ [i]) o := by
  cases h with
  | found deepest here =>
    exact .found ((deepest_concat_of_not (not_exists.mpr unnamed)).mpr deepest) here
  | absent none_ =>
    refine .absent fun a name above here => ?_
    rcases above_concat.mp above with rfl | above
    · exact unnamed name here
    · exact none_ a name above here

end NameAbove
end Path

open MutationTesting.Path

namespace Node

variable {root n m : Node} {a q : Path} {i : Nat} {name : String} {scope : Scope}

def DeclaredAt (root : Node) (kind : String → Kind) (a : Path) (name : String) : Prop :=
  ∃ n, root.get? a = some n ∧ n.kind = kind name

/-- A method declaration stands at the path, and not above the class that is next above `q`. -/
def MethodWithin (root : Node) (q a : Path) (name : String) : Prop :=
  root.DeclaredAt .method a name ∧
    ∀ k, Deepest (fun b => ∃ other, root.DeclaredAt .classDecl b other) q k → ¬ a.Above k

private theorem declaredAt_iff {kind : String → Kind} (here : root.get? q = some m) :
    root.DeclaredAt kind q name ↔ m.kind = kind name := by
  simp [DeclaredAt, here]

/-- A place that is no class passes on the class above it, and so the methods within that. -/
private theorem methodWithin_concat (other : ∀ name, ¬ root.DeclaredAt .classDecl q name) :
    root.MethodWithin (q ++ [i]) = root.MethodWithin q := by
  funext a name
  simp only [MethodWithin, deepest_concat_of_not (P := fun b => ∃ c, root.DeclaredAt .classDecl b c)
    (by simpa using other)]

end Node

/-- The scope has the names of the declarations above `q`. -/
structure Scope.Surrounds (scope : Scope) (root : Node) (q : Path) : Prop where
  enclosingClass : NameAbove (root.DeclaredAt .classDecl) q scope.enclosingClass
  enclosingFunction : NameAbove (root.MethodWithin q) q scope.enclosingFunction

namespace Scope.Surrounds

variable {root m : Node} {q : Path} {i : Nat} {name : String} {scope : Scope}

private theorem atRoot (root : Node) : Surrounds {} root [] := ⟨.root, .root⟩

/-- Below a class there is no method yet. -/
private theorem insideClass (here : root.get? q = some m) (kind : m.kind = .classDecl name) :
    Surrounds ⟨some name, none⟩ root (q ++ [i]) where
  enclosingClass := .child ((Node.declaredAt_iff here).mpr kind)
  enclosingFunction := by
    have named : ∃ c, root.DeclaredAt .classDecl q c := ⟨name, (Node.declaredAt_iff here).mpr kind⟩
    refine .absent fun a g above within => ?_
    rcases above_concat.mp above with rfl | above
    · have method := (Node.declaredAt_iff here).mp within.1
      rw [kind] at method
      cases method
    · exact within.2 q ((deepest_concat named).mpr rfl) above

private theorem insideMethod (h : scope.Surrounds root q) (here : root.get? q = some m)
    (kind : m.kind = .method name) :
    Surrounds { scope with enclosingFunction := some name } root (q ++ [i]) := by
  have other (c : String) : ¬ root.DeclaredAt .classDecl q c := by
    rw [Node.declaredAt_iff here, kind]
    exact fun same => nomatch same
  refine ⟨h.enclosingClass.through other, ?_⟩
  rw [Node.methodWithin_concat other]
  exact .child ⟨(Node.declaredAt_iff here).mpr kind, fun k deepest => deepest.above.asymm⟩

private theorem insideOther (h : scope.Surrounds root q)
    (noClass : ∀ c, ¬ root.DeclaredAt .classDecl q c)
    (noMethod : ∀ g, ¬ root.DeclaredAt .method q g) : scope.Surrounds root (q ++ [i]) := by
  refine ⟨h.enclosingClass.through noClass, ?_⟩
  rw [Node.methodWithin_concat noClass]
  exact h.enclosingFunction.through fun g within => noMethod g within.1

/-- The scope of the children of a node has the names of the declarations above them. -/
theorem inside (h : scope.Surrounds root q) (here : root.get? q = some m) :
    (scope.inside m.kind).Surrounds root (q ++ [i]) := by
  unfold Scope.inside
  split
  · next c kind => exact insideClass here kind
  · next g kind => exact h.insideMethod here kind
  · next noClass noMethod =>
    refine h.insideOther (fun c => ?_) fun g => ?_
    · rw [Node.declaredAt_iff here]
      exact noClass c
    · rw [Node.declaredAt_iff here]
      exact noMethod g

end Scope.Surrounds

namespace Node

variable {root n m : Node} {q : Path} {scope : Scope}

/-- Every node is annotated in a scope with the names of the declarations above it. -/
private theorem exists_get?_annotateIn (here : root.get? q = some n) :
    ∃ scope : Scope, scope.Surrounds root q ∧
      (root.annotateIn {}).get? q = some (n.annotateIn scope) := by
  -- From the root downwards, since the scope of a node is made from the one of its parent.
  induction q using List.reverseRecOn generalizing n with
  | nil =>
    obtain rfl := Option.some.inj here
    exact ⟨{}, .atRoot root, rfl⟩
  | append_singleton q i ih =>
    rw [get?_append] at here
    obtain ⟨m, above, child⟩ := Option.bind_eq_some_iff.mp here
    obtain ⟨c, hc, last⟩ := exists_child_of_get? child
    obtain rfl := Option.some.inj last
    obtain ⟨scope, surrounds, annotated⟩ := ih above
    refine ⟨scope.inside m.kind, surrounds.inside above, ?_⟩
    have there : (m.annotateIn scope).children[i]? = some (c.annotateIn (scope.inside m.kind)) := by
      rw [annotateIn_eq, List.getElem?_map, hc, Option.map_some]
    rw [get?_append, annotated, Option.bind_some, get?_cons there]
    rfl

private theorem isSome_get?_annotateIn (scope : Scope) (n : Node) (q : Path) :
    ((n.annotateIn scope).get? q).isSome = (n.get? q).isSome := by
  induction q generalizing n scope with
  | nil => rfl
  | cons i q ih =>
    rw [annotateIn_eq, get?, get?, List.getElem?_map]
    cases n.children[i]? with
    | none => rfl
    | some c => exact ih (scope.inside n.kind) c

mutual

/-- Lines that are there stay, and the names are found again. -/
private theorem annotateIn_annotateIn (scope : Scope) : (n : Node) →
    (n.annotateIn scope).annotateIn scope = n.annotateIn scope
  | ⟨kind, children, span, attributes⟩ => by
    simp only [annotateIn, annotateChildren_annotateChildren, attributesIn, Option.or_assoc,
      Option.or_self]

private theorem annotateChildren_annotateChildren (scope : Scope) : (cs : List Node) →
    annotateChildren scope (annotateChildren scope cs) = annotateChildren scope cs
  | [] => rfl
  | c :: cs => by
    simp only [annotateChildren, annotateIn_annotateIn scope c,
      annotateChildren_annotateChildren scope cs]

end

/-- The node `m` is what annotating the tree makes of the node `n` at the path `q`. -/
structure AnnotatedAt (root : Node) (q : Path) (n m : Node) : Prop where
  kind : m.kind = n.kind
  children : m.children.length = n.children.length
  span : m.span = n.span
  line : m.attributes.line = n.attributes.line.or (n.span.map Span.startLine)
  enclosingClass : NameAbove (root.DeclaredAt .classDecl) q m.attributes.enclosingClass
  enclosingFunction : NameAbove (root.MethodWithin q) q m.attributes.enclosingFunction

private theorem annotatedAt_annotateIn (h : scope.Surrounds root q) (n : Node) :
    root.AnnotatedAt q n (n.annotateIn scope) := by
  rw [annotateIn_eq]
  exact ⟨rfl, List.length_map _, rfl, rfl, h.enclosingClass, h.enclosingFunction⟩

end Node

private theorem SourceFile.annotate_eq (f : SourceFile) :
    f.annotate = { f with ast := f.ast.annotateIn {} } := by
  rw [annotate, Node.annotate_eq_annotateIn]

/-- Annotating tells every node its line and the declarations around it: the class next above it,
and the method next above it that is not above that class. A line that was there stays. All else
about the tree stays as well, and there is nothing left to do for a second time. -/
theorem SourceFile.annotate_told_by_paths (f : SourceFile) :
    f.annotate.path = f.path ∧ f.annotate.text = f.text ∧
    (∀ q n, f.ast.locate q = .ok n →
      ∃ m, f.annotate.ast.locate q = .ok m ∧ f.ast.AnnotatedAt q n m) ∧
    (∀ q, (f.annotate.ast.locate q).isOk = (f.ast.locate q).isOk) ∧
    f.annotate.annotate = f.annotate := by
  refine ⟨rfl, rfl, fun q n here => ?_, fun q => ?_, ?_⟩
  · obtain ⟨scope, surrounds, annotated⟩ := Node.exists_get?_annotateIn (Node.locate_eq_ok.mp here)
    rw [annotate_eq]
    exact ⟨n.annotateIn scope, Node.locate_eq_ok.mpr annotated,
      Node.annotatedAt_annotateIn surrounds n⟩
  · rw [Node.isOk_locate, Node.isOk_locate, annotate_eq, Node.isSome_get?_annotateIn]
  · rw [annotate_eq, annotate_eq, Node.annotateIn_annotateIn]

namespace Sample

def nestedClasses : SourceFile where
  path := "src/Outer.php"
  ast := {
    kind := .classDecl "Outer"
    children := [{
      kind := .method "run"
      children := [{
        kind := .classDecl "Inner"
        children := [
          { kind := .exprStmt, children := [.leaf .null], span := some ⟨40, 45, 7, 7⟩ },
          { kind := .method "go", children := [.leaf .returnStmt] }] }] }] }

end Sample

theorem sample_annotate_told_by_paths :
    (∃ m, Sample.nestedClasses.annotate.ast.locate [0, 0, 0] = .ok m ∧
      m.attributes = ⟨some 7, some "Inner", none⟩ ∧
      NameAbove (Sample.nestedClasses.ast.DeclaredAt .classDecl) [0, 0, 0] (some "Inner") ∧
      NameAbove (Sample.nestedClasses.ast.MethodWithin [0, 0, 0]) [0, 0, 0] none) ∧
    ∃ m, Sample.nestedClasses.annotate.ast.locate [0, 0, 1, 0] = .ok m ∧
      m.attributes = ⟨none, some "Inner", some "go"⟩ ∧
      NameAbove (Sample.nestedClasses.ast.MethodWithin [0, 0, 1, 0]) [0, 0, 1, 0] (some "go") := by
  obtain ⟨-, -, told, -⟩ := SourceFile.annotate_told_by_paths Sample.nestedClasses
  constructor
  · obtain ⟨m, here, annotated⟩ := told [0, 0, 0] _ rfl
    obtain rfl := Except.ok.inj here
    exact ⟨_, here, rfl, annotated.enclosingClass, annotated.enclosingFunction⟩
  · obtain ⟨m, here, annotated⟩ := told [0, 0, 1, 0] _ rfl
    obtain rfl := Except.ok.inj here
    exact ⟨_, here, rfl, annotated.enclosingFunction⟩

end MutationTesting
