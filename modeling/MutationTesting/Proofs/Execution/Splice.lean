import MutationTesting.Execution.Patch
import MutationTesting.Proofs.Operator.Text
import MutationTesting.Proofs.Text.Bytes

/-! Writing a replacement over the text of its node gives what printing the whole changed tree
gives, where the spans of a file are those of its own print. -/
namespace MutationTesting

open PrintStyle

/-- A file that reads as its tree is printed, a node of it whose span is its place in that text, and
a replacement by an operator: the text with the replacement spliced in is the print of the changed
tree. Bodies would be indented in the tree and not in the splice, so the node must have none. -/
theorem splice_eq_reprint {style : PrintStyle} {f : SourceFile} {p : Path} {n r : Node}
    {span : Span} {o : Operator} (whole : style.printWith f.text f.ast = .ok f.text)
    (here : f.ast.get? p = some n) (spanned : n.span = some span)
    (emitted : style.Emits f.text f.ast p span.start span.stop) (bodies : n.BodiesEmpty)
    (proposed : .ok r ∈ o.proposals n) :
    ∃ tree text, f.ast.withReplaced p r = .ok tree ∧ patchSource style f p r = .ok text ∧
      style.printWith f.text tree = .ok text := by
  obtain ⟨d, pre, t, post, placed, hstart, hstop⟩ := emitted.placed whole here
  have like : TextLike style (some f.text) d n r := o.textLike_of_proposed proposed
  obtain ⟨u, printed⟩ := like.prints ⟨t, placed.own⟩
  obtain ⟨tree, replaced, -, reprinted⟩ := placed.replaced r u like.loose printed
  refine ⟨tree, pre ++ u ++ post, Node.withReplaced_eq_ok.mpr replaced, ?_, reprinted⟩
  have alone : style.printWith f.text r = .ok u :=
    (render_depth 0 d r (like.bodies bodies)).trans printed
  rw [patchSource, Node.locate_eq_ok.mpr here, ok_bind, spanned, usableCut?]
  by_cases some_ : span.start < span.stop
  · have cut : Text.cut? f.text span.start span.stop = some ⟨pre, t, post⟩ := by
      rw [placed.whole, hstop, hstart, Text.cut?_append]
    rw [if_pos some_, cut]
    dsimp only
    rw [alone]
    rfl
  · rw [if_neg some_]
    dsimp only
    rw [Node.withReplaced_eq_ok.mpr replaced, ok_bind]
    exact reprinted

namespace Sample

def sum : Node where
  kind := .binary .plus
  children := [.leaf (.variableRef "$a"), .leaf (.int 1)]
  span := some ⟨2, 8, 1, 1⟩

/-- A sum in parentheses that its span leaves out. -/
def negated : SourceFile where
  path := "a"
  text := "-($a + 1);"
  ast := { kind := .exprStmt, children := [{ kind := .negate, children := [sum] }] }

end Sample

theorem sample_splice_eq_reprint :
    ∃ tree, Sample.negated.ast.withReplaced [0, 0] { Sample.sum with kind := .binary .minus } =
        .ok tree ∧
      patchSource {} Sample.negated [0, 0] { Sample.sum with kind := .binary .minus } =
        .ok "-($a - 1);" ∧
      PrintStyle.printWith {} Sample.negated.text tree = .ok "-($a - 1);" := by
  have whole : PrintStyle.printWith {} Sample.negated.text Sample.negated.ast =
      .ok Sample.negated.text := by decide +kernel
  have here : Sample.negated.ast.get? [0, 0] = some Sample.sum := rfl
  have emitted : PrintStyle.Emits {} Sample.negated.text Sample.negated.ast [0, 0] 2 8 := by
    have own : PrintStyle.render {} (some "-($a + 1);") 0 Sample.sum = .ok "$a + 1" := by
      decide +kernel
    refine ⟨"-(", "$a + 1", ");", by decide, by decide, fun l r => ?_⟩
    have loose : Sample.sum.kind.bindsLoosely = true := rfl
    have opening : "-(" = "-" ++ "(" := rfl
    have closing : ");" = ")" ++ ";" := rfl
    have one : checkCount .exprStmt 1 = .ok () := rfl
    have single : checkCount .negate 1 = .ok () := rfl
    simp only [renderMarked, Sample.negated, List.length_cons, List.length_nil, Nat.zero_add,
      Nat.lt_add_one, getElem?_pos, List.getElem_cons_zero, layout, one, single, innerDepth,
      Kind.opensBody, Bool.false_eq_true, ↓reduceIte, renderChildren, loose, own, Except.map,
      List.set_cons_zero, pick, PrintedChild.operand, pure_eq_ok, ok_bind]
    rw [opening, closing]
    simp only [String.append_assoc]
  have bodies : Sample.sum.BodiesEmpty := by
    refine .of_children (fun opens => by cases opens) fun c member => ?_
    rcases List.mem_pair.mp member with rfl | rfl
    · exact .leaf _
    · exact .leaf _
  have proposed : .ok { Sample.sum with kind := .binary .minus } ∈
      (Operator.arithmetic .plus).proposals Sample.sum := .head _
  obtain ⟨tree, text, replaced, patched, printed⟩ :=
    splice_eq_reprint whole here rfl emitted bodies proposed
  have evaluated : patchSource {} Sample.negated [0, 0]
      { Sample.sum with kind := .binary .minus } = .ok "-($a - 1);" := by decide +kernel
  obtain rfl := Except.ok.inj (patched.symm.trans evaluated)
  exact ⟨tree, replaced, evaluated, printed⟩

end MutationTesting
