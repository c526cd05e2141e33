import MutationTesting.Execution.Patch
import MutationTesting.Proofs.Mutant.Origin
import MutationTesting.Proofs.Operator.Text
import MutationTesting.Proofs.Tree.Shown

/-! Where a node has no usable span its replacement is printed with the whole tree. What the print
does not show of the tree, such as the inside of an opaque node, it does not show of the mutant
either. -/
namespace MutationTesting

open PrintStyle

private theorem patchSource_reprinted {style : PrintStyle} {f : SourceFile} {p : Path} {n r : Node}
    {t : String} (here : f.ast.get? p = some n) (unusable : usableCut? f.text n.span = none)
    (patched : patchSource style f p r = .ok t) :
    ∃ tree, f.ast.set? p r = some tree ∧ style.printWith f.text tree = .ok t := by
  rw [patchSource, Node.locate_eq_ok.mpr here, ok_bind, unusable] at patched
  obtain ⟨tree, replaced, printed⟩ := bind_eq_ok.mp patched
  exact ⟨tree, Node.withReplaced_eq_ok.mp replaced, printed⟩

/-- A reprint with a mutant in it differs from the reprint of the tree as it was exactly where the
text shows the node that the mutant replaces. -/
theorem reprint_ne_iff_shows {rules : GenerationRules} {style : PrintStyle} {f : SourceFile}
    {item : Generated} {m : Mutant} {n : Node} {t : String} (generated : item ∈ rules.generate f)
    (hm : item.mutant? = some m) (here : f.ast.get? m.path = some n)
    (unusable : usableCut? f.text n.span = none)
    (patched : patchSource style f m.path m.replacement = .ok t) :
    style.printWith f.text f.ast ≠ .ok t ↔ f.ast.shows m.path = true := by
  obtain ⟨tree, replaced, printed⟩ := patchSource_reprinted here unusable patched
  obtain ⟨n', -, there, o, proposed⟩ := GenerationRules.mutant_target generated hm
  obtain rfl : n = n' := Option.some.inj (here.symm.trans there)
  cases shows : f.ast.shows m.path with
  | false =>
    have unchanged := render_hidden shows replaced printed
    exact ⟨fun differs => absurd unchanged differs, nofun⟩
  | true =>
    refine ⟨fun _ => rfl, fun _ unchanged => ?_⟩
    have like : TextLike style (some f.text) 0 n m.replacement := o.textLike_of_proposed proposed
    exact render_shown shows here replaced like.loose
      (fun depth _ _ => o.text_ne_of_proposed proposed) unchanged printed rfl

namespace Sample

def product : Node where
  kind := .binary .mul
  children := [.leaf (.int 10), .leaf (.int 3)]

def assigned : Node where
  kind := .exprStmt
  children := [{ kind := .assign, children := [.leaf (.variableRef "$y"), product] }]

def plain : SourceFile where
  path := "plain"
  text := "$y = 10 * 3;"
  ast := assigned

/-- The assignment as the body of a loop, which has no kind of its own. -/
def loop : SourceFile where
  path := "loop"
  text := "foreach ($xs as $x) \x7b $y = 10 * 3; \x7d"
  ast := {
    kind := .module
    children := [{
      kind := .other
      children := [.leaf (.variableRef "$xs"), { kind := .block, children := [assigned] }]
      span := some ⟨0, 36, 1, 1⟩ }] }

def times : GenerationRules where
  registry := ⟨[.arithmetic .multiplication], []⟩

end Sample

/-- The mutant of a product at a path. -/
private theorem Sample.exists_quotient {f : SourceFile} {p : Path}
    (here : (p, product) ∈ f.ast.walk) :
    ∃ item ∈ times.generate f, ∃ m, item.mutant? = some m ∧ m.path = p ∧
      m.replacement = { product with kind := .binary .div } := by
  refine ⟨_, GenerationRules.mem_generate.mpr ⟨p, product, here, .arithmetic .multiplication,
    .head _, ?_, GenerationRules.mem_site.mpr ⟨0, .ok _, rfl, rfl⟩⟩, _,
    Generated.mutant?_label _ _ _, rfl, rfl⟩
  decide +kernel

theorem sample_reprint_ne_iff_shows :
    ∃ item ∈ Sample.times.generate Sample.plain, ∃ m, item.mutant? = some m ∧
      patchSource {} Sample.plain m.path m.replacement = .ok "$y = 10 / 3;" ∧
      PrintStyle.printWith {} Sample.plain.text Sample.plain.ast ≠ .ok "$y = 10 / 3;" := by
  obtain ⟨item, generated, m, hm, place, change⟩ :=
    Sample.exists_quotient (f := Sample.plain) (p := [0, 1]) (by decide +kernel)
  have here : Sample.plain.ast.get? m.path = some Sample.product := by
    rw [place]
    rfl
  have patched : patchSource {} Sample.plain m.path m.replacement = .ok "$y = 10 / 3;" := by
    rw [place, change]
    decide +kernel
  have shows : Sample.plain.ast.shows m.path = true := by
    rw [place]
    rfl
  exact ⟨item, generated, m, hm, patched,
    (reprint_ne_iff_shows generated hm here rfl patched).mpr shows⟩

/-- The mutant of the loop is the loop. -/
theorem reprint_loses_mutant_in_opaque_node :
    ∃ item ∈ Sample.times.generate Sample.loop, ∃ m, item.mutant? = some m ∧
      (∃ n, Sample.loop.ast.get? m.path = some n ∧ n.span = none) ∧
      patchSource {} Sample.loop m.path m.replacement = .ok Sample.loop.text ∧
      PrintStyle.printWith {} Sample.loop.text Sample.loop.ast = .ok Sample.loop.text := by
  obtain ⟨item, generated, m, hm, place, change⟩ :=
    Sample.exists_quotient (f := Sample.loop) (p := [0, 1, 0, 0, 1]) (by decide +kernel)
  refine ⟨item, generated, m, hm, ⟨Sample.product, ?_, rfl⟩, ?_, ?_⟩
  · rw [place]
    rfl
  · rw [place, change]
    decide +kernel
  · decide +kernel

end MutationTesting
