import MutationTesting.Execution.Patch
import MutationTesting.Proofs.Mutant.Origin
import MutationTesting.Proofs.Operator.Text
import MutationTesting.Proofs.Text.Bytes
import MutationTesting.Proofs.Tree.Walk

/-! Where all nodes of a file print, its stream has no faults and all of its mutants can be put into
the text of the file. -/
namespace MutationTesting

open PrintStyle

namespace GenerationRules

variable {rules : GenerationRules} {style : PrintStyle} {f : SourceFile} {item : Generated}

private theorem exists_mutant
    (printable : ∀ v ∈ f.ast.walk, ∃ t, style.printWith f.text v.2 = .ok t)
    (h : item ∈ rules.generate f) : ∃ m, item.mutant? = some m := by
  obtain ⟨path, n, visited, o, -, applies, here⟩ := mem_generate.mp h
  obtain ⟨ordinal, proposal, proposed, rfl⟩ := mem_site.mp here
  obtain ⟨t, printed⟩ := printable (path, n) visited
  obtain ⟨r, rfl⟩ := Operator.exists_of_proposed applies printed (List.mem_of_getElem? proposed)
  exact ⟨_, Generated.mutant?_label ..⟩

end GenerationRules

private theorem exists_patch {style : PrintStyle} {f : SourceFile} {p : Path} {n r : Node}
    (whole : ∃ t, style.printWith f.text f.ast = .ok t) (here : f.ast.get? p = some n)
    (like : ∀ depth, TextLike style (some f.text) depth n r)
    (alone : ∃ u, style.printWith f.text r = .ok u) :
    ∃ t, patchSource style f p r = .ok t := by
  rw [patchSource, Node.locate_eq_ok.mpr here, ok_bind]
  split
  · obtain ⟨u, printed⟩ := alone
    rw [printed]
    exact ⟨_, rfl⟩
  · obtain ⟨tree, replaced⟩ := Node.exists_set?_of_get? here r
    rw [Node.withReplaced_eq_ok.mpr replaced, ok_bind]
    exact Node.Prints.replace whole here (fun depth => (like depth).prints) replaced

private theorem patchSource_span {style : PrintStyle} {f : SourceFile} {p : Path} {n r : Node}
    {span : Span} {before inside after u : String} (here : f.ast.get? p = some n)
    (spanned : n.span = some span) (text : f.text = before ++ inside ++ after)
    (some_ : inside ≠ "") (start : span.start = Text.byteSize before.toList)
    (stop : span.stop = span.start + Text.byteSize inside.toList)
    (printed : style.printWith f.text r = .ok u) :
    patchSource style f p r = .ok (before ++ u ++ after) := by
  have positive := Text.byteSize_pos some_
  have cut : Text.cut? f.text span.start span.stop = some ⟨before, inside, after⟩ := by
    rw [text, stop, start, Text.cut?_append]
  rw [patchSource, Node.locate_eq_ok.mpr here, ok_bind, spanned, usableCut?, if_pos (by omega), cut]
  dsimp only
  rw [printed]
  rfl

/-- Where every node of a file prints, the operators of a registry find no fault with it, every
replacement prints, and every mutant can be patched in. Where the span of the target bounds a piece
of the text, just that piece is exchanged for the replacement as the record of the mutant shows
it. -/
theorem mutants_patchable {rules : GenerationRules} {style : PrintStyle} {f : SourceFile}
    (printable : ∀ v ∈ f.ast.walk, ∃ t, style.printWith f.text v.2 = .ok t) :
    ∀ item ∈ rules.generate f, ∃ m, item.mutant? = some m ∧
      (∃ u, style.printWith f.text m.replacement = .ok u) ∧
      (∃ t, patchSource style f m.path m.replacement = .ok t) ∧
      ∀ n span before inside after, f.ast.get? m.path = some n → n.span = some span →
        f.text = before ++ inside ++ after → inside ≠ "" →
        span.start = Text.byteSize before.toList →
        span.stop = span.start + Text.byteSize inside.toList →
        patchSource style f m.path m.replacement =
          .ok (before ++ (m.record style f.text).replacement ++ after) := by
  intro item generated
  obtain ⟨m, hm⟩ := GenerationRules.exists_mutant printable generated
  obtain ⟨n, visited, here, o, proposed⟩ := GenerationRules.mutant_target generated hm
  have like (depth : Nat) : TextLike style (some f.text) depth n m.replacement :=
    o.textLike_of_proposed proposed
  obtain ⟨u, printed⟩ : ∃ u, style.printWith f.text m.replacement = .ok u :=
    (like 0).prints (printable (m.path, n) visited)
  refine ⟨m, hm, ⟨u, printed⟩, ?_, ?_⟩
  · exact exists_patch (printable ([], f.ast) f.ast.root_mem_walk) here like ⟨u, printed⟩
  · intro n' span before inside after here' spanned text some_ start stop
    have shown : (m.record style f.text).replacement = u := by
      simp only [Mutant.record, replacementText, printed]
    rw [shown]
    exact patchSource_span here' spanned text some_ start stop printed

namespace Sample

def markedSum : Node where
  kind := .binary .plus
  children := [.leaf (.variableRef "$a"), .leaf (.variableRef "$b")]
  span := some ⟨7, 14, 1, 1⟩

def marked : SourceFile where
  path := "marked"
  text := "return $a + $b;"
  ast := { kind := .returnStmt, children := [markedSum] }

def plusOnly : GenerationRules where
  registry := ⟨[.arithmetic .plus], []⟩

end Sample

theorem sample_mutants_patchable :
    ∃ item ∈ Sample.plusOnly.generate Sample.marked, ∃ m, item.mutant? = some m ∧
      patchSource {} Sample.marked m.path m.replacement =
        .ok ("return " ++ (m.record {} Sample.marked.text).replacement ++ ";") ∧
      (m.record {} Sample.marked.text).replacement = "$a - $b" := by
  have printable : ∀ v ∈ Sample.marked.ast.walk,
      ∃ t, PrintStyle.printWith {} Sample.marked.text v.2 = .ok t := by
    have walked : Sample.marked.ast.walk =
        [([], Sample.marked.ast), ([0], Sample.markedSum), ([0, 0], .leaf (.variableRef "$a")),
          ([0, 1], .leaf (.variableRef "$b"))] := by
      decide +kernel
    rw [walked]
    simp only [List.forall_mem_cons, List.not_mem_nil, false_implies, implies_true, and_true]
    refine ⟨⟨"return $a + $b;", ?_⟩, ⟨"$a + $b", ?_⟩, ⟨"$a", ?_⟩, ⟨"$b", ?_⟩⟩ <;> decide +kernel
  obtain ⟨item, m, generated, hm, place, change⟩ : ∃ item m,
      item ∈ Sample.plusOnly.generate Sample.marked ∧ item.mutant? = some m ∧ m.path = [0] ∧
        m.replacement = { Sample.markedSum with kind := .binary .minus } :=
    ⟨_, _, List.mem_of_getElem? (i := 0) rfl, rfl, rfl, rfl⟩
  obtain ⟨m', hm', -, -, spliced⟩ := mutants_patchable printable item generated
  obtain rfl := Option.some.inj (hm.symm.trans hm')
  have here : Sample.marked.ast.get? m.path = some Sample.markedSum := by
    rw [place]
    rfl
  refine ⟨item, generated, m, hm, ?_, ?_⟩
  · refine spliced _ ⟨7, 14, 1, 1⟩ "return " "$a + $b" ";" here rfl rfl ?_ ?_ ?_ <;> decide
  · change replacementText {} Sample.marked.text m.replacement = "$a - $b"
    rw [change]
    decide +kernel

end MutationTesting
