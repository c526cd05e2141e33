import MutationTesting.Source.File

/-! The text of a source file with one node replaced. -/
namespace MutationTesting

/-- The parts of the text around a span that holds at least one character. -/
def usableCut? (text : String) (span : Option Span) : Option Text.Cut :=
  match span with
  | some s => if s.start < s.stop then Text.cut? text s.start s.stop else none
  | none => none

/-- The printed replacement in place of the text under the node's span. Where the node has no
usable span the whole tree is printed again. -/
def patchSource (style : PrintStyle) (source : SourceFile) (path : Path) (replacement : Node) :
    Except ShapeError String := do
  let target ← source.ast.locate path
  match usableCut? source.text target.span with
  | some cut => return cut.before ++ (← style.printWith source.text replacement) ++ cut.after
  | none => style.printWith source.text (← source.ast.withReplaced path replacement)

end MutationTesting
