import MutationTesting.Mutant.Generation
import MutationTesting.Outcome.Report

/-! What is printed for the reader of a run or a listing, line by line. -/
namespace MutationTesting

def Generated.remark : Generated → String
  | notCovered _ => " [not covered]"
  | skipped _ => " [ignored]"
  | _ => ""

/-- The lines of one item: what is replaced, if it has a place in the text, and by what. -/
def Generated.lines (style : PrintStyle) (source : SourceFile) (item : Generated) : List String :=
  match item with
  | fault d =>
    ["! " ++ d.operator ++ " at " ++ d.file ++ " (" ++ d.path.text ++ "): " ++ d.message]
  | mutant m | notCovered m | skipped m =>
    let replacement := match style.printWith source.text m.replacement with
      | .ok text => text
      | .error e => "<" ++ e.message ++ ">"
    [m.id ++ " " ++ m.describe ++ item.remark]
      ++ ((source.snippet? m.path).map fun text => "    - " ++ text).toList
      ++ ["    + " ++ replacement]

namespace GenerationRules

def entries (rules : GenerationRules) (style : PrintStyle) (sources : List SourceFile) :
    List (List String) :=
  sources.flatMap fun source => (rules.generate source).map fun item => item.lines style source

def listing (rules : GenerationRules) (style : PrintStyle) (sources : List SourceFile) :
    List String :=
  let mutants := (sources.flatMap rules.generate).filterMap Generated.mutant?
  (rules.entries style sources).flatten ++ [toString mutants.length ++ " mutant(s)"]

end GenerationRules

namespace Report

def percentText (share : Binary64) : String := (Score.percent share).fixedText 2 ++ "%"

/-- Kinds of outcomes whose mutants are not named one by one. -/
def isUnremarkable (kind : OutcomeKind) : Bool := kind == .killed || kind == .skipped

def resultLine (r : MutantResult) : String :=
  "  " ++ r.mutant.id ++ " " ++ r.mutant.describe ++ ": " ++ r.mutant.replacement

def groupLines (g : OutcomeKind × List MutantResult) : List String :=
  (g.1.word ++ " (" ++ toString g.2.length ++ "):") :: g.2.map resultLine

def countsLine (t : Tally) : String :=
  toString t.total ++ " mutants: " ++ toString t.killed ++ " killed, " ++ toString t.escaped
    ++ " escaped, " ++ toString t.errored ++ " errored, " ++ toString t.timedOut ++ " timed out, "
    ++ toString t.notCovered ++ " not covered, " ++ toString t.skipped ++ " skipped"

def scoreLines (s : Score) : List String := [
  "Mutation Score Indicator (MSI): " ++ percentText s.msi,
  "Mutation Code Coverage: " ++ percentText s.codeCoverage,
  "Covered Code MSI: " ++ percentText s.coveredMsi]

/-- The mutants that need attention, then the counts and the score, then what limits them. -/
def lines (r : Report) : List String :=
  (r.categorized.filter fun g => !isUnremarkable g.1).flatMap groupLines
    ++ "" :: countsLine r.score.tally :: scoreLines r.score
    ++ (if r.diagnostics.isEmpty then []
      else [toString r.diagnostics.length ++ " operator fault(s) during generation"])
    ++ (if r.isPartial then ["Run was cancelled; scores cover completed mutants only"] else [])

end Report
end MutationTesting
