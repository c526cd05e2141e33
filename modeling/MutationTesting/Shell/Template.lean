import MutationTesting.Shell.Quoting
import MutationTesting.Execution.Adapter
import MutationTesting.Text.Lines

/-! Templates of test commands. -/
namespace MutationTesting

namespace TestSelection

/-- The tests as words of a command; none for the whole suite. -/
def words : TestSelection → String
  | all => ""
  | only tests => " ".intercalate (tests.map Shell.quote)

/-- The tests in one value, separated by commas. -/
def listed : TestSelection → String
  | all => ""
  | only tests => ",".intercalate tests

end TestSelection

namespace Shell

/-- The command for a request. The artifact is filled in first, then the workspace, then the tests;
what was filled in before is searched as well. -/
def render (template : String) (r : TestRequest) : String :=
  let withArtifact := Text.replaceAll template "\x7bartifact\x7d" (quote r.artifact)
  let withWorkspace := Text.replaceAll withArtifact "\x7bworkspace\x7d" (quote r.workspace)
  Text.replaceAll withWorkspace "\x7btests\x7d" r.selection.words

def environment (r : TestRequest) : List (String × String) :=
  [("INFEST_ARTIFACT", r.artifact), ("INFEST_TESTS", r.selection.listed),
    ("INFEST_WORKSPACE", r.workspace)]

end Shell
end MutationTesting
