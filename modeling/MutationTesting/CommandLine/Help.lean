import MutationTesting.CommandLine.Arguments

/-! What the program says about itself. -/
namespace MutationTesting.CommandLine

def versionText : String := "infest 0.1.0"

def Verb.summary : Verb → String
  | run => "Generate mutants, run the tests against each and report the score"
  | init => "Write the default configuration to the config path"
  | list => "Print the mutants that would be run, without running anything"

namespace Switch

def usage (s : Switch) : String :=
  let letter := match s.letter? with
    | some c => "-" ++ String.ofList [c] ++ ", "
    | none => "    "
  let value := if s.takesMany then " <" ++ s.word.toUpper ++ ">..."
    else if s.takesValue then " <" ++ s.word.toUpper ++ ">" else ""
  letter ++ "--" ++ s.word ++ value

def summary : Switch → String
  | ast => "Parsed source file(s) as JSON"
  | coverage => "Line coverage JSON"
  | json => "Write the full report as JSON to this file"
  | force => "Overwrite an existing file"
  | config => "Path to configuration file"
  | help => "Print help"
  | version => "Print version"

end Switch

/-- Pairs side by side, the second ones in a column of their own. -/
def columns (rows : List (String × String)) : List String :=
  let width := (rows.map fun r => r.1.length).foldl max 0
  rows.map fun r =>
    "  " ++ r.1 ++ String.ofList (List.replicate (width + 2 - r.1.length) ' ') ++ r.2

def helpLines (topic : Option Verb) : List String :=
  let options := "Options:" ::
    columns ((Switch.choices topic).map fun s => (s.usage, s.summary))
  match topic with
  | none =>
    ["Mutation testing for parsed source trees", "", "Usage: infest [OPTIONS] <COMMAND>", "",
      "Commands:"]
      ++ columns ((Verb.all.map fun v => (v.word, v.summary)) ++
        [("help", "Print this message or the help of the given command")])
      ++ "" :: options
  | some verb => [verb.summary, "", "Usage: infest " ++ verb.word ++ " [OPTIONS]", ""] ++ options

end MutationTesting.CommandLine
