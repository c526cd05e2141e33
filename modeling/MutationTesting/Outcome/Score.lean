import MutationTesting.Outcome.Basic
import MutationTesting.Config.Settings
import MutationTesting.Number.Decimal

/-! The mutation score of a run.

Counts are kept exactly; a ratio is formed from two counts in double precision, and nothing over
nothing is zero. Thresholds are in percent. -/
namespace MutationTesting

/-- Which outcomes count as detected, and whether uncovered mutants count at all. -/
structure ScoringPolicy where
  timedOutDetected : Bool
  erroredDetected : Bool
  includeNotCovered : Bool
deriving DecidableEq

def ScoringSettings.policy (s : ScoringSettings) : ScoringPolicy :=
  ⟨s.timedOutDetected, s.erroredDetected, s.includeNotCovered⟩

/-- How many mutants there are, in all and of each kind. -/
structure Tally where
  total : Nat := 0
  killed : Nat := 0
  escaped : Nat := 0
  errored : Nat := 0
  timedOut : Nat := 0
  notCovered : Nat := 0
  skipped : Nat := 0
deriving DecidableEq, Inhabited

namespace Tally

def add (t : Tally) (kind : OutcomeKind) : Tally :=
  let t := { t with total := t.total + 1 }
  match kind with
  | .killed => { t with killed := t.killed + 1 }
  | .escaped => { t with escaped := t.escaped + 1 }
  | .errored => { t with errored := t.errored + 1 }
  | .timedOut => { t with timedOut := t.timedOut + 1 }
  | .notCovered => { t with notCovered := t.notCovered + 1 }
  | .skipped => { t with skipped := t.skipped + 1 }

def ofKinds (kinds : List OutcomeKind) : Tally := kinds.foldl add {}

def count (t : Tally) : OutcomeKind → Nat
  | .killed => t.killed
  | .escaped => t.escaped
  | .errored => t.errored
  | .timedOut => t.timedOut
  | .notCovered => t.notCovered
  | .skipped => t.skipped

/-- Mutants that the tests were run against. -/
def executed (t : Tally) : Nat := t.killed + t.escaped + t.errored + t.timedOut

def detected (t : Tally) (p : ScoringPolicy) : Nat :=
  t.killed + (if p.timedOutDetected then t.timedOut else 0)
    + (if p.erroredDetected then t.errored else 0)

/-- Mutants that some test covers, or that were never tried for want of one. -/
def coverable (t : Tally) : Nat := t.executed + t.notCovered

/-- Mutants that count for the score. -/
def actionable (t : Tally) (p : ScoringPolicy) : Nat :=
  if p.includeNotCovered then t.coverable else t.executed

end Tally

/-- A quotient of counts; a zero denominator gives zero. -/
def ratio (num den : Nat) : Binary64 :=
  if den = 0 then .zero else (Binary64.ofNat num).div (Binary64.ofNat den)

structure Score where
  tally : Tally
  /-- Share of detected mutants among those that count. -/
  msi : Binary64
  /-- Share of detected mutants among those that were tried. -/
  coveredMsi : Binary64
  /-- Share of mutants that some test covers. -/
  codeCoverage : Binary64
deriving DecidableEq

inductive ThresholdError where
  | msi (required actual : Binary64)
  | coveredMsi (required actual : Binary64)
deriving DecidableEq

def ThresholdError.message : ThresholdError → String
  | msi required actual =>
    "MSI " ++ actual.fixedText 2 ++ "% is below the required " ++ required.fixedText 2 ++ "%"
  | coveredMsi required actual =>
    "covered MSI " ++ actual.fixedText 2 ++ "% is below the required " ++ required.fixedText 2
      ++ "%"

namespace Score

def ofTally (t : Tally) (p : ScoringPolicy) : Score where
  tally := t
  msi := ratio (t.detected p) (t.actionable p)
  coveredMsi := ratio (t.detected p) t.executed
  codeCoverage := ratio t.executed t.coverable

def ofKinds (kinds : List OutcomeKind) (p : ScoringPolicy) : Score := ofTally (.ofKinds kinds) p

def ofResults (results : List MutantResult) (p : ScoringPolicy) : Score :=
  ofKinds (results.map MutantResult.kind) p

def percent (share : Binary64) : Binary64 := share.mul (.ofNat 100)

/-- The first minimum that is missed. A run without mutants may be let pass. -/
def check (s : Score) (settings : ScoringSettings) : Except ThresholdError Unit :=
  if s.tally.total = 0 ∧ settings.ignoreMsiWithNoMutations then .ok ()
  else do
    match settings.minMsi with
    | some required =>
      if (percent s.msi).less required then throw (.msi required (percent s.msi))
    | none => pure ()
    match settings.minCoveredMsi with
    | some required =>
      if (percent s.coveredMsi).less required then
        throw (.coveredMsi required (percent s.coveredMsi))
    | none => pure ()

def toJson (s : Score) : Json :=
  .obj [("total", .ofNat s.tally.total), ("killed", .ofNat s.tally.killed),
    ("escaped", .ofNat s.tally.escaped), ("errored", .ofNat s.tally.errored),
    ("timed_out", .ofNat s.tally.timedOut), ("not_covered", .ofNat s.tally.notCovered),
    ("skipped", .ofNat s.tally.skipped), ("msi", .real s.msi), ("covered_msi", .real s.coveredMsi),
    ("mutation_code_coverage", .real s.codeCoverage)]

end Score
end MutationTesting
