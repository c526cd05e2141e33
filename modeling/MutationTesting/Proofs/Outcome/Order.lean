import MutationTesting.Outcome.Report
import MutationTesting.Proofs.Precedence

/-! The order of the results of a report is good for sorting, and ties are between results of the
same identifier only. -/
namespace MutationTesting

namespace Location

private theorem Part.precedence : Precedence Part.less := by
  have h : Part.less = thenBy (fun a b => decide (a.rank < b.rank))
      (fun a b => decide (a.text < b.text)) := by
    funext a b
    unfold Part.less thenBy
    by_cases hr : a.rank < b.rank
    · simp [hr]
    · by_cases he : a.rank = b.rank
      · simp [he]
      · have hb : b.rank < a.rank := by omega
        simp [hr, he, hb]
  rw [h]
  exact (precedence_lt.on Part.rank).thenBy (precedence_lt.on Part.text)

private theorem precedence_lessParts : Precedence lessParts where
  asymm {as bs} h := by
    induction as generalizing bs with
    | nil => cases bs <;> rfl
    | cons a as ih =>
      cases bs with
      | nil => cases h
      | cons b bs => exact Part.precedence.asymm_step ih h
  between {as cs} bs h := by
    induction as generalizing bs cs with
    | nil =>
      cases cs with
      | nil => cases h
      | cons c cs => cases bs <;> simp [lessParts]
    | cons a as ih =>
      cases cs with
      | nil => cases h
      | cons c cs =>
        cases bs with
        | nil => exact .inr rfl
        | cons b bs => exact Part.precedence.between_step (ih bs) h

private theorem precedence_before : Precedence before := precedence_lessParts.on parts

end Location

namespace MutantRecord

private theorem precedence_lineBefore : Precedence lineBefore where
  asymm {a b} h := by
    cases a with
    | none => cases b <;> simp_all [lineBefore]
    | some a =>
      cases b with
      | none => cases h
      | some b => exact precedence_lt.asymm h
  between {a c} b h := by
    cases c with
    | none => cases a <;> cases h
    | some c =>
      cases b with
      | none => exact .inr rfl
      | some b =>
        cases a with
        | none => exact .inl rfl
        | some a => exact precedence_lt.between b h

theorem comesBefore_eq_thenBy :
    comesBefore = thenBy (fun a b => Location.before a.file b.file)
      (thenBy (fun a b => lineBefore a.line b.line) fun a b => decide (a.id < b.id)) := by
  funext a b
  dsimp only [comesBefore, thenBy]
  cases Location.before a.file b.file <;> cases Location.before b.file a.file <;>
    cases lineBefore a.line b.line <;> cases lineBefore b.line a.line <;> simp

theorem precedence_comesBefore : Precedence comesBefore := by
  rw [comesBefore_eq_thenBy]
  exact (Location.precedence_before.on file).thenBy
    ((precedence_lineBefore.on line).thenBy (precedence_lt.on id))

end MutantRecord

namespace Report

end Report

namespace Tally

theorem add_right_comm (t : Tally) (a b : OutcomeKind) : (t.add a).add b = (t.add b).add a := by
  cases a <;> cases b <;> rfl

theorem ofKinds_eq_of_perm {xs ys : List OutcomeKind} (h : xs.Perm ys) : ofKinds xs = ofKinds ys :=
  h.foldl_eq' (fun a _ b _ t => add_right_comm t a b) _

end Tally

theorem Score.ofResults_eq_of_perm {xs ys : List MutantResult} (h : xs.Perm ys)
    (p : ScoringPolicy) : Score.ofResults xs p = Score.ofResults ys p := by
  rw [ofResults, ofResults, ofKinds, ofKinds, Tally.ofKinds_eq_of_perm (h.map MutantResult.kind)]

end MutationTesting
