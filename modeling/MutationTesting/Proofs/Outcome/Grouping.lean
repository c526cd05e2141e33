import Mathlib.Data.List.Lex
import Mathlib.Data.List.Nodup
import Mathlib.Data.Prod.Lex
import Mathlib.Data.String.Basic
import Mathlib.Order.WithBot
import MutationTesting.Proofs.Outcome.Tally

/-! A report has every result once, in the order of file, line and identifier, and in the group of
its kind. -/
namespace MutationTesting

/-- What comparisons by several keys ask of the first key is whether it is the same. -/
private theorem lt_or_not_gt_and_iff {α : Type} [LinearOrder α] {a b : α} {p : Prop} :
    a < b ∨ ¬ b < a ∧ p ↔ a < b ∨ a = b ∧ p := by
  rcases lt_trichotomy a b with lt | same | gt
  · simp [lt]
  · simp [same]
  · simp [gt, gt.ne', gt.asymm]

namespace Location

/-- Where a part stands in the order: by its kind, then by its text. -/
def Part.key (p : Part) : Nat ×ₗ String := toLex (p.rank, p.text)

def key (l : Location) : List (Nat ×ₗ String) := l.parts.map Part.key

private theorem Part.key_injective : Function.Injective Part.key := by
  intro a b h
  have h := toLex.injective h
  rw [Prod.mk.injEq] at h
  cases a <;> cases b <;> simp_all [rank, text]

private theorem Part.less_iff_key_lt {a b : Part} : a.less b = true ↔ a.key < b.key := by
  rw [key, key, Prod.Lex.toLex_lt_toLex]
  simp [less]

private theorem lessParts_iff_map_key_lt {as bs : List Part} :
    lessParts as bs = true ↔ as.map Part.key < bs.map Part.key := by
  induction as generalizing bs with
  | nil => cases bs <;> simp [lessParts]
  | cons a as ih =>
    cases bs with
    | nil => simp [lessParts]
    | cons b bs =>
      rw [List.map_cons, List.map_cons, List.cons_lt_cons_iff, ← ih]
      simp only [lessParts, Bool.or_eq_true, Bool.and_eq_true, Bool.not_eq_true',
        Part.less_iff_key_lt, ← Bool.not_eq_true]
      exact lt_or_not_gt_and_iff

private theorem before_iff_key_lt {a b : Location} : before a b = true ↔ key a < key b :=
  lessParts_iff_map_key_lt

end Location

namespace MutantRecord

def lineKey : Option Nat → WithBot Nat
  | none => ⊥
  | some n => .some n

/-- Where a record stands in the order: by its file, then its line, then its identifier. -/
def key (r : MutantRecord) : List (Nat ×ₗ String) ×ₗ WithBot Nat ×ₗ String :=
  toLex (Location.key r.file, toLex (lineKey r.line, r.id))

private theorem lineKey_injective : Function.Injective lineKey := by
  intro a b h
  cases a <;> cases b <;> simp_all [lineKey]

private theorem lineBefore_iff_lineKey_lt {a b : Option Nat} :
    lineBefore a b = true ↔ lineKey a < lineKey b := by
  cases a <;> cases b <;> simp [lineBefore, lineKey]

/-- Records have one key if file, line and identifier are the same. -/
private theorem key_eq_iff {a b : MutantRecord} :
    a.key = b.key ↔ a.file.sameAs b.file = true ∧ a.line = b.line ∧ a.id = b.id := by
  rw [key, key, toLex_inj, Prod.mk.injEq, toLex_inj, Prod.mk.injEq, lineKey_injective.eq_iff,
    Location.key, Location.key, (List.map_injective_iff.mpr Location.Part.key_injective).eq_iff,
    Location.sameAs, decide_eq_true_eq]

private theorem comesBefore_iff_key_lt {a b : MutantRecord} :
    a.comesBefore b = true ↔ a.key < b.key := by
  rw [key, key, Prod.Lex.toLex_lt_toLex, Prod.Lex.toLex_lt_toLex, comesBefore_eq_thenBy]
  simp only [thenBy, Bool.or_eq_true, Bool.and_eq_true, Bool.not_eq_true', decide_eq_true_eq,
    ← Bool.not_eq_true, Location.before_iff_key_lt, lineBefore_iff_lineKey_lt,
    lt_or_not_gt_and_iff]

private theorem not_comesBefore_iff_key_le {a b : MutantRecord} :
    (!b.comesBefore a) = true ↔ a.key ≤ b.key := by
  rw [Bool.not_eq_true', ← Bool.not_eq_true, comesBefore_iff_key_lt, not_lt]

end MutantRecord

namespace Report

variable {results others : List MutantResult}

/-- The results of a report are those of a list, in the order of their keys, and those of one key
as they stood in the list. -/
structure IsArranged (results : List MutantResult) (r : Report) : Prop where
  kept : r.results.Perm results
  ordered : r.results.Pairwise fun a b => a.mutant.key ≤ b.mutant.key
  stable k : r.results.filter (fun x => x.mutant.key = k) =
    results.filter fun x => x.mutant.key = k

/-- The groups of a report are those of the kinds that occur, in the report's order of kinds; each
has the results of its kind, as many as the score counts, and no result is outside of all groups. -/
structure IsGrouped (r : Report) : Prop where
  kinds : r.categorized.map Prod.fst =
    OutcomeKind.reportOrder.filter fun k => 0 < r.score.tally.count k
  members : ∀ g ∈ r.categorized, g.2 ≠ [] ∧ g.2 = r.results.filter fun x => x.kind = g.1
  counted : ∀ g ∈ r.categorized, g.2.length = r.score.tally.count g.1
  complete : (r.categorized.flatMap Prod.snd).Perm r.results

private theorem sorted_perm (results : List MutantResult) : (sorted results).Perm results :=
  List.mergeSort_perm results _

private theorem pairwise_sorted (results : List MutantResult) :
    (sorted results).Pairwise fun a b => a.mutant.key ≤ b.mutant.key :=
  ((MutantRecord.precedence_comesBefore.on MutantResult.mutant).pairwise_mergeSort results).imp
    MutantRecord.not_comesBefore_iff_key_le.mp

/-- Results of one key stand in the order in which they came in. -/
private theorem filter_key_sorted (results : List MutantResult)
    (k : List (Nat ×ₗ String) ×ₗ WithBot Nat ×ₗ String) :
    (sorted results).filter (fun x => x.mutant.key = k) =
      results.filter fun x => x.mutant.key = k := by
  have order := MutantRecord.precedence_comesBefore.on MutantResult.mutant
  have tied : (results.filter fun x => x.mutant.key = k).Pairwise
      fun a b => (!b.mutant.comesBefore a.mutant) = true := by
    apply List.pairwise_of_forall_mem_list
    intro a ha b hb
    have ka := of_decide_eq_true (List.mem_filter.mp ha).2
    have kb := of_decide_eq_true (List.mem_filter.mp hb).2
    exact MutantRecord.not_comesBefore_iff_key_le.mpr (ka.trans kb.symm).le
  -- Sorting moves nothing past what it is tied with, and neither loses nor adds a result.
  have within : (results.filter fun x => x.mutant.key = k).Sublist (sorted results) :=
    List.sublist_mergeSort order.le_trans order.le_total tied List.filter_sublist
  have within := within.filter fun x => decide (x.mutant.key = k)
  simp only [List.filter_filter, Bool.and_self] at within
  have length := ((sorted_perm results).filter fun x => x.mutant.key = k).length_eq
  exact (within.eq_of_length length.symm).symm

private theorem isArranged_ofResults (results : List MutantResult) (diagnostics : List Diagnostic)
    (isPartial : Bool) (p : ScoringPolicy) :
    (ofResults results diagnostics isPartial p).IsArranged results where
  kept := sorted_perm results
  ordered := pairwise_sorted results
  stable := filter_key_sorted results

/-- Where no two results have one key, the order in which they came in is forgotten. -/
theorem ofResults_eq_of_perm (h : results.Perm others)
    (apart : (results.map fun x => x.mutant.key).Nodup) (diagnostics : List Diagnostic)
    (isPartial : Bool) (p : ScoringPolicy) :
    ofResults results diagnostics isPartial p = ofResults others diagnostics isPartial p := by
  have same : sorted results = sorted others := by
    apply (MutantRecord.precedence_comesBefore.on MutantResult.mutant).mergeSort_eq_of_perm h
    intro a ha b hb ab ba
    apply List.inj_on_of_nodup_map apart ha hb
    apply le_antisymm
    · exact MutantRecord.not_comesBefore_iff_key_le.mp (by rw [ba, Bool.not_false])
    · exact MutantRecord.not_comesBefore_iff_key_le.mp (by rw [ab, Bool.not_false])
  rw [ofResults, ofResults, same, Score.ofResults_eq_of_perm h]

/-- The groups of some kinds together have what is of one of these kinds. -/
private theorem flatMap_withKind_perm (r : Report) {kinds : List OutcomeKind} (once : kinds.Nodup) :
    (kinds.flatMap r.withKind).Perm (r.results.filter fun x => x.kind ∈ kinds) := by
  induction kinds with
  | nil => simp
  | cons k kinds ih =>
    rw [List.nodup_cons] at once
    have here : (r.results.filter fun x => x.kind ∈ k :: kinds).filter (fun x => x.kind == k) =
        r.withKind k := by
      rw [List.filter_filter, withKind]
      apply List.filter_congr
      intro x _
      by_cases h : x.kind = k <;> simp [h]
    have others : (r.results.filter fun x => x.kind ∈ k :: kinds).filter
        (fun x => !(x.kind == k)) = r.results.filter fun x => x.kind ∈ kinds := by
      rw [List.filter_filter]
      apply List.filter_congr
      intro x _
      by_cases h : x.kind = k
      · simp [h, once.1]
      · simp [h]
    have split := List.filter_append_perm (fun x : MutantResult => x.kind == k)
      (r.results.filter fun x => x.kind ∈ k :: kinds)
    rw [here, others] at split
    rw [List.flatMap_cons]
    exact ((ih once.2).append_left _).trans split

/-- The group of a kind has as many results as the score counts of the kind. -/
private theorem length_withKind_ofResults (results : List MutantResult)
    (diagnostics : List Diagnostic) (isPartial : Bool) (p : ScoringPolicy) (k : OutcomeKind) :
    ((ofResults results diagnostics isPartial p).withKind k).length =
      (ofResults results diagnostics isPartial p).score.tally.count k := by
  have kept := (isArranged_ofResults results diagnostics isPartial p).kept
  have counted : (ofResults results diagnostics isPartial p).score.tally.count k =
      (results.map MutantResult.kind).count k := Tally.count_ofKinds _ k
  rw [counted, ← (kept.map MutantResult.kind).count_eq, List.count_eq_length_filter,
    List.filter_map, List.length_map]
  rfl

/-- The groups are those of the kinds that have a result. -/
private theorem categorized_eq (r : Report) :
    r.categorized = (OutcomeKind.reportOrder.filter fun k => 0 < (r.withKind k).length).map
      fun k => (k, r.withKind k) := by
  rw [categorized, List.filter_map]
  congr 1
  apply List.filter_congr
  intro k _
  rw [Function.comp_apply, Bool.eq_iff_iff, Bool.not_eq_true', List.isEmpty_eq_false_iff,
    decide_eq_true_eq, List.length_pos_iff]

private theorem mem_categorized_iff {r : Report} {g : OutcomeKind × List MutantResult} :
    g ∈ r.categorized ↔ g.2 = r.withKind g.1 ∧ g.2 ≠ [] := by
  rw [categorized, List.mem_filter, List.mem_map, Bool.not_eq_true', List.isEmpty_eq_false_iff]
  constructor
  · rintro ⟨⟨k, _, rfl⟩, nonempty⟩
    exact ⟨rfl, nonempty⟩
  · rintro ⟨group, nonempty⟩
    exact ⟨⟨g.1, OutcomeKind.mem_reportOrder g.1, by rw [← group]⟩, nonempty⟩

private theorem flatMap_categorized_perm (r : Report) :
    (r.categorized.flatMap Prod.snd).Perm r.results := by
  rw [categorized_eq, List.flatMap_map]
  refine (r.flatMap_withKind_perm ((show OutcomeKind.reportOrder.Nodup by decide).filter _)).trans
    (.of_eq (List.filter_eq_self.mpr ?_))
  intro x hx
  have mem : x ∈ r.withKind x.kind := List.mem_filter.mpr ⟨hx, beq_self_eq_true _⟩
  simp [OutcomeKind.mem_reportOrder, List.length_pos_of_mem mem]

private theorem isGrouped_ofResults (results : List MutantResult) (diagnostics : List Diagnostic)
    (isPartial : Bool) (p : ScoringPolicy) :
    (ofResults results diagnostics isPartial p).IsGrouped where
  kinds := by
    simp only [categorized_eq, length_withKind_ofResults, List.map_map]
    exact List.map_id _
  members g hg := by
    obtain ⟨group, nonempty⟩ := mem_categorized_iff.mp hg
    refine ⟨nonempty, group.trans (List.filter_congr fun x _ => ?_)⟩
    rw [beq_eq_decide]
  counted g hg := by
    rw [(mem_categorized_iff.mp hg).1]
    exact length_withKind_ofResults results diagnostics isPartial p g.1
  complete := flatMap_categorized_perm _

/-- A report loses no result and shows none twice: it has those it is given, sorted and with ties
as they were, its groups divide them by kind as the score counts them, and where the keys are all
different it is the same for every order in which the results came in. -/
theorem ofResults_sorts_and_divides (results : List MutantResult) (diagnostics : List Diagnostic)
    (isPartial : Bool) (p : ScoringPolicy) :
    (ofResults results diagnostics isPartial p).IsArranged results ∧
      (ofResults results diagnostics isPartial p).IsGrouped ∧
      ∀ others, results.Perm others → (results.map fun x => x.mutant.key).Nodup →
        ofResults others diagnostics isPartial p = ofResults results diagnostics isPartial p := by
  refine ⟨isArranged_ofResults results diagnostics isPartial p,
    isGrouped_ofResults results diagnostics isPartial p, ?_⟩
  intro others h apart
  exact (ofResults_eq_of_perm h apart diagnostics isPartial p).symm

def killedOnLine : MutantResult where
  mutant := { (default : MutantRecord) with id := "m1", file := "src/calc.php", line := some 3 }
  outcome := { kind := .killed }

/-- The result of a mutant of the same file that has no line and escaped. -/
def escapedWithoutLine : MutantResult where
  mutant := { (default : MutantRecord) with id := "m2", file := "src/calc.php" }
  outcome := { kind := .escaped }

theorem sample_sorts_and_divides :
    ([killedOnLine, escapedWithoutLine].map fun x => x.mutant.key).Nodup ∧
      ofResults [escapedWithoutLine, killedOnLine] [] false ⟨true, false, false⟩ =
        ofResults [killedOnLine, escapedWithoutLine] [] false ⟨true, false, false⟩ := by
  have apart : ([killedOnLine, escapedWithoutLine].map fun x => x.mutant.key).Nodup := by
    simp [MutantRecord.key_eq_iff, killedOnLine, escapedWithoutLine]
  refine ⟨apart, ?_⟩
  exact (ofResults_sorts_and_divides [killedOnLine, escapedWithoutLine] [] false
    ⟨true, false, false⟩).2.2 _ (.swap _ _ _) apart

end Report
end MutationTesting
