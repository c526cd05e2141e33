import Mathlib.Data.List.Forall2
import Mathlib.Data.List.Zip
import MutationTesting.Proofs.Tree.Change

/-! Two trees have one shape if they are equal once all spans and attributes are taken away.

Floating point literals count as numbers: the two zeros are one number, and what is not a number
equals nothing, not even itself. Among trees without such literals to have one shape is therefore an
equivalence, and it is the equality of the bare trees in which zero has no sign. -/
namespace MutationTesting

namespace Binary64

variable {x y : Binary64}

/-- The number itself, except that zero has no sign. -/
def unsignZero (x : Binary64) : Binary64 := if x.isZero then zero else x

private theorem eq_of_code_eq (sign : x.negative = y.negative) (code : x.code = y.code) :
    x = y := by
  obtain ⟨negative, exponent, fraction⟩ := x
  obtain ⟨negative', exponent', fraction'⟩ := y
  obtain rfl : negative = negative' := sign
  simp only [Binary64.code] at code
  have high : exponent = exponent' := Fin.ext (by omega)
  have low : fraction = fraction' := Fin.ext (by omega)
  rw [high, low]

private theorem orderKey_eq_zero_iff : x.orderKey = 0 ↔ x.code = 0 := by
  unfold orderKey
  split <;> omega

private theorem orderKey_unsignZero (x : Binary64) : x.unsignZero.orderKey = x.orderKey := by
  unfold unsignZero
  split
  · next vanishes =>
    have code : x.code = 0 := by simpa [isZero] using vanishes
    rw [orderKey_eq_zero_iff.mpr code]
    rfl
  · rfl

/-- The place in the order tells a number that is not zero. -/
private theorem eq_of_orderKey_eq (nonzero : x.code ≠ 0) (same : x.orderKey = y.orderKey) :
    x = y := by
  unfold orderKey at same
  apply eq_of_code_eq
  -- With different signs both numbers would have to be zero.
  · cases minus : x.negative <;> cases minus' : y.negative <;>
      simp only [minus, minus', Bool.false_eq_true, if_true, if_false] at same ⊢ <;> omega
  · split at same <;> split at same <;> omega

private theorem orderKey_eq_iff : x.orderKey = y.orderKey ↔ x.unsignZero = y.unsignZero := by
  constructor
  · intro same
    by_cases vanishes : x.code = 0
    · have vanishes' : y.code = 0 := by
        rw [← orderKey_eq_zero_iff, ← same, orderKey_eq_zero_iff, vanishes]
      simp only [unsignZero, isZero, vanishes, vanishes', beq_self_eq_true, if_true]
    · rw [eq_of_orderKey_eq vanishes same]
  · intro same
    rw [← orderKey_unsignZero x, same, orderKey_unsignZero]

/-- Numbers are equal if they are the same but for the sign of zero. -/
private theorem numEq_iff : x.numEq y = true ↔
    (x.isNaN = false ∧ y.isNaN = false) ∧ x.unsignZero = y.unsignZero := by
  rw [← orderKey_eq_iff]
  simp [numEq]

end Binary64

namespace Kind

/-- A floating point literal is a number. -/
def NoNaN (kind : Kind) : Prop := ∀ x, kind = .float x → x.isNaN = false

/-- The kind itself, except that a floating point zero has no sign. -/
def unsignZero : Kind → Kind
  | float x => float x.unsignZero
  | kind => kind

private theorem noNaN_float {x : Binary64} : (float x).NoNaN ↔ x.isNaN = false := by
  constructor
  · intro number
    exact number x rfl
  · rintro number y ⟨⟩
    exact number

section Other

variable {kind : Kind} (other : ∀ x, kind ≠ .float x)
include other

private theorem noNaN_of_other : kind.NoNaN := fun x same => absurd same (other x)

private theorem unsignZero_of_other : kind.unsignZero = kind := by
  unfold unsignZero
  split
  · exact absurd rfl (other _)
  · rfl

end Other

private theorem agrees_of_other {k k' : Kind} (other : ∀ x, k ≠ .float x) :
    k.agrees k' = decide (k = k') := by
  unfold agrees
  split
  · exact absurd rfl (other _)
  · rfl

/-- Kinds agree if no literal among them fails to be a number and they are the same but for the sign
of zero. -/
private theorem agrees_iff {k k' : Kind} :
    k.agrees k' = true ↔ (k.NoNaN ∧ k'.NoNaN) ∧ k.unsignZero = k'.unsignZero := by
  by_cases literal : ∃ x, k = .float x
  · obtain ⟨x, rfl⟩ := literal
    cases k' with
    | float y =>
      rw [noNaN_float, noNaN_float, unsignZero, unsignZero, Kind.float.injEq]
      exact Binary64.numEq_iff
    | _ => simp [agrees, unsignZero]
  · have other : ∀ x, k ≠ .float x := fun x same => literal ⟨x, same⟩
    rw [agrees_of_other other, unsignZero_of_other other, decide_eq_true_iff]
    constructor
    · rintro rfl
      exact ⟨⟨noNaN_of_other other, noNaN_of_other other⟩, (unsignZero_of_other other).symm⟩
    · rintro ⟨-, same⟩
      have other' : ∀ x, k' ≠ .float x := by
        rintro x rfl
        exact other _ same
      rw [same, unsignZero_of_other other']

end Kind

namespace Node

mutual

/-- The tree of the kinds alone, each of them changed by `f`. -/
def outline (f : Kind → Kind) : Node → Node
  | ⟨kind, cs, _, _⟩ => { kind := f kind, children := outlineAll f cs }

def outlineAll (f : Kind → Kind) : List Node → List Node
  | [] => []
  | c :: cs => outline f c :: outlineAll f cs

end

def bare (n : Node) : Node := n.outline id

/-- Every floating point literal of the tree is a number. -/
def NoNaN (n : Node) : Prop := n.Everywhere fun m => m.kind.NoNaN

variable {a b : Node} {f : Kind → Kind}

private theorem outlineAll_eq (f : Kind → Kind) (cs : List Node) :
    outlineAll f cs = cs.map (outline f) := by
  induction cs with
  | nil => rfl
  | cons c cs ih => rw [outlineAll, ih, List.map_cons]

private theorem outline_eq (f : Kind → Kind) (n : Node) :
    n.outline f = { kind := f n.kind, children := n.children.map (outline f) } := by
  cases n
  rw [outline, outlineAll_eq]

private theorem numericEqChildren_iff {as bs : List Node} : numericEqChildren as bs = true ↔
    as.length = bs.length ∧ ∀ x ∈ as.zip bs, x.1.numericEq x.2 = true := by
  induction as generalizing bs with
  | nil => cases bs <;> simp [numericEqChildren]
  | cons a as ih =>
    cases bs with
    | nil => simp [numericEqChildren]
    | cons b bs =>
      rw [numericEqChildren, Bool.and_eq_true, ih, List.zip_cons_cons, List.forall_mem_cons,
        List.length_cons, List.length_cons, Nat.succ_inj]
      exact and_left_comm

private theorem numericEq_iff : a.numericEq b = true ↔
    (a.kind.agrees b.kind = true ∧ a.span = b.span ∧ a.attributes = b.attributes) ∧
      a.children.length = b.children.length ∧
        ∀ x ∈ a.children.zip b.children, x.1.numericEq x.2 = true := by
  cases a
  cases b
  rw [numericEq, Bool.and_eq_true, numericEqChildren_iff]
  simp [and_assoc]

private theorem outline_eq_iff : a.outline f = b.outline f ↔ f a.kind = f b.kind ∧
    a.children.length = b.children.length ∧
      ∀ x ∈ a.children.zip b.children, x.1.outline f = x.2.outline f := by
  -- The pairs alone would say nothing of a child that has no counterpart.
  have children : a.children.map (outline f) = b.children.map (outline f) ↔
      a.children.length = b.children.length ∧
        ∀ x ∈ a.children.zip b.children, x.1.outline f = x.2.outline f := by
    rw [← List.forall₂_eq_eq_eq, List.forall₂_map_left_iff, List.forall₂_map_right_iff,
      List.forall₂_iff_zip, Prod.forall]
  rw [outline_eq, outline_eq, ← children]
  simp

/-- Two trees have one shape if they are equal without their spans and attributes. -/
private theorem sameShape_iff_numericEq_bare : (a b : Node) →
    (a.sameShape b = true ↔ a.bare.numericEq b.bare = true)
  | ⟨kind, cs, span, attributes⟩, b => by
    have below : ∀ x ∈ cs.zip b.children,
        (x.1.sameShape x.2 = true ↔ x.1.bare.numericEq x.2.bare = true) := by
      intro x member
      have inside := (List.of_mem_zip member).1
      exact sameShape_iff_numericEq_bare x.1 x.2
    rw [sameShape_iff, numericEq_iff, bare, bare, outline_eq, outline_eq]
    simp only [List.length_map, List.zip_map, List.forall_mem_map, and_assoc, and_self, true_and]
    exact and_congr_right' (and_congr_right' (forall₂_congr below))

/-- Two trees of numbers have one shape if they have the same outline once zero has no sign. -/
private theorem sameShape_iff_outline_eq : (a b : Node) → a.NoNaN → b.NoNaN →
    (a.sameShape b = true ↔ a.outline Kind.unsignZero = b.outline Kind.unsignZero)
  | ⟨kind, cs, span, attributes⟩, b, ha, hb => by
    obtain ⟨self, belowA⟩ := everywhere_iff.mp ha
    obtain ⟨self', belowB⟩ := everywhere_iff.mp hb
    have below : ∀ x ∈ cs.zip b.children, (x.1.sameShape x.2 = true ↔
        x.1.outline Kind.unsignZero = x.2.outline Kind.unsignZero) := by
      intro x member
      obtain ⟨inside, inside'⟩ := List.of_mem_zip member
      exact sameShape_iff_outline_eq x.1 x.2 (belowA _ inside) (belowB _ inside')
    have agree : kind.agrees b.kind = true ↔ kind.unsignZero = b.kind.unsignZero := by
      rw [Kind.agrees_iff]
      exact and_iff_right ⟨self, self'⟩
    rw [sameShape_iff, outline_eq_iff, agree, and_assoc, forall₂_congr below]

/-- A tree has its own shape if all its literals are numbers. -/
private theorem sameShape_self_iff : (n : Node) → (n.sameShape n = true ↔ n.NoNaN)
  | ⟨kind, cs, span, attributes⟩ => by
    have below : ∀ c ∈ cs, (c.sameShape c = true ↔ c.NoNaN) := by
      intro c member
      exact sameShape_self_iff c
    have agree : kind.agrees kind = true ↔ kind.NoNaN := by
      rw [Kind.agrees_iff]
      exact (and_iff_left rfl).trans and_self_iff
    have pairs : (∀ x ∈ cs.zip cs, x.1.sameShape x.2 = true) ↔ ∀ c ∈ cs, c.sameShape c = true := by
      rw [List.zip_eq_zipWith, List.zipWith_self, List.forall_mem_map]
    rw [sameShape_iff, NoNaN, everywhere_iff, agree, pairs, forall₂_congr below]
    exact and_congr_left' (and_iff_left rfl)

/-- To have one shape is an equivalence of the trees of numbers. -/
private theorem sameShape_equivalence :
    Equivalence fun a b : { n : Node // n.NoNaN } => a.val.sameShape b.val = true where
  refl a := (sameShape_self_iff a.val).mpr a.property
  symm {a b} h := by
    rw [sameShape_iff_outline_eq _ _ a.property b.property] at h
    rw [sameShape_iff_outline_eq _ _ b.property a.property, h]
  trans {a b c} h h' := by
    rw [sameShape_iff_outline_eq _ _ a.property b.property] at h
    rw [sameShape_iff_outline_eq _ _ b.property c.property] at h'
    rw [sameShape_iff_outline_eq _ _ a.property c.property, h, h']

private theorem pendingSize_reverse (pairs : List (Node × Node)) :
    pendingSize pairs.reverse = pendingSize pairs := by
  induction pairs with
  | nil => rfl
  | cons x pairs ih =>
    rw [List.reverse_cons, pendingSize_append, ih, Nat.add_comm]
    rfl

/-- A comparison on its way: pairs of nodes that are yet to be compared, the next one first. -/
structure Comparison where
  stack : List (Node × Node)

namespace Comparison

/-- The pairs of children come on top of the stack, the last pair before the others. -/
def push (w : Comparison) (as bs : List Node) : Comparison where
  stack := (as.zip bs).reverse ++ w.stack

/-- One round: the answer, or the comparison as it goes on from there. -/
def next (w : Comparison) : Bool ⊕ Comparison :=
  match w.stack with
  | [] => .inl true
  | (a, b) :: rest =>
    if a.kind.agrees b.kind && a.children.length == b.children.length then
      .inr (push ⟨rest⟩ a.children b.children)
    else .inl false

/-- The answer, if a number of rounds leads to it. -/
def answer? : Nat → Comparison → Option Bool
  | 0, _ => none
  | rounds + 1, w =>
    match w.next with
    | .inl answer => some answer
    | .inr w' => answer? rounds w'

def remaining (w : Comparison) : Nat :=
  min (pendingSize w.stack) (pendingSize (w.stack.map Prod.swap))

variable {w w' : Comparison} {answer : Bool}

/-- A comparison that is over has the answer of the pairs that were pending. -/
private theorem agreeAll_of_next_inl (h : w.next = .inl answer) : agreeAll w.stack = answer := by
  unfold next at h
  split at h
  · next done =>
    obtain rfl := Sum.inl.inj h
    rw [done, agreeAll]
  · next a b rest top =>
    split at h
    · cases h
    · next differ =>
      obtain rfl := Sum.inl.inj h
      rw [top, agreeAll, if_neg differ]

/-- A comparison goes on where the next pair agrees. -/
private theorem exists_pair_of_next_inr (h : w.next = .inr w') : ∃ a b rest, w.stack = (a, b) ::
    rest ∧ (a.kind.agrees b.kind && a.children.length == b.children.length) = true ∧
      w' = push ⟨rest⟩ a.children b.children := by
  unfold next at h
  split at h
  · cases h
  · next a b rest top =>
    split at h
    · next alike => exact ⟨a, b, rest, top, alike, (Sum.inr.inj h).symm⟩
    · cases h

/-- The pairs of children stand for what is below the pair that is taken. -/
private theorem agreeAll_of_next_inr (h : w.next = .inr w') :
    agreeAll w'.stack = agreeAll w.stack := by
  obtain ⟨a, b, rest, top, alike, rfl⟩ := exists_pair_of_next_inr h
  rw [top, agreeAll, if_pos alike, Bool.eq_iff_iff]
  simp only [push, agreeAll_iff, List.mem_append, List.mem_reverse]

private theorem remaining_lt_of_next_inr (h : w.next = .inr w') : w'.remaining < w.remaining := by
  obtain ⟨a, b, rest, top, -, rfl⟩ := exists_pair_of_next_inr h
  have left : pendingSize (a.children.zip b.children).reverse < a.size := by
    rw [pendingSize_reverse]
    exact Nat.lt_of_le_of_lt (pendingSize_zip_le _ _) (sizeChildren_lt_size a)
  have right : pendingSize ((a.children.zip b.children).reverse.map Prod.swap) < b.size := by
    rw [List.map_reverse, pendingSize_reverse, List.zip_swap]
    exact Nat.lt_of_le_of_lt (pendingSize_zip_le _ _) (sizeChildren_lt_size b)
  -- Both sides lose a node, so the smaller of them bounds the rounds.
  simp only [remaining, push, top, List.map_append, List.map_cons, Prod.swap_prod_mk,
    pendingSize_append, pendingSize]
  omega

/-- A comparison that is given enough rounds comes to the answer. -/
private theorem answer?_eq {rounds : Nat} (enough : w.remaining < rounds) :
    w.answer? rounds = some (agreeAll w.stack) := by
  induction rounds generalizing w with
  | zero => exact absurd enough (Nat.not_lt_zero _)
  | succ rounds ih =>
    unfold answer?
    split
    · next answer settled => rw [agreeAll_of_next_inl settled]
    · next w' more =>
      have fewer := remaining_lt_of_next_inr more
      rw [ih (by omega), agreeAll_of_next_inr more]

end Comparison

def startComparison (a b : Node) : Comparison := ⟨[(a, b)]⟩

/-- Two trees need no more rounds than the smaller of them has nodes, and one to find nothing left. -/
private theorem answer?_startComparison {rounds : Nat} (enough : min a.size b.size < rounds) :
    (startComparison a b).answer? rounds = some (a.sameShape b) := by
  apply Comparison.answer?_eq
  simpa [startComparison, Comparison.remaining, pendingSize] using enough

/-- For trees whose floating point literals are numbers, to have one shape is to be equal without
spans and attributes. The literals are compared as numbers, which comes to the same as to take the
sign from every zero and to ask for one and the same tree. The comparison always comes to an end,
after no more rounds than the smaller tree has nodes and one to find nothing left. To have one shape
is an equivalence of these trees, and only they have their own shape. -/
theorem sameShape_decides_equality :
    (∀ a b : Node, a.NoNaN → b.NoNaN →
      (a.sameShape b = true ↔ a.bare.numericEq b.bare = true) ∧
      (a.sameShape b = true ↔ a.outline Kind.unsignZero = b.outline Kind.unsignZero)) ∧
    (∀ a b : Node, ∀ rounds, min a.size b.size < rounds →
      (startComparison a b).answer? rounds = some (a.sameShape b)) ∧
    (Equivalence fun a b : { n : Node // n.NoNaN } => a.val.sameShape b.val = true) ∧
    ∀ n : Node, n.sameShape n = true ↔ n.NoNaN := by
  refine ⟨?_, ?_, sameShape_equivalence, sameShape_self_iff⟩
  · intro a b ha hb
    exact ⟨sameShape_iff_numericEq_bare a b, sameShape_iff_outline_eq a b ha hb⟩
  · intro a b rounds enough
    exact answer?_startComparison enough

namespace Sample

/-- `$x + 0.0`, or another number in the place of zero, found somewhere in a source or nowhere. -/
def offset (x : Binary64) (span : Option Span) : Node where
  kind := .binary .plus
  children := [leaf (.variableRef "$x"), { kind := .float x, span }]
  span

theorem noNaN_offset {x : Binary64} (number : x.isNaN = false) (span : Option Span) :
    (offset x span).NoNaN := by
  have leaf (n : Node) (kind : n.kind.NoNaN) (single : n.children = []) : n.NoNaN :=
    everywhere_iff.mpr ⟨kind, by simp [single]⟩
  refine everywhere_iff.mpr ⟨nofun, List.forall_mem_cons.mpr ⟨leaf _ nofun rfl, ?_⟩⟩
  exact List.forall_mem_singleton.mpr (leaf _ (Kind.noNaN_float.mpr number) rfl)

end Sample

/-- The sign of zero makes no difference and neither does the place, but another number does. A
literal that is not a number keeps a tree from having its own shape. -/
theorem sample_sameShape_decides_equality :
    (Sample.offset .zero none).NoNaN ∧
      (Sample.offset Binary64.zero.neg (some ⟨0, 9, 1, 1⟩)).NoNaN ∧
      (Sample.offset .zero none).sameShape
        (Sample.offset Binary64.zero.neg (some ⟨0, 9, 1, 1⟩)) = true ∧
      (startComparison (Sample.offset .zero none)
        (Sample.offset Binary64.zero.neg (some ⟨0, 9, 1, 1⟩))).answer? 4 = some true ∧
      (Sample.offset .zero none).sameShape (Sample.offset (.ofNat 1) none) = false ∧
      (Sample.offset .nan none).sameShape (Sample.offset .nan none) = false := by
  have plus : (Sample.offset .zero none).NoNaN := Sample.noNaN_offset (by decide) none
  have minus : (Sample.offset Binary64.zero.neg (some ⟨0, 9, 1, 1⟩)).NoNaN :=
    Sample.noNaN_offset (by decide) _
  have one : (Sample.offset (.ofNat 1) none).NoNaN := Sample.noNaN_offset (by decide +kernel) none
  obtain ⟨decides, ends, -, self⟩ := sameShape_decides_equality
  have same := (decides _ _ plus minus).2.mpr (by decide +kernel)
  refine ⟨plus, minus, same, ?_, ?_, ?_⟩
  · rw [ends _ _ 4 (by decide), same]
  · rw [Bool.eq_false_iff, ne_eq, (decides _ _ plus one).2]
    decide +kernel
  · rw [Bool.eq_false_iff, ne_eq, self]
    intro number
    have found : (Sample.offset .nan none).get? [1] = some { kind := .float .nan } := rfl
    exact absurd (number [1] _ found .nan rfl) (by decide +kernel)

end Node
end MutationTesting
