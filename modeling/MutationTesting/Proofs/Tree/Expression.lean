import MutationTesting.Proofs.Tree.Front
import MutationTesting.Proofs.Tree.Word

/-! Expressions and the shapes of their texts, as they are written with the usual signs. -/
namespace MutationTesting

open Text PrintStyle

/-- The kinds of expressions, with names that are identifiers. -/
def Kind.isExpression : Kind → Bool
  | methodCall name | functionCall name | propertyFetch name | constFetch name =>
    isIdentifier name.toList
  | staticCall scope name | classConstFetch scope name =>
    isIdentifier scope.toList && isIdentifier name.toList
  | staticPropertyFetch scope name =>
    isIdentifier scope.toList && (isIdentifier name.toList || isVariable name.toList)
  | variableRef name => isVariable name.toList
  | arrayAccess | binary _ | assign | compoundAssign _ | negate | int _ | float _ | str _ | bool _
  | null => true
  | module | classDecl _ | method _ | block | conditional | exprStmt | returnStmt | other => false

namespace Node

def IsExpression (n : Node) : Prop := n.Everywhere fun m => m.kind.isExpression = true

structure Spells (n : Node) (t : List Char) : Prop where
  expression : n.IsExpression
  reads : n.Reads {} none 0 t

variable {n c : Node} {cs : List Node} {kind : Kind} {span : Option Span} {a : Attributes}
  {t u : List Char}

theorem isExpression_iff :
    n.IsExpression ↔ n.kind.isExpression = true ∧ ∀ c ∈ n.children, c.IsExpression :=
  everywhere_iff

end Node

namespace PrintStyle

variable {kind : Kind} {cs : List PrintedChild} {ps : List Piece} {s : String}

private theorem closed_writeAll (h : writeAll kind cs ps = .ok s)
    (closed : ∀ p ∈ ps, ∀ t, p.write kind cs = .ok t → Closed t.toList) : Closed s.toList := by
  induction ps generalizing s with
  | nil =>
    obtain rfl := Except.ok.inj h
    exact Compact.nil.toClosed
  | cons p ps ih =>
    obtain ⟨t, ht, h⟩ := bind_eq_ok.mp h
    obtain ⟨rest, hr, h⟩ := bind_eq_ok.mp h
    obtain rfl := Except.ok.inj h
    rw [String.toList_append]
    exact (closed p List.mem_cons_self t ht).append
      (ih hr fun q member => closed q (List.mem_cons_of_mem _ member))

private theorem eq_of_mem_separated {separator : String} {first count : Nat} {p : Piece}
    (h : p ∈ separated separator first count) : p = .lit separator ∨ ∃ i, p = .child i false := by
  induction count generalizing first with
  | zero => cases h
  | succ count ih =>
    cases count with
    | zero => exact .inr ⟨first, List.mem_singleton.mp h⟩
    | succ count =>
      rcases List.mem_cons.mp h with here | h
      · exact .inr ⟨first, here⟩
      · rcases List.mem_cons.mp h with here | h
        · exact .inl here
        · exact ih h

private theorem exists_of_write_child {i : Nat} {operand : Bool}
    (h : (Piece.child i operand).write kind cs = .ok s) :
    ∃ c, cs[i]? = some c ∧ c.written operand = .ok s := by
  obtain ⟨c, hc, h⟩ := bind_eq_ok.mp h
  unfold pick at hc
  split at hc
  · next d here => exact ⟨c, Except.ok.inj hc ▸ here, h⟩
  · cases hc

/-- Arguments stand between parentheses. -/
private theorem compact_arguments {first count : Nat}
    (h : writeAll kind cs (argumentPieces first count) = .ok s)
    (closed : ∀ c ∈ cs, ∀ t, c.text = .ok t → Closed t.toList) : Compact s.toList := by
  rw [argumentPieces, List.cons_append, writeAll, writeAll_append] at h
  obtain ⟨_, opening, h⟩ := bind_eq_ok.mp h
  obtain rfl := Except.ok.inj opening
  obtain ⟨_, rest, h⟩ := bind_eq_ok.mp h
  obtain rfl := Except.ok.inj h
  obtain ⟨inner, hi, rest⟩ := bind_eq_ok.mp rest
  obtain ⟨_, closing, rest⟩ := bind_eq_ok.mp rest
  obtain rfl := Except.ok.inj closing
  obtain rfl := Except.ok.inj rest
  have comma : Compact [','] := .of_all (by decide)
  have inside : Closed inner.toList := by
    refine closed_writeAll hi fun p member t ht => ?_
    rcases eq_of_mem_separated member with rfl | ⟨i, rfl⟩
    · obtain rfl := Except.ok.inj ht
      exact comma.toClosed.append Closed.blank
    · obtain ⟨c, here, written⟩ := exists_of_write_child ht
      exact closed c (List.mem_of_getElem? here) t written
  simpa using inside.parentheses

end PrintStyle

namespace Kind

/-- Expressions that are written without an expression in front and without a sign. -/
def isAtomic : Kind → Bool
  | functionCall _ | staticCall _ _ | staticPropertyFetch _ _ | variableRef _ | constFetch _
  | classConstFetch _ _ | int _ | float _ | str _ | bool _ | null => true
  | _ => false

def isNegative : Kind → Bool
  | int value => value < 0
  | float value => value.negative && !value.isNaN
  | _ => false

theorem isAtomic_of_isNegative {kind : Kind} (h : kind.isNegative = true) :
    kind.isAtomic = true := by
  cases kind <;> first | rfl | exact absurd h Bool.false_ne_true

end Kind

/-- The text of a link of a chain, which is written right behind its receiver. -/
structure LinkText (t : List Char) : Prop where
  compact : Compact t
  starts : ∃ c rest, t = c :: rest ∧ (c = '-' ∨ c = '[')

theorem LinkText.append {t u : List Char} (ht : LinkText t) (hu : LinkText u) :
    LinkText (t ++ u) where
  compact := ht.compact.append hu.compact
  starts := by
    obtain ⟨c, rest, rfl, arrow⟩ := ht.starts
    exact ⟨c, rest ++ u, rfl, arrow⟩

namespace Node

/-- Expressions with their texts. What follows the receiver of a link follows every receiver. -/
inductive Written : Node → List Char → Prop
  | word {n : Node} {t : List Char} (spells : n.Spells t) (word : Word t)
      (atomic : n.kind.isAtomic = true) (nonneg : n.kind.isNegative = false) : Written n t
  | negative {n x : Node} {t : List Char} (spells : n.Spells ('-' :: t)) (magnitude : x.Spells t)
      (word : Word t) (tight : x.kind.isAtomic = true) (negative : n.kind.isNegative = true)
      (more : n.kind ≠ .int Int64.minValue) : Written n ('-' :: t)
  | least {n : Node} (spells : n.Spells ('-' :: outsized)) (kind : n.kind = .int Int64.minValue) :
      Written n ('-' :: outsized)
  | link {n c : Node} {cs : List Node} {t u : List Char} (children : n.children = c :: cs)
      (linked : n.kind.receiverSlot?.isSome = true) (receiver : Written c t) (link : LinkText u)
      (attach : ∀ c' t', c'.Spells t' → Spells { n with children := c' :: cs } (t' ++ u)) :
      Written n (t ++ u)
  | pair {kind : Kind} {sign : List Char} {l r : Node} {t u : List Char} {span : Option Span}
      {a : Attributes} (signed : kind.sign? = some sign) (left : Written l t)
      (right : Written r u) :
      Written ⟨kind, [l, r], span, a⟩ (l.within kind t ++ ' ' :: (sign ++ ' ' :: r.within kind u))
  | negate {x : Node} {t : List Char} {span : Option Span} {a : Attributes}
      (inner : Written x t) : Written ⟨.negate, [x], span, a⟩ ('-' :: x.within .negate t)

namespace Written

variable {n : Node} {t : List Char}

theorem compact_minus : Compact ['-'] := .of_all (by decide)

theorem compact_least : Compact ('-' :: outsized) :=
  compact_minus.append (.of_quiet fun _ h => isQuiet_of_isDigit (isDigit_of_mem_outsized h))

theorem closed (h : Written n t) : Closed t := by
  induction h with
  | word spells word => exact word.compact.toClosed
  | negative spells magnitude word => exact (compact_minus.append word.compact).toClosed
  | least => exact compact_least.toClosed
  | link children linked receiver link attach ih => exact ih.append link.compact.toClosed
  | @pair kind sign l r t u span a signed left right ihl ihr =>
    have behind := Closed.blank.append (closed_within kind r ihr)
    exact (closed_within kind l ihl).append
      (Closed.blank.append ((Kind.compact_sign signed).toClosed.append behind))
  | @negate x t span a inner ih =>
    exact compact_minus.toClosed.append (closed_within .negate x ih)

private theorem isExpression_of_sign? {kind : Kind} {sign : List Char}
    (h : kind.sign? = some sign) : kind.isExpression = true := by
  cases kind <;> first | rfl | cases h

theorem spells (h : Written n t) : n.Spells t := by
  induction h with
  | word spells => exact spells
  | negative spells => exact spells
  | least spells => exact spells
  | @link n c cs t u children linked receiver link attach ih =>
    obtain ⟨kind, children', span, a⟩ := n
    obtain rfl : children' = c :: cs := children
    exact attach c t ih
  | pair signed left right ihl ihr =>
    refine ⟨isExpression_iff.mpr ⟨isExpression_of_sign? signed, ?_⟩, ?_⟩
    · simpa using ⟨ihl.expression, ihr.expression⟩
    · exact (reads_pair_iff signed).mpr ⟨_, _, _, _, rfl, ihl.reads, ihr.reads, rfl⟩
  | negate inner ih =>
    refine ⟨isExpression_iff.mpr ⟨rfl, by simpa using ih.expression⟩, ?_⟩
    exact reads_negate_iff.mpr ⟨_, _, rfl, ih.reads, rfl⟩

end Written

variable {n : Node} {kind : Kind} {cs : List Node} {span : Option Span} {a : Attributes}
  {t : List Char}

/-- A node without children is written by its kind alone. -/
theorem Reads.leaf (h : Reads {} none 0 ⟨kind, cs, span, a⟩ t) (none_ : kind.arity? = some 0)
    (clear : kind ≠ .other) :
    cs = [] ∧ layout {} none 0 kind span [] = .ok (String.ofList t) := by
  rw [Reads, render_eq] at h
  dsimp only at h
  have counted := ((layout_ok_iff clear).mp ⟨_, h⟩).1 0 none_
  rw [List.length_map] at counted
  obtain rfl := List.eq_nil_of_length_eq_zero counted.symm
  exact ⟨rfl, h⟩

private theorem closed_printed (closed : ∀ c ∈ cs, ∀ t, c.Reads {} none 0 t → Closed t) :
    ∀ d ∈ cs.map (printed {} none 0), ∀ s, d.text = .ok s → Closed s.toList := by
  intro d member s h
  obtain ⟨c, listed, rfl⟩ := List.mem_map.mp member
  refine closed c listed s.toList ?_
  rw [Reads, String.ofList_toList]
  exact h

/-- A call without a receiver is a name in front of arguments. -/
theorem Reads.call (name : String) (h : Reads {} none 0 ⟨kind, cs, span, a⟩ t)
    (clear : kind ≠ .other) (level : kind.opensBody = false)
    (front : ∀ count, template {} 0 kind count = .lit name :: argumentPieces 0 count)
    (closed : ∀ c ∈ cs, ∀ t, c.Reads {} none 0 t → Closed t) :
    ∃ u, t = name.toList ++ u ∧ Compact u := by
  rw [Reads, render_eq, layout_eq _ _ _ _ _ clear] at h
  dsimp only at h
  rw [front, innerDepth, level, if_neg Bool.false_ne_true] at h
  obtain ⟨⟨⟩, -, h⟩ := bind_eq_ok.mp h
  obtain ⟨_, first, h⟩ := bind_eq_ok.mp h
  obtain rfl := Except.ok.inj first
  obtain ⟨s, arguments, h⟩ := bind_eq_ok.mp h
  refine ⟨s.toList, ?_, compact_arguments arguments (closed_printed closed)⟩
  have lists := congrArg String.toList (Except.ok.inj h)
  rw [String.toList_ofList] at lists
  rw [← lists]
  exact String.toList_append

/-- What follows a receiver is the text of a link. -/
private theorem linkText_of_writeAll {rest : List Piece} {s : String} {count : Nat}
    (linked : kind.receiverSlot?.isSome = true) (named : kind.isExpression = true)
    (front : template {} 0 kind (count + 1) = .child 0 false :: rest)
    (h : writeAll kind (cs.map (printed {} none 0)) rest = .ok s)
    (closed : ∀ c ∈ cs, ∀ t, c.Reads {} none 0 t → Closed t) : LinkText s.toList := by
  have arrow : Compact ("->".toList) := .of_all (by decide)
  cases kind with
  | methodCall name =>
    obtain ⟨-, rfl⟩ := List.cons.inj front
    obtain ⟨_, first, h⟩ := bind_eq_ok.mp h
    obtain rfl := Except.ok.inj first
    obtain ⟨v, arguments, h⟩ := bind_eq_ok.mp h
    obtain rfl := Except.ok.inj h
    have tail := compact_arguments arguments (closed_printed closed)
    rw [String.toList_append, String.toList_append]
    exact ⟨(arrow.append (compact_of_isIdentifier named)).append tail, _, _, rfl, .inl rfl⟩
  | propertyFetch name =>
    obtain ⟨-, rfl⟩ := List.cons.inj front
    obtain rfl := Except.ok.inj h
    have whole := arrow.append (compact_of_isIdentifier named)
    rw [String.append_empty, String.toList_append]
    exact ⟨whole, _, _, rfl, .inl rfl⟩
  | arrayAccess =>
    obtain ⟨-, rfl⟩ := List.cons.inj front
    obtain ⟨_, opening, h⟩ := bind_eq_ok.mp h
    obtain rfl := Except.ok.inj opening
    obtain ⟨_, rest, h⟩ := bind_eq_ok.mp h
    obtain rfl := Except.ok.inj h
    obtain ⟨v, index, rest⟩ := bind_eq_ok.mp rest
    obtain ⟨_, closing, rest⟩ := bind_eq_ok.mp rest
    obtain rfl := Except.ok.inj closing
    obtain rfl := Except.ok.inj rest
    obtain ⟨d, here, written⟩ := exists_of_write_child index
    have inside := closed_printed closed d (List.mem_of_getElem? here) v written
    have whole : Compact ('[' :: v.toList ++ [']']) :=
      inside.bracket (fun _ => rfl) (fun _ => rfl) (by decide)
    rw [String.toList_append, String.toList_append]
    exact ⟨whole, _, _, rfl, .inr rfl⟩
  | _ => cases linked

private theorem spells_leaf {s : String} (named : kind.isExpression = true)
    (own : layout {} none 0 kind span [] = .ok s) : Spells ⟨kind, [], span, a⟩ s.toList where
  expression := isExpression_iff.mpr ⟨named, fun _ member => absurd member List.not_mem_nil⟩
  reads := reads_leaf own

/-- A member of a class. -/
private theorem word_scoped {scope name : String} {u : List Char}
    (named : isIdentifier scope.toList = true) (member : Compact name.toList) (tail : Compact u) :
    Word ((scope ++ "::" ++ name).toList ++ u) := by
  have colons : Compact "::".toList := .of_all (by decide)
  rw [String.append_assoc, String.toList_append, String.toList_append, List.append_assoc]
  exact word_identifier named ((colons.append member).append tail)

/-- A whole number is a word or a minus in front of one, but for the least of all, whose magnitude
is no number. -/
private theorem written_int {value : Int64} (h : Spells ⟨.int value, [], span, a⟩ t) :
    Written ⟨.int value, [], span, a⟩ t := by
  obtain rfl := h.reads.unique (reads_leaf rfl)
  have upper := Int64.toInt_lt value
  have lower := Int64.le_toInt value
  by_cases neg : value < 0
  · have below : value.toInt < 0 := by simpa using Int64.lt_iff_toInt_lt.mp neg
    have negative : (Kind.int value).isNegative = true := decide_eq_true neg
    rw [toList_toString_of_neg below] at h ⊢
    by_cases least : value = Int64.minValue
    · subst least
      exact .least h rfl
    · have apart : value.toInt ≠ -2 ^ 63 := fun same =>
        least (Int64.toInt_inj.mp (same.trans Int64.toInt_minValue.symm))
      have magnitude : (Int64.ofInt (-value.toInt)).toInt = -value.toInt :=
        Int64.toInt_ofInt_of_le (by omega) (by omega)
      have own : Spells ⟨.int (Int64.ofInt (-value.toInt)), [], none, {}⟩
          (toString (Int64.ofInt (-value.toInt)).toInt).toList := spells_leaf rfl rfl
      rw [magnitude, toList_toString_of_nonneg (by omega)] at own
      exact .negative h own (word_digits (by omega)) rfl negative (by simpa using least)
  · have above : 0 ≤ value.toInt := by
      have := Int64.lt_iff_toInt_lt.not.mp neg
      simpa using this
    rw [toList_toString_of_nonneg above] at h ⊢
    exact .word h (word_digits (by omega)) rfl (decide_eq_false neg)

private theorem written_float {value : Binary64} (h : Spells ⟨.float value, [], span, a⟩ t) :
    Written ⟨.float value, [], span, a⟩ t := by
  obtain rfl := h.reads.unique (reads_leaf rfl)
  cases number : value.isNaN with
  | true =>
    rw [Binary64.literalText_nan number] at h ⊢
    exact .word h (.of_isIdentifier (by decide)) rfl (by simp [Kind.isNegative, number])
  | false =>
    rw [Binary64.toList_literalText number] at h ⊢
    have word := word_magnitude value.isMagnitude_magnitudeText
    by_cases sign : value.negative = true
    · rw [if_pos sign] at h ⊢
      have own : Spells ⟨.float value.abs, [], none, {}⟩ value.abs.literalText.toList :=
        spells_leaf rfl rfl
      rw [Binary64.toList_literalText_abs number] at own
      exact .negative h own word rfl (by simp [Kind.isNegative, sign, number]) (by simp)
    · rw [if_neg sign] at h ⊢
      exact .word h word rfl (by simp [Kind.isNegative, sign])

/-- The texts of names and literals. -/
private theorem written_leaf (h : Spells ⟨kind, cs, span, a⟩ t) (none_ : kind.arity? = some 0) :
    Written ⟨kind, cs, span, a⟩ t := by
  have clear : kind ≠ .other := by
    rintro rfl
    cases none_
  obtain ⟨rfl, text⟩ := h.reads.leaf none_ clear
  have named := (isExpression_iff.mp h.expression).1
  have word {s : String} (same : (.ok s : Except ShapeError String) = .ok (String.ofList t))
      (word : Word s.toList) (atomic : kind.isAtomic = true) (nonneg : kind.isNegative = false) :
      Written ⟨kind, [], span, a⟩ t := by
    obtain rfl := Except.ok.inj same
    rw [String.toList_ofList] at word
    exact .word h word atomic nonneg
  cases kind with
  | variableRef name => exact word text (.of_isVariable named) rfl rfl
  | constFetch name => exact word text (.of_isIdentifier named) rfl rfl
  | int value => exact written_int h
  | float value => exact written_float h
  | str value => exact word text (word_stringLiteral value) rfl rfl
  | bool value =>
    refine word text (.of_isIdentifier ?_) rfl rfl
    cases value <;> decide
  | null => exact word text (.of_isIdentifier (by decide)) rfl rfl
  | classConstFetch scope name =>
    rw [Kind.isExpression, Bool.and_eq_true] at named
    exact word text (by simpa using word_scoped named.1 (compact_of_isIdentifier named.2) .nil)
      rfl rfl
  | staticPropertyFetch scope name =>
    rw [Kind.isExpression, Bool.and_eq_true, Bool.or_eq_true] at named
    have member := named.2.elim compact_of_isIdentifier compact_of_isVariable
    exact word text (by simpa using word_scoped named.1 member .nil) rfl rfl
  | _ => cases none_

private theorem written_pair {sign : List Char} (h : Spells ⟨kind, cs, span, a⟩ t)
    (signed : kind.sign? = some sign) (below : ∀ c ∈ cs, ∀ t, c.Reads {} none 0 t → Written c t) :
    Written ⟨kind, cs, span, a⟩ t := by
  obtain ⟨l, r, u, v, rfl, left, right, rfl⟩ := (reads_pair_iff signed).mp h.reads
  exact .pair signed (below l (by simp) u left) (below r (by simp) v right)

private theorem written_link (h : n.Spells t) (linked : n.kind.receiverSlot?.isSome = true)
    (below : ∀ c ∈ n.children, ∀ t, c.Reads {} none 0 t → Written c t) : Written n t := by
  obtain ⟨slot, found⟩ := Option.isSome_iff_exists.mp linked
  obtain ⟨-, fronts⟩ := Kind.fronts_receiver found
  obtain ⟨c, cs, rest, s, u, children, front, own, behind, same, replaced⟩ :=
    render_front fronts h.reads
  have here : c.Reads {} none 0 s.toList := by
    rw [Reads, String.ofList_toList]
    exact own
  have named := isExpression_iff.mp h.expression
  have link := linkText_of_writeAll linked named.1 front behind fun d member t reads =>
    (below d member t reads).closed
  have lists := congrArg String.toList same
  rw [String.toList_ofList, String.toList_append] at lists
  subst lists
  refine .link children linked (below c (children ▸ List.mem_cons_self) _ here) link ?_
  intro c' t' spells
  refine ⟨isExpression_iff.mpr ⟨named.1, fun d member => ?_⟩, ?_⟩
  · rcases List.mem_cons.mp member with rfl | other
    · exact spells.expression
    · exact named.2 d (children ▸ List.mem_cons_of_mem _ other)
  · have whole := replaced c' _ spells.reads
    rw [Reads, whole]
    exact congrArg Except.ok (String.toList_inj.mp (by simp))

/-- Every expression with a text is written in one of the ways above. -/
theorem written_of_spells (h : n.Spells t) : Written n t := by
  induction size : n.size using Nat.strongRecOn generalizing n t with
  | ind k ih =>
    subst size
    have below (c : Node) (member : c ∈ n.children) (t : List Char)
        (reads : c.Reads {} none 0 t) : Written c t := by
      refine ih c.size ?_ ⟨(isExpression_iff.mp h.expression).2 c member, reads⟩ rfl
      have smaller := size_le_sizeChildren member
      rw [size_eq n]
      omega
    have closed (c : Node) (member : c ∈ n.children) (t : List Char)
        (reads : c.Reads {} none 0 t) : Closed t := (below c member t reads).closed
    have named := (isExpression_iff.mp h.expression).1
    cases linked : n.kind.receiverSlot? with
    | some slot =>
      exact written_link h (by rw [linked]; rfl) below
    | none =>
      obtain ⟨kind, cs, span, a⟩ := n
      cases kind with
      | functionCall name =>
        obtain ⟨u, rfl, tail⟩ := h.reads.call name (by simp) rfl (fun _ => rfl) closed
        exact .word h (word_identifier named tail) rfl rfl
      | staticCall scope name =>
        obtain ⟨u, rfl, tail⟩ := h.reads.call (scope ++ "::" ++ name) (by simp) rfl (fun _ => rfl)
          closed
        rw [Kind.isExpression, Bool.and_eq_true] at named
        exact .word h (word_scoped named.1 (compact_of_isIdentifier named.2) tail) rfl rfl
      | binary op => exact written_pair h rfl below
      | assign => exact written_pair h rfl below
      | compoundAssign op => exact written_pair h rfl below
      | negate =>
        obtain ⟨x, u, rfl, reads, rfl⟩ := reads_negate_iff.mp h.reads
        exact .negate (below x List.mem_cons_self u reads)
      | methodCall name => cases linked
      | propertyFetch name => cases linked
      | arrayAccess => cases linked
      | _ => first | exact written_leaf h rfl | cases named

end Node
end MutationTesting
