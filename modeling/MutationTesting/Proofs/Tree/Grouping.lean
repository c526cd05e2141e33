import MutationTesting.Proofs.Number.Digits
import MutationTesting.Proofs.Tree.Change
import MutationTesting.Proofs.Tree.Operand

/-! The text of a tree of operators tells how it is grouped.

Between the blanks outside all parentheses stand the left side of the outermost sign, the sign
itself, and then its right side, so the text is taken apart from the outside in. -/
namespace MutationTesting

open Text PrintStyle

def BinaryOperator.isArithmetic : BinaryOperator → Bool
  | plus | minus | mul | div | mod | concat => true
  | _ => false

namespace Kind

/-- An assignment is compounded with an arithmetic operator only. -/
def IsArithmetic (kind : Kind) : Prop :=
  ∀ op, kind = .compoundAssign op → op.isArithmetic = true

private theorem agrees_of_sign? {kind : Kind} {sign : List Char} (h : kind.sign? = some sign) :
    kind.agrees kind = true := by
  cases kind with
  | binary op => exact decide_eq_true rfl
  | compoundAssign op => exact decide_eq_true rfl
  | assign => rfl
  | _ => cases h

private def signed : List Kind :=
  .assign :: BinaryOperator.all.map .binary ++
    (BinaryOperator.all.filter BinaryOperator.isArithmetic).map .compoundAssign

private theorem mem_signed {kind : Kind} {sign : List Char} (h : kind.sign? = some sign)
    (arithmetic : kind.IsArithmetic) : kind ∈ signed := by
  cases kind with
  | assign => exact List.mem_cons_self
  | binary op =>
    exact List.mem_append_left _ (List.mem_cons_of_mem _ (List.mem_map_of_mem op.mem_all))
  | compoundAssign op =>
    refine List.mem_append_right _ (List.mem_map_of_mem (List.mem_filter.mpr ⟨op.mem_all, ?_⟩))
    exact arithmetic op rfl
  | _ => cases h

/-- A sign tells the kind. -/
private theorem sign?_inj {kind kind' : Kind} {sign : List Char} (h : kind.sign? = some sign)
    (h' : kind'.sign? = some sign) (arithmetic : kind.IsArithmetic)
    (arithmetic' : kind'.IsArithmetic) : kind = kind' := by
  have all_ : ∀ k ∈ signed, ∀ k' ∈ signed, k.sign? = k'.sign? → k = k' := by decide +kernel
  exact all_ _ (mem_signed h arithmetic) _ (mem_signed h' arithmetic') (h.trans h'.symm)

end Kind

namespace Node

/-- Trees of variables, literals that are not negative, operators, and assignments to variables. -/
inductive IsOperatorTree : Node → Prop
  | variable {name : String} {span : Option Span} {a : Attributes}
      (named : isVariable name.toList = true) : IsOperatorTree ⟨.variableRef name, [], span, a⟩
  | int {value : Int64} {span : Option Span} {a : Attributes} (nonneg : 0 ≤ value) :
      IsOperatorTree ⟨.int value, [], span, a⟩
  | binary {l r : Node} {span : Option Span} {a : Attributes} (op : BinaryOperator)
      (left : IsOperatorTree l) (right : IsOperatorTree r) :
      IsOperatorTree ⟨.binary op, [l, r], span, a⟩
  | negate {x : Node} {span : Option Span} {a : Attributes} (inner : IsOperatorTree x) :
      IsOperatorTree ⟨.negate, [x], span, a⟩
  | assign {name : String} {r : Node} {span span' : Option Span} {a a' : Attributes}
      (named : isVariable name.toList = true) (right : IsOperatorTree r) :
      IsOperatorTree ⟨.assign, [⟨.variableRef name, [], span', a'⟩, r], span, a⟩
  | compoundAssign {op : BinaryOperator} {name : String} {r : Node} {span span' : Option Span}
      {a a' : Attributes} (arithmetic : op.isArithmetic = true)
      (named : isVariable name.toList = true) (right : IsOperatorTree r) :
      IsOperatorTree ⟨.compoundAssign op, [⟨.variableRef name, [], span', a'⟩, r], span, a⟩

/-- Trees of operators with their texts, in which what stands left of a sign is one piece. -/
inductive Grouped : Node → List Char → Prop
  | variable {name : String} {span : Option Span} {a : Attributes}
      (named : isVariable name.toList = true) :
      Grouped ⟨.variableRef name, [], span, a⟩ name.toList
  | int {value : Int64} {span : Option Span} {a : Attributes} (nonneg : 0 ≤ value) :
      Grouped ⟨.int value, [], span, a⟩ (toString value.toInt).toList
  | negate {x : Node} {t : List Char} {span : Option Span} {a : Attributes} (inner : Grouped x t) :
      Grouped ⟨.negate, [x], span, a⟩ ('-' :: x.within .negate t)
  | pair {kind : Kind} {sign : List Char} {l r : Node} {t u : List Char} {span : Option Span}
      {a : Attributes} (signed : kind.sign? = some sign) (arithmetic : kind.IsArithmetic)
      (left : Grouped l t) (right : Grouped r u) (whole : Compact (l.within kind t)) :
      Grouped ⟨kind, [l, r], span, a⟩ (l.within kind t ++ ' ' :: (sign ++ ' ' :: r.within kind u))

namespace Grouped

variable {n m l r : Node} {t u : List Char} {kind : Kind}

private theorem digits_inj {v w : Int64} (hv : 0 ≤ v) (hw : 0 ≤ w)
    (same : (toString v.toInt).toList = (toString w.toInt).toList) : v = w := by
  rw [digits_of_nonneg hv, digits_of_nonneg hw, toDigits_inj] at same
  have left := toInt_nonneg hv
  have right := toInt_nonneg hw
  exact Int64.toInt_inj.mp (by omega)

def Begins (kind : Kind) (c : Char) : Prop :=
  match kind with
  | .variableRef _ => c = '$'
  | .int _ => c.isDigit = true
  | _ => c = '-'

private theorem exists_begins (h : Grouped n t) (tight : n.kind.bindsLoosely = false) :
    ∃ c rest, t = c :: rest ∧ Begins n.kind c := by
  cases h with
  | «variable» named =>
    obtain ⟨rest, spelled, -⟩ := exists_of_isVariable named
    exact ⟨'$', rest, spelled, rfl⟩
  | int nonneg =>
    rw [digits_of_nonneg nonneg]
    obtain ⟨c, rest, first⟩ := List.exists_cons_of_ne_nil Nat.toDigits_ne_nil
    exact ⟨c, rest, first, isDigit_of_mem_toDigits (first ▸ List.mem_cons_self)⟩
  | negate inner => exact ⟨'-', _, rfl, rfl⟩
  | pair signed => exact absurd (Kind.bindsLoosely_of_sign? signed) (by rw [tight]; decide)

/-- The text of a tree is closed, and a piece by itself if the tree has no sign of its own. -/
theorem closed (h : Grouped n t) : Closed t ∧ (n.kind.bindsLoosely = false → Compact t) := by
  induction h with
  | «variable» named =>
    have whole := compact_of_isVariable named
    exact ⟨whole.toClosed, fun _ => whole⟩
  | int nonneg =>
    have whole : Compact (toString _).toList := .of_quiet fun c member =>
      isQuiet_of_isNameChar <| isNameChar_of_isDigit <| isDigit_of_mem_toDigits <|
        digits_of_nonneg nonneg ▸ member
    exact ⟨whole.toClosed, fun _ => whole⟩
  | @negate x t span a inner ih =>
    have minus : Compact ['-'] := .of_all (by decide)
    have operand : Compact (x.within .negate t) := compact_within rfl ih.1 ih.2
    have whole := minus.append operand
    exact ⟨whole.toClosed, fun _ => whole⟩
  | @pair kind sign l r t u span a signed arithmetic left right whole ihl ihr =>
    refine ⟨?_, fun tight => absurd (Kind.bindsLoosely_of_sign? signed) (by rw [tight]; decide)⟩
    have behind := Closed.blank.append (closed_within kind r ihr.1)
    exact whole.toClosed.append
      (Closed.blank.append ((Kind.compact_sign signed).toClosed.append behind))

/-- A tree has a sign of its own exactly if its text has more than one piece. -/
private theorem bindsLoosely_iff (h : Grouped n t) :
    n.kind.bindsLoosely = true ↔ 1 < (topWords t).length := by
  cases loose : n.kind.bindsLoosely with
  | false =>
    rw [(h.closed.2 loose).whole]
    simp
  | true =>
    cases h with
    | pair signed arithmetic left right whole =>
      rw [Kind.topWords_sign whole.toClosed signed, whole.whole]
      simp
    | _ => cases loose

/-- Equal texts of children are texts of equal inside, parentheses or not. -/
private theorem within_inj (hl : Grouped l t) (hr : Grouped r u)
    (same : l.within kind t = r.within kind u) : t = u := by
  cases encloses : kind.encloses with
  | false => rwa [within_of_open encloses, within_of_open encloses] at same
  | true =>
    -- A tree without parentheses has no text that begins with one.
    have apart {l r : Node} {t u : List Char} (hl : Grouped l t)
        (tight : l.kind.bindsLoosely = false) (loose : r.kind.bindsLoosely = true) :
        l.within kind t ≠ r.within kind u := by
      obtain ⟨c, rest, rfl, first⟩ := hl.exists_begins tight
      rw [within_of_tight tight, within_of_loose encloses loose]
      intro same
      obtain ⟨rfl, -⟩ := List.cons.inj same
      unfold Begins at first
      split at first <;> exact absurd first (by decide)
    cases left : l.kind.bindsLoosely with
    | false =>
      cases right : r.kind.bindsLoosely with
      | false => rwa [within_of_tight left, within_of_tight right] at same
      | true => exact absurd same (apart hl left right)
    | true =>
      cases right : r.kind.bindsLoosely with
      | false => exact absurd same.symm (apart hr right left)
      | true =>
        rw [within_of_loose encloses left, within_of_loose encloses right] at same
        exact List.append_cancel_right (List.cons.inj same).2

/-- What trees with one text have in common before anything is taken apart. -/
theorem alike (h : Grouped n t) (h' : Grouped m t) :
    n.kind.bindsLoosely = m.kind.bindsLoosely ∧
      (n.kind.bindsLoosely = false → ∃ c, Begins n.kind c ∧ Begins m.kind c) := by
  have loose : n.kind.bindsLoosely = m.kind.bindsLoosely :=
    Bool.eq_iff_iff.mpr (h.bindsLoosely_iff.trans h'.bindsLoosely_iff.symm)
  refine ⟨loose, fun tight => ?_⟩
  obtain ⟨c, rest, rfl, first⟩ := h.exists_begins tight
  obtain ⟨c', rest', same, first'⟩ := h'.exists_begins (loose ▸ tight)
  obtain ⟨rfl, -⟩ := List.cons.inj same
  exact ⟨c, first, first'⟩

/-- Trees with one text have one shape. -/
theorem sameShape (h : Grouped n t) (h' : Grouped m u) (same : t = u) : n.sameShape m = true := by
  have like := alike h (same ▸ h')
  induction h generalizing m u with
  | «variable» named =>
    obtain ⟨c, rfl, first⟩ := like.2 rfl
    cases h' with
    | «variable» named' =>
      obtain rfl := String.toList_inj.mp same
      exact sameShape_iff.mpr ⟨⟨by simp [Kind.agrees], rfl⟩, by simp⟩
    | int nonneg' => exact absurd first (show ¬ '$'.isDigit = true by decide)
    | negate inner' => exact absurd first (show '$' ≠ '-' by decide)
    | pair signed' => cases like.1.trans (Kind.bindsLoosely_of_sign? signed')
  | int nonneg =>
    obtain ⟨c, digit, first⟩ := like.2 rfl
    cases h' with
    | «variable» named' => exact absurd (first ▸ digit) (show ¬ '$'.isDigit = true by decide)
    | int nonneg' =>
      obtain rfl := digits_inj nonneg nonneg' same
      exact sameShape_iff.mpr ⟨⟨by simp [Kind.agrees], rfl⟩, by simp⟩
    | negate inner' => exact absurd (first ▸ digit) (show ¬ '-'.isDigit = true by decide)
    | pair signed' => cases like.1.trans (Kind.bindsLoosely_of_sign? signed')
  | negate inner ih =>
    obtain ⟨c, rfl, first⟩ := like.2 rfl
    cases h' with
    | «variable» named' => exact absurd first (show '-' ≠ '$' by decide)
    | int nonneg' => exact absurd first (show ¬ '-'.isDigit = true by decide)
    | negate inner' =>
      have inside := within_inj inner inner' (List.cons.inj same).2
      have below := ih inner' inside (alike inner (inside ▸ inner'))
      exact sameShape_iff.mpr ⟨⟨rfl, rfl⟩, by simpa using below⟩
    | pair signed' => cases like.1.trans (Kind.bindsLoosely_of_sign? signed')
  | @pair kind sign l r t u span a signed arithmetic left right whole ihl ihr =>
    cases h' with
    | pair signed' arithmetic' left' right' whole' =>
      have pieces := congrArg topWords same
      rw [Kind.topWords_sign whole.toClosed signed, Kind.topWords_sign whole'.toClosed signed',
        whole.whole, whole'.whole] at pieces
      obtain ⟨one, pieces⟩ := List.cons.inj pieces
      obtain ⟨rfl, -⟩ := List.cons.inj pieces
      obtain rfl := Kind.sign?_inj signed signed' arithmetic arithmetic'
      -- The right sides may have many pieces, so they are compared as texts.
      rw [one, List.append_cancel_left_eq, List.cons.injEq, List.append_cancel_left_eq,
        List.cons.injEq] at same
      have first := within_inj left left' one
      have second := within_inj right right' same.2.2
      have below := And.intro (ihl left' first (alike left (first ▸ left')))
        (ihr right' second (alike right (second ▸ right')))
      exact sameShape_iff.mpr ⟨⟨Kind.agrees_of_sign? signed, rfl⟩, by simpa using below⟩
    | _ => cases (Kind.bindsLoosely_of_sign? signed).symm.trans like.1

end Grouped

variable {style : PrintStyle} {source : Option String} {depth : Nat} {n m : Node}

private theorem exists_grouped_assignment {kind : Kind} {sign : List Char} {name : String}
    {r : Node} {span span' : Option Span} {a a' : Attributes} (signed : kind.sign? = some sign)
    (arithmetic : kind.IsArithmetic) (open_ : kind.encloses = false)
    (named : isVariable name.toList = true)
    (right : ∃ u, Grouped r u ∧ r.Reads style source depth u) :
    ∃ t, Grouped ⟨kind, [⟨.variableRef name, [], span', a'⟩, r], span, a⟩ t ∧
      Reads style source depth ⟨kind, [⟨.variableRef name, [], span', a'⟩, r], span, a⟩ t := by
  obtain ⟨u, grouped, reads⟩ := right
  have whole : Compact (Node.within kind ⟨.variableRef name, [], span', a'⟩ name.toList) := by
    rw [within_of_open open_]
    exact compact_of_isVariable named
  exact ⟨_, .pair signed arithmetic (.variable named) grouped whole,
    (reads_pair_iff signed).mpr ⟨_, _, _, u, rfl, reads_leaf rfl, reads, rfl⟩⟩

/-- Every tree of operators has a text. -/
private theorem IsOperatorTree.exists_grouped (h : n.IsOperatorTree) (style : PrintStyle)
    (source : Option String) (depth : Nat) :
    ∃ t, Grouped n t ∧ n.Reads style source depth t := by
  induction h with
  | «variable» named => exact ⟨_, .variable named, reads_leaf rfl⟩
  | int nonneg => exact ⟨_, .int nonneg, reads_leaf rfl⟩
  | negate inner ih =>
    obtain ⟨t, grouped, reads⟩ := ih
    exact ⟨_, .negate grouped, reads_negate_iff.mpr ⟨_, t, rfl, reads, rfl⟩⟩
  | @binary l r span a op left right ihl ihr =>
    obtain ⟨t, groupedL, readsL⟩ := ihl
    obtain ⟨u, groupedR, readsR⟩ := ihr
    have whole : Compact (l.within (.binary op) t) :=
      compact_within rfl groupedL.closed.1 groupedL.closed.2
    exact ⟨_, .pair rfl (by simp [Kind.IsArithmetic]) groupedL groupedR whole,
      (reads_pair_iff rfl).mpr ⟨_, _, t, u, rfl, readsL, readsR, rfl⟩⟩
  | assign named right ih =>
    exact exists_grouped_assignment rfl (by simp [Kind.IsArithmetic]) rfl named ih
  | compoundAssign arithmetic named right ih =>
    refine exists_grouped_assignment rfl (fun op same => ?_) rfl named ih
    obtain rfl := Kind.compoundAssign.inj same
    exact arithmetic

end Node

/-- Every tree of operators has a text, and no two of them that are grouped in different ways or
have different operators somewhere have the same one. -/
theorem Node.IsOperatorTree.sameShape_of_render_eq {n m : Node} (hn : n.IsOperatorTree)
    (hm : m.IsOperatorTree) (style : PrintStyle) (source : Option String) (depth : Nat) :
    (∃ s, style.render source depth n = .ok s) ∧
      (style.render source depth n = style.render source depth m → n.sameShape m = true) := by
  obtain ⟨t, groupedN, readsN⟩ := hn.exists_grouped style source depth
  obtain ⟨u, groupedM, readsM⟩ := hm.exists_grouped style source depth
  refine ⟨⟨_, readsN⟩, fun same => ?_⟩
  exact groupedN.sameShape groupedM (readsN.unique (same.trans readsM))

namespace Sample

/-- The sum of two variables less a negated one, found at a place of a source or nowhere. -/
def difference (span : Option Span) : Node where
  kind := .binary .minus
  children := [
    { kind := .binary .plus, children := [.leaf (.variableRef "$a"), .leaf (.variableRef "$b")] },
    { kind := .negate, children := [.leaf (.variableRef "$c")] }]
  span

theorem difference_isOperatorTree (span : Option Span) : (difference span).IsOperatorTree :=
  .binary .minus
    (.binary .plus (.variable (by decide)) (.variable (by decide)))
    (.negate (.variable (by decide)))

end Sample

/-- The difference reads the same wherever it was found. -/
theorem sample_difference_sameShape :
    PrintStyle.print {} (Sample.difference none) = .ok "($a + $b) - -$c" ∧
      (Sample.difference none).sameShape (Sample.difference (some ⟨0, 15, 1, 1⟩)) = true :=
  ⟨rfl, ((Sample.difference_isOperatorTree none).sameShape_of_render_eq
    (Sample.difference_isOperatorTree _) {} none 0).2 rfl⟩

end MutationTesting
