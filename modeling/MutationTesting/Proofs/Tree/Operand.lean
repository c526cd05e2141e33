import MutationTesting.Proofs.Text.Nesting
import MutationTesting.Proofs.Tree.Place

/-! The texts of operator expressions: two children around a sign, or one behind a minus, with
parentheses where the parent asks for them. -/
namespace MutationTesting

open Text PrintStyle

namespace Kind

/-- What stands between the two children of a kind that is written around a sign. -/
def sign? : Kind → Option (List Char)
  | binary op => some op.symbol.toList
  | assign => some ['=']
  | compoundAssign op => some (op.symbol.toList ++ ['='])
  | _ => none

/-- Kinds that put parentheses around the children that need them. -/
def encloses : Kind → Bool
  | binary _ | negate => true
  | _ => false

theorem bindsLoosely_of_sign? {kind : Kind} {sign : List Char} (h : kind.sign? = some sign) :
    kind.bindsLoosely = true := by
  cases kind <;> first | rfl | cases h

theorem compact_sign {kind : Kind} {sign : List Char} (h : kind.sign? = some sign) :
    Compact sign := by
  cases kind with
  | binary op =>
    obtain rfl := Option.some.inj h
    exact .of_all (by cases op <;> decide)
  | assign =>
    obtain rfl := Option.some.inj h
    exact .of_all (by decide)
  | compoundAssign op =>
    obtain rfl := Option.some.inj h
    exact .of_all (by cases op <;> decide)
  | _ => cases h

/-- The pieces of a text around a sign. -/
theorem topWords_sign {kind : Kind} {sign v w : List Char} (left : Closed v)
    (signed : kind.sign? = some sign) :
    topWords (v ++ ' ' :: (sign ++ ' ' :: w)) = topWords v ++ sign :: topWords w := by
  have middle := compact_sign signed
  rw [left.topWords_blank, middle.toClosed.topWords_blank, middle.whole]
  rfl

structure Pairs (kind : Kind) (operand : Bool) (sign : String) : Prop where
  clear : kind ≠ .other
  level : kind.opensBody = false
  two : kind.arity? = some 2
  around (style : PrintStyle) (depth : Nat) :
    style.template depth kind 2 = [.child 0 operand, .lit sign, .child 1 operand]

theorem pairs_of_sign? {kind : Kind} {sign : List Char} (h : kind.sign? = some sign) :
    kind.Pairs kind.encloses (String.ofList (' ' :: sign ++ [' '])) := by
  cases kind with
  | binary op =>
    obtain rfl := Option.some.inj h
    refine ⟨by simp, rfl, rfl, fun _ _ => ?_⟩
    cases op <;> rfl
  | assign =>
    obtain rfl := Option.some.inj h
    exact ⟨by simp, rfl, rfl, fun _ _ => rfl⟩
  | compoundAssign op =>
    obtain rfl := Option.some.inj h
    refine ⟨by simp, rfl, rfl, fun _ _ => ?_⟩
    cases op <;> rfl
  | _ => cases h

end Kind

private theorem PrintedChild.written_eq_ok {c : PrintedChild} {operand : Bool} {s : String} :
    c.written operand = .ok s ↔ ∃ t, c.text = .ok t ∧ s = wrap operand c.loose t := by
  constructor
  · intro h
    obtain ⟨t, ht⟩ := text_of_written h
    exact ⟨t, ht, Except.ok.inj (h.symm.trans (written_of_ok operand ht))⟩
  · rintro ⟨t, ht, rfl⟩
    exact written_of_ok operand ht

namespace PrintStyle

variable {style : PrintStyle} {source : Option String} {depth : Nat} {span : Option Span}
  {cs : List PrintedChild} {s : String}

theorem layout_pair_iff {kind : Kind} {operand : Bool} {sign : String}
    (pairs : kind.Pairs operand sign) :
    style.layout source depth kind span cs = .ok s ↔
      ∃ a b l r, cs = [a, b] ∧ a.written operand = .ok l ∧ b.written operand = .ok r ∧
        s = l ++ (sign ++ r) := by
  have written (a b : PrintedChild) : writeAll kind [a, b] (style.template depth kind 2) = do
      let l ← a.written operand
      let r ← b.written operand
      return l ++ (sign ++ r) := by
    rw [pairs.around, writeAll, writeAll, writeAll, Piece.write_child rfl, Piece.write_child rfl]
    cases a.written operand with
    | error e => rfl
    | ok l => cases b.written operand <;> simp [writeAll, Piece.write]
  rw [layout_eq style source depth span cs pairs.clear]
  constructor
  · intro h
    obtain ⟨⟨⟩, counted, h⟩ := bind_eq_ok.mp h
    obtain ⟨a, b, rfl⟩ := List.length_eq_two.mp (checkCount_eq_ok.mp counted 2 pairs.two).symm
    obtain ⟨l, hl, h⟩ := bind_eq_ok.mp ((written a b).symm.trans h)
    obtain ⟨r, hr, h⟩ := bind_eq_ok.mp h
    exact ⟨a, b, l, r, rfl, hl, hr, (Except.ok.inj h).symm⟩
  · rintro ⟨a, b, l, r, rfl, hl, hr, rfl⟩
    have counted : checkCount kind [a, b].length = .ok () :=
      checkCount_eq_ok.mpr fun k hk => Option.some.inj (hk.symm.trans pairs.two)
    rw [counted, ok_bind]
    exact (written a b).trans (by rw [hl, hr]; rfl)

private theorem layout_negate_iff :
    style.layout source depth .negate span cs = .ok s ↔
      ∃ a t, cs = [a] ∧ a.written true = .ok t ∧ s = "-" ++ t := by
  have written (a : PrintedChild) : writeAll .negate [a] (style.template depth .negate 1) =
      a.written true >>= fun t => .ok ("-" ++ t) := by
    rw [template, writeAll, writeAll, Piece.write_child rfl]
    cases a.written true <;> simp [writeAll, Piece.write]
  rw [layout_eq style source depth span cs (by simp)]
  constructor
  · intro h
    obtain ⟨⟨⟩, counted, h⟩ := bind_eq_ok.mp h
    obtain ⟨a, rfl⟩ := List.length_eq_one_iff.mp (checkCount_eq_ok.mp counted 1 rfl).symm
    obtain ⟨t, ht, h⟩ := bind_eq_ok.mp ((written a).symm.trans h)
    exact ⟨a, t, rfl, ht, (Except.ok.inj h).symm⟩
  · rintro ⟨a, t, rfl, ht, rfl⟩
    exact (written a).trans (by rw [ht]; rfl)

end PrintStyle

namespace Node

def Reads (style : PrintStyle) (source : Option String) (depth : Nat) (n : Node)
    (t : List Char) : Prop :=
  style.render source depth n = .ok (String.ofList t)

/-- The text of a node as the child of a node of another kind. -/
def within (kind : Kind) (n : Node) (t : List Char) : List Char :=
  if kind.encloses && n.kind.bindsLoosely then '(' :: t ++ [')'] else t

variable {style : PrintStyle} {source : Option String} {depth : Nat} {kind : Kind}
  {cs : List Node} {span : Option Span} {a : Attributes} {n : Node} {t t' : List Char}

theorem Reads.unique (h : n.Reads style source depth t) (h' : n.Reads style source depth t') :
    t = t' :=
  String.ofList_injective (Except.ok.inj (h.symm.trans h'))

private theorem wrap_ofList (kind : Kind) (n : Node) (t : List Char) :
    PrintedChild.wrap kind.encloses n.kind.bindsLoosely (String.ofList t) =
      String.ofList (n.within kind t) := by
  rw [PrintedChild.wrap, within]
  split
  · exact String.toList_inj.mp (by simp)
  · rfl

private theorem written_printed_eq_ok {s : String} :
    (style.printed source depth n).written kind.encloses = .ok s ↔
      ∃ t, n.Reads style source depth t ∧ s = String.ofList (n.within kind t) := by
  rw [PrintedChild.written_eq_ok]
  constructor
  · rintro ⟨s, h, rfl⟩
    exact ⟨s.toList, by rw [Reads, String.ofList_toList]; exact h,
      by rw [← wrap_ofList, String.ofList_toList]; rfl⟩
  · rintro ⟨t, h, rfl⟩
    exact ⟨String.ofList t, h, (wrap_ofList kind n t).symm⟩

theorem reads_pair_iff {sign : List Char} (signed : kind.sign? = some sign) :
    Reads style source depth ⟨kind, cs, span, a⟩ t ↔
      ∃ l r u v, cs = [l, r] ∧ l.Reads style source depth u ∧ r.Reads style source depth v ∧
        t = l.within kind u ++ ' ' :: (sign ++ ' ' :: r.within kind v) := by
  have pairs := Kind.pairs_of_sign? signed
  have level : innerDepth kind depth = depth := by
    rw [innerDepth, pairs.level, if_neg Bool.false_ne_true]
  rw [Reads, render_eq, layout_pair_iff pairs]
  dsimp only
  rw [level]
  constructor
  · rintro ⟨b, c, x, y, children, hx, hy, same⟩
    obtain ⟨l, rest, rfl, rfl, hl⟩ := List.map_eq_cons_iff.mp children
    obtain ⟨r, rest, rfl, rfl, hr⟩ := List.map_eq_cons_iff.mp hl
    obtain rfl := List.map_eq_nil_iff.mp hr
    obtain ⟨u, hu, rfl⟩ := written_printed_eq_ok.mp hx
    obtain ⟨v, hv, rfl⟩ := written_printed_eq_ok.mp hy
    refine ⟨l, r, u, v, rfl, hu, hv, ?_⟩
    have lists := congrArg String.toList same
    simpa using lists
  · rintro ⟨l, r, u, v, rfl, hu, hv, rfl⟩
    refine ⟨_, _, _, _, rfl, written_printed_eq_ok.mpr ⟨u, hu, rfl⟩,
      written_printed_eq_ok.mpr ⟨v, hv, rfl⟩, ?_⟩
    exact String.toList_inj.mp (by simp)

theorem reads_negate_iff :
    Reads style source depth ⟨.negate, cs, span, a⟩ t ↔
      ∃ x u, cs = [x] ∧ x.Reads style source depth u ∧ t = '-' :: x.within .negate u := by
  have written {c : Node} {s : String} :
      (style.printed source depth c).written (Kind.encloses .negate) = .ok s ↔
        ∃ t, c.Reads style source depth t ∧ s = String.ofList (c.within .negate t) :=
    written_printed_eq_ok
  rw [Reads, render_eq, layout_negate_iff]
  constructor
  · rintro ⟨b, s, children, hs, same⟩
    obtain ⟨x, rest, rfl, rfl, hx⟩ := List.map_eq_cons_iff.mp children
    obtain rfl := List.map_eq_nil_iff.mp hx
    obtain ⟨u, hu, rfl⟩ := written.mp hs
    refine ⟨x, u, rfl, hu, ?_⟩
    have lists := congrArg String.toList same
    simpa using lists
  · rintro ⟨x, u, rfl, hu, rfl⟩
    exact ⟨_, _, rfl, written.mpr ⟨u, hu, rfl⟩,
      String.toList_inj.mp (by simp)⟩

theorem reads_leaf {s : String}
    (own : style.layout source depth kind span [] = .ok s) :
    Reads style source depth ⟨kind, [], span, a⟩ s.toList := by
  rw [Reads, render_eq, String.ofList_toList]
  exact own

theorem within_of_loose (encloses : kind.encloses = true) (loose : n.kind.bindsLoosely = true) :
    n.within kind t = '(' :: t ++ [')'] := by
  rw [within, encloses, loose]
  rfl

theorem within_of_tight (tight : n.kind.bindsLoosely = false) : n.within kind t = t := by
  rw [within, tight, Bool.and_false]
  rfl

theorem within_of_open (open_ : kind.encloses = false) : n.within kind t = t := by
  rw [within, open_]
  rfl

theorem closed_within (kind : Kind) (n : Node) (h : Closed t) : Closed (n.within kind t) := by
  unfold within
  split
  · exact h.parentheses.toClosed
  · exact h

/-- Where a kind encloses its children, one that is a piece by itself or has parentheses is a piece
by itself. -/
theorem compact_within (encloses : kind.encloses = true) (h : Closed t)
    (tight : n.kind.bindsLoosely = false → Compact t) : Compact (n.within kind t) := by
  cases loose : n.kind.bindsLoosely with
  | false =>
    rw [within_of_tight loose]
    exact tight loose
  | true =>
    rw [within_of_loose encloses loose]
    exact h.parentheses

end Node

section Names

def isNameChar (c : Char) : Bool := c.isAlphanum || c == '_' || 127 < c.val

def isIdentifier (name : List Char) : Bool :=
  name.all isNameChar && name.head?.any fun c => !c.isDigit

def isVariable (name : List Char) : Bool :=
  match name with
  | '$' :: rest => isIdentifier rest
  | _ => false

variable {c : Char} {name : List Char}

theorem isQuiet_of_isNameChar (h : isNameChar c = true) : isQuiet c = true := by
  rw [isQuiet, decide_eq_true_eq]
  intro member
  simp only [List.mem_cons, List.not_mem_nil, or_false] at member
  rcases member with rfl | rfl | rfl | rfl | rfl | rfl <;> exact absurd h (by decide)

theorem isNameChar_of_isDigit (h : c.isDigit = true) : isNameChar c = true := by
  rw [isNameChar, Char.isAlphanum, h, Bool.or_true]
  rfl

theorem compact_of_isIdentifier (h : isIdentifier name = true) : Compact name := by
  rw [isIdentifier, Bool.and_eq_true, List.all_eq_true] at h
  exact .of_quiet fun c member => isQuiet_of_isNameChar (h.1 c member)

theorem exists_of_isVariable (h : isVariable name = true) :
    ∃ rest, name = '$' :: rest ∧ isIdentifier rest = true := by
  unfold isVariable at h
  split at h
  · next rest => exact ⟨rest, rfl, h⟩
  · cases h

theorem compact_of_isVariable (h : isVariable name = true) : Compact name := by
  obtain ⟨rest, rfl, named⟩ := exists_of_isVariable h
  have dollar : Compact ['$'] := .of_all (by decide)
  exact dollar.append (compact_of_isIdentifier named)

end Names

end MutationTesting
