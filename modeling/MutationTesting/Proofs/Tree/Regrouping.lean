import MutationTesting.Proofs.Tree.Expression

/-! Links of a chain whose receiver is an operator expression.

Receivers are written without parentheses, so behind an operator expression a link reads as a part
of the last operand, and the text is that of another tree as soon as the operand can take it. -/
namespace MutationTesting

open Text PrintStyle

def Kind.isOperator : Kind → Bool
  | binary _ | negate | assign | compoundAssign _ => true
  | _ => false

private theorem Kind.isAtomic_of_link {kind : Kind} (linked : kind.receiverSlot?.isSome = true) :
    kind.isAtomic = false := by
  cases kind <;> first | rfl | cases linked

private theorem Kind.of_isOperator {kind : Kind} (operator : kind.isOperator = true) :
    kind.isAtomic = false ∧ kind.receiverSlot? = none := by
  cases kind <;> first | exact ⟨rfl, rfl⟩ | exact absurd operator Bool.false_ne_true

private theorem Kind.isOperator_of_sign? {kind : Kind} {sign : List Char}
    (h : kind.sign? = some sign) : kind.isOperator = true := by
  cases kind <;> first | rfl | cases h

/-- What comes behind the text of an expression: a link, or the sign of an operator. -/
inductive Follower where
  | link
  | sign
deriving DecidableEq

namespace Node

/-- Whether the text of an operator expression can begin with the text of this one and go on with
what follows as a part of its last operand. Parentheses around that operand keep a link out of it,
and what follows a negative number belongs to its magnitude, unless there is none that large. -/
def regroups : Node → Follower → Bool
  | ⟨.methodCall _, r :: _, _, _⟩, _ | ⟨.propertyFetch _, r :: _, _, _⟩, _
  | ⟨.arrayAccess, r :: _, _, _⟩, _ => r.regroups .link
  | ⟨.binary _, [l, r], _, _⟩, f => f == .link && (!r.kind.bindsLoosely || l.regroups .sign)
  | ⟨.negate, [x], _, _⟩, f => f == .sign || !x.kind.bindsLoosely
  | ⟨.assign, _, _, _⟩, f | ⟨.compoundAssign _, _, _, _⟩, f => f == .link
  | ⟨kind, _, _, _⟩, _ => kind.isNegative && kind != .int Int64.minValue

variable {n c : Node} {cs : List Node} {f : Follower}

private theorem regroups_of_link (linked : n.kind.receiverSlot?.isSome = true)
    (children : n.children = c :: cs) : n.regroups f = c.regroups .link := by
  obtain ⟨kind, children', span, a⟩ := n
  obtain rfl : children' = c :: cs := children
  cases kind <;> first | rfl | exact absurd linked Bool.false_ne_true

private theorem regroups_of_isAtomic (atomic : n.kind.isAtomic = true) :
    n.regroups f = (n.kind.isNegative && n.kind != .int Int64.minValue) := by
  obtain ⟨kind, children, span, a⟩ := n
  cases kind <;> first | exact absurd atomic Bool.false_ne_true | rfl

private theorem tight_of_regroups_sign (h : n.regroups .sign = true) :
    n.kind.bindsLoosely = false := by
  obtain ⟨kind, children, span, a⟩ := n
  cases kind with
  | binary op =>
    match children, h with
    | [l, r], h => cases h
  | assign => cases h
  | compoundAssign op => cases h
  | _ => rfl

end Node

/-- Parentheses that are not followed by a blank. -/
def Captured (w : List Char) : Prop :=
  ∃ t c rest, Closed t ∧ w = '(' :: t ++ ')' :: c :: rest ∧ c ≠ ' '

/-- A piece that is no beginning of an operand. -/
def Held (w : List Char) : Prop := Captured w ∨ ∃ kind : Kind, kind.sign? = some w

/-- A text that cannot be taken apart into a sign and its operands. -/
structure Shut (t : List Char) : Prop where
  pieces : ∀ w ∈ (topWords t).tail, Held w
  minus : ∀ v rest, t = '-' :: v → (∀ c ∈ rest.head?, c = ' ') →
    Captured (v ++ rest) ∨ IsOutsized (v ++ rest)

inductive Opening : List Char → Prop
  | word {c : Char} {rest : List Char} (starts : startsWord c = true)
      (small : ¬ IsOutsized (c :: rest)) : Opening (c :: rest)
  | minus {c : Char} {rest : List Char} (inner : c ≠ ' ' ∧ c ≠ '=') : Opening ('-' :: c :: rest)
  | group {t rest : List Char} (closed : Closed t) (ends : ∀ c ∈ rest.head?, c = ' ') :
      Opening ('(' :: t ++ ')' :: rest)

namespace Opening

variable {t w : List Char}

private theorem head_ne (h : Opening t) : ∃ c rest, t = c :: rest ∧ c ≠ ' ' ∧ c ≠ '=' := by
  cases h with
  | @word c rest starts small =>
    refine ⟨c, rest, rfl, ?_, ?_⟩ <;> rintro rfl <;> exact absurd starts (by decide)
  | minus => exact ⟨'-', _, rfl, by decide, by decide⟩
  | group => exact ⟨'(', _, rfl, by decide, by decide⟩

/-- No sign begins like an operand, but for a minus, which a blank or an equals sign follows. -/
private theorem exists_of_sign? {kind : Kind} (signed : kind.sign? = some w) :
    ∃ c v, w = c :: v ∧ startsWord c = false ∧ c ≠ '(' ∧ (c = '-' → v = [] ∨ v = ['=']) := by
  cases kind with
  | binary op =>
    obtain rfl := Option.some.inj signed
    cases op <;> exact ⟨_, _, rfl, by decide⟩
  | assign =>
    obtain rfl := Option.some.inj signed
    exact ⟨_, _, rfl, by decide⟩
  | compoundAssign op =>
    obtain rfl := Option.some.inj signed
    cases op <;> exact ⟨_, _, rfl, by decide⟩
  | _ => cases signed

private theorem not_captured (h : Opening t) : ¬ Captured t := by
  rintro ⟨u, c, rest, closed, same, visible⟩
  cases h with
  | word starts small =>
    obtain ⟨rfl, -⟩ := List.cons.inj same
    exact absurd starts (by decide)
  | minus inner => exact absurd (List.cons.inj same).1 (by decide)
  | group closed' ends =>
    obtain ⟨-, rfl⟩ := closed'.append_close_inj closed (List.cons.inj same).2
    exact visible (ends c rfl)

private theorem not_isOutsized (h : Opening t) : ¬ IsOutsized t := by
  cases h with
  | word starts small => exact small
  | minus => exact not_isOutsized_of_head (by decide)
  | group => exact not_isOutsized_of_head (by decide)

private theorem not_sign {kind : Kind} {rest : List Char} (h : Opening (w ++ rest))
    (signed : kind.sign? = some w) (ends : ∀ c ∈ rest.head?, c = ' ') : False := by
  obtain ⟨c, v, rfl, apart, open_, minus⟩ := exists_of_sign? signed
  generalize same : c :: v ++ rest = t at h
  cases h with
  | word starts small =>
    obtain ⟨rfl, -⟩ := List.cons.inj same
    rw [starts] at apart
    cases apart
  | @minus d rest' inner =>
    obtain ⟨rfl, behind⟩ := List.cons.inj same
    rcases minus rfl with rfl | rfl
    · obtain rfl : rest = d :: rest' := behind
      exact inner.1 (ends d rfl)
    · exact inner.2 (List.cons.inj behind).1.symm
  | group closed ends' => exact open_ (List.cons.inj same).1

/-- The first piece of an operand is not one of those that are not. -/
private theorem not_held (h : Opening t) {ws : List (List Char)} (pieces : topWords t = w :: ws) :
    ¬ Held w := by
  obtain ⟨rest, rfl, ends⟩ := Nesting.exists_of_words_eq_cons pieces
  rintro (⟨u, c, more, closed, rfl, visible⟩ | ⟨kind, signed⟩)
  · exact h.not_captured ⟨u, c, more ++ rest, closed, by simp, visible⟩
  · exact h.not_sign signed ends

end Opening

namespace Node.Written

variable {n : Node} {t u : List Char}

private theorem opening_within {kind : Kind} (closed : Closed t)
    (own : ∀ {u}, (∀ c ∈ u.head?, endsNumber c = true) → Opening (t ++ u))
    (ends : ∀ c ∈ u.head?, c = ' ') : Opening (n.within kind t ++ u) := by
  unfold within
  split
  · rw [List.append_assoc]
    exact .group closed ends
  · refine own fun c first => ?_
    rw [ends c first]
    decide

/-- The text of an expression begins like an operand, whatever follows it. -/
theorem opening (h : Written n t) (ends : ∀ c ∈ u.head?, endsNumber c = true) :
    Opening (t ++ u) := by
  induction h generalizing u with
  | word spells word =>
    obtain ⟨c, rest, rfl, starts⟩ := word.starts
    exact .word starts (not_isOutsized_append word.small ends)
  | negative spells magnitude word =>
    obtain ⟨c, rest, rfl, starts⟩ := word.starts
    refine .minus ⟨?_, ?_⟩ <;> rintro rfl <;> exact absurd starts (by decide)
  | least => exact .minus (by decide)
  | link children linked receiver link attach ih =>
    rw [List.append_assoc]
    refine ih fun c first => ?_
    obtain ⟨d, rest, rfl, arrow⟩ := link.starts
    obtain rfl : d = c := by simpa using first
    rcases arrow with rfl | rfl <;> decide
  | @pair kind sign l r t u' span a signed left right ihl ihr =>
    rw [List.append_assoc]
    exact opening_within left.closed ihl (by simp)
  | @negate x t span a inner ih =>
    have first : Opening (x.within .negate t ++ []) := opening_within inner.closed ih (by simp)
    rw [List.append_nil] at first
    obtain ⟨c, rest, same, visible⟩ := first.head_ne
    rw [same]
    exact .minus visible

private theorem opening_of_within (h : Written n t) (kind : Kind) : Opening (n.within kind t) := by
  have first : Opening (n.within kind t ++ []) := opening_within h.closed h.opening (by simp)
  rwa [List.append_nil] at first

/-- A text that cannot be taken apart is not that of an operator expression. -/
private theorem not_shut (h : Written n t) (operator : n.kind.isOperator = true) : ¬ Shut t := by
  obtain ⟨notAtomic, notLink⟩ := Kind.of_isOperator operator
  intro shut
  cases h with
  | word spells word atomic => cases notAtomic.symm.trans atomic
  | negative spells magnitude word tight negative =>
    cases notAtomic.symm.trans (Kind.isAtomic_of_isNegative negative)
  | least spells kind =>
    rw [kind] at operator
    cases operator
  | link children linked =>
    rw [notLink] at linked
    cases linked
  | @pair kind sign l r t u span a signed left right =>
    -- The right operand begins with a piece behind the first one.
    obtain ⟨w, ws, pieces⟩ : ∃ w ws, topWords (r.within kind u) = w :: ws :=
      List.exists_cons_of_ne_nil topWords_ne_nil
    refine (right.opening_of_within kind).not_held pieces (shut.pieces w ?_)
    rw [Kind.topWords_sign (closed_within kind l left.closed) signed,
      List.tail_append_of_ne_nil topWords_ne_nil, pieces]
    simp
  | @negate x t span a inner =>
    have operand := inner.opening_of_within .negate
    rcases shut.minus _ [] rfl (by simp) with captured | outsized
    · exact operand.not_captured (by simpa using captured)
    · exact operand.not_isOutsized (by simpa using outsized)

private theorem shut_of_compact (whole : Compact t)
    (minus : ∀ v rest, t = '-' :: v → (∀ c ∈ rest.head?, c = ' ') →
      Captured (v ++ rest) ∨ IsOutsized (v ++ rest)) : Shut t where
  pieces w member := by
    rw [whole.whole] at member
    cases member
  minus := minus

private theorem captured_of_link (closed : Closed t) (link : LinkText u) (rest : List Char) :
    Captured ('(' :: t ++ [')'] ++ u ++ rest) := by
  obtain ⟨c, v, rfl, arrow⟩ := link.starts
  refine ⟨t, c, v ++ rest, closed, by simp, ?_⟩
  rcases arrow with rfl | rfl <;> decide

private theorem shut_within {kind : Kind} (encloses : kind.encloses = true) (h : Written n t)
    (own : n.kind.bindsLoosely = false → Shut t) : Shut (n.within kind t) := by
  cases loose : n.kind.bindsLoosely with
  | false =>
    rw [within_of_tight loose]
    exact own loose
  | true =>
    rw [within_of_loose encloses loose]
    exact shut_of_compact h.closed.parentheses fun v rest same =>
      absurd (List.cons.inj same).1 (by decide)

/-- Parentheses right of a sign keep a link out. -/
private theorem shut_sign {kind : Kind} {sign v : List Char} (signed : kind.sign? = some sign)
    (left : Closed v) (first : Shut v) (closed : Closed t) (follows : LinkText u) :
    Shut (v ++ ' ' :: (sign ++ ' ' :: ('(' :: t ++ [')'] ++ u))) where
  pieces w member := by
    have last := closed.parentheses.append follows.compact
    rw [Kind.topWords_sign left signed, last.whole, List.tail_append_of_ne_nil topWords_ne_nil,
      List.mem_append, List.mem_cons, List.mem_singleton] at member
    rcases member with before | rfl | rfl
    · exact first.pieces w before
    · exact .inr ⟨kind, signed⟩
    · exact .inl (by simpa using captured_of_link closed follows [])
  minus y rest same _ := by
    cases v with
    | nil => exact absurd (List.cons.inj same).1 (by decide)
    | cons c v =>
      rw [List.cons_append, List.cons.injEq] at same
      obtain ⟨rfl, rfl⟩ := same
      rw [List.append_assoc]
      exact first.minus v _ rfl (by simp)

/-- Texts that do not regroup with what follows are shut: those in front of a sign by themselves,
and those in front of a link with the link. -/
private theorem shut (h : Written n t) :
    (n.regroups .link = false → ∀ u, LinkText u → Shut (t ++ u)) ∧
      (n.regroups .sign = false → n.kind.bindsLoosely = false → Shut t) := by
  induction h with
  | @word n t spells word =>
    have head (v : List Char) (u : List Char) : t ++ u ≠ '-' :: v := by
      obtain ⟨c, rest, rfl, starts⟩ := word.starts
      intro same
      obtain ⟨rfl, -⟩ := List.cons.inj same
      exact absurd starts (by decide)
    refine ⟨fun _ u follows => ?_, fun _ _ => ?_⟩
    · exact shut_of_compact (word.compact.append follows.compact) fun v _ same =>
        absurd same (head v u)
    · exact shut_of_compact word.compact fun v _ same => absurd same (by simpa using head v [])
  | negative spells magnitude word tight negative more =>
    have regroups (f : Follower) := regroups_of_isAtomic (f := f)
      (Kind.isAtomic_of_isNegative negative)
    simp [regroups, negative, more]
  | least spells kind =>
    refine ⟨fun _ u follows => ?_, fun _ _ => ?_⟩
    · refine shut_of_compact (compact_least.append follows.compact) fun v rest same _ => .inr ?_
      obtain ⟨-, rfl⟩ := List.cons.inj same
      obtain ⟨c, u, rfl, arrow⟩ := follows.starts
      refine ⟨c :: u ++ rest, List.append_assoc .., fun d first => ?_⟩
      obtain rfl : c = d := by simpa using first
      rcases arrow with rfl | rfl <;> decide
    · refine shut_of_compact compact_least fun v rest same ends => .inr ?_
      obtain ⟨-, rfl⟩ := List.cons.inj same
      refine ⟨rest, rfl, fun c first => ?_⟩
      rw [ends c first]
      decide
  | link children linked receiver link attach ih =>
    rw [regroups_of_link linked children, regroups_of_link linked children]
    refine ⟨fun kept u follows => ?_, fun kept _ => ih.1 kept _ link⟩
    rw [List.append_assoc]
    exact ih.1 kept _ (link.append follows)
  | @pair kind sign l r t u span a signed left right ihl ihr =>
    refine ⟨fun kept v follows => ?_, fun _ tight => ?_⟩
    · cases kind with
      | binary op =>
        change (!r.kind.bindsLoosely || l.regroups .sign) = false at kept
        rw [Bool.or_eq_false_iff, Bool.not_eq_false'] at kept
        have first : Shut (l.within (.binary op) t) := shut_within rfl left (ihl.2 kept.2)
        have whole := shut_sign signed (closed_within _ l left.closed) first right.closed follows
        rw [within_of_loose (n := r) rfl kept.1]
        simpa using whole
      | assign => cases kept
      | compoundAssign op => cases kept
      | _ => cases signed
    · rw [Kind.bindsLoosely_of_sign? signed] at tight
      cases tight
  | @negate x t span a inner ih =>
    refine ⟨fun kept u follows => ?_, fun kept => by cases kept⟩
    have loose : x.kind.bindsLoosely = true := by simpa [regroups] using kept
    rw [within_of_loose rfl loose]
    refine shut_of_compact ((compact_minus.append inner.closed.parentheses).append follows.compact)
      fun v rest same _ => .inl ?_
    obtain ⟨-, rfl⟩ := List.cons.inj same
    exact captured_of_link inner.closed follows rest

end Node.Written

namespace Node

variable {n x : Node} {t u : List Char} {f : Follower} {kind : Kind}

def before (f : Follower) (n : Node) (t : List Char) : List Char :=
  if f = .sign then n.within .negate t else t

/-- The text can follow that of every expression, and what comes out needs no parentheses. -/
def Follows (f : Follower) (u : List Char) : Prop :=
  ∀ {x t}, Spells x t → ∃ y : Node, y.kind.bindsLoosely = false ∧ y.Spells (x.before f t ++ u)

private theorem before_of_tight (tight : n.kind.bindsLoosely = false) : n.before f t = t := by
  unfold before
  split
  · exact within_of_tight tight
  · rfl

private theorem within_eq_before (encloses : kind.encloses = true) :
    n.within kind t = n.before .sign t := by
  rw [before, if_pos rfl, within, within, encloses]
  rfl

private theorem tight_of_isAtomic (atomic : n.kind.isAtomic = true) :
    n.kind.bindsLoosely = false := by
  cases h : n.kind <;> first | rfl | (rw [h] at atomic; cases atomic)

private theorem tight_of_link (linked : n.kind.receiverSlot?.isSome = true) :
    n.kind.bindsLoosely = false := by
  cases h : n.kind <;> first | rfl | (rw [h] at linked; cases linked)

/-- A link follows every expression, and so does what follows the link. -/
private theorem follows_link {cs : List Node} {v : List Char}
    (linked : n.kind.receiverSlot?.isSome = true)
    (attach : ∀ c' t', c'.Spells t' → Spells { n with children := c' :: cs } (t' ++ u)) :
    Follows .link u ∧ (Follows f v → Follows .link (u ++ v)) := by
  have tight (x : Node) : ({ n with children := x :: cs } : Node).kind.bindsLoosely = false :=
    tight_of_link linked
  refine ⟨fun {x t} spells => ⟨_, tight x, attach x t spells⟩, fun more x t spells => ?_⟩
  obtain ⟨y, tight', own⟩ := more (attach x t spells)
  rw [before_of_tight (tight x), List.append_assoc] at own
  exact ⟨y, tight', own⟩

/-- A sign and its right operand follow every expression if something makes one of all three. -/
private theorem follows_sign {op : BinaryOperator} {r : Node} (right : Written r t)
    (follows : Follows .link u) :
    Follows .sign (' ' :: (op.symbol.toList ++ ' ' :: r.within (.binary op) t) ++ u) := by
  intro x s spells
  have signed : (Kind.binary op).sign? = some op.symbol.toList := rfl
  have whole : Written ⟨.binary op, [x, r], none, {}⟩ _ :=
    .pair signed (written_of_spells spells) right
  obtain ⟨y, tight, own⟩ := follows whole.spells
  refine ⟨y, tight, ?_⟩
  rw [within_eq_before rfl] at own
  simpa [before] using own

/-- What follows a right side without parentheses becomes a part of it. -/
private theorem exists_pair {sign : List Char} {l r : Node} {s : List Char}
    (signed : kind.sign? = some sign) (left : Written l s) (right : Written r t)
    (bare : r.within kind t = t) (follows : Follows .link u) :
    ∃ m : Node, m.kind.isOperator = true ∧
      m.Spells (l.within kind s ++ ' ' :: (sign ++ ' ' :: r.within kind t) ++ u) := by
  obtain ⟨y, tight, own⟩ := follows right.spells
  have whole : Written ⟨kind, [l, y], none, {}⟩ _ := .pair signed left (written_of_spells own)
  refine ⟨⟨kind, [l, y], none, {}⟩, Kind.isOperator_of_sign? signed, ?_⟩
  rw [bare]
  simpa [within_of_tight tight, before] using whole.spells

private theorem exists_negate (h : Spells x t) (tight : x.kind.bindsLoosely = false) :
    ∃ m : Node, m.kind.isOperator = true ∧ m.Spells ('-' :: t) := by
  have whole : Written ⟨.negate, [x], none, {}⟩ _ := .negate (written_of_spells h)
  rw [within_of_tight tight] at whole
  exact ⟨_, rfl, whole.spells⟩

/-- What regroups with a text that can follow it makes, together with it, the text of an operator
expression. -/
private theorem Written.exists_operator (h : Written n t) (regroups : n.regroups f = true)
    (follows : Follows f u) : ∃ m : Node, m.kind.isOperator = true ∧ m.Spells (t ++ u) := by
  induction h generalizing f u with
  | word spells word atomic nonneg =>
    rw [regroups_of_isAtomic atomic, nonneg] at regroups
    cases regroups
  | negative spells magnitude word atomic =>
    obtain ⟨y, tight, own⟩ := follows magnitude
    rw [before_of_tight (tight_of_isAtomic atomic)] at own
    exact exists_negate own tight
  | least spells kind =>
    rw [regroups_of_isAtomic (by rw [kind]; rfl), kind] at regroups
    simp at regroups
  | link children linked receiver link attach ih =>
    rw [regroups_of_link linked children] at regroups
    rw [List.append_assoc]
    exact ih regroups ((follows_link linked attach).2 follows)
  | @pair kind sign l r t v span a signed left right ihl ihr =>
    cases kind with
    | binary op =>
      have both : (f == .link && (!r.kind.bindsLoosely || l.regroups .sign)) = true := regroups
      rw [Bool.and_eq_true, beq_iff_eq, Bool.or_eq_true, Bool.not_eq_true'] at both
      obtain ⟨rfl, tight | inside⟩ := both
      · exact exists_pair signed left right (within_of_tight tight) follows
      · obtain rfl := Option.some.inj signed
        rw [within_of_tight (tight_of_regroups_sign inside), List.append_assoc]
        exact ihl inside (follows_sign right follows)
    | assign =>
      obtain rfl : f = .link := beq_iff_eq.mp regroups
      exact exists_pair signed left right (within_of_open rfl) follows
    | compoundAssign op =>
      obtain rfl : f = .link := beq_iff_eq.mp regroups
      exact exists_pair signed left right (within_of_open rfl) follows
    | _ => cases signed
  | @negate x t span a inner ih =>
    obtain ⟨y, tight, own⟩ := follows inner.spells
    have same : x.before f t = x.within .negate t := by
      have either : (f == .sign || !x.kind.bindsLoosely) = true := regroups
      rw [Bool.or_eq_true, beq_iff_eq, Bool.not_eq_true'] at either
      rcases either with rfl | tight
      · rfl
      · rw [before_of_tight tight, within_of_tight tight]
    rw [same] at own
    exact exists_negate own tight

/-- The text of a link of a chain is that of an operator expression exactly if the receiver regroups
with the link. -/
private theorem Written.exists_operator_iff (h : Written n t)
    (linked : n.kind.receiverSlot?.isSome = true) :
    (∃ m : Node, m.kind.isOperator = true ∧ m.Spells t) ↔ n.regroups .link = true := by
  have tight : n.kind.bindsLoosely = false := tight_of_link linked
  have shut := h.shut.2
  cases h with
  | word spells word atomic => cases (Kind.isAtomic_of_link linked).symm.trans atomic
  | negative spells magnitude word atomic negative =>
    cases (Kind.isAtomic_of_link linked).symm.trans (Kind.isAtomic_of_isNegative negative)
  | least spells kind =>
    rw [kind] at linked
    cases linked
  | @link n c cs t u children linked receiver link attach =>
    rw [regroups_of_link linked children] at shut ⊢
    refine ⟨fun ⟨m, operator, spells⟩ => ?_, fun regroups => ?_⟩
    · by_contra kept
      exact (written_of_spells spells).not_shut operator
        (shut (Bool.eq_false_iff.mpr kept) tight)
    · exact receiver.exists_operator regroups (follows_link (f := .link) (v := []) linked attach).1
  | pair signed => cases tight.symm.trans (Kind.bindsLoosely_of_sign? signed)
  | negate => cases linked

end Node

open Node

/-- A link of a chain is printed like an operator expression exactly if its receiver regroups with
it. -/
theorem Node.exists_operator_iff_regroups {n : Node} {s : String} (expression : n.IsExpression)
    (linked : n.kind.receiverSlot?.isSome = true) (printed : PrintStyle.print {} n = .ok s) :
    (∃ m : Node, m.IsExpression ∧ m.kind.isOperator = true ∧ PrintStyle.print {} m = .ok s) ↔
      n.regroups .link = true := by
  have reads (m : Node) : PrintStyle.print {} m = .ok s ↔ m.Reads {} none 0 s.toList := by
    rw [Reads, String.ofList_toList]
    rfl
  have written := written_of_spells ⟨expression, (reads n).mp printed⟩
  rw [← written.exists_operator_iff linked]
  constructor
  · rintro ⟨m, own, operator, text⟩
    exact ⟨m, operator, own, (reads m).mp text⟩
  · rintro ⟨m, operator, spells⟩
    exact ⟨m, spells.expression, operator, (reads m).mpr spells.reads⟩

namespace Sample

def dollarA : Node := leaf (.variableRef "$a")

def dollarB : Node := leaf (.variableRef "$b")

def sumOf (left right : Node) : Node where
  kind := .binary .plus
  children := [left, right]

def fooOn (receiver : Node) : Node where
  kind := .methodCall "foo"
  children := [receiver]

private theorem isExpression_variables : dollarA.IsExpression ∧ dollarB.IsExpression := by
  constructor <;> exact isExpression_iff.mpr ⟨by decide, fun _ h => absurd h List.not_mem_nil⟩

private theorem isExpression_sumOf {left right : Node} (hl : left.IsExpression)
    (hr : right.IsExpression) : (sumOf left right).IsExpression :=
  isExpression_iff.mpr ⟨rfl, by simpa [sumOf] using ⟨hl, hr⟩⟩

private theorem isExpression_fooOn {receiver : Node} (h : receiver.IsExpression) :
    (fooOn receiver).IsExpression :=
  isExpression_iff.mpr ⟨show isIdentifier "foo".toList = true by decide, by simpa [fooOn] using h⟩

end Sample

open Sample

/-- A call on a sum reads as the sum of the left side and a call on the right one. -/
theorem print_call_on_sum :
    (fooOn (sumOf dollarA dollarB)).IsExpression ∧ (sumOf dollarA (fooOn dollarB)).IsExpression ∧
      PrintStyle.print {} (fooOn (sumOf dollarA dollarB)) = .ok "$a + $b->foo()" ∧
      PrintStyle.print {} (sumOf dollarA (fooOn dollarB)) = .ok "$a + $b->foo()" := by
  obtain ⟨ha, hb⟩ := isExpression_variables
  exact ⟨isExpression_fooOn (isExpression_sumOf ha hb),
    isExpression_sumOf ha (isExpression_fooOn hb), rfl, rfl⟩

/-- Parentheses around the last operand keep the call on the whole sum. -/
theorem print_call_on_nested_sum :
    ¬ ∃ m : Node, m.IsExpression ∧ m.kind.isOperator = true ∧
      PrintStyle.print {} m = .ok "$a + ($a + $b)->foo()" := by
  obtain ⟨ha, hb⟩ := isExpression_variables
  have expression := isExpression_fooOn (isExpression_sumOf ha (isExpression_sumOf ha hb))
  have printed : PrintStyle.print {} (fooOn (sumOf dollarA (sumOf dollarA dollarB))) =
      .ok "$a + ($a + $b)->foo()" := rfl
  rw [Node.exists_operator_iff_regroups expression rfl printed]
  decide

end MutationTesting
