import Mathlib.Data.List.Nodup
import MutationTesting.Proofs.Except
import MutationTesting.Tree.Printer

/-! The layout of a node as a row of fixed texts and children.

Whatever its kind, a node is written from left to right, and every child is written once at most.
So the text of a node has one place at most for a child, and what stands around it does not depend
on that child. -/
namespace MutationTesting

namespace PrintedChild

def written (operand : Bool) (c : PrintedChild) : Except ShapeError String :=
  if operand then c.operand else c.text

def wrap (operand loose : Bool) (t : String) : String :=
  if operand && loose then "(" ++ t ++ ")" else t

theorem written_of_ok {c : PrintedChild} {t : String} (operand : Bool) (h : c.text = .ok t) :
    c.written operand = .ok (wrap operand c.loose t) := by
  cases operand with
  | false => exact h
  | true =>
    rw [written, if_pos rfl, PrintedChild.operand, h]
    rfl

theorem text_of_written {c : PrintedChild} {s : String} {operand : Bool}
    (h : c.written operand = .ok s) : ∃ t, c.text = .ok t := by
  cases ht : c.text with
  | ok t => exact ⟨t, rfl⟩
  | error e =>
    rw [written, PrintedChild.operand, ht] at h
    cases operand <;> cases h

end PrintedChild

namespace PrintStyle

inductive Piece where
  | lit (t : String)
  | child (i : Nat) (operand : Bool)

theorem pick_eq_ok {kind : Kind} {cs : List PrintedChild} {i : Nat} {c : PrintedChild} :
    pick kind cs i = .ok c ↔ cs[i]? = some c := by
  unfold pick
  cases cs[i]? <;> simp

namespace Piece

def child? : Piece → Option Nat
  | lit _ => none
  | child i _ => some i

def write (kind : Kind) (cs : List PrintedChild) : Piece → Except ShapeError String
  | lit t => .ok t
  | child i operand => do (← pick kind cs i).written operand

theorem write_child {kind : Kind} {cs : List PrintedChild} {i : Nat} {c : PrintedChild}
    (here : cs[i]? = some c) (operand : Bool) :
    (child i operand).write kind cs = c.written operand := by
  rw [write, pick_eq_ok.mpr here]
  rfl

end Piece

/-- The children that pieces write, from left to right. -/
def slots (ps : List Piece) : List Nat := ps.filterMap Piece.child?

def writeAll (kind : Kind) (cs : List PrintedChild) : List Piece → Except ShapeError String
  | [] => .ok ""
  | p :: ps => do
    let t ← p.write kind cs
    let rest ← writeAll kind cs ps
    return t ++ rest

theorem writeAll_append (kind : Kind) (cs : List PrintedChild) (ps qs : List Piece) :
    writeAll kind cs (ps ++ qs) = do
      let s ← writeAll kind cs ps
      let t ← writeAll kind cs qs
      return s ++ t := by
  induction ps with
  | nil => cases hq : writeAll kind cs qs <;> simp [writeAll, hq]
  | cons p ps ih =>
    rw [List.cons_append, writeAll, writeAll, ih]
    cases p.write kind cs with
    | error e => rfl
    | ok t =>
      cases writeAll kind cs ps with
      | error e => rfl
      | ok s =>
        cases writeAll kind cs qs with
        | error e => rfl
        | ok r => simp [String.append_assoc]

/-- Neighbouring children, the first of which is child `first`, with a separator between them. -/
def separated (separator : String) : (first count : Nat) → List Piece
  | _, 0 => []
  | first, 1 => [.child first false]
  | first, count + 2 =>
    .child first false :: .lit separator :: separated separator (first + 1) (count + 1)

def lines (style : PrintStyle) (depth : Nat) : (first count : Nat) → List Piece
  | _, 0 => []
  | first, count + 1 =>
    .lit (style.indentation depth) :: .child first false :: .lit "\n" ::
      lines style depth (first + 1) count

def bodyPieces (style : PrintStyle) (depth count : Nat) : List Piece :=
  if count = 0 then [.lit "\x7b\x7d"]
  else .lit "\x7b\n" :: lines style (depth + 1) 0 count ++ [.lit (style.indentation depth ++ "\x7d")]

def argumentPieces (first count : Nat) : List Piece :=
  .lit "(" :: separated ", " first count ++ [.lit ")"]

/-- The pieces of a node with so many children. An opaque node has none. -/
def template (style : PrintStyle) (depth : Nat) (kind : Kind) (count : Nat) : List Piece :=
  match kind with
  | .module => separated "\n" 0 count
  | .classDecl name => .lit ("class " ++ name ++ " ") :: style.bodyPieces depth count
  | .method name => .lit ("public function " ++ name ++ "() ") :: style.bodyPieces depth count
  | .block => style.bodyPieces depth count
  | .conditional =>
    [.lit "if (", .child 0 false, .lit ") ", .child 1 false] ++
      if 2 < count then [.lit " else ", .child 2 false] else []
  | .exprStmt => [.child 0 false, .lit ";"]
  | .returnStmt =>
    if 0 < count then [.lit "return ", .child 0 false, .lit ";"] else [.lit "return;"]
  | .methodCall name =>
    .child 0 false :: .lit (style.memberAccess ++ name) :: argumentPieces 1 (count - 1)
  | .functionCall name => .lit name :: argumentPieces 0 count
  | .staticCall scope name => .lit (scope ++ style.staticAccess ++ name) :: argumentPieces 0 count
  | .propertyFetch name => [.child 0 false, .lit (style.memberAccess ++ name)]
  | .staticPropertyFetch scope name | .classConstFetch scope name =>
    [.lit (scope ++ style.staticAccess ++ name)]
  | .arrayAccess => [.child 0 false, .lit "[", .child 1 false, .lit "]"]
  | .variableRef name | .constFetch name => [.lit name]
  | .binary op => [.child 0 true, .lit (" " ++ op.symbol ++ " "), .child 1 true]
  | .assign => [.child 0 false, .lit " = ", .child 1 false]
  | .compoundAssign op => [.child 0 false, .lit (" " ++ op.symbol ++ "= "), .child 1 false]
  | .negate => [.lit "-", .child 0 true]
  | .int value => [.lit (toString value.toInt)]
  | .float value => [.lit value.literalText]
  | .str value => [.lit (stringLiteral value)]
  | .bool value => [.lit (if value then "true" else "false")]
  | .null => [.lit "null"]
  | .other => []

section Layout

variable (kind : Kind)

private theorem write_first (before : List PrintedChild) (c : PrintedChild)
    (after : List PrintedChild) :
    Piece.write kind (before ++ c :: after) (.child before.length false) = c.text :=
  Piece.write_child (by simp) false

private theorem joined_eq (separator : String) (before cs : List PrintedChild) :
    joined separator cs =
      writeAll kind (before ++ cs) (separated separator before.length cs.length) := by
  induction cs generalizing before with
  | nil => rfl
  | cons c cs ih =>
    cases cs with
    | nil =>
      rw [joined, List.length_singleton, separated, writeAll, write_first]
      cases c.text <;> simp [writeAll]
    | cons d ds =>
      have hn := ih (before ++ [c])
      rw [List.append_assoc, List.singleton_append, List.length_append, List.length_singleton] at hn
      rw [joined, hn]
      · change _ = writeAll kind _ (.child before.length false :: .lit separator ::
          separated separator (before.length + 1) (d :: ds).length)
        rw [writeAll, writeAll, write_first, Piece.write]
        cases c.text with
        | error e => rfl
        | ok t =>
          cases writeAll kind (before ++ c :: d :: ds)
            (separated separator (before.length + 1) (d :: ds).length) <;>
            simp [String.append_assoc]
      · exact fun h => nomatch h

private theorem statements_eq (style : PrintStyle) (depth : Nat) (before cs : List PrintedChild) :
    style.statements depth cs =
      writeAll kind (before ++ cs) (style.lines depth before.length cs.length) := by
  induction cs generalizing before with
  | nil => rfl
  | cons c cs ih =>
    have hn := ih (before ++ [c])
    rw [List.append_assoc, List.singleton_append, List.length_append, List.length_singleton] at hn
    rw [statements, hn, List.length_cons, lines, writeAll, writeAll, write_first, writeAll]
    cases c.text with
    | error e => rfl
    | ok t =>
      cases writeAll kind (before ++ c :: cs) (lines style depth (before.length + 1) cs.length) <;>
        simp [Piece.write, String.append_assoc]

private theorem body_eq (style : PrintStyle) (depth : Nat) (cs : List PrintedChild) :
    style.body depth cs = writeAll kind cs (style.bodyPieces depth cs.length) := by
  cases cs with
  | nil => rfl
  | cons c cs =>
    have hs := statements_eq kind style (depth + 1) [] (c :: cs)
    rw [List.nil_append, List.length_nil] at hs
    rw [body, bodyPieces, if_neg (by simp), if_neg (by simp), List.cons_append, writeAll,
      writeAll_append, hs]
    cases writeAll kind (c :: cs) (style.lines (depth + 1) 0 (c :: cs).length) <;>
      simp [writeAll, Piece.write, String.append_assoc]

private theorem arguments_eq (before cs : List PrintedChild) :
    arguments cs = writeAll kind (before ++ cs) (argumentPieces before.length cs.length) := by
  rw [arguments, joined_eq kind ", " before cs, argumentPieces, List.cons_append]
  simp only [writeAll, writeAll_append]
  cases writeAll kind (before ++ cs) (separated ", " before.length cs.length) <;>
    simp [Piece.write, String.append_assoc]

end Layout

/-- The layout of a node writes the pieces of its kind. -/
theorem layout_eq (style : PrintStyle) (source : Option String) (depth : Nat) {kind : Kind}
    (span : Option Span) (cs : List PrintedChild) (clear : kind ≠ .other) :
    style.layout source depth kind span cs =
      checkCount kind cs.length >>= fun _ =>
        writeAll kind cs (style.template depth kind cs.length) := by
  unfold layout
  refine congrArg (checkCount kind cs.length >>= ·) ?_
  funext _
  cases kind with
  | «module» => exact joined_eq _ _ [] cs
  | classDecl name =>
    simp only [template, writeAll, Piece.write, ok_bind, body_eq (.classDecl name)]
  | method name =>
    simp only [template, writeAll, Piece.write, ok_bind, body_eq (.method name)]
  | block => exact body_eq _ style depth cs
  | conditional =>
    cases ht : cs[2]? with
    | none =>
      have few : ¬ 2 < cs.length := by simpa using ht
      simp [template, few, writeAll, Piece.write, PrintedChild.written, String.append_assoc]
    | some other =>
      have many : 2 < cs.length := (List.getElem?_eq_some_iff.mp ht).1
      have third : pick .conditional cs 2 = .ok other := by rw [pick, ht]
      simp [template, many, third, writeAll, Piece.write, PrintedChild.written, String.append_assoc]
  | exprStmt =>
    simp [template, writeAll, Piece.write, PrintedChild.written]
  | returnStmt =>
    cases cs with
    | nil => simp [template, writeAll, Piece.write]
    | cons value rest =>
      simp [template, writeAll, Piece.write, pick, PrintedChild.written, String.append_assoc]
  | methodCall name =>
    cases cs with
    | nil => simp [template, writeAll, Piece.write, pick]
    | cons receiver args =>
      have hn : arguments args =
          writeAll (.methodCall name) (receiver :: args) (argumentPieces 1 args.length) :=
        arguments_eq _ [receiver] args
      simp [template, writeAll, Piece.write, pick, PrintedChild.written, String.append_assoc, hn]
  | functionCall name =>
    simp only [template, writeAll, Piece.write, ok_bind, arguments_eq (.functionCall name) [] cs]
    rfl
  | staticCall scope name =>
    simp only [template, writeAll, Piece.write, ok_bind,
      arguments_eq (.staticCall scope name) [] cs]
    rfl
  | propertyFetch name =>
    simp [template, writeAll, Piece.write, PrintedChild.written, String.append_assoc]
  | arrayAccess =>
    simp [template, writeAll, Piece.write, PrintedChild.written, String.append_assoc]
  | binary op =>
    simp [template, writeAll, Piece.write, PrintedChild.written, String.append_assoc]
  | assign =>
    simp [template, writeAll, Piece.write, PrintedChild.written, String.append_assoc]
  | compoundAssign op =>
    simp [template, writeAll, Piece.write, PrintedChild.written, String.append_assoc]
  | negate =>
    simp [template, writeAll, Piece.write, PrintedChild.written]
  | other => exact (clear rfl).elim
  | _ => simp [template, writeAll, Piece.write]

section Slots

@[simp] theorem slots_nil : slots [] = [] := rfl

@[simp] theorem slots_append (ps qs : List Piece) : slots (ps ++ qs) = slots ps ++ slots qs :=
  List.filterMap_append

@[simp] theorem slots_lit (t : String) (ps : List Piece) : slots (.lit t :: ps) = slots ps := rfl

@[simp] theorem slots_child (i : Nat) (operand : Bool) (ps : List Piece) :
    slots (.child i operand :: ps) = i :: slots ps :=
  rfl

theorem slots_separated (separator : String) (first count : Nat) :
    slots (separated separator first count) = List.range' first count := by
  induction count generalizing first with
  | zero => rfl
  | succ count ih =>
    cases count with
    | zero => rfl
    | succ count =>
      change first :: slots (separated separator (first + 1) (count + 1)) = _
      rw [ih, ← List.range'_succ]

private theorem slots_lines (style : PrintStyle) (depth first count : Nat) :
    slots (style.lines depth first count) = List.range' first count := by
  induction count generalizing first with
  | zero => rfl
  | succ count ih =>
    rw [lines, slots_lit, slots_child, slots_lit, ih, ← List.range'_succ]

theorem slots_bodyPieces (style : PrintStyle) (depth count : Nat) :
    slots (style.bodyPieces depth count) = List.range' 0 count := by
  unfold bodyPieces
  split
  · next none_ => rw [none_]; rfl
  · rw [List.cons_append, slots_lit, slots_append, slots_lines]
    exact List.append_nil _

theorem slots_argumentPieces (first count : Nat) :
    slots (argumentPieces first count) = List.range' first count := by
  rw [argumentPieces, List.cons_append, slots_lit, slots_append, slots_separated]
  exact List.append_nil _

/-- No child is written twice. -/
theorem template_nodup (style : PrintStyle) (depth : Nat) (kind : Kind) (count : Nat) :
    (slots (style.template depth kind count)).Nodup := by
  cases kind with
  | «module» => rw [template, slots_separated]; exact List.nodup_range'
  | classDecl name => rw [template, slots_lit, slots_bodyPieces]; exact List.nodup_range'
  | method name => rw [template, slots_lit, slots_bodyPieces]; exact List.nodup_range'
  | block => rw [template, slots_bodyPieces]; exact List.nodup_range'
  | functionCall name => rw [template, slots_lit, slots_argumentPieces]; exact List.nodup_range'
  | staticCall scope name =>
    rw [template, slots_lit, slots_argumentPieces]
    exact List.nodup_range'
  | methodCall name =>
    rw [template, slots_child, slots_lit, slots_argumentPieces, List.nodup_cons]
    exact ⟨by simp, List.nodup_range'⟩
  | conditional => by_cases many : 2 < count <;> simp [template, many]
  | returnStmt => by_cases some_ : 0 < count <;> simp [template, some_]
  | _ => simp [template]

/-- A child is written in one place, or not at all. -/
private theorem split_at_slot {ps : List Piece} (distinct : (slots ps).Nodup) (i : Nat) :
    i ∉ slots ps ∨
      ∃ before operand after, ps = before ++ .child i operand :: after ∧
        i ∉ slots before ∧ i ∉ slots after := by
  induction ps with
  | nil => exact .inl List.not_mem_nil
  | cons p ps ih =>
    cases p with
    | lit t =>
      rcases ih distinct with absent | ⟨before, operand, after, rfl, hb, ha⟩
      · exact .inl absent
      · exact .inr ⟨.lit t :: before, operand, after, rfl, hb, ha⟩
    | child j operand =>
      rw [slots_child, List.nodup_cons] at distinct
      by_cases same : j = i
      · subst same
        exact .inr ⟨[], operand, ps, rfl, List.not_mem_nil, distinct.1⟩
      · rcases ih distinct.2 with absent | ⟨before, operand', after, rfl, hb, ha⟩
        · refine .inl ?_
          rw [slots_child, List.mem_cons, not_or]
          exact ⟨fun h => same h.symm, absent⟩
        · refine .inr ⟨.child j operand :: before, operand', after, rfl, ?_, ha⟩
          rw [slots_child, List.mem_cons, not_or]
          exact ⟨fun h => same h.symm, hb⟩

/-- Pieces that do not write a child stay as they are when the child changes. -/
theorem writeAll_set {kind : Kind} {cs : List PrintedChild} {i : Nat} {ps : List Piece}
    (absent : i ∉ slots ps) (c : PrintedChild) :
    writeAll kind (cs.set i c) ps = writeAll kind cs ps := by
  induction ps with
  | nil => rfl
  | cons p ps ih =>
    cases p with
    | lit t => rw [writeAll, writeAll, ih absent]; rfl
    | child j operand =>
      rw [slots_child, List.mem_cons, not_or] at absent
      have other : pick kind (cs.set i c) j = pick kind cs j := by
        rw [pick, pick, List.getElem?_set_ne absent.1]
      rw [writeAll, writeAll, ih absent.2, Piece.write, Piece.write, other]

end Slots

/-- What becomes of the text of a node when one of its children changes: it stays as it is, or the
child has one place in it and nothing else changes. -/
theorem layout_set {style : PrintStyle} {source : Option String} {depth : Nat} {kind : Kind}
    {span : Option Span} {cs : List PrintedChild} {i : Nat} {c : PrintedChild} {s : String}
    (h : style.layout source depth kind span cs = .ok s) (here : cs[i]? = some c) :
    (∀ c', style.layout source depth kind span (cs.set i c') = .ok s) ∨
      ∃ pre post operand t, c.text = .ok t ∧
        s = pre ++ PrintedChild.wrap operand c.loose t ++ post ∧
        ∀ c' t', c'.text = .ok t' →
          style.layout source depth kind span (cs.set i c') =
            .ok (pre ++ PrintedChild.wrap operand c'.loose t' ++ post) := by
  by_cases clear : kind = .other
  · subst clear
    exact .inl fun c' => h
  rw [layout_eq style source depth span cs clear] at h
  obtain ⟨u, counted, h⟩ := bind_eq_ok.mp h
  have changed (c' : PrintedChild) : style.layout source depth kind span (cs.set i c') =
      writeAll kind (cs.set i c') (style.template depth kind cs.length) := by
    rw [layout_eq style source depth span _ clear, List.length_set, counted, ok_bind]
  rcases split_at_slot (style.template_nodup depth kind cs.length) i with
    absent | ⟨before, operand, after, hp, hb, ha⟩
  · refine .inl fun c' => ?_
    rw [changed, writeAll_set absent, h]
  · right
    rw [hp, writeAll_append, writeAll, Piece.write_child here] at h
    obtain ⟨pre, hpre, h⟩ := bind_eq_ok.mp h
    obtain ⟨rest, hrest, h⟩ := bind_eq_ok.mp h
    obtain ⟨w, hw, hrest⟩ := bind_eq_ok.mp hrest
    obtain ⟨post, hpost, hrest⟩ := bind_eq_ok.mp hrest
    obtain rfl := Except.ok.inj h
    obtain rfl := Except.ok.inj hrest
    obtain ⟨t, ht⟩ := PrintedChild.text_of_written hw
    rw [PrintedChild.written_of_ok operand ht] at hw
    obtain rfl := Except.ok.inj hw
    refine ⟨pre, post, operand, t, ht, (String.append_assoc ..).symm, ?_⟩
    intro c' t' ht'
    have there : (cs.set i c')[i]? = some c' :=
      List.getElem?_set_self (List.getElem?_eq_some_iff.mp here).1
    rw [changed, hp, writeAll_append, writeAll_set hb, hpre, ok_bind, writeAll, writeAll_set ha,
      hpost, Piece.write_child there, PrintedChild.written_of_ok operand ht']
    simp only [ok_bind, pure_eq_ok, String.append_assoc]

private theorem writeAll_ok_iff {kind : Kind} {cs : List PrintedChild} {ps : List Piece} :
    (∃ s, writeAll kind cs ps = .ok s) ↔
      ∀ i ∈ slots ps, ∃ c t, cs[i]? = some c ∧ c.text = .ok t := by
  induction ps with
  | nil => exact ⟨fun _ i h => absurd h List.not_mem_nil, fun _ => ⟨"", rfl⟩⟩
  | cons p ps ih =>
    cases p with
    | lit l =>
      rw [slots_lit, ← ih]
      constructor
      · rintro ⟨s, h⟩
        obtain ⟨t, -, h⟩ := bind_eq_ok.mp h
        obtain ⟨rest, h, -⟩ := bind_eq_ok.mp h
        exact ⟨rest, h⟩
      · rintro ⟨rest, h⟩
        exact ⟨l ++ rest, by rw [writeAll, h]; rfl⟩
    | child j operand =>
      rw [slots_child, List.forall_mem_cons, ← ih]
      constructor
      · rintro ⟨s, h⟩
        obtain ⟨w, hw, h⟩ := bind_eq_ok.mp h
        obtain ⟨rest, h, -⟩ := bind_eq_ok.mp h
        refine ⟨?_, rest, h⟩
        obtain ⟨c, hc, hw⟩ := bind_eq_ok.mp hw
        obtain ⟨t, ht⟩ := PrintedChild.text_of_written hw
        exact ⟨c, t, pick_eq_ok.mp hc, ht⟩
      · rintro ⟨⟨c, t, here, ht⟩, rest, h⟩
        rw [writeAll, h, Piece.write_child here, PrintedChild.written_of_ok operand ht]
        exact ⟨_, rfl⟩

theorem checkCount_eq_ok {kind : Kind} {count : Nat} :
    checkCount kind count = .ok () ↔ ∀ k, kind.arity? = some k → k = count := by
  unfold checkCount
  cases kind.arity? with
  | none => simp
  | some k => by_cases same : k = count <;> simp [same]

/-- A node of a kind of its own has a text as soon as it has its number of children and those that
are written have texts. -/
theorem layout_ok_iff {style : PrintStyle} {source : Option String} {depth : Nat} {kind : Kind}
    {span : Option Span} {cs : List PrintedChild} (clear : kind ≠ .other) :
    (∃ s, style.layout source depth kind span cs = .ok s) ↔
      (∀ k, kind.arity? = some k → k = cs.length) ∧
        ∀ i ∈ slots (style.template depth kind cs.length), ∃ c t, cs[i]? = some c ∧
          c.text = .ok t := by
  rw [layout_eq style source depth span cs clear, ← @writeAll_ok_iff kind, ← checkCount_eq_ok]
  constructor
  · rintro ⟨s, h⟩
    obtain ⟨⟨⟩, counted, h⟩ := bind_eq_ok.mp h
    exact ⟨counted, s, h⟩
  · rintro ⟨counted, s, h⟩
    exact ⟨s, by rw [counted, ok_bind, h]⟩

end PrintStyle
end MutationTesting
