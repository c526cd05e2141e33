import MutationTesting.Proofs.Tree.Place

/-! Which nodes of a tree its text shows: those that every node above them writes. -/
namespace MutationTesting

/-- Whether nodes of a kind write their child `i`. Opaque nodes are copied from the source,
conditionals and returns write no more children than their layouts have. -/
def Kind.writesChild : Kind → Nat → Bool
  | other, _ => false
  | conditional, i => i < 3
  | returnStmt, i => i < 1
  | _, _ => true

/-- Whether every node on the way to a path writes the child that the path goes on to. -/
def Node.shows : Node → Path → Bool
  | _, [] => true
  | n, i :: p =>
    n.kind.writesChild i &&
      match n.children[i]? with
      | some c => c.shows p
      | none => false

private theorem Node.shows_cons {n c : Node} {i : Nat} (here : n.children[i]? = some c) (p : Path) :
    n.shows (i :: p) = (n.kind.writesChild i && c.shows p) := by
  rw [shows, here]

namespace PrintStyle

variable {style : PrintStyle} {source : Option String} {depth : Nat}

/-- The children that a layout has room for are those that are written. -/
private theorem mem_slots_template {kind : Kind} {count i : Nat}
    (counted : ∀ k, kind.arity? = some k → k = count) (within : i < count) :
    i ∈ slots (style.template depth kind count) ↔ kind.writesChild i = true := by
  have fixed {k : Nat} (h : kind.arity? = some k) : i < k := counted k h ▸ within
  cases kind with
  | «module» | functionCall | staticCall =>
    simp [template, slots_separated, slots_argumentPieces, Kind.writesChild, within]
  | classDecl | method | block => simp [template, slots_bodyPieces, Kind.writesChild, within]
  | methodCall name =>
    simp only [template, slots_child, slots_lit, slots_argumentPieces, List.mem_cons,
      List.mem_range'_1, Kind.writesChild, iff_true]
    omega
  | conditional =>
    by_cases many : 2 < count
    · simp only [template, many, if_true, slots_lit, slots_child, slots_nil, List.cons_append,
        List.nil_append, List.mem_cons, List.not_mem_nil, or_false, Kind.writesChild,
        decide_eq_true_eq]
      omega
    · simp only [template, many, if_false, List.append_nil, slots_lit, slots_child, slots_nil,
        List.mem_cons, List.not_mem_nil, or_false, Kind.writesChild, decide_eq_true_eq]
      omega
  | returnStmt =>
    have some_ : 0 < count := by omega
    simp [template, some_, Kind.writesChild]
  | other => simp [template, Kind.writesChild]
  | exprStmt | propertyFetch | negate =>
    have first := fixed rfl
    simp only [template, slots_child, slots_lit, slots_nil, List.mem_cons, List.not_mem_nil,
      or_false, Kind.writesChild, iff_true]
    omega
  | arrayAccess | binary | assign | compoundAssign =>
    have second := fixed rfl
    simp only [template, slots_child, slots_lit, slots_nil, List.mem_cons, List.not_mem_nil,
      or_false, Kind.writesChild, iff_true]
    omega
  | staticPropertyFetch | variableRef | constFetch | classConstFetch | int | float | str | bool
  | null => exact absurd (fixed rfl) (Nat.not_lt_zero i)

section Layout

variable {kind : Kind} {span : Option Span} {cs : List PrintedChild} {i : Nat} {c : PrintedChild}
  {s : String}

private theorem layout_hidden (h : style.layout source depth kind span cs = .ok s)
    (within : i < cs.length) (hidden : kind.writesChild i = false) (c' : PrintedChild) :
    style.layout source depth kind span (cs.set i c') = .ok s := by
  by_cases clear : kind = .other
  · subst clear
    exact h
  · have absent : i ∉ slots (style.template depth kind cs.length) := by
      have counted := ((layout_ok_iff clear).mp ⟨s, h⟩).1
      rw [mem_slots_template counted within, hidden]
      exact Bool.false_ne_true
    rw [layout_eq style source depth span _ clear, List.length_set, writeAll_set absent,
      ← layout_eq style source depth span _ clear, h]

private theorem layout_shown (h : style.layout source depth kind span cs = .ok s)
    (here : cs[i]? = some c) (shown : kind.writesChild i = true) :
    ∃ pre post operand t, c.text = .ok t ∧ s = pre ++ PrintedChild.wrap operand c.loose t ++ post ∧
      ∀ c' t', c'.text = .ok t' → style.layout source depth kind span (cs.set i c') =
        .ok (pre ++ PrintedChild.wrap operand c'.loose t' ++ post) := by
  refine (layout_set h here).resolve_left fun same => ?_
  -- A child without a text would go unnoticed.
  have clear : kind ≠ .other := by
    rintro rfl
    cases shown
  have within : i < cs.length := (List.getElem?_eq_some_iff.mp here).1
  obtain ⟨counted, texts⟩ := (layout_ok_iff clear).mp ⟨s, same ⟨false, .error (.missingPath [])⟩⟩
  rw [List.length_set] at counted texts
  obtain ⟨d, t, hd, ht⟩ := texts i ((mem_slots_template counted within).mpr shown)
  rw [List.getElem?_set_self within] at hd
  obtain rfl := Option.some.inj hd
  cases ht

end Layout

section Replaced

variable {n m r tree : Node} {p : Path} {s s' : String}

/-- A node that the text does not show can be replaced without a trace. -/
theorem render_hidden (hidden : n.shows p = false) (replaced : n.set? p r = some tree)
    (h : style.render source depth tree = .ok s) : style.render source depth n = .ok s := by
  induction p generalizing n tree depth s with
  | nil => cases hidden
  | cons i p ih =>
    obtain ⟨c, c', hc, below, rfl⟩ := Node.exists_child_of_set? replaced
    rw [Node.shows_cons hc] at hidden
    have within : i < n.children.length := (List.getElem?_eq_some_iff.mp hc).1
    have back : ((n.children.map (style.printed source (innerDepth n.kind depth))).set i
          (style.printed source (innerDepth n.kind depth) c')).set i
          (style.printed source (innerDepth n.kind depth) c) =
        n.children.map (style.printed source (innerDepth n.kind depth)) := by
      rw [List.set_set, ← List.map_set, ← (List.getElem?_eq_some_iff.mp hc).2, List.set_getElem_self]
    rw [render_eq] at h ⊢
    rw [List.map_set] at h
    rw [← back]
    by_cases written : n.kind.writesChild i = true
    · rw [written, Bool.true_and] at hidden
      have loose : c'.kind.bindsLoosely = c.kind.bindsLoosely := by
        cases p with
        | nil => cases hidden
        | cons j q => rw [Node.kind_of_set?_cons below]
      obtain ⟨pre, post, operand, t, ht, rfl, changed⟩ :=
        layout_shown h (List.getElem?_set_self (by rwa [List.length_map])) written
      rw [changed (style.printed source _ c) t (ih hidden below ht)]
      simp only [printed, loose]
    · exact layout_hidden h (by rwa [List.length_set, List.length_map])
        (Bool.not_eq_true _ ▸ written) _

/-- A node that the text shows cannot be replaced by one with another text without a trace. -/
theorem render_shown (shown : n.shows p = true) (here : n.get? p = some m)
    (replaced : n.set? p r = some tree) (loose : r.kind.bindsLoosely = m.kind.bindsLoosely)
    (differ : ∀ depth t t', style.render source depth m = .ok t →
      style.render source depth r = .ok t' → t ≠ t')
    (h : style.render source depth n = .ok s) (h' : style.render source depth tree = .ok s') :
    s ≠ s' := by
  induction p generalizing n tree depth s s' with
  | nil =>
    obtain rfl := Option.some.inj here
    obtain rfl := Option.some.inj replaced
    exact differ depth s s' h h'
  | cons i p ih =>
    obtain ⟨c, c', hc, below, rfl⟩ := Node.exists_child_of_set? replaced
    rw [Node.get?_cons hc] at here
    rw [Node.shows_cons hc, Bool.and_eq_true] at shown
    obtain ⟨written, deeper⟩ := shown
    have within : i < n.children.length := (List.getElem?_eq_some_iff.mp hc).1
    have sameLoose : c'.kind.bindsLoosely = c.kind.bindsLoosely := by
      cases p with
      | nil =>
        obtain rfl := Option.some.inj here
        obtain rfl := Option.some.inj below
        exact loose
      | cons j q => rw [Node.kind_of_set?_cons below]
    rw [render_eq] at h h'
    rw [List.map_set] at h'
    obtain ⟨pre, post, operand, t, ht, rfl, changed⟩ :=
      layout_shown h (getElem?_printed hc) written
    obtain ⟨_, _, _, t', ht', -, -⟩ :=
      layout_shown h' (List.getElem?_set_self (by rwa [List.length_map])) written
    rw [changed _ t' ht'] at h'
    obtain rfl := Except.ok.inj h'
    obtain ⟨left, right, around⟩ := wrap_split operand c.kind.bindsLoosely
    simp only [printed, sameLoose, around, ne_eq, String.append_left_inj, String.append_right_inj]
    exact ih deeper here below ht ht'

end Replaced

end PrintStyle
end MutationTesting
