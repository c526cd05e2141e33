import MutationTesting.Operator.Chain
import MutationTesting.Proofs.Tree.Place

/-! The text of a chain begins with the text of each of its links. -/
namespace MutationTesting

open PrintStyle

/-- The first child of a node of the kind is written in front, at the depth of the node and without
parentheses. -/
structure Kind.Fronts (kind : Kind) : Prop where
  clear : kind ≠ .other
  level : kind.opensBody = false
  front (style : PrintStyle) (depth count : Nat) :
    ∃ rest, style.template depth kind count = .child 0 false :: rest

namespace Kind

theorem fronts_receiver {kind : Kind} {slot : Nat} (h : kind.receiverSlot? = some slot) :
    slot = 0 ∧ kind.Fronts := by
  cases kind with
  | methodCall name => exact ⟨(Option.some.inj h).symm, by simp, rfl, fun _ _ _ => ⟨_, rfl⟩⟩
  | propertyFetch name => exact ⟨(Option.some.inj h).symm, by simp, rfl, fun _ _ _ => ⟨_, rfl⟩⟩
  | arrayAccess => exact ⟨(Option.some.inj h).symm, by simp, rfl, fun _ _ _ => ⟨_, rfl⟩⟩
  | _ => cases h

private theorem fronts_exprStmt : Kind.exprStmt.Fronts := ⟨by simp, rfl, fun _ _ _ => ⟨_, rfl⟩⟩

end Kind

namespace PrintStyle

variable {style : PrintStyle} {source : Option String} {depth : Nat}

private theorem layout_front {kind : Kind} {span : Option Span} {c : PrintedChild}
    {cs : List PrintedChild} {rest : List Piece} {s : String} (clear : kind ≠ .other)
    (front : style.template depth kind (cs.length + 1) = .child 0 false :: rest)
    (h : style.layout source depth kind span (c :: cs) = .ok s) :
    ∃ t u, c.text = .ok t ∧ writeAll kind (c :: cs) rest = .ok u ∧ s = t ++ u ∧
      ∀ c' t', c'.text = .ok t' →
        style.layout source depth kind span (c' :: cs) = .ok (t' ++ u) := by
  have absent : 0 ∉ slots rest := by
    have distinct := style.template_nodup depth kind (cs.length + 1)
    rw [front, slots_child] at distinct
    exact (List.nodup_cons.mp distinct).1
  have written (d : PrintedChild) : style.layout source depth kind span (d :: cs) =
      checkCount kind (cs.length + 1) >>= fun _ => do
        let t ← d.text
        let u ← writeAll kind (c :: cs) rest
        return t ++ u := by
    rw [layout_eq style source depth span _ clear, List.length_cons, front, writeAll,
      Piece.write_child (i := 0) rfl]
    have same : writeAll kind ((c :: cs).set 0 d) rest = writeAll kind (c :: cs) rest :=
      writeAll_set absent d
    rw [List.set_cons_zero] at same
    rw [same]
    rfl
  rw [written] at h
  obtain ⟨⟨⟩, counted, h⟩ := bind_eq_ok.mp h
  obtain ⟨t, ht, h⟩ := bind_eq_ok.mp h
  obtain ⟨u, hu, h⟩ := bind_eq_ok.mp h
  refine ⟨t, u, ht, hu, (Except.ok.inj h).symm, fun c' t' ht' => ?_⟩
  rw [written, counted, ht', hu]
  rfl

/-- A node in two parts: the text of its first child, and what follows it. -/
theorem render_front {n : Node} {s : String} (fronts : n.kind.Fronts)
    (h : style.render source depth n = .ok s) :
    ∃ c cs rest t u, n.children = c :: cs ∧
      style.template depth n.kind (cs.length + 1) = .child 0 false :: rest ∧
      style.render source depth c = .ok t ∧
      writeAll n.kind (n.children.map (style.printed source depth)) rest = .ok u ∧ s = t ++ u ∧
      ∀ c' t', style.render source depth c' = .ok t' →
        style.render source depth { n with children := c' :: cs } = .ok (t' ++ u) := by
  have level : innerDepth n.kind depth = depth := by
    rw [innerDepth, fronts.level, if_neg Bool.false_ne_true]
  rw [render_eq, level] at h
  cases hn : n.children with
  | nil =>
    rw [hn] at h
    obtain ⟨rest, front⟩ := fronts.front style depth 0
    obtain ⟨c, -, missing, -⟩ := ((layout_ok_iff fronts.clear).mp ⟨s, h⟩).2 0
      (by rw [List.map_nil, List.length_nil, front, slots_child]; exact List.mem_cons_self)
    cases missing
  | cons c cs =>
    rw [hn, List.map_cons] at h
    obtain ⟨rest, front⟩ := fronts.front style depth (cs.length + 1)
    obtain ⟨t, u, ht, hu, rfl, changed⟩ :=
      layout_front fronts.clear (by rw [List.length_map]; exact front) h
    refine ⟨c, cs, rest, t, u, rfl, front, ht, hu, rfl, fun c' t' ht' => ?_⟩
    rw [render_eq]
    dsimp only
    rw [level, List.map_cons]
    exact changed (style.printed source depth c') t' ht'

/-- The text of a node begins with the text `t` of the node `m` at a path, which whatever takes its
place replaces by its own; `u` is the rest. -/
structure Leads (style : PrintStyle) (source : Option String) (depth : Nat) (n : Node) (p : Path)
    (m : Node) (t u : String) : Prop where
  here : n.get? p = some m
  own : style.render source depth m = .ok t
  whole : style.render source depth n = .ok (t ++ u)
  replaced : ∀ r t', style.render source depth r = .ok t' →
    ∃ tree, n.set? p r = some tree ∧ style.render source depth tree = .ok (t' ++ u)

private theorem leads_root {n : Node} {s : String} (h : style.render source depth n = .ok s) :
    Leads style source depth n [] n s "" where
  here := rfl
  own := h
  whole := by rw [String.append_empty, h]
  replaced r t' hr := ⟨r, rfl, by rw [String.append_empty, hr]⟩

/-- What leads in the first child leads in the node. -/
private theorem leads_of_first {n c : Node} {cs : List Node} {s : String} (fronts : n.kind.Fronts)
    (children : n.children = c :: cs) (h : style.render source depth n = .ok s) :
    ∃ t u, style.render source depth c = .ok t ∧
      ∀ {p m t' v}, Leads style source depth c p m t' v →
        Leads style source depth n (0 :: p) m t' (v ++ u) := by
  obtain ⟨d, ds, -, t, u, hn, -, ht, -, rfl, changed⟩ := render_front fronts h
  obtain ⟨rfl, rfl⟩ := List.cons.inj (children.symm.trans hn)
  have first : n.children[0]? = some c := by rw [hn]; rfl
  refine ⟨t, u, ht, fun {p m t' v} leads => ?_⟩
  obtain rfl : t = t' ++ v := Except.ok.inj (ht.symm.trans leads.whole)
  refine ⟨(Node.get?_cons first p).trans leads.here, leads.own, ?_, fun r w hr => ?_⟩
  · rw [h, String.append_assoc]
  · obtain ⟨tree, replaced, hw⟩ := leads.replaced r w hr
    refine ⟨{ n with children := tree :: cs }, ?_, ?_⟩
    · rw [Node.set?, first]
      dsimp only
      rw [replaced, Option.map_some, hn, List.set_cons_zero]
    · rw [changed tree _ hw, String.append_assoc]

private theorem exists_leads_of_mem_linksFrom {base q : Path} {m : Node} :
    (n : Node) → {s : String} → (q, m) ∈ n.linksFrom base →
      style.render source depth n = .ok s →
      ∃ p t u, q = base ++ p ∧ Leads style source depth n p m t u
  | ⟨kind, [], span, a⟩, s, member, h => by
    rw [Node.linksFrom, List.mem_singleton] at member
    obtain ⟨rfl, rfl⟩ := Prod.mk.inj member
    exact ⟨[], s, "", (List.append_nil _).symm, leads_root h⟩
  | ⟨kind, c :: cs, span, a⟩, s, member, h => by
    rw [Node.linksFrom, List.mem_cons] at member
    rcases member with same | below
    · obtain ⟨rfl, rfl⟩ := Prod.mk.inj same
      exact ⟨[], s, "", (List.append_nil _).symm, leads_root h⟩
    · split at below
      · next slot found =>
        obtain ⟨rfl, fronts⟩ := Kind.fronts_receiver found
        obtain ⟨t, u, ht, lift⟩ := leads_of_first fronts rfl h
        obtain ⟨p, t', v, rfl, leads⟩ := exists_leads_of_mem_linksFrom c below ht
        exact ⟨0 :: p, t', v ++ u, by simp [Path.child], lift leads⟩
      · cases below

/-- The text of a statement begins with the text of each link of its chain. -/
theorem exists_leads_of_mem_links {statement m : Node} {p : Path} {s : String}
    (kind : statement.kind = .exprStmt) (linked : (p, m) ∈ statement.links)
    (h : style.render source depth statement = .ok s) :
    ∃ t u, p ≠ [] ∧ Leads style source depth statement p m t u := by
  unfold Node.links at linked
  split at linked
  · cases linked
  · next c cs children =>
    have fronts : statement.kind.Fronts := kind ▸ Kind.fronts_exprStmt
    obtain ⟨t, u, ht, lift⟩ := leads_of_first fronts children h
    obtain ⟨q, t', v, rfl, leads⟩ := exists_leads_of_mem_linksFrom c linked ht
    exact ⟨t', v ++ u, List.cons_ne_nil _ _, lift leads⟩

end PrintStyle
end MutationTesting
