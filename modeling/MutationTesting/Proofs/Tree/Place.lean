import MutationTesting.Proofs.Tree.Edit
import MutationTesting.Proofs.Tree.Template

/-! The place of a node in the text of the tree around it. -/
namespace MutationTesting

namespace PrintStyle

variable {style : PrintStyle} {source : Option String}

/-- A child as the printer hands it to its parent. -/
def printed (style : PrintStyle) (source : Option String) (depth : Nat) (c : Node) : PrintedChild :=
  ⟨c.kind.bindsLoosely, style.render source depth c⟩

private theorem renderChildren_eq_map (depth : Nat) (cs : List Node) :
    style.renderChildren source depth cs = cs.map (style.printed source depth) := by
  induction cs with
  | nil => rfl
  | cons c cs ih => rw [renderChildren, ih, List.map_cons, printed]

theorem getElem?_printed {depth i : Nat} {cs : List Node} {c : Node} (here : cs[i]? = some c) :
    (cs.map (style.printed source depth))[i]? = some (style.printed source depth c) := by
  rw [List.getElem?_map, here]
  rfl

def innerDepth (kind : Kind) (depth : Nat) : Nat := if kind.opensBody then depth + 1 else depth

theorem render_eq (depth : Nat) (n : Node) :
    style.render source depth n = style.layout source depth n.kind n.span
      (n.children.map (style.printed source (innerDepth n.kind depth))) := by
  obtain ⟨kind, cs, span, a⟩ := n
  rw [render, renderChildren_eq_map]
  rfl

/-- The text of a tree in which the text of the node at a path is changed as soon as it is written,
before it gets parentheses. -/
def renderMarked (style : PrintStyle) (source : Option String) (f : String → String) (depth : Nat) :
    Node → Path → Except ShapeError String
  | n, [] => (style.render source depth n).map f
  | n, i :: p =>
    match n.children[i]? with
    | none => .error (.missingPath (i :: p))
    | some c =>
      style.layout source depth n.kind n.span
        ((style.renderChildren source (innerDepth n.kind depth) n.children).set i
          ⟨c.kind.bindsLoosely, style.renderMarked source f (innerDepth n.kind depth) c p⟩)

/-- The text of a tree has the node at a path from byte `start` up to byte `stop`: marks that are
put around the text of the node come out there, whatever they are. -/
def Emits (style : PrintStyle) (source : String) (n : Node) (p : Path) (start stop : Nat) : Prop :=
  ∃ before inside after : String,
    start = Text.byteSize before.toList ∧ stop = start + Text.byteSize inside.toList ∧
    ∀ l r, style.renderMarked (some source) (fun t => l ++ t ++ r) 0 n p =
      .ok (before ++ l ++ inside ++ r ++ after)

/-- The text `t` of the node `m` at a path stands in the text `s` of the tree between `pre` and
`post`, and so does whatever takes its place there. -/
structure Placed (style : PrintStyle) (source : Option String) (depth : Nat) (n : Node) (p : Path)
    (m : Node) (s : String) (d : Nat) (pre t post : String) : Prop where
  own : style.render source d m = .ok t
  whole : s = pre ++ t ++ post
  marked : ∀ f, style.renderMarked source f depth n p = .ok (pre ++ f t ++ post)
  replaced : ∀ r u, r.kind.bindsLoosely = m.kind.bindsLoosely →
    style.render source d r = .ok u → ∃ tree, n.set? p r = some tree ∧
      tree.kind.bindsLoosely = n.kind.bindsLoosely ∧
      style.render source depth tree = .ok (pre ++ u ++ post)

private theorem placed_root {depth : Nat} {n : Node} {s : String}
    (h : style.render source depth n = .ok s) :
    Placed style source depth n [] n s depth "" s "" where
  own := h
  whole := by simp
  marked f := by simp [renderMarked, h, Except.map]
  replaced r u loose hr := ⟨r, rfl, loose, by simp [hr]⟩

/-- What is around a text when it is written for a child. -/
theorem wrap_split (operand loose : Bool) :
    ∃ l r, ∀ t, PrintedChild.wrap operand loose t = l ++ t ++ r := by
  unfold PrintedChild.wrap
  cases operand && loose
  · exact ⟨"", "", fun t => by simp⟩
  · exact ⟨"(", ")", fun t => by simp⟩

/-- The text of a tree does not depend on the node at a path, or it has a place for it. -/
private theorem render_placed {depth : Nat} {n m : Node} {p : Path} {s : String}
    (h : style.render source depth n = .ok s) (here : n.get? p = some m) :
    (∀ f, style.renderMarked source f depth n p = .ok s) ∨
      ∃ d pre t post, Placed style source depth n p m s d pre t post := by
  induction p generalizing depth n s with
  | nil =>
    obtain rfl := Option.some.inj here
    exact .inr ⟨depth, "", s, "", placed_root h⟩
  | cons i p ih =>
    obtain ⟨c, hc, below⟩ := Node.exists_child_of_get? here
    have marks (f : String → String) : style.renderMarked source f depth n (i :: p) =
        style.layout source depth n.kind n.span
          ((n.children.map (style.printed source (innerDepth n.kind depth))).set i
            ⟨c.kind.bindsLoosely, style.renderMarked source f (innerDepth n.kind depth) c p⟩) := by
      simp only [renderMarked, hc, renderChildren_eq_map]
    rw [render_eq] at h
    rcases layout_set h (getElem?_printed hc) with same | ⟨pre, post, operand, t, ht, rfl, changed⟩
    · exact .inl fun f => by rw [marks, same]
    · rcases ih ht below with same | ⟨d, pre', u, post', placed⟩
      · exact .inl fun f => by rw [marks, same, changed _ t rfl]; rfl
      · obtain ⟨l, r, around⟩ := wrap_split operand c.kind.bindsLoosely
        refine .inr ⟨d, pre ++ l ++ pre', u, post' ++ r ++ post, placed.own, ?_, ?_, ?_⟩
        · rw [printed, around, placed.whole]
          simp only [String.append_assoc]
        · intro f
          rw [marks, placed.marked, changed _ _ rfl, around]
          simp only [String.append_assoc]
        · intro m' u' loose hu
          obtain ⟨tree, replaced, treeLoose, rendered⟩ := placed.replaced m' u' loose hu
          refine ⟨{ n with children := n.children.set i tree }, ?_, rfl, ?_⟩
          · simp only [Node.set?, hc, replaced, Option.map_some]
          · rw [render_eq, List.map_set, changed _ _ rendered, printed, treeLoose, around]
            simp only [String.append_assoc]

/-- A place at which every text can stand is the one that the text has. -/
private theorem prefix_unique {a b x y : List Char} (h : ∀ l, a ++ l ++ x = b ++ l ++ y) :
    a.length ≤ b.length := by
  by_contra longer
  -- Were `b` shorter, a character of `a` would stand where the first one of `l` stands.
  have within : b.length < a.length := by omega
  obtain ⟨c, hc⟩ : ∃ c, c ≠ a[b.length] := by
    by_cases same : a[b.length] = 'a'
    · exact ⟨'b', by rw [same]; decide⟩
    · exact ⟨'a', fun h => same h.symm⟩
  have at_end := congrArg (fun cs => cs[b.length]?) (h [c])
  simp [List.getElem?_append, within] at at_end
  exact hc at_end.symm

private theorem append_marked_inj {a b x y : String} (h : ∀ l, a ++ l ++ x = b ++ l ++ y) :
    a = b ∧ x = y := by
  have hl (l : List Char) : a.toList ++ l ++ x.toList = b.toList ++ l ++ y.toList := by
    have := congrArg String.toList (h (String.ofList l))
    simpa using this
  have same : a.toList.length = b.toList.length :=
    Nat.le_antisymm (prefix_unique hl) (prefix_unique fun l => (hl l).symm)
  have none_ := hl []
  rw [List.append_nil, List.append_nil] at none_
  obtain ⟨ha, hx⟩ := List.append_inj none_ same
  exact ⟨String.toList_inj.mp ha, String.toList_inj.mp hx⟩

/-- Where a tree is said to have a node, the node has its place. -/
theorem Emits.placed {text : String} {n m : Node} {p : Path} {start stop : Nat} {s : String}
    (e : style.Emits text n p start stop) (h : style.printWith text n = .ok s)
    (here : n.get? p = some m) :
    ∃ d pre t post, Placed style (some text) 0 n p m s d pre t post ∧
      start = Text.byteSize pre.toList ∧ stop = start + Text.byteSize t.toList := by
  obtain ⟨before, inside, after, hstart, hstop, marks⟩ := e
  rcases render_placed h here with same | ⟨d, pre, t, post, placed⟩
  · have one := (same _).symm.trans (marks "" "")
    have two := (same _).symm.trans (marks "a" "")
    have size := congrArg String.length (Except.ok.inj (one.symm.trans two))
    simp at size
  · have texts (l r : String) :
        pre ++ l ++ (t ++ r ++ post) = before ++ l ++ (inside ++ r ++ after) := by
      have both := Except.ok.inj ((placed.marked _).symm.trans (marks l r))
      simpa only [String.append_assoc] using both
    have outer (r : String) := append_marked_inj fun l => texts l r
    obtain ⟨rfl, -⟩ := append_marked_inj fun r => (outer r).2
    exact ⟨d, pre, t, post, placed, (outer "").1 ▸ hstart, hstop⟩

end PrintStyle

open PrintStyle

variable {style : PrintStyle} {source : Option String} {depth : Nat}

def Node.Prints (style : PrintStyle) (source : Option String) (depth : Nat) (n : Node) : Prop :=
  ∃ s, style.render source depth n = .ok s

/-- A tree that prints goes on to do so when a node of it is replaced by one that prints wherever
the node did. -/
theorem Node.Prints.replace {n m r tree : Node} {p : Path} (h : n.Prints style source depth)
    (here : n.get? p = some m)
    (prints : ∀ depth, m.Prints style source depth → r.Prints style source depth)
    (replaced : n.set? p r = some tree) : tree.Prints style source depth := by
  induction p generalizing n tree depth with
  | nil =>
    obtain rfl := Option.some.inj here
    obtain rfl := Option.some.inj replaced
    exact prints depth h
  | cons i p ih =>
    obtain ⟨c, c', hc, below, rfl⟩ := exists_child_of_set? replaced
    rw [get?_cons hc] at here
    obtain ⟨s, h⟩ := h
    rw [render_eq] at h
    unfold Prints
    simp only [render_eq, List.map_set]
    rcases layout_set h (getElem?_printed hc) with same | ⟨pre, post, operand, t, ht, -, changed⟩
    · exact ⟨s, same _⟩
    · obtain ⟨t', ht'⟩ := ih ⟨t, ht⟩ here below
      exact ⟨_, changed _ t' ht'⟩

end MutationTesting
