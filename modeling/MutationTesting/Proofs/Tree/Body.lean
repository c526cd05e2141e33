import MutationTesting.Proofs.Tree.Place

/-! Trees without bodies read the same at every depth of indentation. -/
namespace MutationTesting

namespace Node

def BodiesEmpty (n : Node) : Prop :=
  ∀ q m, n.get? q = some m → m.kind.opensBody = true → m.children = []

namespace BodiesEmpty

variable {n c m : Node} {i : Nat} {p : Path}

theorem self (h : n.BodiesEmpty) : n.kind.opensBody = true → n.children = [] := h [] n rfl

theorem mem (h : n.BodiesEmpty) (member : c ∈ n.children) : c.BodiesEmpty :=
  (everywhere_iff.mp h).2 c member

theorem child (h : n.BodiesEmpty) (here : n.children[i]? = some c) : c.BodiesEmpty :=
  h.mem (List.mem_of_getElem? here)

theorem get? (h : n.BodiesEmpty) (here : n.get? p = some m) : m.BodiesEmpty := by
  induction p generalizing n with
  | nil =>
    obtain rfl := Option.some.inj here
    exact h
  | cons i p ih =>
    obtain ⟨c, hc, below⟩ := exists_child_of_get? here
    exact ih (h.child hc) below

/-- A node whose body counts has no children; any other kind may have children without bodies. -/
theorem of_children (h : n.kind.opensBody = true → n.children = [])
    (hc : ∀ c ∈ n.children, c.BodiesEmpty) : n.BodiesEmpty :=
  everywhere_iff.mpr ⟨h, hc⟩

theorem leaf (kind : Kind) : (Node.leaf kind).BodiesEmpty :=
  of_children (fun _ => rfl) fun _ member => absurd member List.not_mem_nil

theorem set? {r tree : Node} (h : n.BodiesEmpty) (hr : r.BodiesEmpty)
    (replaced : n.set? p r = some tree) : tree.BodiesEmpty := by
  induction p generalizing n tree with
  | nil =>
    obtain rfl := Option.some.inj replaced
    exact hr
  | cons i p ih =>
    obtain ⟨c, c', hc, below, rfl⟩ := exists_child_of_set? replaced
    refine of_children ?_ ?_
    · intro opens
      have none_ := h.self opens
      rw [none_] at hc
      cases hc
    · intro d member
      rcases List.mem_or_eq_of_mem_set member with old | rfl
      · exact h.mem old
      · exact ih (h.child hc) below

end BodiesEmpty
end Node

namespace PrintStyle

variable {style : PrintStyle} {source : Option String}

private theorem layout_depth {kind : Kind} {span : Option Span} {cs : List PrintedChild}
    (d d' : Nat) (h : kind.opensBody = true → cs = []) :
    style.layout source d kind span cs = style.layout source d' kind span cs := by
  cases kind with
  | classDecl name => rw [h rfl]; rfl
  | method name => rw [h rfl]; rfl
  | block => rw [h rfl]; rfl
  | _ => rfl

/-- Without bodies nothing in a tree is indented. -/
theorem render_depth (d d' : Nat) : (n : Node) → n.BodiesEmpty →
    style.render source d n = style.render source d' n
  | ⟨kind, cs, span, a⟩, h => by
    rw [render_eq, render_eq]
    have children : cs.map (style.printed source (innerDepth kind d)) =
        cs.map (style.printed source (innerDepth kind d')) := by
      refine List.map_congr_left fun c member => ?_
      rw [printed, printed, render_depth (innerDepth kind d) (innerDepth kind d') c (h.mem member)]
    dsimp only
    rw [children]
    exact layout_depth d d' fun opens => by rw [show cs = [] from h.self opens]; rfl

end PrintStyle
end MutationTesting
