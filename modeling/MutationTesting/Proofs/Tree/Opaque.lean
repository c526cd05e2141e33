import MutationTesting.Proofs.Tree.Place

/-! What of the source text gets into the text of a tree: what stands under the spans of opaque
nodes, and nothing else. -/
namespace MutationTesting

/-- Two sources have the same text, or both have none, under the span of every opaque node. -/
def Node.SourcesAgree (a b : String) (n : Node) : Prop :=
  n.Everywhere fun m => m.kind = .other → ∀ s, m.span = some s →
    Text.slice? a s.start s.stop = Text.slice? b s.start s.stop

structure PrintedChild.Keeps (c c' : PrintedChild) : Prop where
  loose : c.loose = c'.loose
  text : ∀ t, c.text = .ok t → c'.text = .ok t

theorem PrintedChild.Keeps.written {c c' : PrintedChild} {operand : Bool} {s : String}
    (keeps : c.Keeps c') (h : c.written operand = .ok s) : c'.written operand = .ok s := by
  obtain ⟨t, ht⟩ := text_of_written h
  rw [written_of_ok operand ht] at h
  rw [written_of_ok operand (keeps.text t ht), ← keeps.loose, h]

namespace PrintStyle

variable {style : PrintStyle} {source source' : Option String} {depth : Nat} {kind : Kind}
  {span : Option Span} {cs cs' : List PrintedChild} {s : String}

/-- Only opaque nodes are written from the source. -/
private theorem layout_source (clear : kind ≠ .other) :
    style.layout source depth kind span cs = style.layout source' depth kind span cs := by
  rw [layout_eq style source depth span cs clear, layout_eq style source' depth span cs clear]

private theorem layout_other :
    style.layout source depth .other span cs = verbatim .other source span := rfl

private theorem verbatim_congr {a b : String} (same : ∀ s, span = some s →
      Text.slice? a s.start s.stop = Text.slice? b s.start s.stop) :
    verbatim kind (some a) span = verbatim kind (some b) span := by
  cases span with
  | none => rfl
  | some s => simp only [verbatim, same s rfl]

/-- Sources that agree under the spans of the opaque nodes give the same text, or the same
error. -/
private theorem render_congr_source {a b : String} (depth : Nat) : (n : Node) → n.SourcesAgree a b →
    style.render (some a) depth n = style.render (some b) depth n
  | ⟨kind, cs, span, attributes⟩, agree => by
    obtain ⟨self, below⟩ := Node.everywhere_iff.mp agree
    have children : cs.map (style.printed (some a) (innerDepth kind depth)) =
        cs.map (style.printed (some b) (innerDepth kind depth)) := by
      apply List.map_congr_left
      intro c member
      rw [printed, printed, render_congr_source (innerDepth kind depth) c (below c member)]
    rw [render_eq, render_eq]
    dsimp only
    rw [children]
    by_cases opaque_ : kind = .other
    · subst opaque_
      rw [layout_other, layout_other, verbatim_congr (self rfl)]
    · exact layout_source opaque_

/-- Pieces that could be written are written the same way when the children keep their texts. -/
private theorem writeAll_keeps {ps : List Piece}
    (keeps : ∀ (i : Nat) (c : PrintedChild), cs[i]? = some c → ∃ c', cs'[i]? = some c' ∧ c.Keeps c')
    (h : writeAll kind cs ps = .ok s) : writeAll kind cs' ps = .ok s := by
  induction ps generalizing s with
  | nil => exact h
  | cons p ps ih =>
    obtain ⟨t, first, h⟩ := bind_eq_ok.mp h
    obtain ⟨rest, later, h⟩ := bind_eq_ok.mp h
    have again : p.write kind cs' = .ok t := by
      cases p with
      | lit l => exact first
      | child i operand =>
        obtain ⟨c, picked, written⟩ := bind_eq_ok.mp first
        obtain ⟨c', there, kept⟩ := keeps i c (pick_eq_ok.mp picked)
        rw [Piece.write_child there]
        exact kept.written written
    rw [writeAll, again, ok_bind, ih later]
    exact h

/-- What is written without a source is written the same with any source. -/
private theorem render_of_render_none (source : String) (depth : Nat) : (n : Node) → (t : String) →
    style.render none depth n = .ok t → style.render (some source) depth n = .ok t
  | ⟨kind, cs, span, attributes⟩, t, h => by
    have below : ∀ c ∈ cs, (style.printed none (innerDepth kind depth) c).Keeps
        (style.printed (some source) (innerDepth kind depth) c) := by
      intro c member
      exact ⟨rfl, render_of_render_none source (innerDepth kind depth) c⟩
    rw [render_eq] at h ⊢
    have clear : kind ≠ .other := by
      rintro rfl
      rw [layout_other] at h
      cases h
    rw [layout_eq style _ depth _ _ clear, List.length_map] at h ⊢
    obtain ⟨u, counted, h⟩ := bind_eq_ok.mp h
    rw [counted, ok_bind]
    apply writeAll_keeps _ h
    intro i c here
    rw [List.getElem?_map, Option.map_eq_some_iff] at here
    obtain ⟨m, inside, rfl⟩ := here
    exact ⟨_, getElem?_printed inside, below m (List.mem_of_getElem? inside)⟩

/-- At every depth of indentation the text of a tree depends on no more of the source than what
stands under the spans of its opaque nodes: two sources that agree there give the same text or the
same error. A tree that has a text without a source has that text with every source. At depth zero
this is what `printWith` and `print` return. -/
theorem render_reads_opaque_spans (style : PrintStyle) (depth : Nat) (n : Node) :
    (∀ a b, n.SourcesAgree a b →
      style.render (some a) depth n = style.render (some b) depth n) ∧
    ∀ t, style.render none depth n = .ok t →
      ∀ source, style.render (some source) depth n = .ok t := by
  constructor
  · intro a b agree
    exact render_congr_source depth n agree
  · intro t h source
    exact render_of_render_none source depth n t h

end PrintStyle

namespace Sample

def loopBody : Node where
  kind := .block
  children := [
    { kind := .other, span := some ⟨0, 12, 1, 1⟩, children := [.leaf (.variableRef "$xs")] },
    { kind := .exprStmt, children := [.leaf (.functionCall "done")] }]

end Sample

private theorem Node.sourcesAgree_loopBody {a b : String}
    (same : Text.slice? a 0 12 = Text.slice? b 0 12) : Sample.loopBody.SourcesAgree a b := by
  have leaf (kind : Kind) (clear : kind ≠ .other) : (Node.leaf kind).SourcesAgree a b :=
    everywhere_iff.mpr ⟨fun opaque_ => absurd opaque_ clear, nofun⟩
  refine everywhere_iff.mpr ⟨nofun, List.forall_mem_cons.mpr ⟨?_, ?_⟩⟩
  · refine everywhere_iff.mpr ⟨fun _ s here => ?_, List.forall_mem_singleton.mpr (leaf _ nofun)⟩
    obtain rfl := Option.some.inj here
    exact same
  · refine List.forall_mem_singleton.mpr (everywhere_iff.mpr ⟨nofun, ?_⟩)
    exact List.forall_mem_singleton.mpr (leaf _ nofun)

/-- Two sources that go on differently behind the loop, and two in which the span of the loop
reaches over the end. The call needs no source. -/
theorem PrintStyle.sample_render_reads_opaque_spans :
    Sample.loopBody.SourcesAgree "while ($x) ; a();" "while ($x) ; /* é */" ∧
    ({} : PrintStyle).render (some "while ($x) ; a();") 1 Sample.loopBody =
      ({} : PrintStyle).render (some "while ($x) ; /* é */") 1 Sample.loopBody ∧
    Sample.loopBody.SourcesAgree "while" "é" ∧
    ({} : PrintStyle).render (some "while") 1 Sample.loopBody =
      ({} : PrintStyle).render (some "é") 1 Sample.loopBody ∧
    ({} : PrintStyle).render none 1 (.leaf (.functionCall "done")) = .ok "done()" ∧
    ({} : PrintStyle).render (some "é") 1 (.leaf (.functionCall "done")) = .ok "done()" := by
  have behind : Sample.loopBody.SourcesAgree "while ($x) ; a();" "while ($x) ; /* é */" :=
    Node.sourcesAgree_loopBody (by decide +kernel)
  have short : Sample.loopBody.SourcesAgree "while" "é" :=
    Node.sourcesAgree_loopBody (by decide +kernel)
  have printed : ({} : PrintStyle).render none 1 (.leaf (.functionCall "done")) = .ok "done()" :=
    rfl
  have same := (render_reads_opaque_spans {} 1 Sample.loopBody).1
  exact ⟨behind, same _ _ behind, short, same _ _ short, printed,
    (render_reads_opaque_spans {} 1 _).2 _ printed "é"⟩

end MutationTesting
