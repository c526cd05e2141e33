import MutationTesting.Proofs.Digest.Digits
import MutationTesting.Proofs.Mutant.Independence
import MutationTesting.Proofs.Mutant.Origin
import MutationTesting.Proofs.Operator.Registry
import MutationTesting.Proofs.Text.Utf8
import MutationTesting.Proofs.Tree.Edit
import MutationTesting.Proofs.Tree.Path

/-! What an identifier is made from tells one mutant from every other; only the digest may not. -/
namespace MutationTesting

def Sha256.Collide (bytes : Nat) (x y : List UInt8) : Prop :=
  x ≠ y ∧ (digest x).take bytes = (digest y).take bytes

section Preimage

variable {file file' operator operator' : String} {path path' : Path} {ordinal ordinal' : Nat}

/-- The last mark splits a list, whatever stands before it. -/
private theorem append_last_inj {α : Type} {mark : α} {u v x y : List α} (hx : mark ∉ x)
    (hy : mark ∉ y) (h : u ++ mark :: x = v ++ mark :: y) : u = v ∧ x = y := by
  rcases List.append_eq_append_iff.mp h with ⟨w, rfl, same⟩ | ⟨w, rfl, same⟩
  · cases w with
    | nil => exact ⟨(List.append_nil u).symm, (List.cons.inj same).2⟩
    | cons b w =>
      obtain ⟨-, rfl⟩ := List.cons.inj same
      exact (hx (List.mem_append_right _ List.mem_cons_self)).elim
  · cases w with
    | nil => exact ⟨List.append_nil v, (List.cons.inj same).2.symm⟩
    | cons b w =>
      obtain ⟨-, rfl⟩ := List.cons.inj same
      exact (hy (List.mem_append_right _ List.mem_cons_self)).elim

private theorem length_littleEndian8 (n : Nat) : (littleEndian8 n).length = 8 := by
  rw [littleEndian8, List.length_reverse, Sha256.length_bigEndian]

private theorem littleEndian8_inj (h : littleEndian8 ordinal = littleEndian8 ordinal')
    (word : ordinal < Nat.pow 2 64) (word' : ordinal' < Nat.pow 2 64) : ordinal = ordinal' := by
  have same := Sha256.mod_eq_of_bigEndian_eq (List.reverse_inj.mp h)
  have bits : Nat.pow 256 8 = Nat.pow 2 64 := by decide
  rwa [bits, Nat.mod_eq_of_lt word, Nat.mod_eq_of_lt word'] at same

/-- The fields are read off from the end: the ordinal has eight bytes, and neither an operator nor a
path has a zero byte. Of the file nothing has to be known. -/
private theorem idPreimage_inj (clean : '\x00' ∉ operator.toList)
    (clean' : '\x00' ∉ operator'.toList) (word : ordinal < Nat.pow 2 64)
    (word' : ordinal' < Nat.pow 2 64)
    (h : idPreimage file path operator ordinal = idPreimage file' path' operator' ordinal') :
    file = file' ∧ path = path' ∧ operator = operator' ∧ ordinal = ordinal' := by
  have sizes (m n : Nat) : ((0 : UInt8) :: littleEndian8 m).length =
      ((0 : UInt8) :: littleEndian8 n).length := by
    rw [List.length_cons, List.length_cons, length_littleEndian8, length_littleEndian8]
  obtain ⟨h, last⟩ := List.append_inj' h (sizes _ _)
  have ordinals := littleEndian8_inj (List.cons.inj last).2 word word'
  obtain ⟨h, operators⟩ := append_last_inj (Text.zero_not_mem_toBytes clean)
    (Text.zero_not_mem_toBytes clean') h
  obtain ⟨files, paths⟩ := append_last_inj (Text.zero_not_mem_toBytes path.zero_not_mem_text)
    (Text.zero_not_mem_toBytes path'.zero_not_mem_text) h
  exact ⟨Text.toBytes_inj.mp files, Path.text_inj.mp (Text.toBytes_inj.mp paths),
    Text.toBytes_inj.mp operators, ordinals⟩

/-- Twelve digits are the first six bytes of a digest. -/
private theorem mutantId_eq_iff :
    mutantId file path operator ordinal = mutantId file' path' operator' ordinal' ↔
      (Sha256.digest (idPreimage file path operator ordinal)).take 6 =
        (Sha256.digest (idPreimage file' path' operator' ordinal')).take 6 := by
  have digits (message : List UInt8) : (Sha256.hexDigest message).take idLength =
      ((Sha256.digest message).take 6).flatMap Sha256.hexByte :=
    Sha256.take_flatMap_hexByte _ 6
  rw [mutantId, mutantId, String.ofList_inj, digits, digits, Sha256.flatMap_hexByte_inj]

end Preimage

theorem OperatorName.zero_not_mem_text (n : OperatorName) : '\x00' ∉ n.text.toList := by
  cases n <;> decide

namespace Proposed

/-- What tells a proposal from all others for the same tree. -/
def key (p : Proposed) : Path × String × Nat := (p.path, p.operator.text, p.ordinal)

def preimage (p : Proposed) (file : Location) : List UInt8 :=
  idPreimage file p.path p.operator.text p.ordinal

private theorem preimage_ne {p p' : Proposed} {file file' : Location}
    (word : p.ordinal < Nat.pow 2 64) (word' : p'.ordinal < Nat.pow 2 64)
    (differ : (file, p.key) ≠ (file', p'.key)) :
    p.preimage file ≠ p'.preimage file' := by
  intro same
  obtain ⟨files, paths, operators, ordinals⟩ := idPreimage_inj p.operator.zero_not_mem_text
    p'.operator.zero_not_mem_text word word' same
  exact differ (by rw [files, key, key, paths, operators, ordinals])

end Proposed

/-! How many proposals there can be for a node. -/

namespace Node

private theorem length_linksFrom_le (p : Path) : (n : Node) → (linksFrom p n).length ≤ n.size
  | ⟨k, [], s, a⟩ => by
    rw [linksFrom, size]
    exact Nat.le_add_right _ _
  | ⟨k, c :: cs, s, a⟩ => by
    rw [linksFrom, size, sizeChildren, List.length_cons]
    split
    · next slot _ =>
      have below := length_linksFrom_le (p.child slot) c
      omega
    · rw [List.length_nil]
      omega

private theorem length_links_le (n : Node) : n.links.length ≤ n.size := by
  obtain ⟨k, cs, s, a⟩ := n
  cases cs with
  | nil => exact Nat.zero_le _
  | cons c cs =>
    have below := length_linksFrom_le [0] c
    rw [size, sizeChildren]
    exact Nat.le_trans below (by omega)

private theorem size_pos (n : Node) : 0 < n.size := Nat.zero_lt_of_lt n.sizeChildren_lt_size

end Node

namespace Operator

private theorem length_proposals_le (o : Operator) (n : Node) :
    (o.proposals n).length ≤ n.size := by
  have one := n.size_pos
  cases o with
  | arithmetic swap =>
    rw [proposals, ArithmeticSwap.proposals]
    split
    · split <;> exact one
    · exact one
  | assignmentEqual =>
    rw [proposals, AssignmentEqual.proposals]
    split
    · split <;> exact one
    · exact one
  | equality swap =>
    rw [proposals, EqualitySwap.proposals]
    split <;> exact one
  | chainRemoval removal =>
    rw [proposals, ChainRemoval.proposals]
    split
    · next statement =>
      rw [List.length_map, ChainRemoval.eligibleCalls, if_pos statement, List.length_map]
      exact Nat.le_trans (List.length_filter_le _ _) n.length_links_le
    · exact one

private theorem ordinal_of_mem_proposed {o : Operator} {path : Path} {n : Node} {p : Proposed}
    (h : p ∈ o.proposed path n) : p.ordinal < (o.proposals n).length := by
  unfold proposed at h
  split at h
  · obtain ⟨x, member, rfl⟩ := List.mem_map.mp h
    exact List.snd_lt_of_mem_zipIdx member
  · cases h

/-- Proposals of one operator for one node are told apart by their ordinals. -/
private theorem pairwise_proposed (o : Operator) (path : Path) (n : Node) :
    (o.proposed path n).Pairwise fun p p' => p.ordinal < p'.ordinal := by
  unfold proposed
  split
  · have ordinals := List.pairwise_lt_range' (s := 0) (n := (o.proposals n).length) 1
    rw [← List.zipIdx_map_snd, List.pairwise_map] at ordinals
    exact List.pairwise_map.mpr ordinals
  · exact .nil

end Operator

/-- An ordinal is a number of nodes at most, so it is a word whenever the tree can be counted by
words. -/
private theorem ordinal_lt_size {operators : List Operator} {ast : Node} {p : Proposed}
    (h : p ∈ proposedIn operators ast) : p.ordinal < ast.size := by
  obtain ⟨visited, o, -, here⟩ := mem_proposedIn h
  calc
    p.ordinal < (o.proposals p.node).length := Operator.ordinal_of_mem_proposed here
    _ ≤ p.node.size := o.length_proposals_le p.node
    _ ≤ ast.size := Node.size_le_of_get? (Node.get?_of_mem_walk visited)

/-- No two proposals for a tree have the same key, if no two operators have the same name. -/
private theorem nodup_keys {operators : List Operator}
    (distinct : operators.Pairwise fun o o' => o.name.text < o'.name.text) (ast : Node) :
    ((proposedIn operators ast).map Proposed.key).Nodup := by
  rw [List.Nodup, List.pairwise_map, proposedIn, List.pairwise_flatMap]
  refine ⟨fun v _ => List.pairwise_flatMap.mpr ⟨fun o _ => ?_, ?_⟩, ?_⟩
  · refine (o.pairwise_proposed v.1 v.2).imp fun before same => ?_
    exact absurd (congrArg (fun k => k.2.2) same) (Nat.ne_of_lt before)
  · refine distinct.imp fun before p hp p' hp' same => ?_
    have names : p.operator.text = p'.operator.text := congrArg (fun k => k.2.1) same
    rw [Operator.operator_of_mem_proposed hp, Operator.operator_of_mem_proposed hp'] at names
    exact absurd names (String.ne_of_lt before)
  · refine (Node.pairwise_walk ast).imp fun {v w} before p hp p' hp' same => ?_
    obtain ⟨o, -, hp⟩ := List.mem_flatMap.mp hp
    obtain ⟨o', -, hp'⟩ := List.mem_flatMap.mp hp'
    have paths : p.path = p'.path := congrArg (fun k => k.1) same
    rw [(Operator.place_of_mem_proposed hp).1, (Operator.place_of_mem_proposed hp').1] at paths
    exact List.lt_irrefl _ (paths ▸ before)

private theorem position_eq_of_key_eq {operators : List Operator}
    (distinct : operators.Pairwise fun o o' => o.name.text < o'.name.text) {ast : Node} {i j : Nat}
    {p p' : Proposed} (here : (proposedIn operators ast)[i]? = some p)
    (here' : (proposedIn operators ast)[j]? = some p') (same : p.key = p'.key) : i = j := by
  have key : ((proposedIn operators ast).map Proposed.key)[i]? = some p.key := by
    rw [List.getElem?_map, here, Option.map_some]
  have key' : ((proposedIn operators ast).map Proposed.key)[j]? = some p.key := by
    rw [List.getElem?_map, here', Option.map_some, same]
  obtain ⟨inside, -⟩ := List.getElem?_eq_some_iff.mp key
  exact (List.getElem?_inj inside (nodup_keys distinct ast)).mp (key.trans key'.symm)

namespace GenerationRules

/-- The bytes that an identifier is taken from tell the file, the path, the operator and the
ordinal, whatever the file is called. No two items of a stream agree in the last three. So two
mutants, of one file or of two with different names, have the same identifier exactly if the bytes
of theirs, which differ, have digests that agree in the first forty-eight bits. -/
theorem same_id_iff_collision {s : MutatorSettings} {r : Registry}
    (accepted : Registry.ofSettings s = .ok r) (coverage : Option Coverage) (onlyCovered : Bool) :
    (∀ file file' path path' operator operator' ordinal ordinal',
      '\x00' ∉ operator.toList → '\x00' ∉ operator'.toList →
      ordinal < Nat.pow 2 64 → ordinal' < Nat.pow 2 64 →
      idPreimage file path operator ordinal = idPreimage file' path' operator' ordinal' →
      file = file' ∧ path = path' ∧ operator = operator' ∧ ordinal = ordinal') ∧
    (∀ f, generate ⟨r, coverage, onlyCovered⟩ f =
        (proposedIn r.operators f.ast).map (itemFor ⟨r, coverage, onlyCovered⟩ f.path) ∧
      ((proposedIn r.operators f.ast).map Proposed.key).Nodup ∧
      ∀ p ∈ proposedIn r.operators f.ast, p.ordinal < f.ast.size) ∧
    ∀ (f f' : SourceFile) (i j : Nat) (p p' : Proposed) (m m' : Mutant),
      (proposedIn r.operators f.ast)[i]? = some p →
      (proposedIn r.operators f'.ast)[j]? = some p' →
      (itemFor ⟨r, coverage, onlyCovered⟩ f.path p).mutant? = some m →
      (itemFor ⟨r, coverage, onlyCovered⟩ f'.path p').mutant? = some m' →
      p.ordinal < Nat.pow 2 64 → p'.ordinal < Nat.pow 2 64 → (f.path ≠ f'.path ∨ f = f' ∧ i ≠ j) →
      (m.id = m'.id ↔ Sha256.Collide 6 (p.preimage f.path) (p'.preimage f'.path)) := by
  have distinct := Registry.pairwise_names accepted
  refine ⟨?_, fun f =>
    ⟨generate_eq_map _ f, nodup_keys distinct f.ast, fun p => ordinal_lt_size⟩, ?_⟩
  · intro file file' path path' operator operator' ordinal ordinal' clean clean' word word' same
    exact idPreimage_inj clean clean' word word' same
  · intro f f' i j p p' m m' here here' made made' word word' apart
    have differ : (f.path, p.key) ≠ (f'.path, p'.key) := by
      intro same
      obtain ⟨files, keys⟩ := Prod.mk.inj same
      rcases apart with other | ⟨rfl, positions⟩
      · exact other files
      · exact positions (position_eq_of_key_eq distinct here here' keys)
    rw [(makes_of_itemFor made).id, (makes_of_itemFor made').id, mutantId_eq_iff]
    exact (and_iff_right (Proposed.preimage_ne word word' differ)).symm

/-- The sum and the product of the sample are told apart, and so are files whose names only differ
by what follows a zero character. -/
theorem sample_same_id_iff_collision :
    ∃ r p p', Registry.ofSettings Sample.repeating = .ok r ∧
      (proposedIn r.operators Sample.total.ast)[0]? = some p ∧
      (proposedIn r.operators Sample.total.ast)[1]? = some p' ∧ p.key ≠ p'.key ∧
      ¬ Sha256.Collide 6 (p.preimage "total") (p'.preimage "total") ∧
      idPreimage "a\x000" [1] "Plus" 256 ≠ idPreimage "a" [0, 1] "Plus" 256 := by
  obtain ⟨r, accepted⟩ : ∃ r, Registry.ofSettings Sample.repeating = .ok r := ⟨_, rfl⟩
  obtain ⟨fields, streams, told⟩ := same_id_iff_collision accepted none false
  obtain ⟨-, -, rfl⟩ := Registry.ofSettings_eq_ok.mp accepted
  obtain ⟨-, distinct, -⟩ := streams Sample.total
  refine ⟨_, _, _, accepted, rfl, rfl, ?_, ?_, ?_⟩
  · decide +kernel
  · have told := told Sample.total Sample.total 0 1 _ _ _ _ rfl rfl rfl rfl (by decide) (by decide)
      (.inr ⟨rfl, by decide⟩)
    exact told.not.mp (by decide +kernel)
  · intro same
    obtain ⟨name, -⟩ := fields _ _ _ _ _ _ _ _ (by decide) (by decide) (by decide) (by decide) same
    exact absurd name (by decide)

end GenerationRules
end MutationTesting
