import MutationTesting.Tree.Walk
import MutationTesting.Proofs.Tree.Edit

/-! The walk of a tree visits every node once, at its own path, and the paths come in order.

What a walk on its way has yet to visit is told by its stack: all that is below the first entry,
then all that is below the second, and so on. -/
namespace MutationTesting.Node

mutual

def walkFrom (p : Path) : Node → List (Path × Node)
  | ⟨k, cs, s, t⟩ => (p, ⟨k, cs, s, t⟩) :: walkChildren p 0 cs

/-- The nodes under neighbouring children of the node at `p`, the first of which is child `i`. -/
def walkChildren (p : Path) (i : Nat) : List Node → List (Path × Node)
  | [] => []
  | c :: cs => walkFrom (p.child i) c ++ walkChildren p (i + 1) cs

end

private theorem walkFrom_eq (p : Path) (n : Node) :
    walkFrom p n = (p, n) :: walkChildren p 0 n.children := by
  cases n
  rw [walkFrom]

mutual

private theorem length_walkFrom (p : Path) : (n : Node) → (walkFrom p n).length = n.size
  | ⟨k, cs, s, t⟩ => by
    rw [walkFrom, List.length_cons, length_walkChildren p 0 cs, size, Nat.add_comm]

private theorem length_walkChildren (p : Path) (i : Nat) :
    (cs : List Node) → (walkChildren p i cs).length = sizeChildren cs
  | [] => rfl
  | c :: cs => by
    rw [walkChildren, List.length_append, length_walkFrom (p.child i) c,
      length_walkChildren p (i + 1) cs, sizeChildren]

end

namespace Walk

variable {w w' : Walk} {visit : Path × Node}

def ahead (w : Walk) : List (Path × Node) := w.stack.flatMap fun v => walkFrom v.1 v.2

private theorem flatMap_zipIdx (p : Path) (i : Nat) (cs : List Node) :
    (cs.zipIdx i).flatMap (fun c => walkFrom (p.child c.2) c.1) = walkChildren p i cs := by
  induction cs generalizing i with
  | nil => rfl
  | cons c cs ih => rw [List.zipIdx_cons, List.flatMap_cons, ih, walkChildren]

private theorem ahead_push (w : Walk) (p : Path) (cs : List Node) :
    (w.push p cs).ahead = walkChildren p 0 cs ++ w.ahead := by
  rw [ahead, push, List.foldr_cons_eq_append, List.flatMap_append, List.flatMap_map,
    flatMap_zipIdx, ahead]

/-- One step visits the first of the nodes ahead and leaves the others. -/
private theorem ahead_of_next? (h : w.next? = some (visit, w')) : w.ahead = visit :: w'.ahead := by
  unfold next? at h
  split at h
  · cases h
  · next p n rest top =>
    obtain ⟨rfl, rfl⟩ := Prod.mk.inj (Option.some.inj h)
    rw [ahead_push, ahead, top, List.flatMap_cons, walkFrom_eq, List.cons_append, ahead]

/-- A walk ends when nothing is ahead. -/
private theorem ahead_of_next?_eq_none (h : w.next? = none) : w.ahead = [] := by
  unfold next? at h
  split at h
  · next done => rw [ahead, done, List.flatMap_nil]
  · cases h

/-- A walk visits what is ahead, as far as its steps go. -/
private theorem visits_eq_take (steps : Nat) (w : Walk) : w.visits steps = w.ahead.take steps := by
  induction steps generalizing w with
  | zero => rfl
  | succ steps ih =>
    unfold visits
    split
    · next done => rw [ahead_of_next?_eq_none done, List.take_nil]
    · next visit w' more => rw [ahead_of_next? more, List.take_succ_cons, ih]

end Walk

private theorem ahead_startWalk (n : Node) : n.startWalk.ahead = walkFrom [] n := by
  rw [Walk.ahead, startWalk, List.flatMap_cons, List.flatMap_nil, List.append_nil]

/-- Steps beyond the size of the tree visit nothing more. -/
private theorem visits_startWalk (n : Node) {steps : Nat} (enough : n.size ≤ steps) :
    n.startWalk.visits steps = walkFrom [] n := by
  rw [Walk.visits_eq_take, ahead_startWalk,
    List.take_of_length_le (by rwa [length_walkFrom])]

private theorem walk_eq_walkFrom (n : Node) : n.walk = walkFrom [] n :=
  visits_startWalk n (Nat.le_refl _)

mutual

private theorem get?_of_mem_walkFrom {p q : Path} {m : Node} :
    (n : Node) → (q, m) ∈ walkFrom p n → ∃ s, q = p ++ s ∧ n.get? s = some m
  | ⟨k, cs, span, a⟩, h => by
    rw [walkFrom, List.mem_cons] at h
    rcases h with here | below
    · obtain ⟨rfl, rfl⟩ := Prod.mk.inj here
      exact ⟨[], (List.append_nil _).symm, rfl⟩
    · obtain ⟨i, c, s, child, rfl, found⟩ := get?_of_mem_walkChildren cs below
      refine ⟨i :: s, by rw [Nat.zero_add], ?_⟩
      rw [get?, child]
      exact found

private theorem get?_of_mem_walkChildren {p q : Path} {m : Node} {first : Nat} :
    (cs : List Node) → (q, m) ∈ walkChildren p first cs →
      ∃ i c s, cs[i]? = some c ∧ q = p ++ (first + i) :: s ∧ c.get? s = some m
  | [], h => by simp [walkChildren] at h
  | c :: cs, h => by
    rw [walkChildren, List.mem_append] at h
    rcases h with here | later
    · obtain ⟨s, rfl, found⟩ := get?_of_mem_walkFrom c here
      exact ⟨0, c, s, rfl, by simp [Path.child], found⟩
    · obtain ⟨i, d, s, child, rfl, found⟩ := get?_of_mem_walkChildren cs later
      refine ⟨i + 1, d, s, child, ?_, found⟩
      rw [Nat.add_assoc, Nat.add_comm 1 i]

end

private theorem mem_walkChildren {p : Path} {first i : Nat} {cs : List Node} {c : Node}
    {visit : Path × Node} (here : cs[i]? = some c) (h : visit ∈ walkFrom (p.child (first + i)) c) :
    visit ∈ walkChildren p first cs := by
  rw [← Walk.flatMap_zipIdx]
  exact List.mem_flatMap.mpr ⟨(c, first + i), List.mk_add_mem_zipIdx_iff_getElem?.mpr here, h⟩

private theorem mem_walkFrom_of_get? {p s : Path} {n m : Node} (h : n.get? s = some m) :
    (p ++ s, m) ∈ walkFrom p n := by
  rw [walkFrom_eq, List.mem_cons]
  induction s generalizing p n with
  | nil =>
    obtain rfl := Option.some.inj h
    exact .inl (by rw [List.append_nil])
  | cons i s ih =>
    obtain ⟨c, child, found⟩ := exists_child_of_get? h
    refine .inr (mem_walkChildren child ?_)
    rw [walkFrom_eq, List.mem_cons, Nat.zero_add]
    have below := ih (p := p.child i) found
    rwa [Path.child, List.append_assoc, List.singleton_append] at below

private theorem append_cons_lt (p : Path) {i j : Nat} (s t : Path) (before : i < j) :
    p ++ i :: s < p ++ j :: t :=
  List.append_left_lt (List.cons_lt_cons_iff.mpr (.inl before))

mutual

private theorem pairwise_walkFrom (p : Path) :
    (n : Node) → (walkFrom p n).Pairwise fun a b => a.1 < b.1
  | ⟨k, cs, span, a⟩ => by
    rw [walkFrom]
    refine List.pairwise_cons.mpr ⟨?_, pairwise_walkChildren p 0 cs⟩
    rintro ⟨q, m⟩ below
    obtain ⟨i, c, s, -, rfl, -⟩ := get?_of_mem_walkChildren cs below
    have longer : p ++ [] < p ++ (0 + i) :: s := List.append_left_lt (List.nil_lt_cons _ s)
    rwa [List.append_nil] at longer

private theorem pairwise_walkChildren (p : Path) (first : Nat) :
    (cs : List Node) → (walkChildren p first cs).Pairwise fun a b => a.1 < b.1
  | [] => by
    rw [walkChildren]
    exact .nil
  | c :: cs => by
    rw [walkChildren]
    refine List.pairwise_append.mpr
      ⟨pairwise_walkFrom (p.child first) c, pairwise_walkChildren p (first + 1) cs, ?_⟩
    rintro ⟨q, m⟩ here ⟨q', m'⟩ later
    obtain ⟨s, rfl, -⟩ := get?_of_mem_walkFrom c here
    obtain ⟨i, d, t, -, rfl, -⟩ := get?_of_mem_walkChildren cs later
    rw [Path.child, List.append_assoc, List.singleton_append]
    exact append_cons_lt p s t (by omega)

end

/-- The walk visits the nodes that paths lead to. -/
private theorem mem_walk {n m : Node} {p : Path} : (p, m) ∈ n.walk ↔ n.get? p = some m := by
  rw [walk_eq_walkFrom]
  refine ⟨fun h => ?_, mem_walkFrom_of_get?⟩
  obtain ⟨s, rfl, found⟩ := get?_of_mem_walkFrom n h
  exact found

theorem root_mem_walk (n : Node) : ([], n) ∈ n.walk := mem_walk.mpr rfl

theorem get?_of_mem_walk {n m : Node} {p : Path} (h : (p, m) ∈ n.walk) : n.get? p = some m :=
  mem_walk.mp h

/-- A node comes before those under it, and they come before those under later siblings. -/
theorem pairwise_walk (n : Node) : n.walk.Pairwise fun a b => a.1 < b.1 := by
  rw [walk_eq_walkFrom]
  exact pairwise_walkFrom [] n

private theorem nodup_walk_paths (n : Node) : (n.walk.map Prod.fst).Nodup :=
  (List.pairwise_map.mpr (n.pairwise_walk.imp fun before => before)).imp fun before => by
    rintro rfl
    exact List.lt_irrefl _ before

private theorem mem_walk_paths {n : Node} {p : Path} :
    p ∈ n.walk.map Prod.fst ↔ (n.locate p).isOk = true := by
  rw [isOk_locate, Option.isSome_iff_exists, List.mem_map]
  constructor
  · rintro ⟨⟨q, m⟩, visited, rfl⟩
    exact ⟨m, mem_walk.mp visited⟩
  · rintro ⟨m, found⟩
    exact ⟨(p, m), mem_walk.mpr found, rfl⟩

/-- The walk meets every node once, at the path that leads to it, and the paths come in their order:
a path before its extensions, and they before the paths that go on to later children. As many steps
as there are nodes are enough for it, and a walk that is given more makes the same visits. -/
theorem walk_enumerates_tree (n : Node) :
    (∀ p m, (p, m) ∈ n.walk ↔ n.locate p = .ok m) ∧
    (∀ p, (n.walk.map Prod.fst).count p = if (n.locate p).isOk then 1 else 0) ∧
    (n.walk.map Prod.fst).Pairwise (· < ·) ∧
    ∀ more, n.startWalk.visits (n.size + more) = n.walk := by
  refine ⟨fun p m => mem_walk.trans locate_eq_ok.symm, fun p => ?_,
    List.pairwise_map.mpr n.pairwise_walk, fun more => ?_⟩
  · rw [n.nodup_walk_paths.count]
    simp only [mem_walk_paths]
  · rw [visits_startWalk n (Nat.le_add_right _ more), walk_eq_walkFrom]

end MutationTesting.Node
