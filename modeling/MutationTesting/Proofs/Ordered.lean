import Mathlib.Data.List.Induction
import Mathlib.Data.List.Nodup
import MutationTesting.Ordered
import MutationTesting.Proofs.Precedence

/-! What is in a set or a table after an element or an entry is added, and why the order in which
elements are added does not matter. A sorted list without its repetitions has the same keys. -/
namespace MutationTesting.Ordered

variable {κ α : Type} [LT κ]

/-- A strictly increasing list is told by its elements. -/
theorem eq_of_mem_iff [Std.Asymm (α := κ) (· < ·)] {s t : List κ} (hs : s.Pairwise (· < ·))
    (ht : t.Pairwise (· < ·)) (same : ∀ a, a ∈ s ↔ a ∈ t) : s = t := by
  refine List.Perm.eq_of_pairwise (fun a b _ _ before after => ?_) hs ht
    ((List.perm_ext_iff_of_nodup hs.nodup ht.nodup).mpr same)
  exact (Std.Asymm.asymm _ _ before after).elim

variable [DecidableLT κ] [Std.Trichotomous (α := κ) (· < ·)]

section Sets

variable {a b : κ} {s xs ys : List κ}

theorem mem_insert : a ∈ insert b s ↔ a = b ∨ a ∈ s := by
  induction s with
  | nil => simp [insert]
  | cons c s ih =>
    rw [insert]
    split
    · rw [List.mem_cons]
    · next not_before =>
      split
      · rw [List.mem_cons, ih, List.mem_cons, or_left_comm]
      · next not_after =>
        obtain rfl := Std.Trichotomous.trichotomous (r := (· < ·)) b c not_before not_after
        rw [List.mem_cons, ← or_assoc, or_self]

private theorem mem_foldl_insert :
    a ∈ xs.foldl (fun s b => insert b s) s ↔ a ∈ xs ∨ a ∈ s := by
  induction xs generalizing s with
  | nil => simp
  | cons b xs ih => rw [List.foldl_cons, ih, mem_insert, List.mem_cons, or_assoc, or_left_comm]

theorem mem_ofList : a ∈ ofList xs ↔ a ∈ xs := by
  rw [ofList, mem_foldl_insert, or_iff_left List.not_mem_nil]

variable [Trans (α := κ) (· < ·) (· < ·) (· < ·)]

private theorem pairwise_insert (h : s.Pairwise (· < ·)) : (insert a s).Pairwise (· < ·) := by
  induction s with
  | nil => simp [insert]
  | cons b s ih =>
    obtain ⟨least, rest⟩ := List.pairwise_cons.mp h
    rw [insert]
    split
    · next before =>
      refine List.pairwise_cons.mpr ⟨fun c member => ?_, h⟩
      rcases List.mem_cons.mp member with rfl | later
      · exact before
      · exact Trans.trans before (least c later)
    · split
      · next after =>
        refine List.pairwise_cons.mpr ⟨fun c member => ?_, ih rest⟩
        rcases mem_insert.mp member with rfl | old
        · exact after
        · exact least c old
      · exact h

theorem pairwise_ofList (xs : List κ) : (ofList xs).Pairwise (· < ·) :=
  List.foldlRecOn xs _ .nil fun _ h _ _ => pairwise_insert h

variable [Std.Asymm (α := κ) (· < ·)]

/-- Neither the order nor the number of times in which elements are listed makes a difference. -/
theorem ofList_congr (same : ∀ a, a ∈ xs ↔ a ∈ ys) : ofList xs = ofList ys :=
  eq_of_mem_iff (pairwise_ofList xs) (pairwise_ofList ys) fun a => by
    rw [mem_ofList, mem_ofList, same]

/-- A set is its own listing. -/
theorem ofList_eq_self {s : List κ} (set : s.Pairwise (· < ·)) : ofList s = s :=
  eq_of_mem_iff (pairwise_ofList s) set fun _ => mem_ofList

theorem filter_ofList (p : κ → Bool) (xs : List κ) :
    (ofList xs).filter p = ofList (xs.filter p) :=
  eq_of_mem_iff ((pairwise_ofList xs).filter p) (pairwise_ofList _) fun a => by
    rw [List.mem_filter, mem_ofList, mem_ofList, List.mem_filter]

end Sets

section Tables

variable {k l : κ} {a b : α} {e : κ × α} {xs : List (κ × α)}

omit [LT κ] [DecidableLT κ] [Std.Trichotomous (α := κ) (· < ·)] in
theorem mem_of_find? [DecidableEq κ] (h : find? k xs = some a) : (k, a) ∈ xs := by
  induction xs with
  | nil => cases h
  | cons x xs ih =>
    rw [find?] at h
    split at h
    · next same =>
      obtain rfl := Option.some.inj h
      obtain rfl := same
      exact List.mem_cons_self
    · exact List.mem_cons_of_mem _ (ih h)

omit [Std.Trichotomous (α := κ) (· < ·)] in
theorem mem_put_self : (k, a) ∈ put k a xs := by
  induction xs with
  | nil => exact List.mem_cons_self
  | cons x xs ih =>
    rw [put]
    split
    · exact List.mem_cons_self
    · split
      · exact List.mem_cons_of_mem _ ih
      · exact List.mem_cons_self

omit [Std.Trichotomous (α := κ) (· < ·)] in
theorem mem_of_mem_put (h : e ∈ put k a xs) : e = (k, a) ∨ e ∈ xs := by
  induction xs with
  | nil => exact .inl (List.mem_singleton.mp h)
  | cons x xs ih =>
    rw [put] at h
    split at h
    · exact List.mem_cons.mp h
    · split at h
      · rcases List.mem_cons.mp h with rfl | later
        · exact .inr List.mem_cons_self
        · exact (ih later).imp_right (List.mem_cons_of_mem _)
      · exact (List.mem_cons.mp h).imp_right (List.mem_cons_of_mem _)

section Order

variable [Trans (α := κ) (· < ·) (· < ·) (· < ·)]

theorem pairwise_put (table : xs.Pairwise fun e f => e.1 < f.1) :
    (put k a xs).Pairwise fun e f => e.1 < f.1 := by
  induction xs with
  | nil => exact List.pairwise_singleton _ _
  | cons x xs ih =>
    obtain ⟨least, rest⟩ := List.pairwise_cons.mp table
    rw [put]
    split
    · next before =>
      refine List.pairwise_cons.mpr ⟨fun e member => ?_, table⟩
      rcases List.mem_cons.mp member with rfl | later
      · exact before
      · exact Trans.trans before (least e later)
    · next not_before =>
      split
      · next after =>
        refine List.pairwise_cons.mpr ⟨fun e member => ?_, ih rest⟩
        rcases mem_of_mem_put member with rfl | old
        · exact after
        · exact least e old
      · next not_after =>
        obtain rfl := Std.Trichotomous.trichotomous (r := (· < ·)) k x.1 not_before not_after
        exact List.pairwise_cons.mpr ⟨least, rest⟩

theorem pairwise_tableOfList (xs : List (κ × α)) :
    (tableOfList xs).Pairwise fun e f => e.1 < f.1 :=
  List.foldlRecOn xs _ .nil fun _ table _ _ => pairwise_put table

end Order

variable [DecidableEq κ] [Std.Irrefl (α := κ) (· < ·)]

/-- An entry stays in a table, unless it is the one whose place the new one takes. -/
theorem mem_put_of_mem (h : e ∈ xs) : e ∈ put k a xs ∨ e.1 = k ∧ find? k xs = some e.2 := by
  induction xs with
  | nil => cases h
  | cons x xs ih =>
    obtain ⟨l, b⟩ := x
    rw [put]
    split
    · exact .inl (List.mem_cons_of_mem _ h)
    · next not_before =>
      split
      · next after =>
        rcases List.mem_cons.mp h with rfl | later
        · exact .inl List.mem_cons_self
        · have differs : k ≠ l := by
            rintro rfl
            exact Std.Irrefl.irrefl _ after
          rw [find?, if_neg differs]
          exact (ih later).imp_left (List.mem_cons_of_mem _)
      · next not_after =>
        obtain rfl := Std.Trichotomous.trichotomous (r := (· < ·)) k l not_before not_after
        rcases List.mem_cons.mp h with rfl | later
        · exact .inr ⟨rfl, by rw [find?, if_pos rfl]⟩
        · exact .inl (List.mem_cons_of_mem _ later)

theorem find?_put : find? l (put k a xs) = if l = k then some a else find? l xs := by
  induction xs with
  | nil => rfl
  | cons x xs ih =>
    obtain ⟨j, b⟩ := x
    rw [put]
    split
    · rw [find?]
    · next not_before =>
      split
      · next after =>
        have differs : j ≠ k := by
          rintro rfl
          exact Std.Irrefl.irrefl _ after
        rw [find?, find?, ih]
        by_cases here : l = j
        · rw [if_pos here, if_pos here, if_neg (here ▸ differs)]
        · rw [if_neg here, if_neg here]
      · next not_after =>
        obtain rfl := Std.Trichotomous.trichotomous (r := (· < ·)) k j not_before not_after
        rw [find?, find?]
        by_cases here : l = k
        · rw [if_pos here, if_pos here]
        · rw [if_neg here, if_neg here, if_neg here]

/-- A table made of a list of entries has the last of those that share a key. -/
theorem find?_tableOfList (xs : List (κ × α)) : find? k (tableOfList xs) = find? k xs.reverse := by
  induction xs using List.reverseRecOn with
  | nil => rfl
  | append_singleton xs e ih =>
    rw [tableOfList, List.foldl_append, List.foldl_cons, List.foldl_nil, find?_put, ← tableOfList,
      ih, List.reverse_append, List.reverse_singleton, List.singleton_append, find?]

omit [LT κ] [DecidableLT κ] [Std.Trichotomous (α := κ) (· < ·)] [Std.Irrefl (α := κ) (· < ·)] in
/-- Where no key is repeated every entry is found under its key. -/
theorem find?_eq_some (once : (xs.map Prod.fst).Nodup) :
    find? k xs = some a ↔ (k, a) ∈ xs := by
  refine ⟨mem_of_find?, fun member => ?_⟩
  induction xs with
  | nil => cases member
  | cons x xs ih =>
    obtain ⟨fresh, rest⟩ := List.nodup_cons.mp once
    rw [find?]
    rcases List.mem_cons.mp member with rfl | later
    · exact if_pos rfl
    · have differs : k ≠ x.1 := by
        rintro rfl
        exact fresh (List.mem_map.mpr ⟨_, later, rfl⟩)
      rw [if_neg differs, ih rest later]

theorem mem_tableOfList [Trans (α := κ) (· < ·) (· < ·) (· < ·)] :
    (k, a) ∈ tableOfList xs ↔ find? k xs.reverse = some a := by
  rw [← find?_eq_some (List.pairwise_map.mpr (pairwise_tableOfList xs)).nodup, find?_tableOfList]

end Tables

section Sorting

omit [Std.Trichotomous (α := κ) (· < ·)]

variable {key : α → κ} {a b : α} {xs s : List α}

section Runs

omit [LT κ] [DecidableLT κ]

variable {r : α → α → Bool}

private theorem eraseRepsBy_loop (done : List α) :
    List.eraseRepsBy.loop r a xs done = done.reverse ++ List.eraseRepsBy r (a :: xs) := by
  induction xs generalizing a done with
  | nil => simp [List.eraseRepsBy, List.eraseRepsBy.loop]
  | cons b xs ih =>
    rw [List.eraseRepsBy, List.eraseRepsBy.loop, List.eraseRepsBy.loop]
    cases r a b with
    | true => exact ih done
    | false => simp [ih]

/-- An element is left out when it follows one that stands for it. -/
private theorem eraseRepsBy_cons_cons : List.eraseRepsBy r (a :: b :: xs) =
    if r a b then List.eraseRepsBy r (a :: xs) else a :: List.eraseRepsBy r (b :: xs) := by
  rw [List.eraseRepsBy, List.eraseRepsBy.loop]
  cases r a b with
  | true => rfl
  | false => exact eraseRepsBy_loop [a]

theorem eraseRepsBy_sublist : ∀ xs : List α, (List.eraseRepsBy r xs).Sublist xs
  | [] => .slnil
  | [a] => .refl _
  | a :: b :: xs => by
    rw [eraseRepsBy_cons_cons]
    split
    · exact (eraseRepsBy_sublist (a :: xs)).trans ((List.sublist_cons_self b xs).cons_cons a)
    · exact (eraseRepsBy_sublist (b :: xs)).cons_cons a

end Runs

variable [DecidableEq κ]

omit [LT κ] [DecidableLT κ] in
/-- Erasing repetitions erases no key. -/
private theorem mem_map_eraseRepsBy {k : κ} : ∀ {xs : List α},
    k ∈ (xs.eraseRepsBy fun a b => key a == key b).map key ↔ k ∈ xs.map key
  | [] => .rfl
  | [a] => .rfl
  | a :: b :: xs => by
    rw [eraseRepsBy_cons_cons]
    split
    · next same =>
      rw [mem_map_eraseRepsBy, List.map_cons, List.map_cons, List.map_cons, eq_of_beq same]
      simp
    · rw [List.map_cons, List.mem_cons, mem_map_eraseRepsBy, List.map_cons (l := b :: xs),
        List.mem_cons]

variable [Std.Trichotomous (α := κ) (· < ·)] [Trans (α := κ) (· < ·) (· < ·) (· < ·)]

omit [DecidableLT κ] in
private theorem lt_of_lt_of_not_gt {i j k : κ} (before : i < j) (not_after : ¬ k < j) : i < k := by
  by_cases same : j = k
  · exact same ▸ before
  · have after : j < k := Classical.byContradiction fun not_before => same <|
      Std.Trichotomous.trichotomous (r := (· < ·)) j k not_before not_after
    exact Trans.trans before after

omit [DecidableLT κ] in
/-- In a sorted list the elements with one key stand together, so that one of them is left. -/
private theorem pairwise_eraseRepsBy : ∀ {xs : List α}, xs.Pairwise (fun a b => ¬ key b < key a) →
    (xs.eraseRepsBy fun a b => key a == key b).Pairwise fun a b => key a < key b
  | [], _ => .nil
  | [a], _ => List.pairwise_singleton _ a
  | a :: b :: xs, sorted => by
    obtain ⟨least, rest⟩ := List.pairwise_cons.mp sorted
    rw [eraseRepsBy_cons_cons]
    split
    · exact pairwise_eraseRepsBy (sorted.sublist ((List.sublist_cons_self b xs).cons_cons a))
    · next differ =>
      have before : key a < key b := Classical.byContradiction fun not_before => differ <| by
        rw [Std.Trichotomous.trichotomous (r := (· < ·)) _ _ not_before (least b (.head _)),
          beq_self_eq_true]
      refine List.pairwise_cons.mpr ⟨fun c left => ?_, pairwise_eraseRepsBy rest⟩
      rcases List.mem_cons.mp ((eraseRepsBy_sublist (b :: xs)).subset left) with rfl | later
      · exact before
      · exact lt_of_lt_of_not_gt before ((List.pairwise_cons.mp rest).1 c later)

variable [Std.Asymm (α := κ) (· < ·)]

/-- Sorting by key and erasing repetitions leaves the set of the keys. -/
theorem map_eraseRepsBy_mergeSort (xs : List α) :
    ((xs.mergeSort fun a b => !decide (key b < key a)).eraseRepsBy
      fun a b => key a == key b).map key = ofList (xs.map key) := by
  refine eq_of_mem_iff ?_ (pairwise_ofList _) fun k => ?_
  · have sorted := (precedence_lt.on key).pairwise_mergeSort xs
    exact List.pairwise_map.mpr (pairwise_eraseRepsBy (sorted.imp (by simp)))
  · rw [mem_map_eraseRepsBy, mem_ofList, List.mem_map, List.mem_map]
    exact exists_congr fun a => and_congr_left fun _ => List.mem_mergeSort

end Sorting
end MutationTesting.Ordered
