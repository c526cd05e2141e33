import MutationTesting.Proofs.Text.Search

/-! What replacing the occurrences of a text does to the text around them. -/
namespace MutationTesting.Text

variable {needle replacement xs ys cs : List Char} {mark : Char}

private theorem replaceFrom_skip :
    replaceFrom needle replacement xs.length (xs ++ ys) = replaceFrom needle replacement 0 ys := by
  induction xs with
  | nil => rfl
  | cons c xs ih => exact ih

theorem replaceFrom_self (some_ : needle ≠ []) :
    replaceFrom needle replacement 0 (needle ++ ys) =
      replacement ++ replaceFrom needle replacement 0 ys := by
  cases needle with
  | nil => exact absurd rfl some_
  | cons c rest =>
    have found : (c :: rest).isPrefixOf (c :: (rest ++ ys)) = true :=
      List.isPrefixOf_iff_prefix.mpr (List.prefix_append (c :: rest) ys)
    rw [List.cons_append, replaceFrom, if_pos found, List.length_cons, Nat.add_sub_cancel,
      replaceFrom_skip]

theorem replaceFrom_cons {c : Char} (h : ¬ needle <+: c :: cs) :
    replaceFrom needle replacement 0 (c :: cs) = c :: replaceFrom needle replacement 0 cs := by
  rw [replaceFrom, if_neg (mt List.isPrefixOf_iff_prefix.mp h)]

/-- Nothing is found where the first character of the searched text is missing. -/
theorem replaceFrom_append_of_not_mem (absent : mark ∉ xs) :
    replaceFrom (mark :: needle) replacement 0 (xs ++ ys) =
      xs ++ replaceFrom (mark :: needle) replacement 0 ys := by
  induction xs with
  | nil => rfl
  | cons c xs ih =>
    rw [List.mem_cons, not_or] at absent
    have elsewhere : ¬ mark :: needle <+: c :: (xs ++ ys) := fun here =>
      absent.1 (List.cons_prefix_cons.mp here).1
    rw [List.cons_append, replaceFrom_cons elsewhere, ih absent.2, List.cons_append]

theorem infix_of_infix_append (absent : mark ∉ xs) (h : mark :: needle <:+: xs ++ ys) :
    mark :: needle <:+: ys := by
  induction xs with
  | nil => exact h
  | cons c xs ih =>
    rw [List.mem_cons, not_or] at absent
    rw [List.cons_append, List.infix_cons_iff] at h
    refine ih absent.2 (h.resolve_left fun here => ?_)
    exact absent.1 (List.cons_prefix_cons.mp here).1

/-- A text taken apart from the left as a search takes it: into the occurrences that it finds and
the characters between them. -/
@[elab_as_elim]
theorem search_induction {motive : List Char → Prop} (some_ : needle ≠ []) (nil : motive [])
    (found : ∀ rest, motive rest → motive (needle ++ rest))
    (other : ∀ c rest, ¬ needle <+: c :: rest → motive rest → motive (c :: rest)) :
    (cs : List Char) → motive cs
  | [] => nil
  | c :: cs => by
    by_cases here : needle <+: c :: cs
    · obtain ⟨rest, same⟩ := here
      have shorter : rest.length < (c :: cs).length := by
        have positive := List.length_pos_iff.mpr some_
        rw [← same, List.length_append]
        omega
      rw [← same]
      exact found rest (search_induction some_ nil found other rest)
    · exact other c cs here (search_induction some_ nil found other cs)
termination_by cs => cs.length
decreasing_by
  · exact shorter
  · exact Nat.lt_succ_self cs.length

theorem replaceFrom_eq_self (absent : ¬ needle <:+: cs) :
    replaceFrom needle replacement 0 cs = cs := by
  induction cs with
  | nil => rfl
  | cons c cs ih =>
    rw [replaceFrom_cons fun here => absent here.isInfix,
      ih fun later => absent (later.trans (List.suffix_cons c cs).isInfix)]

theorem prefix_append_cons_iff (absent : mark ∉ needle) :
    needle <+: xs ++ mark :: ys ↔ needle <+: xs := by
  refine ⟨fun h => ?_, fun h => h.trans (List.prefix_append xs _)⟩
  rcases Nat.lt_or_ge xs.length needle.length with longer | within
  · have whole : xs ++ [mark] <+: needle := by
      refine List.prefix_of_prefix_length_le ⟨ys, by simp⟩ h ?_
      rw [List.length_append, List.length_singleton]
      exact longer
    exact absurd (whole.subset (List.mem_append_right xs List.mem_cons_self)) absent
  · exact List.prefix_of_prefix_length_le h (List.prefix_append xs _) within

/-- No occurrence reaches over a character that the searched text does not have. -/
theorem replaceFrom_append_cons (some_ : needle ≠ []) (absent : mark ∉ needle) :
    replaceFrom needle replacement 0 (xs ++ mark :: ys) =
      replaceFrom needle replacement 0 xs ++ mark :: replaceFrom needle replacement 0 ys := by
  induction xs using search_induction some_ with
  | nil =>
    have none_ : needle <+: [] ++ mark :: ys ↔ needle <+: [] := prefix_append_cons_iff absent
    exact replaceFrom_cons fun here => some_ (List.prefix_nil.mp (none_.mp here))
  | found rest ih =>
    rw [List.append_assoc, replaceFrom_self some_, replaceFrom_self some_, ih, List.append_assoc]
  | other c rest here ih =>
    have front : needle <+: c :: rest ++ mark :: ys ↔ needle <+: c :: rest :=
      prefix_append_cons_iff absent
    have there : ¬ needle <+: c :: (rest ++ mark :: ys) := here ∘ front.mp
    rw [List.cons_append, replaceFrom_cons there, replaceFrom_cons here, ih, List.cons_append]

/-- A replacement that begins with a character foreign to another text makes no new place at which
that text begins. -/
theorem prefix_of_prefix_replaceFrom {other rest : List Char} (absent : mark ∉ other)
    (h : other <+: replaceFrom needle (mark :: rest) 0 cs) : other <+: cs := by
  induction other generalizing cs with
  | nil => exact List.nil_prefix
  | cons d other ih =>
    cases cs with
    | nil => exact h
    | cons c cs =>
      by_cases here : needle <+: c :: cs
      · rw [replaceFrom, if_pos (List.isPrefixOf_iff_prefix.mpr here)] at h
        obtain ⟨rfl, -⟩ := List.cons_prefix_cons.mp h
        exact absurd List.mem_cons_self absent
      · rw [replaceFrom_cons here] at h
        obtain ⟨rfl, later⟩ := List.cons_prefix_cons.mp h
        exact List.cons_prefix_cons.mpr ⟨rfl, ih (fun m => absent (List.mem_cons_of_mem _ m)) later⟩

section Weight

variable {weight : Char → Int}

def weigh (weight : Char → Int) : List Char → Int
  | [] => 0
  | c :: cs => weight c + weigh weight cs

@[simp] theorem weigh_nil : weigh weight [] = 0 := rfl

@[simp] theorem weigh_cons (c : Char) : weigh weight (c :: cs) = weight c + weigh weight cs := rfl

@[simp] theorem weigh_append : weigh weight (xs ++ ys) = weigh weight xs + weigh weight ys := by
  induction xs with
  | nil => exact (Int.zero_add _).symm
  | cons c xs ih => rw [List.cons_append, weigh_cons, ih, weigh_cons, Int.add_assoc]

theorem weigh_eq_zero (h : ∀ c ∈ cs, weight c = 0) : weigh weight cs = 0 := by
  induction cs with
  | nil => rfl
  | cons c cs ih =>
    rw [weigh_cons, h c List.mem_cons_self, ih fun d m => h d (List.mem_cons_of_mem c m)]
    rfl

variable (some_ : needle ≠ []) (heavier : weigh weight needle < weigh weight replacement)

include some_ heavier

/-- Replacing occurrences by something heavier makes nothing lighter. -/
theorem weigh_le_replaceFrom (cs : List Char) :
    weigh weight cs ≤ weigh weight (replaceFrom needle replacement 0 cs) := by
  induction cs using search_induction some_ with
  | nil => exact Int.le_refl _
  | found rest ih =>
    rw [replaceFrom_self some_, weigh_append, weigh_append]
    omega
  | other c rest here ih =>
    rw [replaceFrom_cons here, weigh_cons, weigh_cons]
    omega

/-- A text in which nothing is to be replaced is told by its weight. -/
theorem not_infix_of_weigh_eq
    (same : weigh weight (replaceFrom needle replacement 0 cs) = weigh weight cs) :
    ¬ needle <:+: cs := by
  induction cs using search_induction some_ with
  | nil => exact mt List.infix_nil.mp some_
  | found rest ih =>
    have below := weigh_le_replaceFrom some_ heavier rest
    rw [replaceFrom_self some_, weigh_append, weigh_append] at same
    omega
  | other c rest here ih =>
    rw [replaceFrom_cons here, weigh_cons, weigh_cons] at same
    rw [List.infix_cons_iff, not_or]
    exact ⟨here, ih (by omega)⟩

end Weight
end MutationTesting.Text
