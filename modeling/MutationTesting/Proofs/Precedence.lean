/-! Comparisons by which lists are sorted.

Elements of which neither comes before the other are tied; a comparison is good for sorting when
ties can be exchanged for each other. -/
namespace MutationTesting

structure Precedence {α : Type} (less : α → α → Bool) : Prop where
  asymm {a b : α} : less a b = true → less b a = false
  between {a c : α} (b : α) : less a c = true → less a b = true ∨ less b c = true

/-- What the second comparison says where the first one does not decide. -/
def thenBy {α : Type} (first second : α → α → Bool) (a b : α) : Bool :=
  first a b || (!first b a && second a b)

namespace Precedence

variable {α β : Type} {less first second : α → α → Bool}

theorem on (p : Precedence less) (f : β → α) : Precedence fun a b => less (f a) (f b) where
  asymm := p.asymm
  between b := p.between (f b)

/-- The step of a comparison by several keys: `ab` and `ba` are what the later keys say. -/
theorem asymm_step (p : Precedence first) {a b : α} {ab ba : Bool} (q : ab = true → ba = false)
    (h : (first a b || (!first b a && ab)) = true) : (first b a || (!first a b && ba)) = false := by
  simp only [Bool.or_eq_true, Bool.and_eq_true, Bool.not_eq_true', Bool.or_eq_false_iff,
    Bool.and_eq_false_iff, Bool.not_eq_false'] at h ⊢
  rcases h with h | ⟨ha, h⟩
  · exact ⟨p.asymm h, .inl h⟩
  · exact ⟨ha, .inr (q h)⟩

theorem between_step (p : Precedence first) {a b c : α} {ab bc ac : Bool}
    (q : ac = true → ab = true ∨ bc = true) (h : (first a c || (!first c a && ac)) = true) :
    (first a b || (!first b a && ab)) = true ∨ (first b c || (!first c b && bc)) = true := by
  simp only [Bool.or_eq_true, Bool.and_eq_true, Bool.not_eq_true'] at h ⊢
  rcases h with h | ⟨hc, h⟩
  · exact (p.between b h).imp .inl .inl
  · rcases q h with h | h
    · cases hb : first b a with
      | false => exact .inl (.inr ⟨rfl, h⟩)
      | true =>
        have hbc := (p.between c hb).resolve_right (by simp [hc])
        exact .inr (.inl hbc)
    · cases hb : first c b with
      | false => exact .inr (.inr ⟨rfl, h⟩)
      | true =>
        have hab := (p.between a hb).resolve_left (by simp [hc])
        exact .inl (.inl hab)

theorem thenBy (p : Precedence first) (q : Precedence second) :
    Precedence (thenBy first second) where
  asymm h := p.asymm_step q.asymm h
  between b h := p.between_step (q.between b) h

theorem le_trans (p : Precedence less) (a b c : α) (hab : (!less b a) = true)
    (hbc : (!less c b) = true) : (!less c a) = true := by
  rw [Bool.not_eq_true'] at hab hbc ⊢
  cases h : less c a with
  | false => rfl
  | true => rcases p.between b h with h | h <;> simp_all

theorem le_total (p : Precedence less) (a b : α) : (!less b a || !less a b) = true := by
  cases h : less b a with
  | false => rfl
  | true => rw [p.asymm h]; rfl

theorem pairwise_mergeSort (p : Precedence less) (xs : List α) :
    (xs.mergeSort fun a b => !less b a).Pairwise fun a b => (!less b a) = true :=
  List.pairwise_mergeSort p.le_trans p.le_total xs

/-- Where only equal elements are tied, sorting forgets the order there was. -/
theorem mergeSort_eq_of_perm (p : Precedence less) {xs ys : List α} (h : xs.Perm ys)
    (ties : ∀ a ∈ xs, ∀ b ∈ xs, less a b = false → less b a = false → a = b) :
    (xs.mergeSort fun a b => !less b a) = ys.mergeSort fun a b => !less b a := by
  refine List.Perm.eq_of_pairwise ?_ (p.pairwise_mergeSort xs) (p.pairwise_mergeSort ys)
    ((List.mergeSort_perm _ _).trans (h.trans (List.mergeSort_perm _ _).symm))
  intro a b ha hb hab hba
  rw [Bool.not_eq_true'] at hab hba
  exact ties a (List.mem_mergeSort.mp ha) b (h.symm.subset (List.mem_mergeSort.mp hb)) hba hab

end Precedence

theorem precedence_lt {κ : Type} [LT κ] [DecidableLT κ] [Std.Asymm (α := κ) (· < ·)]
    [Std.Trichotomous (α := κ) (· < ·)] [Trans (α := κ) (· < ·) (· < ·) (· < ·)] :
    Precedence fun a b : κ => decide (a < b) where
  asymm h := decide_eq_false (Std.Asymm.asymm _ _ (of_decide_eq_true h))
  between {a c} b h := by
    simp only [decide_eq_true_eq] at h ⊢
    by_cases first : a < b
    · exact .inl first
    · right
      by_cases second : b < a
      · exact Trans.trans second h
      · obtain rfl := Std.Trichotomous.trichotomous (r := (· < ·)) a b first second
        exact h

end MutationTesting
