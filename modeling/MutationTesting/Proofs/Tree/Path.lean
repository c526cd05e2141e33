import MutationTesting.Proofs.Number.Digits
import MutationTesting.Tree.Node

/-! The text of a path tells the path. -/
namespace MutationTesting.Path

variable {p q : Path}

private theorem text_of_ne_nil (h : p ≠ []) :
    p.text.toList = ['.'].intercalate (p.map (Nat.toDigits 10)) := by
  rw [text, if_neg (by simpa using h), String.toList_intercalate, List.map_map]
  exact congrArg _ (List.map_congr_left fun i _ => toList_toString i)

private theorem mem_intercalate {pieces : List (List Char)} {separator c : Char}
    (h : c ∈ [separator].intercalate pieces) : (∃ piece ∈ pieces, c ∈ piece) ∨ c = separator := by
  induction pieces with
  | nil => cases h
  | cons piece pieces ih =>
    cases pieces with
    | nil =>
      rw [List.intercalate_singleton] at h
      exact .inl ⟨piece, List.mem_singleton_self _, h⟩
    | cons next pieces =>
      rw [List.intercalate_cons_cons, List.mem_append, List.mem_append] at h
      rcases h with (here | between) | later
      · exact .inl ⟨piece, List.mem_cons_self, here⟩
      · exact .inr (List.mem_singleton.mp between)
      · exact (ih later).imp_left fun ⟨other, listed, inside⟩ =>
          ⟨other, List.mem_cons_of_mem _ listed, inside⟩

private theorem digit_or_dot (h : p ≠ []) {c : Char} (member : c ∈ p.text.toList) :
    c.isDigit = true ∨ c = '.' := by
  rw [text_of_ne_nil h] at member
  rcases mem_intercalate member with ⟨piece, listed, inside⟩ | dot
  · obtain ⟨i, -, rfl⟩ := List.mem_map.mp listed
    exact .inl (isDigit_of_mem_toDigits inside)
  · exact .inr dot

private theorem text_ne_root (h : p ≠ []) : p.text ≠ "root" := by
  intro same
  have letter : 'r' ∈ p.text.toList := by rw [same]; decide
  rcases digit_or_dot h letter with digit | dot
  · exact absurd digit (by decide)
  · exact absurd dot (by decide)

private theorem splitOn_text (h : p ≠ []) :
    p.text.toList.splitOn '.' = p.map (Nat.toDigits 10) := by
  rw [text_of_ne_nil h]
  refine List.splitOn_intercalate '.' (fun piece listed dot => ?_) (by simpa using h)
  obtain ⟨i, -, rfl⟩ := List.mem_map.mp listed
  exact absurd (isDigit_of_mem_toDigits dot) (by decide)

/-- Between dots stand the indices, and no path but the root is written with letters. -/
theorem text_inj : p.text = q.text ↔ p = q := by
  refine ⟨fun h => ?_, congrArg text⟩
  by_cases hp : p = []
  · by_cases hq : q = []
    · rw [hp, hq]
    · subst hp
      exact (text_ne_root hq h.symm).elim
  · by_cases hq : q = []
    · subst hq
      exact (text_ne_root hp h).elim
    · have pieces := splitOn_text hp
      rw [h, splitOn_text hq] at pieces
      exact (List.map_inj_right fun _ _ => toDigits_inj.mp).mp pieces.symm

theorem zero_not_mem_text (p : Path) : '\x00' ∉ p.text.toList := by
  intro zero
  by_cases hp : p = []
  · subst hp
    exact absurd zero (by decide)
  · rcases digit_or_dot hp zero with digit | dot
    · exact absurd digit (by decide)
    · exact absurd dot (by decide)

end MutationTesting.Path
