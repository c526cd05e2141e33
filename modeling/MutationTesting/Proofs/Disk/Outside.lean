import MutationTesting.Proofs.Disk.Keep

/-! What is outside of a place and stays as it is, whatever happens at the place and below it.

A way that never comes to the place leads where it led before. -/
namespace MutationTesting

namespace Place

/-- No part of a way leads to a place or below it. -/
def Avoids (home p : Place) (pieces : List String) : Prop :=
  ∀ front, front <+: pieces → ¬ home <+: walk p front

variable {home p : Place} {pieces front : List String} {piece name : String}

theorem walk_append (p : Place) (front pieces : List String) :
    walk p (front ++ pieces) = walk (walk p front) pieces := List.foldl_append

theorem avoids_cons : Avoids home p (piece :: pieces) ↔
    ¬ home <+: p ∧ Avoids home (step p piece) pieces := by
  constructor
  · intro h
    refine ⟨h [] List.nil_prefix, fun front begins => ?_⟩
    exact h (piece :: front) (List.cons_prefix_cons.mpr ⟨rfl, begins⟩)
  · rintro ⟨outside, rest⟩ front begins
    cases front with
    | nil => exact outside
    | cons first front =>
      obtain ⟨rfl, later⟩ := List.cons_prefix_cons.mp begins
      exact rest front later

/-- One cannot come below a place without coming to it. -/
private theorem not_prefix_step (outside : ¬ home <+: p) (differs : step p piece ≠ home) :
    ¬ home <+: step p piece := by
  intro below
  unfold step at below differs
  split at below
  · exact outside below
  · next counts =>
    rw [if_neg counts] at differs
    split at below
    · exact outside (below.trans (List.dropLast_prefix p))
    · next down =>
      rw [if_neg down] at differs
      rcases List.prefix_concat_iff.mp below with same | within
      · exact differs same.symm
      · exact outside within

private theorem avoids_of_ne (outside : ¬ home <+: p) (differs : ∀ front, front <+: pieces →
    walk p front ≠ home) : Avoids home p pieces := by
  induction pieces generalizing p with
  | nil =>
    intro front begins
    obtain rfl := List.prefix_nil.mp begins
    exact outside
  | cons piece pieces ih =>
    have first := differs [piece] (List.cons_prefix_cons.mpr ⟨rfl, List.nil_prefix⟩)
    refine avoids_cons.mpr ⟨outside, ih (not_prefix_step outside first) fun front begins => ?_⟩
    exact differs (piece :: front) (List.cons_prefix_cons.mpr ⟨rfl, begins⟩)

theorem Avoids.append (h : Avoids home p front) (rest : Avoids home (walk p front) pieces) :
    Avoids home p (front ++ pieces) := by
  intro beginning begins
  rcases List.prefix_or_prefix_of_prefix begins (List.prefix_append front pieces) with
    within | ⟨more, rfl⟩
  · exact h beginning within
  · rw [walk_append]
    exact rest more ((List.prefix_append_right_inj front).mp begins)

end Place

namespace Disk

variable {d d' d'' : Disk} {home p q : Place} {l : Location} {text : String}

structure SameOutside (home : Place) (d d' : Disk) : Prop where
  current : d'.current = d.current
  entries : ∀ q, ¬ home <+: q → d'.entry? q = d.entry? q

namespace SameOutside

theorem refl : SameOutside home d d := ⟨rfl, fun _ _ => rfl⟩

theorem trans (h : SameOutside home d d') (h' : SameOutside home d' d'') :
    SameOutside home d d'' where
  current := h'.current.trans h.current
  entries q outside := (h'.entries q outside).trans (h.entries q outside)

theorem store {e : DiskEntry} (below : home <+: p) : SameOutside home d (d.store p e) where
  current := store_current p e
  entries _ outside := entry?_store_of_ne fun same => outside (same ▸ below)

end SameOutside

private theorem entry?_remove_of_outside (outside : ¬ home <+: q) :
    Disk.entry? (d.remove home) q = d.entry? q := by
  have kept (e : Place × DiskEntry) :
      decide ((!home.isPrefixOf e.1) = true ∧ (e.1 == q) = true) = (e.1 == q) := by
    by_cases same : e.1 = q
    · have apart : home.isPrefixOf e.1 = false := by
        rw [Bool.eq_false_iff, ne_eq, List.isPrefixOf_iff_prefix, same]
        exact outside
      rw [apart, same]
      simp
    · simp [same]
  unfold entry? remove
  simp only [List.find?_filter, kept]

/-- Nothing is left at a place that was removed, or below it. -/
private theorem entry?_remove_of_below (below : home <+: q) (named : q ≠ []) :
    Disk.entry? (d.remove home) q = none := by
  have root : q.isEmpty = false := by simpa using named
  unfold entry? remove
  rw [root, if_neg Bool.false_ne_true, List.find?_filter, Option.map_eq_none_iff, List.find?_eq_none]
  intro e _ both
  rw [decide_eq_true_eq, Bool.not_eq_true', beq_iff_eq] at both
  obtain ⟨apart, rfl⟩ := both
  exact absurd (List.isPrefixOf_iff_prefix.mpr below) (by simp [apart])

private theorem removeAt_current (d : Disk) (l : Location) :
    (d.removeAt l).current = d.current := by
  unfold removeAt
  split <;> rfl

theorem sameOutside_removeAt (home : Location.placeFrom d.current l = p) :
    SameOutside p d (d.removeAt l) where
  current := removeAt_current d l
  entries q outside := by
    unfold removeAt
    split
    · next found =>
      rw [resolve_eq_ok found, home]
      exact entry?_remove_of_outside outside
    · rfl

/-- A location leads to nothing once it is removed. -/
theorem exists?_removeAt (named : Location.placeFrom d.current l ≠ []) :
    (d.removeAt l).exists? l = false := by
  unfold exists?
  split
  · next p found =>
    have place := resolve_eq_ok found
    rw [removeAt_current] at place
    unfold removeAt at found ⊢
    split at found
    · next there =>
      rw [resolve_eq_ok there, place, entry?_remove_of_below (List.prefix_refl _) named]
      rfl
    · next there => cases there.symm.trans found
  · rfl

/-- What is followed to its end leads through folders. -/
private theorem folder_of_follow {pieces front : List String} {name : String} (named : name ≠ "")
    (h : d.follow p (pieces ++ [name]) = .ok q) (begins : front <+: pieces) :
    d.entry? (Place.walk p front) = some .folder := by
  induction pieces generalizing p front with
  | nil =>
    obtain rfl := List.prefix_nil.mp begins
    rw [List.nil_append, follow_cons, if_neg (by simp [named])] at h
    obtain ⟨_, here, -⟩ := bind_eq_ok.mp h
    exact requireFolder_iff.mp here
  | cons piece pieces ih =>
    rw [List.cons_append, follow_cons, if_neg (by simp)] at h
    obtain ⟨_, here, h⟩ := bind_eq_ok.mp h
    cases front with
    | nil => exact requireFolder_iff.mp here
    | cons first front =>
      obtain ⟨rfl, later⟩ := List.cons_prefix_cons.mp begins
      rw [Place.walk, List.foldl_cons]
      unfold Place.step
      split at h
      · next same => rw [if_pos same]; exact ih h later
      · next other =>
        rw [if_neg other]
        split at h
        · next up => rw [if_pos up]; exact ih h later
        · next down =>
          rw [if_neg down]
          split at h
          · cases h
          · exact ih h later

/-- A way to a place where there is nothing does not lead through that place. -/
theorem avoids_of_follow {pieces : List String} {name : String} (named : name ≠ "")
    (h : d.follow p (pieces ++ [name]) = .ok q) (outside : ¬ home <+: p)
    (nothing : d.entry? home = none) : Place.Avoids home p pieces := by
  refine Place.avoids_of_ne outside fun front begins same => ?_
  have folder := folder_of_follow named h begins
  rw [same, nothing] at folder
  cases folder

private theorem follow_outside {pieces : List String} (out : SameOutside home d d')
    (apart : Place.Avoids home p pieces) : d'.follow p pieces = d.follow p pieces := by
  induction pieces generalizing p with
  | nil => rfl
  | cons piece rest ih =>
    obtain ⟨outside, later⟩ := Place.avoids_cons.mp apart
    have onward := ih later
    rw [follow_cons, follow_cons, requireFolder, requireFolder, out.entries p outside]
    unfold Place.step at onward
    split
    · rfl
    · refine congrArg (Except.bind _) (funext fun _ => ?_)
      split
      · next stays => rwa [if_pos stays] at onward
      · next moves =>
        rw [if_neg moves] at onward
        split
        · next up => rwa [if_pos up] at onward
        · next down =>
          rw [if_neg down] at onward
          split
          · rfl
          · exact onward

/-- What is read outside of a place is read there whatever happens at the place. -/
theorem readText_outside (out : SameOutside home d d') (absolute : l.isAbsolute = true)
    (apart : Place.Avoids home [] l.pieces) : d'.readText l = d.readText l := by
  have same : d'.resolve l = d.resolve l := by
    rw [resolve, resolve, absolute, if_pos rfl, if_pos rfl, follow_outside out apart]
  unfold readText
  rw [same]
  cases found : d.resolve l with
  | error e => rfl
  | ok p =>
    have place := resolve_eq_ok found
    rw [Location.placeFrom, absolute, if_pos rfl] at place
    rw [ok_bind, ok_bind, out.entries p (place ▸ apart l.pieces (List.prefix_refl _))]

/-- What is copied into a folder changes nothing outside of it. -/
theorem sameOutside_copyContents {source target : Location}
    (h : d.copyContents source target = .ok d') :
    SameOutside (Location.placeFrom d.current target) d d' := by
  unfold copyContents at h
  split at h
  · cases h
  · split at h
    · cases h
    · obtain ⟨p, -, h⟩ := bind_eq_ok.mp h
      obtain ⟨q, found, h⟩ := bind_eq_ok.mp h
      obtain rfl := resolve_eq_ok (mapError_eq_ok.mp found)
      obtain rfl := Except.ok.inj h
      refine List.foldlRecOn _ _ .refl fun d₁ out e _ => ?_
      exact out.trans (.store (List.prefix_append _ e.1))

end Disk
end MutationTesting
