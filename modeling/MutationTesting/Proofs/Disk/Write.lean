import MutationTesting.Execution.Workspace
import MutationTesting.Proofs.Except

/-! What is written to a file is read back from it. -/
namespace MutationTesting.Disk

variable {d d' : Disk} {p q : Place} {e : DiskEntry}

private theorem find?_replaced {p q : Place} (e : DiskEntry) (entries : List (Place × DiskEntry)) :
    (entries.map fun x => if x.1 == p then (p, e) else x).find? (fun x => x.1 == q) =
      (entries.find? fun x => x.1 == q).map fun x => if q = p then (p, e) else x := by
  induction entries with
  | nil => rfl
  | cons x entries ih =>
    rw [List.map_cons, List.find?_cons, List.find?_cons, ih]
    by_cases hx : x.1 = q
    · by_cases hq : q = p <;> simp [hx, hq]
    · have unseen : (x.1 == q) = false := beq_false_of_ne hx
      by_cases hp : x.1 = p
      · have hq : (p == q) = false := beq_false_of_ne fun same => hx (hp.trans same)
        simp [hp, hq]
      · simp [unseen, hp]

theorem entry?_store_self (root : p ≠ []) : Disk.entry? (d.store p e) p = some e := by
  have hr : p.isEmpty = false := by simpa using root
  rw [ entry?, hr, if_neg Bool.false_ne_true]
  unfold store
  split
  · next present =>
    obtain ⟨x, member, same⟩ := List.any_eq_true.mp present
    have found : (d.entries.find? fun x => x.1 == p).isSome = true :=
      List.find?_isSome.mpr ⟨x, member, same⟩
    obtain ⟨y, hy⟩ := Option.isSome_iff_exists.mp found
    rw [find?_replaced, hy, Option.map_some, Option.map_some, if_pos rfl]
  · next absent =>
    have missing : d.entries.find? (fun x => x.1 == p) = none := by
      rw [List.find?_eq_none]
      exact fun x member same => absent (List.any_eq_true.mpr ⟨x, member, same⟩)
    simp [List.find?_append, missing]

theorem entry?_store_of_ne (h : q ≠ p) : Disk.entry? (d.store p e) q = d.entry? q := by
  unfold entry? store
  split
  · rfl
  · split
    · simp only [find?_replaced, if_neg h, Option.map_map]
      rfl
    · simp [List.find?_append, h.symm]

theorem requireFolder_iff : d.requireFolder p = .ok () ↔ d.entry? p = some .folder := by
  unfold requireFolder
  split <;> simp_all

theorem follow_cons (d : Disk) (p : Place) (piece : String) (rest : List String) :
    d.follow p (piece :: rest) =
      if piece.isEmpty && rest.isEmpty && (d.entry? p).isNone then .ok p
      else (d.requireFolder p).bind fun _ =>
        if piece = "" ∨ piece = "." then d.follow p rest
        else if piece = ".." then d.follow p.dropLast rest
        else if maxNameBytes < piece.utf8ByteSize then .error .nameTooLong
        else d.follow (p ++ [piece]) rest := by
  rw [follow]
  split <;> rfl

@[simp] theorem store_current (p : Place) (e : DiskEntry) : (d.store p e).current = d.current := by
  unfold store
  split <;> rfl

/-- A way stays the same where no folder is lost. It may end where nothing is, but not with a
slash. -/
private theorem follow_keeps {pieces : List String} (h : d.follow p pieces = .ok q)
    (named : d.entry? q ≠ none ∨ pieces.getLast? ≠ some "")
    (folders : ∀ p, d.entry? p = some .folder → d'.entry? p = some .folder) :
    d'.follow p pieces = .ok q := by
  induction pieces generalizing p with
  | nil => exact h
  | cons piece rest ih =>
    have named' : d.entry? q ≠ none ∨ rest.getLast? ≠ some "" := by
      refine named.imp_right fun last same => last ?_
      rw [List.getLast?_cons, same]
      rfl
    rw [follow_cons] at h ⊢
    split at h
    · next open_end =>
      -- A slash at the end of a location leads to a place where there is nothing.
      obtain rfl := Except.ok.inj h
      simp only [Bool.and_eq_true, String.isEmpty_iff, List.isEmpty_iff,
        Option.isNone_iff_eq_none] at open_end
      obtain ⟨⟨rfl, rfl⟩, nothing⟩ := open_end
      exact (named.elim (fun some_ => some_ nothing) fun last => last rfl).elim
    · obtain ⟨u, found, h⟩ := bind_eq_ok.mp h
      have kept := folders p (requireFolder_iff.mp found)
      rw [kept, requireFolder_iff.mpr kept]
      simp only [Option.isNone_some, Bool.and_false, Bool.false_eq_true, if_false, Except.bind]
      split at h
      · next same => rw [if_pos same]; exact ih h named'
      · next other =>
        rw [if_neg other]
        split at h
        · next up => rw [if_pos up]; exact ih h named'
        · next down =>
          rw [if_neg down]
          split at h
          · cases h
          · next fits => rw [if_neg fits]; exact ih h named'

theorem resolve_keeps {l : Location} (h : d.resolve l = .ok p)
    (named : d.entry? p ≠ none ∨ (Location.pieces l).getLast? ≠ some "")
    (current : d'.current = d.current)
    (folders : ∀ p, d.entry? p = some .folder → d'.entry? p = some .folder) :
    d'.resolve l = .ok p := by
  unfold resolve at h ⊢
  rw [current]
  split at h
  · cases h
  · next given =>
    rw [if_neg given]
    split at h
    · cases h
    · next plain =>
      rw [if_neg plain]
      exact follow_keeps h named folders

/-- Storing a file where there is no folder takes no folder away. -/
theorem folder_store (file : d.entry? p ≠ some .folder) (q : Place)
    (here : d.entry? q = some .folder) : Disk.entry? (d.store p e) q = some .folder := by
  have other : q ≠ p := by
    rintro rfl
    exact file here
  rw [entry?_store_of_ne other, here]

theorem writeText_eq_ok {l : Location} {text : String} (h : d.writeText l text = .ok d') :
    ∃ p, d.resolve l = .ok p ∧ d.entry? p ≠ some .folder ∧
      (d.entry? p ≠ none ∨ (Location.pieces l).getLast? ≠ some "") ∧
      d' = d.store p (.file text) := by
  unfold writeText at h
  cases hr : d.resolve l with
  | error e => simp [hr, bind, Except.bind] at h
  | ok p =>
    rw [hr] at h
    simp only [bind, Except.bind] at h
    refine ⟨p, rfl, ?_⟩
    split at h
    · cases h
    · next old here => exact ⟨by simp [here], .inl (by simp [here]), (Except.ok.inj h).symm⟩
    · next nothing =>
      split at h
      · cases h
      · next named =>
        refine ⟨by simp [nothing], .inr (by simpa using named), ?_⟩
        cases hf : d.requireFolder p.dropLast with
        | error e => simp [hf] at h
        | ok u =>
          rw [hf] at h
          exact (Except.ok.inj h).symm

private theorem readText_of_writeText {l : Location} {text : String}
    (h : d.writeText l text = .ok d') : d'.readText l = .ok text := by
  obtain ⟨p, found, file, named, rfl⟩ := writeText_eq_ok h
  have root : p ≠ [] := by
    rintro rfl
    exact file rfl
  rw [readText, resolve_keeps found named (store_current _ _) (folder_store file)]
  simp only [bind, Except.bind, entry?_store_self root]

/-- A file that was placed on the disk has its text. -/
theorem readText_of_place {file : Location} {text : String} (h : d.place file text = .ok d') :
    d'.readText file = .ok text := by
  unfold place at h
  split at h
  · obtain ⟨d₁, -, written⟩ := bind_eq_ok.mp h
    exact readText_of_writeText (mapError_eq_ok.mp written)
  · obtain ⟨d₁, -, written⟩ := bind_eq_ok.mp h
    exact readText_of_writeText (mapError_eq_ok.mp written)

end MutationTesting.Disk
