import MutationTesting.Proofs.Disk.Way

/-! What stays on a disk when folders are made and files are written. -/
namespace MutationTesting.Disk

/-- The second disk has all folders of the first, and the file at one place as it was. -/
structure Keeps (q : Place) (d d' : Disk) : Prop where
  current : d'.current = d.current
  folders : ∀ p, d.entry? p = some .folder → d'.entry? p = some .folder
  file : ∀ text, d.entry? q = some (.file text) → d'.entry? q = some (.file text)

namespace Keeps

variable {q : Place} {d d' d'' : Disk}

theorem refl : Keeps q d d := ⟨rfl, fun _ h => h, fun _ h => h⟩

theorem trans (h : Keeps q d d') (h' : Keeps q d' d'') : Keeps q d d'' where
  current := h'.current.trans h.current
  folders p here := h'.folders p (h.folders p here)
  file text here := h'.file text (h.file text here)

end Keeps

variable {d d' : Disk} {p q : Place} {l : Location} {text : String}

theorem readText_eq_ok :
    d.readText l = .ok text ↔ ∃ q, d.resolve l = .ok q ∧ d.entry? q = some (.file text) := by
  unfold readText
  constructor
  · intro h
    obtain ⟨q, found, h⟩ := bind_eq_ok.mp h
    refine ⟨q, found, ?_⟩
    split at h
    · next here => exact here.trans (congrArg (fun t => some (DiskEntry.file t)) (Except.ok.inj h))
    · cases h
    · cases h
  · rintro ⟨q, found, here⟩
    rw [found]
    simp [here]

/-- What is read from a location is read from it on every disk that keeps the file there. -/
theorem readText_keeps (h : d.readText l = .ok text)
    (kept : Keeps (Location.placeFrom d.current l) d d') : d'.readText l = .ok text := by
  obtain ⟨q, found, here⟩ := readText_eq_ok.mp h
  obtain rfl := resolve_eq_ok found
  have there : d.entry? (Location.placeFrom d.current l) ≠ none := by simp [here]
  have found' := resolve_keeps found (.inl there) kept.current kept.folders
  exact readText_eq_ok.mpr ⟨_, found', kept.file text here⟩

theorem makeFolder_eq_ok (h : d.makeFolder l = .ok d') :
    ∃ p, d.resolve l = .ok p ∧ d.entry? p = none ∧ d' = d.store p .folder := by
  obtain ⟨p, found, h⟩ := bind_eq_ok.mp h
  split at h
  · cases h
  · next nothing =>
    obtain ⟨_, -, h⟩ := bind_eq_ok.mp h
    exact ⟨p, found, nothing, (Except.ok.inj h).symm⟩

theorem keeps_makeFolder (h : d.makeFolder l = .ok d') : Keeps q d d' := by
  obtain ⟨p, -, nothing, rfl⟩ := makeFolder_eq_ok h
  have other {p' : Place} {e : DiskEntry} (here : d.entry? p' = some e) : p' ≠ p := by
    rintro rfl
    cases here.symm.trans nothing
  exact ⟨store_current _ _, fun p' here => (entry?_store_of_ne (other here)).trans here,
    fun text here => (entry?_store_of_ne (other here)).trans here⟩

/-- A folder that is made was not there before. -/
theorem exists?_of_makeFolder (h : d.makeFolder l = .ok d') : d.exists? l = false := by
  obtain ⟨p, found, nothing, -⟩ := makeFolder_eq_ok h
  rw [exists?, found]
  simp [nothing]

theorem isFolder_of_makeFolder (h : d.makeFolder l = .ok d')
    (closed : (Location.pieces l).getLast? ≠ some "") : d'.isFolder l = true := by
  obtain ⟨p, found, nothing, rfl⟩ := makeFolder_eq_ok h
  have root : p ≠ [] := by
    rintro rfl
    cases nothing
  have folders (q : Place) (here : d.entry? q = some .folder) :
      Disk.entry? (d.store p .folder) q = some .folder :=
    folder_store (by simp [nothing]) q here
  rw [isFolder, resolve_keeps found (.inr closed) (store_current _ _) folders]
  simp [entry?_store_self root]

/-- What is there stays there on every disk that keeps all there is. -/
theorem exists?_keeps (h : d.exists? l = true) (kept : ∀ q, Keeps q d d') : d'.exists? l = true := by
  unfold exists? at h
  split at h
  · next p found =>
    obtain ⟨e, here⟩ := Option.isSome_iff_exists.mp h
    have there : d'.entry? p = some e := by
      cases e with
      | folder => exact (kept p).folders p here
      | file text => exact (kept p).file text here
    rw [exists?, resolve_keeps found (.inl (by simp [here])) (kept p).current (kept p).folders]
    simp [there]
  · cases h

private theorem keeps_makeFoldersUpTo {depth : Nat} (h : makeFoldersUpTo l depth d = .ok d') :
    Keeps q d d' := by
  fun_induction makeFoldersUpTo l depth d generalizing d' with
  | case1 => exact Except.ok.inj h ▸ .refl
  | case2 _ _ _ _ _ made => exact Except.ok.inj h ▸ keeps_makeFolder made
  | case3 _ _ _ _ _ _ _ ih =>
    obtain ⟨d₁, above, h⟩ := bind_eq_ok.mp h
    refine (ih above).trans ?_
    split at h
    · next made => exact Except.ok.inj h ▸ keeps_makeFolder made
    · split at h
      · exact Except.ok.inj h ▸ .refl
      · cases h
  | case4 => cases h
  | case5 => exact Except.ok.inj h ▸ .refl
  | case6 => cases h

theorem keeps_makeFolders (h : d.makeFolders l = .ok d') : Keeps q d d' := keeps_makeFoldersUpTo h

private theorem keeps_writeText (h : d.writeText l text = .ok d')
    (apart : q ≠ Location.placeFrom d.current l) : Keeps q d d' := by
  obtain ⟨p, found, file, -, rfl⟩ := writeText_eq_ok h
  obtain rfl := resolve_eq_ok found
  refine ⟨store_current _ _, folder_store file, fun text here => ?_⟩
  rw [entry?_store_of_ne apart, here]

/-- A file that is placed leaves the files at all other places. -/
theorem keeps_place {file : Location} (h : d.place file text = .ok d')
    (apart : q ≠ Location.placeFrom d.current file) : Keeps q d d' := by
  have written {d₁ : Disk} (kept : Keeps q d d₁)
      (h : (d₁.writeText file text).mapError (WorkspaceError.notWritten file) = .ok d') :
      Keeps q d d' :=
    kept.trans (keeps_writeText (mapError_eq_ok.mp h) (kept.current ▸ apart))
  unfold place at h
  split at h
  · obtain ⟨d₁, folders, h⟩ := bind_eq_ok.mp h
    exact written (keeps_makeFolders (mapError_eq_ok.mp folders)) h
  · obtain ⟨d₁, same, h⟩ := bind_eq_ok.mp h
    exact written (Except.ok.inj same ▸ .refl) h

theorem place_current {file : Location} (h : d.place file text = .ok d') :
    d'.current = d.current := by
  -- Any place but that of the file will do.
  have apart : Location.placeFrom d.current file ++ [""] ≠ Location.placeFrom d.current file :=
    fun same => List.cons_ne_nil _ _ (List.append_right_eq_self.mp same)
  exact (keeps_place h apart).current

end MutationTesting.Disk
