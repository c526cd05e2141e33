import MutationTesting.Proofs.Disk.Outside
import MutationTesting.Proofs.Execution.Places
import MutationTesting.Proofs.Number.Digits

/-! Where workspaces are: each is a new folder in the folder for workspaces, and nothing that
belongs to one of them is on the way to another. -/
namespace MutationTesting

namespace Location

/-- The pieces of a location that are in front of the names in a directory. -/
def way (directory : Location) : List String := (join directory "x").pieces.dropLast

private theorem pieces_join_name {directory : Location} {name : String}
    (absolute : directory.isAbsolute = true) (plain : '/' ∉ name.toList) :
    (join directory name).pieces = directory.way ++ [name] := by
  have given : directory ≠ "" := by
    rintro rfl
    cases absolute
  obtain ⟨front, same⟩ := exists_pieces_join given
  rw [way, same "x" (by decide), same name plain, List.dropLast_concat]

end Location

private theorem Disk.isAbsolute_absolute (d : Disk) (l : Location) :
    (d.absolute l).isAbsolute = true := by
  refine Location.isAbsolute_join ?_
  simp [Location.isAbsolute]

/-- A way that does not lead out never does so in between. -/
private theorem Place.exists_names?_of_prefix {pieces front names : List String}
    (inside : Place.names? pieces = some names) (begins : front <+: pieces) :
    ∃ names', Place.names? front = some names' := by
  obtain ⟨rest, rfl⟩ := begins
  rw [Place.names?, List.foldlM_append] at inside
  obtain ⟨names', first, -⟩ := Option.bind_eq_some_iff.mp inside
  exact ⟨names', first⟩

namespace Workspace

structure IsName (name : String) : Prop where
  plain : '/' ∉ name.toList
  given : name ≠ ""
  moves : name ≠ "."
  down : name ≠ ".."

theorem IsName.step {name : String} (h : IsName name) (p : Place) : Place.step p name = p ++ [name] := by
  rw [Place.step, if_neg (not_or.mpr ⟨h.given, h.moves⟩), if_neg h.down]

private theorem isName_name (slot n : Nat) : IsName (name slot n) := by
  have start : (name slot n).toList.head? = some 'i' := by simp [name]
  have other {text : String} (h : text.toList.head? ≠ some 'i') : name slot n ≠ text := by
    rintro rfl
    exact h start
  refine ⟨?_, other (by decide), other (by decide), other (by decide)⟩
  have digits (m : Nat) : '/' ∉ Nat.toDigits 10 m :=
    fun slash => absurd (isDigit_of_mem_toDigits slash) (by decide)
  have serial : '/' ∉ (serial n).toList := by
    rw [Workspace.serial, String.toList_ofList, List.mem_append, List.mem_replicate, toList_toString]
    rintro (zero | slash)
    · exact absurd zero.2 (by decide)
    · exact digits n slash
  simp [name, digits, serial]

private theorem exists_freshName (d : Disk) (root : Place) (slot : Nat) :
    ∃ n, freshName d root slot = name slot n := by
  unfold freshName
  dsimp only
  cases found : ((List.range (d.entries.length + 1)).map (name slot)).find? fun x =>
      (d.entry? (root ++ [x])).isNone with
  | none => exact ⟨0, rfl⟩
  | some x =>
    obtain ⟨n, -, rfl⟩ := List.mem_map.mp (List.mem_of_find?_eq_some found)
    exact ⟨n, rfl⟩

private theorem toList_name (slot n : Nat) : (name slot n).toList =
    "infest-".toList ++ (Nat.toDigits 10 slot ++ '-' :: (serial n).toList) := by
  simp [name]

/-- The name of a workspace tells whose it is. -/
theorem slot_of_name {slot slot' n n' : Nat} (h : name slot n = name slot' n') : slot = slot' := by
  have front (slot n : Nat) :
      (Nat.toDigits 10 slot ++ '-' :: (serial n).toList).takeWhile Char.isDigit =
        Nat.toDigits 10 slot := by
    rw [List.takeWhile_append_of_pos fun c => isDigit_of_mem_toDigits,
      List.takeWhile_cons_of_neg (by decide), List.append_nil]
  have same := congrArg String.toList h
  rw [toList_name, toList_name] at same
  have digits := congrArg (List.takeWhile Char.isDigit) (List.append_cancel_left same)
  rw [front, front] at digits
  exact toDigits_inj.mp digits

end Workspace

def Location.base (directory : Location) : Place := Place.walk [] directory.way

/-- A workspace of some name in a directory. No way into the directory leads through it. -/
structure Lodging (directory : Location) (name : String) (workspace : Location) : Prop where
  isName : Workspace.IsName name
  absolute : workspace.isAbsolute = true
  pieces : workspace.pieces = directory.way ++ [name]
  clear : Place.Avoids (directory.base ++ [name]) [] directory.way

namespace Lodging

variable {directory workspace workspace' file : Location} {name name' : String} {current : Place}

theorem placeFrom (h : Lodging directory name workspace) :
    Location.placeFrom current workspace = directory.base ++ [name] := by
  rw [Location.placeFrom, h.absolute, if_pos rfl, h.pieces, Place.walk_append, Place.walk,
    List.foldl_cons, List.foldl_nil, h.isName.step]
  rfl

theorem closed (h : Lodging directory name workspace) : workspace.pieces.getLast? ≠ some "" := by
  rw [h.pieces, List.getLast?_concat]
  exact fun same => h.isName.given (Option.some.inj same)

private theorem pieces_locate (h : Lodging directory name workspace) :
    (Workspace.locate workspace file).pieces =
      directory.way ++ name :: Location.pieces (Workspace.kept file) := by
  rw [Workspace.locate_eq_join, Location.pieces_join (Workspace.kept_isAbsolute file) h.closed,
    h.pieces, List.append_assoc, List.singleton_append]

private theorem isAbsolute_locate (h : Lodging directory name workspace) :
    (Workspace.locate workspace file).isAbsolute = true := by
  rw [Workspace.locate_eq_join]
  exact Location.isAbsolute_join h.absolute

/-- The way to a source in one workspace does not lead through another. -/
private theorem avoids_locate {names : List String} (h : Lodging directory name workspace)
    (h' : Lodging directory name' workspace') (apart : name' ≠ name)
    (inside : Workspace.names? file = some names) :
    Place.Avoids (directory.base ++ [name']) [] (Workspace.locate workspace file).pieces := by
  rw [h.pieces_locate]
  refine h'.clear.append (Place.avoids_cons.mpr ⟨h'.clear _ (List.prefix_refl _), ?_⟩)
  rw [h.isName.step]
  intro front begins below
  obtain ⟨names', way⟩ := Place.exists_names?_of_prefix inside begins
  rw [Place.walk_of_names? way, ← Location.base, List.append_assoc,
    List.prefix_append_right_inj, List.singleton_append, List.cons_prefix_cons] at below
  exact apart below.1

/-- Sources have different places in different workspaces. -/
theorem placeFrom_locate_ne {file' : Location} {names names' : List String}
    (h : Lodging directory name workspace) (h' : Lodging directory name' workspace')
    (apart : name' ≠ name) (inside : Workspace.names? file = some names)
    (inside' : Workspace.names? file' = some names') :
    Location.placeFrom current (Workspace.locate workspace file) ≠
      Location.placeFrom current (Workspace.locate workspace' file') := by
  intro same
  rw [Workspace.placeFrom_locate_of_names? inside, Workspace.placeFrom_locate_of_names? inside',
    h.placeFrom, h'.placeFrom, List.append_assoc, List.append_assoc] at same
  exact apart (List.cons.inj (List.append_cancel_left same)).1.symm

/-- What is done within one workspace does not change the source in another. -/
theorem readText_locate {names : List String} {d d' : Disk} (h : Lodging directory name workspace)
    (h' : Lodging directory name' workspace') (apart : name' ≠ name)
    (inside : Workspace.names? file = some names)
    (out : Disk.SameOutside (directory.base ++ [name']) d d') :
    d'.readText (Workspace.locate workspace file) = d.readText (Workspace.locate workspace file) :=
  Disk.readText_outside out h.isAbsolute_locate (h.avoids_locate h' apart inside)

theorem sameOutside_removeAt (h : Lodging directory name workspace) (d : Disk) :
    Disk.SameOutside (directory.base ++ [name]) d (d.removeAt workspace) :=
  Disk.sameOutside_removeAt h.placeFrom

theorem exists?_removeAt (h : Lodging directory name workspace) (d : Disk) :
    (d.removeAt workspace).exists? workspace = false := by
  refine Disk.exists?_removeAt ?_
  rw [h.placeFrom]
  exact List.append_ne_nil_of_right_ne_nil _ (List.cons_ne_nil _ _)

theorem sameOutside_furnish {s : ExecutionSettings} {d d' : Disk}
    (h : Lodging directory name workspace) (copied : Workspace.furnish s workspace d = .ok d') :
    Disk.SameOutside (directory.base ++ [name]) d d' := by
  unfold Workspace.furnish at copied
  split at copied
  · exact Except.ok.inj copied ▸ .refl
  · exact h.placeFrom ▸ Disk.sameOutside_copyContents (mapError_eq_ok.mp copied)

end Lodging

namespace Workspace

variable {root workspace : Location} {slot : Nat} {d d' : Disk}

/-- Where nothing is yet, a way that ends there does not lead through it. -/
private theorem lodging_join {directory : Location} {name : String} {q : Place}
    (absolute : directory.isAbsolute = true) (isName : IsName name)
    (found : d.resolve (Location.join directory name) = .ok q) (nothing : d.entry? q = none) :
    Lodging directory name (Location.join directory name) := by
  have below := Location.isAbsolute_join (l := name) absolute
  have pieces := Location.pieces_join_name absolute isName.plain
  refine ⟨isName, below, pieces, ?_⟩
  have place := Disk.resolve_eq_ok found
  rw [Location.placeFrom, below, if_pos rfl, pieces, Place.walk_append, Place.walk, List.foldl_cons,
    List.foldl_nil, isName.step] at place
  have followed : d.follow [] (directory.way ++ [name]) = .ok q := by
    unfold Disk.resolve at found
    split at found
    · cases found
    · split at found
      · cases found
      · rwa [pieces] at found
  refine Disk.avoids_of_follow isName.given followed (fun within => ?_) (place ▸ nothing)
  exact List.append_ne_nil_of_right_ne_nil _ (List.cons_ne_nil _ _) (List.prefix_nil.mp within)

/-- A workspace that is made was not there before, and is a folder then. -/
theorem makeEmpty_eq_ok (h : makeEmpty root slot d = .ok (workspace, d')) :
    (∃ n, Lodging (d.absolute root) (name slot n) workspace) ∧ d.exists? workspace = false ∧
      d'.isFolder workspace = true ∧ ∀ q, Disk.Keeps q d d' := by
  obtain ⟨d₁, folders, h⟩ := bind_eq_ok.mp h
  obtain ⟨p, -, h⟩ := bind_eq_ok.mp h
  obtain ⟨d₂, made, h⟩ := bind_eq_ok.mp h
  obtain ⟨rfl, rfl⟩ := Prod.mk.inj (Except.ok.inj h)
  have folders := mapError_eq_ok.mp folders
  have made := mapError_eq_ok.mp made
  have kept (q : Place) : Disk.Keeps q d d₁ := Disk.keeps_makeFolders folders
  have same : d₁.absolute root = d.absolute root := by
    rw [Disk.absolute, (kept []).current, Disk.absolute]
  obtain ⟨n, fresh⟩ := exists_freshName d₁ p slot
  rw [same, fresh] at made ⊢
  obtain ⟨q, found, nothing, -⟩ := Disk.makeFolder_eq_ok made
  have lodging := lodging_join (d.isAbsolute_absolute root) (isName_name slot n) found nothing
  refine ⟨⟨n, lodging⟩, ?_, Disk.isFolder_of_makeFolder made lodging.closed,
    fun q => (kept q).trans (Disk.keeps_makeFolder made)⟩
  refine Bool.eq_false_iff.mpr fun there => ?_
  exact Bool.eq_false_iff.mp (Disk.exists?_of_makeFolder made) (Disk.exists?_keeps there kept)

end Workspace
end MutationTesting
