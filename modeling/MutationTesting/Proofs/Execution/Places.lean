import Mathlib.Algebra.Order.BigOperators.Group.List
import Mathlib.Algebra.Order.Group.Nat
import MutationTesting.Proofs.Disk.Keep
import MutationTesting.Proofs.Execution.Preparation
import MutationTesting.Proofs.Scheduler.Driven

/-! Where the sources belong in a workspace.

Each has a place of its own below the workspace exactly if the names that are kept of the locations
are different and none of them leads out again. A location with double dots in front leads out, and
absolute locations that end in the same name share a place. -/
namespace MutationTesting

namespace Workspace

/-- What is kept of the location of a source. -/
def kept (file : Location) : Location :=
  if Location.isAbsolute file then (Location.fileName? file).getD "source" else file

/-- The names that lead from a workspace to a source, unless the way leads out of the workspace. -/
def names? (file : Location) : Option (List String) := Place.names? (Location.pieces (kept file))

variable {workspace file : Location} {current : Place}

theorem locate_eq_join : locate workspace file = Location.join workspace (kept file) := by
  unfold locate kept
  split <;> rfl

private theorem plain_kept (h : Location.isAbsolute file = true) :
    '/' ∉ (kept file).toList ∧ kept file ≠ "" ∧ kept file ≠ "." ∧ kept file ≠ ".." := by
  rw [kept, if_pos h]
  cases named : Location.fileName? file with
  | none => decide
  | some name =>
    obtain ⟨member, counts⟩ := Location.fileName?_eq_some named
    exact ⟨Location.plain_of_mem_pieces member, counts⟩

theorem kept_isAbsolute (file : Location) : Location.isAbsolute (kept file) = false := by
  by_cases h : Location.isAbsolute file = true
  · exact Location.not_isAbsolute_of_plain (plain_kept h).1
  · rw [kept, if_neg h]
    simpa using h

/-- All that counts of an absolute location is its last name. -/
private theorem names?_of_isAbsolute (h : Location.isAbsolute file = true) :
    names? file = some [(Location.fileName? file).getD "source"] := by
  obtain ⟨plain, given, moves, down⟩ := plain_kept h
  have last : kept file = (Location.fileName? file).getD "source" := if_pos h
  rw [names?, Location.pieces_of_plain plain, ← last]
  simp [Place.names?, Place.stepWithin?, Place.step, given, moves, down]

private theorem placeFrom_locate :
    Location.placeFrom current (locate workspace file) =
      Place.walk (Location.placeFrom current workspace) (Location.pieces (kept file)) := by
  rw [locate_eq_join, Location.placeFrom_join current workspace (kept_isAbsolute file)]

theorem placeFrom_locate_of_names? {names : List String} (h : names? file = some names) :
    Location.placeFrom current (locate workspace file) =
      Location.placeFrom current workspace ++ names := by
  rw [placeFrom_locate, Place.walk_of_names? h]

/-- Absolute locations that end in the same name share a place in every workspace. -/
private theorem placeFrom_eq_of_fileName? {f g : Location} (hf : Location.isAbsolute f = true)
    (hg : Location.isAbsolute g = true) (same : Location.fileName? f = Location.fileName? g) :
    Location.placeFrom current (locate workspace f) =
      Location.placeFrom current (locate workspace g) := by
  rw [placeFrom_locate_of_names? (names?_of_isAbsolute hf),
    placeFrom_locate_of_names? (names?_of_isAbsolute hg), same]

/-- There is a workspace with a name that is none of these pieces. -/
private theorem exists_other_name (pieces : List String) :
    ∃ workspace x, Location.placeFrom [] workspace = [x] ∧ x ∉ pieces := by
  let x := String.ofList (List.replicate ((pieces.map String.length).sum + 3) 'w')
  have long : x.length = (pieces.map String.length).sum + 3 := by simp [x]
  have other (y : String) (h : y.length < 3) : x ≠ y := by
    rintro rfl
    omega
  have down : Place.step [] x = [x] := by
    unfold Place.step
    rw [if_neg (not_or.mpr ⟨other "" (by decide), other "." (by decide)⟩),
      if_neg (other ".." (by decide))]
    rfl
  refine ⟨"" ++ "/" ++ x, x, ?_, fun member => ?_⟩
  · have plain : '/' ∉ x.toList := by simp [x]
    have absolute : Location.isAbsolute ("" ++ "/" ++ x) = true := by
      simp [Location.isAbsolute]
    rw [Location.placeFrom, absolute, Location.pieces_append_slash,
      Location.pieces_of_plain plain]
    exact down
  · have short : x.length ≤ (pieces.map String.length).sum :=
      List.le_sum_of_mem (List.mem_map_of_mem member)
    omega

end Workspace

open Workspace Location in
structure OwnPlaces (current : Place) (workspace : Location) (files : List Location) : Prop where
  inside : ∀ f ∈ files, Place.StrictlyBelow (placeFrom current workspace)
    (placeFrom current (locate workspace f))
  apart : files.Pairwise fun f g =>
    placeFrom current (locate workspace f) ≠ placeFrom current (locate workspace g)

/-- What is kept of the locations of the sources leads to different names and out of nothing. -/
structure OwnNames (files : List Location) : Prop where
  inside : ∀ f ∈ files, ∃ name names, Workspace.names? f = some (name :: names)
  apart : files.Pairwise fun f g => Workspace.names? f ≠ Workspace.names? g

section

variable {files : List Location}

instance : Decidable (OwnNames files) :=
  decidable_of_iff ((∀ f ∈ files, (Workspace.names? f).getD [] ≠ []) ∧
    files.Pairwise fun f g => Workspace.names? f ≠ Workspace.names? g)
    ⟨fun ⟨inside, apart⟩ => ⟨fun f member => by
      have named := inside f member
      revert named
      cases Workspace.names? f with
      | none => exact fun named => absurd rfl named
      | some names =>
        cases names with
        | nil => exact fun named => absurd rfl named
        | cons name names => exact fun _ => ⟨name, names, rfl⟩, apart⟩,
    fun h => ⟨fun f member => by
      obtain ⟨name, names, named⟩ := h.inside f member
      rw [named]
      exact List.cons_ne_nil _ _, h.apart⟩⟩

private theorem OwnNames.ownPlaces (h : OwnNames files) (current : Place) (workspace : Location) :
    OwnPlaces current workspace files where
  inside f member := by
    obtain ⟨name, names, named⟩ := h.inside f member
    exact ⟨name, names, Workspace.placeFrom_locate_of_names? named⟩
  apart := by
    refine h.apart.imp_of_mem ?_
    intro f g hf hg differ same
    obtain ⟨name, names, first⟩ := h.inside f hf
    obtain ⟨name', names', second⟩ := h.inside g hg
    rw [Workspace.placeFrom_locate_of_names? first, Workspace.placeFrom_locate_of_names? second]
      at same
    exact differ (by rw [first, second, List.append_cancel_left same])

private theorem ownNames_of_ownPlaces (h : ∀ current workspace, OwnPlaces current workspace files) :
    OwnNames files := by
  have inside : ∀ f ∈ files, ∃ name names, Workspace.names? f = some (name :: names) := by
    intro f member
    obtain ⟨workspace, x, there, other⟩ :=
      Workspace.exists_other_name (Location.pieces (Workspace.kept f))
    obtain ⟨name, names, below⟩ := (h [] workspace).inside f member
    cases named : Workspace.names? f with
    | none =>
      have left := Place.not_mem_walk_of_foldlM List.not_mem_nil other named
      rw [Workspace.placeFrom_locate, there] at below
      rw [List.append_nil, below] at left
      exact absurd (List.mem_append_left _ (List.mem_singleton_self x)) left
    | some found =>
      rw [Workspace.placeFrom_locate_of_names? named] at below
      exact ⟨name, names, congrArg some (List.append_cancel_left below)⟩
  refine ⟨inside, (h [] "/").apart.imp_of_mem ?_⟩
  intro f g hf hg differ same
  obtain ⟨name, names, named⟩ := inside f hf
  refine differ ?_
  rw [Workspace.placeFrom_locate_of_names? named,
    Workspace.placeFrom_locate_of_names? (same ▸ named)]

end

namespace Scheduler

variable {workspace : Location} {sources : List SourceFile} {d d' : Disk} {q : Place}

private theorem keeps_placeSources (h : placeSources sources workspace d = .ok d')
    (apart : ∀ f ∈ sources, q ≠ Location.placeFrom d.current (Workspace.locate workspace f.path)) :
    Disk.Keeps q d d' := by
  induction sources generalizing d with
  | nil => exact Except.ok.inj h ▸ .refl
  | cons f sources ih =>
    rw [placeSources, List.foldlM_cons] at h
    obtain ⟨d₁, first, rest⟩ := bind_eq_ok.mp h
    have kept := Disk.keeps_place first (apart f List.mem_cons_self)
    refine kept.trans (ih rest fun g member => ?_)
    rw [kept.current]
    exact apart g (List.mem_cons_of_mem _ member)

/-- Where sources have different places, none takes the text of another away. -/
private theorem readText_of_placeSources (h : placeSources sources workspace d = .ok d')
    (apart : sources.Pairwise fun f g =>
      Location.placeFrom d.current (Workspace.locate workspace f.path) ≠
        Location.placeFrom d.current (Workspace.locate workspace g.path)) :
    ∀ f ∈ sources, d'.readText (Workspace.locate workspace f.path) = .ok f.text := by
  induction sources generalizing d with
  | nil => exact fun _ member => absurd member List.not_mem_nil
  | cons f sources ih =>
    rw [placeSources, List.foldlM_cons] at h
    obtain ⟨d₁, first, rest⟩ := bind_eq_ok.mp h
    have current : d₁.current = d.current := Disk.place_current first
    obtain ⟨others, later⟩ := List.pairwise_cons.mp apart
    rw [← current] at others later
    intro g member
    rcases List.mem_cons.mp member with rfl | member
    · exact Disk.readText_keeps (Disk.readText_of_place first) (keeps_placeSources rest others)
    · exact ih rest later g member

/-- What the tests of the unmodified sources find where a source belongs is its own text. -/
private theorem readText_of_baselineRequest {sched : Scheduler} {request : TestRequest}
    (own : OwnNames (sources.map SourceFile.path))
    (h : sched.baselineRequest sources d = .ok (request, d')) :
    ∀ f ∈ sources, d'.readText (Workspace.locate request.workspace f.path) = .ok f.text := by
  obtain ⟨⟨workspace, d₁⟩, -, h⟩ := bind_eq_ok.mp h
  obtain ⟨d₂, placed, h⟩ := bind_eq_ok.mp h
  obtain ⟨rfl, rfl⟩ := Prod.mk.inj (Except.ok.inj h)
  have apart := (own.ownPlaces d₁.current workspace).apart
  rw [List.pairwise_map] at apart
  exact readText_of_placeSources (mapError_eq_ok.mp placed) apart

end Scheduler

/-- The changed source of a mutant is written below the workspace. -/
private theorem ExecutionSettings.artifact_below {s : ExecutionSettings} {slot : Nat} {j : Job}
    {d d' : Disk} {request : TestRequest} {name : String} {names : List String}
    (named : Workspace.names? j.mutant.file = some (name :: names))
    (h : s.prepare slot j d = .ok (request, d')) :
    ∃ p text, j.patched s = .ok text ∧ d'.resolve request.artifact = .ok p ∧
      d'.entry? p = some (.file text) ∧
      p = Location.placeFrom d'.current request.workspace ++ name :: names := by
  obtain ⟨text, patched, read, -⟩ := prepare_ok h
  obtain ⟨p, found, here⟩ := Disk.readText_eq_ok.mp read
  refine ⟨p, text, patched, found, here, ?_⟩
  obtain ⟨⟨workspace, d₁⟩, -, h⟩ := bind_eq_ok.mp h
  obtain ⟨⟨artifact, d₂⟩, placed, h⟩ := bind_eq_ok.mp h
  obtain ⟨rfl, rfl⟩ := Prod.mk.inj (Except.ok.inj h)
  obtain ⟨_, -, placed⟩ := bind_eq_ok.mp placed
  obtain ⟨_, -, placed⟩ := bind_eq_ok.mp placed
  obtain ⟨rfl, rfl⟩ := Prod.mk.inj (Except.ok.inj placed)
  exact (Disk.resolve_eq_ok found).trans (Workspace.placeFrom_locate_of_names? named)

/-- In every workspace the sources have places of their own below it exactly if what is kept of
their locations leads to different names and never out. Then the tests of the unmodified sources
find the text of every source, and the changed source of a mutant is written into its workspace. -/
theorem sources_have_own_places_iff (sources : List SourceFile) :
    ((∀ current workspace, OwnPlaces current workspace (sources.map SourceFile.path)) ↔
      OwnNames (sources.map SourceFile.path)) ∧
    (OwnNames (sources.map SourceFile.path) →
      (∀ (sched : Scheduler) d request d', sched.baselineRequest sources d = .ok (request, d') →
        ∀ f ∈ sources, d'.readText (Workspace.locate request.workspace f.path) = .ok f.text) ∧
      ∀ (s : ExecutionSettings) slot (j : Job) d request d',
        j.mutant.file ∈ sources.map SourceFile.path → s.prepare slot j d = .ok (request, d') →
        ∃ p text, j.patched s = .ok text ∧ d'.resolve request.artifact = .ok p ∧
          d'.entry? p = some (.file text) ∧
          Place.StrictlyBelow (Location.placeFrom d'.current request.workspace) p) := by
  refine ⟨⟨ownNames_of_ownPlaces, OwnNames.ownPlaces⟩, fun own => ⟨?_, ?_⟩⟩
  · exact fun sched d request d' => Scheduler.readText_of_baselineRequest own
  · intro s slot j d request d' member ready
    obtain ⟨name, names, named⟩ := own.inside _ member
    obtain ⟨p, text, patched, found, here, below⟩ := ExecutionSettings.artifact_below named ready
    exact ⟨p, text, patched, found, here, name, names, below⟩

namespace Scheduler.Sample

def calculator (path : Location) (name : String) (factor : Nat) : SourceFile where
  path
  text := name ++ " = " ++ toString factor ++ " * 7;"
  ast := { kind := .module, children := [{ kind := .exprStmt, children := [
    { kind := .assign, children := [.leaf (.variableRef name),
      { kind := .binary .mul, children := [.leaf (.int (.ofNat factor)), .leaf (.int 7)],
        span := some ⟨5, 10, 1, 1⟩ }] }] }] }

def tidy : List SourceFile :=
  [calculator "src/calc.php" "$a" 2, calculator "./src/../lib/calc.php" "$b" 3,
    calculator "/two/calc.php" "$c" 4]

/-- Different files with the same last name. -/
def calculators : List SourceFile :=
  [calculator "/one/calc.php" "$a" 2, calculator "/two/calc.php" "$b" 3]

/-- The mutants of a file that is not below the folder from which locations are meant. -/
def outsideJobs : List Job :=
  (offers { registry := ⟨[.arithmetic .multiplication], []⟩ }
    [calculator "../calc.php" "$a" 2]).filterMap Offer.job?

end Scheduler.Sample

open Scheduler

theorem sample_sources_have_own_places :
    (∀ current workspace, OwnPlaces current workspace (Sample.tidy.map SourceFile.path)) ∧
    ∃ request d, Sample.sched.baselineRequest Sample.tidy {} = .ok (request, d) ∧
      ∀ f ∈ Sample.tidy, d.readText (Workspace.locate request.workspace f.path) = .ok f.text := by
  have own : OwnNames (Sample.tidy.map SourceFile.path) := by decide +kernel
  obtain ⟨places, consequences⟩ := sources_have_own_places_iff Sample.tidy
  have ready : (Sample.sched.baselineRequest Sample.tidy {}).toOption.isSome = true := by
    decide +kernel
  obtain ⟨⟨request, d⟩, made⟩ := Option.isSome_iff_exists.mp ready
  have made := toOption_eq_some.mp made
  exact ⟨places.mpr own, request, d, made, (consequences own).1 _ _ _ _ made⟩

/-- Two different files share their place, and the tests of the unmodified sources find the text of
the second where the first belongs. A mutant of a file above the folder from which locations are
meant is written beside its workspace. -/
theorem sample_sources_without_own_places :
    (Sample.calculators.map SourceFile.path).Pairwise
      (fun f g => Location.placeFrom [] f ≠ Location.placeFrom [] g) ∧
    (∀ current workspace,
      ¬ OwnPlaces current workspace (Sample.calculators.map SourceFile.path)) ∧
    (∃ request d, Sample.sched.baselineRequest Sample.calculators {} = .ok (request, d) ∧
      d.readText (Workspace.locate request.workspace "/one/calc.php") = .ok "$b = 3 * 7;") ∧
    ∃ j ∈ Sample.outsideJobs, ∃ request d p, Sample.settings.prepare 0 j {} = .ok (request, d) ∧
      d.resolve request.artifact = .ok p ∧
      ¬ Place.StrictlyBelow (Location.placeFrom d.current request.workspace) p := by
  refine ⟨by decide +kernel, ?_, ?_, ?_⟩
  · intro current workspace own
    have differ := (List.pairwise_cons.mp own.apart).1 "/two/calc.php" List.mem_cons_self
    exact differ (Workspace.placeFrom_eq_of_fileName? (by decide) (by decide) (by decide))
  · have found : ((Sample.sched.baselineRequest Sample.calculators {}).toOption.bind fun x =>
        (x.2.readText (Workspace.locate x.1.workspace "/one/calc.php")).toOption) =
          some "$b = 3 * 7;" := by decide +kernel
    obtain ⟨⟨request, d⟩, made, read⟩ := Option.bind_eq_some_iff.mp found
    exact ⟨request, d, toOption_eq_some.mp made, toOption_eq_some.mp read⟩
  · have found : (Sample.outsideJobs.head?.bind fun j =>
        (Sample.settings.prepare 0 j {}).toOption.bind fun x =>
          (x.2.resolve x.1.artifact).toOption.map fun p =>
            (Location.placeFrom x.2.current x.1.workspace, p)) =
          some (["w", "infest-0-000000"], ["w", "calc.php"]) := by decide +kernel
    obtain ⟨j, first, found⟩ := Option.bind_eq_some_iff.mp found
    obtain ⟨⟨request, d⟩, ready, found⟩ := Option.bind_eq_some_iff.mp found
    obtain ⟨p, resolved, places⟩ := Option.map_eq_some_iff.mp found
    obtain ⟨base, rfl⟩ := Prod.mk.inj places
    refine ⟨j, List.mem_of_head? first, request, d, _, toOption_eq_some.mp ready,
      toOption_eq_some.mp resolved, ?_⟩
    rintro ⟨name, names, below⟩
    rw [base] at below
    simp at below

end MutationTesting
