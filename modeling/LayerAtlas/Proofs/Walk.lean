import LayerAtlas.Proofs.FileTree
import LayerAtlas.Proofs.PassedOver

/-!
# What a walk meets

A walk finds only files that names reach, each under the path to which the names lead down from where the
walk begins. And it finds every primary source that can be reached, unless it has met a directory or a file
that is left out by its name; the counters of a scan tell whether it has.
-/
namespace LayerAtlas

open FileTree (Reaches)

namespace ScanStats

theorem foldl_count (stats : ScanStats) (events : List ScanEvent) :
    (events.foldl count stats).excludedDirs = stats.excludedDirs + events.count .excludedDir ∧
      (events.foldl count stats).ignored = stats.ignored + events.count .ignoredFile := by
  induction events generalizing stats with
  | nil => exact ⟨rfl, rfl⟩
  | cons event rest ih =>
    obtain ⟨excluded, ignored⟩ := ih (stats.count event)
    rw [List.foldl_cons, excluded, ignored]
    cases event <;> simp [count] <;> omega

end ScanStats

/-- A scan that has left out nothing by its name, whether directory or file. -/
def ScanStats.Whole (stats : ScanStats) : Prop :=
  stats.excludedDirs = 0 ∧ stats.ignored = 0

instance (stats : ScanStats) : Decidable stats.Whole :=
  inferInstanceAs (Decidable (_ ∧ _))

namespace Scan

/-- Events of which none leaves out a directory or a file by its name. -/
def LeavesOutNothing (events : List ScanEvent) : Prop :=
  .excludedDir ∉ events ∧ .ignoredFile ∉ events

theorem leavesOutNothing_of_whole {events : List ScanEvent} (whole : (ScanStats.ofEvents events).Whole) :
    LeavesOutNothing events := by
  obtain ⟨excluded, ignored⟩ := ScanStats.foldl_count {} events
  obtain ⟨noDirectory, noFile⟩ := whole
  rw [ScanStats.ofEvents, excluded, Nat.zero_add] at noDirectory
  rw [ScanStats.ofEvents, ignored, Nat.zero_add] at noFile
  exact ⟨List.count_eq_zero.1 noDirectory, List.count_eq_zero.1 noFile⟩

theorem mem_files_iff {events : List ScanEvent} {file : SourceFile} :
    file ∈ files events ↔ .found file ∈ events := by
  rw [files, List.mem_filterMap]
  constructor
  · rintro ⟨event, listed, own⟩
    cases event <;> cases own
    exact listed
  · exact fun listed => ⟨.found file, listed, rfl⟩

variable {config : ScanConfig} {path : Path} {name : RawText} {names : List RawText}
  {tree : FileTree} {entries : List (RawText × FileTree)} {file : SourceFile} {bytes : ByteArray}

/-! ## Every file that is found is reached -/

mutual

theorem reaches_of_mem_entryEvents :
    ∀ {path : Path} {name : RawText} {tree : FileTree}, .found file ∈ entryEvents config path name tree →
      ∃ names bytes, Reaches tree names (.file bytes) ∧ file = .ofBytes (path.descend names) bytes
  | path, name, .file bytes, found => by
    rw [entryEvents, List.mem_singleton] at found
    unfold fileEvent at found
    split at found
    · cases found
    · split at found
      · cases found
      · cases found
        exact ⟨[], bytes, .here _, rfl⟩
  | path, name, .dir entries, found => by
    rw [entryEvents] at found
    split at found
    · cases List.mem_singleton.1 found
    · exact reaches_of_mem_dirEvents found

theorem reaches_of_mem_dirEvents :
    ∀ {path : Path} {entries : List (RawText × FileTree)}, .found file ∈ dirEvents config path entries →
      ∃ names bytes, Reaches (.dir entries) names (.file bytes) ∧
        file = .ofBytes (path.descend names) bytes
  | path, [], found => by cases found
  | path, (name, tree) :: rest, found => by
    rw [dirEvents, List.mem_append] at found
    rcases found with inside | behind
    · obtain ⟨names, bytes, reached, same⟩ := reaches_of_mem_entryEvents inside
      exact ⟨name :: names, bytes, .entry List.mem_cons_self reached, same⟩
    · obtain ⟨_, bytes, _ | ⟨listed, reached⟩, same⟩ := reaches_of_mem_dirEvents behind
      exact ⟨_, bytes, .entry (List.mem_cons_of_mem _ listed) reached, same⟩

end

/-! ## Every primary source that is reached is found -/

/-- What is met at an entry is met in its directory. -/
theorem entryEvents_subset_dirEvents (config : ScanConfig) (path : Path)
    (listed : (name, tree) ∈ entries) :
    entryEvents config (path.child name) name tree ⊆ dirEvents config path entries := by
  induction entries with
  | nil => cases listed
  | cons head tail ih =>
    rw [dirEvents]
    rcases List.mem_cons.1 listed with rfl | behind
    · exact List.subset_append_left _ _
    · exact List.subset_append_of_subset_right _ (ih behind)

theorem mem_entryEvents_of_reaches (reached : Reaches tree names (.file bytes))
    (entered : LeavesOutNothing (entryEvents config path name tree))
    (source : (path.descend names).isPrimarySource = true) :
    .found (.ofBytes (path.descend names) bytes) ∈ entryEvents config path name tree := by
  obtain ⟨noDirectory, noFile⟩ := entered
  generalize target : FileTree.file bytes = leaf at reached
  induction reached generalizing path name with
  | here tree =>
    subst target
    rw [entryEvents, List.mem_singleton] at noFile ⊢
    unfold fileEvent at noFile ⊢
    split
    · next ignored => exact absurd (by rw [if_pos ignored]) noFile
    · rw [Path.descend_nil] at source
      simp [source]
  | @entry entries own inner target names listed rest ih =>
    rw [entryEvents] at noDirectory noFile ⊢
    split
    · next excluded =>
      rw [if_pos excluded] at noDirectory
      exact absurd (List.mem_singleton_self _) noDirectory
    · next enters =>
      rw [if_neg enters] at noDirectory noFile
      have within := entryEvents_subset_dirEvents config path listed
      exact within (ih source (fun met => noDirectory (within met)) (fun met => noFile (within met)) target)

/-- Where nothing is left out, a primary source that names reach below a directory is among the files of a
walk through it. -/
theorem mem_files_of_reaches (reached : Reaches (.dir entries) names (.file bytes))
    (whole : LeavesOutNothing (dirEvents config path entries))
    (source : (path.descend names).isPrimarySource = true) :
    .ofBytes (path.descend names) bytes ∈ files (dirEvents config path entries) := by
  rw [mem_files_iff]
  cases reached with
  | @entry _ name inner _ names listed rest =>
    have within := entryEvents_subset_dirEvents config path listed
    have entered : LeavesOutNothing (entryEvents config (path.child name) name inner) :=
      ⟨fun met => whole.1 (within met), fun met => whole.2 (within met)⟩
    exact within (mem_entryEvents_of_reaches rest entered source)

end Scan

end LayerAtlas
