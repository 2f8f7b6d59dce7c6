import LayerAtlas.Proofs.Walk
import Mathlib.Data.Set.Card

/-!
# What a scan yields

A walk through a directory meets what lies at certain places, each told by the names that lead to it: the
files, and the directories that are not entered. The places come in the order of their names, first name
first, which is the order of a walk that goes into a directory where it stands. What becomes of a file is
decided at its place alone, so the files of a scan and its counters can be read off the places.
-/
namespace LayerAtlas

open FileTree (Reaches)

/-- Entries in the order of their names, which are names of their own. -/
def FileTree.InOrder (entries : List (RawText × FileTree)) : Prop :=
  entries.Pairwise fun entry other => entry.1 < other.1

instance (entries : List (RawText × FileTree)) : Decidable (FileTree.InOrder entries) :=
  inferInstanceAs (Decidable (List.Pairwise _ _))

namespace Scan

/-! ## Places -/

/-- Where something is met, and the bytes of the file there; none for a directory that is not entered. -/
abbrev Place := List RawText × Option ByteArray

mutual

/-- What is met at an entry called `name`, with the names behind that one. -/
def entryPlaces (config : ScanConfig) (name : RawText) : FileTree → List Place
  | .file bytes => [([], some bytes)]
  | .dir entries => if excludes config name then [([], none)] else dirPlaces config entries

def dirPlaces (config : ScanConfig) : List (RawText × FileTree) → List Place
  | [] => []
  | (name, tree) :: rest =>
    (entryPlaces config name tree).map (fun place => (name :: place.1, place.2)) ++
      dirPlaces config rest

end

/-- What a walk makes of a place. `own` is the name where the walk stands. -/
def placeEvent (config : ScanConfig) (path : Path) (own : RawText) (place : Place) : ScanEvent :=
  match place.2 with
  | some bytes => fileEvent config (path.descend place.1) (place.1.getLastD own) bytes
  | none => .excludedDir

mutual

theorem entryEvents_eq_map (config : ScanConfig) : ∀ (path : Path) (name : RawText) (tree : FileTree),
    entryEvents config path name tree =
      (entryPlaces config name tree).map (placeEvent config path name)
  | path, name, .file bytes => rfl
  | path, name, .dir entries => by
    rw [entryEvents, entryPlaces]
    split
    · rfl
    · exact dirEvents_eq_map config path name entries

/-- A walk is told by its places. -/
theorem dirEvents_eq_map (config : ScanConfig) :
    ∀ (path : Path) (own : RawText) (entries : List (RawText × FileTree)),
      dirEvents config path entries = (dirPlaces config entries).map (placeEvent config path own)
  | path, own, [] => rfl
  | path, own, (name, tree) :: rest => by
    rw [dirEvents, dirPlaces, List.map_append, List.map_map,
      entryEvents_eq_map config (path.child name) name tree, dirEvents_eq_map config path own rest]
    congr 1
    refine List.map_congr_left fun place _ => ?_
    obtain ⟨names, leaf⟩ := place
    cases leaf with
    | none => rfl
    | some bytes => simp only [Function.comp, placeEvent, Path.descend_cons, List.getLastD_cons]

end

variable {config : ScanConfig} {path : Path} {name own : RawText} {names : List RawText}
  {tree : FileTree} {entries : List (RawText × FileTree)} {leaf : Option ByteArray} {bytes : ByteArray}

theorem mem_dirPlaces_iff :
    (names, leaf) ∈ dirPlaces config entries ↔
      ∃ head tail inner, names = head :: tail ∧ (head, inner) ∈ entries ∧
        (tail, leaf) ∈ entryPlaces config head inner := by
  induction entries with
  | nil => simp [dirPlaces]
  | cons entry rest ih =>
    obtain ⟨name, tree⟩ := entry
    rw [dirPlaces, List.mem_append, List.mem_map, ih]
    constructor
    · rintro (⟨place, met, same⟩ | ⟨head, tail, inner, rfl, listed, met⟩)
      · cases same
        exact ⟨name, place.1, tree, rfl, List.mem_cons_self, met⟩
      · exact ⟨head, tail, inner, rfl, List.mem_cons_of_mem _ listed, met⟩
    · rintro ⟨head, tail, inner, rfl, listed, met⟩
      rcases List.mem_cons.1 listed with same | behind
      · cases same
        exact .inl ⟨(tail, leaf), met, rfl⟩
      · exact .inr ⟨head, tail, inner, rfl, behind, met⟩

/-- What ends a walk's way down at an entry with this name: a file, or a directory that is left out. -/
def IsLeaf (config : ScanConfig) (name : RawText) : Option ByteArray → FileTree → Prop
  | some bytes, tree => tree = .file bytes
  | none, tree => tree.isDir = true ∧ excludes config name = true

theorem isLeaf_of_file (config : ScanConfig) (name : RawText) :
    IsLeaf config name leaf (.file bytes) ↔ leaf = some bytes := by
  cases leaf with
  | none => simp [IsLeaf, FileTree.isDir]
  | some other => simp [IsLeaf, eq_comm]

theorem isLeaf_of_dir (config : ScanConfig) (name : RawText) (entries : List (RawText × FileTree)) :
    IsLeaf config name leaf (.dir entries) ↔ leaf = none ∧ excludes config name = true := by
  cases leaf with
  | none => simp [IsLeaf, FileTree.isDir]
  | some other => simp [IsLeaf]

/-- At an entry itself a file is met, or a directory that is left out. -/
theorem nil_mem_entryPlaces_iff :
    ([], leaf) ∈ entryPlaces config name tree ↔ IsLeaf config name leaf tree := by
  cases tree with
  | file bytes => rw [entryPlaces, List.mem_singleton, Prod.mk.injEq, isLeaf_of_file, and_iff_right rfl]
  | dir entries =>
    rw [entryPlaces, isLeaf_of_dir]
    cases excludes config name with
    | true => simp
    | false => simp [mem_dirPlaces_iff]

/-- Below an entry something is met if the entry is a directory that is entered. -/
theorem cons_mem_entryPlaces_iff {head : RawText} {tail : List RawText} :
    (head :: tail, leaf) ∈ entryPlaces config name tree ↔
      excludes config name = false ∧ ∃ entries inner, tree = .dir entries ∧ (head, inner) ∈ entries ∧
        (tail, leaf) ∈ entryPlaces config head inner := by
  cases tree with
  | file bytes => simp [entryPlaces]
  | dir entries =>
    rw [entryPlaces]
    cases excludes config name with
    | true => simp
    | false => simp [mem_dirPlaces_iff]

/-- What is met lies where names lead without passing through a directory that is left out. -/
theorem mem_entryPlaces_iff :
    (names, leaf) ∈ entryPlaces config name tree ↔
      ∃ target, Reaches tree names target ∧
        (∀ folder ∈ (name :: names).dropLast, excludes config folder = false) ∧
        IsLeaf config (names.getLastD name) leaf target := by
  induction names generalizing name tree with
  | nil =>
    rw [nil_mem_entryPlaces_iff]
    constructor
    · exact fun leads => ⟨tree, .here tree, by simp, leads⟩
    · rintro ⟨_, ⟨⟩, _, leads⟩
      exact leads
  | cons head tail ih =>
    rw [cons_mem_entryPlaces_iff, List.dropLast_cons_cons, List.forall_mem_cons, List.getLastD_cons]
    constructor
    · rintro ⟨enters, entries, inner, rfl, listed, met⟩
      obtain ⟨target, reached, entered, leads⟩ := ih.1 met
      exact ⟨target, .entry listed reached, ⟨enters, entered⟩, leads⟩
    · rintro ⟨target, _ | ⟨listed, reached⟩, ⟨enters, entered⟩, leads⟩
      exact ⟨enters, _, _, rfl, listed, ih.2 ⟨target, reached, entered, leads⟩⟩

/-- The same for a walk through a directory, which may itself have any name. -/
theorem mem_dirPlaces_iff_reaches :
    (names, leaf) ∈ dirPlaces config entries ↔
      names ≠ [] ∧ ∃ target, Reaches (.dir entries) names target ∧
        (∀ folder ∈ names.dropLast, excludes config folder = false) ∧
        IsLeaf config (names.getLastD "") leaf target := by
  rw [mem_dirPlaces_iff]
  constructor
  · rintro ⟨head, tail, inner, rfl, listed, met⟩
    obtain ⟨target, reached, entered, leads⟩ := mem_entryPlaces_iff.1 met
    exact ⟨List.cons_ne_nil _ _, target, .entry listed reached, entered, by rwa [List.getLastD_cons]⟩
  · rintro ⟨begun, target, _ | ⟨listed, reached⟩, entered, leads⟩
    · exact absurd rfl begun
    · rw [List.getLastD_cons] at leads
      exact ⟨_, _, _, rfl, listed, mem_entryPlaces_iff.2 ⟨target, reached, entered, leads⟩⟩

/-! ## Their order -/

mutual

theorem pairwise_entryPlaces (config : ScanConfig) : ∀ (path : Path) (name : RawText) (tree : FileTree),
    FileTree.Throughout (fun _ => FileTree.InOrder) path tree →
      (entryPlaces config name tree).Pairwise fun place other => place.1 < other.1
  | path, name, .file bytes, _ => List.pairwise_singleton _ _
  | path, name, .dir entries, ordered => by
    rw [entryPlaces]
    split
    · exact List.pairwise_singleton _ _
    · exact pairwise_dirPlaces config path entries (ordered [] entries (.here _)) fun entry listed =>
        fun names inner reached => ordered (entry.1 :: names) inner (.entry listed reached)

/-- Places come in the order of their names, the first name first. -/
theorem pairwise_dirPlaces (config : ScanConfig) : ∀ (path : Path) (entries : List (RawText × FileTree)),
    FileTree.InOrder entries →
    (∀ entry ∈ entries,
      FileTree.Throughout (fun _ => FileTree.InOrder) (path.child entry.1) entry.2) →
      (dirPlaces config entries).Pairwise fun place other => place.1 < other.1
  | path, [], _, _ => List.Pairwise.nil
  | path, (name, tree) :: rest, ordered, inner => by
    obtain ⟨before, behind⟩ := List.pairwise_cons.1 ordered
    obtain ⟨own, others⟩ := List.forall_mem_cons.1 inner
    rw [dirPlaces, List.pairwise_append]
    refine ⟨?_, pairwise_dirPlaces config path rest behind others, ?_⟩
    · have deeper := pairwise_entryPlaces config (path.child name) name tree own
      exact List.pairwise_map.2 (deeper.imp fun less => List.Lex.cons less)
    · rintro _ listed place met
      obtain ⟨inside, _, rfl⟩ := List.mem_map.1 listed
      obtain ⟨head, tail, other, same, among, _⟩ := mem_dirPlaces_iff.1 met
      rw [same]
      exact List.Lex.rel (before _ among)

end

/-! ## What is found -/

/-- A directory that is left out: a hidden one, or one with a name from the configuration. -/
def IsLeftOut (config : ScanConfig) (folder : RawText) : Prop :=
  folder.lossy.toList.head? = some '.' ∨ folder.lossy ∈ config.effectiveExcludedDirs

theorem excludes_eq_true_iff (config : ScanConfig) (folder : RawText) :
    excludes config folder = true ↔ IsLeftOut config folder := by
  simp [excludes, IsLeftOut]

theorem excludes_eq_false_iff (config : ScanConfig) (folder : RawText) :
    excludes config folder = false ↔ ¬ IsLeftOut config folder := by
  rw [← excludes_eq_true_iff, Bool.not_eq_true]

/-- A file that a scan yields where it meets it: its name is not ignored, and it is a primary source or within
the limit. -/
def IsKept (config : ScanConfig) (path : Path) (name : RawText) (bytes : ByteArray) : Prop :=
  name.lossy ∉ config.effectiveIgnoredFiles ∧
    (path.extension? = some (.ofString "py") ∨ bytes.size ≤ config.effectiveMaxFileSize)

instance (config : ScanConfig) (path : Path) (name : RawText) (bytes : ByteArray) :
    Decidable (IsKept config path name bytes) :=
  inferInstanceAs (Decidable (_ ∧ _))

theorem file?_fileEvent (config : ScanConfig) (path : Path) (name : RawText) (bytes : ByteArray) :
    (fileEvent config path name bytes).file? =
      if IsKept config path name bytes then some (.ofBytes path bytes) else none := by
  unfold fileEvent
  by_cases ignored : name.lossy ∈ config.effectiveIgnoredFiles
  · simp [IsKept, ignored, ScanEvent.file?]
  · by_cases source : path.extension? = some (.ofString "py")
    · simp [IsKept, ignored, Path.isPrimarySource, source, ScanEvent.file?]
    · by_cases large : config.effectiveMaxFileSize < bytes.size
      · simp [IsKept, ignored, Path.isPrimarySource, source, large, Nat.not_le.2 large, ScanEvent.file?]
      · simp [IsKept, ignored, Path.isPrimarySource, source, large, Nat.not_lt.1 large, ScanEvent.file?]

/-- The file of a place if a scan yields it: where it lies and its bytes. -/
def keptAt (config : ScanConfig) (root : Path) (place : Place) : Option (List RawText × ByteArray) :=
  place.2.bind fun bytes =>
    if IsKept config (root.descend place.1) (place.1.getLastD "") bytes then some (place.1, bytes) else none

def keptPlaces (config : ScanConfig) (root : Path) (entries : List (RawText × FileTree)) :
    List (List RawText × ByteArray) :=
  (dirPlaces config entries).filterMap (keptAt config root)

theorem files_dirEvents (config : ScanConfig) (root : Path) (entries : List (RawText × FileTree)) :
    files (dirEvents config root entries) =
      (keptPlaces config root entries).map fun place => .ofBytes (root.descend place.1) place.2 := by
  rw [dirEvents_eq_map config root "", files, keptPlaces, List.filterMap_map, List.map_filterMap]
  congr 1
  funext place
  obtain ⟨names, leaf⟩ := place
  cases leaf with
  | none => rfl
  | some bytes =>
    simp only [Function.comp, placeEvent, keptAt, Option.bind_some, file?_fileEvent]
    split <;> rfl

/-- The file at these names is one that a scan of the directory yields: no directory on the way is left out,
and the file itself is not. -/
structure IsEligible (config : ScanConfig) (root : Path) (names : List RawText) (bytes : ByteArray) :
    Prop where
  entered : ∀ folder ∈ names.dropLast, ¬ IsLeftOut config folder
  kept : IsKept config (root.descend names) (names.getLastD "") bytes

/-- A file is met where the names lead to it and leave out nothing on the way. -/
theorem mem_dirPlaces_file :
    (names, some bytes) ∈ dirPlaces config entries ↔
      Reaches (.dir entries) names (.file bytes) ∧
        ∀ folder ∈ names.dropLast, ¬ IsLeftOut config folder := by
  simp only [mem_dirPlaces_iff_reaches, excludes_eq_false_iff]
  constructor
  · rintro ⟨_, _, reached, entered, rfl⟩
    exact ⟨reached, entered⟩
  · rintro ⟨reached, entered⟩
    refine ⟨?_, _, reached, entered, rfl⟩
    rintro rfl
    cases reached

/-- A directory that is left out is met where no other one before it is. -/
theorem mem_dirPlaces_dir :
    (names, none) ∈ dirPlaces config entries ↔
      ∃ folders folder inner, names = folders ++ [folder] ∧ Reaches (.dir entries) names (.dir inner) ∧
        (∀ other ∈ folders, ¬ IsLeftOut config other) ∧ IsLeftOut config folder := by
  simp only [mem_dirPlaces_iff_reaches, excludes_eq_false_iff]
  constructor
  · rintro ⟨begun, target, reached, entered, directory, out⟩
    obtain ⟨folders, folder, rfl⟩ := (List.eq_nil_or_concat' names).resolve_left begun
    rw [List.dropLast_concat] at entered
    rw [List.getLastD_concat, excludes_eq_true_iff] at out
    cases target with
    | file bytes => cases directory
    | dir inner => exact ⟨folders, folder, inner, rfl, reached, entered, out⟩
  · rintro ⟨folders, folder, inner, rfl, reached, entered, out⟩
    refine ⟨by simp, _, reached, by rwa [List.dropLast_concat], rfl, ?_⟩
    rwa [List.getLastD_concat, excludes_eq_true_iff]

theorem mem_keptPlaces_iff {root : Path} :
    (names, bytes) ∈ keptPlaces config root entries ↔
      Reaches (.dir entries) names (.file bytes) ∧ IsEligible config root names bytes := by
  rw [keptPlaces, List.mem_filterMap]
  constructor
  · rintro ⟨⟨others, leaf⟩, met, own⟩
    obtain ⟨content, rfl, kept⟩ := Option.bind_eq_some_iff.1 own
    rw [Option.ite_none_right_eq_some] at kept
    obtain ⟨fits, same⟩ := kept
    cases same
    obtain ⟨reached, entered⟩ := mem_dirPlaces_file.1 met
    exact ⟨reached, entered, fits⟩
  · rintro ⟨reached, entered, fits⟩
    exact ⟨(names, some bytes), mem_dirPlaces_file.2 ⟨reached, entered⟩, if_pos fits⟩

/-! ## Counters -/

theorem countP_placeEvent (config : ScanConfig) (path : Path) (own : RawText) (places : List Place) :
    (places.map (placeEvent config path own)).countP (· ≠ .excludedDir) =
        (places.filter (·.2.isSome)).length ∧
      (places.map (placeEvent config path own)).count .excludedDir =
        (places.filter (·.2.isNone)).length := by
  rw [List.countP_map, List.count, List.countP_map, ← List.countP_eq_length_filter,
    ← List.countP_eq_length_filter]
  have kinds (place : Place) :
      placeEvent config path own place = .excludedDir ↔ place.2.isNone = true := by
    obtain ⟨names, leaf⟩ := place
    cases leaf with
    | none => simp [placeEvent]
    | some bytes =>
      simp only [placeEvent, fileEvent, Option.isNone_some, Bool.false_eq_true, iff_false]
      split
      · nofun
      · split <;> nofun
  constructor
  · refine List.countP_congr fun place _ => ?_
    simp [kinds, Option.isSome_iff_ne_none]
  · refine List.countP_congr fun place _ => ?_
    simp [kinds]

/-- What is listed once each is counted by the length of the list. -/
theorem ncard_of_listed {α : Type} [DecidableEq α] {list : List α} {set : Set α} (once : list.Nodup)
    (listed : ∀ member, member ∈ set ↔ member ∈ list) : set.ncard = list.length := by
  have same : set = ↑list.toFinset := by
    ext member
    rw [listed, Finset.mem_coe, List.mem_toFinset]
  rw [same, Set.ncard_coe_finset, List.toFinset_card_of_nodup once]

end Scan

namespace ScanStats

/-- Each event moves one counter, and a file that is found moves that of the files yielded. -/
theorem foldl_count_files (stats : ScanStats) (events : List ScanEvent) :
    (events.foldl count stats).yielded = stats.yielded + (Scan.files events).length ∧
      (events.foldl count stats).yielded + (events.foldl count stats).ignored +
          (events.foldl count stats).large =
        stats.yielded + stats.ignored + stats.large + events.countP (· ≠ .excludedDir) := by
  induction events generalizing stats with
  | nil => exact ⟨rfl, rfl⟩
  | cons event rest ih =>
    obtain ⟨yielded, files⟩ := ih (stats.count event)
    rw [List.foldl_cons, files, yielded, List.countP_cons]
    cases event <;> simp [count, Scan.files, ScanEvent.file?, List.filterMap_cons] <;> omega

theorem yielded_ofEvents (events : List ScanEvent) :
    (ofEvents events).yielded = (Scan.files events).length := by
  rw [ofEvents, (foldl_count_files {} events).1, Nat.zero_add]

end ScanStats

/-! ## Pulls -/

namespace ScanEvent

theorem files_upTo (pulls : Nat) (events : List ScanEvent) :
    Scan.files (upTo pulls events) = (Scan.files events).take pulls := by
  fun_induction upTo pulls events with
  | case1 events => rw [List.take_zero]; rfl
  | case2 pulls => rw [Scan.files, List.filterMap_nil, List.take_nil]
  | case3 pulls event rest ih =>
    unfold Scan.files at ih ⊢
    rw [List.filterMap_cons, List.filterMap_cons, ih]
    cases event.file? <;> simp

/-- Who pulls more often than there are files goes through all events. -/
theorem upTo_of_length_lt {pulls : Nat} {events : List ScanEvent}
    (more : (Scan.files events).length < pulls) : upTo pulls events = events := by
  fun_induction upTo pulls events with
  | case1 events => exact absurd more (Nat.not_lt_zero _)
  | case2 pulls => rfl
  | case3 pulls event rest ih =>
    unfold Scan.files at ih more
    rw [List.filterMap_cons] at more
    rw [ih]
    cases own : event.file? <;> simp_all

end ScanEvent

namespace Scan

/-- The files at these places are those of the directory outside all directories that are left out. -/
def openFiles (config : ScanConfig) (entries : List (RawText × FileTree)) : Set (List RawText) :=
  {names | (∃ bytes, Reaches (.dir entries) names (.file bytes)) ∧
    ∀ folder ∈ names.dropLast, ¬ IsLeftOut config folder}

/-- The directories that are left out, but for those inside of others. -/
def leftOutDirs (config : ScanConfig) (entries : List (RawText × FileTree)) : Set (List RawText) :=
  {names | ∃ folders folder inner, names = folders ++ [folder] ∧
    Reaches (.dir entries) names (.dir inner) ∧ (∀ other ∈ folders, ¬ IsLeftOut config other) ∧
    IsLeftOut config folder}

variable {config : ScanConfig} {root : Path} {names : List RawText} {disk : FileSystem}
  {entries : List (RawText × FileTree)}

/-- The names of the places at which something of one kind is met. -/
def placesOf (kind : Option ByteArray → Bool) (config : ScanConfig) (entries : List (RawText × FileTree)) :
    List (List RawText) :=
  ((dirPlaces config entries).filter fun place => kind place.2).map Prod.fst

theorem mem_placesOf_iff {kind : Option ByteArray → Bool} :
    names ∈ placesOf kind config entries ↔
      ∃ leaf, kind leaf = true ∧ (names, leaf) ∈ dirPlaces config entries := by
  simp only [placesOf, List.mem_map, List.mem_filter]
  constructor
  · rintro ⟨⟨_, leaf⟩, ⟨met, fits⟩, rfl⟩
    exact ⟨leaf, fits, met⟩
  · rintro ⟨leaf, fits, met⟩
    exact ⟨(names, leaf), ⟨met, fits⟩, rfl⟩

/-- The order of a walk through a directory whose entries are in order all the way down. -/
theorem pairwise_dirPlaces_of_ordered (config : ScanConfig)
    (ordered : FileTree.Throughout (fun _ => FileTree.InOrder) root (.dir entries)) :
    (dirPlaces config entries).Pairwise fun place other => place.1 < other.1 :=
  pairwise_dirPlaces config root entries (ordered [] entries (.here _))
    fun entry listed names inner reached => ordered (entry.1 :: names) inner (.entry listed reached)

theorem pairwise_keptPlaces (config : ScanConfig)
    (ordered : FileTree.Throughout (fun _ => FileTree.InOrder) root (.dir entries)) :
    ((keptPlaces config root entries).map Prod.fst).Pairwise (· < ·) := by
  have own {place : Place} {kept : List RawText × ByteArray} (found : keptAt config root place = some kept) :
      kept.1 = place.1 := by
    obtain ⟨bytes, _, fits⟩ := Option.bind_eq_some_iff.1 found
    rw [Option.ite_none_right_eq_some] at fits
    cases fits.2
    rfl
  rw [List.pairwise_map, keptPlaces, List.pairwise_filterMap]
  refine (pairwise_dirPlaces_of_ordered config ordered).imp ?_
  intro place other less kept found otherKept otherFound
  rwa [own found, own otherFound]

theorem nodup_placesOf (kind : Option ByteArray → Bool) (config : ScanConfig)
    (ordered : FileTree.Throughout (fun _ => FileTree.InOrder) root (.dir entries)) :
    (placesOf kind config entries).Nodup := by
  refine List.pairwise_map.2 (((pairwise_dirPlaces_of_ordered config ordered).imp ?_).filter _)
  intro place other less same
  rw [same] at less
  exact List.lt_irrefl _ less

/-- The counters of a whole scan: every file that can be met moves one of three, and every directory that is
left out the fourth. -/
theorem counters_dirEvents (config : ScanConfig)
    (ordered : FileTree.Throughout (fun _ => FileTree.InOrder) root (.dir entries)) :
    let stats := ScanStats.ofEvents (dirEvents config root entries)
    stats.yielded + stats.ignored + stats.large = (openFiles config entries).ncard ∧
      stats.excludedDirs = (leftOutDirs config entries).ncard := by
  obtain ⟨files, dirs⟩ := countP_placeEvent config root "" (dirPlaces config entries)
  rw [← dirEvents_eq_map] at files dirs
  dsimp only
  constructor
  · have listed (names : List RawText) :
        names ∈ openFiles config entries ↔ names ∈ placesOf Option.isSome config entries := by
      rw [mem_placesOf_iff]
      constructor
      · rintro ⟨⟨bytes, reached⟩, entered⟩
        exact ⟨some bytes, rfl, mem_dirPlaces_file.2 ⟨reached, entered⟩⟩
      · rintro ⟨leaf, file, met⟩
        obtain ⟨bytes, rfl⟩ := Option.isSome_iff_exists.1 file
        obtain ⟨reached, entered⟩ := mem_dirPlaces_file.1 met
        exact ⟨⟨bytes, reached⟩, entered⟩
    rw [ncard_of_listed (nodup_placesOf _ config ordered) listed, ScanStats.ofEvents,
      (ScanStats.foldl_count_files {} _).2, files, placesOf, List.length_map]
    exact Nat.zero_add _
  · have listed (names : List RawText) :
        names ∈ leftOutDirs config entries ↔ names ∈ placesOf Option.isNone config entries := by
      rw [mem_placesOf_iff]
      constructor
      · exact fun out => ⟨none, rfl, mem_dirPlaces_dir.2 out⟩
      · rintro ⟨leaf, dir, met⟩
        obtain rfl := Option.isNone_iff_eq_none.1 dir
        exact mem_dirPlaces_dir.1 met
    rw [ncard_of_listed (nodup_placesOf _ config ordered) listed, ScanStats.ofEvents,
      (ScanStats.foldl_count {} _).1, dirs, placesOf, List.length_map]
    exact Nat.zero_add _

/-- A hidden and an excluded directory, a package beside a module of its name, and in the package a file that
is ignored and a large one. -/
def yieldEntries : List (RawText × FileTree) :=
  [(".git", .dir [("hook.py", .file "".toUTF8)]), ("build", .dir [("old", .dir [(".git", .dir [])])]),
    ("crm", .dir [(".DS_Store", .file "".toUTF8), ("mail.py", .file "import os".toUTF8),
      ("notes.md", .file "TODO".toUTF8)]),
    ("crm.py", .file "".toUTF8)]

def yieldDisk : FileSystem where
  top := .dir [("srv", .dir [("shop", .dir yieldEntries)])]
  workingDir := ["tmp"]

end Scan

end LayerAtlas
