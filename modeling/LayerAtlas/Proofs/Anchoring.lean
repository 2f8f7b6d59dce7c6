import LayerAtlas.Proofs.ModulePath

/-!
# Where relative imports are anchored

The first level of a relative import is the directory of the importing file, whichever file that is: the
initializer of a package has the directory's name and takes one level less, any other file has one segment
more to lose. From there each further level leads one directory up, and levels beyond the source root stay
at it.
-/
namespace LayerAtlas

namespace Dotted

theorem flatMap_splitPieces_join (first : String) (rest : List String) :
    splitPieces '.' (join (first :: rest)).toList =
      (first :: rest).flatMap fun name => splitPieces '.' name.toList := by
  induction rest generalizing first with
  | nil =>
    have alone : join [first] = first := by simp [join]
    rw [alone, List.flatMap_singleton]
  | cons second names ih =>
    have split : join (first :: second :: names) = first ++ "." ++ join (second :: names) :=
      String.intercalate_cons_cons
    rw [split, String.toList_append, String.toList_append, List.append_assoc]
    change splitPieces '.' (first.toList ++ '.' :: (join (second :: names)).toList) = _
    rw [splitPieces_append, ih]
    rfl

/-- Joined names have the segments of each, one after another. -/
theorem segments_join_eq_flatMap (names : List String) :
    segments (join names) = names.flatMap segments := by
  cases names with
  | nil => decide
  | cons first rest =>
    rw [segments, flatMap_splitPieces_join, List.filter_flatMap, List.map_flatMap]
    rfl

theorem segments_of_dotless {name : String} (full : name ≠ "") (dotless : '.' ∉ name.toList) :
    segments name = [name] := by
  have letters : name.toList ≠ [] := fun empty => full (String.toList_eq_nil_iff.1 empty)
  simp [segments, splitPieces_of_not_mem dotless, letters]

/-- Names without dots are their own segments. -/
theorem flatMap_segments {names : List String} (full : ∀ name ∈ names, name ≠ "")
    (dotless : ∀ name ∈ names, '.' ∉ name.toList) : names.flatMap segments = names := by
  induction names with
  | nil => rfl
  | cons first rest ih =>
    obtain ⟨own, others⟩ := List.forall_mem_cons.1 full
    obtain ⟨plain, plains⟩ := List.forall_mem_cons.1 dotless
    rw [List.flatMap_cons, segments_of_dotless own plain, ih others plains, List.singleton_append]

end Dotted

namespace ModulePath

variable {root path other : Path} {folders : List String} {stem suffix : String} {level : Nat}

/-- The path is that of a source file in the directory to which the folders lead down from the root. Dots
stand in none of the names but before the extension. -/
def IsSourceIn (root : Path) (folders : List String) (path : Path) : Prop :=
  ∃ stem : String, '.' ∉ stem.toList ∧ root.segmentsBelow? path = some (folders ++ [sourceName stem])

/-- A file without a stem is named by its extension. -/
theorem segments_moduleStem (dotless : '.' ∉ stem.toList) :
    Dotted.segments (moduleStem (sourceName stem)) = [if stem = "" then "py" else stem] := by
  by_cases empty : stem = ""
  · subst empty
    decide
  · rw [moduleStem_sourceName empty, if_neg empty, Dotted.segments_of_dotless empty dotless]

/-- What is shown as the name of a source file is one, of a stem that is shown as that stem. -/
theorem splitName_of_lossy {name : RawText} (shown : name.lossy = sourceName stem) (full : stem ≠ "") :
    (Path.splitName name).2 = some (.ofString "py") ∧ (Path.splitName name).1.lossy = stem := by
  have divided := splitLast?_lossy name
  rw [shown, toList_sourceName, splitLast?_append _ (by decide)] at divided
  obtain ⟨⟨front, back⟩, raw, same⟩ := Option.map_eq_some_iff.1 divided.symm
  obtain ⟨before, behind⟩ := Prod.mk.inj same
  have own : (⟨front⟩ : RawText).lossy = stem := String.toList_inj.1 before
  have extension : (⟨back⟩ : RawText) = .ofString "py" :=
    (RawText.lossy_eq_iff_of_ascii (by decide)).1 (String.toList_inj.1 behind)
  unfold Path.splitName
  rw [raw]
  cases front with
  | nil => exact absurd own.symm full
  | cons byte rest => exact ⟨congrArg some extension, own⟩

/-- Only the initializer of a package is called so. -/
theorem isPackageInitializer_iff (below : root.segmentsBelow? path = some (folders ++ [sourceName stem])) :
    path.isPackageInitializer = true ↔ stem = Path.initializerStem := by
  obtain ⟨names, raw, shown⟩ := Path.segmentsBelow?_eq_some_iff.1 below
  obtain ⟨others, single, rfl, _, last⟩ := List.map_eq_append_iff.1 shown
  obtain ⟨name, rfl, same⟩ := List.map_eq_singleton_iff.1 last
  have named := Path.fileName?_of_namesBelow? raw
  rw [Path.isPackageInitializer, Path.isPrimarySource, Path.extension?, Path.stem?, named,
    Option.bind_some, Option.map_some, Bool.and_eq_true, decide_eq_true_iff, decide_eq_true_iff,
    Option.some.injEq]
  by_cases empty : stem = ""
  · subst empty
    obtain rfl := (RawText.lossy_eq_iff_of_ascii (by decide)).1 same
    decide
  · obtain ⟨extension, own⟩ := splitName_of_lossy same empty
    rw [and_iff_right extension, ← RawText.lossy_eq_iff_of_ascii (by decide), own]

/-- The segments of a source file's name: those of its directory, and its own behind them unless it stands
for the directory. -/
theorem segments_nameOf? (dotless : ∀ folder ∈ folders, '.' ∉ folder.toList) (plain : '.' ∉ stem.toList)
    (below : root.segmentsBelow? path = some (folders ++ [sourceName stem])) :
    ∃ name, nameOf? root path = some name ∧ Dotted.segments name = folders ++
      if stem = Path.initializerStem then [] else [if stem = "" then "py" else stem] := by
  have full : ∀ folder ∈ folders, folder ≠ "" := fun folder member =>
    Path.ne_of_segmentsBelow? below folder (List.mem_append_left _ member)
  have own := Dotted.flatMap_segments full dotless
  refine ⟨_, nameOf?_of_segmentsBelow? below, ?_⟩
  rw [Dotted.segments_join_eq_flatMap]
  by_cases package : stem = Path.initializerStem
  · subst package
    have initializer : moduleStem (sourceName Path.initializerStem) = Path.initializerStem := by decide
    rw [if_pos initializer, if_pos rfl, own, List.append_nil]
  · have other : moduleStem (sourceName stem) ≠ Path.initializerStem := by
      by_cases empty : stem = ""
      · subst empty
        decide
      · rwa [moduleStem_sourceName empty]
    rw [if_neg other, if_neg package, List.flatMap_append, own, List.flatMap_singleton,
      segments_moduleStem plain]

/-- What one level takes from a module that is no package is its own segment; a package has none to lose. -/
theorem anchor_nameOf? (dotless : ∀ folder ∈ folders, '.' ∉ folder.toList)
    (source : IsSourceIn root folders path) (upward : 1 ≤ level) (suffix : String) :
    ∃ name, nameOf? root path = some name ∧
      Dotted.anchor name level path.isPackageInitializer suffix =
        Dotted.join (folders.take (folders.length - (level - 1)) ++ Dotted.segments suffix) := by
  obtain ⟨stem, plain, below⟩ := source
  obtain ⟨name, named, segments⟩ := segments_nameOf? dotless plain below
  have package := isPackageInitializer_iff below
  refine ⟨name, named, ?_⟩
  unfold Dotted.anchor
  dsimp only
  rw [segments]
  by_cases initializer : stem = Path.initializerStem
  · rw [if_pos initializer, if_pos (package.2 initializer), List.append_nil]
  · have shorter : (folders ++ [if stem = "" then "py" else stem]).length - level =
        folders.length - (level - 1) := by
      rw [List.length_append, List.length_singleton]
      omega
    rw [if_neg initializer, if_neg (mt package.1 initializer), shorter,
      List.take_append_of_le_length (Nat.sub_le _ _)]

/-- A relative import is anchored at the directory of the importing file: from there all levels but the
first lead up, not beyond the source root, and the segments of its suffix lead down. So all files of a
directory anchor it at the same place, the initializer of the package among them, and with more levels than
there are folders it is anchored at the root. -/
theorem anchored_at_directory (dotless : ∀ folder ∈ folders, '.' ∉ folder.toList)
    (source : IsSourceIn root folders path) (neighbour : IsSourceIn root folders other)
    (upward : 1 ≤ level) (suffix : String) :
    ∃ name otherName, nameOf? root path = some name ∧ nameOf? root other = some otherName ∧
      Dotted.anchor name level path.isPackageInitializer suffix =
        Dotted.join (folders.take (folders.length - (level - 1)) ++ Dotted.segments suffix) ∧
      Dotted.anchor otherName level other.isPackageInitializer suffix =
        Dotted.anchor name level path.isPackageInitializer suffix ∧
      (folders.length < level → Dotted.anchor name level path.isPackageInitializer suffix =
        Dotted.join (Dotted.segments suffix)) := by
  obtain ⟨name, named, anchored⟩ := anchor_nameOf? dotless source upward suffix
  obtain ⟨otherName, otherNamed, same⟩ := anchor_nameOf? dotless neighbour upward suffix
  refine ⟨name, otherName, named, otherNamed, anchored, same.trans anchored.symm, fun excess => ?_⟩
  have none : folders.length - (level - 1) = 0 := by omega
  rw [anchored, none, List.take_zero, List.nil_append]

/-- Two levels up from a package in a package, and from a module beside its initializer. -/
theorem anchored_at_directory_order :
    ∃ name otherName, nameOf? ⟨"shop"⟩ ⟨"shop/crm/orders/__init__.py"⟩ = some name ∧
      nameOf? ⟨"shop"⟩ ⟨"shop/crm/orders/entry.py"⟩ = some otherName ∧
      Dotted.anchor name 2 true "mail..inbox" = "crm.mail.inbox" ∧
      Dotted.anchor otherName 2 false "mail..inbox" = "crm.mail.inbox" := by
  have source : IsSourceIn ⟨"shop"⟩ ["crm", "orders"] ⟨"shop/crm/orders/__init__.py"⟩ :=
    ⟨"__init__", by decide, by decide⟩
  have neighbour : IsSourceIn ⟨"shop"⟩ ["crm", "orders"] ⟨"shop/crm/orders/entry.py"⟩ :=
    ⟨"entry", by decide, by decide⟩
  obtain ⟨name, otherName, named, otherNamed, anchored, same, _⟩ :=
    anchored_at_directory (by decide) source neighbour (by decide : 1 ≤ 2) "mail..inbox"
  have place : Dotted.join (["crm", "orders"].take (["crm", "orders"].length - (2 - 1)) ++
      Dotted.segments "mail..inbox") = "crm.mail.inbox" := by decide
  have package : (⟨"shop/crm/orders/__init__.py"⟩ : Path).isPackageInitializer = true := by decide
  have plain : (⟨"shop/crm/orders/entry.py"⟩ : Path).isPackageInitializer = false := by decide
  rw [package, place] at anchored
  rw [package, plain, anchored] at same
  exact ⟨name, otherName, named, otherNamed, anchored, same⟩

end ModulePath

end LayerAtlas
