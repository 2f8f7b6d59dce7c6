import LayerAtlas.Proofs.ModulePath

/-!
# Files with one module name

A module name leaves out the extension of its file, the stem of an initializer and where its folders end. No
two files come to have one name by that, except for a package and a module file beside it: the initializer
in the folder of a name and the file of that name. The name of a folder called like an initializer is no such
name, since its file would be an initializer itself. Files are told apart here by the segments that are read
along their paths, which for paths that text spells are the parts.
-/
namespace LayerAtlas

/-- Segments that are not empty and have no dots can be told apart by their name. -/
theorem Dotted.join_eq_join_iff {segments others : List String}
    (plain : ∀ segment ∈ segments, segment ≠ "" ∧ '.' ∉ segment.toList)
    (otherPlain : ∀ segment ∈ others, segment ≠ "" ∧ '.' ∉ segment.toList) :
    join segments = join others ↔ segments = others := by
  have restored : ∀ {names : List String}, (∀ name ∈ names, name ≠ "" ∧ '.' ∉ name.toList) →
      Dotted.segments (join names) = names := fun all =>
    Dotted.segments_join (fun empty => (all "" empty).1 rfl) fun name member => (all name member).2
  constructor
  · intro same
    rw [← restored plain, same, restored otherPlain]
  · exact congrArg join

namespace ModulePath

variable {root path other : Path} {folders otherFolders : List String} {stem otherStem : String}

/-- A source file to which names lead down from the root, without a dot in the names of its folders and in its
stem. -/
structure IsUndotted (root path : Path) : Prop where
  source : path.isPrimarySource = true
  below : ∃ names, names ≠ [] ∧ root.namesBelow? path = some names
  folders : ∀ names ∈ root.namesBelow? path, ∀ folder ∈ names.dropLast, RawText.dot ∉ folder.bytes
  stem : ∀ stem ∈ path.stem?, RawText.dot ∉ stem.bytes

/-- The initializer of a package, and the file beside the package that has its name, as both are read. -/
def Twins (root package module : Path) : Prop :=
  ∃ above name, name ≠ Path.initializerStem ∧
    root.segmentsBelow? package = some (above ++ [name, sourceName Path.initializerStem]) ∧
    root.segmentsBelow? module = some (above ++ [sourceName name])

/-- Text leads down from the root to the path, part by part. -/
def SpelledBelow (root path : Path) : Prop :=
  ∃ segments : List String, path.parts = root.parts ++ (segments.map RawText.ofString).map .name

/-- Twins by their parts. -/
def TwinParts (package module : Path) : Prop :=
  ∃ above name, name ≠ Path.initializerStem ∧
    package.parts =
      above ++ [.name (.ofString name), .name (.ofString (sourceName Path.initializerStem))] ∧
    module.parts = above ++ [.name (.ofString (sourceName name))]

/-! ## The segments that lead to a file -/

/-- The file lies below the root in these folders, and has this stem. -/
structure LiesAt (root path : Path) (folders : List String) (stem : String) : Prop where
  below : root.segmentsBelow? path = some (folders ++ [sourceName stem])
  plain : ∀ segment ∈ folders ++ [stem], segment ≠ "" ∧ '.' ∉ segment.toList

/-- The name of a source file is shown as one. -/
theorem lossy_of_extension {name : RawText} (extension : (Path.splitName name).2 = some (.ofString "py")) :
    (Path.splitName name).1.lossy ≠ "" ∧ name.lossy = sourceName (Path.splitName name).1.lossy := by
  obtain ⟨full, _, written⟩ := Path.eq_of_extension extension
  refine ⟨mt RawText.lossy_eq_empty_iff.1 full, ?_⟩
  have letters := RawText.toList_lossy_append (Path.splitName name).1.bytes
    (RawText.ofString "py").bytes (by decide : RawText.dot.toNat < 0x80)
  rw [← written] at letters
  rw [← String.toList_inj, toList_sourceName]
  exact letters

theorem IsUndotted.exists_liesAt (undotted : IsUndotted root path) :
    ∃ folders stem, LiesAt root path folders stem := by
  obtain ⟨names, filled, below⟩ := undotted.below
  obtain ⟨folders, fileName, rfl⟩ := (List.eq_nil_or_concat' names).resolve_left filled
  have own := Path.fileName?_of_namesBelow? below
  have extension : (Path.splitName fileName).2 = some (.ofString "py") := by
    have source := of_decide_eq_true undotted.source
    rwa [Path.extension?, own, Option.bind_some] at source
  obtain ⟨full, shown⟩ := lossy_of_extension extension
  have segments := Path.segmentsBelow?_of_namesBelow? below
  rw [List.map_append, List.map_singleton, shown] at segments
  refine ⟨_, _, segments, fun segment member => ?_⟩
  rcases List.mem_append.1 member with folder | last
  · obtain ⟨name, listed, rfl⟩ := List.mem_map.1 folder
    refine ⟨Path.ne_of_segmentsBelow? segments _ (List.mem_append_left _ folder), ?_⟩
    rw [← RawText.dot_mem_iff]
    exact undotted.folders _ below name (by rwa [List.dropLast_concat])
  · obtain rfl := List.mem_singleton.1 last
    refine ⟨full, ?_⟩
    rw [← RawText.dot_mem_iff]
    exact undotted.stem _ (by rw [Path.stem?, own, Option.map_some]; rfl)

/-- The segments of a module's name: an initializer stands for its directory. -/
def moduleSegments (folders : List String) (stem : String) : List String :=
  if stem = Path.initializerStem then folders else folders ++ [stem]

theorem LiesAt.nameOf? (lies : LiesAt root path folders stem) :
    nameOf? root path = some (Dotted.join (moduleSegments folders stem)) := by
  have full : stem ≠ "" := (lies.plain stem (by simp)).1
  rw [nameOf?_of_segmentsBelow? lies.below, moduleStem_sourceName full]
  rfl

theorem LiesAt.plain_moduleSegments (lies : LiesAt root path folders stem) :
    ∀ segment ∈ moduleSegments folders stem, segment ≠ "" ∧ '.' ∉ segment.toList := by
  intro segment member
  unfold moduleSegments at member
  split at member
  · exact lies.plain segment (List.mem_append_left _ member)
  · exact lies.plain segment member

/-- Two files have the same segments when they are the same, or when one is the initializer in a folder that
the other one names. -/
theorem moduleSegments_eq_iff :
    moduleSegments folders stem = moduleSegments otherFolders otherStem ↔
      (folders = otherFolders ∧ stem = otherStem) ∨
      (stem = Path.initializerStem ∧ otherStem ≠ Path.initializerStem ∧
        folders = otherFolders ++ [otherStem]) ∨
      (otherStem = Path.initializerStem ∧ stem ≠ Path.initializerStem ∧
        otherFolders = folders ++ [stem]) := by
  unfold moduleSegments
  by_cases package : stem = Path.initializerStem <;>
    by_cases otherPackage : otherStem = Path.initializerStem
  · simp [package, otherPackage]
  · simp [package, otherPackage, Ne.symm otherPackage]
  · simp [package, otherPackage, eq_comm]
  · simp [package, otherPackage, List.append_singleton_inj]

/-- So it is with the names of the files. -/
theorem LiesAt.nameOf?_eq_iff (lies : LiesAt root path folders stem)
    (otherLies : LiesAt root other otherFolders otherStem) :
    (∃ name, ModulePath.nameOf? root path = some name ∧ ModulePath.nameOf? root other = some name) ↔
      (folders = otherFolders ∧ stem = otherStem) ∨
      (stem = Path.initializerStem ∧ otherStem ≠ Path.initializerStem ∧
        folders = otherFolders ++ [otherStem]) ∨
      (otherStem = Path.initializerStem ∧ stem ≠ Path.initializerStem ∧
        otherFolders = folders ++ [stem]) := by
  rw [← moduleSegments_eq_iff,
    ← Dotted.join_eq_join_iff lies.plain_moduleSegments otherLies.plain_moduleSegments,
    lies.nameOf?, otherLies.nameOf?]
  simp [eq_comm]

theorem sourceName_inj : sourceName stem = sourceName otherStem ↔ stem = otherStem := by
  unfold sourceName
  exact String.append_left_inj _

/-! ## The same file, and twins -/

theorem LiesAt.segmentsBelow?_eq_iff (lies : LiesAt root path folders stem)
    (otherLies : LiesAt root other otherFolders otherStem) :
    root.segmentsBelow? path = root.segmentsBelow? other ↔ folders = otherFolders ∧ stem = otherStem := by
  rw [lies.below, otherLies.below, Option.some.injEq, List.append_singleton_inj, sourceName_inj]

theorem LiesAt.twins_iff (lies : LiesAt root path folders stem)
    (otherLies : LiesAt root other otherFolders otherStem) :
    Twins root path other ↔ stem = Path.initializerStem ∧ otherStem ≠ Path.initializerStem ∧
      folders = otherFolders ++ [otherStem] := by
  unfold Twins
  rw [lies.below, otherLies.below]
  constructor
  · rintro ⟨above, name, notInitializer, package, module⟩
    rw [Option.some.injEq, List.append_cons above, List.append_singleton_inj, sourceName_inj] at package
    rw [Option.some.injEq, List.append_singleton_inj, sourceName_inj] at module
    obtain ⟨folder, initializer⟩ := package
    obtain ⟨rfl, rfl⟩ := module
    exact ⟨initializer, notInitializer, folder⟩
  · rintro ⟨rfl, notInitializer, rfl⟩
    exact ⟨otherFolders, otherStem, notInitializer, by rw [List.append_assoc]; rfl, rfl⟩

/-- The parts of a path that text spells are those of the root and the segments read behind them. -/
theorem LiesAt.parts (lies : LiesAt root path folders stem) (spelled : SpelledBelow root path) :
    path.parts =
      root.parts ++ ((folders ++ [sourceName stem]).map RawText.ofString).map .name := by
  obtain ⟨segments, parts⟩ := spelled
  have below := Path.segmentsBelow?_of_namesBelow? (Path.namesBelow?_of_parts parts)
  rw [Path.map_lossy_ofString, lies.below, Option.some.injEq] at below
  rw [below, parts]

theorem map_part_inj {segments others : List String} :
    (segments.map RawText.ofString).map Path.Part.name = (others.map RawText.ofString).map .name ↔
      segments = others := by
  have texts : Function.Injective RawText.ofString := fun _ _ => RawText.ofString_inj.1
  have names : Function.Injective Path.Part.name := fun _ _ => Path.Part.name.inj
  rw [(List.map_injective_iff.2 names).eq_iff, (List.map_injective_iff.2 texts).eq_iff]

theorem LiesAt.parts_eq_iff (lies : LiesAt root path folders stem)
    (otherLies : LiesAt root other otherFolders otherStem) (spelled : SpelledBelow root path)
    (otherSpelled : SpelledBelow root other) :
    path.parts = other.parts ↔ folders = otherFolders ∧ stem = otherStem := by
  rw [lies.parts spelled, otherLies.parts otherSpelled, List.append_right_inj, map_part_inj,
    List.append_singleton_inj, sourceName_inj]

theorem LiesAt.twinParts_iff (lies : LiesAt root path folders stem)
    (otherLies : LiesAt root other otherFolders otherStem) (spelled : SpelledBelow root path)
    (otherSpelled : SpelledBelow root other) :
    TwinParts path other ↔ stem = Path.initializerStem ∧ otherStem ≠ Path.initializerStem ∧
      folders = otherFolders ++ [otherStem] := by
  unfold TwinParts
  rw [lies.parts spelled, otherLies.parts otherSpelled]
  constructor
  · rintro ⟨above, name, notInitializer, package, module⟩
    rw [List.map_append, List.map_append, List.map_singleton, List.map_singleton, ← List.append_assoc,
      List.append_cons above, List.append_singleton_inj, Path.Part.name.injEq, RawText.ofString_inj,
      sourceName_inj] at package
    rw [List.map_append, List.map_append, List.map_singleton, List.map_singleton, ← List.append_assoc,
      List.append_singleton_inj, Path.Part.name.injEq, RawText.ofString_inj, sourceName_inj] at module
    obtain ⟨folder, initializer⟩ := package
    obtain ⟨rfl, rfl⟩ := module
    refine ⟨initializer, notInitializer, ?_⟩
    rw [List.append_assoc, List.append_right_inj] at folder
    rw [← map_part_inj, folder, List.map_append, List.map_append]
    rfl
  · rintro ⟨rfl, notInitializer, rfl⟩
    refine ⟨root.parts ++ (otherFolders.map RawText.ofString).map .name, otherStem, notInitializer, ?_, ?_⟩
    all_goals simp

/-- Two undotted source files below a root have one module name just in case the same segments are read along
their paths, or they are read as a package's initializer and the module file beside the package. Where text
spells both paths, that is just in case they are the same file, part by part, or such a pair. -/
theorem nameOf?_eq_iff_twins (undotted : IsUndotted root path) (otherUndotted : IsUndotted root other) :
    ((∃ name, nameOf? root path = some name ∧ nameOf? root other = some name) ↔
      root.segmentsBelow? path = root.segmentsBelow? other ∨ Twins root path other ∨
        Twins root other path) ∧
    (SpelledBelow root path → SpelledBelow root other →
      ((∃ name, nameOf? root path = some name ∧ nameOf? root other = some name) ↔
        path.parts = other.parts ∨ TwinParts path other ∨ TwinParts other path)) := by
  obtain ⟨folders, stem, lies⟩ := undotted.exists_liesAt
  obtain ⟨otherFolders, otherStem, otherLies⟩ := otherUndotted.exists_liesAt
  rw [lies.nameOf?_eq_iff otherLies, lies.segmentsBelow?_eq_iff otherLies, lies.twins_iff otherLies,
    otherLies.twins_iff lies]
  refine ⟨Iff.rfl, fun spelled otherSpelled => ?_⟩
  rw [lies.parts_eq_iff otherLies spelled otherSpelled,
    lies.twinParts_iff otherLies spelled otherSpelled, otherLies.twinParts_iff lies otherSpelled spelled]

/-- A package and the module file beside it, which is spelled with a slash too many. -/
theorem nameOf?_eq_iff_twins_crm :
    IsUndotted ⟨"shop"⟩ ⟨"shop/crm/__init__.py"⟩ ∧ IsUndotted ⟨"shop"⟩ ⟨"shop//crm.py"⟩ ∧
      ∃ name, nameOf? ⟨"shop"⟩ ⟨"shop/crm/__init__.py"⟩ = some name ∧
        nameOf? ⟨"shop"⟩ ⟨"shop//crm.py"⟩ = some name := by
  have package : IsUndotted ⟨"shop"⟩ ⟨"shop/crm/__init__.py"⟩ :=
    ⟨by decide, ⟨["crm", "__init__.py"], by decide, by decide⟩, by decide, by decide⟩
  have module : IsUndotted ⟨"shop"⟩ ⟨"shop//crm.py"⟩ :=
    ⟨by decide, ⟨["crm.py"], by decide, by decide⟩, by decide, by decide⟩
  have twins : TwinParts ⟨"shop/crm/__init__.py"⟩ ⟨"shop//crm.py"⟩ :=
    ⟨[.name "shop"], "crm", by decide, by decide, by decide⟩
  have spelled : SpelledBelow ⟨"shop"⟩ ⟨"shop/crm/__init__.py"⟩ := ⟨["crm", "__init__.py"], by decide⟩
  have otherSpelled : SpelledBelow ⟨"shop"⟩ ⟨"shop//crm.py"⟩ := ⟨["crm.py"], by decide⟩
  exact ⟨package, module,
    ((nameOf?_eq_iff_twins package module).2 spelled otherSpelled).2 (.inr (.inl twins))⟩

/-- Two files share a name although they are neither the same nor is one of them an initializer: when what is
no UTF-8 in their names is shown alike, and when only a dot that begins one of the paths tells them apart. -/
theorem different_files_share_name :
    (IsUndotted ⟨"shop"⟩ (latinFile 0xe8) ∧ IsUndotted ⟨"shop"⟩ (latinFile 0xe9) ∧
      nameOf? ⟨"shop"⟩ (latinFile 0xe8) = some "\ufffd" ∧
      nameOf? ⟨"shop"⟩ (latinFile 0xe9) = some "\ufffd" ∧
      (latinFile 0xe8).parts ≠ (latinFile 0xe9).parts ∧
      (latinFile 0xe8).isPackageInitializer = false ∧ (latinFile 0xe9).isPackageInitializer = false) ∧
    (IsUndotted ⟨""⟩ ⟨"./order.py"⟩ ∧ IsUndotted ⟨""⟩ ⟨"order.py"⟩ ∧
      nameOf? ⟨""⟩ ⟨"./order.py"⟩ = some "order" ∧ nameOf? ⟨""⟩ ⟨"order.py"⟩ = some "order" ∧
      (⟨"./order.py"⟩ : Path).parts ≠ (⟨"order.py"⟩ : Path).parts ∧
      (⟨"./order.py"⟩ : Path).isPackageInitializer = false ∧
      (⟨"order.py"⟩ : Path).isPackageInitializer = false) := by
  refine ⟨⟨⟨by decide, ⟨[⟨[0xe8, 0x2e, 0x70, 0x79]⟩], by decide, by decide⟩, by decide, by decide⟩,
    ⟨by decide, ⟨[⟨[0xe9, 0x2e, 0x70, 0x79]⟩], by decide, by decide⟩, by decide, by decide⟩, by decide⟩,
    ⟨by decide, ⟨["order.py"], by decide, by decide⟩, by decide, by decide⟩,
    ⟨by decide, ⟨["order.py"], by decide, by decide⟩, by decide, by decide⟩, by decide⟩

/-- The folder's name is that of an initializer, so that its package and the file beside it are told apart. -/
example : nameOf? ⟨"shop"⟩ ⟨"shop/__init__/__init__.py"⟩ = some "__init__" ∧
    nameOf? ⟨"shop"⟩ ⟨"shop/__init__.py"⟩ = some "" := by
  decide

end ModulePath

end LayerAtlas
