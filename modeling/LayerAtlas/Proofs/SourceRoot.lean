import LayerAtlas.Proofs.ModulePath
import LayerAtlas.Proofs.Retention
import LayerAtlas.Proofs.Run

/-!
# The border of the source root

Naming the modules of a source root and classifying them both take a path apart below the root, each in its
own way. They draw the same border: what has no name is what cannot be placed. Inside it they read the same
folders and the same stem. So whatever comes to be a node of a run can be placed, and a path that is placed
has a context.
-/
namespace LayerAtlas

/-- Why a path names no file below a root. -/
inductive Path.Outside (root path : Path) : Prop where
  | elsewhere (apart : path.isUnder root = false)
  /-- The root itself; behind an empty root a lone dot is the root, too. -/
  | itself (rest : List Part) (behind : path.parts = root.parts ++ rest)
      (nowhere : ∀ part ∈ rest, part = .here)
  | climbs (rest : List Part) (behind : path.parts = root.parts ++ rest) (up : .up ∈ rest)
  /-- An absolute path behind an empty root. -/
  | anew (rest : List Part) (behind : path.parts = root.parts ++ rest) (absolute : .root ∈ rest)

namespace Path

variable {root path : Path}

/-- There are names below a root, but for the paths outside it. -/
theorem outside_iff :
    Outside root path ↔ (root.segmentsBelow? path).bind List.getLast? = none := by
  have shown : (root.segmentsBelow? path).bind List.getLast? =
      ((root.namesBelow? path).bind List.getLast?).map RawText.lossy := by
    rw [segmentsBelow?, Option.bind_map, Option.map_bind]
    congr 1
    funext names
    exact List.getLast?_map
  rw [shown, Option.map_eq_none_iff]
  unfold namesBelow?
  cases below : root.below? path with
  | none =>
    have apart : path.isUnder root = false := by rw [isUnder, below, Option.isSome_none]
    exact ⟨fun _ => rfl, fun _ => .elsewhere apart⟩
  | some rest =>
    have behind := below?_eq_some_iff.1 below
    have own : ∀ {other : List Part}, path.parts = root.parts ++ other → other = rest :=
      fun same => List.append_cancel_left (same.symm.trans behind)
    rw [Option.bind_some]
    constructor
    · intro outside
      cases outside with
      | elsewhere apart => rw [isUnder, below] at apart; cases apart
      | itself other same nowhere =>
        rw [names?_eq_nil_iff.2 (own same ▸ nowhere)]
        rfl
      | climbs other same up =>
        rw [names?_eq_none_iff.2 (.inl (own same ▸ up))]
        rfl
      | anew other same absolute =>
        rw [names?_eq_none_iff.2 (.inr (own same ▸ absolute))]
        rfl
    · intro nameless
      cases named : names? rest with
      | none =>
        rcases names?_eq_none_iff.1 named with up | absolute
        · exact .climbs rest behind up
        · exact .anew rest behind absolute
      | some names =>
        rw [named, Option.bind_some, List.getLast?_eq_none_iff] at nameless
        exact .itself rest behind (names?_eq_nil_iff.1 (nameless ▸ named))

/-- A path inside a root leads down to a file name, through folders. -/
theorem exists_of_not_outside (inside : ¬ Outside root path) :
    ∃ folders fileName, root.segmentsBelow? path = some (folders ++ [fileName]) := by
  rw [outside_iff] at inside
  obtain ⟨fileName, found⟩ := Option.ne_none_iff_exists'.1 inside
  obtain ⟨names, below, last⟩ := Option.bind_eq_some_iff.1 found
  obtain ⟨folders, rfl⟩ := List.getLast?_eq_some_iff.1 last
  exact ⟨folders, fileName, below⟩

end Path

variable {root path : Path} {book : RuleBook} {folders : List String} {stem fileName : String}

/-! ## Contexts -/

theorem Territory.headD_ne (filled : ∀ folder ∈ folders, folder ≠ "") (full : stem ≠ "") :
    folders.headD stem ≠ "" := by
  cases folders with
  | nil => exact full
  | cons first rest => exact filled first List.mem_cons_self

/-- The context is one of the folders or the stem, or has the name of a scope. -/
theorem Territory.context_ofPath_ne (book : RuleBook) (filled : ∀ folder ∈ folders, folder ≠ "")
    (full : stem ≠ "") : (ofPath book folders stem).context ≠ "" := by
  have first : folders.headD stem ≠ "" := headD_ne filled full
  have context : (ofContext book folders stem).context ≠ "" := by
    unfold ofContext
    split
    · exact first
    · next border _ =>
      exact headD_ne (fun folder member => filled folder (List.mem_of_mem_drop member)) full
    · exact first
  unfold ofPath
  split
  · exact (by decide : "root" ≠ "")
  · exact (by decide : "shared" ≠ "")
  · exact context
  · exact context

namespace RuleBook

theorem classifyPath_of_below (book : RuleBook)
    (below : root.segmentsBelow? path = some (folders ++ [fileName])) :
    book.classifyPath root path = book.passport folders (Path.splitName fileName).1.lossy := by
  rw [classifyPath, foldersAndStem?, below, Option.bind_some, List.getLast?_concat, Option.map_some,
    List.dropLast_concat]

theorem classifyPath_of_outside (book : RuleBook) (outside : Path.Outside root path) :
    book.classifyPath root path = .unresolved := by
  rw [Path.outside_iff] at outside
  unfold classifyPath foldersAndStem?
  cases below : root.segmentsBelow? path with
  | none => rfl
  | some names =>
    rw [below, Option.bind_some] at outside
    rw [Option.bind_some, outside, Option.map_none]

/-- A path that is placed has a context. -/
theorem context_classifyPath_ne (book : RuleBook)
    (below : root.segmentsBelow? path = some (folders ++ [fileName])) :
    (book.classifyPath root path).context ≠ "" := by
  obtain ⟨named, last⟩ := List.forall_mem_append.1 (Path.ne_of_segmentsBelow? below)
  have full : (Path.splitName fileName).1.lossy ≠ "" := by
    rw [ne_eq, RawText.lossy_eq_empty_iff]
    refine (Path.splitName_fst _).2 fun empty => last fileName (List.mem_singleton_self fileName) ?_
    rw [← RawText.lossy_ofString fileName, RawText.lossy_eq_empty_iff, empty]
  rw [classifyPath_of_below book below]
  exact Territory.context_ofPath_ne book named full

end RuleBook

namespace ModulePath

theorem nameOf?_of_outside (outside : Path.Outside root path) : nameOf? root path = none := by
  rw [Path.outside_iff] at outside
  unfold nameOf?
  cases below : root.segmentsBelow? path with
  | none => rfl
  | some names =>
    rw [below, Option.bind_some] at outside
    rw [Option.bind_some, outside, Option.map_none]

/-- A path has a name just where it is placed, which is inside the root, and there both come from the same
folders and the same stem. -/
theorem names_agree_with_placement (book : RuleBook) (root path : Path) :
    (nameOf? root path = none ↔ book.classifyPath root path = .unresolved) ∧
    (nameOf? root path = none ↔ Path.Outside root path) ∧
    ∀ name, nameOf? root path = some name →
      ∃ folders fileName, root.segmentsBelow? path = some (folders ++ [fileName]) ∧
        book.classifyPath root path = book.passport folders (Path.splitName fileName).1.lossy ∧
        (Path.splitName fileName).1.lossy = moduleStem fileName ∧
        name = Dotted.join (if moduleStem fileName = Path.initializerStem then folders
          else folders ++ [moduleStem fileName]) := by
  by_cases outside : Path.Outside root path
  · have nameless := nameOf?_of_outside outside
    refine ⟨iff_of_true nameless (book.classifyPath_of_outside outside), iff_of_true nameless outside, ?_⟩
    intro name named
    rw [nameless] at named
    cases named
  · obtain ⟨folders, fileName, below⟩ := Path.exists_of_not_outside outside
    have named := nameOf?_of_segmentsBelow? below
    have placed : book.classifyPath root path ≠ .unresolved := fun unresolved =>
      book.context_classifyPath_ne below (congrArg Passport.context unresolved)
    have has : nameOf? root path ≠ none := by
      rw [named]
      exact nofun
    refine ⟨iff_of_false has placed, iff_of_false has outside, fun name same => ?_⟩
    exact ⟨folders, fileName, below, book.classifyPath_of_below below, (moduleStem_eq fileName).symm,
      (Option.some.inj (named.symm.trans same)).symm⟩

end ModulePath

namespace Atlas

variable {reader : ImportReader} {disk : FileSystem} {project : Path} {config : Config}
  {request : ViewRequest}

/-- A run that passes over texts which do not parse fails at the scan only. -/
theorem exists_run_of_skip {events : List ScanEvent}
    (scanned : Scan.events disk config.scan (config.layout.sourceRoot project) = .ok events)
    (passes : config.scan.effectiveOnParseError = .skip) (reader : ImportReader) (book : RuleBook)
    (request : ViewRequest) : ∃ result, run reader book disk project config request = .ok result := by
  obtain ⟨state, registered⟩ := Registration.exists_addFiles reader
    (Build.namingRoot disk (config.layout.sourceRoot project))
    (Registration.start (config.layout.rootPackageName? project)) (Scan.files events)
  have built : ∃ built, Build.run reader (Build.namingRoot disk (config.layout.sourceRoot project))
      (config.layout.rootPackageName? project) config.scan.effectiveOnParseError
      (Scan.files events) = .ok built := by
    unfold Build.run
    rw [passes, registered]
    exact ⟨_, rfl⟩
  obtain ⟨built, linked⟩ := built
  exact exists_run scanned linked book request

/-- Naming and placing draw one border. A path has no name just where it is not placed, and that is where it
does not lie below the root, is the root, climbs, or is absolute behind an empty root; elsewhere both read
the same folders and the same stem, of which only the name leaves out that of an initializer. So every node
of a run has a passport with a context. -/
theorem naming_agrees_with_placing (book : RuleBook) :
    (∀ root path : Path,
      (ModulePath.nameOf? root path = none ↔ book.classifyPath root path = .unresolved) ∧
      (ModulePath.nameOf? root path = none ↔ Path.Outside root path) ∧
      ∀ name, ModulePath.nameOf? root path = some name →
        ∃ folders fileName, root.segmentsBelow? path = some (folders ++ [fileName]) ∧
          book.classifyPath root path = book.passport folders (Path.splitName fileName).1.lossy ∧
          (Path.splitName fileName).1.lossy = ModulePath.moduleStem fileName ∧
          name = Dotted.join (if ModulePath.moduleStem fileName = Path.initializerStem then folders
            else folders ++ [ModulePath.moduleStem fileName])) ∧
    ∀ reader disk project config request result,
      run reader book disk project config request = .ok result →
      ∀ id node, result.data.graph.get? id = some node →
        ∃ passport, node.passport = some passport ∧ passport.context ≠ "" := by
  refine ⟨ModulePath.names_agree_with_placement book, ?_⟩
  intro reader disk project config request result success id node found
  obtain ⟨root, events, state, _, _, _, passed, nodes⟩ := nodes_of_run success
  obtain ⟨module, standing, _, carried⟩ := nodes id node found
  have done := (Registration.accounted_start root (config.layout.rootPackageName? project)).addFiles passed
  obtain ⟨file, _, keyed, path⟩ := done.sourced id module standing
  obtain ⟨_, name, named, _⟩ := Registration.keyOf?_eq_some_iff.1 keyed
  have inside : ¬ Path.Outside root file.path := by
    intro outside
    rw [ModulePath.nameOf?_of_outside outside] at named
    cases named
  obtain ⟨folders, fileName, below⟩ := Path.exists_of_not_outside inside
  rw [path] at carried
  exact ⟨_, carried, book.context_classifyPath_ne below⟩

/-- A hidden file with two dots in its name, behind a root that is spelled with dots, and a run. -/
theorem naming_agrees_with_placing_shop :
    (∃ folders fileName,
      (⟨"shop/./src"⟩ : Path).segmentsBelow? ⟨"shop/src//.hidden.old.py"⟩ = some (folders ++ [fileName]) ∧
      (Path.splitName fileName).1.lossy = ModulePath.moduleStem fileName) ∧
    ∃ result, run SourceText.readImports .standard shopDisk ⟨"/srv/shop"⟩ shopConfig shopRequest =
        .ok result ∧
      ∀ id node, result.data.graph.get? id = some node →
        ∃ passport, node.passport = some passport ∧ passport.context ≠ "" := by
  obtain ⟨paths, runs⟩ := naming_agrees_with_placing .standard
  have named : ModulePath.nameOf? ⟨"shop/./src"⟩ ⟨"shop/src//.hidden.old.py"⟩ =
      some ".hidden.old" := by decide
  obtain ⟨folders, fileName, below, _, stem, _⟩ :=
    (paths ⟨"shop/./src"⟩ ⟨"shop/src//.hidden.old.py"⟩).2.2 _ named
  have scanned : Scan.events shopDisk shopConfig.scan (shopConfig.layout.sourceRoot ⟨"/srv/shop"⟩) =
      .ok (.excludedDir :: shopFiles.map .found) := by decide +kernel
  obtain ⟨result, success⟩ :=
    exists_run_of_skip scanned rfl SourceText.readImports .standard shopRequest
  exact ⟨⟨folders, fileName, below, stem⟩, result, success, runs _ _ _ _ _ _ success⟩

end Atlas

end LayerAtlas
