import LayerAtlas.Proofs.Path
import LayerAtlas.Resolve.ModulePath

/-!
# Module names and files as inverses

A module name is looked for below the source root only, under two names: the initializer of a package, then
the file of a module. Both lie where the segments of the name lead, so a file that is found has the name by
which it was found, and a file is found under the name that it has. A name that is nothing but dots has no
segments: it stands for the root itself, and the second place to look is then beside the root.
-/
namespace LayerAtlas

namespace Dotted

theorem splitPieces_join {first : String} {rest : List String}
    (dotless : ∀ segment ∈ first :: rest, '.' ∉ segment.toList) :
    splitPieces '.' (join (first :: rest)).toList = (first :: rest).map String.toList := by
  induction rest generalizing first with
  | nil =>
    have alone : join [first] = first := by simp [join]
    rw [alone, splitPieces_of_not_mem (dotless first List.mem_cons_self)]
    rfl
  | cons second names ih =>
    have split : join (first :: second :: names) = first ++ "." ++ join (second :: names) :=
      String.intercalate_cons_cons
    have behind := ih fun segment member => dotless segment (List.mem_cons_of_mem _ member)
    rw [split, String.toList_append, String.toList_append, List.append_assoc]
    change splitPieces '.' (first.toList ++ '.' :: (join (second :: names)).toList) = _
    rw [splitPieces_append, splitPieces_of_not_mem (dotless first List.mem_cons_self), behind]
    rfl

/-- Segments that are not empty and have no dots are those of their name. -/
theorem segments_join {segments : List String} (filled : "" ∉ segments)
    (dotless : ∀ segment ∈ segments, '.' ∉ segment.toList) :
    Dotted.segments (join segments) = segments := by
  cases segments with
  | nil => decide
  | cons first rest =>
    have kept : ((first :: rest).map String.toList).filter (· ≠ []) =
        (first :: rest).map String.toList := by
      rw [List.filter_eq_self]
      intro piece member
      obtain ⟨segment, listed, rfl⟩ := List.mem_map.1 member
      have full : segment ≠ "" := fun empty => filled (empty ▸ listed)
      simpa using full
    rw [Dotted.segments, splitPieces_join dotless, kept, List.map_map]
    simp [Function.comp_def]

/-- A name without empty segments is joined from its segments. -/
theorem join_segments {name : String} (filled : [] ∉ splitPieces '.' name.toList) :
    join (segments name) = name := by
  have kept : (splitPieces '.' name.toList).filter (· ≠ []) = splitPieces '.' name.toList := by
    rw [List.filter_eq_self]
    intro piece member
    have full : piece ≠ [] := fun empty => filled (empty ▸ member)
    simpa using full
  rw [← String.toList_inj, join, segments, kept, String.toList_intercalate, List.map_map]
  simpa [Function.comp_def] using intercalate_splitPieces '.' name.toList

theorem mem_segments {name segment : String} (member : segment ∈ segments name) :
    segment ≠ "" ∧ '.' ∉ segment.toList := by
  obtain ⟨piece, kept, rfl⟩ := List.mem_map.1 member
  obtain ⟨listed, full⟩ := List.mem_filter.1 kept
  rw [String.toList_ofList]
  refine ⟨fun empty => ?_, not_mem_of_mem_splitPieces listed⟩
  exact of_decide_eq_true full (String.ofList_inj.1 empty)

end Dotted

namespace ModulePath

variable {root path other : Path} {name stem : String} {names folders : List String}
  {isFile : Path → Bool}

/-- A segment that names an entry of a directory and that dots keep apart from others. -/
def IsSegment (segment : String) : Prop :=
  segment ≠ "" ∧ '.' ∉ segment.toList ∧ isPlain segment = true

instance (segment : String) : Decidable (IsSegment segment) :=
  inferInstanceAs (Decidable (_ ∧ _))

/-- A dotted name of which every segment is one. -/
def IsModuleName (name : String) : Prop :=
  ∀ piece ∈ splitPieces '.' name.toList, IsSegment (String.ofList piece)

instance (name : String) : Decidable (IsModuleName name) :=
  inferInstanceAs (Decidable (∀ piece ∈ _, _))

/-- The name of the file of a module. -/
def sourceName (stem : String) : String := stem ++ ".py"

theorem not_mem_of_isPlain {segment : String} (plain : isPlain segment = true) :
    '/' ∉ segment.toList := by
  intro slash
  simp [isPlain, slash] at plain

theorem IsSegment.isEntryName {segment : String} (proper : IsSegment segment) :
    Path.IsEntryName (.ofString segment) := by
  obtain ⟨full, dotless, plain⟩ := proper
  rw [Path.isEntryName_iff, RawText.lossy_ofString]
  refine ⟨not_mem_of_isPlain plain, full, ?_, ?_⟩
  · rintro rfl
    exact dotless (by decide)
  · rintro rfl
    exact dotless (by decide)

theorem isEntryName_sourceName (plain : '/' ∉ stem.toList) :
    Path.IsEntryName (.ofString (sourceName stem)) := by
  have letters : (sourceName stem).toList = stem.toList ++ ['.', 'p', 'y'] := String.toList_append
  have lettered : 'p' ∈ (sourceName stem).toList := by simp [letters]
  rw [Path.isEntryName_iff, RawText.lossy_ofString]
  refine ⟨by simp [letters, plain], ?_, ?_, ?_⟩
  all_goals
    intro same
    rw [same] at lettered
    exact absurd lettered (by decide)

theorem segments_join (proper : ∀ segment ∈ names, IsSegment segment) :
    Dotted.segments (Dotted.join names) = names :=
  Dotted.segments_join (fun empty => (proper "" empty).1 rfl) fun segment member =>
    (proper segment member).2.1

/-- Only no segments have the empty name. -/
theorem eq_nil_of_join (proper : ∀ segment ∈ names, IsSegment segment)
    (empty : Dotted.join names = "") : names = [] := by
  have own := segments_join proper
  rw [empty] at own
  exact own.symm

/-! ## The name of a file -/

/-- A name is divided at its last dot before it is shown or afterwards. -/
theorem splitLast?_lossy (name : RawText) :
    splitLast? '.' name.lossy.toList = (splitLast? RawText.dot name.bytes).map fun parts =>
      ((⟨parts.1⟩ : RawText).lossy.toList, (⟨parts.2⟩ : RawText).lossy.toList) := by
  cases divided : splitLast? RawText.dot name.bytes with
  | none =>
    have dotless := mt RawText.dot_mem_iff.2 (not_mem_of_splitLast? divided)
    rw [splitLast?_of_not_mem dotless, Option.map_none]
  | some parts =>
    obtain ⟨front, back⟩ := parts
    obtain ⟨whole, plain⟩ := splitLast?_eq_some divided
    have shown : name.lossy.toList =
        (⟨front⟩ : RawText).lossy.toList ++ '.' :: (⟨back⟩ : RawText).lossy.toList := by
      have divided := RawText.toList_lossy_append front back (by decide : RawText.dot.toNat < 0x80)
      rwa [← whole] at divided
    rw [shown, splitLast?_append _ (mt RawText.dot_mem_iff.2 plain), Option.map_some]

/-- Both ways to divide a file name give the same stem, and it does not matter when the name is shown. -/
theorem moduleStem_lossy (name : RawText) : moduleStem name.lossy = (Path.splitName name).1.lossy := by
  rw [moduleStem, splitLast?_lossy, Path.splitName]
  cases splitLast? RawText.dot name.bytes with
  | none => rfl
  | some parts =>
    obtain ⟨front, back⟩ := parts
    rw [Option.map_some]
    dsimp only
    cases front with
    | nil => rfl
    | cons byte rest =>
      have filled : (⟨byte :: rest⟩ : RawText).lossy.toList ≠ [] := fun empty =>
        absurd (RawText.lossy_eq_empty_iff.1 (String.toList_eq_nil_iff.1 empty)) (List.cons_ne_nil _ _)
      rw [if_neg filled, String.ofList_toList]

theorem moduleStem_eq (fileName : String) :
    moduleStem fileName = (Path.splitName (.ofString fileName)).1.lossy := by
  rw [← moduleStem_lossy, RawText.lossy_ofString]

theorem nameOf?_of_segmentsBelow? {fileName : String}
    (below : root.segmentsBelow? path = some (folders ++ [fileName])) :
    nameOf? root path = some (Dotted.join
      (if moduleStem fileName = Path.initializerStem then folders
        else folders ++ [moduleStem fileName])) := by
  rw [nameOf?, below, Option.bind_some, List.getLast?_concat, Option.map_some, List.dropLast_concat]

theorem toList_sourceName (stem : String) : (sourceName stem).toList = stem.toList ++ ['.', 'p', 'y'] :=
  String.toList_append

theorem moduleStem_sourceName (full : stem ≠ "") : moduleStem (sourceName stem) = stem := by
  have letters : stem.toList ≠ [] := fun empty => full (String.toList_eq_nil_iff.1 empty)
  rw [moduleStem, toList_sourceName, splitLast?_append _ (by decide)]
  dsimp only
  rw [if_neg letters, String.ofList_toList]

/-! ## The file of a name -/

/-- The initializer of the package to which the segments lead down. -/
def initializerBelow (root : Path) (names : List String) : Path :=
  root.descendSegments (names ++ [sourceName Path.initializerStem])

/-- The file of the module to which the segments lead down, or a file beside the root without segments. -/
def moduleBelow (root : Path) (names : List String) : Path :=
  (root.descendSegments names).withExtension "py"

theorem spellings_of_plain (plain : (Dotted.segments name).all isPlain = true) (root : Path) :
    spellings root name = initializerBelow root (Dotted.segments name) ::
      if name = "" then [] else [moduleBelow root (Dotted.segments name)] := by
  have base : (Dotted.segments name).foldl (fun base segment => base.child (.ofString segment)) root =
      root.descendSegments (Dotted.segments name) := by
    rw [Path.descendSegments, Path.descend, List.foldl_map]
  have initializer : (root.descendSegments (Dotted.segments name)).child
      (.ofString (Path.initializerStem ++ ".py")) = initializerBelow root (Dotted.segments name) := by
    rw [initializerBelow, Path.descendSegments_append]
    rfl
  unfold spellings
  dsimp only
  rw [if_pos plain, base, initializer]
  split <;> rfl

theorem fileAmong?_of_plain (plain : (Dotted.segments name).all isPlain = true)
    (isFile : Path → Bool) (root : Path) :
    fileAmong? isFile root name =
      if isFile (initializerBelow root (Dotted.segments name)) = true then
        some (initializerBelow root (Dotted.segments name))
      else if name ≠ "" ∧ isFile (moduleBelow root (Dotted.segments name)) = true then
        some (moduleBelow root (Dotted.segments name))
      else none := by
  rw [fileAmong?, spellings_of_plain plain, List.find?_cons]
  cases isFile (initializerBelow root (Dotted.segments name)) with
  | true => rfl
  | false =>
    by_cases empty : name = ""
    · simp [empty]
    · rw [if_neg empty, List.find?_cons]
      cases isFile (moduleBelow root (Dotted.segments name)) <;> simp [empty]

theorem isSegment_of_mem_segments {segment : String}
    (plain : (Dotted.segments name).all isPlain = true) (member : segment ∈ Dotted.segments name) :
    IsSegment segment := by
  obtain ⟨full, dotless⟩ := Dotted.mem_segments member
  exact ⟨full, dotless, List.all_eq_true.1 plain segment member⟩

theorem ofString_sourceName (stem : String) :
    .ofString stem ++ .ofString "." ++ .ofString "py" = RawText.ofString (sourceName stem) := by
  rw [sourceName, RawText.ofString_append, RawText.append_assoc]
  rfl

/-- The file of a module stands in the directory of its package. -/
theorem moduleBelow_concat (root : Path) (folders : List String) (proper : IsSegment stem) :
    moduleBelow root (folders ++ [stem]) = root.descendSegments (folders ++ [sourceName stem]) := by
  have dotless : RawText.dot ∉ (RawText.ofString stem).bytes := by
    rw [RawText.dot_mem_iff, RawText.lossy_ofString]
    exact proper.2.1
  have extended := isEntryName_sourceName (not_mem_of_isPlain proper.2.2)
  rw [← ofString_sourceName] at extended
  rw [moduleBelow, Path.descendSegments_append, Path.descendSegments_append]
  change ((root.descendSegments folders).child (.ofString stem)).withExtension "py" =
    (root.descendSegments folders).child (.ofString (sourceName stem))
  rw [Path.withExtension_child _ "py" proper.isEntryName dotless extended, ofString_sourceName]

/-- A file that is found is the initializer of a package, the file of a module, or, for a name of nothing
but dots, a file beside the root. -/
theorem fileAmong?_cases (found : fileAmong? isFile root name = some path) :
    (∀ segment ∈ Dotted.segments name, IsSegment segment) ∧
      (path = initializerBelow root (Dotted.segments name) ∨
        (∃ folders stem, Dotted.segments name = folders ++ [stem] ∧
          path = root.descendSegments (folders ++ [sourceName stem])) ∨
        (name ≠ "" ∧ Dotted.segments name = [] ∧ path = root.withExtension "py")) := by
  by_cases plain : (Dotted.segments name).all isPlain = true
  · have proper : ∀ segment ∈ Dotted.segments name, IsSegment segment :=
      fun _ => isSegment_of_mem_segments plain
    refine ⟨proper, ?_⟩
    rw [fileAmong?_of_plain plain] at found
    split at found
    · exact .inl (Option.some.inj found).symm
    · split at found
      · next given =>
        obtain rfl := Option.some.inj found
        rcases List.eq_nil_or_concat' (Dotted.segments name) with none | ⟨folders, stem, divided⟩
        · exact .inr (.inr ⟨given.1, none, by rw [none]; rfl⟩)
        · have last : IsSegment stem := proper stem (by simp [divided])
          rw [divided, moduleBelow_concat root folders last]
          exact .inr (.inl ⟨folders, stem, rfl, rfl⟩)
      · cases found
  · rw [fileAmong?, spellings, if_neg plain] at found
    cases found

/-! ## Files below the root -/

/-- The path lies below the root by at least one name, and climbs nowhere. -/
def StrictlyBelow (root path : Path) : Prop :=
  ∃ names : List RawText, names ≠ [] ∧ path.parts = root.parts ++ names.map .name

theorem isEntryName_initializer : Path.IsEntryName (.ofString (sourceName Path.initializerStem)) := by
  decide

theorem isEntryName_of_concat (proper : ∀ folder ∈ folders, IsSegment folder)
    (last : Path.IsEntryName (.ofString name)) :
    ∀ entry ∈ folders ++ [name], Path.IsEntryName (.ofString entry) := by
  intro entry member
  rcases List.mem_append.1 member with folder | same
  · exact (proper entry folder).isEntryName
  · rwa [List.mem_singleton.1 same]

/-- The names of a module file are names of entries. -/
theorem isEntryName_of_sourceName (proper : ∀ segment ∈ folders ++ [stem], IsSegment segment) :
    ∀ entry ∈ folders ++ [sourceName stem], Path.IsEntryName (.ofString entry) := by
  obtain ⟨inner, last⟩ := List.forall_mem_append.1 proper
  have plain := (last stem (List.mem_singleton_self stem)).2.2
  exact isEntryName_of_concat inner (isEntryName_sourceName (not_mem_of_isPlain plain))

theorem parts_descendSegments (root : Path)
    (entries : ∀ entry ∈ names, Path.IsEntryName (.ofString entry)) :
    (root.descendSegments names).parts = root.parts ++ (names.map RawText.ofString).map .name :=
  Path.parts_descend root (List.forall_mem_map.2 entries)

theorem strictlyBelow_concat (root : Path)
    (entries : ∀ entry ∈ folders ++ [name], Path.IsEntryName (.ofString entry)) :
    StrictlyBelow root (root.descendSegments (folders ++ [name])) :=
  ⟨_, by simp, parts_descendSegments root entries⟩

/-- The name of an entry can be that of a source file instead. -/
theorem isEntryName_extendedName {name : RawText} (entry : Path.IsEntryName name) :
    Path.IsEntryName (Path.extendedName name "py") := by
  have letters : (Path.extendedName name "py").bytes =
      (Path.splitName name).1.bytes ++ [RawText.dot, 0x70, 0x79] := List.append_assoc ..
  have lettered : 0x70 ∈ (Path.extendedName name "py").bytes := by simp [letters]
  refine ⟨?_, ?_, ?_, ?_⟩
  · rw [letters, List.mem_append]
    rintro (stem | extension)
    · exact entry.1 ((Path.splitName_fst name).1 _ stem)
    · exact absurd extension (by decide)
  all_goals
    intro same
    rw [same] at lettered
    exact absurd lettered (by decide)

/-- Without names the second place to look is the root with another extension, which has as many parts. -/
theorem length_parts_withExtension (root : Path) :
    (root.withExtension "py").parts.length = root.parts.length := by
  cases named : root.fileName? with
  | none => rw [Path.withExtension, named]
  | some name =>
    obtain ⟨others, last⟩ := Path.fileName?_eq_some_iff.1 named
    have entry : Path.IsEntryName name :=
      Path.isEntryName_of_mem_parts (last ▸ List.mem_append_right _ List.mem_cons_self)
    obtain ⟨front, before, behind⟩ :=
      Path.parts_withExtension named (isEntryName_extendedName entry)
    rw [before, behind, List.length_append, List.length_append, List.length_singleton,
      List.length_singleton]

/-- So it is never below the root. -/
theorem not_strictlyBelow_withExtension (root : Path) :
    ¬ StrictlyBelow root (root.withExtension "py") := by
  rintro ⟨names, some, below⟩
  have longer := congrArg List.length below
  rw [length_parts_withExtension, List.length_append, List.length_map] at longer
  have filled : 0 < names.length := List.length_pos_iff.2 some
  omega

/-- A file that is found for a name lies strictly below the source root, whatever the name, with one
exception: a name of nothing but dots stands for the root, and where the root has no initializer, the file
beside the root that has the root's name with an extension is taken for it. -/
theorem fileAmong?_strictlyBelow (found : fileAmong? isFile root name = some path) :
    StrictlyBelow root path ∨
      (name ≠ "" ∧ Dotted.segments name = [] ∧ path = root.withExtension "py" ∧
        ¬ StrictlyBelow root path) := by
  obtain ⟨proper, rfl | ⟨folders, stem, divided, rfl⟩ | ⟨some, none, rfl⟩⟩ := fileAmong?_cases found
  · exact .inl (strictlyBelow_concat root (isEntryName_of_concat proper isEntryName_initializer))
  · exact .inl (strictlyBelow_concat root (isEntryName_of_sourceName (divided ▸ proper)))
  · exact .inr ⟨some, none, rfl, not_strictlyBelow_withExtension root⟩

/-- A package in a root whose spelling ends in a slash, looked for by a name with empty segments. -/
theorem fileAmong?_strictlyBelow_package :
    fileAmong? (fun path => path = ⟨"shop/crm/__init__.py"⟩) ⟨"shop/"⟩ "..crm." =
        some ⟨"shop/crm/__init__.py"⟩ ∧
      StrictlyBelow ⟨"shop/"⟩ ⟨"shop/crm/__init__.py"⟩ := by
  have found : fileAmong? (fun path => path = ⟨"shop/crm/__init__.py"⟩) ⟨"shop/"⟩ "..crm." =
      some ⟨"shop/crm/__init__.py"⟩ := by decide
  refine ⟨found, (fileAmong?_strictlyBelow found).resolve_right ?_⟩
  rintro ⟨_, none, _⟩
  exact absurd none (by decide)

/-- A source root without an initializer, and a file beside it that has its name. -/
def besideDisk : FileSystem where
  top := .dir [("src", .dir [("order.py", .file "".toUTF8)]), ("src.py", .file "".toUTF8)]
  workingDir := []

/-- A name of dots leads out of the source root. -/
theorem dots_lead_beside_root :
    fileOf? besideDisk ⟨"src"⟩ "." = some ⟨"src.py"⟩ ∧
      (⟨"src.py"⟩ : Path).isUnder ⟨"src"⟩ = false := by
  decide

/-! ## Names and files -/

theorem nameOf?_descendSegments (root : Path)
    (entries : ∀ entry ∈ folders ++ [name], Path.IsEntryName (.ofString entry)) :
    (root.descendSegments (folders ++ [name])).isUnder root = true ∧
      nameOf? root (root.descendSegments (folders ++ [name])) = some (Dotted.join
        (if moduleStem name = Path.initializerStem then folders else folders ++ [moduleStem name])) :=
  ⟨Path.isUnder_of_parts (parts_descendSegments root entries),
    nameOf?_of_segmentsBelow? (Path.segmentsBelow?_descendSegments root entries)⟩

/-- A file found for a name without empty segments has that name. -/
theorem nameOf?_of_fileAmong? (proper : IsModuleName name)
    (own : Path.initializerStem ∉ Dotted.segments name)
    (found : fileAmong? isFile root name = some path) :
    path.isUnder root = true ∧ nameOf? root path = some name := by
  have filled : [] ∉ splitPieces '.' name.toList := fun empty => (proper [] empty).1 rfl
  have joined : Dotted.join (Dotted.segments name) = name := Dotted.join_segments filled
  obtain ⟨segments, rfl | ⟨folders, stem, divided, rfl⟩ | ⟨some, none, _⟩⟩ := fileAmong?_cases found
  · have named := nameOf?_descendSegments root
      (isEntryName_of_concat segments isEntryName_initializer)
    rwa [moduleStem_sourceName (by decide), if_pos rfl, joined] at named
  · have notInitializer : stem ≠ Path.initializerStem := by
      rintro rfl
      exact own (by simp [divided])
    have full : stem ≠ "" := (segments stem (by simp [divided])).1
    have named := nameOf?_descendSegments root (isEntryName_of_sourceName (divided ▸ segments))
    rwa [moduleStem_sourceName full, if_neg notInitializer, ← divided, joined] at named
  · rw [none] at joined
    exact absurd joined.symm some

/-- The name of a file below the root stands for that file, unless it is a module file beside the package of
its name. -/
theorem fileAmong?_of_nameOf? (proper : ∀ segment ∈ folders ++ [stem], IsSegment segment)
    (below : root.segmentsBelow? path = some (folders ++ [sourceName stem]))
    (stands : isFile (root.descendSegments (folders ++ [sourceName stem])) = true) :
    ∃ name, nameOf? root path = some name ∧
      fileAmong? isFile root name = some
        (if stem ≠ Path.initializerStem ∧
            isFile (initializerBelow root (folders ++ [stem])) = true then
          initializerBelow root (folders ++ [stem])
        else root.descendSegments (folders ++ [sourceName stem])) := by
  obtain ⟨inner, single⟩ := List.forall_mem_append.1 proper
  have segment : IsSegment stem := single stem (List.mem_singleton_self stem)
  have named := nameOf?_of_segmentsBelow? below
  rw [moduleStem_sourceName segment.1] at named
  have plainOf : ∀ names : List String, (∀ entry ∈ names, IsSegment entry) →
      (Dotted.segments (Dotted.join names)).all isPlain = true := by
    intro names all
    rw [segments_join all]
    exact List.all_eq_true.2 fun entry member => (all entry member).2.2
  refine ⟨_, named, ?_⟩
  by_cases package : stem = Path.initializerStem
  · subst package
    have here : initializerBelow root folders =
        root.descendSegments (folders ++ [sourceName Path.initializerStem]) := rfl
    rw [if_pos rfl, fileAmong?_of_plain (plainOf folders inner), segments_join inner, here,
      if_pos stands]
    simp
  · have notEmpty : Dotted.join (folders ++ [stem]) ≠ "" := fun empty =>
      absurd (eq_nil_of_join proper empty) (by simp)
    rw [if_neg package, fileAmong?_of_plain (plainOf _ proper), segments_join proper,
      moduleBelow_concat root folders segment]
    by_cases shadowed : isFile (initializerBelow root (folders ++ [stem])) = true
    · rw [if_pos shadowed, if_pos ⟨package, shadowed⟩]
    · rw [if_neg shadowed, if_pos ⟨notEmpty, stands⟩, if_neg fun both => shadowed both.2]

/-- The segments of a name are text, so they lead to no file of which a name is none. -/
theorem parts_ne_of_fileAmong? {names : List RawText} (below : root.namesBelow? path = some names)
    (unread : ∃ name ∈ names, ¬ name.IsText) (found : fileAmong? isFile root name = some other) :
    other.parts ≠ path.parts := by
  intro same
  obtain ⟨rest, behind, named⟩ := Option.bind_eq_some_iff.1 below
  rw [Path.below?_eq_some_iff.1 behind] at same
  have spelled : ∀ segments : List String, (∀ entry ∈ segments, Path.IsEntryName (.ofString entry)) →
      other ≠ root.descendSegments segments := by
    rintro segments entries rfl
    rw [parts_descendSegments root entries, List.append_right_inj] at same
    rw [← same, Path.names?_map_name, Option.some.injEq] at named
    obtain ⟨name, member, notText⟩ := unread
    rw [← named] at member
    obtain ⟨segment, _, rfl⟩ := List.mem_map.1 member
    exact notText (RawText.isText_ofString segment)
  obtain ⟨proper, package | ⟨folders, stem, divided, module⟩ | ⟨_, _, beside⟩⟩ := fileAmong?_cases found
  · exact spelled _ (isEntryName_of_concat proper isEntryName_initializer) package
  · exact spelled _ (isEntryName_of_sourceName (divided ▸ proper)) module
  · have longer := congrArg List.length same
    rw [beside, length_parts_withExtension, List.length_append] at longer
    have nothing : rest = [] := List.length_eq_zero_iff.1 (by omega)
    rw [nothing] at named
    cases named
    obtain ⟨_, member, _⟩ := unread
    cases member

/-- Names and files are inverse to each other as far as names are text. A file that is found for a module name
lies below the root and has that name. A file to which text leads down from the root is the one that is found
for its name, or gives way there to the initializer of the package of its name; it is asked for as the root's
text spells it, which is the same path. A file with a name on its way that is no text has a name as it is
shown, but is not found for it. -/
theorem names_and_files_inverse (isFile : Path → Bool) (root : Path) :
    (∀ name path, IsModuleName name → Path.initializerStem ∉ Dotted.segments name →
      fileAmong? isFile root name = some path →
      path.isUnder root = true ∧ nameOf? root path = some name) ∧
    (∀ folders stem path, (∀ segment ∈ folders ++ [stem], IsSegment segment) →
      root.below? path =
        some (((folders ++ [sourceName stem]).map RawText.ofString).map .name) →
      isFile (root.descendSegments (folders ++ [sourceName stem])) = true →
      (root.descendSegments (folders ++ [sourceName stem])).parts = path.parts ∧
      ∃ name, nameOf? root path = some name ∧
        fileAmong? isFile root name = some
          (if stem ≠ Path.initializerStem ∧
              isFile (initializerBelow root (folders ++ [stem])) = true then
            initializerBelow root (folders ++ [stem])
          else root.descendSegments (folders ++ [sourceName stem]))) ∧
    ∀ names path, names ≠ [] → root.namesBelow? path = some names → (∃ name ∈ names, ¬ name.IsText) →
      ∃ name, nameOf? root path = some name ∧
        ∀ found, fileAmong? isFile root name = some found → found.parts ≠ path.parts := by
  refine ⟨fun name path => nameOf?_of_fileAmong?, fun folders stem path proper below stands => ?_,
    fun names path filled below unread => ?_⟩
  · have behind := Path.below?_eq_some_iff.1 below
    refine ⟨?_, fileAmong?_of_nameOf? proper ?_ stands⟩
    · rw [parts_descendSegments root (isEntryName_of_sourceName proper), behind]
    · rw [Path.segmentsBelow?_of_namesBelow? (Path.namesBelow?_of_parts behind),
        Path.map_lossy_ofString]
  · obtain ⟨folders, last, rfl⟩ := (List.eq_nil_or_concat' names).resolve_left filled
    have shown := Path.segmentsBelow?_of_namesBelow? below
    rw [List.map_append, List.map_singleton] at shown
    exact ⟨_, nameOf?_of_segmentsBelow? shown, fun found => parts_ne_of_fileAmong? below unread⟩

/-- The files of a package beside a module file of its name. -/
def crmFiles (path : Path) : Bool :=
  [⟨"shop/crm.py"⟩, ⟨"shop/crm/__init__.py"⟩, ⟨"shop/crm/mail.py"⟩].contains path

theorem names_and_files_inverse_crm :
    (fileAmong? crmFiles ⟨"shop"⟩ "crm.mail" = some ⟨"shop/crm/mail.py"⟩ ∧
      nameOf? ⟨"shop"⟩ ⟨"shop/crm/mail.py"⟩ = some "crm.mail") ∧
    ∃ name, nameOf? ⟨"shop"⟩ ⟨"shop//./crm.py"⟩ = some name ∧
      fileAmong? crmFiles ⟨"shop"⟩ name = some ⟨"shop/crm/__init__.py"⟩ := by
  obtain ⟨ofName, ofFile, _⟩ := names_and_files_inverse crmFiles ⟨"shop"⟩
  have found : fileAmong? crmFiles ⟨"shop"⟩ "crm.mail" = some ⟨"shop/crm/mail.py"⟩ := by decide
  obtain ⟨_, named⟩ := ofName "crm.mail" _ (by decide) (by decide) found
  obtain ⟨_, name, own, file⟩ := ofFile [] "crm" ⟨"shop//./crm.py"⟩ (by decide) (by decide) (by decide)
  refine ⟨⟨found, named⟩, name, own, ?_⟩
  rw [file]
  decide

/-- A source file that has a single letter for a stem; bytes beyond ASCII are no UTF-8 alone. -/
def latinFile (letter : UInt8) : Path :=
  (⟨"shop"⟩ : Path).child ⟨[letter, 0x2e, 0x70, 0x79]⟩

/-- Neither a file with such a name is found for the name that it has, nor one that a dot leads to from an empty
root: what is found there is spelled without the dot. -/
theorem files_without_inverse :
    (nameOf? ⟨"shop"⟩ (latinFile 0xe9) = some "\ufffd" ∧
      fileAmong? (fun path => path = latinFile 0xe9) ⟨"shop"⟩ "\ufffd" = none) ∧
    nameOf? ⟨""⟩ ⟨"./order.py"⟩ = some "order" ∧
      fileAmong? (fun path => path.fileName? = some (.ofString "order.py")) ⟨""⟩ "order" =
        some ⟨"order.py"⟩ ∧
      (⟨"order.py"⟩ : Path).parts ≠ (⟨"./order.py"⟩ : Path).parts := by
  decide

end ModulePath

end LayerAtlas
