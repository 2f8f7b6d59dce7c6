import LayerAtlas.Path
import LayerAtlas.Proofs.RawText
import Mathlib.Data.List.Basic

/-!
# Paths taken apart

Joining the name of an entry to a path puts one part behind its parts, whichever way the path is spelled.
So a path spelled as a root with names behind it lies below the root, and the same names lead down to it
again. The parts of a path are all that decides where it lies; its text matters to nothing but what is
joined to it.
-/
namespace LayerAtlas

open RawText (slash dot)

namespace Path

variable {base path : Path} {name : RawText} {names : List RawText}

/-- A name that an entry of a directory can have. -/
def IsEntryName (name : RawText) : Prop :=
  slash ∉ name.bytes ∧ name.bytes ≠ [] ∧ name.bytes ≠ [dot] ∧ name.bytes ≠ [dot, dot]

instance (name : RawText) : Decidable (IsEntryName name) :=
  inferInstanceAs (Decidable (_ ∧ _))

/-- What is shown of a name tells whether it can be that of an entry. -/
theorem isEntryName_iff : IsEntryName name ↔
    '/' ∉ name.lossy.toList ∧ name.lossy ≠ "" ∧ name.lossy ≠ "." ∧ name.lossy ≠ ".." := by
  have here : name.lossy = "." ↔ name.bytes = [dot] := by
    rw [RawText.lossy_eq_iff_of_ascii (by decide), RawText.ext_iff]
    rfl
  have up : name.lossy = ".." ↔ name.bytes = [dot, dot] := by
    rw [RawText.lossy_eq_iff_of_ascii (by decide), RawText.ext_iff]
    rfl
  rw [← RawText.slash_mem_iff, ne_eq, RawText.lossy_eq_empty_iff, ne_eq, here, ne_eq, up]
  rfl

theorem lead_append {trunk : List UInt8} (begun : trunk ≠ []) (rest : List UInt8) :
    lead (trunk ++ slash :: rest) = lead trunk := by
  have first : (trunk ++ slash :: rest).head? = trunk.head? := by
    rw [List.head?_append_of_ne_nil _ begun]
  have piece : (splitPieces slash (trunk ++ slash :: rest)).head? =
      (splitPieces slash trunk).head? := by
    rw [splitPieces_append, List.head?_append_of_ne_nil _ (splitPieces_ne_nil _ _)]
  rw [lead, lead, first, piece]

theorem bodyPart?_bytes (entry : IsEntryName name) : bodyPart? name.bytes = some (.name name) := by
  obtain ⟨_, full, notHere, notUp⟩ := entry
  simp [bodyPart?, full, notHere, notUp]

/-- The names among the parts of a path are names of entries. -/
theorem isEntryName_of_mem_parts (member : Part.name name ∈ path.parts) : IsEntryName name := by
  rw [parts, List.mem_append] at member
  rcases member with leading | body
  · unfold lead at leading
    split at leading
    · simp at leading
    · split at leading
      · simp at leading
      · cases leading
  · obtain ⟨piece, listed, same⟩ := List.mem_filterMap.1 body
    have plain := not_mem_of_mem_splitPieces listed
    unfold bodyPart? at same
    split at same
    · cases same
    · next notNothing =>
      split at same
      · cases same
      · next notUp =>
        cases same
        obtain ⟨full, notHere⟩ := not_or.1 notNothing
        exact ⟨plain, full, notHere, notUp⟩

/-! ## Joining the name of an entry -/

/-- A text behind which the name of an entry can stand: an empty one, or one that ends in a slash. -/
def IsOpen (front : List UInt8) : Prop :=
  front = [] ∨ ∃ trunk, front = trunk ++ [slash]

theorem splitPieces_of_open {front tail : List UInt8} (opens : IsOpen front) (plain : slash ∉ tail) :
    ∃ pieces, splitPieces slash front = pieces ++ [[]] ∧
      splitPieces slash (front ++ tail) = pieces ++ [tail] := by
  rcases opens with rfl | ⟨trunk, rfl⟩
  · exact ⟨[], rfl, splitPieces_of_not_mem plain⟩
  · refine ⟨splitPieces slash trunk, splitPieces_append slash trunk [], ?_⟩
    rw [List.append_assoc, List.singleton_append, splitPieces_append, splitPieces_of_not_mem plain]

theorem lead_of_open {front : List UInt8} (opens : IsOpen front) (entry : IsEntryName name) :
    lead (front ++ name.bytes) = lead front := by
  rcases opens with rfl | ⟨trunk, rfl⟩
  · have relative : name.bytes.head? ≠ some slash :=
      fun begins => entry.1 (List.mem_of_mem_head? begins)
    rw [List.nil_append, lead, if_neg relative, splitPieces_of_not_mem entry.1, List.head?_cons,
      if_neg fun same => entry.2.2.1 (Option.some.inj same)]
    rfl
  · rw [List.append_assoc, List.singleton_append]
    by_cases begun : trunk = []
    · rw [begun]
      rfl
    · rw [lead_append begun, lead_append begun]

/-- An entry's name is one part behind those of the text before it. -/
theorem parts_of_open {front : List UInt8} (opens : IsOpen front) (entry : IsEntryName name) :
    (⟨⟨front ++ name.bytes⟩⟩ : Path).parts = (⟨⟨front⟩⟩ : Path).parts ++ [.name name] := by
  obtain ⟨pieces, before, behind⟩ := splitPieces_of_open opens entry.1
  simp only [parts]
  rw [lead_of_open opens entry, before, behind, List.filterMap_append, List.filterMap_append,
    List.filterMap_cons_some (bodyPart?_bytes entry)]
  simp [bodyPart?]

/-- A slash at the end is no part, unless it is all there is. -/
theorem parts_append_slash {trunk : List UInt8} (begun : trunk ≠ []) :
    (⟨⟨trunk ++ [slash]⟩⟩ : Path).parts = (⟨⟨trunk⟩⟩ : Path).parts := by
  simp only [parts]
  rw [lead_append begun, splitPieces_append]
  simp [splitPieces, bodyPart?]

/-- The text of a path up to where the names of its entries begin. -/
def inside (base : Path) : List UInt8 :=
  if base.text.bytes = [] ∨ base.text.bytes.getLast? = some slash then base.text.bytes
  else base.text.bytes ++ [slash]

theorem inside_cases (base : Path) :
    (base.inside = base.text.bytes ∧ IsOpen base.text.bytes) ∨
      (base.inside = base.text.bytes ++ [slash] ∧ base.text.bytes ≠ []) := by
  unfold inside
  split
  · next given =>
    refine .inl ⟨rfl, given.imp_right fun last => ?_⟩
    exact List.getLast?_eq_some_iff.1 last
  · next given => exact .inr ⟨rfl, (not_or.1 given).1⟩

theorem isOpen_inside (base : Path) : IsOpen base.inside := by
  rcases inside_cases base with ⟨same, opens⟩ | ⟨slashed, _⟩
  · rwa [same]
  · exact .inr ⟨_, slashed⟩

theorem parts_inside (base : Path) : (⟨⟨base.inside⟩⟩ : Path).parts = base.parts := by
  rcases inside_cases base with ⟨same, _⟩ | ⟨slashed, begun⟩
  · rw [same]
  · rw [slashed, parts_append_slash begun]

theorem isAbsolute_of_entry (entry : IsEntryName name) : (⟨name⟩ : Path).isAbsolute = false := by
  apply decide_eq_false
  intro begins
  exact entry.1 (List.mem_of_mem_head? begins)

theorem child_eq (base : Path) (entry : IsEntryName name) :
    base.child name = ⟨⟨base.inside ++ name.bytes⟩⟩ := by
  unfold child join inside
  rw [isAbsolute_of_entry entry]
  simp only [Bool.false_eq_true, if_false]
  split
  · rfl
  · rfl

/-- An entry's name is one part behind those of its directory. -/
theorem parts_child (base : Path) (entry : IsEntryName name) :
    (base.child name).parts = base.parts ++ [.name name] := by
  rw [child_eq base entry, parts_of_open (isOpen_inside base) entry, parts_inside]

/-! ## Names below a path -/

/-- The path to which the names lead down from `base`. -/
def descend (base : Path) (names : List RawText) : Path :=
  names.foldl child base

@[simp] theorem descend_nil (base : Path) : base.descend [] = base := rfl

@[simp] theorem descend_cons (base : Path) (name : RawText) (names : List RawText) :
    base.descend (name :: names) = (base.child name).descend names := rfl

theorem descend_append (base : Path) (names others : List RawText) :
    base.descend (names ++ others) = (base.descend names).descend others :=
  List.foldl_append

theorem parts_descend (base : Path) (entries : ∀ name ∈ names, IsEntryName name) :
    (base.descend names).parts = base.parts ++ names.map .name := by
  induction names generalizing base with
  | nil => simp
  | cons head tail ih =>
    have first : IsEntryName head := entries head List.mem_cons_self
    rw [descend_cons, ih _ fun name member => entries name (List.mem_cons_of_mem _ member),
      parts_child base first, List.map_cons, List.append_assoc, List.singleton_append]

theorem below?_eq_some_iff {rest : List Part} :
    base.below? path = some rest ↔ path.parts = base.parts ++ rest := by
  unfold below?
  rw [List.isPrefixOf?_eq_some_iff_append_eq, eq_comm]

theorem isUnder_of_parts {rest : List Part} (behind : path.parts = base.parts ++ rest) :
    path.isUnder base = true := by
  rw [isUnder, below?_eq_some_iff.2 behind, Option.isSome_some]

theorem names?_map_name (names : List RawText) : names? (names.map .name) = some names := by
  induction names with
  | nil => rfl
  | cons head tail ih => simp [names?, ih]

/-- Parts have names unless they begin anew or climb. -/
theorem names?_eq_none_iff {parts : List Part} :
    names? parts = none ↔ .up ∈ parts ∨ .root ∈ parts := by
  induction parts with
  | nil => simp [names?]
  | cons head tail ih => cases head <;> simp [names?, ih]

theorem names?_eq_nil_iff {parts : List Part} :
    names? parts = some [] ↔ ∀ part ∈ parts, part = .here := by
  induction parts with
  | nil => simp [names?]
  | cons head tail ih => cases head <;> simp [names?, ih]

theorem mem_of_names? {parts : List Part} (named : names? parts = some names)
    (member : name ∈ names) : Part.name name ∈ parts := by
  induction parts generalizing names with
  | nil =>
    cases named
    cases member
  | cons head tail ih =>
    cases head with
    | root => cases named
    | up => cases named
    | here => exact List.mem_cons_of_mem _ (ih named member)
    | name text =>
      obtain ⟨others, rest, rfl⟩ := Option.map_eq_some_iff.1 named
      rcases List.mem_cons.1 member with rfl | behind
      · exact List.mem_cons_self
      · exact List.mem_cons_of_mem _ (ih rest behind)

theorem namesBelow?_of_parts (behind : path.parts = base.parts ++ names.map .name) :
    base.namesBelow? path = some names := by
  rw [namesBelow?, below?_eq_some_iff.2 behind, Option.bind_some, names?_map_name]

theorem namesBelow?_descend (base : Path) (entries : ∀ name ∈ names, IsEntryName name) :
    base.namesBelow? (base.descend names) = some names :=
  namesBelow?_of_parts (parts_descend base entries)

theorem isEntryName_of_namesBelow? (below : base.namesBelow? path = some names)
    (member : name ∈ names) : IsEntryName name := by
  obtain ⟨rest, behind, named⟩ := Option.bind_eq_some_iff.1 below
  have listed : Part.name name ∈ path.parts := by
    rw [below?_eq_some_iff.1 behind]
    exact List.mem_append_right _ (mem_of_names? named member)
  exact isEntryName_of_mem_parts listed

/-- The path to which names lead down that are spelled as these segments. -/
def descendSegments (base : Path) (segments : List String) : Path :=
  base.descend (segments.map .ofString)

theorem descendSegments_append (base : Path) (segments others : List String) :
    base.descendSegments (segments ++ others) =
      (base.descendSegments segments).descendSegments others := by
  rw [descendSegments, List.map_append, descend_append]
  rfl

theorem segmentsBelow?_of_namesBelow? (below : base.namesBelow? path = some names) :
    base.segmentsBelow? path = some (names.map RawText.lossy) := by
  rw [segmentsBelow?, below, Option.map_some]

theorem segmentsBelow?_eq_some_iff {segments : List String} :
    base.segmentsBelow? path = some segments ↔
      ∃ names, base.namesBelow? path = some names ∧ names.map RawText.lossy = segments :=
  Option.map_eq_some_iff

theorem ne_of_segmentsBelow? {segments : List String} (below : base.segmentsBelow? path = some segments) :
    ∀ segment ∈ segments, segment ≠ "" := by
  obtain ⟨names, named, rfl⟩ := segmentsBelow?_eq_some_iff.1 below
  refine List.forall_mem_map.2 fun name member => ?_
  exact (isEntryName_iff.1 (isEntryName_of_namesBelow? named member)).2.1

theorem map_lossy_ofString (segments : List String) :
    (segments.map RawText.ofString).map RawText.lossy = segments := by
  simp [Function.comp_def]

/-- What is read along a path that is spelled as segments are those segments. -/
theorem segmentsBelow?_descendSegments (base : Path) {segments : List String}
    (entries : ∀ segment ∈ segments, IsEntryName (.ofString segment)) :
    base.segmentsBelow? (base.descendSegments segments) = some segments := by
  have below : base.namesBelow? (base.descendSegments segments) = some (segments.map .ofString) :=
    namesBelow?_descend base (List.forall_mem_map.2 entries)
  rw [segmentsBelow?_of_namesBelow? below, map_lossy_ofString]

/-! ## File names -/

theorem fileName?_of_parts {front : List Part} (last : path.parts = front ++ [.name name]) :
    path.fileName? = some name := by
  rw [fileName?, last, List.getLast?_concat]

theorem fileName?_eq_some_iff :
    path.fileName? = some name ↔ ∃ front, path.parts = front ++ [.name name] := by
  constructor
  · intro found
    unfold fileName? at found
    split at found
    · next text last =>
      cases found
      exact List.getLast?_eq_some_iff.1 last
    · cases found
  · rintro ⟨front, last⟩
    exact fileName?_of_parts last

theorem names?_concat_name (front : List Part) (text : RawText) :
    names? (front ++ [.name text]) = (names? front).map (· ++ [text]) := by
  induction front with
  | nil => rfl
  | cons head tail ih =>
    cases head with
    | root => rfl
    | up => rfl
    | here => exact ih
    | name own =>
      simp only [List.cons_append, names?, ih, Option.map_map]
      rfl

/-- Only a path of nothing else ends in the dot that may begin it. -/
theorem eq_here_of_getLast? (last : path.parts.getLast? = some .here) : path.parts = [.here] := by
  obtain ⟨front, whole⟩ := List.getLast?_eq_some_iff.1 last
  unfold parts at last whole ⊢
  rcases List.eq_nil_or_concat' ((splitPieces RawText.slash path.text.bytes).filterMap bodyPart?) with
    none | ⟨others, final, body⟩
  · rw [none, List.append_nil] at last ⊢
    unfold lead at last ⊢
    split at last
    · cases last
    · split at last
      · next slashless dotted => rw [if_neg slashless, if_pos dotted]
      · cases last
  · rw [body, ← List.append_assoc, List.getLast?_concat, Option.some.injEq] at last
    have member : final ∈ (splitPieces RawText.slash path.text.bytes).filterMap bodyPart? := by
      simp [body]
    obtain ⟨piece, _, same⟩ := List.mem_filterMap.1 member
    subst last
    unfold bodyPart? at same
    split at same
    · cases same
    · split at same <;> cases same

/-- The last of the names that lead down to a path is its file name. -/
theorem fileName?_of_namesBelow? (below : base.namesBelow? path = some (names ++ [name])) :
    path.fileName? = some name := by
  obtain ⟨rest, behind, named⟩ := Option.bind_eq_some_iff.1 below
  have parts := below?_eq_some_iff.1 behind
  rcases List.eq_nil_or_concat' rest with rfl | ⟨front, last, rfl⟩
  · simp [names?] at named
  · rw [← List.append_assoc] at parts
    cases last with
    | name text =>
      rw [names?_concat_name] at named
      obtain ⟨others, _, same⟩ := Option.map_eq_some_iff.1 named
      have own : [text] = [name] := List.append_inj_right' same rfl
      rw [fileName?_of_parts parts, List.cons.inj own |>.1]
    | here =>
      have single := eq_here_of_getLast? (by rw [parts, List.getLast?_concat])
      rw [parts] at single
      obtain ⟨_, rfl⟩ := List.append_eq_nil_iff.1 (List.append_inj_left' single rfl)
      simp [names?] at named
    | up => simp [names?_eq_none_iff.2 (.inl (List.mem_append_right front List.mem_cons_self))] at named
    | root => simp [names?_eq_none_iff.2 (.inr (List.mem_append_right front List.mem_cons_self))] at named

theorem splitName_of_dotless (dotless : dot ∉ name.bytes) : splitName name = (name, none) := by
  rw [splitName, splitLast?_of_not_mem dotless]

/-- A name with an extension is its stem and its extension, with a dot between them. -/
theorem eq_of_extension {extension : RawText} (extended : (splitName name).2 = some extension) :
    (splitName name).1.bytes ≠ [] ∧ dot ∉ extension.bytes ∧
      name = ⟨(splitName name).1.bytes ++ dot :: extension.bytes⟩ := by
  unfold splitName at extended ⊢
  split at extended
  · cases extended
  · next stem tail filled divided =>
    cases extended
    obtain ⟨whole, plain⟩ := splitLast?_eq_some divided
    exact ⟨filled, plain, congrArg RawText.mk whole⟩
  · cases extended

/-- The stem of a name begins the name, and is empty for an empty name only. -/
theorem splitName_fst (name : RawText) :
    (∀ byte ∈ (splitName name).1.bytes, byte ∈ name.bytes) ∧
      (name.bytes ≠ [] → (splitName name).1.bytes ≠ []) := by
  unfold splitName
  split
  · exact ⟨fun _ member => member, id⟩
  · next stem extension notEmpty divided =>
    obtain ⟨whole, _⟩ := splitLast?_eq_some divided
    rw [whole]
    exact ⟨fun _ member => List.mem_append_left _ member, fun _ => notEmpty⟩
  · exact ⟨fun _ member => member, id⟩

/-! ## The end of a path -/

theorem trimTail_ne (text : List UInt8) (byte : UInt8) (rest : List UInt8) :
    trimTail text ≠ slash :: byte :: rest ∧ trimTail text ≠ dot :: slash :: byte :: rest := by
  fun_induction trimTail text with
  | case1 last before rest idle ih => exact ih
  | case2 last before others kept =>
    obtain ⟨notSlash, notDotted⟩ := not_or.1 kept
    constructor
    · rintro ⟨⟩
      exact notSlash rfl
    · rintro ⟨⟩
      exact notDotted ⟨rfl, rfl, by simp⟩
  | case3 text short =>
    constructor
    · exact short _ _ _
    · exact short _ _ _

/-- Passing over slashes and dots at the end leaves the parts. -/
theorem parts_trimTail (text : List UInt8) :
    (⟨⟨(trimTail text).reverse⟩⟩ : Path).parts = (⟨⟨text.reverse⟩⟩ : Path).parts := by
  fun_induction trimTail text with
  | case1 last before rest idle ih =>
    rw [ih]
    rcases idle with rfl | ⟨rfl, rfl, filled⟩
    · have begun : (before :: rest).reverse ≠ [] := by simp
      rw [← parts_append_slash begun, ← List.reverse_cons]
    · have begun : rest.reverse ≠ [] := by simpa using filled
      have dotted : (dot :: slash :: rest).reverse = rest.reverse ++ slash :: [dot] := by simp
      rw [dotted, List.reverse_cons]
      simp only [parts]
      rw [lead_append begun, lead_append begun, splitPieces_append, splitPieces_append]
      simp [splitPieces, bodyPart?, show dot ≠ slash by decide]
  | case2 => rfl
  | case3 text => rfl

theorem parts_reversedBody (path : Path) :
    (⟨⟨path.reversedBody.reverse⟩⟩ : Path).parts = path.parts := by
  rw [reversedBody, parts_trimTail, List.reverse_reverse]

/-- The last piece of a text, reversed, and the text before it. -/
theorem exists_lastPiece (text : List UInt8) :
    ∃ front tail : List UInt8, IsOpen front ∧ slash ∉ tail ∧ text = tail.reverse ++ front.reverse := by
  by_cases slashed : slash ∈ text
  · obtain ⟨tail, rest, same, plain⟩ := List.eq_append_cons_of_mem slashed
    exact ⟨rest.reverse ++ [slash], tail.reverse, .inr ⟨_, rfl⟩, by simpa using plain, by simp [same]⟩
  · exact ⟨[], text.reverse, .inl rfl, by simpa using slashed, by simp⟩

/-- What remains of a text that ends in no name is a slash or a dot, or nothing. -/
theorem fileName?_eq_none_of_end {front tail : List UInt8} (opens : IsOpen front)
    (same : path.reversedBody = tail.reverse ++ front.reverse) (nameless : tail = [] ∨ tail = [dot]) :
    path.fileName? = none := by
  have written := parts_reversedBody path
  have short : front = [] ∨ front = [slash] := by
    refine opens.imp_right ?_
    rintro ⟨trunk, rfl⟩
    cases reversed : trunk.reverse with
    | nil => rw [List.reverse_eq_nil_iff.1 reversed, List.nil_append]
    | cons byte rest =>
      obtain ⟨noSlash, noDot⟩ := trimTail_ne path.text.bytes.reverse byte rest
      rw [List.reverse_append, reversed] at same
      rcases nameless with rfl | rfl
      · exact absurd same noSlash
      · exact absurd same noDot
  rw [same, List.reverse_append, List.reverse_reverse, List.reverse_reverse] at written
  rw [fileName?, ← written]
  rcases short with rfl | rfl <;> rcases nameless with rfl | rfl <;> rfl

/-- The text of a path ends in its file name, but for what counts for nothing. -/
theorem exists_front (found : path.fileName? = some name) :
    ∃ front, IsOpen front ∧ path.reversedBody = name.bytes.reverse ++ front.reverse := by
  obtain ⟨front, tail, opens, plain, same⟩ := exists_lastPiece path.reversedBody
  by_cases nameless : tail = [] ∨ tail = [dot]
  · rw [fileName?_eq_none_of_end opens same nameless] at found
    cases found
  · have written := parts_reversedBody path
    obtain ⟨pieces, _, behind⟩ := splitPieces_of_open opens plain
    rw [same, List.reverse_append, List.reverse_reverse, List.reverse_reverse, parts, behind,
      List.filterMap_append] at written
    unfold fileName? at found
    rw [← written] at found
    by_cases climbs : tail = [dot, dot]
    · subst climbs
      simp [bodyPart?] at found
    · simp [bodyPart?, nameless, climbs] at found
      exact ⟨front, opens, by rw [same, ← found]⟩

/-- The name that has its extension replaced. -/
def extendedName (name extension : RawText) : RawText :=
  (splitName name).1 ++ "." ++ extension

/-- Another extension changes the last part only. -/
theorem parts_withExtension {extension : RawText} (found : path.fileName? = some name)
    (extended : IsEntryName (extendedName name extension)) :
    ∃ front, path.parts = front ++ [.name name] ∧
      (path.withExtension extension).parts = front ++ [.name (extendedName name extension)] := by
  obtain ⟨others, last⟩ := fileName?_eq_some_iff.1 found
  have entry : IsEntryName name :=
    isEntryName_of_mem_parts (last ▸ List.mem_append_right _ List.mem_cons_self)
  obtain ⟨front, opens, same⟩ := exists_front found
  have written := parts_reversedBody path
  rw [same, List.reverse_append, List.reverse_reverse, List.reverse_reverse,
    parts_of_open opens entry] at written
  refine ⟨_, written.symm, ?_⟩
  rw [← parts_of_open opens extended]
  have directory : (path.reversedBody.drop name.size).reverse = front := by
    rw [same, RawText.size, ← List.length_reverse, List.drop_left, List.reverse_reverse]
  unfold withExtension
  rw [found]
  dsimp only
  simp only [directory, extendedName, RawText.append_assoc]
  rfl

/-- An entry whose name has no dot gets the extension behind its name. -/
theorem withExtension_child (base : Path) {segment : RawText} (extension : RawText)
    (entry : IsEntryName segment) (dotless : dot ∉ segment.bytes)
    (extended : IsEntryName (segment ++ "." ++ extension)) :
    (base.child segment).withExtension extension = base.child (segment ++ "." ++ extension) := by
  have body : (base.child segment).reversedBody = segment.bytes.reverse ++ base.inside.reverse := by
    rw [reversedBody, child_eq base entry, List.reverse_append]
    cases letters : segment.bytes.reverse with
    | nil => exact absurd (List.reverse_eq_nil_iff.1 letters) entry.2.1
    | cons last front =>
      have member : last ∈ segment.bytes := List.mem_reverse.1 (letters ▸ List.mem_cons_self)
      have notSlash : last ≠ slash := fun same => entry.1 (same ▸ member)
      have notDot : last ≠ dot := fun same => dotless (same ▸ member)
      unfold trimTail
      split <;> simp_all
  have directory : ((base.child segment).reversedBody.drop segment.size).reverse = base.inside := by
    rw [body, RawText.size, ← List.length_reverse, List.drop_left, List.reverse_reverse]
  unfold withExtension
  rw [fileName?_of_parts (parts_child base entry)]
  rw [child_eq base extended]
  simp only [directory, splitName_of_dotless dotless, RawText.append_assoc]
  rfl

end Path

end LayerAtlas
