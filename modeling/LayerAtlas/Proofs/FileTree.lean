import LayerAtlas.FileTree
import LayerAtlas.Proofs.Path

/-!
# What paths lead to in a tree

A directory is looked up by its path, and what lies below it by its path with the names of entries behind
it. Both ways of going down agree: what such a path leads to is what the names reach entry by entry, as
long as names and paths are as a file system keeps them. The names that a path passes on the way to the
directory, climbing ones among them, do not matter to that.
-/
namespace LayerAtlas

open RawText (slash dot)

/-! ## Pieces of a path -/

namespace Path

variable {base : Path} {name : RawText} {names : List RawText}

/-- The pieces behind which the names of entries stand: all but an empty one at the end. -/
def trunk (base : Path) : List RawText :=
  (splitPieces slash base.inside).dropLast.map .mk

theorem pieces_child (base : Path) (entry : IsEntryName name) :
    (base.child name).pieces = base.trunk ++ [name] := by
  obtain ⟨front, before, behind⟩ := splitPieces_of_open (isOpen_inside base) entry.1
  rw [pieces, child_eq base entry, behind, trunk, before, List.dropLast_concat, List.map_append]
  rfl

theorem pieces_cases (base : Path) :
    base.pieces = base.trunk ∨ base.pieces = base.trunk ++ [⟨[]⟩] := by
  rcases inside_cases base with ⟨same, opens⟩ | ⟨slashed, _⟩
  · obtain ⟨front, before, _⟩ := splitPieces_of_open opens (List.not_mem_nil : slash ∉ [])
    right
    rw [pieces, trunk, same, before, List.dropLast_concat, List.map_append]
    rfl
  · left
    have split : splitPieces slash (base.text.bytes ++ slash :: []) =
        splitPieces slash base.text.bytes ++ [[]] := splitPieces_append slash base.text.bytes []
    rw [pieces, trunk, slashed, split, List.dropLast_concat]

theorem trunk_child (base : Path) (entry : IsEntryName name) :
    (base.child name).trunk = base.trunk ++ [name] := by
  have split := pieces_child base entry
  rcases pieces_cases (base.child name) with whole | slashed
  · rw [← whole, split]
  · have last := congrArg List.getLast? (slashed.symm.trans split)
    rw [List.getLast?_concat, List.getLast?_concat] at last
    exact absurd (congrArg RawText.bytes (Option.some.inj last)).symm entry.2.1

theorem pieces_descend (base : Path) (entries : ∀ entry ∈ name :: names, IsEntryName entry) :
    (base.descend (name :: names)).pieces = base.trunk ++ name :: names := by
  induction names generalizing base name with
  | nil => exact pieces_child base (entries name List.mem_cons_self)
  | cons second rest ih =>
    obtain ⟨first, others⟩ := List.forall_mem_cons.1 entries
    rw [descend_cons, ih (base.child name) others, trunk_child base first, List.append_assoc]
    rfl

/-- The text of a path begins that of what lies below it. -/
theorem exists_text_child (base : Path) (entry : IsEntryName name) :
    ∃ rest, (base.child name).text.bytes = base.text.bytes ++ rest ∧
      ∀ byte ∈ rest, byte = slash ∨ byte ∈ name.bytes := by
  rw [child_eq base entry]
  rcases inside_cases base with ⟨same, _⟩ | ⟨slashed, _⟩
  · exact ⟨name.bytes, by rw [same], fun _ member => .inr member⟩
  · refine ⟨slash :: name.bytes, by rw [slashed, List.append_assoc, List.singleton_append], ?_⟩
    exact fun byte member => List.mem_cons.1 member

theorem exists_text_descend (base : Path) (entries : ∀ entry ∈ names, IsEntryName entry) :
    ∃ rest, (base.descend names).text.bytes = base.text.bytes ++ rest ∧
      ∀ byte ∈ rest, byte = slash ∨ ∃ name ∈ names, byte ∈ name.bytes := by
  induction names generalizing base with
  | nil => exact ⟨[], by simp, by simp⟩
  | cons head tail ih =>
    obtain ⟨first, others⟩ := List.forall_mem_cons.1 entries
    obtain ⟨front, child, ofHead⟩ := exists_text_child base first
    obtain ⟨rest, below, ofTail⟩ := ih (base.child head) others
    refine ⟨front ++ rest, by rw [descend_cons, below, child, List.append_assoc], fun byte member => ?_⟩
    rcases List.mem_append.1 member with before | behind
    · exact (ofHead byte before).imp_right fun letter => ⟨head, List.mem_cons_self, letter⟩
    · refine (ofTail byte behind).imp_right fun ⟨name, listed, letter⟩ => ?_
      exact ⟨name, List.mem_cons_of_mem _ listed, letter⟩

/-- What lies below a path is absolute just in case the path is. -/
theorem isAbsolute_descend (begun : base.text.bytes ≠ [])
    (entries : ∀ entry ∈ names, IsEntryName entry) :
    (base.descend names).isAbsolute = base.isAbsolute := by
  obtain ⟨rest, text, _⟩ := exists_text_descend base entries
  rw [isAbsolute, isAbsolute, text, List.head?_append_of_ne_nil _ begun]

end Path

namespace FileTree

variable {tree reached target : FileTree} {above : List FileTree} {entries : List (RawText × FileTree)}
  {base : Path} {name : RawText} {names front back : List RawText}

/-! ## What names reach -/

/-- The names lead from a tree down to another one, entry by entry. -/
inductive Reaches : FileTree → List RawText → FileTree → Prop where
  | here (tree : FileTree) : Reaches tree [] tree
  | entry {entries : List (RawText × FileTree)} {name : RawText} {inner target : FileTree}
      {names : List RawText} (listed : (name, inner) ∈ entries) (rest : Reaches inner names target) :
      Reaches (.dir entries) (name :: names) target

theorem reaches_append_iff :
    Reaches tree (front ++ back) target ↔
      ∃ middle, Reaches tree front middle ∧ Reaches middle back target := by
  induction front generalizing tree with
  | nil =>
    constructor
    · exact fun rest => ⟨tree, .here tree, rest⟩
    · rintro ⟨_, ⟨⟩, rest⟩
      exact rest
  | cons head tail ih =>
    constructor
    · rintro (_ | ⟨listed, rest⟩)
      obtain ⟨middle, first, second⟩ := ih.1 rest
      exact ⟨middle, .entry listed first, second⟩
    · rintro ⟨middle, _ | ⟨listed, first⟩, second⟩
      exact .entry listed (ih.2 ⟨middle, first, second⟩)

/-- What a name behind others reaches is an entry of the directory that those reach. -/
theorem reaches_concat_iff :
    Reaches tree (names ++ [name]) target ↔
      ∃ entries, Reaches tree names (.dir entries) ∧ (name, target) ∈ entries := by
  rw [reaches_append_iff]
  constructor
  · rintro ⟨_, first, _ | ⟨listed, ⟨⟩⟩⟩
    exact ⟨_, first, listed⟩
  · rintro ⟨entries, first, listed⟩
    exact ⟨_, first, .entry listed (.here target)⟩

/-- All directories of a tree that lies at a path are as `holds` says of their paths and entries. -/
def Throughout (holds : Path → List (RawText × FileTree) → Prop) (path : Path) (tree : FileTree) :
    Prop :=
  ∀ names entries, Reaches tree names (.dir entries) → holds (path.descend names) entries

section Decide

variable (holds : Path → List (RawText × FileTree) → Prop)
  [∀ path entries, Decidable (holds path entries)]

mutual

def testTree (path : Path) : FileTree → Bool
  | .file _ => true
  | .dir entries => decide (holds path entries) && testEntries path entries

def testEntries (path : Path) : List (RawText × FileTree) → Bool
  | [] => true
  | (name, tree) :: rest => testTree (path.child name) tree && testEntries path rest

end

mutual

theorem testTree_eq_true_iff :
    ∀ (path : Path) (tree : FileTree), testTree holds path tree = true ↔ Throughout holds path tree
  | path, .file _ => ⟨fun _ => nofun, fun _ => rfl⟩
  | path, .dir entries => by
    rw [testTree, Bool.and_eq_true, decide_eq_true_iff, testEntries_eq_true_iff path entries]
    constructor
    · rintro ⟨own, inner⟩ _ _ (_ | ⟨listed, rest⟩)
      · exact own
      · exact inner _ listed _ _ rest
    · intro all
      exact ⟨all [] entries (.here _), fun entry listed names inner rest =>
        all (entry.1 :: names) inner (.entry listed rest)⟩

theorem testEntries_eq_true_iff :
    ∀ (path : Path) (entries : List (RawText × FileTree)), testEntries holds path entries = true ↔
      ∀ entry ∈ entries, Throughout holds (path.child entry.1) entry.2
  | path, [] => ⟨fun _ => nofun, fun _ => rfl⟩
  | path, (name, tree) :: rest => by
    rw [testEntries, Bool.and_eq_true, testTree_eq_true_iff (path.child name) tree,
      testEntries_eq_true_iff path rest, List.forall_mem_cons]

end

instance (path : Path) (tree : FileTree) : Decidable (Throughout holds path tree) :=
  decidable_of_iff _ (testTree_eq_true_iff holds path tree)

end Decide

/-! ## Trees as a file system keeps them -/

/-- A name under which a file system keeps an entry. -/
def IsStorableName (name : RawText) : Prop :=
  Path.IsEntryName name ∧ 0 ∉ name.bytes ∧ name.size ≤ maxNameSize

instance (name : RawText) : Decidable (IsStorableName name) :=
  inferInstanceAs (Decidable (_ ∧ _))

/-- Entries that a file system can keep in the directory at `path`: with names of their own, and within reach
of paths that it takes. -/
def Storable (path : Path) (entries : List (RawText × FileTree)) : Prop :=
  (entries.map Prod.fst).Nodup ∧
    ∀ entry ∈ entries, IsStorableName entry.1 ∧ (path.child entry.1).text.size ≤ maxPathSize

instance (path : Path) (entries : List (RawText × FileTree)) : Decidable (Storable path entries) :=
  inferInstanceAs (Decidable (_ ∧ _))

theorem isStorableName_of_reaches (stored : Throughout Storable base tree)
    (reached : Reaches tree names target) : ∀ name ∈ names, IsStorableName name := by
  intro name member
  obtain ⟨front, back, rfl⟩ := List.append_of_mem member
  obtain ⟨_, first, _ | ⟨listed, _⟩⟩ := reaches_append_iff.1 reached
  exact ((stored front _ first).2 _ listed).1

theorem find?_of_mem {entry : FileTree} (distinct : (entries.map Prod.fst).Nodup)
    (listed : (name, entry) ∈ entries) :
    entries.find? (fun entry => entry.1 = name) = some (name, entry) := by
  induction entries with
  | nil => cases listed
  | cons head tail ih =>
    rw [List.map_cons, List.nodup_cons] at distinct
    rcases List.mem_cons.1 listed with rfl | behind
    · simp
    · have other : head.1 ≠ name := by
        rintro rfl
        exact distinct.1 (List.mem_map.2 ⟨_, behind, rfl⟩)
      rw [List.find?_cons_of_neg (by simpa using other), ih distinct.2 behind]

/-! ## Following a path -/

/-- A piece leads to nothing, or to one place, whatever pieces stand behind it. -/
theorem follow_step (above : List FileTree) (tree : FileTree) (name : RawText) :
    (∃ fault, ∀ names, follow above tree (name :: names) = .error fault) ∨
      ∃ passed reached, ∀ names, follow above tree (name :: names) = follow passed reached names := by
  cases tree with
  | file bytes => exact .inl ⟨.notDirectory, fun _ => rfl⟩
  | dir entries =>
    simp only [follow]
    by_cases idle : name.bytes = [] ∨ name.bytes = [dot]
    · exact .inr ⟨above, .dir entries, fun _ => if_pos idle⟩
    · simp only [if_neg idle]
      by_cases climbs : name.bytes = [dot, dot]
      · simp only [if_pos climbs]
        cases above with
        | nil => exact .inr ⟨[], .dir entries, fun _ => rfl⟩
        | cons parent rest => exact .inr ⟨rest, parent, fun _ => rfl⟩
      · simp only [if_neg climbs]
        by_cases long : maxNameSize < name.size
        · exact .inl ⟨.nameTooLong, fun _ => if_pos long⟩
        · simp only [if_neg long]
          cases entries.find? fun entry => entry.1 = name with
          | none => exact .inl ⟨.notFound, fun _ => rfl⟩
          | some entry => exact .inr ⟨.dir entries :: above, entry.2, fun _ => rfl⟩

/-- Following pieces that lead somewhere can be taken up again behind any of them. -/
theorem exists_of_follow_append (success : follow above tree (front ++ back) = .ok target) :
    ∃ passed reached, follow passed reached back = .ok target ∧
      ∀ other, follow above tree (front ++ other) = follow passed reached other := by
  induction front generalizing above tree with
  | nil => exact ⟨above, tree, success, fun _ => rfl⟩
  | cons head tail ih =>
    rw [List.cons_append] at success
    rcases follow_step above tree head with ⟨fault, fails⟩ | ⟨passed, reached, moves⟩
    · rw [fails] at success
      cases success
    · rw [moves] at success
      obtain ⟨others, inner, last, resumes⟩ := ih success
      exact ⟨others, inner, last, fun other => by rw [List.cons_append, moves, resumes]⟩

theorem follow_idle (above : List FileTree) (entries : List (RawText × FileTree))
    (names : List RawText) :
    follow above (.dir entries) (⟨[]⟩ :: names) = follow above (.dir entries) names :=
  if_pos (.inl rfl)

theorem follow_cons (above : List FileTree) (entry : Path.IsEntryName name) :
    follow above (.dir entries) (name :: names) =
      if maxNameSize < name.size then .error .nameTooLong
      else
        match entries.find? fun entry => entry.1 = name with
        | some entry => follow (.dir entries :: above) entry.2 names
        | none => .error .notFound := by
  have moves : ¬ (name.bytes = [] ∨ name.bytes = [dot]) := not_or.2 ⟨entry.2.1, entry.2.2.1⟩
  exact (if_neg moves).trans (if_neg entry.2.2.2)

theorem reaches_of_follow (plain : ∀ name ∈ names, Path.IsEntryName name)
    (success : follow above tree names = .ok target) : Reaches tree names target := by
  induction names generalizing above tree with
  | nil =>
    obtain rfl := Except.ok.inj success
    exact .here _
  | cons head tail ih =>
    obtain ⟨first, others⟩ := List.forall_mem_cons.1 plain
    cases tree with
    | file bytes => cases success
    | dir entries =>
      rw [follow_cons above first] at success
      split at success
      · cases success
      · split at success
        · next entry found =>
          obtain ⟨own, inner⟩ := entry
          obtain rfl : own = head := by simpa using List.find?_some found
          exact .entry (List.mem_of_find?_eq_some found) (ih others success)
        · cases success

theorem follow_of_reaches (stored : Throughout Storable base tree)
    (reached : Reaches tree names target) (above : List FileTree) :
    follow above tree names = .ok target := by
  induction reached generalizing base above with
  | here tree => rw [follow]
  | @entry entries name inner target names listed rest ih =>
    obtain ⟨distinct, each⟩ := stored [] entries (.here _)
    obtain ⟨plain, _, short⟩ := (each _ listed).1
    have below : Throughout Storable (base.child name) inner := fun names entries reached =>
      stored (name :: names) entries (.entry listed reached)
    rw [follow_cons above plain, if_neg (Nat.not_lt.2 short), find?_of_mem distinct listed]
    exact ih below _

end FileTree

/-! ## Looking up a path -/

namespace FileSystem

open FileTree (Reaches Throughout Storable follow)

variable {disk : FileSystem} {target : FileTree} {entries : List (RawText × FileTree)} {base path : Path}
  {names : List RawText}

theorem lookup_eq_ok_iff :
    disk.lookup path = .ok target ↔
      0 ∉ path.text.bytes ∧ path.text.size ≤ FileTree.maxPathSize ∧ path.text.bytes ≠ [] ∧
        follow [] disk.top (disk.start path ++ path.pieces) = .ok target := by
  unfold lookup
  by_cases nul : 0 ∈ path.text.bytes
  · simp [nul]
  · by_cases long : FileTree.maxPathSize < path.text.size
    · simp [nul, long, Nat.not_le.2 long]
    · by_cases empty : path.text.bytes = []
      · simp [long, empty]
      · simp [nul, long, empty, Nat.not_lt.1 long]

/-- What lies in a directory is sought from where the directory is. -/
theorem start_descend (begun : base.text.bytes ≠ []) (plain : ∀ name ∈ names, Path.IsEntryName name) :
    disk.start (base.descend names) = disk.start base := by
  rw [start, start, Path.isAbsolute_descend begun plain]

/-- From a directory that a path leads to, following goes on by the names behind the path. -/
theorem exists_follow_descend (directory : disk.lookup base = .ok (.dir entries)) :
    ∃ passed, ∀ name names, (∀ entry ∈ name :: names, Path.IsEntryName entry) →
      follow [] disk.top (disk.start (base.descend (name :: names)) ++
          (base.descend (name :: names)).pieces) =
        follow passed (.dir entries) (name :: names) := by
  obtain ⟨_, _, begun, found⟩ := lookup_eq_ok_iff.1 directory
  have resumed : ∃ passed, ∀ other,
      follow [] disk.top (disk.start base ++ base.trunk ++ other) =
        follow passed (.dir entries) other := by
    rcases Path.pieces_cases base with whole | slashed
    · rw [whole, ← List.append_nil (disk.start base ++ base.trunk)] at found
      obtain ⟨passed, reached, last, resumes⟩ := FileTree.exists_of_follow_append found
      rw [follow] at last
      cases last
      exact ⟨passed, resumes⟩
    · rw [slashed, ← List.append_assoc] at found
      obtain ⟨passed, reached, last, resumes⟩ := FileTree.exists_of_follow_append found
      -- The empty piece behind a slash stays where it is, which must be a directory.
      cases reached with
      | file bytes => cases last
      | dir others =>
        rw [FileTree.follow_idle] at last
        cases last
        exact ⟨passed, resumes⟩
  obtain ⟨passed, resumes⟩ := resumed
  refine ⟨passed, fun name names plain => ?_⟩
  rw [start_descend begun plain, Path.pieces_descend base plain, ← List.append_assoc, resumes]

/-- What a path behind a directory leads to is what the names reach in that directory. -/
theorem reaches_of_lookup (directory : disk.lookup base = .ok (.dir entries))
    (plain : ∀ name ∈ names, Path.IsEntryName name)
    (found : disk.lookup (base.descend names) = .ok target) :
    Reaches (.dir entries) names target := by
  cases names with
  | nil =>
    rw [Path.descend_nil, directory] at found
    cases found
    exact .here _
  | cons name names =>
    obtain ⟨passed, resumes⟩ := exists_follow_descend directory
    obtain ⟨_, _, _, followed⟩ := lookup_eq_ok_iff.1 found
    rw [resumes name names plain] at followed
    exact FileTree.reaches_of_follow plain followed

/-- What names reach in a stored directory can be looked up. -/
theorem lookup_of_reaches (directory : disk.lookup base = .ok (.dir entries))
    (stored : Throughout Storable base (.dir entries))
    (reached : Reaches (.dir entries) names target) :
    disk.lookup (base.descend names) = .ok target := by
  have storable := FileTree.isStorableName_of_reaches stored reached
  have plain : ∀ name ∈ names, Path.IsEntryName name := fun name member => (storable name member).1
  obtain ⟨clean, _, begun, _⟩ := lookup_eq_ok_iff.1 directory
  obtain ⟨rest, text, letters⟩ := Path.exists_text_descend base plain
  rcases List.eq_nil_or_concat' names with rfl | ⟨folders, last, rfl⟩
  · cases reached
    exact directory
  · obtain ⟨passed, resumes⟩ := exists_follow_descend directory
    refine lookup_eq_ok_iff.2 ⟨?_, ?_, ?_, ?_⟩
    · rw [text, List.mem_append]
      rintro (before | behind)
      · exact clean before
      · rcases letters _ behind with slash | ⟨name, member, nul⟩
        · exact absurd slash (by decide)
        · exact (storable name member).2.1 nul
    · obtain ⟨others, first, listed⟩ := FileTree.reaches_concat_iff.1 reached
      rw [Path.descend_append]
      exact ((stored folders others first).2 _ listed).2
    · intro empty
      rw [text] at empty
      exact begun (List.append_eq_nil_iff.1 empty).1
    · obtain ⟨name, names, same⟩ : ∃ name names, folders ++ [last] = name :: names :=
        List.exists_cons_of_ne_nil (by simp)
      rw [same] at plain reached ⊢
      rw [resumes name names plain]
      exact FileTree.follow_of_reaches stored reached passed

theorem isFileAt_eq_true_iff :
    disk.isFileAt path = true ↔ ∃ bytes, disk.lookup path = .ok (.file bytes) := by
  unfold isFileAt
  split
  · next bytes found => exact ⟨fun _ => ⟨bytes, found⟩, fun _ => rfl⟩
  · next other =>
    refine ⟨nofun, ?_⟩
    rintro ⟨bytes, found⟩
    exact absurd found (other bytes)

end FileSystem

end LayerAtlas
