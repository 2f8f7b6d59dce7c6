import LayerAtlas.Path

/-!
# File trees

The files that a run can see: a tree of directories with entries in order of their names, and what a
path leads to in it. A path is followed piece by piece, an absolute one from the top of the tree and any
other from the working directory; `..` leads to the directory above, and a trailing slash is right only
behind a directory.

Embeds what the Source Reader, the Module Path Resolver and the configuration ask of a file system: whether
an entry exists, whether it is a file, and its bytes.
-/
namespace LayerAtlas

open RawText (dot)

/-- Why a path leads to nothing that can be read. -/
inductive FileFault where
  | notFound | notDirectory | isDirectory | nameTooLong
  | nulInName
  | notUtf8
  deriving DecidableEq, Repr

namespace FileFault

def message : FileFault → String
  | notFound => "No such file or directory (os error 2)"
  | notDirectory => "Not a directory (os error 20)"
  | isDirectory => "Is a directory (os error 21)"
  | nameTooLong => "File name too long (os error 36)"
  | nulInName => "file name contained an unexpected NUL byte"
  | notUtf8 => "stream did not contain valid UTF-8"

end FileFault

/-- A file with its bytes, or a directory. -/
inductive FileTree where
  | file (content : ByteArray)
  | dir (entries : List (RawText × FileTree))

namespace FileTree

def empty : FileTree := .dir []

instance : Inhabited FileTree := ⟨empty⟩

def isDir : FileTree → Bool
  | dir _ => true
  | file _ => false

/-- The entries of a directory; a file has none. -/
def entries : FileTree → List (RawText × FileTree)
  | dir entries => entries
  | file _ => []

def entry? (tree : FileTree) (name : RawText) : Option FileTree :=
  (tree.entries.find? fun entry => entry.1 = name).map (·.2)

/-- Puts an entry at its place by name, in the room of one with the same name. -/
def putEntry (name : RawText) (tree : FileTree) :
    List (RawText × FileTree) → List (RawText × FileTree)
  | [] => [(name, tree)]
  | entry :: rest =>
    if name < entry.1 then (name, tree) :: entry :: rest
    else if entry.1 < name then entry :: putEntry name tree rest
    else (name, tree) :: rest

/-- Puts a file or directory where the names lead, with the directories on the way. A directory that
is there already keeps its entries. -/
def put (leaf : FileTree) : List RawText → FileTree → FileTree
  | [], tree =>
    match leaf, tree with
    | dir [], dir entries => dir entries
    | leaf, _ => leaf
  | name :: rest, tree =>
    dir (putEntry name (put leaf rest ((tree.entry? name).getD empty)) tree.entries)

/-- The longest name of an entry and the longest path, in bytes. -/
def maxNameSize : Nat := 255
def maxPathSize : Nat := 4095

/-- Follows pieces of a path; `above` are the directories passed, the nearest first. Above the top there is
nothing but the top. -/
def follow : List FileTree → FileTree → List RawText → Except FileFault FileTree
  | _, tree, [] => .ok tree
  | _, file _, _ :: _ => .error .notDirectory
  | above, dir entries, name :: rest =>
    if name.bytes = [] ∨ name.bytes = [dot] then follow above (dir entries) rest
    else if name.bytes = [dot, dot] then
      match above with
      | parent :: above => follow above parent rest
      | [] => follow [] (dir entries) rest
    else if maxNameSize < name.size then .error .nameTooLong
    else
      match entries.find? fun entry => entry.1 = name with
      | some entry => follow (dir entries :: above) entry.2 rest
      | none => .error .notFound

end FileTree

/-- The files of a machine: the tree from its top, and the names that lead to the working directory. -/
structure FileSystem where
  top : FileTree
  workingDir : List RawText

namespace FileSystem

/-- The names that lead from the top to where a path begins. -/
def start (disk : FileSystem) (path : Path) : List RawText :=
  if path.isAbsolute then [] else disk.workingDir

/-- What a path leads to. -/
def lookup (disk : FileSystem) (path : Path) : Except FileFault FileTree :=
  if 0 ∈ path.text.bytes then .error .nulInName
  else if FileTree.maxPathSize < path.text.size then .error .nameTooLong
  else if path.text.bytes = [] then .error .notFound
  else FileTree.follow [] disk.top (disk.start path ++ path.pieces)

def existsAt (disk : FileSystem) (path : Path) : Bool :=
  match disk.lookup path with
  | .ok _ => true
  | .error _ => false

def isFileAt (disk : FileSystem) (path : Path) : Bool :=
  match disk.lookup path with
  | .ok (.file _) => true
  | _ => false

/-- The bytes of the file that a path leads to. -/
def read (disk : FileSystem) (path : Path) : Except FileFault ByteArray :=
  match disk.lookup path with
  | .ok (.file content) => .ok content
  | .ok (.dir _) => .error .isDirectory
  | .error fault => .error fault

end FileSystem

end LayerAtlas
