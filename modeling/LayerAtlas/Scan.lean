import LayerAtlas.FileTree
import LayerAtlas.RunError
import LayerAtlas.SourceFile
import LayerAtlas.Text.Utf8

/-!
# Scanning

The files below a root, in the order of a walk that visits the entries of a directory by name and
goes into a directory where it stands. A scan is told as the list of what the walk meets; counters of
a scan that stops early are those of a front part of the list.

Embeds the Source Reader (specification, 4.1): `open`, `files`, `stats` and `read_source_file`.
-/
namespace LayerAtlas

/-- What a walk meets. -/
inductive ScanEvent where
  /-- A directory that is left out, with all that lies in it. -/
  | excludedDir
  /-- A file left out by its name. -/
  | ignoredFile
  /-- A file left out by its size. -/
  | largeFile
  | found (file : SourceFile)
  deriving DecidableEq, Repr

/-- Counters of a scan. -/
structure ScanStats where
  yielded : Nat := 0
  unreadable : Nat := 0
  excludedDirs : Nat := 0
  ignored : Nat := 0
  large : Nat := 0
  deriving DecidableEq, Repr

namespace ScanStats

def count (stats : ScanStats) : ScanEvent → ScanStats
  | .excludedDir => { stats with excludedDirs := stats.excludedDirs + 1 }
  | .ignoredFile => { stats with ignored := stats.ignored + 1 }
  | .largeFile => { stats with large := stats.large + 1 }
  | .found file =>
    { stats with
      yielded := stats.yielded + 1
      unreadable := if file.isReadable then stats.unreadable else stats.unreadable + 1 }

def ofEvents (events : List ScanEvent) : ScanStats :=
  events.foldl count {}

end ScanStats

namespace ScanEvent

def file? : ScanEvent → Option SourceFile
  | found file => some file
  | _ => none

/-- The events up to the file that makes the count full. -/
def upTo : Nat → List ScanEvent → List ScanEvent
  | 0, _ => []
  | _, [] => []
  | count + 1, event :: rest =>
    event :: upTo (if event.file?.isSome then count else count + 1) rest

end ScanEvent

namespace SourceFile

/-- A file with these bytes, unreadable unless they are UTF-8. -/
def ofBytes (path : Path) (bytes : ByteArray) : SourceFile :=
  match Utf8.decode bytes with
  | .ok text => readable path text
  | .error fault => unreadable path ("not valid UTF-8 text: " ++ fault.message)

/-- The file at a path; what cannot be read is told on the record. -/
def read (disk : FileSystem) (path : Path) : SourceFile :=
  match disk.read path with
  | .ok bytes => ofBytes path bytes
  | .error fault => unreadable path ("read failed: " ++ fault.message)

end SourceFile

namespace Scan

/-- Directories that are not entered: hidden ones, and those named in the configuration. -/
def excludes (config : ScanConfig) (name : RawText) : Bool :=
  name.lossy.toList.head? = some '.' || config.effectiveExcludedDirs.contains name.lossy

/-- What the walk makes of one file. Files that are parsed have no size limit. -/
def fileEvent (config : ScanConfig) (path : Path) (name : RawText) (bytes : ByteArray) : ScanEvent :=
  if config.effectiveIgnoredFiles.contains name.lossy then .ignoredFile
  else if !path.isPrimarySource && config.effectiveMaxFileSize < bytes.size then .largeFile
  else .found (.ofBytes path bytes)

mutual

/-- What the walk meets at an entry called `name` whose path is `path`. -/
def entryEvents (config : ScanConfig) (path : Path) (name : RawText) : FileTree → List ScanEvent
  | .file bytes => [fileEvent config path name bytes]
  | .dir entries =>
    if excludes config name then [.excludedDir] else dirEvents config path entries

/-- What the walk meets in a directory, entry after entry. -/
def dirEvents (config : ScanConfig) (path : Path) : List (RawText × FileTree) → List ScanEvent
  | [] => []
  | (name, tree) :: rest =>
    entryEvents config (path.child name) name tree ++ dirEvents config path rest

end

/-- What a scan of the root meets. A root that is a file yields just itself, whatever its name. -/
def events (disk : FileSystem) (config : ScanConfig) (root : Path) :
    Except ScanError (List ScanEvent) :=
  match disk.lookup root with
  | .ok (.file _) => .ok [.found (.read disk root)]
  | .ok (.dir entries) => .ok (dirEvents config root entries)
  | .error .notFound => .error (.rootNotFound root)
  | .error fault => .error (.unreadable root fault.message)

/-- The files that a scan yields. -/
def files (events : List ScanEvent) : List SourceFile :=
  events.filterMap ScanEvent.file?

end Scan

end LayerAtlas
