import Orthography.Configuration.Basic
import Orthography.Document
import Orthography.Storage.Disk

/-!
# Files to check

A path may name a file or a directory.  Files are checked whatever they are called; in a directory
only those with one of the configured extensions are.
-/

namespace Orthography.Files

set_option autoImplicit false

/-- The files to check below a directory: its entries in ascending order of their names, with what
is below a directory in its place.  The number of files and directories is fuel enough. -/
def walk (configuration : Configuration) (disk : Disk) :
    Nat → String → Location → List String
  | 0, _, _ => []
  | fuel + 1, path, location =>
    (disk.children location).flatMap fun name =>
      let child := Path.join path name
      match disk.node? (location ++ [name]) with
      | some .directory => walk configuration disk fuel child (location ++ [name])
      | some (.file _) => if configuration.acceptsDocument child then [child] else []
      | none => []

/-- The files to check at a path. -/
def atPath (configuration : Configuration) (disk : Disk) (path : String) : List String :=
  match disk.locate path with
  | some location =>
    if disk.isDirectoryAt location then
      walk configuration disk (disk.nodes.length + 1) path location
    else [path]
  | none => [path]

/-- The files to check at some paths. -/
def collect (configuration : Configuration) (disk : Disk) (paths : List String) : List String :=
  paths.flatMap (atPath configuration disk)

/-- The text of a file and the document that it makes up. -/
def readDocument (disk : Disk) (path : String) : Except Failure (String × Document) :=
  match disk.readText? path with
  | some text => .ok (text, Document.ofText path text)
  | none => .error (.unreadableDocument path)

/-- Writes a document back to its file: whether that failed, and the disk after it. -/
def writeDocument (disk : Disk) (path before : String) (document : Document) :
    Except Failure Unit × Disk :=
  match disk.write path (document.toText before).toUTF8 with
  | (true, disk) => (.ok (), disk)
  | (false, disk) => (.error (.unwritableDocument path), disk)

end Orthography.Files
