import Orthography.Storage.Path
import Orthography.Text.Bytes

/-!
# Files

The files and directories that a program sees, as a value.  Each one has a location: the names on
the way to it from the root.  Writing a file replaces it as a whole or fails and leaves everything
as it was.  Besides the reasons that the files themselves give (no directory to write to, a
directory in place of the file) a write fails when the disk refuses it; which of the next writes it
refuses is part of the disk.
-/

namespace Orthography

set_option autoImplicit false

/-- The names on the way from the root to a file or directory. -/
abbrev Location := List String

/-- What stands at a location. -/
inductive DiskNode where
  | file (bytes : ByteArray)
  | directory

instance : DecidableEq DiskNode
  | .file first, .file second =>
    if same : first.data = second.data then
      isTrue (congrArg DiskNode.file (ByteArray.ext same))
    else isFalse fun equal => same (congrArg ByteArray.data (DiskNode.file.inj equal))
  | .directory, .directory => isTrue rfl
  | .file _, .directory => isFalse nofun
  | .directory, .file _ => isFalse nofun

/-- The files and directories, the current directory, and which of the next writes are refused. -/
structure Disk where
  nodes : List (Location × DiskNode) := []
  current : Location := []
  refusals : List Bool := []

namespace Disk

/-- What stands at a location; the root is always a directory. -/
def node? (disk : Disk) (location : Location) : Option DiskNode :=
  if location.isEmpty then some .directory else disk.nodes.lookup location

/-- Whether a directory stands at a location. -/
def isDirectoryAt (disk : Disk) (location : Location) : Bool :=
  disk.node? location = some .directory

/-- The bytes of the file at a location. -/
def bytesAt? (disk : Disk) (location : Location) : Option ByteArray :=
  match disk.node? location with
  | some (.file bytes) => some bytes
  | _ => none

/-- Entries with what stands at a location replaced, or added when there was nothing. -/
def replace (location : Location) (node : DiskNode) :
    List (Location × DiskNode) → List (Location × DiskNode)
  | [] => [(location, node)]
  | (other, held) :: rest =>
    if other = location then (location, node) :: rest
    else (other, held) :: replace location node rest

/-- The disk with something put at a location. -/
def put (disk : Disk) (location : Location) (node : DiskNode) : Disk :=
  { disk with nodes := replace location node disk.nodes }

/-- The location that names lead to from another one.  Every name but the last has to lead to a
directory, and so has the way back up. -/
def follow (disk : Disk) : Location → List String → Option Location
  | location, [] => some location
  | location, name :: rest =>
    if !disk.isDirectoryAt location then none
    else if name.isEmpty || name = "." then follow disk location rest
    else if name = ".." then follow disk location.dropLast rest
    else follow disk (location ++ [name]) rest

/-- Where a path starts: at the root, or at the current directory. -/
def origin (disk : Disk) (path : String) : Location :=
  if path.startsWith "/" then [] else disk.current

/-- The location that a path leads to, whether or not something stands there. -/
def locate (disk : Disk) (path : String) : Option Location :=
  if path.isEmpty then none else disk.follow (disk.origin path) (Path.names path)

/-- What a path leads to. -/
def at? (disk : Disk) (path : String) : Option DiskNode :=
  (disk.locate path).bind disk.node?

/-- Whether a path leads to something. -/
def exists? (disk : Disk) (path : String) : Bool :=
  (disk.at? path).isSome

/-- Whether a path leads to a directory. -/
def isDirectory (disk : Disk) (path : String) : Bool :=
  disk.at? path = some .directory

/-- The bytes of the file that a path leads to. -/
def read? (disk : Disk) (path : String) : Option ByteArray :=
  (disk.locate path).bind disk.bytesAt?

/-- The text of the file that a path leads to, if it is text. -/
def readText? (disk : Disk) (path : String) : Option String :=
  (disk.read? path).bind Bytes.text?

/-- The disk after one more attempt to write. -/
def spend (disk : Disk) : Disk :=
  { disk with refusals := disk.refusals.drop 1 }

/-- Whether the next write is refused. -/
def refuses (disk : Disk) : Bool :=
  disk.refusals.head? = some true

/-- Whether a file can be put at a location: in a directory, and not in place of one. -/
def canHold (disk : Disk) (location : Location) : Bool :=
  !location.isEmpty && disk.isDirectoryAt location.dropLast && !disk.isDirectoryAt location

/-- Writes a file: whether that succeeded, and the disk after it. -/
def write (disk : Disk) (path : String) (bytes : ByteArray) : Bool × Disk :=
  match disk.locate path with
  | none => (false, disk.spend)
  | some location =>
    if disk.refuses || !disk.canHold location then (false, disk.spend)
    else (true, disk.spend.put location (.file bytes))

/-- Makes the directories that names lead through from a location, and says whether all of them are
there now. -/
def makeDirectories (disk : Disk) : Location → List String → Bool × Disk
  | location, [] => (disk.isDirectoryAt location, disk)
  | location, name :: rest =>
    if name.isEmpty || name = "." then makeDirectories disk location rest
    else if name = ".." then makeDirectories disk location.dropLast rest
    else
      let next := location ++ [name]
      match disk.node? next with
      | some .directory => makeDirectories disk next rest
      | some (.file _) => (false, disk)
      | none => makeDirectories (disk.put next .directory) next rest

/-- Makes a directory and those that it lies in. -/
def ensureDirectory (disk : Disk) (path : String) : Bool × Disk :=
  disk.makeDirectories (disk.origin path) (Path.names path)

/-- The text of a name after those of a location, if it is right below it. -/
def childName? (location : Location) (other : Location) : Option String :=
  match other.getLast? with
  | some name => if other.dropLast = location then some name else none
  | none => none

/-- Names with one more, at its place in ascending order. -/
def insertName (name : String) : List String → List String
  | [] => [name]
  | other :: rest =>
    if name < other then name :: other :: rest
    else if name = other then other :: rest
    else other :: insertName name rest

/-- Names in ascending order, each of them once. -/
def sortNames (names : List String) : List String :=
  names.foldl (fun sorted name => insertName name sorted) []

/-- The names in the directory at a location, in ascending order.  What no path can lead to is not
listed. -/
def children (disk : Disk) (location : Location) : List String :=
  (sortNames (disk.nodes.filterMap fun entry => childName? location entry.1)).filter Path.isName

/-- The disk without what stands at a location and below it. -/
def erase (disk : Disk) (location : Location) : Disk :=
  { disk with nodes := disk.nodes.filter fun entry => !location.isPrefixOf entry.1 }

end Disk

end Orthography
