/-!
# Paths

A path is a text of names with slashes between them.  Paths are joined as texts, so that a path is
shown the way it was put together.
-/

namespace Orthography.Path

set_option autoImplicit false

/-- A path below another one.  An absolute path stands on its own. -/
def join (base child : String) : String :=
  if child.startsWith "/" then child
  else if base.isEmpty || base.endsWith "/" then base ++ child
  else base ++ "/" ++ child

/-- The names of a path, in order; empty where slashes meet. -/
def split (current : List Char) : List Char → List String
  | [] => [String.ofList current.reverse]
  | c :: rest =>
    if c = '/' then String.ofList current.reverse :: split [] rest else split (c :: current) rest

/-- The names of a path, in order; empty where slashes meet. -/
def names (path : String) : List String :=
  split [] path.toList

/-- Whether a text can be the name of something in a directory: it is not empty, stands for no
directory on the way, and has no slash in it. -/
def isName (name : String) : Bool :=
  !name.isEmpty && name ≠ "." && name ≠ ".." && !name.toList.contains '/'

/-- The extension of a file name: what follows its last point, unless nothing comes before it. -/
def extension? (name : String) : Option String :=
  let reversed := name.toList.reverse
  match reversed.dropWhile (· ≠ '.') with
  | _ :: stem =>
    if stem.isEmpty then none
    else some (String.ofList (reversed.takeWhile (· ≠ '.')).reverse)
  | [] => none

end Orthography.Path
