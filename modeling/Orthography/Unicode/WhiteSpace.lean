import Orthography.Unicode.CodeRun

/-!
# White space

The code points with the property `White_Space`.  They are the same in every version of the
Unicode Character Database since 6.3.
-/

namespace Orthography.Unicode

set_option autoImplicit false

/-- Code points with the property `White_Space`, in ascending order. -/
def whiteSpace : List CodeRun := [
  ⟨0x9, 0xD, 1⟩, ⟨0x20, 0x20, 1⟩, ⟨0x85, 0x85, 1⟩, ⟨0xA0, 0xA0, 1⟩, ⟨0x1680, 0x1680, 1⟩,
  ⟨0x2000, 0x200A, 1⟩, ⟨0x2028, 0x2029, 1⟩, ⟨0x202F, 0x202F, 1⟩, ⟨0x205F, 0x205F, 1⟩,
  ⟨0x3000, 0x3000, 1⟩]

/-- A character is white space when its code point has the property `White_Space`. -/
def isWhiteSpace (c : Char) : Bool :=
  CodeRun.covers whiteSpace c.toNat

end Orthography.Unicode
