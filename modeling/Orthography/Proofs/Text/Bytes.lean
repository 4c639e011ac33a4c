import Orthography.Text.Bytes

/-!
# The bytes of a text

The bytes of a text are UTF-8 and stand for the text.
-/

namespace Orthography.Bytes

set_option autoImplicit false

/-- The bytes of a text stand for it. -/
theorem text?_toUTF8 (text : String) : text? text.toUTF8 = some text := by
  have valid : text.toUTF8.IsValidUTF8 := text.isValidUTF8
  rw [text?, String.fromUTF8?, dif_pos valid]
  rfl

/-- The bytes of a text stand for its characters, without a gap. -/
theorem chars_toUTF8 (text : String) : chars text.toUTF8 = text.toList.map some := by
  rw [chars, text?_toUTF8]

end Orthography.Bytes
