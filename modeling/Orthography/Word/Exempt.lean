import Orthography.Unicode.Alphabetic
import Orthography.Word.Key
import Orthography.Word.Reference

/-!
# Words that are never corrected

Some words need no entry in any lexicon: what has no letter in it, what is written in capitals
throughout, and what holds a verse marker.
-/

namespace Orthography.Word

set_option autoImplicit false

/-- Whether a word is never a candidate for correction: its surface form is empty, has no letter,
has capitals and no small letters (scripts without case have neither), or holds a verse marker. -/
def isExemptChars (word : List Char) : Bool :=
  let inner := surfaceChars word
  inner.isEmpty
    || !inner.any Unicode.isAlphabetic
    || (inner.any Unicode.isUppercase && !inner.any Unicode.isLowercase)
    || verseMarker.occursIn inner

/-- Whether a word is never a candidate for correction. -/
def isExempt (word : String) : Bool :=
  isExemptChars word.toList

end Orthography.Word
