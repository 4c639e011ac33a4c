import Orthography.Unicode.CaseMapping
import Orthography.Word.Punctuation

/-!
# Keys and capitals

Two words are the same word when their *keys* agree: the surface form in small letters.  A
replacement takes over the capital that the word it replaces starts with.
-/

namespace Orthography.Word

set_option autoImplicit false

/-- The key of a word; empty when the word is nothing but white space and punctuation. -/
def keyChars (word : List Char) : List Char :=
  Unicode.lowercaseText (surfaceChars word)

/-- The key of a word; empty when the word is nothing but white space and punctuation. -/
def key (word : String) : String :=
  String.ofList (keyChars word.toList)

/-- Whether the surface form of a word starts with a capital. -/
def startsWithCapital (word : List Char) : Bool :=
  match surfaceChars word with
  | [] => false
  | c :: _ => Unicode.isUppercase c

/-- A replacement with the capital of the word it replaces. -/
def matchCaseChars (model replacement : List Char) : List Char :=
  match replacement with
  | [] => []
  | c :: rest =>
    if startsWithCapital model && Unicode.isLowercase c then Unicode.toUppercase c ++ rest
    else replacement

/-- A replacement with the capital of the word it replaces: when the word starts with a capital and
the replacement with a small letter, that letter is capitalised. -/
def matchCase (model replacement : String) : String :=
  String.ofList (matchCaseChars model.toList replacement.toList)

end Orthography.Word
