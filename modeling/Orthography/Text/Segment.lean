import Orthography.Unicode.WordBreak
import Orthography.Unicode.Pictographic

/-!
# Segments of a line

A line is cut into segments at the word boundaries of Unicode Standard Annex 29.  The cut is one
pass from left to right.  A segment that is still open is described by its *tail*, which says what
may join it; marks, joiners and format characters join nearly every segment and leave its tail as it
is.  A sign such as an apostrophe between two letters is *held* until the next character
shows whether it joins the two or stands alone.

Nothing is lost: the segments of a line, put together again, are the line.
-/

namespace Orthography.Segment

set_option autoImplicit false

open Unicode

/-- What may join a segment that is still open. -/
inductive Tail where
  /-- Nothing: the segment is a line break. -/
  | closed
  /-- A line feed only. -/
  | carriageReturn
  | letter
  | hebrewLetter
  /-- After a Hebrew letter and an apostrophe, which belong together in any case: a letter. -/
  | hebrewQuote
  | digit
  | katakana
  /-- After an underscore or another connector: letters, digits, Katakana and connectors. -/
  | connector
  /-- After a space with no mark on it: another space. -/
  | space
  /-- After the first half of a flag: its second half. -/
  | halfFlag
  /-- Marks only. -/
  | marks
deriving DecidableEq, Repr

/-- What has to follow a held sign for it to join the segment. -/
inductive Need where
  | letter
  | hebrewLetter
  | digit
deriving DecidableEq, Repr

/-- What a character does to an open segment. -/
inductive Effect where
  /-- It joins, and the segment goes on with this tail. -/
  | join (tail : Tail)
  /-- It is held. -/
  | hold (need : Need)
  /-- It starts a segment of its own. -/
  | split
deriving DecidableEq, Repr

/-- Marks, joiners and format characters: they join the character before them. -/
def attaches : WordBreak → Bool
  | .extend | .joiner | .format => true
  | _ => false

/-- The tail of a segment that starts with a character. -/
def Tail.first : WordBreak → Tail
  | .carriageReturn => .carriageReturn
  | .lineFeed | .newline => .closed
  | .letter => .letter
  | .hebrewLetter => .hebrewLetter
  | .digit => .digit
  | .katakana => .katakana
  | .connector => .connector
  | .space => .space
  | .regionalIndicator => .halfFlag
  | _ => .marks

/-- The tail after a mark joined. -/
def Tail.marked : Tail → Tail
  | .space => .marks
  | tail => tail

/-- Whether marks join a segment at all. -/
def Tail.takesMarks : Tail → Bool
  | .closed | .carriageReturn => false
  | _ => true

/-- What a character that is not a mark does to an open segment. -/
def effect : Tail → WordBreak → Effect
  | .carriageReturn, .lineFeed => .join .closed
  | .letter, .letter => .join .letter
  | .letter, .hebrewLetter => .join .hebrewLetter
  | .letter, .digit => .join .digit
  | .letter, .connector => .join .connector
  | .letter, .midLetter | .letter, .midBoth | .letter, .singleQuote => .hold .letter
  | .hebrewLetter, .letter => .join .letter
  | .hebrewLetter, .hebrewLetter => .join .hebrewLetter
  | .hebrewLetter, .digit => .join .digit
  | .hebrewLetter, .connector => .join .connector
  | .hebrewLetter, .singleQuote => .join .hebrewQuote
  | .hebrewLetter, .doubleQuote => .hold .hebrewLetter
  | .hebrewLetter, .midLetter | .hebrewLetter, .midBoth => .hold .letter
  | .hebrewQuote, .letter => .join .letter
  | .hebrewQuote, .hebrewLetter => .join .hebrewLetter
  | .digit, .digit => .join .digit
  | .digit, .letter => .join .letter
  | .digit, .hebrewLetter => .join .hebrewLetter
  | .digit, .connector => .join .connector
  | .digit, .midNumber | .digit, .midBoth | .digit, .singleQuote => .hold .digit
  | .katakana, .katakana => .join .katakana
  | .katakana, .connector => .join .connector
  | .connector, .connector => .join .connector
  | .connector, .letter => .join .letter
  | .connector, .hebrewLetter => .join .hebrewLetter
  | .connector, .digit => .join .digit
  | .connector, .katakana => .join .katakana
  | .space, .space => .join .space
  | .halfFlag, .regionalIndicator => .join .marks
  | _, _ => .split

/-- The tail after a character that a held sign was waiting for; none if it is not the one. -/
def Need.met : Need → WordBreak → Option Tail
  | .letter, .letter => some .letter
  | .letter, .hebrewLetter => some .hebrewLetter
  | .hebrewLetter, .hebrewLetter => some .hebrewLetter
  | .digit, .digit => some .digit
  | _, _ => none

/-- A segment that is still open; its characters are kept last first. -/
structure Open where
  chars : List Char
  tail : Tail
  /-- A sign that waits for what it needs, with the marks on it, last first. -/
  held : Option (Need × List Char)
  /-- The last character was a joiner. -/
  joined : Bool
deriving Repr

/-- A segment of one character. -/
def Open.start (c : Char) : Open :=
  { chars := [c], tail := Tail.first (wordBreak c), held := none, joined := wordBreak c = .joiner }

/-- The segments that an open segment comes to when the line ends: a held sign stands alone. -/
def Open.finish (segment : Open) : List (List Char) :=
  match segment.held with
  | none => [segment.chars.reverse]
  | some (_, sign) => [segment.chars.reverse, sign.reverse]

/-- Reads one character: the segments that it completes and the segment that is open after it. -/
def Open.read (segment : Open) (c : Char) : List (List Char) × Open :=
  let kind := wordBreak c
  match segment.held with
  | none =>
    if attaches kind && segment.tail.takesMarks then
      ([], ⟨c :: segment.chars, segment.tail.marked, none, kind = .joiner⟩)
    else if segment.joined && isPictographic c then
      ([], ⟨c :: segment.chars, .marks, none, false⟩)
    else
      match effect segment.tail kind with
      | .join tail => ([], ⟨c :: segment.chars, tail, none, false⟩)
      | .hold need => ([], ⟨segment.chars, segment.tail, some (need, [c]), false⟩)
      | .split => (segment.finish, Open.start c)
  | some (need, sign) =>
    if attaches kind then
      ([], ⟨segment.chars, segment.tail, some (need, c :: sign), kind = .joiner⟩)
    else if segment.joined && isPictographic c then
      ([], ⟨c :: (sign ++ segment.chars), .marks, none, false⟩)
    else
      match need.met kind with
      | some tail => ([], ⟨c :: (sign ++ segment.chars), tail, none, false⟩)
      | none => (segment.finish, Open.start c)

/-- The segments of a line whose first characters are in an open segment. -/
def continueFrom (segment : Open) : List Char → List (List Char)
  | [] => segment.finish
  | c :: rest =>
    let (complete, next) := segment.read c
    complete ++ continueFrom next rest

/-- The segments of a line. -/
def ofLine : List Char → List (List Char)
  | [] => []
  | c :: rest => continueFrom (Open.start c) rest

end Orthography.Segment
