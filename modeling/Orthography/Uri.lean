/-!
# URI references

Which texts are URI references by the grammar of RFC 3986: a scheme and a path, or a relative path,
perhaps with an authority, a query and a fragment.
-/

namespace Orthography.Uri

set_option autoImplicit false

/-- Letters and digits of ASCII and the four marks that never need to be escaped. -/
def isUnreserved (c : Char) : Bool :=
  c.isAlphanum || ['-', '.', '_', '~'].contains c

/-- Signs that may separate the parts of a component. -/
def isSubDelimiter (c : Char) : Bool :=
  "!$&'()*+,;=".toList.contains c

/-- Hexadecimal digits. -/
def isHexDigit (c : Char) : Bool :=
  c.isDigit || ('a' ≤ c && c ≤ 'f') || ('A' ≤ c && c ≤ 'F')

/-- Whether a text is made of allowed characters and of bytes escaped by a percent sign and two
hexadecimal digits. -/
def isEncoded (allowed : Char → Bool) : List Char → Bool
  | [] => true
  | '%' :: a :: b :: rest => isHexDigit a && isHexDigit b && isEncoded allowed rest
  | c :: rest => c ≠ '%' && allowed c && isEncoded allowed rest

/-- Characters of registered names. -/
def isNameChar (c : Char) : Bool :=
  isUnreserved c || isSubDelimiter c

/-- Characters of a segment of a path. -/
def isPathChar (c : Char) : Bool :=
  isNameChar c || c = ':' || c = '@'

/-- Characters of a query or a fragment. -/
def isQueryChar (c : Char) : Bool :=
  isPathChar c || c = '/' || c = '?'

/-- The pieces of a text between separators. -/
def splitAt (separator : Char) : List Char → List (List Char)
  | [] => [[]]
  | c :: rest =>
    if c = separator then [] :: splitAt separator rest
    else
      match splitAt separator rest with
      | [] => [[c]]
      | piece :: pieces => (c :: piece) :: pieces

/-- A number from 0 to 255 without leading zeros. -/
def isByte (text : List Char) : Bool :=
  let value := text.foldl (fun value c => value * 10 + (c.toNat - 0x30)) 0
  !text.isEmpty && text.length ≤ 3 && text.all Char.isDigit && value ≤ 255
    && (text.length = 1 || text.head? ≠ some '0')

/-- Four bytes with points between them. -/
def isIPv4 (text : List Char) : Bool :=
  let bytes := splitAt '.' text
  bytes.length = 4 && bytes.all isByte

/-- Up to four hexadecimal digits. -/
def isGroup (text : List Char) : Bool :=
  !text.isEmpty && text.length ≤ 4 && text.all isHexDigit

/-- How many groups of sixteen bits a row of groups makes up; the last of them may be the bytes of
an address of the older kind if it ends the whole address. -/
def groupCount? (final : Bool) (text : List Char) : Option Nat :=
  if text.isEmpty then some 0
  else
    let groups := splitAt ':' text
    let last := groups.getLast?.getD []
    if groups.dropLast.all isGroup then
      if isGroup last then some groups.length
      else if final && isIPv4 last then some (groups.length + 1)
      else none
    else none

/-- The two parts of a text around the first double colon. -/
def aroundGap : List Char → Option (List Char × List Char)
  | ':' :: ':' :: rest => some ([], rest)
  | c :: rest => (aroundGap rest).map fun (left, right) => (c :: left, right)
  | [] => none

/-- An address of 128 bits: eight groups, or fewer around one double colon. -/
def isIPv6 (text : List Char) : Bool :=
  match aroundGap text with
  | none => groupCount? true text = some 8
  | some (left, right) =>
    match groupCount? false left, groupCount? true right with
    | some before, some after => before + after ≤ 7
    | _, _ => false

/-- An address of a kind yet to come: a letter, a version, a point and more. -/
def isFutureAddress : List Char → Bool
  | letter :: rest =>
    let version := rest.takeWhile isHexDigit
    (letter = 'v' || letter = 'V') && !version.isEmpty &&
      match rest.dropWhile isHexDigit with
      | '.' :: address =>
        !address.isEmpty && address.all fun c => isNameChar c || c = ':'
      | _ => false
  | [] => false

/-- Nothing, or a colon and the digits of a port. -/
def isPort : List Char → Bool
  | [] => true
  | ':' :: digits => digits.all Char.isDigit
  | _ => false

/-- A host, perhaps with a port. -/
def isHost : List Char → Bool
  | '[' :: rest =>
    let address := rest.takeWhile (· ≠ ']')
    match rest.dropWhile (· ≠ ']') with
    | _ :: port => (isIPv6 address || isFutureAddress address) && isPort port
    | [] => false
  | text =>
    isEncoded isNameChar (text.takeWhile (· ≠ ':')) && isPort (text.dropWhile (· ≠ ':'))

/-- A host, perhaps with a user in front and a port behind. -/
def isAuthority (text : List Char) : Bool :=
  if text.contains '@' then
    isEncoded (fun c => isNameChar c || c = ':') (text.takeWhile (· ≠ '@'))
      && isHost ((text.dropWhile (· ≠ '@')).drop 1)
  else isHost text

/-- A path. -/
def isPath (text : List Char) : Bool :=
  isEncoded (fun c => isPathChar c || c = '/') text

/-- A path after the scheme, or in its place: with an authority when it starts with two slashes. -/
def isHierarchy : List Char → Bool
  | '/' :: '/' :: rest =>
    isAuthority (rest.takeWhile (· ≠ '/')) && isPath (rest.dropWhile (· ≠ '/'))
  | text => isPath text

/-- Characters of a scheme. -/
def isSchemeChar (c : Char) : Bool :=
  c.isAlphanum || c = '+' || c = '-' || c = '.'

/-- What comes before the query: a scheme and a path, or a path whose first segment has no
colon. -/
def isReferenceBody (text : List Char) : Bool :=
  match text.dropWhile isSchemeChar with
  | ':' :: rest => (text.head?.any Char.isAlpha) && isHierarchy rest
  | _ => isHierarchy text && !(text.takeWhile (· ≠ '/')).contains ':'

/-- Whether a text is a URI reference. -/
def isReference (uri : String) : Bool :=
  let text := uri.toList
  let beforeFragment := text.takeWhile (· ≠ '#')
  let fragment := (text.dropWhile (· ≠ '#')).drop 1
  let body := beforeFragment.takeWhile (· ≠ '?')
  let query := (beforeFragment.dropWhile (· ≠ '?')).drop 1
  isReferenceBody body && isEncoded isQueryChar query && isEncoded isQueryChar fragment

end Orthography.Uri

namespace Orthography

/-- A URI reference. -/
structure Uri where
  text : String
  valid : Uri.isReference text = true
deriving DecidableEq, Repr

/-- The URI reference that a text is, if it is one. -/
def Uri.ofString? (text : String) : Option Uri :=
  if h : Uri.isReference text = true then some ⟨text, h⟩ else none

end Orthography
