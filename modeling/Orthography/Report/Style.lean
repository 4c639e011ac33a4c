/-!
# Colour

Text for a terminal can be set in styles.  A style is switched on by an escape sequence and off by
another one; where the text itself switches styles off, the style is switched on again behind it.
Without colour a text stays as it is.
-/

namespace Orthography.Report

set_option autoImplicit false

/-- The colours in use. -/
inductive Colour where
  | red
  | green
  | yellow
  | blue
  | cyan
deriving DecidableEq, Repr

/-- The number of a colour. -/
def Colour.code : Colour → String
  | .red => "31"
  | .green => "32"
  | .yellow => "33"
  | .blue => "34"
  | .cyan => "36"

/-- How a text is set. -/
structure Style where
  bold : Bool := false
  dimmed : Bool := false
  underlined : Bool := false
  colour : Option Colour := none
deriving DecidableEq, Repr

namespace Style

/-- The numbers of a style, in order. -/
def codes (style : Style) : List String :=
  (if style.bold then ["1"] else []) ++ (if style.dimmed then ["2"] else [])
    ++ (if style.underlined then ["4"] else []) ++ (style.colour.map Colour.code).toList

/-- The escape sequence that switches a style on. -/
def on (style : Style) : List Char :=
  '\x1b' :: '[' :: (";".intercalate style.codes).toList ++ ['m']

/-- The escape sequence that switches all styles off. -/
def off : List Char :=
  ['\x1b', '[', '0', 'm']

end Style

/-- A text with every occurrence of a part replaced, from left to right.  The number of characters
is fuel enough. -/
def replaceAll (part replacement : List Char) : Nat → List Char → List Char
  | 0, text => text
  | _, [] => []
  | fuel + 1, c :: rest =>
    if part.isPrefixOf (c :: rest) then
      replacement ++ replaceAll part replacement fuel ((c :: rest).drop part.length)
    else c :: replaceAll part replacement fuel rest

/-- A text set in a style, if there is colour. -/
def paint (colour : Bool) (style : Style) (text : String) : String :=
  if colour then
    let body := replaceAll Style.off (Style.off ++ style.on) text.length text.toList
    String.ofList (style.on ++ body ++ Style.off)
  else text

/-- Plain letters in a colour. -/
def tint (colour : Bool) (tone : Colour) (text : String) : String :=
  paint colour { colour := some tone } text

/-- Bold letters in a colour. -/
def strong (colour : Bool) (tone : Colour) (text : String) : String :=
  paint colour { bold := true, colour := some tone } text

/-- Dimmed letters. -/
def dim (colour : Bool) (text : String) : String :=
  paint colour { dimmed := true } text

/-- Bold letters. -/
def bold (colour : Bool) (text : String) : String :=
  paint colour { bold := true } text

end Orthography.Report
