import Orthography.Pattern.Expr
import Orthography.Pattern.Category
import Orthography.Pattern.Script
import Orthography.Pattern.ScriptExtension
import Orthography.Pattern.PropertyToF
import Orthography.Pattern.PropertyFromG
import Orthography.Pattern.PropertyName

/-!
# Classes by the names of properties

A pattern names a class of characters by a property of the Unicode Character Database: a general
category, a script or a binary property by name alone, or a category, script or script extension
after the name of its property.  Case, spaces, hyphens and underscores in names do not count, nor
does an `is` in front.
-/

namespace Orthography.Pattern

set_option autoImplicit false

open Unicode

/-- The small letters and other ASCII characters of a name that count. -/
def significant (name : List Char) : List Char :=
  (name.filter fun c => c != ' ' && c != '_' && c != '-' && c.toNat ≤ 0x7F).map Char.toLower

/-- A name in the spelling that the tables of names use. -/
def plainName (name : List Char) : String :=
  let withoutIs :=
    match name with
    | first :: second :: rest =>
      if first.toLower = 'i' && second.toLower = 's' then
        if significant rest = ['c'] then ['i', 's', 'c'] else significant rest
      else significant name
    | _ => significant name
  String.ofList withoutIs

namespace CharSet

/-- The union of some classes. -/
def unions (sets : List CharSet) : CharSet :=
  sets.foldr union none

/-- The assigned characters: those of some general category. -/
def assigned : CharSet :=
  unions (Category.every.map fun category => runs category.runs)

/-- The class of a general category. -/
def ofCategory? (name : String) : Option CharSet :=
  if name = "any" then some any
  else if name = "assigned" then some assigned
  else if name = "ascii" then some (span 0 0x7F)
  else if unassignedNames.contains name then some (compl assigned)
  else if otherNames.contains name then
    some (unions [runs controlRuns, runs formatRuns, runs privateUseRuns, compl assigned])
  else
    (Category.names.lookup name).map fun categories =>
      unions (categories.map fun category => runs category.runs)

/-- The class of a script. -/
def ofScript? (name : String) : Option CharSet :=
  (scriptNames.lookup name).bind fun script => (scriptRuns.lookup script).map runs

/-- The class of the characters that a script is used with. -/
def ofScriptExtension? (name : String) : Option CharSet :=
  (scriptNames.lookup name).bind fun script => (scriptExtensionRuns.lookup script).map runs

/-- The class of a binary property, by the name in the tables. -/
def ofBinaryProperty? (property : String) : Option CharSet :=
  if property = "White_Space" then some space
  else (propertyRunsToF.lookup property <|> propertyRunsFromG.lookup property).map runs

/-- The class that a single name stands for.

The names `cf`, `sc` and `lc` are general categories here, although they are also short for the
properties of case folding, script and lowercase mapping. -/
def ofName? (name : List Char) : Option CharSet :=
  let plain := plainName name
  let property :=
    if plain = "cf" || plain = "sc" || plain = "lc" then Option.none
    else propertyNames.lookup plain
  match property with
  | some property => ofBinaryProperty? property
  | Option.none => ofCategory? plain <|> ofScript? plain

/-- The class that a property and one of its values stand for. -/
def ofPropertyValue? (property value : List Char) : Option CharSet :=
  match propertyNames.lookup (plainName property) with
  | some "General_Category" => ofCategory? (plainName value)
  | some "Script" => ofScript? (plainName value)
  | some "Script_Extensions" => ofScriptExtension? (plainName value)
  | _ => Option.none

end CharSet

end Orthography.Pattern
