import Orthography.Failure
import Orthography.Unicode.CaseMapping

/-!
# Levels of trust

Every entry of a lexicon has a level that says how far it is trusted.
-/

namespace Orthography

set_option autoImplicit false

/-- How far an entry is trusted. -/
inductive Level where
  | unverified
  | verified
  | verifiedAuto
deriving DecidableEq, Repr

namespace Level

/-- The name of a level, as files and messages have it. -/
def name : Level → String
  | unverified => "unverified"
  | verified => "verified"
  | verifiedAuto => "verified_auto"

/-- The level with exactly this name. -/
def named? : String → Option Level
  | "unverified" => some unverified
  | "verified" => some verified
  | "verified_auto" => some verifiedAuto
  | _ => none

/-- A name in small letters and with underscores for hyphens. -/
def plainName (text : String) : String :=
  String.ofList
    ((Unicode.lowercaseText text.toList).map fun c => if c = '-' then '_' else c)

/-- The level that a user means: case does not count, hyphens stand for underscores, and `auto` is
short for `verified_auto`. -/
def read (text : String) : Except Failure Level :=
  let plain := plainName text
  if plain = "auto" then .ok verifiedAuto
  else
    match named? plain with
    | some level => .ok level
    | none => .error (.misconfigured (.unknownLevel plain))

end Level

end Orthography
