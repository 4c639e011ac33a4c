import Orthography.Configuration.Basic
import Orthography.Pattern.Reader

/-!
# Settings of the checker

The part of a configuration that decides what is correct, with its patterns read.  A configuration
is refused when its distance is negative or no number, or when one of its patterns cannot be read.
-/

namespace Orthography

set_option autoImplicit false

/-- What the checker goes by. -/
structure Settings where
  relativeChecking : Bool := false
  maxSuggestions : Nat := 5
  maxDistance : Binary64 := Binary64.ofRatio 8 100
  maxCompletions : Nat := 5
  ignorePatterns : List Pattern := []
deriving DecidableEq, Repr

namespace Settings

/-- The patterns that some texts stand for; the first text that stands for none is the cause of a
failure. -/
def readPatterns : List String → Except Failure (List Pattern)
  | [] => .ok []
  | source :: rest =>
    match Pattern.ofString? source with
    | none => .error (.misconfigured (.badPattern source))
    | some pattern => (readPatterns rest).map (pattern :: ·)

/-- The settings of a configuration. -/
def ofConfiguration (configuration : Configuration) : Except Failure Settings :=
  let threshold := configuration.maxDistance
  if !threshold.isFinite || threshold.isNegative then
    .error (.misconfigured (.badThreshold threshold))
  else
    (readPatterns configuration.ignorePatterns).map fun patterns =>
      { relativeChecking := configuration.relativeChecking
        maxSuggestions := configuration.maxSuggestions
        maxDistance := threshold
        maxCompletions := configuration.maxCompletions
        ignorePatterns := patterns }

/-- The levels that count as correct. -/
def acceptedLevels (settings : Settings) : List Level :=
  if settings.relativeChecking then [.verified, .verifiedAuto] else [.verified]

/-- Whether a level counts as correct. -/
def accepts (settings : Settings) (level : Level) : Bool :=
  settings.acceptedLevels.contains level

end Settings

end Orthography
