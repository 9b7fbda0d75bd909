import TrackingPlan.Config.Basic
import TrackingPlan.Config.Variables
import TrackingPlan.Text.CaseMap

/-!
# How much to log, and in which form

Three variables decide: one turns debugging on, and with it the level `debug`; one sets the level;
one sets the form.  A level or form that is not known counts as not set.

§1 levels and forms · §2 what variables say · §3 setting variables.
-/

namespace TrackingPlan

/-! ## §1 Levels and forms -/

/-- **How much is logged.** -/
inductive LogLevel where
  | trace
  | debug
  | info
  | warn
  | error
deriving DecidableEq

/-- The name of a level. -/
def LogLevel.text : LogLevel → String
  | .trace => "trace"
  | .debug => "debug"
  | .info => "info"
  | .warn => "warn"
  | .error => "error"

/-- The level with this name, in letters of any case. -/
def LogLevel.ofText? (text : String) : Option LogLevel :=
  [LogLevel.trace, .debug, .info, .warn, .error].find? (·.text == Text.toLowerCase text)

/-- **The form of what is logged.** -/
inductive LogFormat where
  | compact
  | pretty
  | json
deriving DecidableEq

/-- The name of a form. -/
def LogFormat.text : LogFormat → String
  | .compact => "compact"
  | .pretty => "pretty"
  | .json => "json"

/-- The form with this name, in letters of any case. -/
def LogFormat.ofText? (text : String) : Option LogFormat :=
  [LogFormat.compact, .pretty, .json].find? (·.text == Text.toLowerCase text)

namespace Logging

/-! ## §2 What variables say -/

/-- The variable that turns debugging on. -/
def debugVariable : String :=
  "TYPER_DEBUG"

/-- The variable that sets the level. -/
def levelVariable : String :=
  "TYPER_LOG_LEVEL"

/-- The variable that sets the form. -/
def formatVariable : String :=
  "TYPER_LOG_FORMAT"

/-- Whether a text means yes. -/
def isTruthy (text : String) : Bool :=
  ["true", "1", "yes"].contains (Text.toLowerCase text)

variable (v : Config.Variables)

/-- **Whether debugging is on.** -/
def isDebug : Bool :=
  (Entries.get? v debugVariable).any isTruthy

/-- The level where none is set. -/
def fallbackLevel : LogLevel :=
  if isDebug v then .debug else .warn

/-- **The level**, when the variable does not set it but `text` may. -/
def levelOr (text : Option String) : LogLevel :=
  (((Entries.get? v levelVariable).or text).bind LogLevel.ofText?).getD (fallbackLevel v)

/-- **The form**, when the variable does not set it but `text` may. -/
def formatOr (text : Option String) : LogFormat :=
  (((Entries.get? v formatVariable).or text).bind LogFormat.ofText?).getD .compact

/-- The level that the variables say. -/
def level : LogLevel :=
  levelOr v none

/-- The form that the variables say. -/
def format : LogFormat :=
  formatOr v none

/-- The level and the form under a configuration; variables go before it. -/
def underConfig (s : Config.LogSettings) : LogLevel × LogFormat :=
  (levelOr v (some s.level), formatOr v (some s.format))

/-! ## §3 Setting variables -/

/-- The variables with debugging on. -/
def turnDebugOn : Config.Variables :=
  Entries.insert v debugVariable "true"

/-- The variables with a level set, be it known or not. -/
def setLevel (text : String) : Config.Variables :=
  Entries.insert v levelVariable text

end Logging

end TrackingPlan
