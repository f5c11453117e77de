/-
The configuration of the helper.

Six values, each with a default. `Config.violation?` checks what their
types do not say, in a fixed order, so that of several violations the
first one is reported.
-/
import ScreenUnlock.IoError
import ScreenUnlock.Path
import ScreenUnlock.Text.Quoted

namespace ScreenUnlock

/-- The configuration. -/
structure Config where
  service : String := "lock-auth"
  maxFailures : UInt32 := 5
  configDir : Path := ⟨"/etc/pam.d"⟩
  -- The single file that older systems have instead.
  configFile : Path := ⟨"/etc/pam.conf"⟩
  -- How many bytes of an input line are kept.
  maxLineLen : UInt64 := 4096
  -- How many seconds to wait for work that is left.
  graceSecs : UInt64 := 5
  deriving DecidableEq, Repr

/-- What is wrong with the values of a configuration. -/
inductive Violation where
  | noFailures
  -- The name of the service is empty or holds a slash.
  | badService (service : String)
  | noLine
  deriving DecidableEq, Repr

/-- The violation in words. -/
def Violation.message : Violation → String
  | noFailures => "auth.max_failures must be at least 1"
  | badService service =>
    "auth.service is not a valid service name: " ++ Text.quote service
  | noLine => "input.max_line_len must be at least 1"

/-- Why there is no configuration. -/
inductive ConfigError where
  | unreadable (cause : IoError)
  | malformed
  | invalid (violation : Violation)
  deriving DecidableEq, Repr

/-- The wording of the failure. -/
def ConfigError.message : ConfigError → String
  | unreadable cause => "Failed to read config file: " ++ cause.message
  | malformed => "Failed to parse config file"
  | invalid violation => "Invalid config value: " ++ violation.message

namespace Config

/-- The configuration that is used when there is no file. -/
def default : Config := {}

/-- Whether a name can be one of a service. -/
def isServiceName (service : String) : Bool :=
  decide (service ≠ "") && decide ('/' ∉ service.toList)

/-- The first violation, if there is one. -/
def violation? (config : Config) : Option Violation :=
  if config.maxFailures = 0 then some .noFailures
  else if ¬ isServiceName config.service then
    some (.badService config.service)
  else if config.maxLineLen = 0 then some .noLine
  else none

/-- Check the values of a configuration. -/
def validate (config : Config) : Except ConfigError Unit :=
  match config.violation? with
  | some violation => .error (.invalid violation)
  | none => .ok ()

/-- Whether two configurations say the same; paths are compared by what
they say and not by how they are written. -/
def same (config other : Config) : Bool :=
  decide (config.service = other.service)
    && decide (config.maxFailures = other.maxFailures)
    && config.configDir.same other.configDir
    && config.configFile.same other.configFile
    && decide (config.maxLineLen = other.maxLineLen)
    && decide (config.graceSecs = other.graceSecs)

end Config

end ScreenUnlock
