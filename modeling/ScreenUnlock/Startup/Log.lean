/-
What the helper logs while it starts.

Each notice has a level. A filter says which notices are let through; it
is written down as a text. How such a text is read is not settled here:
any reader of filters will do. One is at hand, which knows the names of
levels and nothing else (`LogFilter.Reader.levels`).
-/
import ScreenUnlock.Privilege.Basic
import ScreenUnlock.Privilege.Service
import ScreenUnlock.Startup.Options
import ScreenUnlock.Wire.Send

namespace ScreenUnlock

/-- How grave a notice is, the gravest first. -/
inductive Level where
  | error
  | warn
  | info
  | debug
  | trace
  deriving DecidableEq, Repr

namespace Level

/-- The place of the level, 0 for the gravest. -/
def rank : Level → Nat
  | error => 0
  | warn => 1
  | info => 2
  | debug => 3
  | trace => 4

/-- The name of the level. -/
def name : Level → String
  | error => "ERROR"
  | warn => "WARN"
  | info => "INFO"
  | debug => "DEBUG"
  | trace => "TRACE"

/-- All levels, the gravest first. -/
def all : List Level := [error, warn, info, debug, trace]

end Level

-- =========================================================== the notices

/-- Something that is logged. -/
inductive Notice where
  | starting
  -- A path on the command line is disregarded.
  | pathIgnored
  | configLoading (path : Path)
  | configAbsent (path : Path)
  | service (registration : Registration)
  | dropped (user group : IdNumber)
  | initialized (plan : DropPlan)
  | userUnknown (user : IdNumber)
  | databaseFailed (user : IdNumber)
  | lockReady
  | ready (user : String)
  | lockingDisabled (cause : StartError)
  -- The screen locker could not be told.
  | reportFailed (cause : IoError)
  deriving DecidableEq, Repr

namespace Notice

/-- How grave the notice is. -/
def level : Notice → Level
  | starting => .info
  | pathIgnored => .debug
  | configLoading _ => .debug
  | configAbsent _ => .debug
  | service .missing => .warn
  | service _ => .debug
  | dropped _ _ => .info
  | initialized _ => .debug
  | userUnknown _ => .debug
  | databaseFailed _ => .debug
  | lockReady => .debug
  | ready _ => .info
  | lockingDisabled _ => .warn
  | reportFailed _ => .error

/-- The notice in words. -/
def text : Notice → String
  | starting => "Starting lock-auth-helper"
  | pathIgnored => "Ignoring caller-supplied config path in privileged mode"
  | configLoading path => "Loading configuration path=" ++ path.text
  | configAbsent path => "No config file, using defaults path=" ++ path.text
  | service (.service path) => "PAM service registered path=" ++ path.text
  | service (.legacy path) =>
    "Using legacy PAM configuration path=" ++ path.text
  | service .missing =>
    "PAM service is not registered, authentication may fail"
  | dropped user group =>
    "Dropped privileges uid=" ++ toString user.toNat ++ " gid="
      ++ toString group.toNat
  | initialized _ => "Privileged initialization complete"
  | userUnknown user => "No passwd entry for uid uid=" ++ toString user.toNat
  | databaseFailed user => "Passwd lookup failed uid=" ++ toString user.toNat
  | lockReady => "Lock initialization complete"
  | ready user => "Ready to authenticate user=" ++ user
  | lockingDisabled cause => "Screen locking disabled error=" ++ cause.message
  | reportFailed cause =>
    "Failed to report lock failure error=" ++ sendFailure cause

end Notice

-- ============================================================ the filters

/-- Which notices are let through. -/
abbrev LogFilter := Notice → Bool

namespace LogFilter

/-- The notices that are at least this grave. -/
def atLeast (least : Level) : LogFilter :=
  fun notice => notice.level.rank ≤ least.rank

/-- What reads filters. -/
structure Reader where
  -- The filter that a text stands for; `none` if it stands for none.
  parse? : String → Option LogFilter
  -- The same, whatever cannot be understood being disregarded.
  parse : String → LogFilter

/-- The filter that the options ask for, as a text. -/
def ofOptions (options : Options) : String :=
  if options.quiet then "error"
  else if 2 ≤ options.verbosity then "trace"
  else if options.debug ∨ options.verbosity = 1 then "debug"
  else "warn"

/-- The filter in force: one that the environment names goes before the
options. -/
def choose (reader : Reader) (environment : Option String)
    (options : Options) : LogFilter :=
  (environment.bind reader.parse?).getD (reader.parse (ofOptions options))

/-- The filter that is called by the name of a level, in any case; an
empty name asks for errors only. -/
def ofName? (name : String) : Option LogFilter :=
  match name.map Char.toLower with
  | "" => some (atLeast .error)
  | "off" => some fun _ => false
  | "error" => some (atLeast .error)
  | "warn" => some (atLeast .warn)
  | "info" => some (atLeast .info)
  | "debug" => some (atLeast .debug)
  | "trace" => some (atLeast .trace)
  | _ => none

/-- The reader that knows the names of levels only. -/
def Reader.levels : Reader where
  parse? := ofName?
  parse text := (ofName? text).getD (atLeast .error)

end LogFilter

end ScreenUnlock
