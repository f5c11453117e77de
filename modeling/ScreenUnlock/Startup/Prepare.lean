/-
Starting the helper.

The stages are: load the configuration; look for the service and give up
rights; name the user; ask the backend whether it can be used. Each stage
can fail, and then the later ones do not happen. Whatever fails, the
screen locker is told to dismiss its dialog and the exit status is 1: a
lock that cannot be enforced must not keep the user out.
-/
import ScreenUnlock.Auth.Backend
import ScreenUnlock.Config.Load
import ScreenUnlock.Dispatch.Basic
import ScreenUnlock.Privilege.Drop
import ScreenUnlock.Privilege.Identity
import ScreenUnlock.Privilege.Service
import ScreenUnlock.Startup.Log
import ScreenUnlock.Wire.Send

namespace ScreenUnlock

/-- What a helper finds when it starts, and how the texts in it are read
that have a syntax of their own. -/
structure World where
  tree : FileTree
  dirs : UserDirs
  user : Option String
  display : Option String
  logFilter : Option String
  -- Whether the environment says that output goes to the journal.
  journalStream : Option String
  hasJournal : Bool
  database : UserDatabase
  authenticator : Authenticator
  credentials : Credentials
  output : Sink
  readToml : Toml.Reader := Toml.parse?
  readFilter : LogFilter.Reader := .levels

/-- Everything needed to run a session. -/
structure Prepared where
  config : Config
  context : AuthContext
  authenticator : Authenticator

namespace Prepared

/-- The session to run. -/
def session (prepared : Prepared) : Session :=
  .new prepared.context prepared.config.maxFailures

/-- What it is run with. -/
def setup (prepared : Prepared) : Dispatch.Setup :=
  .ofConfig prepared.authenticator prepared.config

end Prepared

-- ============================================================ the stages

/-- How far a start has come. -/
structure StartProgress where
  credentials : Credentials
  -- The notices, oldest first.
  log : List Notice

/-- A stage of the start. -/
abbrev Stage (α : Type) := ExceptT StartError (StateM StartProgress) α

namespace Stage

/-- Log a notice. -/
def note (notice : Notice) : Stage Unit :=
  modify fun progress => { progress with log := progress.log ++ [notice] }

/-- A result that may be a failure of the whole start. -/
def ofExcept {α : Type} : Except StartError α → Stage α
  | .ok result => pure result
  | .error cause => throw cause

/-- Load the configuration. -/
def configuration (options : Options) (world : World) : Stage Config := do
  let privileged := (← get).credentials.ids.isPrivileged
  let explicit := options.config.map Path.mk
  if privileged ∧ explicit.isSome then note .pathIgnored
  let path := Config.resolvePath world.tree world.dirs explicit privileged
  if world.tree.contains path then note (.configLoading path)
  else note (.configAbsent path)
  ofExcept
    ((Config.loadIfPresent world.tree path world.readToml).mapError .config)

/-- Look for the service, then give up rights. -/
def privileges (world : World) (config : Config) : Stage Unit := do
  note (.service (.find world.tree config))
  let (result, credentials) := (← get).credentials.drop
  modify fun progress => { progress with credentials }
  let plan ← ofExcept result
  match plan with
  | .keep => pure ()
  | .switchTo user group _ => note (.dropped user group)
  note (.initialized plan)

/-- Name the user who is the invoker. -/
def identity (world : World) (user : IdNumber) : Stage String := do
  match world.database.lookup user with
  | .found _ => pure ()
  | .unknown => note (.userUnknown user)
  | .failed => note (.databaseFailed user)
  ofExcept (world.database.resolve user world.user)

/-- Ask the backend whether it can be used. -/
def backend (world : World) : Stage Unit := do
  ofExcept (world.authenticator.lockInit.mapError .lockingUnavailable)
  note .lockReady

/-- The display the session belongs to: by the command line, else by the
environment; an empty one is none. -/
def displayName (options : Options) (world : World) : Option String :=
  (options.display <|> world.display).filter (· ≠ "")

/-- All stages, one after the other. -/
def prepare (options : Options) (world : World) : Stage Prepared := do
  let invoker := (← get).credentials.ids.realUser
  let config ← configuration options world
  privileges world config
  let user ← identity world invoker
  backend world
  note (.ready user)
  return {
    config
    context := { user, display := displayName options world }
    authenticator := world.authenticator }

end Stage

-- ============================================================= the start

/-- What a start leads to. -/
structure StartReport where
  -- The exit status; `none` if a session is to be run.
  exit : Option Nat
  prepared : Option Prepared
  output : Sink
  credentials : Credentials
  -- The notices that the filter lets through, oldest first.
  log : List Notice
  -- Whether they go to the journal and not to standard error.
  toJournal : Bool

/-- A start that only shows a text. -/
def StartReport.showing (world : World) (text : String) : StartReport :=
  { exit := some 0
    prepared := none
    output := (world.output.writeAll (Bytes.ofText text)).2
    credentials := world.credentials
    log := []
    toJournal := false }

/-- The end of a start that failed: the screen locker is told to dismiss
its dialog. -/
def failOpen (cause : StartError) (output : Sink) : Sink × List Notice :=
  match output.reportUnavailable with
  | (.ok (), output') => (output', [.lockingDisabled cause])
  | (.error failure, output') =>
    (output', [.lockingDisabled cause, .reportFailed failure])

/-- Start with these options. -/
def startWith (options : Options) (world : World) : StartReport :=
  let admitted (log : List Notice) : List Notice :=
    log.filter (LogFilter.choose world.readFilter world.logFilter options)
  let toJournal := world.journalStream.isSome && world.hasJournal
  let (result, progress) :=
    (Stage.prepare options world).run ⟨world.credentials, [.starting]⟩
  match result with
  | .ok prepared =>
    { exit := none
      prepared := some prepared
      output := world.output
      credentials := progress.credentials
      log := admitted progress.log
      toJournal }
  | .error cause =>
    let (output, notices) := failOpen cause world.output
    { exit := some 1
      prepared := none
      output
      credentials := progress.credentials
      log := admitted (progress.log ++ notices)
      toJournal }

/-- Start with this command line. -/
def start (args : List String) (world : World) : StartReport :=
  match Options.ofArgs args with
  | .help => .showing world Options.helpText
  | .version => .showing world Options.versionText
  | .misuse =>
    { exit := some Options.misuseExit
      prepared := none
      output := world.output
      credentials := world.credentials
      log := []
      toJournal := false }
  | .start options => startWith options world

end ScreenUnlock
