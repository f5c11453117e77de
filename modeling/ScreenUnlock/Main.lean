/-
The program.

It looks at the outside, hands what it found to `start`, and does what
the report says: print, log, exit. No backend is built in, so that every
start ends there.
-/
import ScreenUnlock.Privilege.Account
import ScreenUnlock.Startup.Prepare

namespace ScreenUnlock

-- ============================================================== the files

/-- The bytes of a file that can be read. -/
def readBytes? (path : String) : IO (Option Bytes) := do
  try
    return some (← IO.FS.readBinFile path).data.toList
  catch _ =>
    return none

/-- The text of a file that can be read. -/
def readText? (path : String) : IO (Option String) := do
  return (← readBytes? path).bind Bytes.toText?

/-- The tree with what stands at a path and with the directories that
lead there. Of a file that cannot be read it is only known that it is
there. -/
def observe (tree : FileTree) (path : Path) : IO FileTree := do
  let here ← IO.currentDir
  let mut tree := tree
  let mut names := tree.workingDirectory
  for component in path.components do
    names := FileTree.after names component
    let place : Path := ⟨"/" ++ "/".intercalate names⟩
    if ← (here / place.text).isDir then
      tree := tree.withDirectory place
    else if let some content ← readBytes? place.text then
      tree := tree.withFile place content
    else if ← (here / place.text).pathExists then
      tree := tree.withNode place (.unreadable .permissionDenied)
  return tree

/-- The tree with what stands at any of the paths. -/
def observeAll (tree : FileTree) (paths : List Path) : IO FileTree :=
  paths.foldlM observe tree

/-- The files that a start can ask for: those that may configure it, and
those that may define the service it is configured for. -/
def observeFor (options : Options) (dirs : UserDirs) (ids : Ids) :
    IO FileTree := do
  let explicit := options.config.map Path.mk
  let here ← IO.currentDir
  let tree ← observeAll (.empty ⟨here.toString⟩)
    (explicit.toList ++ (Config.userPath? dirs).toList ++ [Config.systemPath])
  match Config.load tree dirs explicit ids.isPrivileged with
  | .error _ => return tree
  | .ok config =>
    observeAll tree
      [config.configDir.join config.service, config.configFile]

-- ============================================================== the world

/-- The world as it is. A process whose ids cannot be learnt counts as
root's, which is refused. The journal is out of reach, so the log goes to
standard error. -/
def World.current (options : Options) : IO World := do
  let status ← readText? "/proc/self/status"
  let ids := (status.bind Ids.ofStatus?).getD ⟨rootId, rootId, rootId, rootId⟩
  let accounts := (← readText? "/etc/passwd").map Account.listOf
  let own := (accounts.getD []).find? fun account =>
    account.user = ids.realUser
  let dirs : UserDirs := {
    home := ← IO.getEnv "HOME"
    configHome := ← IO.getEnv "XDG_CONFIG_HOME"
    databaseHome := own.map Account.home }
  return {
    tree := ← observeFor options dirs ids
    dirs
    user := ← IO.getEnv "USER"
    display := ← IO.getEnv "DISPLAY"
    logFilter := ← IO.getEnv "RUST_LOG"
    journalStream := ← IO.getEnv "JOURNAL_STREAM"
    hasJournal := false
    database := (accounts.map UserDatabase.ofAccounts).getD .unreadable
    authenticator := .unsupported
    credentials := .start ids {}
    output := {} }

-- =========================================================== the program

/-- Write bytes to standard output; whether that succeeded. -/
def print (bytes : Bytes) : IO Bool := do
  let output ← IO.getStdout
  try
    output.write (ByteArray.mk bytes.toArray)
    output.flush
    return true
  catch _ =>
    return false

/-- Log a notice; that it cannot be logged changes nothing. -/
def logNotice (notice : Notice) : IO Unit := do
  try
    IO.eprintln (notice.level.name ++ " " ++ notice.text)
  catch _ =>
    return ()

/-- Do what the start in this world comes to. Where standard output does
not take what is written, it is the start with a full device. -/
def perform (args : List String) (world : World) : IO UInt32 := do
  let report := start args world
  let printed ← print report.output.accepted
  let report :=
    if printed then report
    else start args { world with output := { full := true } }
  if report.exit = some Options.misuseExit then
    IO.eprintln ("error: unexpected arguments\n\n" ++ Options.usageLine)
  report.log.forM logNotice
  return UInt32.ofNat (report.exit.getD 1)

end ScreenUnlock

open ScreenUnlock in
/-- Run the helper. -/
def main (args : List String) : IO UInt32 := do
  let options :=
    match Options.ofArgs args with
    | .start options => options
    | _ => {}
  perform args (← World.current options)
