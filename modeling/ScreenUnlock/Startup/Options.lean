/-
The command line.

Options are words with two dashes or letters behind one dash; several
letters may share a dash. An option with a value takes what follows it in
its own word (behind an equals sign, which a letter may leave out) or
else the next word, which then may not begin with a dash unless it is
just a dash. Each option but the one for verbosity may be given once. A
word that is no option is an error, and so is anything behind two bare
dashes. Reading stops at the first request for help or for the version,
and at the first error.
-/
namespace ScreenUnlock

/-- What the command line asks for. -/
structure Options where
  debug : Bool := false
  -- How often more output was asked for; not counted beyond 255.
  verbosity : Nat := 0
  quiet : Bool := false
  config : Option String := none
  display : Option String := none
  deriving DecidableEq, Repr

namespace Options

/-- What a command line comes to. -/
inductive Reading where
  | start (options : Options)
  | help
  | version
  | misuse
  deriving DecidableEq, Repr

/-- An option with a value. -/
inductive Setting where
  | config
  | display
  deriving DecidableEq, Repr

/-- An option without a value. -/
inductive Switch where
  | debug
  | verbose
  | quiet
  | help
  | version
  deriving DecidableEq, Repr

/-- Give an option its value: once, and a path may not be empty. -/
def set? (options : Options) (setting : Setting) (value : String) :
    Option Options :=
  match setting with
  | .config =>
    if options.config.isSome ∨ value = "" then none
    else some { options with config := some value }
  | .display =>
    if options.display.isSome then none
    else some { options with display := some value }

/-- What a switch leads to: other options, or an end. -/
def turn (options : Options) : Switch → Reading
  | .debug =>
    if options.debug then .misuse else .start { options with debug := true }
  | .verbose =>
    .start { options with verbosity := min (options.verbosity + 1) 255 }
  | .quiet =>
    if options.quiet then .misuse else .start { options with quiet := true }
  | .help => .help
  | .version => .version

/-- The option with a word. -/
def ofWord? : String → Option (Switch ⊕ Setting)
  | "debug" => some (.inl .debug)
  | "verbose" => some (.inl .verbose)
  | "quiet" => some (.inl .quiet)
  | "help" => some (.inl .help)
  | "version" => some (.inl .version)
  | "config" => some (.inr .config)
  | "display" => some (.inr .display)
  | _ => none

/-- The option with a letter. -/
def ofLetter? : Char → Option (Switch ⊕ Setting)
  | 'v' => some (.inl .verbose)
  | 'q' => some (.inl .quiet)
  | 'h' => some (.inl .help)
  | 'V' => some (.inl .version)
  | 'c' => some (.inr .config)
  | _ => none

/-- What reading one word of the command line comes to. -/
inductive Progress where
  | next (options : Options)
  -- The next word is the value of this option.
  | wants (setting : Setting) (options : Options)
  | stop (reading : Reading)
  deriving DecidableEq, Repr

/-- Go on after a switch, unless it ends the reading. -/
def Progress.ofReading : Reading → Progress
  | .start options => .next options
  | reading => .stop reading

/-- Go on after a value, unless it was not in order. -/
def Progress.ofValue : Option Options → Progress
  | some options => .next options
  | none => .stop .misuse

/-- Read letters behind one dash. -/
def letters (options : Options) : List Char → Progress
  | [] => .next options
  | letter :: rest =>
    match ofLetter? letter with
    | none => .stop .misuse
    | some (.inl switch) =>
      match options.turn switch with
      | .start options' => letters options' rest
      | reading => .stop reading
    | some (.inr setting) =>
      match rest with
      | [] => .wants setting options
      | '=' :: value => .ofValue (options.set? setting (String.ofList value))
      | value => .ofValue (options.set? setting (String.ofList value))

/-- Read the word behind two dashes. -/
def word (options : Options) (chars : List Char) : Progress :=
  let name := chars.takeWhile (· ≠ '=')
  let value? := (chars.dropWhile (· ≠ '=')).tail?
  match ofWord? (String.ofList name), value? with
  | none, _ => .stop .misuse
  | some (.inl _), some _ => .stop .misuse
  | some (.inl switch), none => .ofReading (options.turn switch)
  | some (.inr setting), some value =>
    .ofValue (options.set? setting (String.ofList value))
  | some (.inr setting), none => .wants setting options

/-- Read the words of a command line one after the other. -/
def read : Progress → List String → Reading
  | .stop reading, _ => reading
  | .next options, [] => .start options
  | .wants _ _, [] => .misuse
  | .wants setting options, arg :: args =>
    match arg.toList with
    | '-' :: _ :: _ => .misuse
    | _ => read (.ofValue (options.set? setting arg)) args
  | .next options, arg :: args =>
    match arg.toList with
    | ['-', '-'] => if args = [] then .start options else .misuse
    | '-' :: '-' :: chars => read (options.word chars) args
    | '-' :: c :: chars => read (options.letters (c :: chars)) args
    | _ => .misuse

/-- Read a command line. -/
def ofArgs (args : List String) : Reading :=
  read (.next {}) args

-- ============================================================= the texts

/-- How the program is called. -/
def usageLine : String := "Usage: lock-auth-helper [OPTIONS]"

/-- The exit status after misuse. -/
def misuseExit : Nat := 2

/-- The lines that are shown as help. -/
def helpLines : List String := [
  "Privilege-separated PAM helper for screen lockers",
  "",
  usageLine,
  "",
  "Options:",
  "      --debug              Show debugging output",
  "  -v, --verbose...         Increase log verbosity"
    ++ " (-v = debug, -vv = trace)",
  "  -q, --quiet              Only show errors",
  "  -c, --config <PATH>      Path to config file, ignored when"
    ++ " running setuid/setgid [default: /etc/lock-auth/helper.toml]",
  "      --display <DISPLAY>  Display the session belongs to"
    ++ " [default: $DISPLAY]",
  "  -h, --help               Print help",
  "  -V, --version            Print version"]

/-- What is shown as help. -/
def helpText : String :=
  String.join (helpLines.map (· ++ "\n"))

/-- What is shown as version. -/
def versionText : String := "lock-auth-helper 0.1.0\n"

end Options

end ScreenUnlock
