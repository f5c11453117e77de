/-
The configuration in a document.

Each value has its key in a section. A section is a table, and keys that
are not known are disregarded; or an array, whose items stand for the
keys of the section in their order, and further items are disregarded.
A date is read as a table without any known key. Whatever is not given
keeps its default.

What makes a text a document is the reader's to say. The results hold for
any reader that does what they name.
-/
import ScreenUnlock.Config.Basic
import ScreenUnlock.Toml.Document

namespace ScreenUnlock

namespace Config

-- ========================================================== the sections

/-- What a section says about the key at a position: `none` if it is no
section, `some none` if it says nothing. -/
def entry? (section' : Option Toml.Value) (position : Nat) (key : String) :
    Option (Option Toml.Value) :=
  match section' with
  | none => some none
  | some (.table entries) => some (entries.lookup key)
  | some (.array items) => some items[position]?
  | some .datetime => some none
  | some _ => none

/-- A text; the default if nothing is said. -/
def text? (default : String) : Option Toml.Value → Option String
  | none => some default
  | some (.text text) => some text
  | some _ => none

/-- A number from 0 to `most`; the default if nothing is said. -/
def natural? (default most : Nat) : Option Toml.Value → Option Nat
  | none => some default
  | some (.integer number) =>
    if 0 ≤ number ∧ number ≤ most then some number.toNat else none
  | some _ => none

-- ========================================================== the document

/-- The configuration in a document's table, if every value that it gives
has the right form. -/
def ofTable? (table : Toml.Table) : Option Config := do
  let auth := table.lookup "auth"
  let pam := table.lookup "pam"
  let input := table.lookup "input"
  let shutdown := table.lookup "shutdown"
  let service ← text? default.service (← entry? auth 0 "service")
  let maxFailures ← natural? default.maxFailures.toNat (Nat.pow 2 32 - 1)
    (← entry? auth 1 "max_failures")
  let configDir ← text? default.configDir.text (← entry? pam 0 "config_dir")
  let configFile ←
    text? default.configFile.text (← entry? pam 1 "config_file")
  let maxLineLen ← natural? default.maxLineLen.toNat (Nat.pow 2 64 - 1)
    (← entry? input 0 "max_line_len")
  let graceSecs ← natural? default.graceSecs.toNat (Nat.pow 2 64 - 1)
    (← entry? shutdown 0 "grace_secs")
  return {
    service
    maxFailures := UInt32.ofNat maxFailures
    configDir := ⟨configDir⟩
    configFile := ⟨configFile⟩
    maxLineLen := UInt64.ofNat maxLineLen
    graceSecs := UInt64.ofNat graceSecs }

/-- The configuration in a document's table, checked. -/
def ofTable (table : Toml.Table) : Except ConfigError Config :=
  match ofTable? table with
  | none => .error .malformed
  | some config =>
    match config.violation? with
    | some violation => .error (.invalid violation)
    | none => .ok config

/-- The configuration in the text of a document, checked. -/
def ofText (text : String) (reader : Toml.Reader := Toml.parse?) :
    Except ConfigError Config :=
  match reader text with
  | none => .error .malformed
  | some table => ofTable table

end Config

end ScreenUnlock
