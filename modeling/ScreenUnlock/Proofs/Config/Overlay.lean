/-
A document laid over the defaults.

Each value of the configuration is the document's where its key is there,
and the default where it is not, whatever the document says about the other
keys (`Shows`). A section that names one key and not the other leaves the
other at its default: a section is not replaced as a whole.

All that is read of a document's table is what it says about the six keys
(`said?`), as long as its sections are tables. So nothing is lost or gained
by other keys, other sections and another order (`Revision.said?_eq`). That
the order does not count rests on that no key is there twice. This is all that
is asked of the reader of documents (`ReadsOnce`), and ours sees to it
(`readsOnce_parse?`).
-/
import Mathlib.Data.List.Nodup
import Mathlib.Logic.Relation
import ScreenUnlock.Proofs.Config.Source
import ScreenUnlock.Proofs.Toml.Range

namespace ScreenUnlock

/-- The place of a rule in the order in which they are checked. -/
def Violation.rank : Violation → Nat
  | noFailures => 0
  | badService _ => 1
  | noLine => 2

/-- The file at a path holds a document with this table. -/
def FileTree.Holds (reader : Toml.Reader) (tree : FileTree) (path : Path)
    (table : Toml.Table) : Prop :=
  ∃ text, tree.readText path = .ok text ∧ reader text = some table

theorem FileTree.holds_iff {reader : Toml.Reader} {tree : FileTree}
    {path : Path} {table : Toml.Table} : tree.Holds reader path table
      ↔ (tree.readText path).toOption.bind reader = some table := by
  unfold Holds
  cases tree.readText path <;> simp [Except.toOption]

namespace Config

-- ============================================================== the keys

/-- The keys of a configuration. -/
inductive Key where
  | service
  | maxFailures
  | configDir
  | configFile
  | maxLineLen
  | graceSecs
  deriving DecidableEq, Repr

/-- The forms of values: a text, or a number from 0 on that is not too large
for its type. -/
inductive Key.Form where
  | text
  | number (most : Nat)
  deriving DecidableEq, Repr

namespace Key

/-- The name of the section that the key belongs to. -/
def sectionName : Key → String
  | service => "auth"
  | maxFailures => "auth"
  | configDir => "pam"
  | configFile => "pam"
  | maxLineLen => "input"
  | graceSecs => "shutdown"

/-- The key itself, as it stands in the section. -/
def name : Key → String
  | service => "service"
  | maxFailures => "max_failures"
  | configDir => "config_dir"
  | configFile => "config_file"
  | maxLineLen => "max_line_len"
  | graceSecs => "grace_secs"

/-- What has to stand there. -/
def form : Key → Form
  | service => .text
  | maxFailures => .number (Nat.pow 2 32 - 1)
  | configDir => .text
  | configFile => .text
  | maxLineLen => .number (Nat.pow 2 64 - 1)
  | graceSecs => .number (Nat.pow 2 64 - 1)

end Key

/-- Whether a value has the form. -/
def Key.Form.Admits : Form → Toml.Value → Prop
  | .text, value => ∃ text, value = .text text
  | .number most, value =>
    ∃ number : Nat, value = .integer number ∧ number ≤ most

/-- The value of a configuration at a key. -/
def value (config : Config) : Key → Toml.Value
  | .service => .text config.service
  | .maxFailures => .integer config.maxFailures.toNat
  | .configDir => .text config.configDir.text
  | .configFile => .text config.configFile.text
  | .maxLineLen => .integer config.maxLineLen.toNat
  | .graceSecs => .integer config.graceSecs.toNat

variable {config config' : Config} {table table' : Toml.Table} {key : Key}

/-- Every value that a configuration can have is of the right form, the
defaults too. -/
theorem admits_value (config : Config) (key : Key) :
    key.form.Admits (config.value key) := by
  cases key with
  | service | configDir | configFile => exact ⟨_, rfl⟩
  | maxFailures => exact ⟨_, rfl, Nat.le_pred_of_lt (UInt32.toNat_lt _)⟩
  | maxLineLen | graceSecs =>
      exact ⟨_, rfl, Nat.le_pred_of_lt (UInt64.toNat_lt _)⟩

/-- A configuration is what its values are. -/
theorem ext_value (h : ∀ key, config.value key = config'.value key) :
    config = config' := by
  have htext : ∀ {text text' : String},
      Toml.Value.text text = .text text' → text = text' :=
    fun heq => Toml.Value.text.inj heq
  have hnumber : ∀ {number number' : Nat},
      Toml.Value.integer number = .integer number' → number = number' :=
    fun heq => Int.ofNat.inj (Toml.Value.integer.inj heq)
  have hservice := htext (h .service)
  have hfailures := UInt32.toNat_inj.mp (hnumber (h .maxFailures))
  have hdir := htext (h .configDir)
  have hfile := htext (h .configFile)
  have hline := UInt64.toNat_inj.mp (hnumber (h .maxLineLen))
  have hgrace := UInt64.toNat_inj.mp (hnumber (h .graceSecs))
  obtain ⟨service, failures, ⟨dir⟩, ⟨file⟩, line, grace⟩ := config
  obtain ⟨service', failures', ⟨dir'⟩, ⟨file'⟩, line', grace'⟩ := config'
  cases hservice
  cases hfailures
  cases hdir
  cases hfile
  cases hline
  cases hgrace
  rfl

-- =========================================================== the document

/-- What a document says about a key. -/
def said? (table : Toml.Table) (key : Key) : Option Toml.Value :=
  match table.lookup key.sectionName with
  | some (.table entries) => entries.lookup key.name
  | _ => none

/-- The sections that are there are tables. -/
def SectionsAreTables (table : Toml.Table) : Prop :=
  ∀ (key : Key) (value : Toml.Value),
    table.lookup key.sectionName = some value →
    ∃ entries, value = .table entries

/-- What is said about each key has the right form. -/
def InForm (table : Toml.Table) : Prop :=
  ∀ (key : Key), ∀ value ∈ said? table key, key.form.Admits value

/-- The document's value at a key, or the default if it says nothing. -/
def settled (table : Toml.Table) (key : Key) : Toml.Value :=
  (said? table key).getD (default.value key)

/-- The values are the document's where it has them, and the defaults
elsewhere. -/
def Shows (table : Toml.Table) (config : Config) : Prop :=
  ∀ key, config.value key = settled table key

theorem Shows.unique (h : Shows table config) (h' : Shows table config') :
    config = config' :=
  ext_value fun key => (h key).trans (h' key).symm

theorem Shows.inForm (h : Shows table config) : InForm table := by
  intro key value hmem
  have hvalue := h key
  rw [settled, show said? table key = some value from hmem,
    Option.getD_some] at hvalue
  exact hvalue ▸ config.admits_value key

/-- A section that is a table is looked at by name and not by position. -/
theorem entry?_eq (h : SectionsAreTables table) (key : Key)
    (position : Nat) :
    entry? (table.lookup key.sectionName) position key.name
      = some (said? table key) := by
  unfold said?
  cases hlookup : table.lookup key.sectionName with
  | none => rfl
  | some value =>
      obtain ⟨entries, rfl⟩ := h key value hlookup
      rfl

theorem text?_eq_some_iff {found : Option Toml.Value}
    {default text : String} :
    text? default found = some text
      ↔ found.getD (.text default) = .text text := by
  match found with
  | none | some (.text _) | some (.integer _) | some .float
  | some (.boolean _) | some .datetime | some (.array _)
  | some (.table _) => simp [text?]

theorem natural?_eq_some_iff {found : Option Toml.Value}
    {default most number : Nat} (hdefault : default ≤ most) :
    natural? default most found = some number
      ↔ found.getD (.integer default) = .integer number ∧ number ≤ most := by
  match found with
  | some (.integer given) =>
      simp only [natural?, Option.getD_some, Toml.Value.integer.injEq]
      split
      case isTrue hrange =>
        rw [Option.some.injEq]
        omega
      case isFalse hrange =>
        refine iff_of_false nofun ?_
        omega
  | none =>
      simp only [natural?, Option.getD_none, Toml.Value.integer.injEq,
        Option.some.injEq]
      omega
  | some (.text _) | some .float | some (.boolean _) | some .datetime
  | some (.array _) | some (.table _) => simp [natural?]

/-- A table read value by value. -/
theorem ofTable?_eq_some_iff_exists (h : SectionsAreTables table) :
    ofTable? table = some config ↔
      ∃ service, settled table .service = .text service
        ∧ ∃ failures : Nat, (settled table .maxFailures = .integer failures
          ∧ failures ≤ Nat.pow 2 32 - 1)
        ∧ ∃ dir, settled table .configDir = .text dir
        ∧ ∃ file, settled table .configFile = .text file
        ∧ ∃ line : Nat, (settled table .maxLineLen = .integer line
          ∧ line ≤ Nat.pow 2 64 - 1)
        ∧ ∃ grace : Nat, (settled table .graceSecs = .integer grace
          ∧ grace ≤ Nat.pow 2 64 - 1)
        ∧ { service, maxFailures := .ofNat failures, configDir := ⟨dir⟩,
            configFile := ⟨file⟩, maxLineLen := .ofNat line,
            graceSecs := .ofNat grace } = config := by
  have hfailures : ∀ number, natural? default.maxFailures.toNat
      (Nat.pow 2 32 - 1) (said? table .maxFailures) = some number ↔ _ :=
    fun _ => natural?_eq_some_iff (by decide)
  have hline : ∀ number, natural? default.maxLineLen.toNat
      (Nat.pow 2 64 - 1) (said? table .maxLineLen) = some number ↔ _ :=
    fun _ => natural?_eq_some_iff (by decide)
  have hgrace : ∀ number, natural? default.graceSecs.toNat
      (Nat.pow 2 64 - 1) (said? table .graceSecs) = some number ↔ _ :=
    fun _ => natural?_eq_some_iff (by decide)
  unfold ofTable?
  simp only [show entry? (table.lookup "auth") 0 "service" = _
      from entry?_eq h .service 0,
    show entry? (table.lookup "auth") 1 "max_failures" = _
      from entry?_eq h .maxFailures 1,
    show entry? (table.lookup "pam") 0 "config_dir" = _
      from entry?_eq h .configDir 0,
    show entry? (table.lookup "pam") 1 "config_file" = _
      from entry?_eq h .configFile 1,
    show entry? (table.lookup "input") 0 "max_line_len" = _
      from entry?_eq h .maxLineLen 0,
    show entry? (table.lookup "shutdown") 0 "grace_secs" = _
      from entry?_eq h .graceSecs 0,
    Option.bind_eq_bind, Option.bind_some, Option.bind_eq_some_iff,
    text?_eq_some_iff, hfailures, hline, hgrace, Option.pure_def,
    Option.some.injEq]
  exact Iff.rfl

/-- A table is read exactly as what it shows. -/
theorem ofTable?_eq_some_iff (h : SectionsAreTables table) :
    ofTable? table = some config ↔ Shows table config := by
  rw [ofTable?_eq_some_iff_exists h]
  constructor
  · rintro ⟨service, hservice, failures, ⟨hfailures, hmost⟩, dir, hdir, file,
      hfile, line, ⟨hline, hlong⟩, grace, ⟨hgrace, hlate⟩, rfl⟩ key
    cases key with
    | service => exact hservice.symm
    | configDir => exact hdir.symm
    | configFile => exact hfile.symm
    | maxFailures =>
        rw [value, hfailures, UInt32.toNat_ofNat_of_lt'
          (Nat.lt_of_le_of_lt hmost (by decide))]
    | maxLineLen =>
        rw [value, hline, UInt64.toNat_ofNat_of_lt'
          (Nat.lt_of_le_of_lt hlong (by decide))]
    | graceSecs =>
        rw [value, hgrace, UInt64.toNat_ofNat_of_lt'
          (Nat.lt_of_le_of_lt hlate (by decide))]
  · intro hshows
    refine ⟨config.service, (hshows .service).symm, config.maxFailures.toNat,
      ⟨(hshows .maxFailures).symm, Nat.le_pred_of_lt (UInt32.toNat_lt _)⟩,
      config.configDir.text, (hshows .configDir).symm, config.configFile.text,
      (hshows .configFile).symm, config.maxLineLen.toNat,
      ⟨(hshows .maxLineLen).symm, Nat.le_pred_of_lt (UInt64.toNat_lt _)⟩,
      config.graceSecs.toNat,
      ⟨(hshows .graceSecs).symm, Nat.le_pred_of_lt (UInt64.toNat_lt _)⟩, ?_⟩
    rw [UInt32.ofNat_toNat, UInt64.ofNat_toNat, UInt64.ofNat_toNat]

/-- Something is shown if all that is said has the right form. -/
theorem InForm.exists_shows (h : InForm table)
    (hsections : SectionsAreTables table) :
    ∃ config, Shows table config := by
  have hadmits : ∀ key : Key, key.form.Admits (settled table key) := by
    intro key
    unfold settled
    cases hsaid : said? table key with
    | none => exact default.admits_value key
    | some value => exact h key value hsaid
  obtain ⟨service, hservice⟩ := hadmits .service
  obtain ⟨failures, hfailures⟩ := hadmits .maxFailures
  obtain ⟨dir, hdir⟩ := hadmits .configDir
  obtain ⟨file, hfile⟩ := hadmits .configFile
  obtain ⟨line, hline⟩ := hadmits .maxLineLen
  obtain ⟨grace, hgrace⟩ := hadmits .graceSecs
  exact ⟨_, (ofTable?_eq_some_iff hsections).mp
    ((ofTable?_eq_some_iff_exists hsections).mpr
      ⟨service, hservice, failures, hfailures, dir, hdir, file, hfile, line,
        hline, grace, hgrace, rfl⟩)⟩

-- ============================================================= the rules

/-- A configuration breaks a rule. -/
def Breaks (config : Config) : Violation → Prop
  | .noFailures => config.maxFailures = 0
  | .badService service =>
    service = config.service
      ∧ (config.service = "" ∨ '/' ∈ config.service.toList)
  | .noLine => config.maxLineLen = 0

/-- A configuration breaks this rule, and none that is checked before. -/
def BreaksFirst (config : Config) (violation : Violation) : Prop :=
  config.Breaks violation
    ∧ ∀ other, config.Breaks other → violation.rank ≤ other.rank

theorem isServiceName_eq_false_iff {service : String} :
    ¬ isServiceName service = true ↔ service = "" ∨ '/' ∈ service.toList := by
  rw [isServiceName, Bool.and_eq_true, decide_eq_true_iff, decide_eq_true_iff,
    not_and_or, not_not, not_not]

theorem violation?_cases (config : Config) :
    config.violation? = none ∧ (∀ violation, ¬ config.Breaks violation)
      ∨ ∃ violation, config.violation? = some violation
        ∧ config.BreaksFirst violation := by
  unfold violation?
  split
  case isTrue hfailures =>
    exact .inr ⟨.noFailures, rfl, hfailures, fun _ _ => Nat.zero_le _⟩
  case isFalse hfailures =>
    split
    case isTrue hservice =>
      refine .inr ⟨.badService config.service, rfl,
        ⟨rfl, isServiceName_eq_false_iff.mp hservice⟩, fun other hother => ?_⟩
      cases other with
      | noFailures => exact absurd hother hfailures
      | badService _ => exact Nat.le_refl _
      | noLine => exact Nat.le_succ _
    case isFalse hservice =>
      rw [isServiceName_eq_false_iff] at hservice
      split
      case isTrue hline =>
        refine .inr ⟨.noLine, rfl, hline, fun other hother => ?_⟩
        cases other with
        | noFailures => exact absurd hother hfailures
        | badService _ => exact absurd hother.2 hservice
        | noLine => exact Nat.le_refl _
      case isFalse hline =>
        refine .inl ⟨rfl, fun violation hbreaks => ?_⟩
        cases violation with
        | noFailures => exact hfailures hbreaks
        | badService _ => exact hservice hbreaks.2
        | noLine => exact hline hbreaks

/-- At most one rule is the first to be broken. -/
theorem BreaksFirst.unique {violation violation' : Violation}
    (h : config.BreaksFirst violation) (h' : config.BreaksFirst violation') :
    violation = violation' := by
  have hrank := Nat.le_antisymm (h.2 _ h'.1) (h'.2 _ h.1)
  cases violation with
  | noFailures | noLine => cases violation' <;> first | rfl | cases hrank
  | badService service =>
      cases violation' with
      | badService service' => rw [h.1.1, h'.1.1]
      | noFailures | noLine => cases hrank

theorem violation?_eq_some_iff {violation : Violation} :
    config.violation? = some violation ↔ config.BreaksFirst violation := by
  rcases config.violation?_cases with ⟨hnone, hkeeps⟩ | ⟨first, hsome, hfirst⟩
  · rw [hnone]
    exact iff_of_false nofun fun h => hkeeps _ h.1
  · rw [hsome, Option.some.injEq]
    constructor
    · rintro rfl
      exact hfirst
    · exact hfirst.unique

/-- What is valid keeps all rules. -/
theorem validate_eq_ok_iff_not_breaks :
    config.validate = .ok () ↔ ∀ violation, ¬ config.Breaks violation := by
  rw [validate_eq_ok_iff]
  rcases config.violation?_cases with ⟨hnone, hkeeps⟩ | ⟨first, hsome, hfirst⟩
  · exact iff_of_true hnone hkeeps
  · refine iff_of_false ?_ fun h => h _ hfirst.1
    rw [hsome]
    exact Option.some_ne_none _

-- ============================================================ the answer

section Answer

variable (hsections : SectionsAreTables table)

include hsections

theorem ofTable_eq_ok_iff :
    ofTable table = .ok config
      ↔ Shows table config ∧ config.validate = .ok () := by
  rw [← ofTable?_eq_some_iff hsections, validate_eq_ok_iff, ofTable]
  cases hfound : ofTable? table with
  | none => simp
  | some found =>
      simp only
      cases hviolation : found.violation? with
      | none =>
          constructor
          · rintro ⟨⟩
            exact ⟨rfl, hviolation⟩
          · rintro ⟨⟨⟩, -⟩
            rfl
      | some violation =>
          refine iff_of_false (fun h => by cases h) ?_
          rintro ⟨⟨⟩, hnone⟩
          cases hviolation.symm.trans hnone

theorem ofTable_eq_malformed_iff :
    ofTable table = .error .malformed ↔ ¬ InForm table := by
  have hform : InForm table ↔ ∃ config, ofTable? table = some config := by
    simp only [ofTable?_eq_some_iff hsections]
    exact ⟨fun h => h.exists_shows hsections, fun ⟨_, h⟩ => h.inForm⟩
  rw [hform, ofTable]
  cases hfound : ofTable? table with
  | none => simp
  | some found =>
      refine iff_of_false ?_ fun h => h ⟨found, rfl⟩
      simp only
      cases found.violation? <;> exact fun h => by cases h

theorem ofTable_eq_invalid_iff {violation : Violation} :
    ofTable table = .error (.invalid violation)
      ↔ ∃ config, Shows table config ∧ config.BreaksFirst violation := by
  simp only [← ofTable?_eq_some_iff hsections, ← violation?_eq_some_iff]
  rw [ofTable]
  cases hfound : ofTable? table with
  | none => simp
  | some found =>
      simp only
      cases hviolation : found.violation? <;> simp [hviolation]

end Answer

/-- Two documents that say the same about every key. -/
theorem ofTable_congr (hsections : SectionsAreTables table)
    (hsections' : SectionsAreTables table')
    (h : ∀ key, said? table' key = said? table key) :
    ofTable table' = ofTable table := by
  have hread : ofTable? table' = ofTable? table := by
    refine Option.ext fun config => ?_
    rw [ofTable?_eq_some_iff hsections', ofTable?_eq_some_iff hsections]
    simp only [Shows, settled, h]
  rw [ofTable, ofTable, hread]

-- ========================================================== the revisions

/-- Something is added at a key that is not known, or the entries are put
into another order. -/
inductive Rearranged {α : Type} (known : String → Prop) :
    List (String × α) → List (String × α) → Prop where
  | added (before after : List (String × α)) {key : String} (value : α) :
      ¬ known key →
      Rearranged known (before ++ after) (before ++ (key, value) :: after)
  | reordered {entries entries' : List (String × α)} :
      entries.Perm entries' → Rearranged known entries entries'

/-- The name of a section. -/
def IsSection (name : String) : Prop :=
  ∃ key : Key, key.sectionName = name

/-- A key of a section. -/
def IsKeyOf (section' name : String) : Prop :=
  ∃ key : Key, key.sectionName = section' ∧ key.name = name

/-- A change of a document that should not matter: among its sections, or
among the keys of a section. -/
inductive Revision : Toml.Table → Toml.Table → Prop where
  | sections {table table' : Toml.Table} :
      Rearranged IsSection table table' → Revision table table'
  | keys (before after : Toml.Table) {name : String}
      {entries entries' : Toml.Table} :
      Rearranged (IsKeyOf name) entries entries' →
      Revision (before ++ (name, .table entries) :: after)
        (before ++ (name, .table entries') :: after)

section Entries

variable {α : Type} {known : String → Prop}
  {entries entries' : List (String × α)} {name : String}

theorem lookup_cons_eq_ite (name : String) (entry : String × α)
    (rest : List (String × α)) :
    (entry :: rest).lookup name
      = if name = entry.1 then some entry.2 else rest.lookup name := by
  rw [List.lookup_cons]
  by_cases heq : name = entry.1
  · rw [if_pos heq, heq, BEq.rfl]
  · rw [if_neg heq, beq_eq_false_iff_ne.mpr heq]

/-- The order does not count for a key that is there once at most. -/
theorem lookup_eq_of_perm (h : entries.Perm entries')
    (honce : (entries.map Prod.fst).count name ≤ 1) :
    entries'.lookup name = entries.lookup name := by
  induction h with
  | nil => rfl
  | cons entry _ ih =>
      rw [List.map_cons, List.count_cons] at honce
      rw [lookup_cons_eq_ite, lookup_cons_eq_ite, ih (by omega)]
  | swap first second rest =>
      have hne : ¬ (name = first.1 ∧ name = second.1) := by
        rintro ⟨hfirst, hsecond⟩
        rw [List.map_cons, List.map_cons, ← hfirst, ← hsecond,
          List.count_cons_self, List.count_cons_self] at honce
        omega
      rw [lookup_cons_eq_ite, lookup_cons_eq_ite, lookup_cons_eq_ite,
        lookup_cons_eq_ite]
      split_ifs with hfirst hsecond
      · exact absurd ⟨hfirst, hsecond⟩ hne
      all_goals rfl
  | trans h _ ih ih' =>
      rw [ih' (by rwa [← (h.map _).count_eq]), ih honce]

theorem Rearranged.lookup_eq (h : Rearranged known entries entries')
    (hknown : known name) (honce : (entries.map Prod.fst).count name ≤ 1) :
    entries'.lookup name = entries.lookup name := by
  cases h with
  | @added before after other value hother =>
      have hne : name ≠ other := fun heq => hother (heq ▸ hknown)
      rw [List.lookup_append, lookup_cons_eq_ite, if_neg hne,
        List.lookup_append]
  | reordered hperm => exact lookup_eq_of_perm hperm honce

theorem Rearranged.count_eq (h : Rearranged known entries entries')
    (hknown : known name) :
    (entries'.map Prod.fst).count name
      = (entries.map Prod.fst).count name := by
  cases h with
  | @added before after other value hother =>
      have hne : other ≠ name := fun heq => hother (heq ▸ hknown)
      simp [List.count_cons_of_ne hne]
  | reordered hperm => exact ((hperm.map _).count_eq name).symm

end Entries

/-- Every key of the configuration is there once at most, and so is its
section. -/
def Once (table : Toml.Table) : Prop :=
  ∀ key : Key, (table.map Prod.fst).count key.sectionName ≤ 1
    ∧ ∀ entries, table.lookup key.sectionName = some (.table entries) →
      (entries.map Prod.fst).count key.name ≤ 1

/-- The reader refuses a text that gives one of these twice. -/
def ReadsOnce (reader : Toml.Reader) : Prop :=
  ∀ text table, reader text = some table → Once table

/-- Every document says a thing once at most. -/
theorem once_of_parse? {text : String} (h : Toml.parse? text = some table) :
    Once table := by
  have hfits := Toml.fits_of_parse? h
  have hkeys : ∀ {entries : Toml.Table} (name : String),
      (Toml.Value.table entries).Fits →
      (entries.map Prod.fst).count name ≤ 1 := by
    intro entries name hentries
    cases hentries with
    | table hnodup _ => exact List.nodup_iff_count_le_one.mp hnodup name
  exact fun key => ⟨hkeys _ hfits,
    fun entries hlookup => hkeys _ (hfits.lookup hlookup)⟩

theorem readsOnce_parse? : ReadsOnce Toml.parse? :=
  fun _ _ => once_of_parse?

/-- A revision leaves a section alone, or rearranges it. -/
theorem Revision.lookup_cases (h : Revision table table')
    (honce : Once table) (key : Key) :
    table'.lookup key.sectionName = table.lookup key.sectionName
      ∨ ∃ entries entries',
        table.lookup key.sectionName = some (.table entries)
          ∧ table'.lookup key.sectionName = some (.table entries')
          ∧ Rearranged (IsKeyOf key.sectionName) entries entries' := by
  cases h with
  | sections hrearranged =>
      exact .inl (hrearranged.lookup_eq ⟨key, rfl⟩ (honce key).1)
  | @keys before after name entries entries' hrearranged =>
      rw [List.lookup_append, List.lookup_append, lookup_cons_eq_ite,
        lookup_cons_eq_ite]
      cases before.lookup key.sectionName with
      | some value => exact .inl rfl
      | none =>
          by_cases heq : key.sectionName = name
          · subst heq
            exact .inr ⟨entries, entries', by simp, by simp, hrearranged⟩
          · left
            rw [if_neg heq, if_neg heq]

theorem Revision.said?_eq (h : Revision table table') (honce : Once table)
    (key : Key) : said? table' key = said? table key := by
  unfold said?
  rcases h.lookup_cases honce key
    with hsame | ⟨entries, entries', hbefore, hafter, hrearranged⟩
  · rw [hsame]
  · rw [hbefore, hafter]
    exact hrearranged.lookup_eq ⟨key, rfl, rfl⟩
      ((honce key).2 entries hbefore)

theorem Revision.sectionsAreTables (h : Revision table table')
    (honce : Once table) (hsections : SectionsAreTables table) :
    SectionsAreTables table' := by
  intro key value hlookup
  rcases h.lookup_cases honce key
    with hsame | ⟨entries, entries', hbefore, hafter, hrearranged⟩
  · exact hsections key value (hsame ▸ hlookup)
  · cases hafter.symm.trans hlookup
    exact ⟨entries', rfl⟩

theorem Revision.once (h : Revision table table') (honce : Once table) :
    Once table' := by
  intro key
  constructor
  · cases h with
    | sections hrearranged =>
        rw [hrearranged.count_eq ⟨key, rfl⟩]
        exact (honce key).1
    | keys before after hrearranged =>
        have hbefore := (honce key).1
        simpa using hbefore
  · intro entries hlookup
    rcases h.lookup_cases honce key
      with hsame | ⟨inner, inner', hbefore, hafter, hrearranged⟩
    · exact (honce key).2 entries (hsame ▸ hlookup)
    · cases hafter.symm.trans hlookup
      rw [hrearranged.count_eq ⟨key, rfl, rfl⟩]
      exact (honce key).2 inner hbefore

/-- Any number of revisions. -/
theorem said?_eq_of_revisions
    (h : Relation.ReflTransGen Revision table table') (honce : Once table)
    (hsections : SectionsAreTables table) :
    Once table' ∧ SectionsAreTables table'
      ∧ ∀ key, said? table' key = said? table key := by
  induction h with
  | refl => exact ⟨honce, hsections, fun _ => rfl⟩
  | tail _ hrevision ih =>
      obtain ⟨honce', hsections', hsame⟩ := ih
      exact ⟨hrevision.once honce',
        hrevision.sectionsAreTables honce' hsections',
        fun key => (hrevision.said?_eq honce' key).trans (hsame key)⟩

-- ============================================================ the result

theorem loadFrom_eq {reader : Toml.Reader} {tree : FileTree} {path : Path}
    (h : tree.Holds reader path table) :
    loadFrom tree path reader = ofTable table := by
  obtain ⟨text, hread, htable⟩ := h
  simp only [loadFrom, hread, ofText, htable]

/-- What is loaded from a document with this table, and what is loaded from
others like it. -/
structure Overlay (reader : Toml.Reader) (table : Toml.Table)
    (answer : Except ConfigError Config) : Prop where
  succeeds : (∃ config, answer = .ok config) ↔ InForm table
    ∧ ∀ config, Shows table config → ∀ violation, ¬ config.Breaks violation
  ok : ∀ config, answer = .ok config ↔
    Shows table config ∧ config.validate = .ok ()
  malformed : answer = .error .malformed ↔ ¬ InForm table
  -- Of several rules that are broken the first is reported.
  invalid : ∀ violation, answer = .error (.invalid violation) ↔
    ∃ config, Shows table config ∧ config.BreaksFirst violation
  readable : ∀ cause, answer ≠ .error (.unreadable cause)
  -- A value depends on nothing but what is said about its key.
  independent : ∀ {tree path table' config config'} (key : Key),
    FileTree.Holds reader tree path table' → SectionsAreTables table' →
    said? table' key = said? table key → answer = .ok config →
    loadFrom tree path reader = .ok config' →
    config'.value key = config.value key
  -- Unknown keys and sections do not count, nor does the order.
  stable : ∀ {tree path table'}, FileTree.Holds reader tree path table' →
    Relation.ReflTransGen Revision table table' →
    loadFrom tree path reader = answer

/-- Loading a document whose sections, where they are there, are tables, with
a reader that refuses what is given twice.

It succeeds exactly if all that is said about the six keys has the right form
and the values keep the rules, and then each value is the document's or the
default. Otherwise the document counts as malformed if something has a wrong
form, and else the first rule that is broken is reported. -/
theorem overlay_loadFrom {reader : Toml.Reader} {tree : FileTree}
    {path : Path} (hreader : ReadsOnce reader)
    (h : tree.Holds reader path table)
    (hsections : SectionsAreTables table) :
    Overlay reader table (loadFrom tree path reader) := by
  rw [loadFrom_eq h]
  have hok : ∀ config, ofTable table = .ok config
      ↔ Shows table config ∧ config.validate = .ok () :=
    fun _ => ofTable_eq_ok_iff hsections
  refine ⟨?_, hok, ofTable_eq_malformed_iff hsections,
    fun _ => ofTable_eq_invalid_iff hsections, ?_, ?_, ?_⟩
  · constructor
    · rintro ⟨config, hconfig⟩
      obtain ⟨hshows, hvalid⟩ := (hok config).mp hconfig
      rw [validate_eq_ok_iff_not_breaks] at hvalid
      exact ⟨hshows.inForm, fun other hother => hshows.unique hother ▸ hvalid⟩
    · rintro ⟨hform, hkeeps⟩
      obtain ⟨config, hshows⟩ := hform.exists_shows hsections
      exact ⟨config, (hok config).mpr ⟨hshows,
        validate_eq_ok_iff_not_breaks.mpr (hkeeps config hshows)⟩⟩
  · intro cause
    unfold ofTable
    cases ofTable? table with
    | none => exact nofun
    | some config =>
        simp only
        cases config.violation? <;> exact nofun
  · intro tree' path' table' config config' key h' hsections' hsame hconfig
      hconfig'
    rw [loadFrom_eq h', ofTable_eq_ok_iff hsections'] at hconfig'
    rw [hconfig'.1 key, ((hok config).mp hconfig).1 key, settled, settled,
      hsame]
  · intro tree' path' table' h' hrevisions
    obtain ⟨text, -, htable⟩ := h
    obtain ⟨-, hsections', hsame⟩ := said?_eq_of_revisions hrevisions
      (hreader text table htable) hsections
    rw [loadFrom_eq h']
    exact ofTable_congr hsections hsections' hsame

/-- A document in which one section names one of its two keys, and two
sections are missing. -/
def sparseTable : Toml.Table :=
  [("auth", .table [("service", .text "door")]),
    ("input", .table [("max_line_len", .integer 512)])]

/-- The sections have changed places, and a section and a key are there
that nobody knows. -/
def revisedTable : Toml.Table :=
  [("input", .table [("max_line_len", .integer 512)]),
    ("theme", .table [("dark", .boolean true)]),
    ("auth", .table [("hint", .integer 1), ("service", .text "door")])]

theorem revisions_sparseTable :
    Relation.ReflTransGen Revision sparseTable revisedTable := by
  have hswapped : Revision sparseTable sparseTable.reverse :=
    .sections (.reordered (.swap _ _ _))
  have hsection : Revision sparseTable.reverse
      (sparseTable.reverse.take 1
        ++ ("theme", .table [("dark", .boolean true)])
          :: sparseTable.reverse.drop 1) := by
    refine .sections (.added (sparseTable.reverse.take 1)
      (sparseTable.reverse.drop 1) _ ?_)
    rintro ⟨key, heq⟩
    cases key <;> contradiction
  have hkey : Revision (sparseTable.reverse.take 1
        ++ ("theme", .table [("dark", .boolean true)])
          :: sparseTable.reverse.drop 1) revisedTable := by
    have hadded : Rearranged (IsKeyOf "auth")
        [("service", Toml.Value.text "door")]
        [("hint", .integer 1), ("service", .text "door")] := by
      refine .added [] _ _ ?_
      rintro ⟨key, -, heq⟩
      cases key <;> contradiction
    exact .keys (revisedTable.take 2) [] hadded
  exact .tail (.tail (.single hswapped) hsection) hkey

/-- Two documents with these tables. -/
theorem overlay_loadFrom_sparse :
    ∃ (tree tree' : FileTree) (path : Path),
      tree.Holds Toml.parse? path sparseTable
      ∧ SectionsAreTables sparseTable
      ∧ tree'.Holds Toml.parse? path revisedTable
      ∧ Overlay Toml.parse? sparseTable (loadFrom tree path)
      ∧ loadFrom tree path = .ok { service := "door", maxLineLen := 512 }
      ∧ loadFrom tree' path
        = .ok { service := "door", maxLineLen := 512 } := by
  obtain ⟨tree, hholds, hload⟩ : ∃ tree : FileTree,
      tree.Holds Toml.parse? ⟨"/c"⟩ sparseTable ∧ loadFrom tree ⟨"/c"⟩
        = .ok { service := "door", maxLineLen := 512 } :=
    ⟨(FileTree.empty ⟨"/"⟩).withFile ⟨"/c"⟩ (Bytes.ofText
        "[auth]\nservice = \"door\"\n[input]\nmax_line_len = 512"),
      FileTree.holds_iff.mpr (by decide +kernel), by decide +kernel⟩
  obtain ⟨tree', hholds'⟩ : ∃ tree : FileTree,
      tree.Holds Toml.parse? ⟨"/c"⟩ revisedTable :=
    ⟨(FileTree.empty ⟨"/"⟩).withFile ⟨"/c"⟩ (Bytes.ofText
        ("[input]\nmax_line_len = 512\n[theme]\ndark = true\n"
          ++ "[auth]\nhint = 1\nservice = \"door\"")),
      FileTree.holds_iff.mpr (by decide +kernel)⟩
  have hsections : SectionsAreTables sparseTable := by
    intro key value hlookup
    rcases List.mem_pair.mp (Toml.mem_of_lookup hlookup) with heq | heq <;>
      exact ⟨_, congrArg Prod.snd heq⟩
  have hoverlay := overlay_loadFrom readsOnce_parse? hholds hsections
  exact ⟨tree, tree', ⟨"/c"⟩, hholds, hsections, hholds', hoverlay, hload,
    (hoverlay.stable hholds' revisions_sparseTable).trans hload⟩

end Config

end ScreenUnlock
