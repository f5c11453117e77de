/-
Which file configures the helper, and that nothing else does.

What is found at a path, whether anything is and what its text is, is all
that is asked of the files (`FileTree.Agree`). So two processes that choose
the same path and find the same there are configured alike. The path is
fixed for a privileged process, and for one that is told a path and is not
privileged: neither of them depends on its environment or on any other file
(`load_of_source`). Nothing of this depends on which texts are documents, so
all of it holds for every reader of documents.

What is loaded from the chosen path is `Loaded`, case by case. The default
comes from nothing and a configuration from a document that is in order;
everything else that may stand there is an error.
-/
import ScreenUnlock.Config.Load

namespace ScreenUnlock

-- ========================================================= what is found

/-- Two processes find the same at a path: the same file, or one that
cannot be read for the same cause, or each a directory, or nothing. -/
inductive FileTree.Agree (tree tree' : FileTree) (path : Path) : Prop where
  | same : tree.find? path = tree'.find? path → Agree tree tree' path
  -- What is in a directory does not count.
  | directories {entries entries' : List (String × FileNode)} :
      tree.find? path = some (.directory entries) →
      tree'.find? path = some (.directory entries') → Agree tree tree' path

/-- What is in a file. -/
def FileNode.content? : FileNode → Option Bytes
  | .file content => some content
  | _ => none

variable {tree tree' : FileTree} {path : Path}

/-- Two readable files are the same if they hold the same. -/
theorem FileTree.Agree.of_content? (content : Bytes)
    (h : (tree.find? path).bind FileNode.content? = some content)
    (h' : (tree'.find? path).bind FileNode.content? = some content) :
    tree.Agree tree' path := by
  have hfile : ∀ {tree : FileTree},
      (tree.find? path).bind FileNode.content? = some content →
      tree.find? path = some (.file content) := by
    intro tree hcontent
    obtain ⟨node, hfound, hnode⟩ := Option.bind_eq_some_iff.mp hcontent
    cases node <;> cases hnode
    exact hfound
  exact .same ((hfile h).trans (hfile h').symm)

theorem FileTree.Agree.contains_eq (h : tree.Agree tree' path) :
    tree.contains path = tree'.contains path := by
  unfold FileTree.contains
  cases h with
  | same heq => rw [heq]
  | directories hfound hfound' =>
      rw [hfound, hfound', Option.isSome_some, Option.isSome_some]

theorem FileTree.Agree.readText_eq (h : tree.Agree tree' path) :
    tree.readText path = tree'.readText path := by
  unfold FileTree.readText
  cases h with
  | same heq => rw [heq]
  | directories hfound hfound' => rw [hfound, hfound']

namespace Config

-- ======================================================== what is loaded

/-- What is loaded from the text of a document. -/
inductive Stated (reader : Toml.Reader) (text : String) :
    Except ConfigError Config → Prop where
  -- The text is no document, or a value in it has a wrong form.
  | malformed : (reader text).bind ofTable? = none →
      Stated reader text (.error .malformed)
  | invalid {config : Config} {violation : Violation} :
      (reader text).bind ofTable? = some config →
      config.violation? = some violation →
      Stated reader text (.error (.invalid violation))
  | valid {config : Config} :
      (reader text).bind ofTable? = some config →
      config.violation? = none → Stated reader text (.ok config)

/-- What is loaded from what stands at a path. -/
inductive Loaded (reader : Toml.Reader) :
    Option FileNode → Except ConfigError Config → Prop where
  | absent : Loaded reader none (.ok default)
  | directory {entries : List (String × FileNode)} :
      Loaded reader (some (.directory entries))
        (.error (.unreadable .isDirectory))
  | unreadable {cause : IoError} :
      Loaded reader (some (.unreadable cause)) (.error (.unreadable cause))
  | noText {content : Bytes} : Bytes.toText? content = none →
      Loaded reader (some (.file content)) (.error (.unreadable .invalidText))
  | document {content : Bytes} {text : String}
      {answer : Except ConfigError Config} :
      Bytes.toText? content = some text → Stated reader text answer →
      Loaded reader (some (.file content)) answer

variable {reader : Toml.Reader} {dirs dirs' : UserDirs}
  {explicit explicit' : Option Path} {privileged privileged' : Bool}
  {found : Option FileNode} {answer : Except ConfigError Config}
  {config : Config}

theorem stated_ofText (reader : Toml.Reader) (text : String) :
    Stated reader text (ofText text reader) := by
  unfold ofText
  cases htable : reader text with
  | none => exact .malformed (by rw [htable]; rfl)
  | some table =>
      have hbind : (reader text).bind ofTable? = ofTable? table := by
        rw [htable, Option.bind_some]
      simp only [ofTable]
      cases hconfig : ofTable? table with
      | none => exact .malformed (hbind.trans hconfig)
      | some config =>
          simp only
          cases hviolation : config.violation? with
          | none => exact .valid (hbind.trans hconfig) hviolation
          | some violation => exact .invalid (hbind.trans hconfig) hviolation

theorem loaded_loadIfPresent (reader : Toml.Reader) (tree : FileTree)
    (path : Path) :
    Loaded reader (tree.find? path) (loadIfPresent tree path reader) := by
  unfold loadIfPresent FileTree.contains loadFrom FileTree.readText
  cases tree.find? path with
  | none => exact .absent
  | some node =>
      cases node with
      | directory entries => exact .directory
      | unreadable cause => exact .unreadable
      | file content =>
          simp only [Option.isSome_some, if_true]
          cases htext : Bytes.toText? content with
          | none => exact .noText htext
          | some text => exact .document htext (stated_ofText reader text)

theorem validate_eq_ok_iff :
    config.validate = .ok () ↔ config.violation? = none := by
  unfold validate
  cases config.violation? with
  | none => exact iff_of_true rfl rfl
  | some violation => exact iff_of_false (fun h => by cases h) nofun

/-- What is loaded can be used. -/
theorem Loaded.validate (h : Loaded reader found answer)
    (hok : answer = .ok config) :
    config.validate = .ok () := by
  cases h with
  | absent =>
      cases hok
      exact validate_eq_ok_iff.mpr (by decide)
  | document _ hstated =>
      cases hstated with
      | valid _ hviolation =>
          cases hok
          exact validate_eq_ok_iff.mpr hviolation
      | malformed _ | invalid _ _ => cases hok
  | directory | unreadable | noText _ => cases hok

-- =========================================================== the two runs

theorem loadIfPresent_congr (h : tree.Agree tree' path) :
    loadIfPresent tree path reader = loadIfPresent tree' path reader := by
  unfold loadIfPresent loadFrom
  rw [h.contains_eq, h.readText_eq]

/-- Two processes that choose the same path and find the same there. -/
theorem load_congr
    (hpath : resolvePath tree dirs explicit privileged = path)
    (hpath' : resolvePath tree' dirs' explicit' privileged' = path)
    (h : tree.Agree tree' path) :
    load tree dirs explicit privileged reader
      = load tree' dirs' explicit' privileged' reader := by
  unfold load
  rw [hpath, hpath']
  exact loadIfPresent_congr h

/-- What follows from how a process is started. -/
structure Sourced (reader : Toml.Reader) (tree : FileTree) (dirs : UserDirs)
    (explicit : Option Path) (privileged : Bool)
    (answer : Except ConfigError Config) : Prop where
  -- It is what is loaded from what stands at the chosen path.
  loaded : Loaded reader
    (tree.find? (resolvePath tree dirs explicit privileged)) answer
  -- If anything stands there, nothing else is looked at.
  present :
    tree.contains (resolvePath tree dirs explicit privileged) = true →
    answer = loadFrom tree (resolvePath tree dirs explicit privileged) reader
  -- It can be used.
  valid : ∀ config, answer = .ok config → config.validate = .ok ()

theorem sourced_load (reader : Toml.Reader) (tree : FileTree)
    (dirs : UserDirs) (explicit : Option Path) (privileged : Bool) :
    Sourced reader tree dirs explicit privileged
      (load tree dirs explicit privileged reader) := by
  have hloaded := loaded_loadIfPresent reader tree
    (resolvePath tree dirs explicit privileged)
  refine ⟨hloaded, fun hcontains => ?_, fun config => hloaded.validate⟩
  unfold load loadIfPresent
  rw [if_pos hcontains]

/-- The source of the configuration, for all files, environments and
arguments, and every reader of documents.

A privileged process is configured by the system file, whatever else there
is. One that is not privileged and is told a path is configured by the file
there, whatever else there is, and by the default if nothing is there. In
every case it is the file at the chosen path, or an error. -/
theorem load_of_source (reader : Toml.Reader) :
    (∀ tree tree' dirs dirs' explicit explicit',
      tree.Agree tree' systemPath →
      load tree dirs explicit true reader
        = load tree' dirs' explicit' true reader)
    ∧ (∀ tree tree' dirs dirs' path, tree.Agree tree' path →
      load tree dirs (some path) false reader
        = load tree' dirs' (some path) false reader)
    ∧ (∀ tree dirs path, tree.contains path = false →
      load tree dirs (some path) false reader = .ok default)
    ∧ ∀ tree dirs explicit privileged,
      Sourced reader tree dirs explicit privileged
        (load tree dirs explicit privileged reader) := by
  refine ⟨?_, ?_, ?_, sourced_load reader⟩
  · intro tree tree' dirs dirs' explicit explicit' hagree
    exact load_congr rfl rfl hagree
  · intro tree tree' dirs dirs' path hagree
    exact load_congr rfl rfl hagree
  · intro tree dirs path hcontains
    show loadIfPresent tree path reader = _
    rw [loadIfPresent, hcontains, if_neg Bool.false_ne_true]

/-- A file that the invoker has put somewhere, and asks for, configures a
process without privileges only. -/
theorem load_of_source_planted_file :
    ∃ tree tree' : FileTree, tree.Agree tree' systemPath
      ∧ load tree ⟨some "/home", none, none⟩ (some ⟨"/home/own"⟩) true
        = load tree' ⟨none, none, none⟩ none true
      ∧ (load tree ⟨some "/home", none, none⟩ (some ⟨"/home/own"⟩)
        true).toOption = some { maxFailures := 2 }
      ∧ (load tree ⟨some "/home", none, none⟩ (some ⟨"/home/own"⟩)
        false).toOption = some { maxFailures := 9 } := by
  have hagree : (((FileTree.empty ⟨"/"⟩).withFile systemPath
      (Bytes.ofText "auth.max_failures = 2")).withFile ⟨"/home/own"⟩
      (Bytes.ofText "auth.max_failures = 9")).Agree
        ((FileTree.empty ⟨"/"⟩).withFile systemPath
          (Bytes.ofText "auth.max_failures = 2")) systemPath :=
    .of_content? (Bytes.ofText "auth.max_failures = 2")
      (by decide +kernel) (by decide +kernel)
  exact ⟨_, _, hagree, (load_of_source Toml.parse?).1 _ _ _ _ _ _ hagree,
    by decide +kernel, by decide +kernel⟩

end Config

end ScreenUnlock
