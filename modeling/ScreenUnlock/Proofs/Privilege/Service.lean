/-
Where a service is found.

The name of a service has no slash, so behind the directory of services it
is one part more (`Path.exists_parts_join`). Unless it is a single dot or
two dots this part is a name, and what is found has this name in that
directory, wherever the directory's own path leads. The two names of dots
pass the check of the configuration as well. They lead to the directory
itself and to the one above it; both are always there, so the helper takes
one of them for the service (`find_service_above`).
-/
import ScreenUnlock.Privilege.Service
import ScreenUnlock.Proofs.Config.Source

namespace ScreenUnlock

-- =============================================================== the parts

namespace Path

variable {path : Path} {name : String} {chars : List Char}

theorem split_ne_nil (chars : List Char) : split chars ≠ [] := by
  cases chars with
  | nil => simp [split]
  | cons c rest =>
      unfold split
      split
      case isTrue => simp
      case isFalse => split <;> simp

theorem split_of_not_mem (h : '/' ∉ chars) : split chars = [chars] := by
  induction chars with
  | nil => rfl
  | cons c rest ih =>
      rw [List.mem_cons, not_or] at h
      rw [split, if_neg (Ne.symm h.1), ih h.2]

theorem split_append_slash (chars more : List Char) :
    split (chars ++ '/' :: more) = split chars ++ split more := by
  induction chars with
  | nil => rfl
  | cons c rest ih =>
      rw [List.cons_append, split, split, ih]
      split
      case isTrue => rw [List.cons_append]
      case isFalse =>
        cases hrest : split rest with
        | nil => exact absurd hrest (split_ne_nil rest)
        | cons first others => rfl

theorem head?_ne_slash (h : '/' ∉ name.toList) :
    name.toList.head? ≠ some '/' :=
  fun hhead => h (List.mem_of_head? hhead)

/-- A name is the last part of the path that leads to it. An empty part
gives way to it. -/
theorem exists_parts_join (path : Path) (h : '/' ∉ name.toList) :
    ∃ front, (path.join name).parts = front ++ [name]
      ∧ (path.parts = front ∨ path.parts = front ++ [""]) := by
  unfold join parts
  rw [if_neg (head?_ne_slash h)]
  have hname : (split name.toList).map String.ofList = [name] := by
    rw [split_of_not_mem h, List.map_singleton, String.ofList_toList]
  split
  case isTrue hend =>
    rcases hend with hnil | hslash
    · refine ⟨[], ?_, .inr ?_⟩
      · rw [String.toList_append, hnil, List.nil_append, hname,
          List.nil_append]
      · rw [hnil]
        rfl
    · obtain ⟨chars, hchars⟩ := List.getLast?_eq_some_iff.mp hslash
      refine ⟨(split chars).map String.ofList, ?_, .inr ?_⟩
      · rw [String.toList_append, hchars, List.append_assoc,
          List.singleton_append, split_append_slash, List.map_append, hname]
      · rw [hchars, split_append_slash, List.map_append]
        rfl
  case isFalse =>
    refine ⟨(split path.text.toList).map String.ofList, ?_, .inl rfl⟩
    rw [String.toList_append, String.toList_append, List.append_assoc,
      show "/".toList = ['/'] from rfl, List.singleton_append,
      split_append_slash, List.map_append, hname]

/-- A name behind a path does not change where the path begins. -/
theorem isAbsolute_join (path : Path) (h : '/' ∉ name.toList) :
    (path.join name).isAbsolute = path.isAbsolute := by
  unfold join isAbsolute
  rw [if_neg (head?_ne_slash h)]
  cases htext : path.text.toList with
  | nil =>
      rw [if_pos (.inl rfl), String.toList_append, htext, List.nil_append,
        decide_eq_decide]
      exact iff_of_false (head?_ne_slash h) (by simp)
  | cons c rest =>
      split
      · rw [String.toList_append, htext]
        rfl
      · rw [String.toList_append, String.toList_append, htext]
        rfl

end Path

namespace FileTree

variable {tree : FileTree} {path : Path} {name : String}

-- =============================================================== by name

/-- The names that a path leads to, with its dots resolved. -/
def place (tree : FileTree) (path : Path) : List String :=
  path.components.foldl after tree.workingDirectory

/-- A path leads from part to part. -/
theorem place_eq (tree : FileTree) (path : Path) :
    tree.place path = (path.parts.filterMap Path.component?).foldl after
      (if path.isAbsolute then [] else tree.workingDirectory) := by
  unfold place Path.components
  rw [List.foldl_append]
  split
  · rfl
  · split <;> rfl

/-- One part more. -/
theorem place_join (tree : FileTree) (path : Path)
    (h : '/' ∉ name.toList) :
    tree.place (path.join name)
      = ((Path.component? name).elim (tree.place path)
        (after (tree.place path))) := by
  obtain ⟨front, hjoin, hparts⟩ := path.exists_parts_join h
  have hsame : path.parts.filterMap Path.component?
      = front.filterMap Path.component? := by
    rcases hparts with hparts | hparts
    · rw [hparts]
    · rw [hparts, List.filterMap_append,
        show [""].filterMap Path.component? = [] from rfl, List.append_nil]
  rw [place_eq, place_eq, Path.isAbsolute_join path h, hjoin, hsame,
    List.filterMap_append, List.foldl_append]
  cases hname : Path.component? name with
  | none =>
      rw [List.filterMap_cons_none hname]
      rfl
  | some component =>
      rw [List.filterMap_cons_some hname]
      rfl

-- ============================================================ in the tree

variable {node found : FileNode} {above : List FileNode}
  {entries : List (String × FileNode)} {parts : List String}

/-- Where one part of a path leads, from a node and the directories above
it. -/
def enter (node : FileNode) (above : List FileNode) (part : String) :
    Option (FileNode × List FileNode) :=
  match node with
  | .directory entries =>
    if part = "" ∨ part = "." then some (node, above)
    else if part = ".." then some (above.headD node, above.tail)
    else if 255 < (Bytes.ofText part).length then none
    else (entries.lookup part).map (·, node :: above)
  | _ => none

/-- A path is followed part by part. -/
theorem follow_cons (node : FileNode) (above : List FileNode) (part : String)
    (parts : List String) :
    follow node above (part :: parts)
      = (enter node above part).bind fun next =>
        follow next.1 next.2 parts := by
  cases node with
  | file content => rfl
  | unreadable cause => rfl
  | directory entries =>
      simp only [follow, enter]
      split
      case isTrue => rw [Option.bind_some]
      case isFalse =>
        split
        case isTrue => cases above <;> rw [Option.bind_some] <;> rfl
        case isFalse =>
          split
          case isTrue => rw [Option.bind_none]
          case isFalse => cases entries.lookup part <;> rfl

/-- What a name stands for in the directory that the parts before it lead
to. -/
theorem follow_concat (hempty : name ≠ "") (hdot : name ≠ ".")
    (hdots : name ≠ "..")
    (h : follow node above (parts ++ [name]) = some found) :
    ∃ entries, follow node above parts = some (.directory entries)
      ∧ entries.lookup name = some found := by
  induction parts generalizing node above with
  | nil =>
      rw [List.nil_append, follow_cons] at h
      obtain ⟨⟨next, others⟩, henter, hfound⟩ := Option.bind_eq_some_iff.mp h
      cases node with
      | file content => cases henter
      | unreadable cause => cases henter
      | directory entries =>
          rw [enter, if_neg (not_or.mpr ⟨hempty, hdot⟩), if_neg hdots]
            at henter
          split at henter
          case isTrue => cases henter
          case isFalse =>
            obtain ⟨node, hlookup, heq⟩ := Option.map_eq_some_iff.mp henter
            cases heq
            cases hfound
            exact ⟨entries, rfl, hlookup⟩
  | cons part parts ih =>
      rw [List.cons_append, follow_cons] at h
      obtain ⟨⟨next, others⟩, henter, hrest⟩ := Option.bind_eq_some_iff.mp h
      rw [follow_cons, henter]
      exact ih hrest

/-- An empty part says nothing in a directory. -/
theorem follow_concat_empty :
    follow node above (parts ++ [""]) = some (.directory entries)
      ↔ follow node above parts = some (.directory entries) := by
  induction parts generalizing node above with
  | nil =>
      cases node with
      | file content | unreadable cause => simp [follow]
      | directory entries => exact Iff.rfl
  | cons part parts ih =>
      rw [List.cons_append, follow_cons, follow_cons]
      cases enter node above part with
      | none => exact Iff.rfl
      | some next => exact ih

/-- What the parts of a path lead to, whether it can be followed or not. -/
def reach (tree : FileTree) (path : Path) : Option FileNode :=
  follow tree.root []
    ((if path.isAbsolute then [] else tree.workingDirectory) ++ path.parts)

/-- A path that can be followed: it is not empty, has no NUL and is not too
long. -/
theorem find?_eq_some_iff : tree.find? path = some found
    ↔ path.text ≠ "" ∧ '\x00' ∉ path.text.toList
      ∧ (Bytes.ofText path.text).length ≤ pathLimit
      ∧ tree.reach path = some found := by
  unfold find? reach
  split
  case isTrue hbad =>
    refine iff_of_false (fun h => by cases h) ?_
    rintro ⟨htext, hnul, hlen, -⟩
    rcases hbad with hbad | hbad | hbad
    · exact htext hbad
    · exact hnul hbad
    · omega
  case isFalse hgood =>
    rw [not_or, not_or, Nat.not_lt] at hgood
    obtain ⟨htext, hnul, hlen⟩ := hgood
    split <;> exact ⟨fun h => ⟨htext, hnul, hlen, h⟩, fun h => h.2.2.2⟩

/-- What is in the directory that a path leads to. An empty path leads to
the working directory. -/
def entries? (tree : FileTree) (path : Path) :
    Option (List (String × FileNode)) :=
  match if path.text = "" then follow tree.root [] tree.workingDirectory
    else tree.find? path with
  | some (.directory entries) => some entries
  | _ => none

/-- A path in front of a name can be followed if it is not empty. -/
theorem find?_of_join (hslash : '/' ∉ name.toList)
    (h : tree.find? (path.join name) = some found) (htext : path.text ≠ "")
    {node : FileNode} (hreach : tree.reach path = some node) :
    tree.find? path = some node := by
  obtain ⟨-, hnul, hlen, -⟩ := find?_eq_some_iff.mp h
  obtain ⟨more, hmore⟩ : ∃ more, (path.join name).text
      = path.text ++ more := by
    unfold Path.join
    rw [if_neg (Path.head?_ne_slash hslash)]
    split
    · exact ⟨name, rfl⟩
    · exact ⟨"/" ++ name, String.append_assoc⟩
  rw [hmore, String.toList_append] at hnul
  rw [hmore, Bytes.ofText, String.toList_append, List.flatMap_append,
    List.length_append] at hlen
  have hshort : (Bytes.ofText path.text).length ≤ pathLimit := by
    unfold Bytes.ofText
    omega
  exact find?_eq_some_iff.mpr ⟨htext,
    fun hmem => hnul (List.mem_append_left _ hmem), hshort, hreach⟩

/-- What is found at a name behind a path is what the directory there has
under this name. -/
theorem entries?_of_join (hslash : '/' ∉ name.toList) (hempty : name ≠ "")
    (hdot : name ≠ ".") (hdots : name ≠ "..")
    (h : tree.find? (path.join name) = some found) :
    ∃ entries, tree.entries? path = some entries
      ∧ entries.lookup name = some found := by
  obtain ⟨-, -, -, hreach⟩ := find?_eq_some_iff.mp h
  obtain ⟨front, hjoin, hparts⟩ := path.exists_parts_join hslash
  unfold reach at hreach
  rw [Path.isAbsolute_join path hslash, hjoin, ← List.append_assoc] at hreach
  obtain ⟨entries, hfollow, hlookup⟩ :=
    follow_concat hempty hdot hdots hreach
  have hdirectory : tree.reach path = some (.directory entries) := by
    unfold reach
    rcases hparts with hparts | hparts
    · rw [hparts]
      exact hfollow
    · rw [hparts, ← List.append_assoc, follow_concat_empty]
      exact hfollow
  refine ⟨entries, ?_, hlookup⟩
  unfold entries?
  by_cases htext : path.text = ""
  · have hpath : path = ⟨""⟩ := by
      cases path
      cases htext
      rfl
    rw [hpath] at hdirectory
    have hworking : follow tree.root [] tree.workingDirectory
        = some (.directory entries) := follow_concat_empty.mp hdirectory
    rw [if_pos htext, hworking]
  · rw [if_neg htext, find?_of_join hslash h htext hdirectory]

end FileTree

/-- What the check of a configuration says of the service. -/
theorem Config.isServiceName_of_validate {config : Config}
    (h : config.validate = .ok ()) :
    config.service ≠ "" ∧ '/' ∉ config.service.toList := by
  rw [validate_eq_ok_iff, violation?] at h
  split at h
  case isTrue => cases h
  case isFalse =>
    split at h
    case isTrue => cases h
    case isFalse hname =>
      rw [Decidable.not_not, isServiceName, Bool.and_eq_true,
        decide_eq_true_eq, decide_eq_true_eq] at hname
      exact hname

namespace Registration

variable {tree : FileTree} {config : Config} {path : Path}

/-- A service that is found is one behind the directory of services. -/
theorem find_service_inv (h : find tree config = .service path) :
    path = config.configDir.join config.service
      ∧ ∃ node, tree.find? (config.configDir.join config.service)
        = some node := by
  unfold find at h
  simp only at h
  split at h
  case isTrue hcontains =>
    cases h
    exact ⟨rfl, Option.isSome_iff_exists.mp hcontains⟩
  case isFalse => split at h <;> cases h

/-- A service's path leads directly into the directory of services: to the
entry with the name of the service. -/
structure Inside (tree : FileTree) (config : Config) (path : Path) :
    Prop where
  -- With its dots resolved the path is the directory's and this name.
  place : tree.place path
    = tree.place config.configDir ++ [config.service]
  -- In the tree the directory is there, and has what the path leads to.
  entry : ∃ entries node, tree.entries? config.configDir = some entries
    ∧ entries.lookup config.service = some node
    ∧ tree.find? path = some node

/-- The service is found in the directory of services or not at all, for
every valid configuration and whatever the files are, unless its name is one
of dots. -/
theorem find_inside_iff (hvalid : config.validate = .ok ())
    (hfind : find tree config = .service path) :
    Inside tree config path
      ↔ config.service ≠ "." ∧ config.service ≠ ".." := by
  obtain ⟨hempty, hslash⟩ := Config.isServiceName_of_validate hvalid
  obtain ⟨rfl, node, hfound⟩ := find_service_inv hfind
  have hplace := tree.place_join config.configDir hslash
  constructor
  · rintro ⟨hinside, -⟩
    rw [hplace] at hinside
    constructor
    · intro hdot
      rw [hdot] at hinside
      have := congrArg List.length hinside
      simp [Path.component?] at this
    · intro hdots
      rw [hdots] at hinside
      have := congrArg List.length hinside
      simp [Path.component?, FileTree.after] at this
  · rintro ⟨hdot, hdots⟩
    obtain ⟨entries, hentries, hlookup⟩ :=
      FileTree.entries?_of_join hslash hempty hdot hdots hfound
    refine ⟨?_, entries, node, hentries, hlookup, hfound⟩
    rw [hplace, Path.component?, if_neg (not_or.mpr ⟨hempty, hdot⟩),
      if_neg hdots]
    rfl

/-- The usual service in the usual directory. -/
theorem find_inside_iff_usual :
    ∃ tree : FileTree, ({} : Config).validate = .ok ()
      ∧ find tree {} = .service ⟨"/etc/pam.d/lock-auth"⟩
      ∧ Inside tree {} ⟨"/etc/pam.d/lock-auth"⟩ := by
  have hvalid : ({} : Config).validate = .ok () :=
    Config.validate_eq_ok_iff.mpr (by decide)
  have hfind : find ((FileTree.empty ⟨"/"⟩).withFile
      ⟨"/etc/pam.d/lock-auth"⟩ []) {} = .service ⟨"/etc/pam.d/lock-auth"⟩ := by
    decide +kernel
  exact ⟨_, hvalid, hfind,
    (find_inside_iff hvalid hfind).mpr ⟨by decide, by decide⟩⟩

/-- A valid configuration has two dots for the name of the service. The
directory above the one of services is taken for the service. -/
theorem find_service_above :
    ({ service := ".." } : Config).validate = .ok ()
      ∧ ∃ tree : FileTree,
        find tree { service := ".." } = .service ⟨"/etc/pam.d/.."⟩
        ∧ tree.place ⟨"/etc/pam.d/.."⟩ = ["etc"]
        ∧ tree.place ({} : Config).configDir = ["etc", "pam.d"]
        ∧ ¬ Inside tree { service := ".." } ⟨"/etc/pam.d/.."⟩ := by
  refine ⟨Config.validate_eq_ok_iff.mpr (by decide),
    (FileTree.empty ⟨"/"⟩).withDirectory ⟨"/etc/pam.d"⟩, by decide +kernel,
    by decide +kernel, by decide +kernel, ?_⟩
  rintro ⟨hplace, -⟩
  revert hplace
  decide +kernel

end Registration

end ScreenUnlock
