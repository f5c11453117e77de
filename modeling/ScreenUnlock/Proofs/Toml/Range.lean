/-
What the values in a document can be.

An integer is refused when it is read unless it fits into 64 bits with a
sign, and nothing that is done with values afterwards makes another. A key
is put into a table in the place of the same key, or behind all others. So
every integer in the table of a document fits, and no table in it has a key
twice (`fits_of_parse?`).

`Yields` is what carries this through the reading: a reading yields a
property if whatever it reads has it. Most parts of a reading do not
matter, and `Yields.bind` passes over them. `Keeps` carries it through the
building of tables: each change of a table puts in only what was read.
-/
import ScreenUnlock.Toml.Document

namespace ScreenUnlock.Toml

-- ============================================================ the values

/-- A value as a document can hold it: every integer in it fits into 64 bits
with a sign, and no table in it has a key twice. -/
inductive Value.Fits : Value → Prop where
  | text {text : String} : Fits (.text text)
  | integer {number : Int} : -(Nat.pow 2 63 : Nat) ≤ number →
      number < (Nat.pow 2 63 : Nat) → Fits (.integer number)
  | float : Fits .float
  | boolean {value : Bool} : Fits (.boolean value)
  | datetime : Fits .datetime
  | array {items : List Value} : (∀ item ∈ items, Fits item) →
      Fits (.array items)
  | table {entries : Table} : (entries.map Prod.fst).Nodup →
      (∀ entry ∈ entries, Fits entry.2) → Fits (.table entries)

/-- A tree of such values. -/
inductive Tree.Fits : Tree → Prop where
  | leaf {value : Value} : value.Fits → Fits (.leaf value)
  | table {origin : Origin} {entries : Entries} :
      (entries.map Prod.fst).Nodup → (∀ entry ∈ entries, Fits entry.2) →
      Fits (.table origin entries)
  | tables {bodies : List Entries} :
      (∀ body ∈ bodies, (body.map Prod.fst).Nodup) →
      (∀ body ∈ bodies, ∀ entry ∈ body, Fits entry.2) → Fits (.tables bodies)

/-- The entries of such a table. -/
structure Entries.Fits (entries : Entries) : Prop where
  keys : (entries.map Prod.fst).Nodup
  trees : ∀ entry ∈ entries, entry.2.Fits

/-- What is found at a key is there. -/
theorem mem_of_lookup {α : Type} {entries : List (String × α)} {key : String}
    {found : α} (h : entries.lookup key = some found) :
    (key, found) ∈ entries := by
  obtain ⟨before, after, heq, -⟩ := List.lookup_eq_some_iff.mp h
  exact heq ▸ List.mem_append_right _ (.head _)

/-- The values of a table that fits fit. -/
theorem Value.Fits.lookup {entries : Table} {key : String} {value : Value}
    (h : (Value.table entries).Fits)
    (hlookup : entries.lookup key = some value) : value.Fits := by
  cases h with
  | table _ hentries => exact hentries _ (mem_of_lookup hlookup)

-- ============================================================ the tables

section Tables

variable {entries : Entries} {tree : Tree} {key : String} {value : Value}

/-- The trees in entries that fit fit. -/
theorem Entries.Fits.find? (h : entries.Fits)
    (hfind : entries.find? key = some tree) : tree.Fits :=
  h.trees _ (mem_of_lookup hfind)

/-- Putting something in leaves the keys alone, or adds a new one. -/
theorem keys_put (entries : Entries) (key : String) (tree : Tree) :
    (entries.put key tree).map Prod.fst = entries.map Prod.fst
    ∨ key ∉ entries.map Prod.fst ∧ (entries.put key tree).map Prod.fst
      = entries.map Prod.fst ++ [key] := by
  induction entries with
  | nil => exact .inr ⟨List.not_mem_nil, rfl⟩
  | cons first rest ih =>
      obtain ⟨other, old⟩ := first
      unfold Entries.put
      split
      case isTrue heq =>
        left
        rw [List.map_cons, List.map_cons, heq]
      case isFalse hne =>
        rw [List.map_cons, List.map_cons, List.mem_cons]
        rcases ih with hsame | ⟨hnew, hmore⟩
        · exact .inl (congrArg _ hsame)
        · refine .inr ⟨?_, congrArg _ hmore⟩
          exact not_or.mpr ⟨fun heq => hne heq.symm, hnew⟩

/-- Putting in a tree that fits leaves all trees fit, whether it replaces
another one or not. -/
theorem fits_of_mem_put (h : ∀ entry ∈ entries, entry.2.Fits)
    (htree : tree.Fits) :
    ∀ entry ∈ entries.put key tree, entry.2.Fits := by
  induction entries with
  | nil =>
      intro entry hmem
      cases List.mem_singleton.mp hmem
      exact htree
  | cons first rest ih =>
      obtain ⟨other, old⟩ := first
      obtain ⟨hfirst, hrest⟩ := List.forall_mem_cons.mp h
      unfold Entries.put
      split
      case isTrue => exact List.forall_mem_cons.mpr ⟨htree, hrest⟩
      case isFalse => exact List.forall_mem_cons.mpr ⟨hfirst, ih hrest⟩

/-- What fits is not spoilt by putting in what fits. -/
theorem Entries.Fits.put (h : entries.Fits) (htree : tree.Fits) :
    (entries.put key tree).Fits where
  keys := by
    rcases keys_put entries key tree with hsame | ⟨hnew, hmore⟩
    · exact hsame ▸ h.keys
    · rw [hmore, List.nodup_append]
      -- the new key is not among the old ones
      refine ⟨h.keys, by simp, fun other hmem new hnew' heq => ?_⟩
      rw [heq, List.mem_singleton.mp hnew'] at hmem
      exact hnew hmem
  trees := fits_of_mem_put h.trees htree

/-- A change that leads from entries that fit to entries that fit. -/
def Change.Keeps (change : Change) : Prop :=
  ∀ origin entries entries', Entries.Fits entries →
    change origin entries = some entries' → Entries.Fits entries'

/-- A new table. -/
theorem Entries.Fits.nil : Entries.Fits [] :=
  ⟨List.nodup_nil, fun _ hmem => by cases hmem⟩

/-- Entries and the table that they make up. -/
theorem Entries.Fits.table (h : entries.Fits) {origin : Origin} :
    (Tree.table origin entries).Fits :=
  .table h.keys h.trees

theorem Tree.Fits.body {origin : Origin}
    (h : (Tree.table origin entries).Fits) : entries.Fits := by
  cases h with
  | table hkeys htrees => exact ⟨hkeys, htrees⟩

/-- An array of tables. -/
theorem fits_tables_iff {bodies : List Entries} :
    (Tree.tables bodies).Fits ↔ ∀ body ∈ bodies, body.Fits := by
  constructor
  · intro h body hmem
    cases h with
    | tables hkeys htrees => exact ⟨hkeys body hmem, htrees body hmem⟩
  · exact fun h => .tables (fun body hmem => (h body hmem).keys)
      fun body hmem => (h body hmem).trees

/-- What a change of the table at a key comes to: the table is made, or it
was there, or it is the last one of an array. -/
inductive Below (change : Change) (key : String) (entries : Entries) :
    Entries → Prop where
  | made {origin : Origin} {inner : Entries} :
      change origin [] = some inner →
      Below change key entries (entries.put key (.table origin inner))
  | table {origin : Origin} {inner inner' : Entries} :
      entries.find? key = some (.table origin inner) →
      change origin inner = some inner' →
      Below change key entries (entries.put key (.table origin inner'))
  | last {body body' : Entries} {bodies : List Entries} :
      entries.find? key = some (.tables (body :: bodies)) →
      change .header body = some body' →
      Below change key entries (entries.put key (.tables (body' :: bodies)))

/-- A change that keeps what fits keeps it one table further up, in each of
the three cases. -/
theorem Below.fits {change : Change} {entries' : Entries}
    (h : Below change key entries entries') (hkeeps : change.Keeps)
    (hfits : entries.Fits) : entries'.Fits := by
  cases h with
  | made hinner => exact hfits.put (hkeeps _ _ _ .nil hinner).table
  | table hfind hinner =>
      exact hfits.put (hkeeps _ _ _ (hfits.find? hfind).body hinner).table
  | last hfind hbody =>
      obtain ⟨hfirst, hothers⟩ := List.forall_mem_cons.mp
        (fits_tables_iff.mp (hfits.find? hfind))
      exact hfits.put (fits_tables_iff.mpr (List.forall_mem_cons.mpr
        ⟨hkeeps _ _ _ hfirst hbody, hothers⟩))

/-- A header goes down by one of the three ways; a table is made if nothing
stands at the key. -/
theorem below_of_alongHeader {change : Change} {path : List String}
    {origin : Origin} {entries' : Entries}
    (h : alongHeader change (key :: path) origin entries = some entries') :
    Below (alongHeader change path) key entries entries' := by
  simp only [alongHeader] at h
  split at h
  -- a value at the key is refused, and so is an array without a table
  case h_1 =>
    obtain ⟨_, hinner, rfl⟩ := Option.map_eq_some_iff.mp h
    exact .made hinner
  case h_2 => cases h
  case h_3 hfind =>
    obtain ⟨_, hinner, rfl⟩ := Option.map_eq_some_iff.mp h
    exact .table hfind hinner
  case h_4 => cases h
  case h_5 hfind =>
    obtain ⟨_, hbody, rfl⟩ := Option.map_eq_some_iff.mp h
    exact .last hfind hbody

/-- A dotted key goes down in the same way, but not through a table with a
body of its own. -/
theorem below_of_alongKey {change : Change} {path : List String}
    {origin : Origin} {entries' : Entries}
    (h : alongKey change (key :: path) origin entries = some entries') :
    Below (alongKey change path) key entries entries' := by
  simp only [alongKey] at h
  split at h
  case h_1 =>
    obtain ⟨_, hinner, rfl⟩ := Option.map_eq_some_iff.mp h
    exact .made hinner
  case h_2 | h_3 => cases h
  case h_4 hfind =>
    obtain ⟨_, hinner, rfl⟩ := Option.map_eq_some_iff.mp h
    exact .table hfind hinner
  case h_5 => cases h
  case h_6 hfind =>
    obtain ⟨_, hbody, rfl⟩ := Option.map_eq_some_iff.mp h
    exact .last hfind hbody

/-- A change that keeps what fits keeps it at the end of a path, too. -/
theorem Change.Keeps.alongHeader {change : Change} (h : change.Keeps)
    (path : List String) : (alongHeader change path).Keeps := by
  induction path with
  | nil => exact h
  | cons key path ih =>
      exact fun _ _ _ hfits hchange =>
        (below_of_alongHeader hchange).fits ih hfits

theorem Change.Keeps.alongKey {change : Change} (h : change.Keeps)
    (path : List String) : (alongKey change path).Keeps := by
  induction path with
  | nil => exact h
  | cons key path ih =>
      exact fun _ _ _ hfits hchange =>
        (below_of_alongKey hchange).fits ih hfits

/-- The three things that a statement does to the tables: a value for a new
key, a table, one more table in an array. -/
theorem keeps_setNew (key : String) (h : value.Fits) :
    (setNew key value).Keeps := by
  intro origin entries entries' hfits hset
  unfold setNew at hset
  split at hset
  case h_1 =>
    cases hset
    exact hfits.put (.leaf h)
  case h_2 => cases hset

theorem keeps_define (path : KeyPath) (h : value.Fits) :
    (define path value).Keeps := by
  unfold define
  split
  case isTrue => exact keeps_setNew _ h
  case isFalse =>
    refine Change.Keeps.alongKey
      (fun origin entries entries' hfits hset => ?_) _
    split at hset
    case isTrue => exact keeps_setNew _ h _ _ _ hfits hset
    case isFalse => cases hset

theorem keeps_openTable (path : KeyPath) : (openTable path).Keeps := by
  refine Change.Keeps.alongHeader
    (fun origin entries entries' hfits hopen => ?_) _
  split at hopen
  case h_1 =>
    cases hopen
    exact hfits.put Entries.Fits.nil.table
  case h_2 hfind =>
    cases hopen
    exact hfits.put (hfits.find? hfind).body.table
  case h_3 => cases hopen

theorem keeps_openArrayTable (path : KeyPath) :
    (openArrayTable path).Keeps := by
  refine Change.Keeps.alongHeader
    (fun origin entries entries' hfits hopen => ?_) _
  split at hopen
  case h_1 =>
    cases hopen
    exact hfits.put (fits_tables_iff.mpr
      (List.forall_mem_singleton.mpr .nil))
  case h_2 bodies hfind =>
    cases hopen
    exact hfits.put (fits_tables_iff.mpr (List.forall_mem_cons.mpr
      ⟨.nil, fits_tables_iff.mp (hfits.find? hfind)⟩))
  case h_3 => cases hopen

-- ============================================================== freezing

-- `Tree.freeze` recurs through the entries and the bodies by two functions
-- of their own. They are maps, and the induction below wants them as such.

theorem freezeEntries_eq (entries : Entries) :
    freezeEntries entries
      = entries.map fun entry => (entry.1, entry.2.freeze) := by
  induction entries with
  | nil => rfl
  | cons entry rest ih => rw [freezeEntries, ih, List.map_cons]

theorem freezeBodies_eq (bodies : List Entries) :
    freezeBodies bodies
      = bodies.map fun body => .table (freezeEntries body) := by
  induction bodies with
  | nil => rfl
  | cons body rest ih => rw [freezeBodies, ih, List.map_cons]

/-- Freezing leaves the keys alone. -/
theorem keys_freezeEntries (entries : Entries) :
    (freezeEntries entries).map Prod.fst = entries.map Prod.fst := by
  rw [freezeEntries_eq, List.map_map]
  rfl

theorem fits_freezeEntries_of {entries : Entries}
    (hkeys : (entries.map Prod.fst).Nodup)
    (h : ∀ entry ∈ entries, entry.2.freeze.Fits) :
    (Value.table (freezeEntries entries)).Fits := by
  refine .table (keys_freezeEntries entries ▸ hkeys) fun entry hmem => ?_
  rw [freezeEntries_eq] at hmem
  obtain ⟨before, hbefore, rfl⟩ := List.mem_map.mp hmem
  exact h before hbefore

/-- A tree that fits becomes a value that fits. -/
theorem Tree.Fits.freeze (h : tree.Fits) : tree.freeze.Fits := by
  induction h with
  | leaf hvalue => exact hvalue
  | table hkeys _ ih => exact fits_freezeEntries_of hkeys ih
  | tables hkeys _ ih =>
      -- the tables of an array stand in it the last one first
      refine .array fun item hmem => ?_
      rw [List.mem_reverse, freezeBodies_eq] at hmem
      obtain ⟨body, hbody, rfl⟩ := List.mem_map.mp hmem
      exact fits_freezeEntries_of (hkeys body hbody) (ih body hbody)

/-- The table that comes out is as good as the one that was built. -/
theorem Entries.Fits.freeze (h : entries.Fits) :
    (Value.table (freezeEntries entries)).Fits :=
  fits_freezeEntries_of h.keys fun entry hmem => (h.trees entry hmem).freeze

end Tables

-- ============================================================ the reading

namespace Reading

variable {α β : Type} {P : α → Prop} {Q : β → Prop} {reading : Reading α}

/-- Whatever the reading reads has the property. -/
def Yields (P : α → Prop) (reading : Reading α) : Prop :=
  ∀ chars result rest, reading chars = some (result, rest) → P result

/-- Reading nothing yields what it is given. -/
theorem Yields.pure {a : α} (h : P a) : Yields P (pure a : Reading α) := by
  intro chars result rest hread
  cases hread
  exact h

/-- A reading that fails yields anything. -/
theorem Yields.failure : Yields P (failure : Reading α) := by
  intro chars result rest hread
  cases hread

/-- A reading that branches; each branch may use why it was taken. -/
theorem Yields.ite {c : Prop} [Decidable c] {first second : Reading α}
    (hfirst : c → Yields P first) (hsecond : ¬ c → Yields P second) :
    Yields P (if c then first else second) := by
  split
  case isTrue hc => exact hfirst hc
  case isFalse hc => exact hsecond hc

/-- What is read first, and what is read with it. -/
theorem Yields.bind_of {f : α → Reading β} (h : Yields P reading)
    (hf : ∀ a, P a → Yields Q (f a)) : Yields Q (reading >>= f) := by
  intro chars result rest hread
  obtain ⟨⟨a, more⟩, hfirst, hthen⟩ := Option.bind_eq_some_iff.mp hread
  exact hf a (h chars a more hfirst) more result rest hthen

/-- It does not matter what is read first. -/
theorem Yields.bind {f : α → Reading β} (hf : ∀ a, Yields Q (f a)) :
    Yields Q (reading >>= f) :=
  Yields.bind_of (fun _ _ _ _ => True.intro) fun a _ => hf a

/-- A result that is not read but computed. -/
theorem Yields.lift {found : Option α} (h : ∀ a, found = some a → P a) :
    Yields P (liftM found : Reading α) := by
  intro chars result rest hread
  obtain ⟨a, hfound, heq⟩ := Option.bind_eq_some_iff.mp hread
  cases heq
  exact h result hfound

/-- What each element keeps, all of them keep. -/
theorem Yields.foldlM {f : β → α → Reading β} {items : List α} {b : β}
    (hb : Q b) (hf : ∀ b a, Q b → a ∈ items → Yields Q (f b a)) :
    Yields Q (items.foldlM f b) := by
  induction items generalizing b with
  | nil => exact .pure hb
  | cons a items ih =>
      rw [List.foldlM_cons]
      exact .bind_of (hf b a hb (.head _)) fun b' hb' =>
        ih hb' fun b a hb hmem => hf b a hb (.tail _ hmem)

/-- Everything that is read again and again. The induction is on the fuel,
and what was found so far comes along. -/
theorem mem_repeated (h : Yields P reading) {found : List α}
    {fuel chars : List Char} (hfound : ∀ a ∈ found, P a) :
    ∀ a ∈ (repeated reading found fuel chars).1, P a := by
  induction fuel generalizing found chars with
  | nil =>
      intro a hmem
      exact hfound a (List.mem_reverse.mp hmem)
  | cons c fuel ih =>
      unfold repeated
      split
      case h_1 =>
        intro a hmem
        exact hfound a (List.mem_reverse.mp hmem)
      case h_2 result rest hread =>
        refine ih fun a hmem => ?_
        rcases List.mem_cons.mp hmem with rfl | hmem
        · exact h _ _ _ hread
        · exact hfound a hmem

/-- A repeated reading yields for each of its results what one yields. -/
theorem Yields.many (h : Yields P reading) :
    Yields (fun found => ∀ a ∈ found, P a) (many reading) := by
  intro chars result rest hread
  have heq : (repeated reading [] chars chars).1 = result :=
    congrArg Prod.fst (Option.some.inj hread)
  rw [← heq]
  exact mem_repeated h fun _ hmem => by cases hmem

end Reading

open Reading (Yields)

-- ============================================================ the numbers

/-- A number without a sign, as it is checked when it is read. -/
theorem Value.Fits.of_lt {number : Nat} (h : number < Nat.pow 2 63) :
    Value.Fits (.integer number) := by
  exact .integer (by omega) (by omega)

/-- A negative number reaches one further. -/
theorem Value.Fits.of_le {number : Nat} (h : number ≤ Nat.pow 2 63) :
    Value.Fits (.integer (-(number : Int))) := by
  have hpos : 0 < Nat.pow 2 63 := by decide
  exact .integer (by omega) (by omega)

/-- A number in hexadecimal, octal or binary. -/
theorem yields_basedInteger (mark : String) (base : Nat)
    (isDigit : Char → Bool) :
    Yields Value.Fits (basedInteger mark base isDigit) :=
  .bind fun _ => .bind fun _ => .bind fun _ =>
    .ite (fun hlt => .pure (.of_lt hlt)) fun _ => .failure

/-- A decimal number: an integer is checked in its two last branches. -/
theorem yields_decimalNumber : Yields Value.Fits decimalNumber := by
  refine .bind fun negative => .bind fun whole => .bind fun _ => ?_
  dsimp only
  -- with a fraction or without, and with an exponent or without
  refine .ite (fun _ => .bind fun _ => .bind fun _ => .bind fun fraction => ?_)
    fun _ => .bind fun fraction => ?_
  all_goals
    refine .bind fun _ => .bind fun _ =>
      .ite (fun _ => .bind fun _ => .bind fun power => ?_)
        fun _ => .bind fun power => ?_
  all_goals
    refine .ite (fun _ => ?_) fun _ => .bind fun number => ?_
    · exact .ite (fun _ => .bind fun _ => .pure .float) fun _ => .pure .float
    · exact .ite
        (fun _ => .ite (fun hle => .pure (.of_le hle)) fun _ => .failure)
        fun _ => .ite (fun hlt => .pure (.of_lt hlt)) fun _ => .failure

theorem yields_specialFloat : Yields Value.Fits specialFloat := by
  refine .bind fun _ => .bind fun _ => ?_
  dsimp only
  exact .ite (fun _ => .bind fun _ => .pure .float)
    fun _ => .bind fun _ => .pure .float

theorem yields_number : Yields Value.Fits number := by
  refine .bind fun chars => ?_
  dsimp only
  refine .ite (fun _ => yields_specialFloat) fun _ => .bind fun _ => ?_
  refine .ite (fun _ => yields_basedInteger _ _ _) fun _ => .bind fun _ => ?_
  refine .ite (fun _ => yields_basedInteger _ _ _) fun _ => .bind fun _ => ?_
  exact .ite (fun _ => yields_basedInteger _ _ _) fun _ =>
    yields_decimalNumber

theorem yields_dateOrNumber : Yields Value.Fits dateOrNumber := by
  refine .bind fun _ => .ite (fun _ => .bind fun _ => .pure .datetime) ?_
  refine fun _ => .bind fun _ => .ite (fun _ => ?_) fun _ => yields_number
  exact .bind fun _ => .pure .datetime

-- ============================================================= the values

/-- Everything that is not an array or an inline table. -/
theorem yields_scalar : Yields Value.Fits scalar := by
  refine .bind fun c => ?_
  split
  · exact .bind fun _ => .pure .text
  · exact .bind fun _ => .pure .text
  · exact .bind fun _ => .pure .boolean
  · exact .bind fun _ => .pure .boolean
  · exact yields_dateOrNumber

section Nested

variable {item : Reading Value} (h : Yields Value.Fits item)

include h

/-- An array is read as its first item and those behind a comma. -/
theorem yields_array : Yields Value.Fits (array item) := by
  refine .bind fun _ => .bind fun _ => .bind fun _ => .ite
    (fun _ => .bind fun _ => .pure (.array fun _ hmem => by cases hmem))
    fun _ => ?_
  refine .bind_of (P := Value.Fits)
    (.bind_of h fun _ hvalue => .bind fun _ => .pure hvalue)
    fun first hfirst => ?_
  refine .bind_of (.many (P := Value.Fits)
    (.bind fun _ => .bind fun _ =>
      .bind_of h fun _ hvalue => .bind fun _ => .pure hvalue))
    fun others hothers => ?_
  refine .bind fun _ => .bind fun _ => .pure (.array fun value hmem => ?_)
  rcases List.mem_cons.mp hmem with rfl | hmem
  · exact hfirst
  · exact hothers value hmem

theorem yields_keyValue :
    Yields (fun pair => pair.2.Fits) (keyValue item) :=
  .bind fun _ => .bind fun _ => .bind fun _ =>
    .bind_of h fun _ hvalue => .pure hvalue

/-- An inline table is read like an array of pairs. -/
theorem yields_inlineTable : Yields Value.Fits (inlineTable item) := by
  refine .bind fun _ => .bind fun _ => .bind fun _ => .ite
    (fun _ => .bind fun _ => .pure Entries.Fits.nil.freeze)
    fun _ => ?_
  have hpair := yields_keyValue h
  refine .bind_of (P := fun pair => pair.2.Fits)
    (.bind_of hpair fun _ hvalue => .bind fun _ => .pure hvalue)
    fun first hfirst => ?_
  refine .bind_of (.many (P := fun pair => pair.2.Fits)
    (.bind fun _ =>
      .bind_of hpair fun _ hvalue => .bind fun _ => .pure hvalue))
    fun others hothers => .bind fun _ => ?_
  -- the pairs are put into a table one after the other
  refine .bind_of (P := Entries.Fits) (.foldlM .nil ?_)
    fun entries hentries => .pure hentries.freeze
  rintro entries ⟨path, value⟩ hentries hmem
  refine .lift fun entries' hdefine =>
    keeps_define path ?_ _ _ _ hentries hdefine
  rcases List.mem_cons.mp hmem with rfl | hmem
  · exact hfirst
  · exact hothers _ hmem

end Nested

/-- A value of any depth: arrays and inline tables hold values of a lesser
one. -/
theorem yields_value (depth : Nat) : Yields Value.Fits (value depth) := by
  induction depth with
  | zero => exact yields_scalar
  | succ depth ih =>
      refine .bind fun c => ?_
      split
      · exact yields_array ih
      · exact yields_inlineTable ih
      · exact yields_scalar

-- ========================================================== the document

/-- The value in a statement fits. -/
def Statement.Fits : Statement → Prop
  | .header _ => True
  | .arrayHeader _ => True
  | .assign _ value => value.Fits

/-- A header has no value in it. -/
theorem yields_header : Yields Statement.Fits header := by
  refine .bind fun _ => .ite (fun _ => ?_) fun _ => ?_
  · exact .bind fun _ => .bind fun _ => .bind fun _ => .bind fun _ =>
      .pure True.intro
  · exact .bind fun _ => .bind fun _ => .bind fun _ => .bind fun _ =>
      .pure True.intro

/-- The value in a line fits. -/
def SaysFit (said : Option Statement) : Prop :=
  ∀ statement ∈ said, Statement.Fits statement

/-- A line says nothing, opens a table, or gives a value. -/
theorem yields_line : Yields SaysFit line := by
  have hnothing : SaysFit none := fun _ hmem => by cases hmem
  have hsome : ∀ {statement : Statement}, statement.Fits →
      SaysFit (some statement) := by
    intro statement hfits other hmem
    cases hmem
    exact hfits
  -- the blanks behind what a line says
  have hend : ∀ {said : Reading (Option Statement)}, Yields SaysFit said →
      Yields SaysFit (do
        let statement ← said
        blanks
        return statement) :=
    fun hsaid => .bind_of hsaid fun _ h => .bind fun _ => .pure h
  refine .bind fun c => ?_
  dsimp only
  split
  · exact hend .failure
  · exact .bind fun _ => .bind fun _ => hend (.pure hnothing)
  · exact .bind fun _ => hend (.pure hnothing)
  · exact .bind fun _ => hend (.pure hnothing)
  · exact .bind_of yields_header fun _ h => hend (.pure (hsome h))
  · exact .bind_of (yields_keyValue (yields_value _)) fun _ h =>
      .bind fun _ => hend (.pure (hsome h))

/-- All statements of a text. -/
theorem fits_of_statements? {text : String} {statements : List Statement}
    (h : statements? text = some statements) :
    ∀ statement ∈ statements, statement.Fits := by
  unfold statements? at h
  simp only at h
  split at h
  case h_1 found hread =>
    cases h
    have hfound : Yields (fun found => ∀ said ∈ found, SaysFit said) (do
        let _ ← Reading.perhaps (Reading.char '\uFEFF')
        blanks
        Reading.many line) :=
      .bind fun _ => .bind fun _ => .many yields_line
    intro statement hmem
    obtain ⟨said, hsaid, heq⟩ := List.mem_filterMap.mp hmem
    exact hfound _ _ _ hread said hsaid statement heq
  case h_2 => cases h

/-- Carrying out one statement. -/
theorem Draft.fits_of_carryOut? {draft draft' : Draft}
    {statement : Statement} (h : draft.carryOut? statement = some draft')
    (hstatement : statement.Fits) (hfits : draft.entries.Fits) :
    draft'.entries.Fits := by
  cases statement with
  | header path =>
      obtain ⟨entries, hopen, rfl⟩ := Option.map_eq_some_iff.mp h
      exact keeps_openTable path _ _ _ hfits hopen
  | arrayHeader path =>
      obtain ⟨entries, hopen, rfl⟩ := Option.map_eq_some_iff.mp h
      exact keeps_openArrayTable path _ _ _ hfits hopen
  | assign path value =>
      obtain ⟨entries, hset, rfl⟩ := Option.map_eq_some_iff.mp h
      exact (keeps_define path hstatement).alongHeader _ _ _ _ hfits hset

/-- Carrying out one statement after the other. -/
theorem Draft.fits_of_foldlM {draft draft' : Draft}
    {statements : List Statement}
    (h : statements.foldlM Draft.carryOut? draft = some draft')
    (hstatements : ∀ statement ∈ statements, statement.Fits)
    (hfits : draft.entries.Fits) : draft'.entries.Fits := by
  induction statements generalizing draft with
  | nil =>
      cases h
      exact hfits
  | cons statement statements ih =>
      rw [List.foldlM_cons] at h
      obtain ⟨next, hnext, hrest⟩ := Option.bind_eq_some_iff.mp h
      exact ih hrest (fun _ hmem => hstatements _ (.tail _ hmem))
        (fits_of_carryOut? hnext (hstatements _ (.head _)) hfits)

/-- Statements that fit build a table that fits. -/
theorem fits_of_build? {statements : List Statement} {table : Table}
    (h : build? statements = some table)
    (hfits : ∀ statement ∈ statements, statement.Fits) :
    (Value.table table).Fits := by
  obtain ⟨draft', hdraft, rfl⟩ := Option.map_eq_some_iff.mp h
  exact (Draft.fits_of_foldlM hdraft hfits .nil).freeze

/-- Every integer in the table of a document fits into 64 bits with a
sign, and no table in it has a key twice. -/
theorem fits_of_parse? {text : String} {table : Table}
    (h : parse? text = some table) : (Value.table table).Fits := by
  obtain ⟨statements, hstatements, hbuild⟩ := Option.bind_eq_some_iff.mp h
  exact fits_of_build? hbuild (fits_of_statements? hstatements)

/-- The same of a reader: it refuses what is no document, an integer that is
too large, and a key that is there already. -/
def Reader.Fits (reader : Reader) : Prop :=
  ∀ text table, reader text = some table → (Value.table table).Fits

/-- The reader at hand is one of them. -/
theorem fits_parse? : Reader.Fits parse? :=
  fun _ _ => fits_of_parse?

end ScreenUnlock.Toml
