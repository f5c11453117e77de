/-
Values of a TOML document.

Of a float and of a date it is kept only that there is one: nothing here
computes with them. A table keeps its entries in the order of the
document, and no key occurs in it twice.
-/
namespace ScreenUnlock.Toml

/-- A value. -/
inductive Value where
  | text (text : String)
  | integer (number : Int)
  | float
  | boolean (value : Bool)
  | datetime
  | array (items : List Value)
  | table (entries : List (String × Value))

/-- The entries of a table. -/
abbrev Table := List (String × Value)

/-- What reads documents: the table of a text, if it is a document. -/
abbrev Reader := String → Option Table

-- ============================================================ comparing

mutual

/-- Whether two values are the same. -/
def Value.same : Value → Value → Bool
  | .text text, .text other => text == other
  | .integer number, .integer other => number == other
  | .float, .float => true
  | .boolean value, .boolean other => value == other
  | .datetime, .datetime => true
  | .array items, .array others => sameItems items others
  | .table entries, .table others => sameEntries entries others
  | _, _ => false

/-- Whether the items of two arrays are the same. -/
def sameItems : List Value → List Value → Bool
  | [], [] => true
  | item :: items, other :: others =>
    item.same other && sameItems items others
  | _, _ => false

/-- Whether the entries of two tables are the same, in the same order. -/
def sameEntries : List (String × Value) → List (String × Value) → Bool
  | [], [] => true
  | (key, value) :: entries, (key', value') :: others =>
    key == key' && value.same value' && sameEntries entries others
  | _, _ => false

end

mutual

theorem Value.same_iff :
    ∀ value other : Value, value.same other = true ↔ value = other
  | .text _, other | .integer _, other | .float, other | .boolean _, other
  | .datetime, other => by cases other <;> simp [Value.same]
  | .array items, other => by
    cases other <;> simp [Value.same, sameItems_iff items]
  | .table entries, other => by
    cases other <;> simp [Value.same, sameEntries_iff entries]

theorem sameItems_iff : ∀ items others : List Value,
    sameItems items others = true ↔ items = others
  | [], others => by cases others <;> simp [sameItems]
  | item :: items, others => by
    cases others <;>
      simp [sameItems, Value.same_iff item, sameItems_iff items]

theorem sameEntries_iff : ∀ entries others : List (String × Value),
    sameEntries entries others = true ↔ entries = others
  | [], others => by cases others <;> simp [sameEntries]
  | (_, value) :: entries, others => by
    cases others <;>
      simp [sameEntries, Value.same_iff value, sameEntries_iff entries,
        Prod.ext_iff]

end

instance : DecidableEq Value := fun value other =>
  decidable_of_iff _ (value.same_iff other)

end ScreenUnlock.Toml
