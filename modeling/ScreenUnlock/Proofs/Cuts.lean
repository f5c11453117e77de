/-
Histories that are cut at one of their members.

`before ++ found :: after` is a history, what was found in it, and what
came before and after. Statements about "the moment at which" something
happens are statements about all such cuts. Histories grow at the end, so
the lemmas say where a cut of a longer history lies.
-/
import Mathlib.Data.List.Induction

namespace ScreenUnlock

variable {α : Type} {history events before before' after after' : List α}
  {found found' last : α}

/-- What is not among the last ones stands before them. -/
theorem split_append (heq : history ++ events = before ++ found :: after)
    (hnot : found ∉ events) : ∃ later, after = later ++ events
      ∧ history = before ++ found :: later := by
  rcases List.append_eq_append_iff.mp heq with ⟨between, -, hevents⟩
    | ⟨between, hhistory, hrest⟩
  · exact absurd (hevents ▸ List.mem_append_right _ (.head _)) hnot
  · cases between with
    | nil =>
        exact absurd (hrest ▸ List.mem_cons_self : found ∈ [] ++ events) hnot
    | cons first later =>
        obtain ⟨rfl, rfl⟩ := List.cons.inj hrest
        exact ⟨later, rfl, hhistory⟩

/-- Whatever stands in a history stands before the last one, or is the last
one. -/
theorem split_snoc (heq : history ++ [last] = before ++ found :: after) :
    (history = before ∧ last = found ∧ after = [])
      ∨ ∃ later, after = later ++ [last]
        ∧ history = before ++ found :: later := by
  induction after using List.reverseRecOn with
  | nil =>
      obtain ⟨hhistory, hlast⟩ := List.append_inj' heq rfl
      cases hlast
      exact .inl ⟨hhistory, rfl, rfl⟩
  | append_singleton later final _ =>
      rw [← List.cons_append, ← List.append_assoc] at heq
      obtain ⟨hhistory, hlast⟩ := List.append_inj' heq rfl
      cases hlast
      exact .inr ⟨later, rfl, hhistory⟩

/-- Of two places at which a history is cut, one comes before the other,
unless they are the same. -/
theorem cuts_inv (h : before ++ found :: after = before' ++ found' :: after') :
    (before = before' ∧ found = found')
      ∨ (∃ between, before' = before ++ found :: between)
      ∨ ∃ between, before = before' ++ found' :: between := by
  rcases List.append_eq_append_iff.mp h with ⟨between, hbefore, hrest⟩
    | ⟨between, hbefore, hrest⟩
  · cases between with
    | nil =>
        cases hrest
        exact .inl ⟨by rw [hbefore, List.append_nil], rfl⟩
    | cons first between =>
        cases hrest
        exact .inr (.inl ⟨between, hbefore⟩)
  · cases between with
    | nil =>
        cases hrest
        exact .inl ⟨by rw [hbefore, List.append_nil], rfl⟩
    | cons first between =>
        cases hrest
        exact .inr (.inr ⟨between, hbefore⟩)

end ScreenUnlock
