/-
Runs that are given step by step, and runs that are continued.

`replay` takes a list of steps one after the other. It is computed, so a
run on a fixed input is found by evaluation, and `Run.replay` makes it a
run in the sense of all other statements.
-/
import ScreenUnlock.Dispatch.Basic

namespace ScreenUnlock.Dispatch

/-- Take these steps in turn, if all of them are possible: where they
lead, and what could be seen on the way. -/
def replay (setup : Setup) : List Action → State → Option Result
  | [], state => some (state, [])
  | action :: actions, state =>
    (apply setup action state).bind fun (state', events) =>
      (replay setup actions state').map fun (state'', later) =>
        (state'', events ++ later)

/-- A run can be continued by a run from where it leads. -/
theorem Run.trans {setup : Setup} {start state state' : State}
    {history later : List Event} (hrun : Run setup start history state)
    (hlater : Run setup state later state') :
    Run setup start (history ++ later) state' := by
  induction hlater with
  | init =>
      rw [List.append_nil]
      exact hrun
  | step action _ hstep ih =>
      rw [← List.append_assoc]
      exact .step action ih hstep

theorem Run.replay {setup : Setup} {start state state' : State}
    {history events : List Event} (hrun : Run setup start history state)
    {actions : List Action}
    (h : replay setup actions state = some (state', events)) :
    Run setup start (history ++ events) state' := by
  induction actions generalizing history state events with
  | nil =>
      cases h
      rw [List.append_nil]
      exact hrun
  | cons action actions ih =>
      obtain ⟨⟨next, now⟩, hnow, hlater⟩ := Option.bind_eq_some_iff.mp h
      obtain ⟨⟨last, later⟩, hrest, heq⟩ := Option.map_eq_some_iff.mp hlater
      cases heq
      rw [← List.append_assoc]
      exact ih (.step action hrun hnow) hrest

/-- A list of steps that can be taken from the start is a run, and what
is computed of its end is true of it. -/
theorem Run.exists_of_replay {α : Type} (setup : Setup) (start : State)
    (actions : List Action) (view : State → List Event → α) (value : α)
    (h : (Dispatch.replay setup actions start).map
      (fun result => view result.1 result.2) = some value) :
    ∃ history state, Run setup start history state
      ∧ view state history = value := by
  obtain ⟨⟨state, events⟩, hreplay, hview⟩ := Option.map_eq_some_iff.mp h
  exact ⟨events, state, Run.init.replay hreplay, hview⟩

/-- The ending with which a run has returned. -/
def Phase.returned? : Phase → Option Ending
  | .returned ending => some ending
  | _ => none

theorem Phase.eq_of_returned? {phase : Phase} {ending : Ending}
    (h : phase.returned? = some ending) : phase = .returned ending := by
  cases phase <;> cases h
  rfl

/-- Whether the loop has broken down. -/
def Phase.hasCrashed : Phase → Bool
  | .crashed => true
  | _ => false

theorem Phase.eq_of_hasCrashed {phase : Phase}
    (h : phase.hasCrashed = true) : phase = .crashed := by
  cases phase <;> cases h
  rfl

/-- Whether the run left its usual way: something could not be written,
or an attempt was given up. -/
def Event.isMishap : Event → Bool
  | .unsent _ _ => true
  | .abandoned => true
  | _ => false

end ScreenUnlock.Dispatch
