/-
What of a run may show to whoever reads the output.

A run has a view: what its steps show, in their order. An attempt shows
that it prompts without echo or gives an information, and with which text,
and that its prompt may be answered and has been. The loop shows whether it
records a success, and whether it finds the session cancelled. Nothing in a
view tells the bytes of an answer, a request of another kind, or the reason
of a failure.

Two views are compared as one would compare the runs: the schedule, attempt
by attempt what it shows, one verdict with the other, one look at the flag
with the other (`Alike`). That is all there is in a view, so views that are
alike are equal (`Alike.eq`).
-/
import ScreenUnlock.Proofs.Dispatch.Replay

namespace ScreenUnlock

namespace Attempt

/-- What an attempt shows with a step. -/
inductive Sight where
  | prompt (text : String)
  | info (text : String)
  -- The prompt may be answered from now on.
  | ready
  | answered
  deriving DecidableEq, Repr

/-- The line that is told with it. -/
def Sight.said? : Sight → Option Message
  | .prompt text => some (.promptOf text)
  | .info text => if text = "" then none else some (.infoOf text)
  | .ready => some (.busy false)
  | .answered => some (.busy true)

/-- What the next step of an attempt shows. A request with echo and an
error message show nothing. -/
def sight? (attempt : Attempt) : Option Sight :=
  match attempt.activity with
  | .conversing (.opening .promptEchoOff text) _ => some (.prompt text)
  | .conversing (.opening .textInfo text) _ => some (.info text)
  | .conversing .prompted _ => some .ready
  | .conversing (.answering _) _ => some .answered
  | _ => none

end Attempt

namespace Dispatch

variable {setup : Setup} {start state state' : State}
  {history events : List Event}

-- ============================================================== the view

/-- A moment of a run that may show. -/
inductive Moment where
  | attempt (number : Nat) (sight : Attempt.Sight)
  -- The loop records how an attempt ended.
  | recorded (accepted : Bool) (cancelled : Option CancelReason)
  -- The loop looks at the cancellation flag before an attempt.
  | checked (cancelled : Option CancelReason)
  deriving DecidableEq, Repr

/-- What a step of the system shows. -/
def State.moment? (state : State) : Action → Option Moment
  | .attempt number =>
    ((state.attempt? number).bind Attempt.sight?).map (.attempt number)
  | .move .check => some (.checked state.session.slot.cancelled)
  | .move .settle =>
    match state.phase with
    | .settling verdict =>
      some (.recorded (decide (verdict = .accepted))
        state.session.slot.cancelled)
    | _ => none
  | _ => none

/-- The runs of the system with what they show, oldest first. -/
inductive Viewed (setup : Setup) (start : State) :
    List Event → List Moment → State → Prop where
  | init : Viewed setup start [] [] start
  | step {history events : List Event} {view : List Moment}
      {state state' : State} (action : Action) :
      Viewed setup start history view state →
      apply setup action state = some (state', events) →
      Viewed setup start (history ++ events)
        (view ++ (state.moment? action).toList) state'

variable {view view' : List Moment}

theorem Viewed.run (h : Viewed setup start history view state) :
    Run setup start history state := by
  induction h with
  | init => exact .init
  | step action _ hstep ih => exact .step action ih hstep

/-- What these steps show, one after the other. -/
def viewOf (setup : Setup) : List Action → State → List Moment
  | [], _ => []
  | action :: actions, state =>
    (state.moment? action).toList ++
      match apply setup action state with
      | some (state', _) => viewOf setup actions state'
      | none => []

theorem Viewed.replay (hview : Viewed setup start history view state)
    {actions : List Action}
    (h : replay setup actions state = some (state', events)) :
    Viewed setup start (history ++ events)
      (view ++ viewOf setup actions state) state' := by
  induction actions generalizing history view state events with
  | nil =>
      cases h
      rw [viewOf, List.append_nil, List.append_nil]
      exact hview
  | cons action actions ih =>
      obtain ⟨⟨next, now⟩, hnow, hlater⟩ := Option.bind_eq_some_iff.mp h
      obtain ⟨⟨last, later⟩, hrest, heq⟩ := Option.map_eq_some_iff.mp hlater
      cases heq
      rw [viewOf, hnow, ← List.append_assoc, ← List.append_assoc]
      exact ih (.step action hview hnow) hrest

/-- Steps that can all be taken from the start are a run with the view that
is computed of them. -/
theorem Viewed.exists_of_replay {α : Type} (setup : Setup) (start : State)
    (actions : List Action) (view : List Moment)
    (look : State → List Event → α) (value : α)
    (hview : viewOf setup actions start = view)
    (h : (Dispatch.replay setup actions start).map
      (fun result => look result.1 result.2) = some value) :
    ∃ history state, Viewed setup start history view state
      ∧ look state history = value := by
  obtain ⟨⟨state, events⟩, hreplay, hlook⟩ := Option.map_eq_some_iff.mp h
  exact ⟨events, state, hview ▸ Viewed.init.replay hreplay, hlook⟩

-- ========================================================== alike in pairs

/-- Whose turn it is. -/
inductive Turn where
  | attempt (number : Nat)
  | record
  | check
  deriving DecidableEq, Repr

namespace Moment

def turn : Moment → Turn
  | .attempt number _ => .attempt number
  | .recorded _ _ => .record
  | .checked _ => .check

/-- What the attempt with this number shows. -/
def sight? (number : Nat) : Moment → Option Attempt.Sight
  | .attempt number' sight => if number' = number then some sight else none
  | _ => none

/-- Whether the attempt that is recorded was accepted. -/
def verdict? : Moment → Option Bool
  | .recorded accepted _ => some accepted
  | _ => none

/-- What the loop finds of the cancellation flag. -/
def flag? : Moment → Option (Option CancelReason)
  | .attempt _ _ => none
  | .recorded _ cancelled => some cancelled
  | .checked cancelled => some cancelled

end Moment

/-- Two runs are alike for whoever does not see the answers. -/
structure Alike (view view' : List Moment) : Prop where
  -- The same schedule.
  turns : view.map Moment.turn = view'.map Moment.turn
  -- Attempt by attempt the same prompts and informations, and the same
  -- prompts answered.
  sights : ∀ number, view.filterMap (Moment.sight? number)
    = view'.filterMap (Moment.sight? number)
  -- Accepted or not.
  verdicts : view.filterMap Moment.verdict? = view'.filterMap Moment.verdict?
  -- The cancellation seen at the same points.
  flags : view.filterMap Moment.flag? = view'.filterMap Moment.flag?

/-- If both heads are kept or both are left out, equal selections come from
equal heads and equal selections of the tails. -/
theorem filterMap_cons_inv {α β : Type} {f : α → Option β} {a b : α}
    {as bs : List α} (hkept : (f a).isSome = (f b).isSome)
    (h : (a :: as).filterMap f = (b :: bs).filterMap f) :
    f a = f b ∧ as.filterMap f = bs.filterMap f := by
  cases ha : f a with
  | none =>
      cases hb : f b with
      | none =>
          rw [List.filterMap_cons_none ha, List.filterMap_cons_none hb] at h
          exact ⟨rfl, h⟩
      | some y => simp [ha, hb] at hkept
  | some x =>
      cases hb : f b with
      | none => simp [ha, hb] at hkept
      | some y =>
          rw [List.filterMap_cons_some ha, List.filterMap_cons_some hb,
            List.cons.injEq] at h
          exact ⟨by rw [h.1], h.2⟩

namespace Moment

variable {moment moment' : Moment}

/-- Whose turn it is decides what kind of thing shows. -/
theorem isSome_of_turn (h : moment.turn = moment'.turn) (number : Nat) :
    (moment.sight? number).isSome = (moment'.sight? number).isSome
      ∧ moment.verdict?.isSome = moment'.verdict?.isSome
      ∧ moment.flag?.isSome = moment'.flag?.isSome := by
  cases moment <;> cases moment' <;> cases h
  case attempt.attempt.refl number' sight sight' =>
    refine ⟨?_, rfl, rfl⟩
    simp only [sight?]
    split <;> rfl
  all_goals exact ⟨rfl, rfl, rfl⟩

theorem eq_of_turn (h : moment.turn = moment'.turn)
    (hsight : ∀ number, moment.sight? number = moment'.sight? number)
    (hverdict : moment.verdict? = moment'.verdict?)
    (hflag : moment.flag? = moment'.flag?) : moment = moment' := by
  cases moment <;> cases moment' <;> cases h
  case attempt.attempt.refl number sight sight' =>
    have := hsight number
    rw [sight?, sight?, if_pos rfl, if_pos rfl] at this
    rw [Option.some.inj this]
  all_goals
    cases hverdict
    cases hflag
    rfl

end Moment

/-- A schedule and what each of its threads shows make up the view. -/
theorem Alike.eq (h : Alike view view') : view = view' := by
  induction view generalizing view' with
  | nil => exact (List.map_eq_nil_iff.mp h.turns.symm).symm
  | cons moment view ih =>
      cases view' with
      | nil => cases h.turns
      | cons moment' view' =>
          obtain ⟨hturn, hturns⟩ := List.cons.inj h.turns
          have hkept := Moment.isSome_of_turn hturn
          have hsights := fun number =>
            filterMap_cons_inv (hkept number).1 (h.sights number)
          have hverdicts := filterMap_cons_inv (hkept 0).2.1 h.verdicts
          have hflags := filterMap_cons_inv (hkept 0).2.2 h.flags
          rw [Moment.eq_of_turn hturn (fun number => (hsights number).1)
            hverdicts.1 hflags.1, ih ⟨hturns, fun number => (hsights number).2,
              hverdicts.2, hflags.2⟩]

end Dispatch

end ScreenUnlock
