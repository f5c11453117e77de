/-
The reader in any company.

The helper's attempts and its loop use the reader's slot in a few ways of
their own. That the end of the input overtakes no line depends on none of
them: a company is the reader at its slot with any number of other
threads, which take lines at any time and cancel the session at any time
for any reason. Every run of the helper is one of a company
(`Run.company`).

A step is a whole critical section, as in `Slot.Room`. A thread that must
wait has no step, and whether it is parked meanwhile is nothing that the
slot or the reader could tell.

# The argument

A reader that has put a line into the slot stays there until the line is
gone (`Orderly.waiting`), and it reads only when no complete line is left
in its buffer. So if nobody has cancelled when it leaves, the slot is
empty and every complete line was handed over and taken. That is the only
way in which the reader comes to be the one who cancels, and from then on
nothing comes in, is put in or is left behind (`Closed`).
-/
import ScreenUnlock.Auth.Backend
import ScreenUnlock.Proofs.Dispatch.Replay
import ScreenUnlock.Proofs.Dispatch.Supply

namespace ScreenUnlock.Dispatch

open LineBuffer (lineLimit)

/-- The reader at its slot. -/
structure Company where
  reader : Reader
  slot : Slot

namespace Company

-- ============================================================= the steps

/-- A step of the reader or of another thread; the others are numbered. -/
inductive Action where
  | reader (action : Reader.Action)
  | take (thread : Nat)
  | cancel (thread : Nat) (reason : CancelReason)
  -- Drop the line; nobody does so before the session is cancelled.
  | clear
  deriving DecidableEq, Repr

/-- What a take shows. -/
def took (thread : Nat) : Handoff → List Event
  | .secret line => [.attempt thread (.conversed (.take line))]
  | .cancelled _ => []

/-- The company after an action, if the action is possible, and what can be
seen of it. -/
def apply (action : Action) (company : Company) :
    Option (Company × List Event) :=
  match action with
  | .reader action =>
    (Reader.apply action company.reader company.slot).map fun next =>
      (⟨next.reader, next.slot⟩, (next.effect.map Event.reader).toList)
  | .take thread =>
    company.slot.take?.map fun (handoff, slot) =>
      ({ company with slot }, took thread handoff)
  | .cancel thread reason =>
    some ({ company with slot := (company.slot.cancel reason).2 },
      [.attempt thread (.conversed (.cancel reason))])
  | .clear =>
    if company.slot.cancelled.isSome then
      some ({ company with slot := company.slot.clear.2 },
        (company.slot.pending.map Event.swept).toList)
    else none

/-- The runs of a reader in company: any order of possible steps. -/
inductive Run (maxLineLen : Nat) : List Event → Company → Prop where
  | init : Run maxLineLen [] ⟨.new maxLineLen, .empty⟩
  | step {history events : List Event} {company company' : Company}
      (action : Action) :
      Run maxLineLen history company →
      apply action company = some (company', events) →
      Run maxLineLen (history ++ events) company'

variable {maxLineLen limit : Nat} {history events : List Event}
  {company company' : Company} {action : Action}

/-- A step, with what it finds in the slot. -/
inductive Arm (company : Company) :
    Action → Company → List Event → Prop where
  | reader {action : Reader.Action} {next : Reader.Next} :
      Reader.Arm company.reader company.slot action next →
      Arm company (.reader action) ⟨next.reader, next.slot⟩
        (next.effect.map Event.reader).toList
  | take {thread : Nat} {line : Secret} :
      company.slot.cancelled = none → company.slot.pending = some line →
      Arm company (.take thread)
        { company with slot := { company.slot with pending := none } }
        [.attempt thread (.conversed (.take line))]
  | turnAway {thread : Nat} :
      company.slot.cancelled.isSome = true →
      Arm company (.take thread) company []
  | cancel {thread : Nat} {reason : CancelReason} :
      company.slot.cancelled = none →
      Arm company (.cancel thread reason)
        { company with
          slot := { company.slot with cancelled := some reason } }
        [.attempt thread (.conversed (.cancel reason))]
  -- Somebody has cancelled the session before.
  | defer {thread : Nat} {reason : CancelReason} :
      company.slot.cancelled.isSome = true →
      Arm company (.cancel thread reason) company
        [.attempt thread (.conversed (.cancel reason))]
  | clear : company.slot.cancelled.isSome = true →
      Arm company .clear
        { company with slot := { company.slot with pending := none } }
        (company.slot.pending.map Event.swept).toList

/-- Every step is one of the arms. -/
theorem arm_of_apply (hstep : apply action company = some (company', events)) :
    Arm company action company' events := by
  cases action with
  | reader action =>
      obtain ⟨next, hnext, heq⟩ := Option.map_eq_some_iff.mp hstep
      cases heq
      exact .reader (Reader.arm_of_apply hnext)
  | take thread =>
      obtain ⟨⟨handoff, slot'⟩, htake, heq⟩ := Option.map_eq_some_iff.mp hstep
      cases heq
      rcases Slot.take?_inv htake with ⟨reason, rfl, hreason, rfl⟩
        | ⟨line, rfl, hnone, hpending, rfl⟩
      · exact .turnAway (Option.isSome_of_eq_some hreason)
      · exact .take hnone hpending
  | cancel thread reason =>
      cases hcancelled : company.slot.cancelled with
      | none =>
          simp only [apply, Slot.cancel_of_none hcancelled] at hstep
          cases hstep
          exact .cancel hcancelled
      | some first =>
          have hsome := Option.isSome_of_eq_some hcancelled
          simp only [apply, Slot.cancel_of_isSome hsome] at hstep
          cases hstep
          exact .defer hsome
  | clear =>
      simp only [apply] at hstep
      split at hstep
      case isTrue hsome =>
        cases hstep
        exact .clear hsome
      case isFalse => cases hstep

-- ========================================================= the invariant

/-- The reader has cancelled the session. At that moment every complete
line of the input was handed over and taken, and since then nothing has
come in. -/
structure Closed (limit : Nat) (history : List Event) (company : Company) :
    Prop where
  phase : company.reader.phase = .sweeping ∨ company.reader.phase = .finished
  drained : company.reader.buffer.nextLine? = none
  empty : company.slot.pending = none
  whole : ∃ before after,
    history = before ++ .reader (.cancelled .inputClosed) :: after
      ∧ published before = Bytes.cutLines limit (received history)
      ∧ taken before = Bytes.cutLines limit (received history)

/-- What holds at each point of a run. -/
structure Orderly (limit : Nat) (history : List Event) (company : Company) :
    Prop where
  supply : Supply limit history company.reader company.slot
  handed : Handed history company.slot
  waiting : company.slot.cancelled = none →
    company.slot.pending.isSome = true → company.reader.phase = .awaiting
  left : company.reader.phase = .sweeping ∨ company.reader.phase = .finished →
    company.slot.cancelled.isSome = true
  reason : company.slot.cancelled = some .inputClosed →
    .reader (.cancelled .inputClosed) ∈ history
      ∨ ∃ thread, .attempt thread (.conversed (.cancel .inputClosed)) ∈ history
  closed : .reader (.cancelled .inputClosed) ∈ history →
    Closed limit history company

theorem Closed.same (h : Closed limit history company)
    (hphase : company'.reader.phase = .sweeping
      ∨ company'.reader.phase = .finished)
    (hbuffer : company'.reader.buffer = company.reader.buffer)
    (hempty : company'.slot.pending = none)
    (hreceived : received events = []) :
    Closed limit (history ++ events) company' where
  phase := hphase
  drained := by
    rw [hbuffer]
    exact h.drained
  empty := hempty
  whole := by
    obtain ⟨before, after, hsplit, hpublished, htaken⟩ := h.whole
    rw [received_append, hreceived, List.append_nil]
    refine ⟨before, after ++ events, ?_, hpublished, htaken⟩
    rw [hsplit, List.append_assoc, List.cons_append]

/-- Whoever has said that the input is closed has said it from then on. -/
theorem Orderly.reason_append (h : Orderly limit history company)
    (hreason : company.slot.cancelled = some .inputClosed)
    (events : List Event) :
    .reader (.cancelled .inputClosed) ∈ history ++ events
      ∨ ∃ thread,
        .attempt thread (.conversed (.cancel .inputClosed))
          ∈ history ++ events :=
  (h.reason hreason).imp (List.mem_append_left _)
    fun ⟨thread, hmem⟩ => ⟨thread, List.mem_append_left _ hmem⟩

theorem Orderly.start :
    Orderly (lineLimit maxLineLen) [] ⟨.new maxLineLen, .empty⟩ where
  supply := .start maxLineLen
  handed := .start
  waiting _ hsome := by cases hsome
  left := by
    rintro (h | h) <;> exact absurd (Reader.phase_of_new h) (by decide)
  reason hreason := by cases hreason
  closed hmem := by cases hmem

-- ======================================================= the reader acts

/-- The reader is the one who cancels. -/
theorem Orderly.close (h : Orderly limit history company)
    (hphase : company.reader.phase = .leaving)
    (hnone : company.slot.cancelled = none) :
    Closed limit (history ++ [.reader (.cancelled .inputClosed)])
      ⟨{ phase := .sweeping, buffer := company.reader.buffer.clear },
        { company.slot with cancelled := some .inputClosed }⟩ := by
  obtain ⟨hempty, hpublished, htaken⟩ :=
    h.handed.whole h.supply h.waiting hphase hnone
  have hreceived : received (history ++ [.reader (.cancelled .inputClosed)])
      = received history := by
    rw [received_append]
    exact List.append_nil _
  exact {
    phase := .inl rfl
    drained := LineBuffer.nextLine?_clear _
    empty := hempty
    whole := ⟨history, [], rfl, hreceived ▸ hpublished, hreceived ▸ htaken⟩ }

/-- No other step of the reader shows a cancellation. -/
theorem Orderly.reader_closed (h : Orderly limit history company)
    {action : Reader.Action} {next : Reader.Next}
    (harm : Reader.Arm company.reader company.slot action next)
    (hmem : .reader (.cancelled .inputClosed)
      ∈ history ++ (next.effect.map Event.reader).toList) :
    Closed limit (history ++ (next.effect.map Event.reader).toList)
      ⟨next.reader, next.slot⟩ := by
  cases harm with
  | cancel hphase hnone => exact h.close hphase hnone
  | sweep hphase =>
      have hclosed := h.closed (by simpa using hmem)
      have hempty := hclosed.empty
      refine hclosed.same (.inr rfl) rfl rfl ?_
      rw [hempty]
      rfl
  | halt hphase _ | extract hphase _ _ | drained hphase _ _
  | publish hphase _ _ | refuse hphase _ | consumed hphase _ _
  | forsake hphase _ | defer hphase _ | poll _ hphase | receive hphase _ _
  | retry hphase _ | close hphase _ | crash hphase =>
      have hclosed := (h.closed (by simpa using hmem)).phase
      rw [hphase] at hclosed
      simp at hclosed

theorem Orderly.reader (h : Orderly limit history company)
    {action : Reader.Action} {next : Reader.Next}
    (harm : Reader.Arm company.reader company.slot action next) :
    Orderly limit (history ++ (next.effect.map Event.reader).toList)
      ⟨next.reader, next.slot⟩ where
  supply := h.supply.step harm
  handed := h.handed.supply (fun hphase => h.left (.inl hphase)) harm
  waiting := harm.waiting h.waiting
  left := harm.left h.left
  reason hreason := by
    have hkept : next.slot.cancelled = company.slot.cancelled
        ∨ next.effect = some (.cancelled .inputClosed) := by
      rcases harm.slot_cases with ⟨hslot, -⟩ | ⟨_, -, -, -, -, hslot, -⟩
        | ⟨-, -, -, heffect⟩ | ⟨-, hslot, -⟩
      · exact .inl (by rw [hslot])
      · exact .inl (by rw [hslot])
      · exact .inr heffect
      · exact .inl (by rw [hslot])
    rcases hkept with hsame | heffect
    · exact h.reason_append (hsame ▸ hreason) _
    · left
      rw [heffect]
      exact List.mem_append_right _ (List.mem_singleton_self _)
  closed := h.reader_closed harm

-- ======================================================== the others act

/-- What the others do brings nothing in and puts nothing into the slot. -/
theorem received_of_others (h : ∀ effect, .reader effect ∉ events) :
    received events = [] := by
  refine List.flatten_eq_nil_iff.mpr fun data hmem => ?_
  obtain ⟨event, hevent, hdata⟩ := List.mem_filterMap.mp hmem
  match event, hdata with
  | .reader effect, _ => exact absurd hevent (h effect)

theorem published_of_others (h : ∀ effect, .reader effect ∉ events) :
    published events = [] := by
  refine List.filterMap_eq_nil_iff.mpr fun event hmem => ?_
  cases event with
  | reader effect => exact absurd hmem (h effect)
  | _ => rfl

/-- They leave the reader alone, and the flag up. -/
theorem Orderly.others (h : Orderly limit history company) {slot' : Slot}
    (hevents : ∀ effect, .reader effect ∉ events)
    (hhanded : Handed (history ++ events) slot')
    (hpending : slot'.pending = company.slot.pending ∨ slot'.pending = none)
    (hcancelled : slot'.cancelled = none → company.slot.cancelled = none)
    (hreason : slot'.cancelled = some .inputClosed →
      company.slot.cancelled = some .inputClosed
        ∨ ∃ thread,
          .attempt thread (.conversed (.cancel .inputClosed)) ∈ events) :
    Orderly limit (history ++ events) { company with slot := slot' } where
  supply := h.supply.same hcancelled (received_of_others hevents)
    (published_of_others hevents)
  handed := hhanded
  waiting hnone hsome := by
    refine h.waiting (hcancelled hnone) ?_
    rcases hpending with hsame | hempty
    · exact hsame ▸ hsome
    · rw [show slot'.pending = none from hempty] at hsome
      cases hsome
  left hphase := by
    show slot'.cancelled.isSome = true
    refine Option.isSome_iff_ne_none.mpr fun hnone => ?_
    have hsome := h.left hphase
    rw [hcancelled hnone] at hsome
    cases hsome
  reason hinput := by
    rcases hreason hinput with hbefore | ⟨thread, hmem⟩
    · exact h.reason_append hbefore _
    · exact .inr ⟨thread, List.mem_append_right _ hmem⟩
  closed hmem := by
    have hclosed := h.closed ((List.mem_append.mp hmem).resolve_right
      (hevents _))
    refine hclosed.same hclosed.phase rfl ?_ (received_of_others hevents)
    exact hpending.elim (fun hsame => hsame.trans hclosed.empty) id

theorem Orderly.step (h : Orderly limit history company)
    (harm : Arm company action company' events) :
    Orderly limit (history ++ events) company' := by
  cases harm with
  | reader harm => exact h.reader harm
  | @take thread line hnone hpending =>
      exact h.others (by simp) (h.handed.take hnone hpending thread) (.inr rfl)
        id .inl
  | turnAway _ | defer _ =>
      exact h.others (by simp) (h.handed.same (fun _ => rfl) rfl rfl)
        (.inl rfl) id .inl
  | @cancel thread reason _ =>
      refine h.others (by simp)
        (h.handed.same (fun hnone => by cases hnone) rfl rfl) (.inl rfl)
        (fun hnone => by cases hnone) fun hinput => .inr ⟨thread, ?_⟩
      cases hinput
      exact List.mem_singleton_self _
  | clear hsome =>
      have htaken : taken (company.slot.pending.map Event.swept).toList
          = [] := by
        cases company.slot.pending <;> rfl
      have hevents : ∀ effect, Event.reader effect
          ∉ (company.slot.pending.map Event.swept).toList := by
        simp
      refine h.others hevents (h.handed.same (fun hnone => ?_)
        (published_of_others hevents) htaken) (.inr rfl) id .inl
      rw [show company.slot.cancelled = none from hnone] at hsome
      cases hsome

theorem Run.orderly (hrun : Run maxLineLen history company) :
    Orderly (lineLimit maxLineLen) history company := by
  induction hrun with
  | init => exact .start
  | step action _ hstep ih => exact ih.step (arm_of_apply hstep)

-- ============================================================ the helper

/-- A run of a company that goes as another history does: the same comes
in, and the same lines are put in and taken. Nobody but the reader closes
the input. -/
structure Mirrors (maxLineLen : Nat) (mirror history : List Event)
    (company : Company) : Prop where
  run : Run maxLineLen mirror company
  received : received mirror = received history
  published : published mirror = published history
  taken : taken mirror = taken history
  alone : ∀ thread,
    .attempt thread (.conversed (.cancel .inputClosed)) ∉ mirror

section Mirrors

variable {mirror reflected : List Event}
  (h : Mirrors maxLineLen mirror history company)

include h

theorem Mirrors.step
    (hstep : apply action company = some (company', reflected))
    (hreceived : Dispatch.received reflected = Dispatch.received events)
    (hpublished : Dispatch.published reflected = Dispatch.published events)
    (htaken : Dispatch.taken reflected = Dispatch.taken events)
    (halone : ∀ thread,
      .attempt thread (.conversed (.cancel .inputClosed)) ∉ reflected) :
    Mirrors maxLineLen (mirror ++ reflected) (history ++ events) company' where
  run := .step action h.run hstep
  received := by rw [received_append, received_append, h.received, hreceived]
  published := by
    rw [published_append, published_append, h.published, hpublished]
  taken := by rw [taken_append, taken_append, h.taken, htaken]
  alone thread hmem :=
    (List.mem_append.mp hmem).elim (h.alone thread) (halone thread)

/-- A step that does not touch the slot. -/
theorem Mirrors.same (hreceived : Dispatch.received events = [])
    (hpublished : Dispatch.published events = [])
    (htaken : Dispatch.taken events = []) :
    Mirrors maxLineLen mirror (history ++ events) company where
  run := h.run
  received := by rw [received_append, hreceived, List.append_nil, h.received]
  published := by
    rw [published_append, hpublished, List.append_nil, h.published]
  taken := by rw [taken_append, htaken, List.append_nil, h.taken]
  alone := h.alone

end Mirrors

variable {setup : Setup} {context : AuthContext} {maxFailures : UInt32}
  {sink : Sink} {state state' : State} {mirror : List Event}

/-- An attempt takes and cancels as any thread may. -/
theorem Mirrors.attempt
    (h : Mirrors maxLineLen mirror history ⟨state.reader, state.session.slot⟩)
    {number clock : Nat} {attempt : Attempt} {next : Attempt.Next}
    (harm : Attempt.Arm clock state.session.slot attempt next) :
    ∃ mirror', Mirrors maxLineLen mirror'
      (history ++ (next.effect.map (Event.attempt number)).toList)
      ⟨state.reader, next.slot⟩ := by
  rcases harm.slot_cases with ⟨hslot, hsilent⟩
    | ⟨line, hnone, hpending, hslot, heffect⟩ | ⟨hslot, heffect⟩
  · rw [hslot]
    exact ⟨mirror, h.same (received_attempt _ _) (published_attempt _ _)
      (taken_of_silent hsilent number)⟩
  · rw [hslot, heffect]
    have htake : apply (.take number) ⟨state.reader, state.session.slot⟩
        = some (⟨state.reader, { state.session.slot with pending := none }⟩,
          took number (.secret line)) := by
      simp [apply, Slot.take?, hnone, hpending]
    exact ⟨_, h.step htake rfl rfl rfl (by simp [took])⟩
  · rw [hslot, heffect]
    have hcancel : apply (.cancel number .exitRequested)
        ⟨state.reader, state.session.slot⟩ = some _ := rfl
    exact ⟨_, h.step hcancel rfl rfl rfl (by simp)⟩

/-- So does the loop, and when it drops a line it has cancelled before. -/
theorem Mirrors.move
    (h : Mirrors maxLineLen mirror history ⟨state.reader, state.session.slot⟩)
    (hstanding : Standing history state) {move : Move}
    (harm : State.Arm setup state (.move move) state' events) :
    ∃ mirror', Mirrors maxLineLen mirror' (history ++ events)
      ⟨state'.reader, state'.session.slot⟩ := by
  have hnothing := HandsNothing.of_move harm
  rw [harm.reader_of_move]
  rcases harm.slot_cases_of_move with hslot | hslot | ⟨hstopped, hslot⟩
  · rw [hslot]
    exact ⟨mirror, h.same hnothing.received hnothing.published hnothing.taken⟩
  · rw [hslot]
    -- which number the loop goes by makes no difference
    have hcancel : apply (.cancel 0 .shutdown)
        ⟨state.reader, state.session.slot⟩ = some _ := rfl
    exact ⟨_, h.step hcancel hnothing.received.symm hnothing.published.symm
      hnothing.taken.symm (by simp)⟩
  · rw [hslot]
    have hclear : apply .clear ⟨state.reader, state.session.slot⟩
        = some (⟨state.reader, state.session.slot.clear.2⟩,
          (state.session.slot.pending.map Event.swept).toList) :=
      if_pos (hstanding.stopped hstopped)
    refine ⟨_, h.step hclear ?_ ?_ ?_ (by simp)⟩
    · rw [hnothing.received]
      cases state.session.slot.pending <;> rfl
    · rw [hnothing.published]
      cases state.session.slot.pending <;> rfl
    · rw [hnothing.taken]
      cases state.session.slot.pending <;> rfl

theorem Mirrors.reader
    (h : Mirrors maxLineLen mirror history ⟨state.reader, state.session.slot⟩)
    {action : Reader.Action}
    (hstep : Dispatch.apply setup (.reader action) state
      = some (state', events)) :
    ∃ mirror', Mirrors maxLineLen mirror' (history ++ events)
      ⟨state'.reader, state'.session.slot⟩ := by
  obtain ⟨next, hnext, heq⟩ := Option.map_eq_some_iff.mp hstep
  cases heq
  have hread : apply (.reader action) ⟨state.reader, state.session.slot⟩
      = some (⟨next.reader, next.slot⟩,
        (next.effect.map Event.reader).toList) := by
    simp [apply, hnext]
  exact ⟨_, h.step hread rfl rfl rfl (by simp)⟩

end Company

/-- In every run of the helper the reader and its slot go through a run of
a company. -/
theorem Run.company {setup : Setup} {context : AuthContext}
    {maxFailures : UInt32} {sink : Sink} {history : List Event} {state : State}
    (hrun : Run setup (.start setup (.new context maxFailures) sink)
      history state) :
    ∃ mirror, Company.Mirrors setup.maxLineLen mirror history
      ⟨state.reader, state.session.slot⟩ := by
  induction hrun with
  | init => exact ⟨[], .init, rfl, rfl, rfl, fun _ hmem => by cases hmem⟩
  | step action hrun hstep ih =>
      obtain ⟨mirror, hmirrors⟩ := ih
      cases action with
      | reader action => exact hmirrors.reader hstep
      | attempt number =>
          cases State.arm_of_apply hstep with
          | attempt _ harm => exact hmirrors.attempt harm
      | move move =>
          exact hmirrors.move hrun.standing (State.arm_of_apply hstep)
      | elapse milliseconds =>
          cases State.arm_of_apply hstep
          exact ⟨mirror, hmirrors.same rfl rfl rfl⟩

namespace Company

-- ================================================== the end of the input

/-- The end of the input overtakes no line, for every input, every way in
which it arrives, and every order of the steps of the reader and of any
number of threads that take from the slot or cancel the session.

If the session is cancelled because the input is closed, and that is not
what another thread has said, then the reader has cancelled it; and before
it did, every complete line of the bytes that have come in, cut to the
bytes that are kept of a line, had been put into the slot and been taken.

And as long as a line is left in the buffer, in the reader's hand or in
the slot, the reader has not cancelled the session. -/
theorem Run.closes_last {maxLineLen : Nat} {history : List Event}
    {company : Company} (hrun : Run maxLineLen history company) :
    (company.slot.cancelled = some .inputClosed →
      (∀ thread,
        .attempt thread (.conversed (.cancel .inputClosed)) ∉ history) →
      ∃ before after,
        history = before ++ .reader (.cancelled .inputClosed) :: after
          ∧ published before = (Bytes.completeLines (received history)).map
            (List.take (max maxLineLen 1))
          ∧ taken before = (Bytes.completeLines (received history)).map
            (List.take (max maxLineLen 1)))
      ∧ (company.reader.buffer.nextLine?.isSome = true
          ∨ (∃ line, company.reader.phase = .offering line)
          ∨ company.slot.pending.isSome = true →
        .reader (.cancelled .inputClosed) ∉ history) := by
  have horderly := hrun.orderly
  constructor
  · intro hreason halone
    have hmem := (horderly.reason hreason).resolve_right
      fun ⟨thread, hother⟩ => halone thread hother
    exact (horderly.closed hmem).whole
  · intro hleft hmem
    have hclosed := horderly.closed hmem
    rcases hleft with hline | ⟨line, hphase⟩ | hline
    · rw [hclosed.drained] at hline
      cases hline
    · have hdone := hclosed.phase
      rw [hphase] at hdone
      simp at hdone
    · rw [hclosed.empty] at hline
      cases hline

/-- One line and the beginning of another come in, and then the input ends.
While the line lies in the slot the session stays open; once it is taken,
the reader cancels. -/
theorem closes_last_one_line :
    (∃ history company, Run 8 history company
      ∧ received history = [112, 119, 10, 120]
      ∧ company.slot.pending = some ⟨[112, 119]⟩
      ∧ .reader (.cancelled .inputClosed) ∉ history)
      ∧ ∃ history company, Run 8 history company
        ∧ received history = [112, 119, 10, 120]
        ∧ company.slot.cancelled = some .inputClosed
        ∧ ∃ before after,
          history = before ++ .reader (.cancelled .inputClosed) :: after
            ∧ published before = [[112, 119]]
            ∧ taken before = [[112, 119]] := by
  constructor
  · obtain ⟨history, state, hrun, hview⟩ := Dispatch.Run.exists_of_replay
      ⟨.fixed {}, 8, 0⟩
      (.start ⟨.fixed {}, 8, 0⟩ (.new ⟨"user", none⟩ 2) {})
      [.reader .step, .reader (.poll .ready),
        .reader (.read (.bytes [112, 119, 10, 120])), .reader .step,
        .reader .step]
      (fun state history => (received history, state.session.slot.pending))
      ([112, 119, 10, 120], some ⟨[112, 119]⟩) (by decide +kernel)
    obtain ⟨hreceived, hpending⟩ := Prod.mk.inj hview
    obtain ⟨mirror, hmirrors⟩ := hrun.company
    have hopen := hmirrors.run.closes_last.2
      (.inr (.inr (Option.isSome_of_eq_some hpending)))
    have hreceived' := hmirrors.received.trans hreceived
    exact ⟨mirror, _, hmirrors.run, hreceived', hpending, hopen⟩
  · obtain ⟨history, state, hrun, hview⟩ := Dispatch.Run.exists_of_replay
      ⟨.fixed {}, 8, 0⟩
      (.start ⟨.fixed {}, 8, 0⟩ (.new ⟨"user", none⟩ 2) {})
      [.move .check, .move .launch, .attempt 0, .attempt 0, .attempt 0,
        .reader .step, .reader (.poll .ready),
        .reader (.read (.bytes [112, 119, 10, 120])), .reader .step,
        .reader .step, .attempt 0, .reader .step, .reader .step,
        .reader (.poll .ready), .reader (.read .endOfInput), .reader .step]
      (fun state history => (received history, state.session.slot.cancelled))
      ([112, 119, 10, 120], some .inputClosed) (by decide +kernel)
    obtain ⟨hreceived, hreason⟩ := Prod.mk.inj hview
    obtain ⟨mirror, hmirrors⟩ := hrun.company
    have hreceived' := hmirrors.received.trans hreceived
    obtain ⟨before, after, hsplit, hpublished, htaken⟩ :=
      hmirrors.run.closes_last.1 hreason hmirrors.alone
    rw [hreceived'] at hpublished htaken
    exact ⟨mirror, _, hmirrors.run, hreceived', hreason, before, after, hsplit,
      hpublished, htaken⟩

end Company

end ScreenUnlock.Dispatch
