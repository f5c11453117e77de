/-
What the reader puts into the slot, and what comes out of it.

# The reader

At every place of its loop the reader's buffer carries the lines of the
input that were not handed over yet (`Supply`). It reads only when no
complete line is left, so a read always finds room, and it hands over
one line after the other, so what it has put into the slot is the
beginning of what came in. When it is done with the input, either
somebody has cancelled the session or every complete line was handed
over.

# The slot

Until the session is cancelled, a line that was put in has been taken out
or still lies there (`Handed`). After that nothing goes in or out.
-/
import ScreenUnlock.Proofs.Dispatch.Flag
import ScreenUnlock.Proofs.Dispatch.Standing
import ScreenUnlock.Proofs.Input.Buffer

namespace ScreenUnlock.Dispatch

open LineBuffer (lineLimit)

variable {setup : Setup} {context : AuthContext} {maxFailures : UInt32}
  {sink : Sink} {history events : List Event} {state state' : State}
  {action : Action} {limit : Nat} {reader : Reader} {slot : Slot}

open State (Arm arm_of_apply)

-- ============================================================ the reader

/-- What the reader has handed over, and what its buffer still carries. -/
inductive Supply (limit : Nat) (history : List Event) (reader : Reader)
    (slot : Slot) : Prop where
  -- Between two lines.
  | steady {lines : List Bytes} :
      reader.phase = .looking ∨ reader.phase = .awaiting →
      reader.buffer.maxLine = limit →
      reader.buffer.Carries (published history) lines (received history) →
      Supply limit history reader slot
  | drained : reader.phase = .polling ∨ reader.phase = .reading →
      reader.buffer.maxLine = limit →
      reader.buffer.Carries (published history) [] (received history) →
      Supply limit history reader slot
  | offering {line : Secret} {lines : List Bytes} :
      reader.phase = .offering line → reader.buffer.maxLine = limit →
      reader.buffer.Carries (published history ++ [line.bytes]) lines
        (received history) →
      Supply limit history reader slot
  -- Done with the input.
  | past : reader.phase = .leaving ∨ reader.phase = .sweeping
        ∨ reader.phase = .finished ∨ reader.phase = .crashed →
      published history <+: Bytes.cutLines limit (received history) →
      (slot.cancelled = none →
        published history = Bytes.cutLines limit (received history)) →
      Supply limit history reader slot

theorem Carries.prefix_cutLines {buffer : LineBuffer}
    {taken lines : List Bytes} {input : Bytes}
    (h : buffer.Carries taken lines input) :
    taken <+: Bytes.cutLines buffer.maxLine input :=
  ⟨lines, h.cut⟩

/-- What was put into the slot is the beginning of what came in. -/
theorem Supply.published_prefix (h : Supply limit history reader slot) :
    published history <+: Bytes.cutLines limit (received history) := by
  cases h with
  | steady _ hlimit hcarries | drained _ hlimit hcarries =>
      exact hlimit ▸ Carries.prefix_cutLines hcarries
  | offering _ hlimit hcarries =>
      exact (List.prefix_append _ _).trans
        (hlimit ▸ Carries.prefix_cutLines hcarries)
  | past _ hprefix _ => exact hprefix

theorem Supply.start (maxLineLen : Nat) :
    Supply (lineLimit maxLineLen) [] (.new maxLineLen) slot := by
  unfold Reader.new LineBuffer.new?
  split
  case h_1 buffer hnew =>
    split at hnew
    · cases hnew
      exact .steady (.inl rfl) rfl (LineBuffer.carries_new maxLineLen)
    · cases hnew
  case h_2 =>
    exact .past (.inr (.inr (.inr rfl))) List.prefix_rfl fun _ => rfl

/-- Other threads leave the reader alone. -/
theorem Supply.same (h : Supply limit history reader slot) {slot' : Slot}
    (hslot : slot'.cancelled = none → slot.cancelled = none)
    (hreceived : received events = []) (hpublished : published events = []) :
    Supply limit (history ++ events) reader slot' := by
  have hreceived' : received (history ++ events) = received history := by
    rw [received_append, hreceived, List.append_nil]
  have hpublished' : published (history ++ events) = published history := by
    rw [published_append, hpublished, List.append_nil]
  cases h with
  | steady hphase hlimit hcarries =>
      exact .steady hphase hlimit (by rwa [hreceived', hpublished'])
  | drained hphase hlimit hcarries =>
      exact .drained hphase hlimit (by rwa [hreceived', hpublished'])
  | offering hphase hlimit hcarries =>
      exact .offering hphase hlimit (by rwa [hreceived', hpublished'])
  | past hphase hprefix hwhole =>
      refine .past hphase (by rwa [hreceived', hpublished']) fun hnone => ?_
      rw [hreceived', hpublished', hwhole (hslot hnone)]

/-- The reader is done with the input, or goes on with what follows. -/
theorem Supply.leave (h : Supply limit history reader slot)
    {reader' : Reader} {slot' : Slot}
    (hphase : reader'.phase = .leaving ∨ reader'.phase = .sweeping
      ∨ reader'.phase = .finished ∨ reader'.phase = .crashed)
    (hwhole : slot'.cancelled = none →
      published history = Bytes.cutLines limit (received history))
    (hreceived : received events = []) (hpublished : published events = []) :
    Supply limit (history ++ events) reader' slot' := by
  have hreceived' : received (history ++ events) = received history := by
    rw [received_append, hreceived, List.append_nil]
  have hpublished' : published (history ++ events) = published history := by
    rw [published_append, hpublished, List.append_nil]
  refine .past hphase ?_ ?_ <;> rw [hreceived', hpublished']
  · exact h.published_prefix
  · exact hwhole

/-- A buffer without a complete line: all of them were handed over. -/
theorem Carries.eq_cutLines {buffer : LineBuffer} {taken : List Bytes}
    {input : Bytes} (h : buffer.Carries taken [] input) :
    taken = Bytes.cutLines buffer.maxLine input :=
  (List.append_nil taken).symm.trans h.cut

/-- A reader that polls or reads has handed every complete line over. -/
theorem Supply.carries_nil (h : Supply limit history reader slot)
    (hphase : reader.phase = .polling ∨ reader.phase = .reading) :
    reader.buffer.maxLine = limit
      ∧ reader.buffer.Carries (published history) [] (received history) := by
  cases h with
  | drained _ hlimit hcarries => exact ⟨hlimit, hcarries⟩
  | steady hphase' | offering hphase' | past hphase' =>
      rcases hphase with hphase | hphase <;> simp [hphase] at hphase'

/-- A reader between two lines. -/
theorem Supply.carries (h : Supply limit history reader slot)
    (hphase : reader.phase = .looking ∨ reader.phase = .awaiting) :
    reader.buffer.maxLine = limit ∧ ∃ lines,
      reader.buffer.Carries (published history) lines (received history) := by
  cases h with
  | steady _ hlimit hcarries => exact ⟨hlimit, _, hcarries⟩
  | drained hphase' | offering hphase' | past hphase' =>
      rcases hphase with hphase | hphase <;> simp [hphase] at hphase'

/-- A reader with a line in hand. -/
theorem Supply.carries_line (h : Supply limit history reader slot)
    {line : Secret} (hphase : reader.phase = .offering line) :
    reader.buffer.maxLine = limit ∧ ∃ lines,
      reader.buffer.Carries (published history ++ [line.bytes]) lines
        (received history) := by
  cases h with
  | @offering line' _ hphase' hlimit hcarries =>
      rw [hphase] at hphase'
      cases hphase'
      exact ⟨hlimit, _, hcarries⟩
  | steady hphase' | drained hphase' | past hphase' =>
      simp [hphase] at hphase'

/-- A reader that is done with the input. -/
theorem Supply.whole (h : Supply limit history reader slot)
    (hphase : reader.phase = .leaving ∨ reader.phase = .sweeping)
    (hnone : slot.cancelled = none) :
    published history = Bytes.cutLines limit (received history) := by
  cases h with
  | past _ _ hwhole => exact hwhole hnone
  | steady hphase' | drained hphase' | offering hphase' =>
      rcases hphase with hphase | hphase <;> simp [hphase] at hphase'

/-- The reader takes a line out of its buffer. -/
theorem Supply.extract (h : Supply limit history reader slot)
    (hphase : reader.phase = .looking) {line : Secret} {buffer : LineBuffer}
    (hline : reader.buffer.nextLine? = some (line, buffer)) :
    Supply limit history { phase := .offering line, buffer } slot := by
  obtain ⟨hlimit, lines, hcarries⟩ := h.carries (.inl hphase)
  cases lines with
  | nil =>
      rw [hcarries.nextLine?_nil] at hline
      cases hline
  | cons first rest =>
      obtain ⟨buffer', hnext, hmax, hcarries'⟩ := hcarries.nextLine?_cons
      rw [hnext] at hline
      cases hline
      exact .offering rfl (hmax.trans hlimit) hcarries'

/-- The reader finds no line in its buffer. -/
theorem Supply.drain (h : Supply limit history reader slot)
    (hphase : reader.phase = .looking)
    (hnone : reader.buffer.nextLine? = none) :
    Supply limit history (reader.goto .polling) slot := by
  obtain ⟨hlimit, lines, hcarries⟩ := h.carries (.inl hphase)
  cases lines with
  | nil => exact .drained (.inl rfl) hlimit hcarries
  | cons first rest =>
      obtain ⟨buffer', hnext, -⟩ := hcarries.nextLine?_cons
      rw [hnone] at hnext
      cases hnext

/-- Bytes come in, and all of them find a cell. -/
theorem Supply.receive (h : Supply limit history reader slot)
    (hphase : reader.phase = .reading) {data : Bytes}
    (hread : data.length ≤ readChunk) :
    Supply limit (history ++ [.reader (.received data)])
      { phase := .looking, buffer := reader.buffer.push data } slot := by
  obtain ⟨hlimit, hcarries⟩ := h.carries_nil (.inr hphase)
  -- a line and a read fit together, and no complete line is left
  have hroom : reader.buffer.length + data.length
      ≤ reader.buffer.capacity := by
    have := hcarries.length_le
    rw [hcarries.capacity]
    omega
  obtain ⟨lines, hpush⟩ := hcarries.push data hroom
  refine @Supply.steady _ _ _ _ lines (.inl rfl) ?_ ?_
  · exact (LineBuffer.push_fixed data reader.buffer).2.trans hlimit
  · rw [published_append, received_append]
    show (reader.buffer.push data).Carries (published history ++ []) lines
      (received history ++ (data ++ []))
    rw [List.append_nil, List.append_nil]
    exact hpush

theorem Supply.step (h : Supply limit history reader slot)
    {action : Reader.Action} {next : Reader.Next}
    (harm : Reader.Arm reader slot action next) :
    Supply limit (history ++ (next.effect.map Event.reader).toList)
      next.reader next.slot := by
  -- the steps that leave no trace
  have hsilent : ∀ {reader' : Reader} {slot' : Slot},
      Supply limit history reader' slot' →
      Supply limit (history ++ []) reader' slot' := by
    intro reader' slot' h'
    rwa [List.append_nil]
  cases harm with
  | halt _ hcancelled | refuse _ hcancelled | forsake _ hcancelled
  | defer _ hcancelled =>
      refine h.leave (by simp [Reader.goto]) (fun hnone => ?_) rfl rfl
      rw [hnone] at hcancelled
      cases hcancelled
  | extract hphase _ hline => exact hsilent (h.extract hphase hline)
  | drained hphase _ hnone => exact hsilent (h.drain hphase hnone)
  | publish hphase _ _ =>
      obtain ⟨hlimit, lines, hcarries⟩ := h.carries_line hphase
      refine @Supply.steady _ _ _ _ lines (.inr rfl) hlimit ?_
      rw [published_append, received_append]
      exact (List.append_nil (received history)).symm ▸ hcarries
  | consumed hphase _ _ =>
      obtain ⟨hlimit, lines, hcarries⟩ := h.carries (.inr hphase)
      exact hsilent (.steady (.inl rfl) hlimit hcarries)
  | cancel _ _ =>
      exact h.leave (.inr (.inl rfl)) (fun hnone => by cases hnone) rfl rfl
  | sweep hphase =>
      refine h.leave (.inr (.inr (.inl rfl))) (h.whole (.inr hphase)) ?_ ?_ <;>
        cases slot.pending <;> rfl
  | poll readiness hphase =>
      obtain ⟨hlimit, hcarries⟩ := h.carries_nil (.inl hphase)
      cases readiness with
      | ready => exact hsilent (.drained (.inr rfl) hlimit hcarries)
      | idle | signal => exact hsilent (.steady (.inl rfl) hlimit hcarries)
      | failed =>
          exact h.leave (.inl rfl)
            (fun _ => hlimit ▸ Carries.eq_cutLines hcarries) rfl rfl
  | receive hphase _ hread => exact h.receive hphase hread
  | retry hphase _ =>
      obtain ⟨hlimit, hcarries⟩ := h.carries_nil (.inr hphase)
      exact hsilent (.steady (.inl rfl) hlimit hcarries)
  | close hphase _ | crash hphase =>
      obtain ⟨hlimit, hcarries⟩ := h.carries_nil (.inr hphase)
      exact h.leave (by simp [Reader.goto])
        (fun _ => hlimit ▸ Carries.eq_cutLines hcarries) rfl rfl

/-- No step of another thread takes the cancellation back. -/
theorem State.Arm.cancelled_mono
    (harm : Arm setup state action state' events)
    (hnone : state'.session.slot.cancelled = none) :
    state.session.slot.cancelled = none := by
  cases hcancelled : state.session.slot.cancelled with
  | none => rfl
  | some reason =>
      have := harm.cancelled_iff.mpr (.inl (by rw [hcancelled]; rfl))
      rw [hnone] at this
      cases this

theorem received_attempt (number : Nat) (effect : Option Attempt.Effect) :
    received (effect.map (Event.attempt number)).toList = [] := by
  cases effect <;> rfl

theorem published_attempt (number : Nat) (effect : Option Attempt.Effect) :
    published (effect.map (Event.attempt number)).toList = [] := by
  cases effect <;> rfl

/-- Only a take takes. -/
theorem taken_of_silent {effect : Option Attempt.Effect}
    (h : ∀ line, effect ≠ some (.conversed (.take line))) (number : Nat) :
    taken (effect.map (Event.attempt number)).toList = [] := by
  match effect, h with
  | some (.conversed (.take line)), h => exact absurd rfl (h line)
  | none, _ | some (.conversed (.emit _)), _
  | some (.conversed (.cancel _)), _ | some (.replied _), _ => rfl

theorem Supply.arm (h : Supply limit history state.reader state.session.slot)
    (harm : Arm setup state action state' events) :
    Supply limit (history ++ events) state'.reader state'.session.slot := by
  have hmono := harm.cancelled_mono
  cases action with
  | reader action =>
      cases harm with
      | reader harm => exact h.step harm
  | attempt number =>
      cases harm with
      | attempt _ harm =>
          exact h.same hmono (received_attempt _ _) (published_attempt _ _)
  | move move =>
      have hnothing := HandsNothing.of_move harm
      rw [harm.reader_of_move]
      exact h.same hmono hnothing.received hnothing.published
  | elapse milliseconds =>
      cases harm
      exact h.same id rfl rfl

/-- In every run the reader hands over what comes in, line by line. -/
theorem Run.supply
    (hrun : Run setup (.start setup (.new context maxFailures) sink)
      history state) :
    Supply (lineLimit setup.maxLineLen) history state.reader
      state.session.slot := by
  induction hrun with
  | init => exact .start setup.maxLineLen
  | step action _ hstep ih => exact ih.arm (arm_of_apply hstep)

-- ============================================================== the slot

/-- What the dispatch loop does to the slot: nothing, or it cancels the
session and drops the line at its end. -/
theorem State.Arm.slot_cases_of_move {move : Move}
    (harm : Arm setup state (.move move) state' events) :
    state'.session.slot = state.session.slot
      ∨ state'.session.slot = (state.session.slot.cancel .shutdown).2
      ∨ (state.phase.hasStopped = true
        ∧ state'.session.slot = state.session.slot.clear.2) := by
  cases harm with
  | halt _ hobserve hwrote =>
      cases hwrote <;> exact .inl (Session.observe_slot hobserve)
  | proceed _ hobserve => exact .inl (Session.observe_slot hobserve)
  | retry _ _ hrecord hwrote | conclude _ _ hrecord hwrote =>
      cases hwrote <;> exact .inl (Session.record_slot hrecord)
  | forward _ _ hwrote | drain _ _ hwrote => cases hwrote <;> exact .inl rfl
  | stop _ => exact .inr (.inl rfl)
  | sweep hphase => exact .inr (.inr ⟨by rw [hphase]; rfl, rfl⟩)
  | _ => exact .inl rfl

/-- As long as the session is not cancelled, the dispatch loop leaves the
slot alone. -/
theorem State.Arm.slot_of_move {move : Move}
    (harm : Arm setup state (.move move) state' events)
    (hstanding : Standing history state)
    (hnone : state'.session.slot.cancelled = none) :
    state'.session.slot = state.session.slot := by
  rcases harm.slot_cases_of_move with hslot | hslot | ⟨hstopped, hslot⟩
  · exact hslot
  · have hsome := Slot.cancel_cancelled state.session.slot .shutdown
    rw [← hslot, hnone] at hsome
    cases hsome
  · have hcancelled := hstanding.stopped hstopped
    rw [hslot] at hnone
    rw [show state.session.slot.cancelled = none from hnone] at hcancelled
    cases hcancelled

/-- What went through the slot. -/
structure Handed (history : List Event) (slot : Slot) : Prop where
  lies : slot.cancelled = none → published history
    = taken history ++ (slot.pending.map Secret.bytes).toList
  inOrder : taken history <+: published history

theorem Handed.start : Handed [] .empty where
  lies _ := rfl
  inOrder := List.prefix_rfl

/-- Nothing goes in or out. -/
theorem Handed.same (h : Handed history slot) {slot' : Slot}
    (hslot : slot'.cancelled = none → slot' = slot)
    (hpublished : published events = []) (htaken : taken events = []) :
    Handed (history ++ events) slot' where
  lies hnone := by
    have hsame := hslot hnone
    rw [hsame] at hnone ⊢
    rw [published_append, taken_append, hpublished, htaken, List.append_nil,
      List.append_nil, h.lies hnone]
  inOrder := by
    rw [published_append, taken_append, hpublished, htaken, List.append_nil,
      List.append_nil]
    exact h.inOrder

theorem Handed.supply (h : Handed history slot)
    (hleft : reader.phase = .sweeping → slot.cancelled.isSome = true)
    {action : Reader.Action} {next : Reader.Next}
    (harm : Reader.Arm reader slot action next) :
    Handed (history ++ (next.effect.map Event.reader).toList) next.slot := by
  have htaken : taken (next.effect.map Event.reader).toList = [] := by
    cases next.effect <;> rfl
  rcases harm.slot_cases with ⟨hslot, hsilent⟩
    | ⟨line, -, hnone, hempty, -, hslot, heffect⟩ | ⟨-, -, hslot, heffect⟩
    | ⟨hphase, hslot, heffect⟩
  · refine h.same (fun _ => hslot) ?_ htaken
    cases heffect : next.effect with
    | none => rfl
    | some effect =>
        cases effect with
        | published line => exact absurd heffect (hsilent line)
        | _ => rfl
  · have hlies := h.lies hnone
    rw [hempty] at hlies
    have hpublished : published history = taken history :=
      hlies.trans (List.append_nil _)
    rw [hslot, heffect]
    refine ⟨fun _ => ?_, ?_⟩ <;>
      rw [published_append, taken_append, hpublished,
        show taken (Option.map Event.reader (some (.published line))).toList
          = [] from rfl, List.append_nil]
    · rfl
    · exact List.prefix_append _ _
  · refine h.same (fun hnone => ?_) (by rw [heffect]; rfl) htaken
    rw [hslot] at hnone
    cases hnone
  · refine h.same (fun hnone => ?_) ?_ htaken
    · have hcancelled := hleft hphase
      rw [hslot] at hnone
      rw [show slot.cancelled = none from hnone] at hcancelled
      cases hcancelled
    · rw [heffect]
      cases slot.pending <;> rfl

/-- The line in the slot is taken. -/
theorem Handed.take (h : Handed history slot) (hnone : slot.cancelled = none)
    {line : Secret} (hpending : slot.pending = some line) (taker : Nat) :
    Handed (history ++ [.attempt taker (.conversed (.take line))])
      { slot with pending := none } := by
  have hlies := h.lies hnone
  rw [hpending] at hlies
  have htaken : taken (history ++ [.attempt taker (.conversed (.take line))])
      = published history := by
    rw [taken_append, hlies]
    rfl
  have hpublished : published
      (history ++ [.attempt taker (.conversed (.take line))])
      = published history := by
    rw [published_append]
    exact List.append_nil _
  constructor
  · intro _
    rw [hpublished, htaken]
    exact (List.append_nil _).symm
  · exact (htaken.trans hpublished.symm) ▸ List.prefix_rfl

theorem Handed.demand (h : Handed history slot) {clock number : Nat}
    {attempt : Attempt} {next : Attempt.Next}
    (harm : Attempt.Arm clock slot attempt next) :
    Handed (history ++ (next.effect.map (Event.attempt number)).toList)
      next.slot := by
  rcases harm.slot_cases with ⟨hslot, hsilent⟩
    | ⟨line, hnone, hpending, hslot, heffect⟩ | ⟨hslot, heffect⟩
  · exact h.same (fun _ => hslot) (published_attempt _ _)
      (taken_of_silent hsilent number)
  · rw [hslot, heffect]
    exact h.take hnone hpending number
  · refine h.same (fun hnone => ?_) (published_attempt _ _)
      (by rw [heffect]; rfl)
    rw [hslot] at hnone
    cases (Slot.cancel_cancelled slot .exitRequested).symm.trans hnone

/-- The reader leaves, and nobody has cancelled: the slot is empty, for a
line in it would keep the reader waiting, and every complete line that came
in was handed over and taken. -/
theorem Handed.whole (h : Handed history slot)
    (hsupply : Supply limit history reader slot)
    (hwaiting : slot.cancelled = none → slot.pending.isSome = true →
      reader.phase = .awaiting)
    (hphase : reader.phase = .leaving) (hnone : slot.cancelled = none) :
    slot.pending = none
      ∧ published history = Bytes.cutLines limit (received history)
      ∧ taken history = Bytes.cutLines limit (received history) := by
  have hempty : slot.pending = none := by
    cases hpending : slot.pending with
    | none => rfl
    | some line =>
        have hwait := hwaiting hnone (Option.isSome_of_eq_some hpending)
        rw [hphase] at hwait
        cases hwait
  have hpublished := hsupply.whole (.inl hphase) hnone
  have hlies := h.lies hnone
  rw [hempty] at hlies
  have htaken : published history = taken history :=
    hlies.trans (List.append_nil _)
  exact ⟨hempty, hpublished, htaken ▸ hpublished⟩

theorem Handed.arm (h : Handed history state.session.slot)
    (hstanding : Standing history state)
    (harm : Arm setup state action state' events) :
    Handed (history ++ events) state'.session.slot := by
  cases action with
  | reader action =>
      cases harm with
      | reader harm =>
          exact h.supply (fun hphase => hstanding.left (.inl hphase)) harm
  | attempt number =>
      cases harm with
      | attempt _ harm => exact h.demand harm
  | move move =>
      have hnothing := HandsNothing.of_move harm
      exact h.same (harm.slot_of_move hstanding) hnothing.published
        hnothing.taken
  | elapse milliseconds =>
      cases harm
      exact h.same (fun _ => rfl) rfl rfl

/-- In every run the lines go through the slot in order. -/
theorem Run.handed
    (hrun : Run setup (.start setup (.new context maxFailures) sink)
      history state) : Handed history state.session.slot := by
  induction hrun with
  | init => exact .start
  | step action hrun hstep ih => exact ih.arm hrun.standing (arm_of_apply hstep)

end ScreenUnlock.Dispatch
