/-
The course of a call: its requests, what was shown for them, and the
lines that were taken.

A call is a tree, and an attempt goes down one path of it. `Course` is
that path as far as it has been gone: a list of the requests that have
their replies (`Asked`), and the rest of the call. `Follows` says that an
attempt is on such a path, and that what it has shown and taken so far is
what belongs to the requests on it. So a statement about all attempts at
a backend is one about the paths of its tree.

A prompt goes without an answer only in a cancelled session, and
`Follows` keeps track of that too.
-/
import ScreenUnlock.Dispatch.Basic
import ScreenUnlock.Proofs.Auth.Attempt

namespace ScreenUnlock

-- =========================================================== the requests

/-- A request that has its reply, with the line that was taken for it, if
one was. -/
structure Asked where
  style : Style
  text : String
  line : Option Secret

namespace Asked

/-- The reply is the line, unless that asks for the exit. -/
def reply (asked : Asked) : Option Secret :=
  asked.line.filter fun line => decide (line.request = .secret)

/-- The messages that were shown for the request. -/
def said (asked : Asked) : List Message :=
  match asked.style with
  | .promptEchoOff =>
    [.promptOf asked.text, .busy false]
      ++ if asked.reply.isSome then [.busy true] else []
  | .textInfo => if asked.text = "" then [] else [.infoOf asked.text]
  | .promptEchoOn => []
  | .errorMsg => []

/-- The lines that were taken for the request. -/
def takes (asked : Asked) : List Bytes :=
  (asked.line.map Secret.bytes).toList

/-- Whether the request is a prompt without an answer. -/
def isMissed (asked : Asked) : Bool :=
  decide (asked.style = .promptEchoOff) && asked.reply.isNone

variable {style : Style} {text : String} {line : Secret}

theorem reply_of_exit (hrequest : line.request = .exit) :
    reply ⟨style, text, some line⟩ = none := by
  simp [reply, hrequest]

theorem reply_of_secret (hrequest : line.request = .secret) :
    reply ⟨style, text, some line⟩ = some line := by
  simp [reply, hrequest]

end Asked

/-- The path that a call has gone: its requests so far, and its rest.
Only a prompt without echo takes a line. -/
inductive Course (call : Verification) : List Asked → Verification → Prop where
  | start : Course call [] call
  | pause {log : List Asked} {milliseconds : Nat} {rest : Verification} :
      Course call log (.pause milliseconds rest) → Course call log rest
  | reply {log : List Asked} {style : Style} {text : String}
      {rest : Option Secret → Verification} {line : Option Secret} :
      Course call log (.converse style text rest) →
      (style ≠ .promptEchoOff → line = none) →
      Course call (log ++ [⟨style, text, line⟩])
        (rest (Asked.reply ⟨style, text, line⟩))

/-- On this path the call comes to the verdict. -/
def Verification.Ends (call : Verification) (log : List Asked)
    (verdict : Verdict) : Prop :=
  ∃ rest, Course call log rest ∧ rest.verdict? = some verdict

namespace Course

variable {call rest : Verification} {log : List Asked}

/-- A call that is over from the start asks nothing. -/
theorem of_verdict {verdict : Verdict} (hover : call.verdict? = some verdict)
    (h : Course call log rest) : log = [] ∧ rest = call := by
  induction h with
  | start => exact ⟨rfl, rfl⟩
  | pause _ ih =>
      obtain ⟨-, rfl⟩ := ih
      cases hover
  | reply _ _ ih =>
      obtain ⟨-, rfl⟩ := ih
      cases hover

/-- A pause asks nothing. -/
theorem of_pause {milliseconds : Nat} {body : Verification}
    (h : Course (.pause milliseconds body) log rest) :
    (log = [] ∧ rest = .pause milliseconds body) ∨ Course body log rest := by
  induction h with
  | start => exact .inl ⟨rfl, rfl⟩
  | pause _ ih =>
      rcases ih with ⟨rfl, heq⟩ | hbody
      · cases heq
        exact .inr .start
      · exact .inr (.pause hbody)
  | reply _ hline ih =>
      rcases ih with ⟨-, heq⟩ | hbody
      · cases heq
      · exact .inr (.reply hbody hline)

/-- The first request comes first, and its reply decides how the call
goes on. -/
theorem of_converse {style : Style} {text : String}
    {body : Option Secret → Verification}
    (h : Course (.converse style text body) log rest) :
    (log = [] ∧ rest = .converse style text body)
      ∨ ∃ line later, (style ≠ .promptEchoOff → line = none)
        ∧ log = ⟨style, text, line⟩ :: later
        ∧ Course (body (Asked.reply ⟨style, text, line⟩)) later rest := by
  induction h with
  | start => exact .inl ⟨rfl, rfl⟩
  | pause _ ih =>
      rcases ih with ⟨-, heq⟩ | ⟨line, later, hline, hlog, hbody⟩
      · cases heq
      · exact .inr ⟨line, later, hline, hlog, .pause hbody⟩
  | @reply _ _ _ _ line' _ hline' ih =>
      -- this reply is the first one, or comes behind the first one
      rcases ih with ⟨rfl, heq⟩ | ⟨line, later, hline, rfl, hbody⟩
      · cases heq
        exact .inr ⟨line', [], hline', rfl, .start⟩
      · exact .inr ⟨line, _, hline, rfl, .reply hbody hline'⟩

end Course

namespace Verification.Ends

variable {log : List Asked} {verdict : Verdict}

theorem of_pause {milliseconds : Nat} {body : Verification}
    (h : (Verification.pause milliseconds body).Ends log verdict) :
    body.Ends log verdict := by
  obtain ⟨rest, hcourse, hverdict⟩ := h
  rcases hcourse.of_pause with ⟨-, rfl⟩ | hbody
  · cases hverdict
  · exact ⟨rest, hbody, hverdict⟩

theorem of_converse {style : Style} {text : String}
    {body : Option Secret → Verification}
    (h : (Verification.converse style text body).Ends log verdict) :
    ∃ line later, (style ≠ .promptEchoOff → line = none)
      ∧ log = ⟨style, text, line⟩ :: later
      ∧ (body (Asked.reply ⟨style, text, line⟩)).Ends later verdict := by
  obtain ⟨rest, hcourse, hverdict⟩ := h
  rcases hcourse.of_converse with ⟨-, rfl⟩ | ⟨line, later, hline, hlog, hbody⟩
  · cases hverdict
  · exact ⟨line, later, hline, hlog, rest, hbody, hverdict⟩

theorem of_finish {failure : Option AuthError}
    (h : (Verification.finish failure).Ends log verdict) :
    log = [] ∧ verdict = .ofResult failure := by
  obtain ⟨rest, hcourse, hverdict⟩ := h
  obtain ⟨hlog, rfl⟩ := hcourse.of_verdict rfl
  cases hverdict
  exact ⟨hlog, rfl⟩

end Verification.Ends

-- ============================================================ one request

namespace Exchange

/-- How far a request has come, what was shown for it and taken. -/
inductive Along (slot : Slot) (style : Style) (text : String) :
    Exchange → List Message → List Bytes → Prop where
  | opening : Along slot style text (.opening style text) [] []
  | prompted : style = .promptEchoOff →
      Along slot style text .prompted [.promptOf text] []
  | asking : style = .promptEchoOff →
      Along slot style text .asking [.promptOf text, .busy false] []
  | exiting {line : Secret} : style = .promptEchoOff →
      line.request = .exit →
      Along slot style text .exiting [.promptOf text, .busy false]
        [line.bytes]
  | answering {line : Secret} : style = .promptEchoOff →
      line.request = .secret →
      Along slot style text (.answering line) [.promptOf text, .busy false]
        [line.bytes]
  | replied {line : Option Secret} : (style ≠ .promptEchoOff → line = none) →
      (Asked.isMissed ⟨style, text, line⟩ = true →
        slot.cancelled.isSome = true) →
      Along slot style text (.over (Asked.reply ⟨style, text, line⟩))
        (Asked.said ⟨style, text, line⟩) (Asked.takes ⟨style, text, line⟩)

variable {slot : Slot} {style : Style} {text : String} {exchange : Exchange}
  {said : List Message} {takes : List Bytes}

theorem Along.mono {slot' : Slot}
    (hmono : slot.cancelled.isSome = true → slot'.cancelled.isSome = true)
    (h : Along slot style text exchange said takes) :
    Along slot' style text exchange said takes := by
  cases h with
  | opening => exact .opening
  | prompted hstyle => exact .prompted hstyle
  | asking hstyle => exact .asking hstyle
  | exiting hstyle hrequest => exact .exiting hstyle hrequest
  | answering hstyle hrequest => exact .answering hstyle hrequest
  | replied hline hmissed => exact .replied hline (hmono ∘ hmissed)

/-- The line among the effects of a step. -/
def Effect.line? : Effect → Option Bytes
  | .take line => some line.bytes
  | _ => none

/-- The request goes on: what it shows and takes adds up. -/
theorem Along.step {next : Next}
    (h : Along slot style text exchange said takes)
    (harm : Arm slot exchange next) :
    Along next.slot style text next.exchange
      (said ++ (next.effect.bind Effect.message?).toList)
      (takes ++ (next.effect.bind Effect.line?).toList) := by
  -- the place in the request leaves one arm for each step
  cases harm with
  | prompt =>
      cases h
      exact .prompted rfl
  | inform htext =>
      cases h
      have hover := @Along.replied slot .textInfo text none (fun _ => rfl)
        (fun h => by cases h)
      unfold Asked.said at hover
      rwa [if_neg htext] at hover
  | ignore hstyle htext =>
      cases h
      have hover := @Along.replied slot style text none (fun _ => rfl)
        (by simp [Asked.isMissed, hstyle])
      have hsilent : Asked.said ⟨style, text, none⟩ = [] := by
        cases style with
        | promptEchoOff => exact absurd rfl hstyle
        | textInfo => exact if_pos (htext rfl)
        | promptEchoOn | errorMsg => rfl
      rwa [hsilent] at hover
  | ready =>
      cases h with
      | prompted hstyle => exact .asking hstyle
  | forgo hcancelled =>
      cases h with
      | asking hstyle =>
          subst hstyle
          exact @Along.replied slot .promptEchoOff text none
            (fun h => absurd rfl h) (fun _ => hcancelled)
  | takeExit _ _ hrequest =>
      cases h with
      | asking hstyle => exact .exiting hstyle hrequest
  | takeAnswer _ _ hrequest =>
      cases h with
      | asking hstyle => exact .answering hstyle hrequest
  | exit =>
      cases h with
      | @exiting line hstyle hrequest =>
          subst hstyle
          have hover := @Along.replied (slot.cancel .exitRequested).2
            .promptEchoOff text (some line) (fun h => absurd rfl h)
            (fun _ => by simp)
          unfold Asked.said at hover
          rw [Asked.reply_of_exit hrequest] at hover
          exact hover
  | @answer line =>
      cases h with
      | answering hstyle hrequest =>
          subst hstyle
          have hreply := @Asked.reply_of_secret .promptEchoOff text line
            hrequest
          have hover := @Along.replied slot .promptEchoOff text (some line)
            (fun h => absurd rfl h) (by simp [Asked.isMissed, hreply])
          unfold Asked.said at hover
          rw [hreply] at hover
          exact hover

end Exchange

-- ============================================================ one attempt

namespace Attempt

/-- The line among the effects of a step. -/
def Effect.line? : Effect → Option Bytes
  | .conversed effect => effect.line?
  | .replied _ => none

/-- What an attempt says is what the request under way says. -/
theorem bind_said?_conversed (effect : Option Exchange.Effect) :
    (effect.map Effect.conversed).bind Dispatch.Attempt.Effect.said?
      = effect.bind Exchange.Effect.message? := by
  cases effect <;> rfl

/-- Where an attempt stands on the course of its call, and what it has
shown and taken on the way. -/
inductive Stage (slot : Slot) (call : Verification) :
    Attempt → List Asked → List Message → List Bytes → Prop where
  | running {log : List Asked} {rest : Verification} :
      Course call log rest →
      Stage slot call ⟨.running rest, log.map Asked.reply⟩ log
        (log.flatMap Asked.said) (log.flatMap Asked.takes)
  | sleeping {log : List Asked} {wake : Nat} {rest : Verification} :
      Course call log rest →
      Stage slot call ⟨.sleeping wake rest, log.map Asked.reply⟩ log
        (log.flatMap Asked.said) (log.flatMap Asked.takes)
  | conversing {log : List Asked} {style : Style} {text : String}
      {rest : Option Secret → Verification} {exchange : Exchange}
      {said : List Message} {takes : List Bytes} :
      Course call log (.converse style text rest) →
      exchange.Along slot style text said takes →
      Stage slot call ⟨.conversing exchange rest, log.map Asked.reply⟩ log
        (log.flatMap Asked.said ++ said) (log.flatMap Asked.takes ++ takes)
  | ended {log : List Asked} {rest : Verification} {verdict : Verdict} :
      Course call log rest → rest.verdict? = some verdict →
      Stage slot call ⟨.ended verdict, log.map Asked.reply⟩ log
        (log.flatMap Asked.said) (log.flatMap Asked.takes)

/-- An attempt follows its call, and has left a prompt without an answer
only if the session is cancelled. -/
structure Follows (slot : Slot) (call : Verification) (attempt : Attempt)
    (log : List Asked) (said : List Message) (takes : List Bytes) : Prop where
  stage : Stage slot call attempt log said takes
  missed : ∀ asked ∈ log, asked.isMissed = true →
    slot.cancelled.isSome = true

variable {slot slot' : Slot} {call : Verification} {attempt : Attempt}
  {log : List Asked} {said : List Message} {takes : List Bytes}

theorem Follows.start : Follows slot call (.new call) [] [] [] :=
  ⟨.running .start, fun _ hmem => by cases hmem⟩

/-- A cancellation takes nothing back. -/
theorem Follows.mono
    (hmono : slot.cancelled.isSome = true → slot'.cancelled.isSome = true)
    (h : Follows slot call attempt log said takes) :
    Follows slot' call attempt log said takes := by
  refine ⟨?_, fun asked hmem => hmono ∘ h.missed asked hmem⟩
  cases h.stage with
  | running hcourse => exact .running hcourse
  | sleeping hcourse => exact .sleeping hcourse
  | conversing hcourse halong => exact .conversing hcourse (halong.mono hmono)
  | ended hcourse hverdict => exact .ended hcourse hverdict

/-- A step that shows and takes nothing. -/
theorem Follows.silent (h : Follows slot call attempt log said takes) :
    Follows slot call attempt log (said ++ []) (takes ++ []) := by
  rwa [List.append_nil, List.append_nil]

/-- The request under way goes on. -/
theorem Follows.converse {exchange : Exchange}
    {rest : Option Secret → Verification} {replies : Transcript}
    {next : Exchange.Next}
    (h : Follows slot call ⟨.conversing exchange rest, replies⟩ log said
      takes)
    (harm : exchange.Arm slot next)
    (hmono : slot.cancelled.isSome = true →
      next.slot.cancelled.isSome = true) :
    Follows next.slot call ⟨.conversing next.exchange rest, replies⟩ log
      (said ++ (next.effect.bind Exchange.Effect.message?).toList)
      (takes ++ (next.effect.bind Exchange.Effect.line?).toList) := by
  refine ⟨?_, fun asked hmem => hmono ∘ h.missed asked hmem⟩
  cases h.stage with
  | conversing hcourse halong =>
      rw [List.append_assoc, List.append_assoc]
      exact .conversing hcourse (halong.step harm)

/-- The request under way has its reply, and belongs to the course. -/
theorem Follows.reply {reply : Option Secret}
    {rest : Option Secret → Verification} {replies : Transcript}
    (h : Follows slot call ⟨.conversing (.over reply) rest, replies⟩ log said
      takes) :
    ∃ log', Follows slot call ⟨.running (rest reply), replies ++ [reply]⟩ log'
      said takes := by
  obtain ⟨hstage, hmissed⟩ := h
  cases hstage with
  | @conversing _ style text _ _ _ _ hcourse halong =>
      cases halong with
      | @replied line hline hcancelled =>
          refine ⟨log ++ [⟨style, text, line⟩], ?_, ?_⟩
          · have hstage : Stage slot call _ _ _ _ :=
              .running (hcourse.reply hline)
            rw [List.map_append, List.flatMap_append, List.flatMap_append,
              List.flatMap_singleton, List.flatMap_singleton] at hstage
            exact hstage
          · intro asked hmem hmiss
            rcases List.mem_append.mp hmem with hmem | hmem
            · exact hmissed asked hmem hmiss
            · rw [List.mem_singleton.mp hmem] at hmiss
              exact hcancelled hmiss

/-- Every step keeps an attempt on its course. -/
theorem Follows.step {clock : Nat} {next : Next}
    (h : Follows slot call attempt log said takes)
    (harm : Arm clock slot attempt next) :
    ∃ log', Follows next.slot call next.attempt log'
      (said ++ (next.effect.bind Dispatch.Attempt.Effect.said?).toList)
      (takes ++ (next.effect.bind Effect.line?).toList) := by
  have hmono := harm.isSome_mono
  cases harm with
  | finish hverdict =>
      cases h.stage with
      | running hcourse =>
          exact ⟨log, Follows.silent ⟨.ended hcourse hverdict, h.missed⟩⟩
  | pause =>
      cases h.stage with
      | running hcourse =>
          exact ⟨log, Follows.silent ⟨.sleeping hcourse.pause, h.missed⟩⟩
  | wake _ =>
      cases h.stage with
      | sleeping hcourse =>
          exact ⟨log, Follows.silent ⟨.running hcourse, h.missed⟩⟩
  | request =>
      cases h.stage with
      | running hcourse =>
          exact ⟨log, ⟨.conversing hcourse .opening, h.missed⟩⟩
  | @converse _ _ _ next' harm =>
      have hline : (next'.effect.map Effect.conversed).bind Effect.line?
          = next'.effect.bind Exchange.Effect.line? := by
        cases next'.effect <;> rfl
      refine ⟨log, ?_⟩
      rw [bind_said?_conversed, hline]
      exact h.converse harm hmono
  | reply =>
      obtain ⟨log', hreply⟩ := h.reply
      exact ⟨log', hreply.silent⟩

/-- An attempt that is over has come to the end of its course. -/
theorem Follows.of_verdict {verdict : Verdict}
    (h : Follows slot call attempt log said takes)
    (hverdict : attempt.verdict? = some verdict) :
    call.Ends log verdict
      ∧ said = log.flatMap Asked.said ∧ takes = log.flatMap Asked.takes := by
  cases h.stage with
  | ended hcourse hrest =>
      cases hverdict
      exact ⟨⟨_, hcourse, hrest⟩, rfl, rfl⟩
  | running _ | sleeping _ | conversing _ _ => cases hverdict

/-- An attempt that is about to cancel has taken the line that asks for
it. -/
theorem Follows.exit_line {rest : Option Secret → Verification}
    {replies : Transcript}
    (h : Follows slot call ⟨.conversing .exiting rest, replies⟩ log said
      takes) :
    ∃ line ∈ takes, Request.ofLine line = .exit := by
  cases h.stage with
  | conversing _ halong =>
      cases halong with
      | @exiting line _ hrequest =>
          exact ⟨line.bytes, List.mem_append_right _ (.head _), hrequest⟩

end Attempt

end ScreenUnlock
