/-
One known password, as the screen locker sees it.

An attempt at this backend shows the information, if it has a text, then
the prompt, and asks. What comes of it depends on the one line that it
takes: no line at all and an exit request leave the prompt unanswered,
every other line is compared with the password. `Heard` lists the four
ways, with all that is shown and taken on each; an error text is not
shown on any of them.
-/
import Mathlib.Data.List.Infix
import ScreenUnlock.Auth.Backend
import ScreenUnlock.Proofs.Auth.Course
import ScreenUnlock.Proofs.Lines

namespace ScreenUnlock.FixedPassword

variable {backend : FixedPassword} {log : List Asked} {verdict : Verdict}

-- ========================================================== what is shown

/-- The information, if it has a text. -/
def greeting (backend : FixedPassword) : List Message :=
  match backend.info with
  | none => []
  | some text => if text = "" then [] else [.infoOf text]

/-- An attempt up to the moment when it takes a line. -/
def question (backend : FixedPassword) : List Message :=
  backend.greeting ++ [.promptOf backend.prompt, .busy false]

/-- An attempt that has its answer. -/
def answered (backend : FixedPassword) : List Message :=
  backend.question ++ [.busy true]

/-- Whether a line decides the session: it asks for the exit, or it is
the password. -/
def decides (backend : FixedPassword) (line : Bytes) : Bool :=
  decide (Request.exitMarker <:+: line
    ∨ line = Bytes.ofText backend.password)

/-- What is shown of an attempt, the lines that it takes, and its
verdict. -/
inductive Heard (backend : FixedPassword) :
    List Message → List Bytes → Verdict → Prop where
  | unanswered : Heard backend backend.question [] (.rejected .aborted)
  | exit {line : Bytes} : Request.exitMarker <:+: line →
      Heard backend backend.question [line] (.rejected .aborted)
  | wrong {line : Bytes} : backend.decides line = false →
      Heard backend backend.answered [line] (.rejected .rejected)
  | right : ¬ Request.exitMarker <:+: Bytes.ofText backend.password →
      Heard backend backend.answered [Bytes.ofText backend.password] .accepted

/-- An attempt that does not get its answer shows less. -/
theorem Heard.isPrefix {said : List Message} {took : List Bytes}
    (h : Heard backend said took verdict) : said <+: backend.answered := by
  cases h with
  | unanswered | exit _ => exact List.prefix_append _ _
  | wrong _ | right _ => exact List.prefix_rfl

-- ============================================================ the attempt

/-- With `before` shown already, the requests of `log` make it one of the
four ways; a prompt is missing its answer if the attempt aborts. -/
def Comes (backend : FixedPassword) (before : List Message)
    (log : List Asked) (verdict : Verdict) : Prop :=
  Heard backend (before ++ log.flatMap Asked.said)
      (log.flatMap Asked.takes) verdict
    ∧ (verdict = .rejected .aborted → ∃ asked ∈ log, asked.isMissed = true)

/-- A request that takes no line comes before the others. -/
theorem Comes.cons {before : List Message} {style : Style} {text : String}
    (h : Comes backend (before ++ Asked.said ⟨style, text, none⟩) log
      verdict) :
    Comes backend before (⟨style, text, none⟩ :: log) verdict := by
  obtain ⟨hheard, hmissed⟩ := h
  constructor
  · rw [List.flatMap_cons, List.flatMap_cons, ← List.append_assoc]
    exact hheard
  · intro haborted
    obtain ⟨asked, hmem, hmiss⟩ := hmissed haborted
    exact ⟨asked, List.mem_cons_of_mem _ hmem, hmiss⟩

/-- The question, and what comes of it. -/
theorem comes_ask (h : backend.ask.Ends log verdict) :
    Comes backend backend.greeting log verdict := by
  obtain ⟨line, later, -, rfl, hrest⟩ := h.of_converse
  rcases line with - | line
  · -- no line: the session is cancelled
    obtain ⟨rfl, rfl⟩ := Verification.Ends.of_finish hrest
    exact ⟨.unanswered, fun _ => ⟨_, .head _, rfl⟩⟩
  · cases hrequest : line.request with
    | exit =>
        have hreply := @Asked.reply_of_exit .promptEchoOff backend.prompt line
          hrequest
        rw [hreply] at hrest
        obtain ⟨rfl, rfl⟩ := Verification.Ends.of_finish hrest
        constructor
        · simp only [List.flatMap_singleton, Asked.said, hreply]
          exact .exit (Request.ofLine_eq_exit_iff.mp hrequest)
        · exact fun _ => ⟨_, .head _, by simp [Asked.isMissed, hreply]⟩
    | secret =>
        have hreply := @Asked.reply_of_secret .promptEchoOff backend.prompt
          line hrequest
        have hmarker : ¬ Request.exitMarker <:+: line.bytes := by
          intro hexit
          have := Request.ofLine_eq_exit_iff.mpr hexit
          rw [show Request.ofLine line.bytes = .secret from hrequest] at this
          cases this
        rw [hreply] at hrest
        have hsaid : backend.greeting ++ Asked.said
            ⟨.promptEchoOff, backend.prompt, some line⟩ = backend.answered := by
          simp [Asked.said, hreply, answered, question]
        -- the answer is compared with the password
        by_cases hpassword : line.bytes = Bytes.ofText backend.password
        · simp only [if_pos hpassword] at hrest
          obtain ⟨rfl, rfl⟩ := hrest.of_finish
          constructor
          · rw [List.flatMap_singleton, hsaid]
            show Heard backend backend.answered [line.bytes] .accepted
            rw [hpassword]
            exact .right (hpassword ▸ hmarker)
          · intro haborted
            cases haborted
        · simp only [if_neg hpassword] at hrest
          obtain ⟨rfl, rfl⟩ := hrest.of_finish
          constructor
          · rw [List.flatMap_singleton, hsaid]
            exact .wrong (by simp [decides, hmarker, hpassword])
          · intro haborted
            cases haborted

/-- What a call does behind the information. -/
def afterInfo (backend : FixedPassword) : Verification :=
  match backend.error with
  | none => backend.ask
  | some text => .converse .errorMsg text fun _ => backend.ask

theorem talk_eq (backend : FixedPassword) :
    backend.talk = match backend.info with
      | none => backend.afterInfo
      | some text => .converse .textInfo text fun _ => backend.afterInfo :=
  rfl

theorem comes_afterInfo (h : backend.afterInfo.Ends log verdict) :
    Comes backend backend.greeting log verdict := by
  unfold afterInfo at h
  split at h
  case h_1 => exact comes_ask h
  case h_2 text _ =>
    obtain ⟨line, later, hline, rfl, hrest⟩ := h.of_converse
    cases hline (by decide)
    apply Comes.cons
    show Comes backend (backend.greeting ++ []) later verdict
    rw [List.append_nil]
    exact comes_ask hrest

theorem comes_talk (h : backend.talk.Ends log verdict) :
    Comes backend [] log verdict := by
  rw [talk_eq] at h
  split at h
  case h_1 hinfo =>
    have hgreeting : backend.greeting = [] := by
      simp [greeting, hinfo]
    rw [← hgreeting]
    exact comes_afterInfo h
  case h_2 text hinfo =>
    obtain ⟨line, later, hline, rfl, hrest⟩ := h.of_converse
    cases hline (by decide)
    have hgreeting : [] ++ Asked.said ⟨.textInfo, text, none⟩
        = backend.greeting := by
      simp [greeting, hinfo, Asked.said]
    apply Comes.cons
    rw [hgreeting]
    exact comes_afterInfo hrest

/-- Every attempt at a backend that can run is one of the four. -/
theorem comes_verification (havailable : backend.unavailable = none)
    (h : backend.verification.Ends log verdict) :
    Comes backend [] log verdict := by
  unfold verification at h
  rw [havailable] at h
  cases hdelay : backend.delay with
  | none =>
      rw [hdelay] at h
      exact comes_talk h
  | some milliseconds =>
      rw [hdelay] at h
      exact comes_talk h.of_pause

end ScreenUnlock.FixedPassword
