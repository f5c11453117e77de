/-
The words that an attempt may show.

Towards the screen locker an attempt is a sequence of informations and
prompts. Behind every prompt the busy state goes down, and it goes up
again exactly when the prompt has its answer; the screen locker sends a
password only while it is down. So what is shown is a word over three
pieces, an information, a prompt with an answer and a prompt without.

The pieces do not come in every order. A prompt goes without an answer
only in a cancelled session, and a cancelled session gives no answers any
more: behind the first prompt of that kind there are no others. `Speaks`
says how far an attempt has come with such a word, and
`Attempt.Speaks.step` that every step keeps to it.
-/
import Mathlib.Computability.Language
import ScreenUnlock.Proofs.Auth.Course

namespace ScreenUnlock

open scoped Computability

namespace Message

-- ============================================================== the words

/-- One information. -/
def informing : Language Message :=
  {word | ∃ text, word = [info text]}

/-- One prompt that was answered. -/
def answering : Language Message :=
  {word | ∃ text, word = [prompt text, busy false, busy true]}

/-- One prompt that was not. -/
def lapsing : Language Message :=
  {word | ∃ text, word = [prompt text, busy false]}

/-- Informations, and prompts that were all answered. -/
def exchanges : Language Message :=
  (informing + answering)∗

/-- What an attempt may show: prompts that were answered, then prompts
that were not, and informations in between. -/
def dialogues : Language Message :=
  exchanges * (informing + lapsing)∗

variable {word : List Message} {text : String}

/-- One more piece behind pieces of the same kind. -/
theorem append_mem_kstar {language : Language Message} {piece : List Message}
    (h : word ∈ language∗) (hpiece : piece ∈ language) :
    word ++ piece ∈ language∗ := by
  have hle : language∗ * language ≤ language∗ := kstar_mul_le_kstar
  exact hle (Language.append_mem_mul h hpiece)

theorem exchanges_inform (h : word ∈ exchanges) :
    word ++ [info text] ∈ exchanges :=
  append_mem_kstar h (.inl ⟨text, rfl⟩)

theorem exchanges_answer (h : word ∈ exchanges) :
    word ++ [prompt text, busy false, busy true] ∈ exchanges :=
  append_mem_kstar h (.inr ⟨text, rfl⟩)

theorem dialogues_of_exchanges (h : word ∈ exchanges) : word ∈ dialogues := by
  have hword := Language.append_mem_mul h
    (Language.nil_mem_kstar (informing + lapsing))
  rwa [List.append_nil] at hword

theorem dialogues_append {piece : List Message} (h : word ∈ dialogues)
    (hpiece : piece ∈ informing + lapsing) : word ++ piece ∈ dialogues := by
  obtain ⟨first, hfirst, later, hlater, rfl⟩ := Language.mem_mul.mp h
  rw [List.append_assoc]
  exact Language.append_mem_mul hfirst (append_mem_kstar hlater hpiece)

/-- Whole pieces only, and all prompts answered unless the session is
cancelled. -/
structure Bracketed (slot : Slot) (said : List Message) : Prop where
  dialogue : said ∈ dialogues
  uncancelled : slot.cancelled = none → said ∈ exchanges

variable {slot slot' : Slot} {said : List Message}

theorem Bracketed.of_exchanges (h : said ∈ exchanges) :
    Bracketed slot said :=
  ⟨dialogues_of_exchanges h, fun _ => h⟩

theorem Bracketed.nil : Bracketed slot [] :=
  .of_exchanges (Language.nil_mem_kstar _)

/-- A cancellation takes nothing back. -/
theorem Bracketed.mono
    (hmono : slot.cancelled.isSome = true → slot'.cancelled.isSome = true)
    (h : Bracketed slot said) : Bracketed slot' said where
  dialogue := h.dialogue
  uncancelled := by
    intro hnone
    refine h.uncancelled ?_
    rw [← Option.not_isSome_iff_eq_none] at hnone ⊢
    exact mt hmono hnone

theorem Bracketed.inform (h : Bracketed slot said) :
    Bracketed slot (said ++ [info text]) where
  dialogue := dialogues_append h.dialogue (.inl ⟨text, rfl⟩)
  uncancelled hnone := exchanges_inform (h.uncancelled hnone)

/-- A prompt stays without an answer in a cancelled session. -/
theorem Bracketed.lapse (h : Bracketed slot said)
    (hcancelled : slot.cancelled.isSome = true) :
    Bracketed slot (said ++ [prompt text, busy false]) where
  dialogue := dialogues_append h.dialogue (.inr ⟨text, rfl⟩)
  uncancelled hnone := by
    rw [hnone] at hcancelled
    cases hcancelled

end Message

-- ============================================================ one attempt

namespace Attempt

open Message (Bracketed exchanges dialogues)

/-- How far an attempt has come with its word: between two requests it is
a whole one; during a prompt it is one with the prompt begun. -/
inductive Speaks (slot : Slot) : Activity → List Message → Prop where
  | running {call : Verification} {said : List Message} :
      Bracketed slot said → Speaks slot (.running call) said
  | sleeping {wake : Nat} {rest : Verification} {said : List Message} :
      Bracketed slot said → Speaks slot (.sleeping wake rest) said
  | ended {verdict : Verdict} {said : List Message} :
      Bracketed slot said → Speaks slot (.ended verdict) said
  | opening {style : Style} {text : String}
      {rest : Option Secret → Verification} {said : List Message} :
      Bracketed slot said →
      Speaks slot (.conversing (.opening style text) rest) said
  | prompted {text : String} {rest : Option Secret → Verification}
      {said : List Message} : Bracketed slot said →
      Speaks slot (.conversing .prompted rest) (said ++ [.prompt text])
  | asking {text : String} {rest : Option Secret → Verification}
      {said : List Message} : Bracketed slot said →
      Speaks slot (.conversing .asking rest)
        (said ++ [.prompt text, .busy false])
  | exiting {text : String} {rest : Option Secret → Verification}
      {said : List Message} : Bracketed slot said →
      Speaks slot (.conversing .exiting rest)
        (said ++ [.prompt text, .busy false])
  -- The answer was taken while nobody had cancelled.
  | answering {text : String} {line : Secret}
      {rest : Option Secret → Verification} {said : List Message} :
      said ∈ exchanges →
      Speaks slot (.conversing (.answering line) rest)
        (said ++ [.prompt text, .busy false])
  | replied {reply : Option Secret} {rest : Option Secret → Verification}
      {said : List Message} : Bracketed slot said →
      Speaks slot (.conversing (.over reply) rest) said

variable {slot slot' : Slot} {activity : Activity} {said : List Message}

theorem Speaks.mono
    (hmono : slot.cancelled.isSome = true → slot'.cancelled.isSome = true)
    (h : Speaks slot activity said) : Speaks slot' activity said := by
  cases h with
  | running hsaid => exact .running (hsaid.mono hmono)
  | sleeping hsaid => exact .sleeping (hsaid.mono hmono)
  | ended hsaid => exact .ended (hsaid.mono hmono)
  | opening hsaid => exact .opening (hsaid.mono hmono)
  | prompted hsaid => exact .prompted (hsaid.mono hmono)
  | asking hsaid => exact .asking (hsaid.mono hmono)
  | exiting hsaid => exact .exiting (hsaid.mono hmono)
  | answering hsaid => exact .answering hsaid
  | replied hsaid => exact .replied (hsaid.mono hmono)

/-- A step that says nothing and goes on with a whole word. -/
theorem Speaks.silent (h : Speaks slot activity said) :
    Speaks slot activity (said ++ []) := by
  rwa [List.append_nil]

/-- The request under way goes on with the word. -/
theorem Speaks.converse {exchange : Exchange}
    {rest : Option Secret → Verification} {next : Exchange.Next}
    (h : Speaks slot (.conversing exchange rest) said)
    (harm : exchange.Arm slot next)
    (hmono : slot.cancelled.isSome = true →
      next.slot.cancelled.isSome = true) :
    Speaks next.slot (.conversing next.exchange rest)
      (said ++ (next.effect.bind Exchange.Effect.message?).toList) := by
  cases harm with
  | prompt =>
      cases h with
      | opening hsaid => exact .prompted hsaid
  | inform _ =>
      cases h with
      | opening hsaid => exact .replied hsaid.inform
  | ignore _ _ =>
      cases h with
      | opening hsaid => exact (Speaks.replied hsaid).silent
  | ready =>
      cases h with
      | prompted hsaid =>
          rw [List.append_assoc]
          exact .asking hsaid
  | forgo hcancelled =>
      cases h with
      | asking hsaid => exact (Speaks.replied (hsaid.lapse hcancelled)).silent
  | takeExit _ _ _ =>
      cases h with
      | asking hsaid => exact (Speaks.exiting (hsaid.mono hmono)).silent
  | takeAnswer hnone _ _ =>
      cases h with
      | asking hsaid => exact (Speaks.answering (hsaid.uncancelled hnone)).silent
  | exit =>
      cases h with
      | exiting hsaid =>
          exact (Speaks.replied ((hsaid.mono hmono).lapse (by simp))).silent
  | answer =>
      cases h with
      | answering hsaid =>
          rw [List.append_assoc]
          exact .replied (.of_exchanges (Message.exchanges_answer hsaid))

/-- Every step of an attempt keeps to its word. -/
theorem Speaks.step {clock : Nat} {attempt : Attempt} {next : Next}
    (h : Speaks slot attempt.activity said)
    (harm : Arm clock slot attempt next) :
    Speaks next.slot next.attempt.activity
      (said ++ (next.effect.bind Dispatch.Attempt.Effect.said?).toList) := by
  have hmono := harm.isSome_mono
  cases harm with
  | finish _ =>
      cases h with
      | running hsaid => exact (Speaks.ended hsaid).silent
  | pause =>
      cases h with
      | running hsaid => exact (Speaks.sleeping hsaid).silent
  | wake _ =>
      cases h with
      | sleeping hsaid => exact (Speaks.running hsaid).silent
  | request =>
      cases h with
      | running hsaid => exact (Speaks.opening hsaid).silent
  | converse harm =>
      rw [bind_said?_conversed]
      exact h.converse harm hmono
  | reply =>
      cases h with
      | replied hsaid => exact (Speaks.running hsaid).silent

/-- An attempt that is over has shown a whole word. -/
theorem Speaks.dialogue {attempt : Attempt}
    (h : Speaks slot attempt.activity said) (hover : attempt.isOver = true) :
    said ∈ dialogues := by
  obtain ⟨activity, replies⟩ := attempt
  cases activity with
  | ended verdict =>
      cases h with
      | ended hsaid => exact hsaid.dialogue
  | running _ | conversing _ _ | sleeping _ _ => cases hover

end Attempt

end ScreenUnlock
