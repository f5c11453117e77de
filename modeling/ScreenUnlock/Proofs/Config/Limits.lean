/-
How large the numbers of a configuration can be, and what comes of it.

A document's integers have 64 bits with a sign, whichever reader of
documents it is (`Toml.Reader.Fits`), and the two numbers of a configuration
are not negative, so 63 bits are left for them. Nothing else bounds them
from above. A run adds to each of them once: one read to the longest line,
for the reader's buffer, and the grace period to the time, for the deadline
of an attempt when the reader is over. Neither sum needs more than 64 bits.
But memory is asked for in pieces of less than 2 ^ 63 bytes, and a clock
shows less than 2 ^ 63 seconds, so large numbers break the reader or the
loop down. `Limits` says when they do, and that they do not otherwise.
-/
import ScreenUnlock.Proofs.Config.Source
import ScreenUnlock.Proofs.Dispatch.Completion
import ScreenUnlock.Proofs.Dispatch.Forwarding
import ScreenUnlock.Proofs.Toml.Range

namespace ScreenUnlock

namespace Config

-- ============================================================ the numbers

/-- What a section says about a key fits if all of the section does. -/
theorem fits_of_entry {section' : Option Toml.Value} {position : Nat}
    {key : String} {found : Option Toml.Value}
    (h : entry? section' position key = some found)
    (hfits : ∀ value ∈ section', value.Fits) :
    ∀ value ∈ found, value.Fits := by
  intro value hmem
  unfold entry? at h
  split at h
  case h_1 =>
    cases h
    cases hmem
  case h_2 entries =>
    cases h
    exact (hfits _ rfl).lookup hmem
  case h_3 items =>
    cases h
    cases hfits _ rfl with
    | array hitems => exact hitems value (List.mem_of_getElem? hmem)
  case h_4 =>
    cases h
    cases hmem
  case h_5 => cases h

theorem natural?_lt {default most number : Nat} {found : Option Toml.Value}
    (h : natural? default most found = some number)
    (hfits : ∀ value ∈ found, value.Fits)
    (hdefault : default < Nat.pow 2 63) :
    number < Nat.pow 2 63 := by
  unfold natural? at h
  split at h
  case h_1 =>
    cases h
    exact hdefault
  case h_2 given =>
    split at h
    case isTrue hrange =>
      cases h
      cases hfits _ rfl with
      | integer _ hlt => omega
    case isFalse => cases h
  case h_3 => cases h

/-- The numbers of a configuration in a document whose integers fit. -/
theorem lt_of_ofTable? {table : Toml.Table} {config : Config}
    (h : ofTable? table = some config)
    (hfits : (Toml.Value.table table).Fits) :
    config.maxLineLen.toNat < Nat.pow 2 63
      ∧ config.graceSecs.toNat < Nat.pow 2 63 := by
  have hsection : ∀ key, ∀ value ∈ table.lookup key, value.Fits :=
    fun _ _ hmem => hfits.lookup hmem
  unfold ofTable? at h
  simp only [Option.bind_eq_bind, Option.bind_eq_some_iff] at h
  -- four values come before these two
  obtain ⟨_, _, _, _, _, _, _, _, _, _, _, _, _, _, _, _,
    foundLine, hfoundLine, line, hline, foundGrace, hfoundGrace, grace, hgrace,
    heq⟩ := h
  cases heq
  have hline' := natural?_lt hline
    (fits_of_entry hfoundLine (hsection _)) (by decide)
  have hgrace' := natural?_lt hgrace
    (fits_of_entry hfoundGrace (hsection _)) (by decide)
  rw [UInt64.toNat_ofNat', UInt64.toNat_ofNat']
  omega

theorem one_le_maxLineLen {config : Config}
    (h : config.violation? = none) : 1 ≤ config.maxLineLen.toNat := by
  by_contra hzero
  have hline : config.maxLineLen = 0 :=
    UInt64.toNat_inj.mp (Nat.eq_zero_of_not_pos hzero)
  unfold violation? at h
  rw [if_pos hline] at h
  split at h
  · cases h
  · split at h <;> cases h

/-- The numbers of a configuration that was loaded. -/
theorem bounds_of_loadFrom {reader : Toml.Reader} {tree : FileTree}
    {path : Path} {config : Config} (hreader : reader.Fits)
    (h : loadFrom tree path reader = .ok config) :
    1 ≤ config.maxLineLen.toNat ∧ config.maxLineLen.toNat < Nat.pow 2 63
      ∧ config.graceSecs.toNat < Nat.pow 2 63 := by
  unfold loadFrom at h
  split at h
  case h_1 => cases h
  case h_2 text _ =>
    have hstated := stated_ofText reader text
    rw [h] at hstated
    cases hstated with
    | valid hconfig hviolation =>
        obtain ⟨table, hread, htable⟩ := Option.bind_eq_some_iff.mp hconfig
        have hpos := one_le_maxLineLen hviolation
        exact ⟨hpos, lt_of_ofTable? htable (hreader text table hread)⟩

end Config

namespace Dispatch

open LineBuffer (allocationLimit capacityFor)
open State (arm_of_apply)

variable {setup : Setup} {session : Session} {sink : Sink}
  {stream rest : Bytes} {history : List Event} {state : State}

-- ============================================================= the buffer

/-- A reader without a buffer has broken down, and stays so. -/
theorem Run.reader_crashed
    (hbuffer : allocationLimit < capacityFor setup.maxLineLen)
    (hrun : Run setup (.start setup session sink) history state) :
    state.reader.phase = .crashed := by
  induction hrun with
  | init =>
      simp [State.start, Reader.new, LineBuffer.new?,
        Nat.not_le.mpr hbuffer]
  | step action _ hstep ih =>
      by_contra hcrashed
      exact (arm_of_apply hstep).reader_ne_crashed hcrashed ih

/-- On any input the reader breaks down exactly if it cannot have its
buffer. -/
theorem Fed.reader_crashed_iff
    (hfed : Fed setup (.start setup session sink) stream history state rest) :
    state.reader.phase = .crashed
      ↔ allocationLimit < capacityFor setup.maxLineLen := by
  constructor
  · intro hcrashed
    by_contra hbuffer
    exact hfed.reader_ne_crashed (Nat.not_lt.mp hbuffer) hcrashed
  · exact fun hbuffer => hfed.run.reader_crashed hbuffer

-- =========================================================== the deadline

/-- A loop that attends to an attempt when the reader is over, and whose
deadline no clock can show, breaks down. -/
theorem exists_crash (hphase : state.phase = .attending)
    (hdeadline : state.deadline = none) (hover : state.reader.isOver = true)
    (hle : clockLimit ≤ state.clock + setup.grace) :
    ∃ state', apply setup (.move .notice) state = some (state', [])
      ∧ state'.phase = .crashed := by
  refine ⟨{ state with phase := .crashed }, ?_, rfl⟩
  simp [apply, State.move?, hphase, hdeadline, hover, Nat.not_lt.mpr hle]

-- ============================================================== the result

/-- What the numbers of a configuration can lead to, with any backend and in
every run. -/
structure Limits (config : Config) : Prop where
  -- They have 63 bits.
  maxLineLen : 1 ≤ config.maxLineLen.toNat
    ∧ config.maxLineLen.toNat < Nat.pow 2 63
  graceSecs : config.graceSecs.toNat < Nat.pow 2 63
  -- On any input, the reader breaks down exactly if a line and one read more
  -- are too much to ask of memory.
  reader : ∀ {authenticator session sink stream history state rest},
    Fed (.ofConfig authenticator config)
      (.start (.ofConfig authenticator config) session sink) stream history
      state rest →
    (state.reader.phase = .crashed
      ↔ Nat.pow 2 63 - 1 < config.maxLineLen.toNat + readChunk)
  -- A deadline is one that a clock can show.
  deadline : ∀ {authenticator session sink history state limit},
    Run (.ofConfig authenticator config)
      (.start (.ofConfig authenticator config) session sink) history state →
    state.deadline = some limit → limit < Nat.pow 2 63 * 1000
  -- The loop breaks down only if the grace period ends later than that.
  loop : ∀ {authenticator session sink history state},
    Run (.ofConfig authenticator config)
      (.start (.ofConfig authenticator config) session sink) history state →
    state.phase = .crashed →
    Nat.pow 2 63 * 1000 ≤ state.clock + config.graceSecs.toNat * 1000
  -- Then it does so as soon as it notices that the reader is over.
  notice : ∀ {authenticator state}, state.phase = .attending →
    state.deadline = none → state.reader.isOver = true →
    Nat.pow 2 63 * 1000 ≤ state.clock + config.graceSecs.toNat * 1000 →
    ∃ state', apply (.ofConfig authenticator config) (.move .notice) state
        = some (state', [])
      ∧ state'.phase = .crashed

/-- The numbers of every configuration that can be loaded, with any files and
any reader of documents whose integers have 64 bits.

They have 63 bits, so no sum with them leaves 64. But the sums can be more
than memory or a clock has: the reader breaks down at once if a line may be
longer than 2 ^ 63 - 257 bytes, and the loop if the input is closed during an
attempt and the grace period then ends at or beyond 2 ^ 63 seconds. With
smaller numbers neither of them does. -/
theorem limits_of_loadFrom {reader : Toml.Reader} {tree : FileTree}
    {path : Path} {config : Config} (hreader : reader.Fits)
    (hload : Config.loadFrom tree path reader = .ok config) :
    Limits config := by
  obtain ⟨hpos, hline, hgrace⟩ := Config.bounds_of_loadFrom hreader hload
  refine ⟨⟨hpos, hline⟩, hgrace, ?_, ?_, ?_, ?_⟩
  · intro authenticator session sink stream history state rest hfed
    rw [hfed.reader_crashed_iff]
    show allocationLimit < max config.maxLineLen.toNat 1 + readChunk ↔ _
    rw [Nat.max_eq_left hpos]
    rfl
  · intro authenticator session sink history state limit hrun hlimit
    exact hrun.inTime.deadline limit hlimit
  · intro authenticator session sink history state hrun hcrashed
    exact hrun.inTime.crashed hcrashed
  · intro authenticator state hphase hdeadline hover hle
    exact exists_crash hphase hdeadline hover hle

/-- Numbers that are large and do no harm. -/
theorem limits_of_loadFrom_large :
    ∃ (tree : FileTree) (path : Path) (config : Config),
      Config.loadFrom tree path = .ok config
      ∧ config.maxLineLen.toNat + readChunk = Nat.pow 2 63 - 1
      ∧ config.graceSecs.toNat = Nat.pow 2 62
      ∧ Limits config := by
  have hload : Config.loadFrom ((FileTree.empty ⟨"/"⟩).withFile ⟨"/large"⟩
      (Bytes.ofText ("input.max_line_len = 9223372036854775551\n"
        ++ "shutdown.grace_secs = 4611686018427387904"))) ⟨"/large"⟩
      = .ok { maxLineLen := 9223372036854775551
              graceSecs := 4611686018427387904 } := by decide +kernel
  exact ⟨_, _, _, hload, by decide, by decide,
    limits_of_loadFrom Toml.fits_parse? hload⟩

/-- Two configurations are loaded. With one the reader breaks down at its
start. With the other the input is closed during the first attempt, and the
loop breaks down because the grace period has no end that a clock can
show. -/
theorem loaded_numbers_overflow :
    (∃ (tree : FileTree) (path : Path) (config : Config),
      Config.loadFrom tree path = .ok config
      ∧ (Reader.new config.maxLineLen.toNat).phase = .crashed)
    ∧ ∃ (tree : FileTree) (path : Path) (config : Config)
      (history : List Event) (state : State),
      Config.loadFrom tree path = .ok config
      ∧ Run (.ofConfig (.fixed {}) config)
        (.start (.ofConfig (.fixed {}) config) (.new ⟨"user", none⟩ 5) {})
        history state
      ∧ state.reader.phase = .finished ∧ state.phase = .crashed := by
  have hline : Config.loadFrom ((FileTree.empty ⟨"/"⟩).withFile ⟨"/line"⟩
      (Bytes.ofText "input.max_line_len = 9223372036854775807")) ⟨"/line"⟩
      = .ok { maxLineLen := 9223372036854775807 } := by decide +kernel
  have hgrace : Config.loadFrom ((FileTree.empty ⟨"/"⟩).withFile ⟨"/grace"⟩
      (Bytes.ofText "shutdown.grace_secs = 9223372036854775807")) ⟨"/grace"⟩
      = .ok { graceSecs := 9223372036854775807 } := by decide +kernel
  obtain ⟨history, state, hrun, hview⟩ := Run.exists_of_replay
    (.ofConfig (.fixed {}) { graceSecs := 9223372036854775807 })
    (.start (.ofConfig (.fixed {}) { graceSecs := 9223372036854775807 })
      (.new ⟨"user", none⟩ 5) {})
    [.move .check, .move .launch, .attempt 0, .reader .step,
      .reader (.poll .ready), .reader (.read .endOfInput), .reader .step,
      .reader .step, .elapse 1000, .move .notice]
    (fun state _ => (state.reader.phase, state.phase))
    (.finished, .crashed) rfl
  obtain ⟨hreader, hphase⟩ := Prod.mk.inj hview
  exact ⟨⟨_, _, _, hline, by decide +kernel⟩,
    _, _, _, history, state, hgrace, hrun, hreader, hphase⟩

end Dispatch

end ScreenUnlock
