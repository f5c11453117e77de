/-
A secret is handed over once, and in order.

Two secrets can have the same bytes, so a secret is known by the step of
the record that put it in. `Lies history i secret j` says that the secret
of step `i` still lies in the slot when step `j` is about to run: nothing
went in or came out in between. It speaks of the record alone, and
`Serial.pending_iff_lies` ties it to the slot: what the slot holds is
exactly what lies there.

So at every step the record tells what the slot holds, and one look at
`Serves` tells what the step does with it. A secret that was put in is
there until the first step that moves a secret; that step cannot put
another one in, so it takes this one or drops it (`Serial.exists_fate`).
-/
import Mathlib.Data.List.Induction
import Mathlib.Data.Nat.Find
import ScreenUnlock.Proofs.Slot.Cancellation

namespace ScreenUnlock.Slot

/-- Whether a secret goes in or comes out. -/
def Served.moves (served : Served) : Bool :=
  match served.call, served.reply with
  | .publish _, .flag done => done
  | .take, .handed (.secret _) => true
  | .clear, .flag dropped => dropped
  | _, _ => false

/-- The secret that step `i` put in lies in the slot when step `j` is
about to run. -/
structure Lies (history : List Served) (i : Nat) (secret : Secret)
    (j : Nat) : Prop where
  put : ∃ t, history[i]? = some ⟨t, .publish secret, .flag true⟩
  before : i < j
  still : ∀ k served, i < k → k < j → history[k]? = some served →
    served.moves = false

/-- What becomes of a secret that was put in. -/
inductive Fate where
  -- The take at this step returns it.
  | taken (step : Nat)
  -- The `clear` at this step drops it.
  | dropped (step : Nat)
  | pending
  deriving DecidableEq, Repr

/-- The secret that step `i` put in has this fate. -/
inductive Fares (history : List Served) (slot : Slot) (i : Nat)
    (secret : Secret) : Fate → Prop where
  | taken {t j : Nat} : Lies history i secret j →
      history[j]? = some ⟨t, .take, .handed (.secret secret)⟩ →
      Fares history slot i secret (.taken j)
  | dropped {t j : Nat} : Lies history i secret j →
      history[j]? = some ⟨t, .clear, .flag true⟩ →
      Fares history slot i secret (.dropped j)
  | pending : Lies history i secret history.length →
      slot.pending = some secret →
      Fares history slot i secret .pending

variable {start last slot slot' : Slot} {call : Call} {reply : Reply}
  {secret secret' : Secret} {history : List Served} {served : Served}
  {i i' j j' t : Nat}

-- ================================================= what the record tells

/-- Only one secret lies in the slot. -/
theorem Lies.unique (h : Lies history i secret j)
    (h' : Lies history i' secret' j) : i = i' := by
  rcases Nat.lt_trichotomy i i' with hlt | heq | hgt
  · obtain ⟨t, hput⟩ := h'.put
    cases h.still i' _ hlt h'.before hput
  · exact heq
  · obtain ⟨t, hput⟩ := h.put
    cases h'.still i _ hgt h.before hput

/-- It lies there until the first step that moves a secret. -/
theorem Lies.le_of_moves (h : Lies history i secret j) (hi : i < j')
    (hj' : history[j']? = some served) (hmoves : served.moves = true) :
    j ≤ j' := by
  refine Nat.le_of_not_lt fun hlt => ?_
  have hstill := h.still j' served hi hlt hj'
  rw [hmoves] at hstill
  cases hstill

theorem Lies.end_unique {served' : Served} (h : Lies history i secret j)
    (h' : Lies history i secret' j') (hj : history[j]? = some served)
    (hmoves : served.moves = true) (hj' : history[j']? = some served')
    (hmoves' : served'.moves = true) : j = j' :=
  Nat.le_antisymm (h.le_of_moves h'.before hj' hmoves')
    (h'.le_of_moves h.before hj hmoves)

/-- Only the steps before `j` matter. -/
theorem lies_append_iff (later : List Served) (hj : j ≤ history.length) :
    Lies (history ++ later) i secret j ↔ Lies history i secret j := by
  constructor
  · rintro ⟨⟨t, hput⟩, hbefore, hstill⟩
    rw [List.getElem?_append_left (by omega)] at hput
    refine ⟨⟨t, hput⟩, hbefore, fun k served hik hkj hk => ?_⟩
    rw [← @List.getElem?_append_left _ _ later _ (by omega)] at hk
    exact hstill k served hik hkj hk
  · rintro ⟨⟨t, hput⟩, hbefore, hstill⟩
    rw [← @List.getElem?_append_left _ _ later _ (by omega)] at hput
    refine ⟨⟨t, hput⟩, hbefore, fun k served hik hkj hk => ?_⟩
    rw [List.getElem?_append_left (by omega)] at hk
    exact hstill k served hik hkj hk

/-- One more step: it puts the secret in, or leaves the one that lies
there. -/
theorem lies_snoc_iff :
    Lies (history ++ [served]) i secret (history.length + 1)
      ↔ (i = history.length
          ∧ ∃ t, served = ⟨t, .publish secret, .flag true⟩)
        ∨ (served.moves = false ∧ Lies history i secret history.length) := by
  have hlast : (history ++ [served])[history.length]? = some served :=
    List.getElem?_concat_length
  constructor
  · intro h
    by_cases hi : i = history.length
    · obtain ⟨t, hput⟩ := h.put
      rw [hi, hlast] at hput
      exact .inl ⟨hi, t, Option.some.inj hput⟩
    · have hlt : i < history.length := by
        have := h.before
        omega
      have hrest : served.moves = false :=
        h.still history.length served hlt (by omega) hlast
      refine .inr ⟨hrest, (lies_append_iff [served] (Nat.le_refl _)).mp ?_⟩
      exact ⟨h.put, hlt, fun k other hik hk => h.still k other hik (by omega)⟩
  · rintro (⟨rfl, t, rfl⟩ | ⟨hrest, h⟩)
    · exact ⟨⟨t, hlast⟩, by omega, fun k _ hik hk => by omega⟩
    · have hlies := (lies_append_iff [served] (Nat.le_refl _)).mpr h
      refine ⟨hlies.put, by have := h.before; omega, ?_⟩
      intro k other hik hk hother
      by_cases heq : k = history.length
      · rw [heq, hlast] at hother
        cases hother
        exact hrest
      · exact hlies.still k other hik (by omega) hother

-- =================================================== what the slot holds

/-- A step that moves a secret leaves one in the slot exactly if it puts
it in. -/
theorem Serves.pending_of_moves (h : Serves slot call reply slot')
    (hmoves : Served.moves ⟨t, call, reply⟩ = true) :
    slot'.pending = some secret
      ↔ call = .publish secret ∧ reply = .flag true := by
  cases h with
  | publish _ _ => simp
  | take _ _ | clear => simp
  | refuse _ | turnAway _ | consumed _ _ | forsake _ | cancel _ | defer _ =>
      cases hmoves

/-- A step that moves no secret leaves the one that is there. -/
theorem Serves.pending_of_still (h : Serves slot call reply slot')
    (hstill : Served.moves ⟨t, call, reply⟩ = false) :
    slot'.pending = slot.pending := by
  cases h with
  | publish _ _ | take _ _ => cases hstill
  | clear =>
      have hempty : slot.pending.isNone = true :=
        Option.isSome_eq_false_iff.mp hstill
      exact (Option.isNone_iff_eq_none.mp hempty).symm
  | refuse _ | turnAway _ | consumed _ _ | forsake _ | cancel _ | defer _ =>
      rfl

/-- The slot holds exactly what lies there. -/
theorem Serial.pending_iff_lies (h : Serial .empty history slot) :
    slot.pending = some secret
      ↔ ∃ i, Lies history i secret history.length := by
  induction history using List.reverseRecOn generalizing slot with
  | nil =>
      cases h
      constructor
      · intro hpending
        cases hpending
      · rintro ⟨i, hlies⟩
        exact absurd hlies.before (Nat.not_lt_zero i)
  | append_singleton history served ih =>
      obtain ⟨found, hbefore, hserves⟩ := h.snoc_inv
      rw [List.length_append, List.length_singleton]
      cases hmoves : served.moves with
      | true =>
          rw [hserves.pending_of_moves (t := served.thread) hmoves]
          constructor
          · rintro ⟨hcall, hreply⟩
            refine ⟨_, lies_snoc_iff.mpr (.inl ⟨rfl, served.thread, ?_⟩)⟩
            rw [← hcall, ← hreply]
          · rintro ⟨i, hlies⟩
            rcases lies_snoc_iff.mp hlies with ⟨-, t, rfl⟩ | ⟨hstill, -⟩
            · exact ⟨rfl, rfl⟩
            · rw [hmoves] at hstill
              cases hstill
      | false =>
          rw [hserves.pending_of_still (t := served.thread) hmoves,
            ih hbefore]
          refine exists_congr fun i => ?_
          constructor
          · exact fun hlies => lies_snoc_iff.mpr (.inr ⟨hmoves, hlies⟩)
          · intro hlies
            rcases lies_snoc_iff.mp hlies with ⟨-, t, rfl⟩ | ⟨-, hlies⟩
            · cases hmoves
            · exact hlies

/-- What a step finds in the slot is what lies there. -/
theorem Serial.found (h : Serial .empty history last)
    (hj : history[j]? = some served) :
    ∃ found left, Serves found served.call served.reply left
      ∧ Serial left (history.drop (j + 1)) last
      ∧ ∀ secret, found.pending = some secret
        ↔ ∃ i, Lies history i secret j := by
  obtain ⟨found, left, hbefore, hserves, hafter⟩ := h.at_step hj
  refine ⟨found, left, hserves, hafter, fun secret => ?_⟩
  have hlt : j < history.length := (List.getElem?_eq_some_iff.mp hj).1
  have hlen : (history.take j).length = j :=
    (List.length_take ..).trans (Nat.min_eq_left (by omega))
  rw [hbefore.pending_iff_lies, hlen]
  refine exists_congr fun i => ?_
  rw [← lies_append_iff (history.drop j) (by omega),
    List.take_append_drop]

-- ============================================================== the fate

/-- The step that moves the secret takes it or drops it. -/
theorem exists_fate_of_moves {found left : Slot}
    (hlies : Lies history i secret j) (hj : history[j]? = some served)
    (hmoves : served.moves = true)
    (hserves : Serves found served.call served.reply left)
    (hpending : found.pending = some secret) :
    ∃ fate, Fares history slot i secret fate := by
  obtain ⟨t, call, reply⟩ := served
  cases hserves with
  | publish _ hempty =>
      rw [hempty] at hpending
      cases hpending
  | take _ htaken =>
      rw [htaken] at hpending
      cases hpending
      exact ⟨.taken j, .taken hlies hj⟩
  | clear =>
      have hsome : found.pending.isSome = true := by rw [hpending]; rfl
      rw [hsome] at hj
      exact ⟨.dropped j, .dropped hlies hj⟩
  | refuse _ | turnAway _ | consumed _ _ | forsake _ | cancel _ | defer _ =>
      cases hmoves

theorem Serial.exists_fate (h : Serial .empty history slot)
    (hput : history[i]? = some ⟨t, .publish secret, .flag true⟩) :
    ∃ fate, Fares history slot i secret fate := by
  classical
  by_cases hmoved : ∃ j, i < j
      ∧ ∃ served, history[j]? = some served ∧ served.moves = true
  · -- the first step that moves a secret moves this one
    obtain ⟨hij, served, hj, hmoves⟩ := Nat.find_spec hmoved
    have hlies : Lies history i secret (Nat.find hmoved) := by
      refine ⟨⟨t, hput⟩, hij, fun k other hik hkj hk => ?_⟩
      refine Bool.eq_false_iff.mpr fun hother => ?_
      exact Nat.find_min hmoved hkj ⟨hik, other, hk, hother⟩
    obtain ⟨found, left, hserves, -, hfound⟩ := h.found hj
    exact exists_fate_of_moves hlies hj hmoves hserves
      ((hfound secret).mpr ⟨i, hlies⟩)
  · have hlt : i < history.length := (List.getElem?_eq_some_iff.mp hput).1
    have hlies : Lies history i secret history.length := by
      refine ⟨⟨t, hput⟩, hlt, fun k other hik _ hk => ?_⟩
      exact Bool.eq_false_iff.mpr
        fun hother => hmoved ⟨k, hik, other, hk, hother⟩
    exact ⟨.pending,
      .pending hlies (h.pending_iff_lies.mpr ⟨i, hlies⟩)⟩

/-- A secret that was moved does not lie there any more. -/
theorem Lies.not_lies_length (h : Lies history i secret j)
    (hj : history[j]? = some served) (hmoves : served.moves = true) :
    ¬ Lies history i secret' history.length := by
  intro hlies
  have hle := hlies.le_of_moves h.before hj hmoves
  have hlt : j < history.length := (List.getElem?_eq_some_iff.mp hj).1
  omega

theorem Fares.unique {fate fate' : Fate}
    (h : Fares history slot i secret fate)
    (h' : Fares history slot i secret fate') : fate = fate' := by
  cases h with
  | taken hlies hj =>
      cases h' with
      | taken hlies' hj' => rw [hlies.end_unique hlies' hj rfl hj' rfl]
      | dropped hlies' hj' =>
          rw [hlies.end_unique hlies' hj rfl hj' rfl, hj'] at hj
          cases hj
      | pending hlies' _ => exact absurd hlies' (hlies.not_lies_length hj rfl)
  | dropped hlies hj =>
      cases h' with
      | taken hlies' hj' =>
          rw [hlies.end_unique hlies' hj rfl hj' rfl, hj'] at hj
          cases hj
      | dropped hlies' hj' => rw [hlies.end_unique hlies' hj rfl hj' rfl]
      | pending hlies' _ => exact absurd hlies' (hlies.not_lies_length hj rfl)
  | pending hlies _ =>
      cases h' with
      | taken hlies' hj' => exact absurd hlies (hlies'.not_lies_length hj' rfl)
      | dropped hlies' hj' =>
          exact absurd hlies (hlies'.not_lies_length hj' rfl)
      | pending _ _ => rfl

/-- What was put in later is moved later. -/
theorem Lies.end_lt (h : Lies history i secret j)
    (h' : Lies history i' secret' j') (hlt : i < i') : j < j' := by
  obtain ⟨t, hput⟩ := h'.put
  have hle : j ≤ i' := h.le_of_moves hlt hput rfl
  have hbefore := h'.before
  omega

theorem Fares.lt_iff (h : Fares history slot i secret (.taken j))
    (h' : Fares history slot i' secret' (.taken j')) : i < i' ↔ j < j' := by
  cases h with
  | taken hlies hj =>
      cases h' with
      | taken hlies' hj' =>
          constructor
          · exact hlies.end_lt hlies'
          · intro hlt
            rcases Nat.lt_trichotomy i i' with hbefore | rfl | hafter
            · exact hbefore
            · have := hlies.end_unique hlies' hj rfl hj' rfl
              omega
            · have := hlies'.end_lt hlies hafter
              omega

theorem Fares.put {fate : Fate} (h : Fares history slot i secret fate) :
    ∃ t, history[i]? = some ⟨t, .publish secret, .flag true⟩ := by
  cases h with
  | taken hlies _ | dropped hlies _ | pending hlies _ => exact hlies.put

-- ======================================================== the operations

/-- What a take returns lay in the slot. -/
theorem Serial.exists_source (h : Serial .empty history slot)
    (hj : history[j]? = some ⟨t, .take, .handed (.secret secret)⟩) :
    ∃ i, Lies history i secret j := by
  obtain ⟨found, left, hserves, -, hfound⟩ := h.found hj
  cases hserves with
  | take _ hpending => exact (hfound secret).mp hpending

/-- Nothing lies in the slot when a secret is put in. -/
theorem Serial.not_lies_of_put (h : Serial .empty history slot)
    (hj : history[j]? = some ⟨t, .publish secret, .flag true⟩) :
    ¬ Lies history i secret' j := by
  intro hlies
  obtain ⟨found, left, hserves, -, hfound⟩ := h.found hj
  have hpending := (hfound secret').mpr ⟨i, hlies⟩
  cases hserves with
  | publish _ hempty =>
      rw [hempty] at hpending
      cases hpending

/-- After a `publish` was refused no take returns a secret. -/
theorem Serial.not_taken_of_refused (h : Serial .empty history slot)
    (hi : history[i]? = some ⟨t, .publish secret, .flag false⟩)
    (hij : i < j) {t' : Nat} :
    history[j]? ≠ some ⟨t', .take, .handed (.secret secret')⟩ := by
  intro hj
  obtain ⟨found, left, hserves, hafter, -⟩ := h.found hi
  obtain ⟨reason, hreason⟩ : ∃ reason, left.cancelled = some reason := by
    cases hserves with
    | refuse hreason => exact ⟨_, hreason⟩
  have hmem : ⟨t', .take, .handed (.secret secret')⟩
      ∈ history.drop (i + 1) := by
    refine List.mem_of_getElem? (i := j - (i + 1)) ?_
    rw [List.getElem?_drop, Nat.add_sub_cancel' hij, hj]
  have hlate := (hafter.late hreason).2.1 _ hmem
  cases hlate

/-- A `clear` tells whether there was a secret to drop. -/
theorem Serial.dropped_iff (h : Serial .empty history slot) {dropped : Bool}
    (hj : history[j]? = some ⟨t, .clear, .flag dropped⟩) :
    dropped = true ↔ ∃ i secret, Lies history i secret j := by
  obtain ⟨found, left, hserves, -, hfound⟩ := h.found hj
  have hsome : dropped = found.pending.isSome := by
    cases hserves with
    | clear => rfl
  rw [hsome, Option.isSome_iff_exists, exists_comm]
  exact exists_congr hfound

-- =============================================================== the law

/-- Each secret is handed over once, and in order. -/
structure HandsOver (history : List Served) (slot : Slot) : Prop where
  -- What lies in the slot by the record is what it holds.
  holds : ∀ secret, slot.pending = some secret
    ↔ ∃ i, Lies history i secret history.length
  -- A secret whose `publish` returned true is in one of three places: one
  -- take returned it, one `clear` that returned true dropped it, or it is
  -- pending.
  fate : ∀ i t secret,
    history[i]? = some ⟨t, .publish secret, .flag true⟩ →
    ∃! fate, Fares history slot i secret fate
  -- What a take returns was put in by one `publish`.
  source : ∀ j t secret,
    history[j]? = some ⟨t, .take, .handed (.secret secret)⟩ →
    ∃! i, Fares history slot i secret (.taken j)
  -- The takes come in the order of the `publish` steps.
  inOrder : ∀ i i' j j' secret secret',
    Fares history slot i secret (.taken j) →
    Fares history slot i' secret' (.taken j') → (i < i' ↔ j < j')
  -- A secret whose `publish` returned false is nowhere, and no take returns
  -- a secret any more.
  refused : ∀ i t secret,
    history[i]? = some ⟨t, .publish secret, .flag false⟩ →
    (∀ fate, ¬ Fares history slot i secret fate)
      ∧ ∀ j t' secret', i < j →
        history[j]? ≠ some ⟨t', .take, .handed (.secret secret')⟩
  -- No `publish` replaces a secret that lies in the slot.
  keeps : ∀ j t secret,
    history[j]? = some ⟨t, .publish secret, .flag true⟩ →
    ∀ i secret', ¬ Lies history i secret' j
  single : ∀ i i' secret secret', Fares history slot i secret .pending →
    Fares history slot i' secret' .pending → i = i'
  -- `clear` returns true exactly if a secret lay in the slot.
  cleared : ∀ j t dropped,
    history[j]? = some ⟨t, .clear, .flag dropped⟩ →
    (dropped = true ↔ ∃ i secret, Lies history i secret j)

namespace Room

/-- Every secret is handed over exactly once and in order, for any number
of threads and any interleaving of their calls, in every room that they
can lead to. -/
theorem Reachable.handsOver {room : Room} (hroom : Reachable room) :
    HandsOver room.served room.slot := by
  have hserial := hroom.serial
  constructor
  case holds => exact fun secret => hserial.pending_iff_lies
  case fate =>
    intro i t secret hput
    obtain ⟨fate, hfares⟩ := hserial.exists_fate hput
    exact ⟨fate, hfares, fun other hother => hother.unique hfares⟩
  case source =>
    intro j t secret hj
    obtain ⟨i, hlies⟩ := hserial.exists_source hj
    refine ⟨i, .taken hlies hj, fun k hk => ?_⟩
    cases hk with
    | taken hlies' _ => exact hlies'.unique hlies
  case inOrder =>
    intro i i' j j' secret secret' hi hi'
    exact hi.lt_iff hi'
  case refused =>
    intro i t secret hi
    refine ⟨fun fate hfares => ?_, fun j t' secret' hij =>
      hserial.not_taken_of_refused hi hij⟩
    obtain ⟨t', hput⟩ := hfares.put
    rw [hi] at hput
    cases hput
  case keeps =>
    intro j t secret hput i secret'
    exact hserial.not_lies_of_put hput
  case single =>
    intro i i' secret secret' hi hi'
    cases hi with
    | pending hlies _ =>
        cases hi' with
        | pending hlies' _ => exact hlies.unique hlies'
  case cleared =>
    intro j t dropped hj
    exact hserial.dropped_iff hj

/-- The same line three times: the first is taken, the second is dropped,
and the third lies in the slot when the session is cancelled and a fourth
line is refused. -/
theorem handsOver_same_line :
    ∃ room, Reachable room
      ∧ room.served = [⟨0, .publish ⟨[97]⟩, .flag true⟩,
        ⟨2, .take, .handed (.secret ⟨[97]⟩)⟩,
        ⟨1, .publish ⟨[97]⟩, .flag true⟩, ⟨2, .clear, .flag true⟩,
        ⟨0, .publish ⟨[97]⟩, .flag true⟩,
        ⟨3, .cancel .shutdown, .flag true⟩,
        ⟨1, .publish ⟨[98]⟩, .flag false⟩]
      ∧ (∃! fate, Fares room.served room.slot 2 ⟨[97]⟩ fate)
      ∧ (∃! i, Fares room.served room.slot i ⟨[97]⟩ (.taken 1))
      ∧ (∃ i secret, Lies room.served i secret 3)
      ∧ ∀ fate, ¬ Fares room.served room.slot 6 ⟨[98]⟩ fate := by
  obtain ⟨room, hroom, hserved⟩ := Reachable.exists_of_follow
    [.call 0 (.publish ⟨[97]⟩), .enter 0, .call 1 (.publish ⟨[97]⟩),
      .enter 1, .call 2 .take, .enter 2, .enter 1, .call 2 .clear, .enter 2,
      .notify 2, .call 0 (.publish ⟨[97]⟩), .enter 0,
      .call 3 (.cancel .shutdown), .enter 3, .call 1 (.publish ⟨[98]⟩),
      .enter 1]
    Room.served
    [⟨0, .publish ⟨[97]⟩, .flag true⟩,
      ⟨2, .take, .handed (.secret ⟨[97]⟩)⟩,
      ⟨1, .publish ⟨[97]⟩, .flag true⟩, ⟨2, .clear, .flag true⟩,
      ⟨0, .publish ⟨[97]⟩, .flag true⟩,
      ⟨3, .cancel .shutdown, .flag true⟩,
      ⟨1, .publish ⟨[98]⟩, .flag false⟩]
    (by decide +kernel)
  have hlaw := hroom.handsOver
  refine ⟨room, hroom, hserved, ?_, ?_, ?_, ?_⟩
  · exact hlaw.fate 2 1 _ (by rw [hserved]; rfl)
  · exact hlaw.source 1 2 _ (by rw [hserved]; rfl)
  · exact (hlaw.cleared 3 2 true (by rw [hserved]; rfl)).mp rfl
  · exact (hlaw.refused 6 1 _ (by rw [hserved]; rfl)).1

end Room

end ScreenUnlock.Slot
