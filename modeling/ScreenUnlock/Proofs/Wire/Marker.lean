/-
Where the exit marker can stand.

The marker counts wherever it stands in a line, so what the helper writes
around a text matters. The beginning of a prompt line is, for a dozen
characters, that of the marker, and the closing mark is one of its
characters too. Nevertheless the marker stands in a line of the helper
exactly if it stands in its text: an occurrence that leaves the text would
have to begin in what stands before it or end in what stands behind, and
no end of the one begins the marker, no beginning of the other ends it.

# Bytes and characters

Lines are searched byte by byte, and a text is one of characters. The
marker is ASCII, and in UTF-8 no byte of another character is an ASCII
one, so the two searches agree (`Bytes.ofText_infix_iff`). What stands
around a text is then compared with the marker character by character.
-/
import Mathlib.Data.List.Infix
import ScreenUnlock.Proofs.Wire.Lines

namespace ScreenUnlock

-- =========================================================== straddling

section Straddling

variable {α : Type} {part front back rest : List α}

/-- What no occurrence can begin in can be left out. -/
theorem infix_append_of_front (hnot : ¬ part <:+: front)
    (hends : ∀ first ∈ front.tails, first <+: part → first = []) :
    part <:+: front ++ rest ↔ part <:+: rest := by
  constructor
  · intro h
    rcases List.infix_append_iff.mp h with
      h | h | ⟨first, last, hpart, hfirst, hlast⟩
    · exact absurd h hnot
    · exact h
    · have hnil := hends first ((List.mem_tails _ _).mpr hfirst)
        (hpart ▸ List.prefix_append _ _)
      rw [hnil, List.nil_append] at hpart
      exact hpart ▸ hlast.isInfix
  · intro h
    exact h.trans (List.suffix_append _ _).isInfix

/-- Nor does it matter what no occurrence can end in. -/
theorem infix_append_of_back (hnot : ¬ part <:+: back)
    (hbegins : ∀ last ∈ back.inits, last <:+ part → last = []) :
    part <:+: rest ++ back ↔ part <:+: rest := by
  constructor
  · intro h
    rcases List.infix_append_iff.mp h with
      h | h | ⟨first, last, hpart, hfirst, hlast⟩
    · exact h
    · exact absurd h hnot
    · have hnil := hbegins last ((List.mem_inits _ _).mpr hlast)
        (hpart ▸ List.suffix_append _ _)
      rw [hnil, List.append_nil] at hpart
      exact hpart ▸ hfirst.isInfix
  · intro h
    exact h.trans (List.prefix_append _ _).isInfix

/-- An occurrence begins in no piece that shares no member with the part. -/
theorem infix_append_of_disjoint (hpart : part ≠ [])
    (hdisjoint : ∀ x ∈ part, x ∉ front) :
    part <:+: front ++ rest ↔ part <:+: rest := by
  refine infix_append_of_front (fun h => ?_) fun first hend hfirst => ?_
  · obtain ⟨x, hx⟩ := List.exists_mem_of_ne_nil part hpart
    exact hdisjoint x hx (h.subset hx)
  · refine List.eq_nil_iff_forall_not_mem.mpr fun x hx => ?_
    exact hdisjoint x (hfirst.subset hx)
      (((List.mem_tails _ _).mp hend).subset hx)

end Straddling

-- ================================================== bytes and characters

namespace Bytes

theorem utf8EncodeChar_of_lt {c : Char} (h : c.toNat < 128) :
    String.utf8EncodeChar c = [c.val.toUInt8] := by
  refine String.utf8EncodeChar_eq_singleton (Char.utf8Size_eq_one_iff.mpr ?_)
  rw [UInt32.le_iff_toNat_le]
  exact Nat.le_of_lt_succ h

/-- An ASCII text begins a text if its bytes begin the bytes of that. -/
theorem prefix_of_utf8 {part chars : List Char}
    (hpart : ∀ c ∈ part, c.toNat < 128)
    (h : part.flatMap String.utf8EncodeChar
      <+: chars.flatMap String.utf8EncodeChar) : part <+: chars := by
  induction part generalizing chars with
  | nil => exact List.nil_prefix
  | cons p part ih =>
      have hp : p.toNat < 128 := hpart p List.mem_cons_self
      rw [List.flatMap_cons, utf8EncodeChar_of_lt hp, List.singleton_append] at h
      cases chars with
      | nil => exact absurd (List.prefix_nil.mp h) (List.cons_ne_nil _ _)
      | cons c chars =>
          rw [List.flatMap_cons] at h
          -- the first byte of `c` is that of `p`, which is a small one
          obtain ⟨byte, bytes, hc⟩ :=
            List.exists_cons_of_ne_nil (String.utf8EncodeChar_ne_nil (c := c))
          rw [hc, List.cons_append] at h
          have hbyte : p.val.toUInt8 = byte := (List.cons_prefix_cons.mp h).1
          have hsame : byte.toNat = p.toNat := by
            rw [← hbyte, UInt32.toNat_toUInt8]
            exact Nat.mod_eq_of_lt (Nat.lt_trans hp (by decide))
          have hmem : byte ∈ String.utf8EncodeChar c := hc ▸ List.mem_cons_self
          have hcode := toNat_eq_of_mem_utf8EncodeChar hmem (hsame ▸ hp)
          obtain rfl : c = p := Char.toNat_inj.mp (hcode.trans hsame)
          rw [utf8EncodeChar_of_lt hp] at hc
          obtain ⟨rfl, rfl⟩ := List.cons.inj hc
          have hrest := (List.cons_prefix_cons.mp h).2
          rw [List.nil_append] at hrest
          exact List.cons_prefix_cons.mpr ⟨rfl, ih
            (fun d hd => hpart d (List.mem_cons_of_mem _ hd)) hrest⟩

/-- No small byte is among those of a character that is not ASCII. -/
theorem not_mem_utf8EncodeChar {part : List Char} {c : Char}
    (hpart : ∀ p ∈ part, p.toNat < 128) (hc : ¬ c.toNat < 128) :
    ∀ byte ∈ part.flatMap String.utf8EncodeChar,
      byte ∉ String.utf8EncodeChar c := by
  intro byte hbyte hmem
  obtain ⟨p, hp, hbyte⟩ := List.mem_flatMap.mp hbyte
  rw [utf8EncodeChar_of_lt (hpart p hp), List.mem_singleton] at hbyte
  have hsmall : byte.toNat < 128 := by
    rw [hbyte, UInt32.toNat_toUInt8]
    exact Nat.lt_of_le_of_lt (Nat.mod_le _ _) (hpart p hp)
  exact hc (toNat_eq_of_mem_utf8EncodeChar hmem hsmall ▸ hsmall)

theorem infix_of_utf8 {part chars : List Char}
    (hpart : ∀ c ∈ part, c.toNat < 128)
    (h : part.flatMap String.utf8EncodeChar
      <:+: chars.flatMap String.utf8EncodeChar) : part <:+: chars := by
  induction chars with
  | nil =>
      have hnil := List.infix_nil.mp h
      cases part with
      | nil => exact List.nil_infix
      | cons p part =>
          rw [List.flatMap_cons, List.append_eq_nil_iff] at hnil
          exact absurd hnil.1 String.utf8EncodeChar_ne_nil
  | cons c chars ih =>
      by_cases hc : c.toNat < 128
      · -- the occurrence begins with `c`, or behind it
        rw [List.flatMap_cons, utf8EncodeChar_of_lt hc, List.singleton_append,
          List.infix_cons_iff] at h
        rcases h with h | h
        · rw [← List.singleton_append, ← utf8EncodeChar_of_lt hc,
            ← List.flatMap_cons] at h
          exact (prefix_of_utf8 hpart h).isInfix
        · exact List.infix_cons (ih h)
      · -- no occurrence begins in the bytes of `c`
        cases part with
        | nil => exact List.nil_infix
        | cons p part =>
            have hne : (p :: part).flatMap String.utf8EncodeChar ≠ [] := by
              rw [List.flatMap_cons]
              exact List.append_ne_nil_of_left_ne_nil
                String.utf8EncodeChar_ne_nil _
            rw [List.flatMap_cons (x := c), infix_append_of_disjoint hne
              (not_mem_utf8EncodeChar hpart hc)] at h
            exact List.infix_cons (ih h)

/-- An ASCII text stands in another one exactly if its bytes stand in the
bytes of that. -/
theorem ofText_infix_iff {part text : String}
    (hpart : ∀ c ∈ part.toList, c.toNat < 128) :
    ofText part <:+: ofText text ↔ part.toList <:+: text.toList := by
  constructor
  · exact infix_of_utf8 hpart
  · rintro ⟨before, behind, h⟩
    unfold ofText
    rw [← h, List.flatMap_append, List.flatMap_append]
    exact List.infix_append _ _ _

end Bytes

/-- A text stands in another one: there is something before it and
something behind. -/
theorem toList_infix_iff {part text : String} :
    part.toList <:+: text.toList
      ↔ ∃ before behind, text = before ++ part ++ behind := by
  constructor
  · rintro ⟨before, behind, h⟩
    refine ⟨String.ofList before, String.ofList behind, ?_⟩
    rw [← String.toList_inj, String.toList_append, String.toList_append,
      String.toList_ofList, String.toList_ofList, h]
  · rintro ⟨before, behind, rfl⟩
    rw [String.toList_append, String.toList_append]
    exact List.infix_append _ _ _

-- ============================================================ the marker

namespace Request

/-- The marker as a text. -/
def exitText : String := "CS_PAM_AUTH_REQUEST_SUBPROCESS_EXIT"

theorem exitMarker_eq : exitMarker = Bytes.ofText exitText := rfl

theorem isAscii_exitText : ∀ c ∈ exitText.toList, c.toNat < 128 := by
  have hall : exitText.toList.all (fun c => c.toNat < 128) = true := by decide
  exact fun c hc => of_decide_eq_true (List.all_eq_true.mp hall c hc)

/-- A text asks for the exit exactly if the marker stands in it, character
by character. -/
theorem ofLine_ofText_iff {text : String} :
    ofLine (Bytes.ofText text) = .exit
      ↔ exitText.toList <:+: text.toList := by
  rw [ofLine_eq_exit_iff, exitMarker_eq,
    Bytes.ofText_infix_iff isAscii_exitText]

theorem ofLine_eq_exit_iff_exists {line : Bytes} :
    ofLine line = .exit
      ↔ ∃ before behind, line = before ++ exitMarker ++ behind := by
  rw [ofLine_eq_exit_iff]
  exact exists_congr fun before => exists_congr fun behind => eq_comm

/-- No fixed line holds the marker. -/
theorem not_exitText_infix_fixed : ∀ message ∈ Message.fixed,
    ¬ exitText.toList <:+: message.line.toList := by
  decide

/-- What stands around a text brings no marker, and breaks none up. -/
theorem exitText_infix_framed_iff {mark text : String}
    (hmark : mark ∈ [Message.promptMark, Message.infoMark]) :
    exitText.toList
        <:+: (((mark ++ text).push Message.closingMark).push '\n').toList
      ↔ exitText.toList <:+: text.toList := by
  have hfront : ∀ mark ∈ [Message.promptMark, Message.infoMark],
      ¬ exitText.toList <:+: mark.toList
        ∧ ∀ first ∈ mark.toList.tails,
          first <+: exitText.toList → first = [] := by
    decide
  have hback : ∀ last ∈ [Message.closingMark, '\n'].inits,
      last <:+ exitText.toList → last = [] := by
    decide
  obtain ⟨hnot, hends⟩ := hfront mark hmark
  rw [String.toList_push, String.toList_push, String.toList_append,
    List.append_assoc, List.append_assoc, infix_append_of_front hnot hends]
  exact infix_append_of_back (by decide) hback

/-- The line of a message asks for the exit exactly if the marker stands in
its text. -/
theorem ofLine_lineBytes_iff {message : Message} :
    ofLine message.lineBytes = .exit
      ↔ ∃ text, (message = .prompt text ∨ message = .info text)
        ∧ exitText.toList <:+: text.toList := by
  unfold Message.lineBytes
  rw [ofLine_ofText_iff]
  cases message with
  | failure | success | cancelled =>
      exact iff_of_false (not_exitText_infix_fixed _ (by decide)) (by simp)
  | busy isBusy =>
      refine iff_of_false (not_exitText_infix_fixed _ ?_) (by simp)
      cases isBusy <;> decide
  | prompt text =>
      refine (exitText_infix_framed_iff (by decide)).trans ?_
      simp
  | info text =>
      refine (exitText_infix_framed_iff (by decide)).trans ?_
      simp

/-- Putting a text on one line brings no marker either, and breaks none up:
the marker has neither a space nor a line break in it. -/
theorem exitText_infix_flatten_iff {text : String} :
    exitText.toList <:+: (Message.flatten text).toList
      ↔ exitText.toList <:+: text.toList := by
  rw [Message.flatten, String.toList_ofList]
  constructor
  · intro h
    obtain ⟨chars, hchars, hmap⟩ := List.infix_map_iff.mp h
    have hsame : chars.map Message.flattenChar = chars := by
      refine (List.map_congr_left fun c hc => ?_).trans (List.map_id chars)
      have hmem : Message.flattenChar c ∈ exitText.toList :=
        hmap ▸ List.mem_map_of_mem hc
      unfold Message.flattenChar at hmem ⊢
      split at hmem
      case isTrue => exact absurd hmem (by decide)
      case isFalse hother => exact if_neg hother
    rwa [hmap, hsame]
  · intro h
    have hkept : exitText.toList.map Message.flattenChar = exitText.toList := by
      decide
    exact hkept ▸ h.map Message.flattenChar

/-- Looking for the exit marker is looking for it anywhere:

- a line asks for the exit exactly if it is something, the marker, and
  something more, and a secret does so exactly if its line does;
- the line of a message asks for it exactly if the message is a prompt or
  an information and the marker stands in its own text;
- and of the text that such a message is made with, this is true before it
  is put on one line exactly if it is true after. -/
theorem exit_iff_contains_marker :
    (∀ line : Bytes, ofLine line = .exit
        ↔ ∃ before behind, line = before ++ exitMarker ++ behind)
      ∧ (∀ secret : Secret, secret.request = .exit
        ↔ ∃ before behind, secret.bytes = before ++ exitMarker ++ behind)
      ∧ (∀ message : Message, ofLine message.lineBytes = .exit
        ↔ ∃ text, (message = .prompt text ∨ message = .info text)
          ∧ ∃ before behind : String, text = before ++ exitText ++ behind)
      ∧ ∀ text : String,
        (∃ before behind, Message.flatten text = before ++ exitText ++ behind)
          ↔ ∃ before behind, text = before ++ exitText ++ behind := by
  refine ⟨fun _ => ofLine_eq_exit_iff_exists,
    fun _ => ofLine_eq_exit_iff_exists, fun message => ?_, fun text => ?_⟩
  · rw [ofLine_lineBytes_iff]
    exact exists_congr fun text => and_congr_right fun _ => toList_infix_iff
  · rw [← toList_infix_iff, ← toList_infix_iff]
    exact exitText_infix_flatten_iff

/-- All but the last character of the marker, before a closing mark: a
prompt like any other. -/
example : ofLine (Message.prompt "CS_PAM_AUTH_REQUEST_SUBPROCESS_EXI").lineBytes
    = .secret := by
  decide +kernel

end Request

end ScreenUnlock
