/-
What the system's own files say about a process and about users.

The status of a process is a text of lines; the lines for users and for
groups name the real and then the effective id, with tabs between. The
user database has one line a user, whose fields stand between colons.
-/
import ScreenUnlock.Privilege.Basic
import ScreenUnlock.Privilege.Identity

namespace ScreenUnlock

-- ============================================================ the status

/-- The number that a text is, if it can be an id. -/
def idOfText? (text : String) : Option IdNumber :=
  if text.toList.all Char.isDigit then
    match text.toNat? with
    | some n => if n < Nat.pow 2 32 then some (UInt32.ofNat n) else none
    | none => none
  else none

/-- The first two ids of the line with this label. -/
def idPair? (label status : String) : Option (IdNumber × IdNumber) :=
  (status.splitOn "\n").findSome? fun line =>
    match line.splitOn "\t" with
    | head :: real :: effective :: _ =>
      if head = label then do
        return (← idOfText? real, ← idOfText? effective)
      else none
    | _ => none

/-- The ids of a process with this status. -/
def Ids.ofStatus? (status : String) : Option Ids := do
  let (realUser, effectiveUser) ← idPair? "Uid:" status
  let (realGroup, effectiveGroup) ← idPair? "Gid:" status
  return { realUser, effectiveUser, realGroup, effectiveGroup }

-- ========================================================== the accounts

/-- What the user database says about a user. -/
structure Account where
  name : String
  user : IdNumber
  home : String
  deriving DecidableEq, Repr

namespace Account

/-- The account that a line of the database describes. -/
def ofLine? (line : String) : Option Account :=
  match line.splitOn ":" with
  | [name, _, user, _, _, home, _] =>
    (idOfText? user).map fun user => { name, user, home }
  | _ => none

/-- All accounts in the text of the database. -/
def listOf (text : String) : List Account :=
  (text.splitOn "\n").filterMap ofLine?

end Account

/-- The database that knows these accounts. -/
def UserDatabase.ofAccounts (accounts : List Account) : UserDatabase :=
  .entries (accounts.map fun account => (account.user, account.name))

end ScreenUnlock
