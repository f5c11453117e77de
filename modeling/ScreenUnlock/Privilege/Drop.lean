/-
Giving up rights, and making sure of it.

The groups go first, then the group, then the user: once the user has
changed there is no right left to change the others. Afterwards the
process must be what the plan says, and an attempt to become root again
must fail.
-/
import ScreenUnlock.Privilege.Credentials

namespace ScreenUnlock

namespace Credentials

/-- Make a call that must succeed; its failure fails the plan. -/
def require (creds : Credentials) (wanted : IdCall)
    (next : Credentials → Except StartError Unit × Credentials) :
    Except StartError Unit × Credentials :=
  match creds.call wanted with
  | (some cause, creds') => (.error (.dropFailed cause), creds')
  | (none, creds') => next creds'

/-- Check that the process is this user and this group, and that it
cannot become root. -/
def confirm (creds : Credentials) (user group : IdNumber) :
    Except StartError Unit × Credentials :=
  if creds.users.effective ≠ user ∨ creds.groups.effective ≠ group then
    (.error .regainedPrivileges, creds)
  else
    match creds.call (.setuid rootId) with
    | (none, creds') => (.error .regainedPrivileges, creds')
    | (some _, creds') => (.ok (), creds')

/-- Change the group and the user, then check. -/
def switchTo (creds : Credentials) (user group : IdNumber) :
    Except StartError Unit × Credentials :=
  creds.require (.setresgid group group group) fun creds =>
    creds.require (.setresuid user user user) fun creds =>
      creds.confirm user group

/-- Carry out a plan. -/
def carryOut (creds : Credentials) (plan : DropPlan) :
    Except StartError Unit × Credentials :=
  match plan with
  | .keep => (.ok (), creds)
  | .switchTo user group clearGroups =>
    if clearGroups then
      creds.require (.setgroups group) fun creds =>
        creds.switchTo user group
    else creds.switchTo user group

/-- Make the plan for a process and carry it out: the plan, if all went
well. -/
def drop (creds : Credentials) :
    Except StartError DropPlan × Credentials :=
  match DropPlan.ofIds creds.ids with
  | .error cause => (.error cause, creds)
  | .ok plan =>
    match creds.carryOut plan with
    | (.error cause, creds') => (.error cause, creds')
    | (.ok (), creds') => (.ok plan, creds')

end Credentials

end ScreenUnlock
