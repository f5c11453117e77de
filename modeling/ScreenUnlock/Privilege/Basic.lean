/-
Rights that a helper starts with, and the plan to give them up.

A process has real ids, those of its invoker, and effective ids, which
decide what it may do. Where they differ the process is privileged. The
plan is to become the invoker in every respect; a helper that was invoked
by root itself is refused, because it could not give up anything.
-/
import ScreenUnlock.Auth.Basic
import ScreenUnlock.Config.Basic

namespace ScreenUnlock

/-- The number of a user or a group. -/
abbrev IdNumber := UInt32

/-- The number of the user who may do everything. -/
def rootId : IdNumber := 0

/-- Real and effective ids of a process. -/
structure Ids where
  realUser : IdNumber
  effectiveUser : IdNumber
  realGroup : IdNumber
  effectiveGroup : IdNumber
  deriving DecidableEq, Repr

/-- Whether a process has other rights than its invoker. -/
def Ids.isPrivileged (ids : Ids) : Bool :=
  decide (ids.effectiveUser ≠ ids.realUser)
    || decide (ids.effectiveGroup ≠ ids.realGroup)

-- ============================================================ the errors

/-- Why a system call failed that changes ids. -/
inductive Errno where
  | notPermitted
  | invalidArgument
  | tryAgain
  -- The list of groups did not find room.
  | outOfMemory
  deriving DecidableEq, Repr

namespace Errno

/-- The number of the error. -/
def number : Errno → Nat
  | notPermitted => 1
  | tryAgain => 11
  | outOfMemory => 12
  | invalidArgument => 22

/-- The wording of the error. -/
def message : Errno → String
  | notPermitted => "EPERM: Operation not permitted"
  | tryAgain => "EAGAIN: Try again"
  | outOfMemory => "ENOMEM: Out of memory"
  | invalidArgument => "EINVAL: Invalid argument"

end Errno

/-- Why locking is impossible. -/
inductive StartError where
  | runningAsRoot
  | noIdentity (user : IdNumber)
  | dropFailed (cause : Errno)
  -- The rights could be had back.
  | regainedPrivileges
  | lockingUnavailable (cause : AuthError)
  | config (cause : ConfigError)
  deriving DecidableEq, Repr

/-- The wording of the failure. -/
def StartError.message : StartError → String
  | runningAsRoot => "running as root"
  | noIdentity user =>
    "cannot determine user name for uid " ++ toString user.toNat
  | dropFailed cause => "failed to drop privileges: " ++ cause.message
  | regainedPrivileges =>
    "privileges could be regained after dropping them"
  | lockingUnavailable cause => "locking unavailable: " ++ cause.message
  | config cause => cause.message

-- ============================================================== the plan

/-- How to give up rights. -/
inductive DropPlan where
  -- There is nothing to give up.
  | keep
  | switchTo (user group : IdNumber) (clearGroups : Bool)
  deriving DecidableEq, Repr

/-- The plan for a process. Further groups are given up first, which is
possible only with the rights of root. -/
def DropPlan.ofIds (ids : Ids) : Except StartError DropPlan :=
  if ids.realUser = rootId then .error .runningAsRoot
  else if ids.isPrivileged then
    .ok (.switchTo ids.realUser ids.realGroup
      (decide (ids.effectiveUser = rootId)))
  else .ok .keep

end ScreenUnlock
