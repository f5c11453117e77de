/-
The credentials of a process and the calls that change them.

Besides its real and effective ids a process has saved ones, which it can
go back to, and it is capable or not: a capable process may become
anybody. The calls follow those of the system. Credentials also say which
calls will fail or do nothing, and whether the capability stays when the
user changes; and they keep a record of every call.
-/
import ScreenUnlock.Privilege.Basic

namespace ScreenUnlock

-- ============================================================= the calls

/-- A call that changes ids. -/
inductive IdCall where
  -- Be in this group and in no further one.
  | setgroups (group : IdNumber)
  | setresgid (real effective saved : IdNumber)
  | setresuid (real effective saved : IdNumber)
  | setuid (user : IdNumber)
  deriving DecidableEq, Repr

/-- The name of a call. -/
inductive IdCall.Name where
  | setgroups
  | setresgid
  | setresuid
  | setuid
  deriving DecidableEq, Repr

namespace IdCall

/-- The name of the call. -/
def name : IdCall → Name
  | setgroups _ => .setgroups
  | setresgid _ _ _ => .setresgid
  | setresuid _ _ _ => .setresuid
  | setuid _ => .setuid

/-- The call as a record shows it. -/
def display : IdCall → String
  | setgroups group => "setgroups " ++ toString group.toNat
  | setresgid real effective saved =>
    "setresgid " ++ toString real.toNat ++ " " ++ toString effective.toNat
      ++ " " ++ toString saved.toNat
  | setresuid real effective saved =>
    "setresuid " ++ toString real.toNat ++ " " ++ toString effective.toNat
      ++ " " ++ toString saved.toNat
  | setuid user => "setuid " ++ toString user.toNat

end IdCall

/-- A call that was made, and why it failed if it did. -/
structure IdCallRecord where
  call : IdCall
  failure : Option Errno
  deriving DecidableEq, Repr

/-- The record in words: the call and its result, which is 0 or minus
the number of the error. -/
def IdCallRecord.display (record : IdCallRecord) : String :=
  record.call.display ++ " = "
    ++ (match record.failure with
        | none => "0"
        | some cause => "-" ++ toString cause.number)

-- ======================================================= the credentials

/-- What will go wrong with the calls of a process. -/
structure IdFaults where
  -- The capability stays when the user changes.
  keepsCapability : Bool := false
  deniesGroups : Bool := false
  -- Calls that fail, with the cause.
  failing : List (IdCall.Name × Errno) := []
  -- Calls that change nothing when they succeed; only the two that
  -- change all ids of a kind can be among them.
  ignored : List IdCall.Name := []
  deriving DecidableEq, Repr

/-- Real, effective and saved ids of one kind. -/
structure IdTriple where
  real : IdNumber
  effective : IdNumber
  saved : IdNumber
  deriving DecidableEq, Repr

namespace IdTriple

/-- Whether an id is one of the three. -/
def has (triple : IdTriple) (id : IdNumber) : Bool :=
  decide (id = triple.real) || decide (id = triple.effective)
    || decide (id = triple.saved)

/-- The same id in all three places. -/
def all (id : IdNumber) : IdTriple := ⟨id, id, id⟩

end IdTriple

/-- What a process is allowed to be, and what it did about it. -/
structure Credentials where
  users : IdTriple
  groups : IdTriple
  capable : Bool
  faults : IdFaults
  -- The calls it has made, oldest first.
  calls : List IdCallRecord
  deriving DecidableEq, Repr

namespace Credentials

/-- A process that has just started: its saved ids are its effective
ones, and it is capable if root is its real or effective user. -/
def start (ids : Ids) (faults : IdFaults) : Credentials :=
  { users := ⟨ids.realUser, ids.effectiveUser, ids.effectiveUser⟩
    groups := ⟨ids.realGroup, ids.effectiveGroup, ids.effectiveGroup⟩
    capable := decide (ids.realUser = rootId)
      || decide (ids.effectiveUser = rootId)
    faults
    calls := [] }

/-- The real and effective ids of a process. -/
def ids (creds : Credentials) : Ids :=
  { realUser := creds.users.real
    effectiveUser := creds.users.effective
    realGroup := creds.groups.real
    effectiveGroup := creds.groups.effective }

/-- The same with other users. Unless the capability is kept, the process
is now capable exactly if root is its effective user. -/
def withUsers (creds : Credentials) (users : IdTriple) : Credentials :=
  { creds with
    users
    capable :=
      if creds.faults.keepsCapability then creds.capable
      else decide (users.effective = rootId) }

/-- Why a call is refused, without regard to planned failures. -/
def refusal? (creds : Credentials) : IdCall → Option Errno
  | .setgroups _ =>
    if creds.capable ∧ ¬ creds.faults.deniesGroups then none
    else some .notPermitted
  | .setresgid real effective saved =>
    if creds.capable
        ∨ (creds.groups.has real ∧ creds.groups.has effective
          ∧ creds.groups.has saved) then none
    else some .notPermitted
  | .setresuid real effective saved =>
    if creds.capable
        ∨ (creds.users.has real ∧ creds.users.has effective
          ∧ creds.users.has saved) then none
    else some .notPermitted
  | .setuid user =>
    if creds.capable ∨ user = creds.users.real
        ∨ user = creds.users.saved then none
    else some .notPermitted

/-- Why a call fails, if it does. -/
def failure? (creds : Credentials) (call : IdCall) : Option Errno :=
  match creds.faults.failing.lookup call.name with
  | some cause => some cause
  | none => creds.refusal? call

/-- What a call that succeeds does. -/
def effect (creds : Credentials) : IdCall → Credentials
  | .setgroups _ => creds
  | .setresgid real effective saved =>
    if .setresgid ∈ creds.faults.ignored then creds
    else { creds with groups := ⟨real, effective, saved⟩ }
  | .setresuid real effective saved =>
    if .setresuid ∈ creds.faults.ignored then creds
    else creds.withUsers ⟨real, effective, saved⟩
  | .setuid user =>
    if creds.capable then creds.withUsers (.all user)
    else creds.withUsers { creds.users with effective := user }

/-- Make a call: why it failed, if it did, and what holds afterwards. -/
def call (creds : Credentials) (call : IdCall) :
    Option Errno × Credentials :=
  match creds.failure? call with
  | some cause =>
    (some cause, { creds with
      calls := creds.calls ++ [⟨call, some cause⟩] })
  | none =>
    let creds' := creds.effect call
    (none, { creds' with calls := creds.calls ++ [⟨call, none⟩] })

end Credentials

end ScreenUnlock
