/-
The name of the invoking user.

It is the one in the user database; where that has none, or cannot be
read, a name from the environment will do if it is not empty.
-/
import ScreenUnlock.Privilege.Basic

namespace ScreenUnlock

/-- The user database. -/
inductive UserDatabase where
  | entries (names : List (IdNumber × String))
  | unreadable
  deriving DecidableEq, Repr

namespace UserDatabase

/-- What looking up a user comes to. -/
inductive Lookup where
  | found (name : String)
  | unknown
  | failed
  deriving DecidableEq, Repr

/-- Look up a user. -/
def lookup (database : UserDatabase) (user : IdNumber) : Lookup :=
  match database with
  | .unreadable => .failed
  | .entries names =>
    match names.lookup user with
    | some name => .found name
    | none => .unknown

/-- The name of a user. -/
def resolve (database : UserDatabase) (user : IdNumber)
    (fallback : Option String) : Except StartError String :=
  match database.lookup user with
  | .found name => .ok name
  | _ =>
    match fallback with
    | some name => if name = "" then .error (.noIdentity user) else .ok name
    | none => .error (.noIdentity user)

end UserDatabase

end ScreenUnlock
