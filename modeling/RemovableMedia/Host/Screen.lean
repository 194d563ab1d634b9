import RemovableMedia.Host.Basic
import RemovableMedia.Notification.Identity
import RemovableMedia.Registry

/-!
# A screen

The plainest notification host: it shows what it is asked to, keeps a record
of the calls, and can be told to fail.  A call that fails changes nothing of
what is shown.
-/

namespace RemovableMedia

/-- A call that changes what is shown. -/
inductive HostCall where
  | create (id : String) (content : NotificationContent)
  | clear (id : String)
  deriving DecidableEq, Repr

namespace HostCall

/-- The identity that the call is about. -/
def id : HostCall → String
  | create id _ => id
  | clear id => id

end HostCall

/-- A way to fail. -/
inductive Fault where
  | failure (error : HostError)
  | panic
  deriving DecidableEq, Repr

namespace Fault

/-- What a call comes to that fails in this way. -/
def outcome {α : Type} : Fault → Outcome α
  | failure error => .failed error
  | panic => .panicked

end Fault

/-- The calls that go wrong, and how. -/
structure Faults where
  create : Option Fault := none
  clear : Option Fault := none
  visibleIds : Option Fault := none
  deriving DecidableEq, Repr

/-- A host that does as it is told, apart from the faults that it was given. -/
structure Screen where
  shown : Registry String NotificationContent := .empty
  faults : Faults := {}
  /-- The calls so far, in order, those that failed too. -/
  calls : List HostCall := []
  /-- How often it was asked what is visible. -/
  visibleQueries : Nat := 0

namespace Screen

/-- Shows the content under the identity, in place of what is there. -/
def create (id : String) (content : NotificationContent) (screen : Screen) :
    Outcome Unit × Screen :=
  let called :=
    { screen with calls := screen.calls ++ [.create id content] }
  match screen.faults.create with
  | some fault => (fault.outcome, called)
  | none =>
      (.done (), { called with shown := screen.shown.insert id content })

/-- Removes what is shown under the identity. -/
def clear (id : String) (screen : Screen) : Outcome Bool × Screen :=
  let called := { screen with calls := screen.calls ++ [.clear id] }
  match screen.faults.clear with
  | some fault => (fault.outcome, called)
  | none =>
      (.done (screen.shown.contains id),
        { called with shown := screen.shown.erase id })

/-- All identities under which something is shown. -/
def visibleIds (screen : Screen) : Outcome (List String) × Screen :=
  let asked := { screen with visibleQueries := screen.visibleQueries + 1 }
  match screen.faults.visibleIds with
  | some fault => (fault.outcome, asked)
  | none => (.done screen.shown.keys, asked)

instance : NotificationHost Screen := ⟨create, clear, visibleIds⟩

/-- The calls about identities with one heading, in order. -/
def callsUnder (heading : String) (screen : Screen) : List HostCall :=
  screen.calls.filter fun call => headingOf call.id = heading

end Screen

end RemovableMedia
