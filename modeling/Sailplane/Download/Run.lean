import Sailplane.Download.Session

/-!
# Runs

What can happen to a session: it takes its own steps, messages come in for its transfers, and
whenever nothing has begun a caller may begin any script from outside. A run is a sequence of such
moves; it keeps the sessions in which a step was taken, since they tell which calls were made.
-/
namespace Sailplane.Download

/-- The sessions in which a run took a step, in order. -/
abbrev History (users : Users) : Type := List (Session users)

namespace Session

variable {users : Users}

/-- A message comes in for a transfer, unless that is over. -/
def arrive (session : Session users) (serial : Nat) (message : List Signal) : Session users :=
  match session.transfer? serial with
  | some transfer =>
    if transfer.phase == .closed then session else session.post serial message
  | none => session

/-- What comes to a session from outside. -/
inductive Input : Session users → Session users → Prop where
  /-- A caller begins a script. -/
  | begin {session : Session users} (quiet : session.stack = []) (script : users.Script Unit) :
    Input session (session.begin script)
  /-- A message comes in for a transfer. -/
  | arrive (session : Session users) (serial : Nat) (message : List Signal) :
    Input session (session.arrive serial message)

/-- What can happen next. -/
inductive Move : Session users → Session users → Prop where
  /-- A step of the session itself. -/
  | step {session next : Session users} (taken : session.step? = some next) : Move session next
  /-- Something from outside. -/
  | input {session next : Session users} (input : Input session next) : Move session next

/-- Whether a run with a history leads from one session to another. -/
inductive Run (source : Session users) : History users → Session users → Prop where
  /-- Nothing happens. -/
  | refl : Run source [] source
  /-- One step more. -/
  | step {past : History users} {session next : Session users} (before : Run source past session)
    (taken : session.step? = some next) : Run source (past ++ [session]) next
  /-- Something more from outside. -/
  | input {past : History users} {session next : Session users} (before : Run source past session)
    (input : Input session next) : Run source past next

/-- The sessions in which steps are taken until there is none, and at most a given number. -/
def visited : Nat → Session users → History users
  | 0, _ => []
  | fuel + 1, session =>
    match session.step? with
    | some next => session :: visited fuel next
    | none => []

/-- Whether a session can come about from nothing. -/
def Reachable (session : Session users) : Prop := ∃ state past, Run (.new state) past session

/-- Whether no step is left to take. -/
def AtRest (session : Session users) : Prop := session.step? = none

end Session

end Sailplane.Download
