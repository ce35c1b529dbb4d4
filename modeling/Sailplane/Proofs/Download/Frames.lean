import Sailplane.Proofs.Download.Steps

/-!
# Frames

What has begun in a session is nested in one way only: notices are handed out by at most one call,
exactly while the queue says so, and a transfer that runs lies below everything it has set off.
Notices that have not been handed out wait only while somebody hands them out.
-/
namespace Sailplane.Download

variable {users : Users}

/-- How frames may lie on each other while notices are being handed out or not. -/
inductive Nested (tasks : List Transfer) : Bool → List (Frame users) → Prop where
  /-- Nothing has begun. -/
  | nil : Nested tasks false []
  /-- A script may lie on anything. -/
  | script {delivering : Bool} {rest : List (Frame users)} (script : users.Script Unit)
    (below : Nested tasks delivering rest) : Nested tasks delivering (.script script :: rest)
  /-- Listeners may be told something at any time. -/
  | tell {delivering : Bool} {rest : List (Frame users)} (calls : List (users.Listener × Event))
    (below : Nested tasks delivering rest) : Nested tasks delivering (.tell calls :: rest)
  /-- What a transfer has cancelled is shown at the end. -/
  | shown {delivering : Bool} {rest : List (Frame users)} (name : String) (found : Bool)
    (below : Nested tasks delivering rest) :
    Nested tasks delivering (.show (.cancelled name found) :: rest)
  /-- Notices are handed out once at a time. -/
  | drain {rest : List (Frame users)} (below : Nested tasks false rest) :
    Nested tasks true (.drain :: rest)
  /-- A transfer that runs lies below all else. -/
  | transfer {serial : Nat} {transfer : Transfer} (found : taskAt serial tasks = some transfer)
    (fetching : transfer.phase = .fetching) (message : List Signal) (allowance : Nat) :
    Nested tasks false [.transfer serial message allowance]

/-- Whether every transfer that runs goes on running among other tasks. -/
def Carries (tasks others : List Transfer) : Prop :=
  ∀ serial transfer, taskAt serial tasks = some transfer → transfer.phase = .fetching →
    ∃ other, taskAt serial others = some other ∧ other.phase = .fetching

/-- Frames stay nested while the transfers that run go on. -/
theorem Nested.carry {tasks others : List Transfer} {delivering : Bool}
    {stack : List (Frame users)} (nested : Nested tasks delivering stack)
    (carried : Carries tasks others) : Nested others delivering stack := by
  induction nested with
  | nil => exact .nil
  | script script _ ih => exact .script script ih
  | tell calls _ ih => exact .tell calls ih
  | shown name found _ ih => exact .shown name found ih
  | drain _ ih => exact .drain ih
  | transfer found fetching message allowance =>
    obtain ⟨other, there, running⟩ := carried _ _ found fetching
    exact .transfer there running message allowance

/-- A change of one transfer that leaves its serial and its phase keeps what runs. -/
theorem carries_changeAt (tasks : List Transfer) (serial : Nat) (change : Transfer → Transfer)
    (serials : ∀ transfer, (change transfer).serial = transfer.serial)
    (phases : ∀ transfer, (change transfer).phase = transfer.phase) :
    Carries tasks (changeAt serial change tasks) := by
  intro other transfer found fetching
  rw [taskAt_changeAt serial other change tasks serials, found]
  refine ⟨_, rfl, ?_⟩
  dsimp only
  split
  · exact (phases transfer).trans fetching
  · exact fetching

/-- A change of the queue keeps what runs. -/
theorem carries_change (tasks : List Transfer) (change : Change) :
    Carries tasks (change.tasks tasks) := by
  intro other transfer found fetching
  rw [Change.tasks]
  cases change.stopped with
  | none => exact ⟨transfer, taskAt_append found _, fetching⟩
  | some serial =>
    obtain ⟨still, there, running⟩ := carries_changeAt tasks serial .stop (fun _ => rfl)
      (fun _ => rfl) other transfer found fetching
    exact ⟨still, taskAt_append there _, running⟩

namespace Session

/-- Whether frames are nested and no notice is left without somebody to hand it out. -/
structure Framed (session : Session users) : Prop where
  /-- The frames are nested. -/
  nested : Nested session.tasks session.queue.delivering session.stack
  /-- Notices wait only for whoever hands them out. -/
  pending : session.queue.outbox ≠ [] → session.queue.delivering = true

/-- In the beginning nothing is on the stack. -/
theorem framed_new (state : users.State) : Framed (.new state) :=
  ⟨.nil, fun waits => absurd rfl waits⟩

/-- After a call that records notices, what it sets off lies nested on what it was made from. -/
theorem nested_applyAndDeliver (session : Session users) (change : Change)
    (delivering : change.queue.delivering = session.queue.delivering)
    {stack : List (Frame users)}
    (below : Nested session.tasks session.queue.delivering stack) :
    Nested (session.applyAndDeliver change).2.tasks true
      ((session.applyAndDeliver change).1 ++ stack) := by
  rw [(shift_applyAndDeliver session change).tasks]
  have applied := (shift_apply session change).queue
  have carried := below.carry (carries_change session.tasks change)
  rw [← delivering, ← applied] at carried
  cases open? : (session.apply change).queue.delivering with
  | true =>
    rw [open?] at carried
    simpa [applyAndDeliver, Queue.openDelivery?, open?] using carried
  | false =>
    rw [open?] at carried
    simpa [applyAndDeliver, Queue.openDelivery?, open?] using Nested.drain carried

end Session

end Sailplane.Download
