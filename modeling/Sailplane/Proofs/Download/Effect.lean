import Sailplane.Proofs.Download.Frames

/-!
# Effects

What one move of a session can do to its queue, its transfers and its log, said once for all moves.
Everything that holds of every run is derived from these effects and from nothing else about the
steps.
-/
namespace Sailplane.Download

/-- Whether an observation is neither of a notice nor of the beginning or the end of a transfer. -/
def Observation.isNeutral {Listener Note : Type} : Observation Listener Note → Bool
  | recorded _ => false
  | announced _ => false
  | started _ => false
  | ended _ _ => false
  | dropped _ => false
  | _ => true

namespace Session

variable {users : Users}

/-- How a session differs after a change of its queue of which the notices are handed out. -/
abbrev Changed (session next : Session users) (change : Change) (tasks : List Transfer)
    (seen : List (Observation users.Listener users.Note)) : Prop :=
  Shift session next { change.queue with delivering := true } (change.tasks tasks)
    (change.turns session.turns) (seen ++ change.recorded.map .recorded)

/-- What a move can do, with the deed of the call it makes. -/
inductive Effect (session : Session users) :
    Option (Deed users.Listener) → Session users → Prop where
  /-- Nothing happens to the queue and the transfers. -/
  | still {next : Session users} {seen : List (Observation users.Listener users.Note)}
    (neutral : ∀ observation ∈ seen, observation.isNeutral = true)
    (shift : Shift session next session.queue session.tasks session.turns seen) :
    Effect session none next
  /-- A transfer that is not over gets a turn. -/
  | woken {next : Session users} {transfer : Transfer} (listed : transfer ∈ session.tasks)
    (pending : transfer.phase ≠ .closed)
    (shift : Shift session next session.queue session.tasks
      (enlist transfer.serial session.turns) []) : Effect session none next
  /-- The handing out of notices ends. -/
  | rested {next : Session users} (empty : session.queue.outbox = [])
    (shift : Shift session next { session.queue with delivering := false } session.tasks
      session.turns []) : Effect session none next
  /-- A notice begins to be handed out. -/
  | announced {next : Session users} {notice : Notice} {rest : List Notice}
    {listeners : List users.Listener} (first : session.queue.outbox = notice :: rest)
    (shift : Shift session next { session.queue with outbox := rest } session.tasks
      session.turns [.announced notice]) : Effect session (some (.announced notice listeners)) next
  /-- A listener is told of a notice. -/
  | told {next : Session users} {listener : users.Listener} {event : Event}
    (shift : Shift session next session.queue session.tasks session.turns
      [.heard listener event]) : Effect session (some (.told listener event)) next
  /-- A request is queued. -/
  | queued {next : Session users} (request : Request)
    (changed : Changed session next (session.queue.enqueue request) session.tasks []) :
    Effect session (some (.queued request)) next
  /-- A request is cancelled. -/
  | cancelled {next : Session users} {name : String} {entry : Entry} {change : Change}
    {seen : List (Observation users.Listener users.Note)}
    (first : (session.queue.entries.find? fun entry => entry.name == name) = some entry)
    (found : session.queue.cancel? name = some change)
    (neutral : ∀ observation ∈ seen, observation.isNeutral = true)
    (changed : Changed session next change session.tasks seen) :
    Effect session (some (.cancelled entry)) next
  /-- All requests are taken away. -/
  | emptied {next : Session users}
    (shift : Shift session next session.queue.shutdown.queue
      (session.queue.shutdown.tasks session.tasks) (session.queue.shutdown.turns session.turns)
      [.emptied session.queue.entries]) :
    Effect session (some (.emptied session.queue.entries)) next
  /-- A transfer begins. -/
  | begun {next : Session users} {transfer : Transfer} {turns : List Nat}
    (listed : transfer ∈ session.tasks) (turn : session.turns = transfer.serial :: turns)
    (waiting : transfer.phase = .waiting) (kept : transfer.stopped = false)
    (shift : Shift session next session.queue
      (changeAt transfer.serial .enter session.tasks) turns [.started (launchOf transfer)]) :
    Effect session none next
  /-- A turn passes without a beginning or an end. -/
  | passed {next : Session users} {serial : Nat} {turns : List Nat}
    (turn : session.turns = serial :: turns)
    (settled : ∀ transfer,
      taskAt serial session.tasks = some transfer →
        transfer.phase ≠ .waiting ∧ (transfer.phase = .fetching → transfer.stopped = false))
    (shift : Shift session next session.queue session.tasks turns []) : Effect session none next
  /-- A transfer that was stopped before it began is over at its turn. -/
  | discarded {next : Session users} {transfer : Transfer} {turns : List Nat}
    (listed : transfer ∈ session.tasks) (turn : session.turns = transfer.serial :: turns)
    (waiting : transfer.phase = .waiting) (stopped : transfer.stopped = true)
    (shift : Shift session next session.queue
      (changeAt transfer.serial .close session.tasks) turns []) : Effect session none next
  /-- A transfer that was stopped while it ran is over. -/
  | dropped {next : Session users} {transfer : Transfer} {turns : List Nat}
    (listed : transfer ∈ session.tasks)
    (turn : session.turns = transfer.serial :: turns ∨ session.turns = turns)
    (fetching : transfer.phase = .fetching) (stopped : transfer.stopped = true)
    (shift : Shift session next session.queue
      (changeAt transfer.serial .close session.tasks) turns [.dropped (launchOf transfer)]) :
    Effect session none next
  /-- A transfer has ended that the queue no longer waits for. -/
  | outlived {next : Session users} {transfer : Transfer} {failure : Option Failure}
    (listed : transfer ∈ session.tasks) (fetching : transfer.phase = .fetching)
    (late : session.queue.complete? transfer.serial failure = none)
    (running : ∃ message allowance,
      session.stack = [.transfer transfer.serial (.finish failure :: message) allowance])
    (shift : Shift session next session.queue
      (changeAt transfer.serial .close session.tasks) session.turns
      [.ended (launchOf transfer) failure]) : Effect session none next
  /-- The transfer that the queue waits for has ended. -/
  | finished {next : Session users} {transfer : Transfer} {failure : Option Failure}
    {change : Change} (listed : transfer ∈ session.tasks) (fetching : transfer.phase = .fetching)
    (completed : session.queue.complete? transfer.serial failure = some change)
    (changed : Changed session next change (changeAt transfer.serial .close session.tasks)
      [.ended (launchOf transfer) failure]) : Effect session none next

/-- What a move comes to: an effect after which the frames are still nested. -/
def Sound (session : Session users) (deed : Option (Deed users.Listener))
    (next : Session users) : Prop :=
  Effect session deed next ∧ Nested next.tasks next.queue.delivering next.stack

/-- One neutral observation is neutral. -/
theorem neutral_single {observation : Observation users.Listener users.Note}
    (neutral : observation.isNeutral = true) : ∀ other ∈ [observation], other.isNeutral = true := by
  intro other seen
  rw [List.mem_singleton.mp seen]
  exact neutral

/-! ## Nested effects -/

/-- A move that leaves the queue and the transfers alone. -/
theorem sound_still {session next : Session users}
    {seen : List (Observation users.Listener users.Note)}
    (neutral : ∀ observation ∈ seen, observation.isNeutral = true)
    (shift : Shift session next session.queue session.tasks session.turns seen)
    (nested : Nested session.tasks session.queue.delivering next.stack) :
    Sound session none next := by
  refine ⟨.still neutral shift, ?_⟩
  rw [shift.tasks, shift.queue]
  exact nested

/-- A move that changes nothing but what a session keeps besides its queue, its transfers and its
log. -/
theorem sound_aside {session next : Session users} {deed : Option (Deed users.Listener)}
    (without : deed = none)
    (queue : next.queue = session.queue) (transfers : next.transfers = session.transfers)
    (turns : next.turns = session.turns) (log : next.log = session.log)
    (nested : Nested session.tasks session.queue.delivering next.stack) :
    Sound session deed next := by
  have shift : Shift session next session.queue session.tasks session.turns [] :=
    ⟨queue, congrArg (List.map Transfer.bare) transfers, turns,
      log.trans (List.append_nil _).symm⟩
  rw [without]
  exact sound_still (fun _ seen => absurd seen List.not_mem_nil) shift nested

/-- After a change of the queue of which the notices are handed out, frames are nested. -/
theorem nested_changed (session : Session users) {next : Session users} (change : Change)
    {rest : List (Frame users)}
    (delivering : change.queue.delivering = session.queue.delivering)
    (below : Nested session.tasks session.queue.delivering rest)
    (tasks : next.tasks = (session.applyAndDeliver change).2.tasks)
    (opened : next.queue.delivering = true)
    (stack : next.stack = (session.applyAndDeliver change).1 ++ rest) :
    Nested next.tasks next.queue.delivering next.stack := by
  rw [tasks, opened, stack]
  exact nested_applyAndDeliver session change delivering below

/-- Recording a notice does not touch whether notices are being handed out. -/
theorem record_delivering (queue : Queue) (notice : Notice) (stopped : Option Nat) :
    (queue.record notice stopped).queue.delivering = queue.delivering := by
  simp only [Queue.record, Queue.startHead]
  split
  · rfl
  · rfl

/-- Cancelling does not touch whether notices are being handed out. -/
theorem cancel_delivering {queue : Queue} {name : String} {change : Change}
    (found : queue.cancel? name = some change) :
    change.queue.delivering = queue.delivering := by
  obtain ⟨entry, _, rfl⟩ := Option.map_eq_some_iff.mp found
  dsimp only
  split
  · exact record_delivering _ _ _
  · exact record_delivering _ _ _

/-- The end of a transfer does not touch whether notices are being handed out. -/
theorem complete_delivering {queue : Queue} {serial : Nat} {failure : Option Failure}
    {change : Change} (completed : queue.complete? serial failure = some change) :
    change.queue.delivering = queue.delivering := by
  rw [Queue.complete?] at completed
  split at completed
  · split at completed
    · obtain rfl := Option.some.inj completed
      rfl
    · obtain rfl := Option.some.inj completed
      exact record_delivering _ _ _
  · exact absurd completed (by simp)

end Session

end Sailplane.Download
