import Mathlib.Data.List.Nodup
import Mathlib.Data.List.Pairwise
import Sailplane.Download.History

/-!
# Outlines

The part of a session that decides what runs and what is told: the queue, the transfers without
what they report and read, and the serials of the transfers that are ready. The equations here say
what each basic operation of a session does to that part and to the log.
-/
namespace Sailplane.Download

/-! ## Transfers and their turns -/

/-- A transfer without what it reports and reads. -/
def Transfer.bare (transfer : Transfer) : Transfer :=
  { transfer with status := .queued, inbox := [] }

/-- A transfer that runs. -/
def Transfer.enter (transfer : Transfer) : Transfer := { transfer with phase := .fetching }

/-- Change the transfer of a serial. -/
def changeAt (serial : Nat) (change : Transfer → Transfer) (tasks : List Transfer) :
    List Transfer :=
  tasks.map fun transfer => if transfer.serial == serial then change transfer else transfer

/-- The transfer of a serial. -/
def taskAt (serial : Nat) (tasks : List Transfer) : Option Transfer :=
  tasks.find? fun transfer => transfer.serial == serial

/-- The serial of the transfer that a job runs. -/
def Job.serial? : Job → Option Nat
  | .transfer serial => some serial
  | .watcher _ => none

/-- A serial behind the others, unless it is among them. -/
def enlist (serial : Nat) (turns : List Nat) : List Nat :=
  if serial ∈ turns then turns else turns ++ [serial]

/-- The transfers after one of them was stopped, if any. -/
def halt (stopped : Option Nat) (tasks : List Transfer) : List Transfer :=
  match stopped with
  | some serial => changeAt serial .stop tasks
  | none => tasks

/-- The turns after a transfer was stopped, if any. -/
def summon (stopped : Option Nat) (turns : List Nat) : List Nat :=
  match stopped with
  | some serial => enlist serial turns
  | none => turns

namespace Change

/-- The transfers after a change. -/
def tasks (change : Change) (tasks : List Transfer) : List Transfer :=
  halt change.stopped tasks ++
    change.started.toList.map fun launch => (Transfer.new launch).bare

/-- The turns after a change. -/
def turns (change : Change) (turns : List Nat) : List Nat :=
  summon change.stopped turns ++ change.started.toList.map (·.serial)

end Change

/-- A transfer that is found by a serial is among the others and has that serial. -/
theorem mem_of_taskAt {serial : Nat} {tasks : List Transfer} {transfer : Transfer}
    (found : taskAt serial tasks = some transfer) :
    transfer ∈ tasks ∧ transfer.serial = serial := by
  have same := List.find?_some found
  exact ⟨List.mem_of_find?_eq_some found, by simpa using same⟩

/-- What is found by a serial is found among more transfers, too. -/
theorem taskAt_append {serial : Nat} {tasks : List Transfer} {transfer : Transfer}
    (found : taskAt serial tasks = some transfer) (more : List Transfer) :
    taskAt serial (tasks ++ more) = some transfer := by
  rw [taskAt] at found ⊢
  rw [List.find?_append, found, Option.some_or]

/-- A change of one transfer that keeps its serial changes what is found by that serial only. -/
theorem taskAt_changeAt (serial other : Nat) (change : Transfer → Transfer)
    (tasks : List Transfer) (kept : ∀ transfer, (change transfer).serial = transfer.serial) :
    taskAt other (changeAt serial change tasks) = (taskAt other tasks).map fun transfer =>
      if transfer.serial == serial then change transfer else transfer := by
  rw [taskAt, changeAt, List.find?_map, taskAt]
  congr 2
  funext transfer
  by_cases same : (transfer.serial == serial) = true
  · simp only [Function.comp_apply, same, if_true, kept]
  · simp only [Function.comp_apply, if_neg same]

namespace Session

variable {users : Users}

/-- The transfers without what they report and read. -/
def tasks (session : Session users) : List Transfer := session.transfers.map .bare

/-- The serials of the transfers that are ready, in order. -/
def turns (session : Session users) : List Nat := session.ready.filterMap Job.serial?

/-! ## What the basic operations do -/

/-- A change that goes with leaving out what a transfer reports and reads acts on the tasks. -/
theorem tasks_alter (session : Session users) (serial : Nat) (change : Transfer → Transfer)
    (commutes : ∀ transfer, (change transfer).bare = change transfer.bare) :
    (session.alter serial change).tasks = changeAt serial change session.tasks := by
  simp only [tasks, alter, changeAt, List.map_map]
  apply List.map_congr_left
  intro transfer _
  by_cases same : (transfer.serial == serial) = true
  · simp only [Function.comp_apply, same, if_true, commutes]
    rw [if_pos (show (transfer.bare.serial == serial) = true from same)]
  · simp only [Function.comp_apply, if_neg same]
    rw [if_neg (show ¬(transfer.bare.serial == serial) = true from same)]

/-- A change of what a transfer reports and reads does not show in the tasks. -/
theorem tasks_alter_of_bare (session : Session users) (serial : Nat)
    (change : Transfer → Transfer) (hidden : ∀ transfer, (change transfer).bare = transfer.bare) :
    (session.alter serial change).tasks = session.tasks := by
  simp only [tasks, alter, List.map_map]
  apply List.map_congr_left
  intro transfer _
  by_cases same : (transfer.serial == serial) = true
  · simp only [Function.comp_apply, same, if_true, hidden]
  · simp only [Function.comp_apply, if_neg same]

/-- A job is ready exactly if its serial has a turn. -/
theorem mem_turns {session : Session users} {serial : Nat} :
    serial ∈ session.turns ↔ .transfer serial ∈ session.ready := by
  rw [turns, List.mem_filterMap]
  constructor
  · rintro ⟨job, ready, found⟩
    cases job with
    | transfer other =>
      rw [Job.serial?, Option.some.injEq] at found
      exact found ▸ ready
    | watcher label => simp [Job.serial?] at found
  · intro ready
    exact ⟨_, ready, rfl⟩

/-- A transfer that becomes ready has its turn behind the others, unless it has one. -/
theorem turns_schedule (session : Session users) (serial : Nat) :
    (session.schedule serial).turns = enlist serial session.turns := by
  rw [schedule, enlist]
  by_cases ready : serial ∈ session.turns
  · rw [if_pos ready, if_pos (List.contains_iff_mem.mpr (mem_turns.mp ready))]
  · rw [if_neg ready,
      if_neg fun listed => ready (mem_turns.mpr (List.contains_iff_mem.mp listed))]
    simp [turns, Job.serial?]

/-- Tasks that wait until nothing is queued have no turns of transfers. -/
theorem turns_wake (session : Session users) : session.wake.turns = session.turns := by
  simp only [turns, wake, List.filterMap_append, List.filterMap_map]
  have none_listed : session.waiting.filterMap (Job.serial? ∘ Job.watcher) = [] := by
    rw [List.filterMap_eq_nil_iff]
    intro label _
    rfl
  rw [none_listed, List.append_nil]

/-- How a session differs from an earlier one: its queue, its tasks and its turns are the given
ones, and what was seen meanwhile stands at the end of its log. -/
structure Shift (session next : Session users) (queue : Queue) (tasks : List Transfer)
    (turns : List Nat) (seen : List (Observation users.Listener users.Note)) : Prop where
  /-- The queue. -/
  queue : next.queue = queue
  /-- The transfers. -/
  tasks : next.tasks = tasks
  /-- The turns. -/
  turns : next.turns = turns
  /-- The log. -/
  log : next.log = session.log ++ seen

/-- To make a transfer ready gives it a turn. -/
theorem shift_schedule (session : Session users) (serial : Nat) :
    Shift session (session.schedule serial) session.queue session.tasks
      (enlist serial session.turns) [] := by
  refine ⟨?_, ?_, turns_schedule session serial, ?_⟩ <;> rw [schedule] <;> split <;>
    simp [tasks]

/-- A new message gives the transfer a turn. -/
theorem shift_post (session : Session users) (serial : Nat) (message : List Signal) :
    Shift session (session.post serial message) session.queue session.tasks
      (enlist serial session.turns) [] := by
  have scheduled := shift_schedule (session.alter serial fun transfer =>
    { transfer with inbox := transfer.inbox ++ [message] }) serial
  exact ⟨scheduled.queue,
    scheduled.tasks.trans (tasks_alter_of_bare session serial _ fun _ => rfl),
    scheduled.turns, scheduled.log⟩

/-- The tasks that are ready after a transfer was stopped, if any. -/
def summoned (stopped : Option Nat) (ready : List Job) : List Job :=
  match stopped with
  | some serial =>
    if ready.contains (.transfer serial) then ready else ready ++ [.transfer serial]
  | none => ready

/-- A transfer that becomes ready does so like one that was stopped. -/
theorem schedule_eq (session : Session users) (serial : Nat) : session.schedule serial =
    { session with ready := summoned (some serial) session.ready } := by
  rw [schedule, summoned]
  split <;> rfl

/-- What becomes of every part of a session by a change of its queue. -/
theorem apply_eq (session : Session users) (change : Change) : session.apply change =
    { session with
      queue := change.queue
      transfers := halt change.stopped session.transfers ++ change.started.toList.map .new
      ready := summoned change.stopped session.ready ++
        change.started.toList.map fun launch => .transfer launch.serial
      log := session.log ++ change.recorded.map .recorded } := by
  obtain ⟨queue, recorded, stopped, started⟩ := change
  cases stopped with
  | none => cases started <;> simp [apply, halt, summoned]
  | some serial => cases started <;> simp [apply, halt, schedule_eq, alter, changeAt]

/-- After a change its notices are handed out unless they already are. -/
theorem applyAndDeliver_eq (session : Session users) (change : Change) :
    session.applyAndDeliver change =
      (if change.queue.delivering = true then [] else [.drain],
        { session.apply change with queue := { change.queue with delivering := true } }) := by
  obtain ⟨⟨entries, active, serial, issued, outbox, delivering⟩, recorded, stopped, started⟩ :=
    change
  rw [applyAndDeliver, apply_eq]
  cases delivering <;> rfl

/-- A change of the queue stops and starts transfers, and records its notices. -/
theorem shift_apply (session : Session users) (change : Change) :
    Shift session (session.apply change) change.queue (change.tasks session.tasks)
      (change.turns session.turns) (change.recorded.map .recorded) := by
  have halted : (halt change.stopped session.transfers).map .bare =
      halt change.stopped session.tasks := by
    cases change.stopped with
    | none => rfl
    | some serial => exact tasks_alter session serial .stop fun _ => rfl
  have readied : (summoned change.stopped session.ready).filterMap Job.serial? =
      summon change.stopped session.turns := by
    cases change.stopped with
    | none => rfl
    | some serial =>
      have scheduled := turns_schedule session serial
      rwa [schedule_eq] at scheduled
  rw [apply_eq]
  refine ⟨rfl, ?_, ?_, rfl⟩
  · simp only [Change.tasks, tasks, List.map_append, List.map_map] at halted ⊢
    rw [halted]
    rfl
  · rw [Change.turns, turns, List.filterMap_append, readied, List.filterMap_map]
    cases change.started <;> rfl

/-- After a change of the queue its notices are being handed out. -/
theorem shift_applyAndDeliver (session : Session users) (change : Change) :
    Shift session (session.applyAndDeliver change).2 { change.queue with delivering := true }
      (change.tasks session.tasks) (change.turns session.turns)
      (change.recorded.map .recorded) := by
  have applied := shift_apply session change
  rw [applyAndDeliver_eq]
  exact ⟨rfl, applied.tasks, applied.turns, applied.log⟩

/-- The task of a serial is the transfer of that serial. -/
theorem taskAt_tasks (session : Session users) (serial : Nat) :
    taskAt serial session.tasks = (session.transfer? serial).map .bare := by
  rw [taskAt, tasks, List.find?_map, transfer?]
  rfl

end Session

end Sailplane.Download
