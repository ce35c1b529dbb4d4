import Sailplane.Proofs.Download.Steps

/-!
# Renumbering

A queue that has given out tickets and serials before goes on like one that has not, only that its
numbers are greater. Here is what it means to have been numbered after a lead, for each kind of
data, and that every operation of a queue goes with it.
-/
namespace Sailplane.Download

/-- The numbers that were given out before. -/
structure Lead where
  /-- How many serials. -/
  serials : Nat
  /-- How many tickets. -/
  tickets : Nat

variable {users : Users} {Listener Note : Type}

/-- The serial given out after a lead in place of a serial. -/
def Lead.shift (lead : Lead) (serial : Nat) : Nat := lead.serials + serial

/-- A request numbered after a lead. -/
def Entry.behind (lead : Lead) (entry : Entry) : Entry :=
  { entry with ticket := lead.tickets + entry.ticket }

/-- A notice about a request numbered after a lead. -/
def Notice.behind (lead : Lead) : Notice → Notice
  | added entry => added (entry.behind lead)
  | complete entry => complete (entry.behind lead)
  | error entry failure => error (entry.behind lead) failure

/-- A started transfer numbered after a lead. -/
def Launch.behind (lead : Lead) (launch : Launch) : Launch :=
  ⟨lead.shift launch.serial, launch.entry.behind lead⟩

/-- A queue numbered after a lead. -/
def Queue.behind (lead : Lead) (queue : Queue) : Queue where
  entries := queue.entries.map (Entry.behind lead)
  active := queue.active.map lead.shift
  serial := lead.shift queue.serial
  issued := lead.tickets + queue.issued
  outbox := queue.outbox.map (Notice.behind lead)
  delivering := queue.delivering

/-- A change of a queue numbered after a lead. -/
def Change.behind (lead : Lead) (change : Change) : Change where
  queue := change.queue.behind lead
  recorded := change.recorded.map (Notice.behind lead)
  stopped := change.stopped.map lead.shift
  started := change.started.map (Launch.behind lead)

/-- A transfer numbered after a lead. -/
def Transfer.behind (lead : Lead) (transfer : Transfer) : Transfer :=
  { transfer with
    serial := lead.shift transfer.serial
    entry := transfer.entry.behind lead }

/-- A task numbered after a lead. -/
def Job.behind (lead : Lead) : Job → Job
  | transfer serial => transfer (lead.shift serial)
  | watcher label => watcher label

/-- An observation of what is numbered after a lead. -/
def Observation.behind (lead : Lead) : Observation Listener Note → Observation Listener Note
  | recorded notice => recorded (notice.behind lead)
  | announced notice => announced (notice.behind lead)
  | heard listener event => heard listener event
  | started launch => started (launch.behind lead)
  | ended launch failure => ended (launch.behind lead) failure
  | dropped launch => dropped (launch.behind lead)
  | followed launch signal => followed (launch.behind lead) signal
  | emptied entries => emptied (entries.map (Entry.behind lead))
  | cancelled name found => cancelled name found
  | idle label => idle label
  | note written => note written

/-- What has begun, numbered after a lead. -/
def Frame.behind (lead : Lead) : Frame users → Frame users
  | script rest => script rest
  | drain => drain
  | tell calls => tell calls
  | transfer serial message allowance => transfer (lead.shift serial) message allowance
  | «show» observation => .show (observation.behind lead)

variable (lead : Lead)

/-! ## Requests and notices -/

/-- A number does not change the name of a request. -/
@[simp] theorem Entry.name_behind (entry : Entry) : (entry.behind lead).name = entry.name := rfl

/-- A number does not change what listeners are told. -/
@[simp] theorem Notice.event_behind (notice : Notice) :
    (notice.behind lead).event = notice.event := by
  cases notice with
  | added entry | complete entry | error entry failure => rfl

/-- The notice of the end of a request goes with its number. -/
theorem Notice.ending_behind (entry : Entry) (failure : Option Failure) :
    Notice.ending (entry.behind lead) failure = (Notice.ending entry failure).behind lead := by
  cases failure with
  | none | some failure => rfl

/-- Serials are told apart after a lead as before it. -/
theorem Lead.shift_inj {first second : Nat} :
    lead.shift first = lead.shift second ↔ first = second := by
  rw [Lead.shift, Lead.shift]
  omega

/-- The searches for a name find the same request. -/
theorem find_behind (entries : List Entry) (name : String) :
    ((entries.map (Entry.behind lead)).find? fun entry => entry.name == name) =
      (entries.find? fun entry => entry.name == name).map (Entry.behind lead) := by
  rw [List.find?_map]
  rfl

/-- To take the first request of a name away goes with the numbers. -/
theorem erase_behind (entries : List Entry) (name : String) :
    ((entries.map (Entry.behind lead)).eraseP fun entry => entry.name == name) =
      (entries.eraseP fun entry => entry.name == name).map (Entry.behind lead) := by
  rw [List.eraseP_map]
  rfl

/-! ## Queues -/

namespace Queue

variable (queue : Queue)

/-- Numbers do not make a queue busy. -/
@[simp] theorem isIdle_behind : (queue.behind lead).isIdle = queue.isIdle := by
  simp [isIdle, behind]

/-- To start the first request goes with the numbers. -/
theorem startHead_behind : (queue.behind lead).startHead =
    (queue.startHead.1.behind lead, queue.startHead.2.map (Launch.behind lead)) := by
  obtain ⟨entries, active, serial, issued, outbox, delivering⟩ := queue
  cases active with
  | some running => rfl
  | none =>
    cases entries with
    | nil => rfl
    | cons entry rest => rfl

/-- To record a notice goes with the numbers. -/
theorem record_behind (notice : Notice) (stopped : Option Nat) :
    (queue.behind lead).record (notice.behind lead) (stopped.map lead.shift) =
      (queue.record notice stopped).behind lead := by
  have noted : ({ queue.behind lead with
      outbox := (queue.behind lead).outbox ++ [notice.behind lead] } : Queue) =
      ({ queue with outbox := queue.outbox ++ [notice] } : Queue).behind lead := by
    simp [behind]
  rw [record, noted, startHead_behind]
  rfl

/-- To queue a request goes with the numbers. -/
theorem enqueue_behind (request : Request) :
    (queue.behind lead).enqueue request = (queue.enqueue request).behind lead := by
  have grown : ({ queue.behind lead with
      entries := (queue.behind lead).entries ++ [⟨(queue.behind lead).issued, request⟩]
      issued := (queue.behind lead).issued + 1 } : Queue) =
      ({ queue with
        entries := queue.entries ++ [⟨queue.issued, request⟩]
        issued := queue.issued + 1 } : Queue).behind lead := by
    simp [behind, Entry.behind, Nat.add_assoc]
  rw [enqueue, grown]
  exact record_behind lead _ (.added ⟨queue.issued, request⟩) none

/-- To cancel a request goes with the numbers. -/
theorem cancel_behind (name : String) :
    (queue.behind lead).cancel? name = (queue.cancel? name).map (Change.behind lead) := by
  obtain ⟨entries, active, serial, issued, outbox, delivering⟩ := queue
  have first : ((entries.map (Entry.behind lead)).head?.any fun first => first.name == name) =
      entries.head?.any fun first => first.name == name := by
    cases entries with
    | nil | cons head rest => rfl
  simp only [cancel?, behind, find_behind, erase_behind, first, Option.isSome_map, Option.map_map]
  congr 1
  funext entry
  simp only [Function.comp_apply]
  split
  · exact record_behind lead
      ⟨entries.eraseP fun entry => entry.name == name, none, serial, issued, outbox, delivering⟩
      (.error entry none) active
  · exact record_behind lead
      ⟨entries.eraseP fun entry => entry.name == name, active, serial, issued, outbox, delivering⟩
      (.error entry none) none

/-- A shutdown goes with the numbers. -/
theorem shutdown_behind : (queue.behind lead).shutdown = queue.shutdown.behind lead := rfl

/-- The end of a transfer goes with the numbers. -/
theorem complete_behind (serial : Nat) (failure : Option Failure) :
    (queue.behind lead).complete? (lead.shift serial) failure =
      (queue.complete? serial failure).map (Change.behind lead) := by
  have same : (queue.behind lead).active = some (lead.shift serial) ↔
      queue.active = some serial := by
    rw [behind, Option.map_eq_some_iff]
    simp only [lead.shift_inj, exists_eq_right]
  rw [complete?, complete?]
  by_cases runs : queue.active = some serial
  · rw [if_pos runs, if_pos (same.mpr runs)]
    cases entries : queue.entries with
    | nil =>
      simp only [Option.map_some, Change.behind, behind, entries]
      rfl
    | cons entry rest =>
      have queued : (queue.behind lead).entries =
          entry.behind lead :: rest.map (Entry.behind lead) := by
        rw [behind, entries, List.map_cons]
      simp only [queued, Option.map_some, Notice.ending_behind]
      congr 1
      exact record_behind lead { queue with entries := rest, active := none }
        (.ending entry failure) none
  · rw [if_neg runs, if_neg fun other => runs (same.mp other)]
    rfl

/-- To begin to hand notices out goes with the numbers. -/
theorem openDelivery_behind :
    (queue.behind lead).openDelivery? = queue.openDelivery?.map (Queue.behind lead) := by
  obtain ⟨entries, active, serial, issued, outbox, delivering⟩ := queue
  cases delivering with
  | true | false => rfl

end Queue

end Sailplane.Download
