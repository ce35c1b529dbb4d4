import Sailplane.Proofs.Download.Steps

/-!
# Surroundings

What a session keeps besides its queue, its transfers and its log: the listeners, the slots, what
callers share, and the tasks that wait until nothing is queued. Almost everything a session does
leaves all of it alone.
-/
namespace Sailplane.Download

/-- The label of a task that waits until nothing is queued. -/
def Job.label? : Job → Option String
  | .transfer _ => none
  | .watcher label => some label

/-- What a session keeps besides its queue, its transfers and its log. -/
structure Surroundings (users : Users) where
  /-- The registered listeners. -/
  registry : Registry users.Listener
  /-- The slots. -/
  slots : Slots Content
  /-- What callers and listeners share. -/
  state : users.State
  /-- The tasks that wait until nothing is queued. -/
  waiting : List String
  /-- Those of them that are about to look. -/
  looking : List String

namespace Session

variable {users : Users} {session : Session users} {transfer : Transfer}

/-- The tasks that are about to look whether nothing is queued, in order. -/
def looking (session : Session users) : List String := session.ready.filterMap Job.label?

/-- What a session keeps besides its queue, its transfers and its log. -/
def surroundings (session : Session users) : Surroundings users :=
  ⟨session.registry, session.slots, session.state, session.waiting, session.looking⟩

/-- A transfer that becomes ready leaves the surroundings alone. -/
@[simp] theorem surroundings_schedule (session : Session users) (serial : Nat) :
    (session.schedule serial).surroundings = session.surroundings := by
  rw [schedule]
  split
  · rfl
  · simp [surroundings, looking, Job.label?]

/-- A message that is posted leaves the surroundings alone. -/
@[simp] theorem surroundings_post (session : Session users) (serial : Nat)
    (message : List Signal) : (session.post serial message).surroundings = session.surroundings :=
  surroundings_schedule _ serial

/-- A transfer that comes to rest leaves the surroundings alone. -/
@[simp] theorem surroundings_pause (session : Session users) (transfer : Transfer) :
    (session.pause transfer).surroundings = session.surroundings := by
  rw [pause]
  split
  · rfl
  · rfl

/-- A change of the queue leaves the surroundings alone. -/
@[simp] theorem surroundings_apply (session : Session users) (change : Change) :
    (session.apply change).surroundings = session.surroundings := by
  have readied : (summoned change.stopped session.ready).filterMap Job.label? =
      session.looking := by
    cases change.stopped with
    | none => rfl
    | some serial =>
      have scheduled := congrArg Surroundings.looking (surroundings_schedule session serial)
      rwa [schedule_eq] at scheduled
  have launched : (change.started.toList.map fun launch => Job.transfer launch.serial).filterMap
      Job.label? = [] := by
    cases change.started <;> rfl
  rw [apply_eq]
  simp only [surroundings, looking, List.filterMap_append, readied, launched, List.append_nil]

/-- A change of the queue of which the notices are handed out leaves the surroundings alone. -/
@[simp] theorem surroundings_applyAndDeliver (session : Session users) (change : Change) :
    (session.applyAndDeliver change).2.surroundings = session.surroundings := by
  rw [applyAndDeliver_eq]
  exact surroundings_apply session change

/-- A shutdown leaves the surroundings alone until it wakes those who wait. -/
@[simp] theorem surroundings_empty (session : Session users) :
    session.empty.surroundings = session.surroundings :=
  surroundings_apply _ _

/-- A cancel leaves the surroundings alone. -/
@[simp] theorem surroundings_cancel (session : Session users) (name : String) :
    (session.perform (.cancel name)).2.2.surroundings = session.surroundings := by
  cases found : session.queue.cancel? name with
  | none => rw [perform_cancel_none found]
  | some change =>
    rw [perform_cancel_some found]
    exact surroundings_applyAndDeliver session change

/-- A message that is sent leaves the surroundings alone. -/
@[simp] theorem surroundings_signal (session : Session users) (message : List Signal) :
    (session.perform (.signal message)).2.2.surroundings = session.surroundings := by
  rw [perform]
  split
  · exact surroundings_post session _ message
  · rfl

/-- A transfer whose turn has come leaves the surroundings alone. -/
@[simp] theorem surroundings_run (session : Session users) (serial : Nat) :
    (session.run (.transfer serial)).surroundings = session.surroundings := by
  rw [run]
  split
  · rfl
  · split
    · rfl
    · split
      · rfl
      · rfl
    · split
      · exact surroundings_pause session _
      · rfl

/-- A transfer that reads on leaves the surroundings alone. -/
@[simp] theorem surroundings_readNext (session : Session users) (transfer : Transfer)
    (allowance : Nat) (rest : List (Frame users)) :
    (session.readNext transfer allowance rest).surroundings = session.surroundings := by
  have left (reached : Session users) :
      ({ reached with stack := rest } : Session users).surroundings = reached.surroundings := rfl
  cases allowance with
  | zero =>
    cases stopped : transfer.stopped with
    | true =>
      rw [readNext_zero_stopped stopped, left]
      exact surroundings_pause session transfer
    | false =>
      rw [readNext_zero_kept stopped, left]
      exact surroundings_schedule session transfer.serial
  | succ allowance =>
    cases inbox : transfer.inbox with
    | nil =>
      rw [readNext_nil inbox, left]
      exact surroundings_pause session transfer
    | cons message others =>
      rw [readNext_cons inbox]
      rfl

/-- What a transfer puts into a slot when it follows a signal. -/
def filling? (transfer : Transfer) : Signal → Option (Slot × Content)
  | .fill content => (transfer.entry.request.slotFor content).map fun slot => (slot, content)
  | _ => none

/-- The slots after something was put into one of them, if anything was. -/
def fillWith (slots : Slots Content) : Option (Slot × Content) → Slots Content
  | some (slot, content) => slots.put slot content
  | none => slots

/-- To put something into a slot leaves how many there are. -/
theorem length_fillWith (slots : Slots Content) (filling : Option (Slot × Content)) :
    (fillWith slots filling).contents.length = slots.contents.length := by
  cases filling with
  | none => rfl
  | some filled => exact List.length_set

/-- A transfer that follows a signal changes no more of the surroundings than the slot it fills. -/
theorem surroundings_follow (session : Session users) (transfer : Transfer) (signal : Signal)
    (again : Frame users) (rest : List (Frame users)) :
    (session.follow transfer signal again rest).surroundings =
      { session.surroundings with slots := fillWith session.slots (filling? transfer signal) } := by
  have left (reached : Session users) (stack : List (Frame users)) :
      ({ reached with stack } : Session users).surroundings = reached.surroundings := rfl
  cases signal with
  | size bytes => rfl
  | position bytes => rfl
  | fill content =>
    cases place : transfer.entry.request.slotFor content with
    | none =>
      rw [follow_fill_none place, filling?, place]
      rfl
    | some slot =>
      rw [follow_fill_some place, filling?, place]
      rfl
  | cancel name =>
    rw [follow]
    split
    · dsimp only
      rw [left, surroundings_cancel]
      rfl
    · rfl
  | finish failure =>
    cases completed : session.queue.complete? transfer.serial failure with
    | none =>
      rw [follow_finish_none completed]
      rfl
    | some change =>
      rw [follow_finish_some completed]
      dsimp only
      rw [left, surroundings_applyAndDeliver]
      rfl

/-- What comes from outside leaves the surroundings alone. -/
theorem surroundings_input {after : Session users} (input : Input session after) :
    after.surroundings = session.surroundings := by
  cases input with
  | begin quiet script => rfl
  | arrive serial message =>
    rcases arrive_cases session serial message with same | ⟨_, _, _, posted⟩
    · rw [same]
    · rw [posted, surroundings_post]

end Session

end Sailplane.Download
