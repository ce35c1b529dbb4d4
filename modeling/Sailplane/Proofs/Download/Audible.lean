import Sailplane.Proofs.Download.Frames

/-!
# What is said

Listeners are told something, tasks that wait see that nothing is queued, scripts write notes, and
transfers follow signals until they end. Each step says at most one such thing, and which one can be
read off before it is taken.
-/
namespace Sailplane.Download

/-- Whether an observation is said to somebody outside the queue, or by somebody. -/
def Observation.isAudible {Listener Note : Type} : Observation Listener Note → Bool
  | heard _ _ => true
  | idle _ => true
  | note _ => true
  | followed _ _ => true
  | ended _ _ => true
  | _ => false

namespace Session

variable {users : Users} {session : Session users} {transfer : Transfer}

/-- What has been said so far, in order. -/
def audible (session : Session users) : List (Observation users.Listener users.Note) :=
  session.log.filter Observation.isAudible

/-- What a transfer says when it follows a signal. -/
def following (transfer : Transfer) : Signal → Observation users.Listener users.Note
  | .finish failure => .ended (launchOf transfer) failure
  | signal => .followed (launchOf transfer) signal

/-- What the next step says. -/
def utterance? (session : Session users) : Option (Observation users.Listener users.Note) :=
  match session.stack, session.ready with
  | .script (.note note _) :: _, _ => some (.note note)
  | .tell ((listener, event) :: _) :: _, _ => some (.heard listener event)
  | .transfer serial (signal :: _) _ :: _, _ =>
    (session.transfer? serial).map fun transfer => following transfer signal
  | [], .watcher label :: _ => if session.queue.isIdle then some (.idle label) else none
  | _, _ => none

/-- What was said goes on with what is said. -/
theorem audible_of_log {next : Session users}
    {seen : List (Observation users.Listener users.Note)} (log : next.log = session.log ++ seen) :
    next.audible = session.audible ++ seen.filter Observation.isAudible := by
  rw [audible, log, List.filter_append]
  rfl

/-- Recorded notices are not said. -/
theorem audible_recorded (notices : List Notice) :
    (notices.map (.recorded : Notice → Observation users.Listener users.Note)).filter
      Observation.isAudible = [] := by
  rw [List.filter_eq_nil_iff]
  intro observation listed
  obtain ⟨notice, _, rfl⟩ := List.mem_map.mp listed
  exact Bool.false_ne_true

/-- A change of the queue says nothing. -/
@[simp] theorem audible_apply (session : Session users) (change : Change) :
    (session.apply change).audible = session.audible := by
  rw [audible_of_log (shift_apply session change).log, audible_recorded, List.append_nil]

/-- A change of the queue says nothing before its notices are handed out. -/
@[simp] theorem audible_applyAndDeliver (session : Session users) (change : Change) :
    (session.applyAndDeliver change).2.audible = session.audible := by
  rw [audible_of_log (shift_applyAndDeliver session change).log, audible_recorded,
    List.append_nil]

/-- What is seen says something only if it is audible. -/
theorem audible_see (session : Session users)
    (observation : Observation users.Listener users.Note) :
    (session.see observation).audible =
      session.audible ++ if observation.isAudible then [observation] else [] := by
  have grown := audible_of_log (show (session.see observation).log = _ from rfl)
  rw [grown, List.filter_cons, List.filter_nil]

/-- What is seen and not audible says nothing. -/
theorem audible_unsaid (session : Session users)
    {observation : Observation users.Listener users.Note} (unsaid : observation.isAudible = false) :
    (session.see observation).audible = session.audible := by
  rw [audible_see, unsaid, if_neg Bool.false_ne_true, List.append_nil]

/-- A transfer that comes to rest says nothing. -/
@[simp] theorem audible_pause (session : Session users) (transfer : Transfer) :
    (session.pause transfer).audible = session.audible := by
  rw [pause]
  split
  · exact audible_unsaid _ rfl
  · rfl

/-- A message that is posted says nothing. -/
@[simp] theorem audible_post (session : Session users) (serial : Nat) (message : List Signal) :
    (session.post serial message).audible = session.audible := by
  rw [audible_of_log (shift_post session serial message).log]
  exact List.append_nil _

/-- A call says nothing before what it sets off is done. -/
theorem audible_perform (session : Session users) (operation : Operation users.Listener) :
    (session.perform operation).2.2.audible = session.audible := by
  cases operation with
  | enqueue request => exact audible_applyAndDeliver session _
  | cancel name =>
    cases found : session.queue.cancel? name with
    | none => rw [perform_cancel_none found]
    | some change =>
      rw [perform_cancel_some found]
      exact audible_applyAndDeliver session change
  | shutdown =>
    have emptied := audible_apply (session.see (.emptied session.queue.entries))
      session.queue.shutdown
    exact emptied.trans (audible_unsaid session rfl)
  | signal message =>
    rw [perform]
    split
    · exact audible_post session _ message
    · rfl
  | entries | enumerate | isIdle | watchIdle | newSlot | register | unregister | readSlot
  | takeSlot => rfl

/-- A transfer that reads on says nothing. -/
theorem audible_readNext (session : Session users) (transfer : Transfer) (allowance : Nat)
    (rest : List (Frame users)) :
    (session.readNext transfer allowance rest).audible = session.audible := by
  have left (reached : Session users) :
      ({ reached with stack := rest } : Session users).audible = reached.audible := rfl
  cases allowance with
  | zero =>
    cases stopped : transfer.stopped with
    | true =>
      rw [readNext_zero_stopped stopped, left]
      exact audible_pause session transfer
    | false =>
      rw [readNext_zero_kept stopped, left,
        audible_of_log (shift_schedule session transfer.serial).log]
      exact List.append_nil _
  | succ allowance =>
    cases inbox : transfer.inbox with
    | nil =>
      rw [readNext_nil inbox, left]
      exact audible_pause session transfer
    | cons message others =>
      rw [readNext_cons inbox]
      rfl

/-- A transfer that follows a signal says so. -/
theorem audible_follow (session : Session users) (transfer : Transfer) (signal : Signal)
    (again : Frame users) (rest : List (Frame users)) :
    (session.follow transfer signal again rest).audible =
      session.audible ++ [following transfer signal] := by
  have left (reached : Session users) (stack : List (Frame users)) :
      ({ reached with stack } : Session users).audible = reached.audible := rfl
  have seen := audible_see session (.followed (launchOf transfer) signal)
  have ended (failure : Option Failure) :
      ((session.alter transfer.serial .close).see (.ended (launchOf transfer) failure)).audible =
        session.audible ++ [.ended (launchOf transfer) failure] := audible_see _ _
  cases signal with
  | size bytes => exact seen
  | position bytes => exact seen
  | fill content =>
    cases place : transfer.entry.request.slotFor content with
    | none =>
      rw [follow_fill_none place]
      exact seen
    | some slot =>
      rw [follow_fill_some place]
      exact seen
  | cancel name =>
    rw [follow]
    split
    · exact (left _ _).trans ((audible_perform _ (.cancel name)).trans seen)
    · exact seen
  | finish failure =>
    cases completed : session.queue.complete? transfer.serial failure with
    | none =>
      rw [follow_finish_none completed]
      exact ended failure
    | some change =>
      rw [follow_finish_some completed]
      exact (left _ _).trans ((audible_applyAndDeliver _ change).trans (ended failure))

/-- A transfer whose turn has come says nothing. -/
theorem audible_run (session : Session users) (serial : Nat) :
    (session.run (.transfer serial)).audible = session.audible := by
  rw [run]
  split
  · rfl
  · split
    · rfl
    · split
      · rfl
      · exact audible_unsaid _ rfl
    · split
      · exact audible_pause session _
      · rfl

/-- A step of the innermost thing that has begun says what it was about to say. -/
theorem audible_advance (session : Session users) (frame : Frame users)
    (rest : List (Frame users)) (stack : session.stack = frame :: rest) (framed : Framed session) :
    (session.advance frame rest).audible = session.audible ++ session.utterance?.toList := by
  have silent (unsaid : session.utterance? = none)
      (same : (session.advance frame rest).audible = session.audible) :
      (session.advance frame rest).audible = session.audible ++ session.utterance?.toList := by
    rw [unsaid, Option.toList_none, List.append_nil]
    exact same
  have nested := framed.nested
  rw [stack] at nested
  generalize session.queue.delivering = delivering at nested
  cases nested with
  | script script below =>
    cases script with
    | note note next =>
      have said : session.utterance? = some (.note note) := by simp only [utterance?, stack]
      rw [said]
      exact audible_see session (.note note)
    | call operation next =>
      exact silent (by simp only [utterance?, stack]) (audible_perform session operation)
    | done result => exact silent (by simp only [utterance?, stack]) rfl
    | get next => exact silent (by simp only [utterance?, stack]) rfl
    | set state next => exact silent (by simp only [utterance?, stack]) rfl
  | tell calls below =>
    cases calls with
    | nil => exact silent (by simp only [utterance?, stack]) rfl
    | cons call calls =>
      have said : session.utterance? = some (.heard call.1 call.2) := by
        simp only [utterance?, stack]
      rw [said]
      exact audible_see session (.heard call.1 call.2)
  | shown name found below =>
    exact silent (by simp only [utterance?, stack]) (audible_unsaid session rfl)
  | drain below =>
    refine silent (by simp only [utterance?, stack]) ?_
    cases outbox : session.queue.outbox with
    | nil =>
      rw [audible_of_log (shift_drain_nil rest outbox).1.log]
      exact List.append_nil _
    | cons notice others =>
      rw [advance_drain_cons outbox]
      exact audible_unsaid _ rfl
  | @transfer serial _ _ _ message allowance =>
    cases message with
    | nil =>
      refine silent (by simp only [utterance?, stack]) ?_
      cases stored : session.transfer? serial with
      | none =>
        rw [advance_read_missing stored]
        rfl
      | some transfer =>
        rw [advance_read_nil stored]
        exact audible_readNext session transfer allowance []
    | cons signal message =>
      cases stored : session.transfer? serial with
      | none =>
        refine silent (by simp [utterance?, stack, stored]) ?_
        rw [advance_read_missing stored]
        rfl
      | some transfer =>
        have said : session.utterance? = some (following transfer signal) := by
          simp only [utterance?, stack, stored, Option.map_some]
        rw [advance_read_cons stored, audible_follow, said]
        rfl

/-- Every step says what it was about to say. -/
theorem audible_step {next : Session users} (taken : session.step? = some next)
    (framed : Framed session) :
    next.audible = session.audible ++ session.utterance?.toList := by
  rcases step_cases taken with ⟨frame, rest, stack, rfl⟩ | ⟨job, ready, stack, jobs, rfl⟩
  · exact audible_advance session frame rest stack framed
  · cases job with
    | transfer serial =>
      have unsaid : session.utterance? = none := by simp only [utterance?, stack, jobs]
      rw [unsaid, Option.toList_none, List.append_nil]
      exact audible_run { session with ready } serial
    | watcher label =>
      by_cases idle : session.queue.isIdle = true
      · have said : session.utterance? = some (.idle label) := by
          simp only [utterance?, stack, jobs, idle, if_true]
        have after : ({ session with ready } : Session users).run (.watcher label) =
            ({ session with ready } : Session users).see (.idle label) := by
          simp only [run, idle, if_true]
        rw [said, after]
        exact audible_see _ (.idle label)
      · have unsaid : session.utterance? = none := by
          simp only [utterance?, stack, jobs, if_neg idle]
        have after : ({ session with ready } : Session users).run (.watcher label) =
            { session with ready, waiting := session.waiting ++ [label] } := by
          simp only [run, if_neg idle]
        rw [unsaid, after]
        exact (List.append_nil _).symm

/-- What comes from outside says nothing. -/
theorem audible_input {next : Session users} (input : Input session next) :
    next.audible = session.audible := by
  cases input with
  | begin quiet script => rfl
  | arrive serial message =>
    rcases arrive_cases session serial message with same | ⟨_, _, _, posted⟩
    · rw [same]
    · rw [posted]
      exact audible_post session serial message

/-- What is read off what is said is read off what was said before and what a step says. -/
theorem said_step {α : Type} (read : Observation users.Listener users.Note → Option α)
    (unheard : ∀ observation, observation.isAudible = false → read observation = none)
    {reached : Session users} (taken : session.step? = some reached) (framed : Framed session) :
    reached.log.filterMap read =
      session.log.filterMap read ++ session.utterance?.toList.filterMap read := by
  have heard (other : Session users) : other.log.filterMap read = other.audible.filterMap read := by
    rw [audible, List.filterMap_filter]
    refine List.filterMap_congr fun observation _ => ?_
    cases loud : observation.isAudible with
    | false => simpa using unheard observation loud
    | true => simp
  rw [heard, heard, audible_step taken framed, List.filterMap_append]

/-- What is read off what is said stays the same when something comes from outside. -/
theorem said_input {α : Type} (read : Observation users.Listener users.Note → Option α)
    {reached : Session users} (input : Input session reached) :
    reached.log.filterMap read = session.log.filterMap read := by
  cases input with
  | begin quiet script => rfl
  | arrive serial message =>
    rcases arrive_cases session serial message with same | ⟨_, _, _, posted⟩
    · rw [same]
    · have log := (shift_post session serial message).log
      rw [List.append_nil] at log
      rw [posted, log]

end Session

end Sailplane.Download
