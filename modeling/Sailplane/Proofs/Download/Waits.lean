import Sailplane.Proofs.Download.Audible
import Sailplane.Proofs.Download.Effect.Move
import Sailplane.Proofs.Download.Surroundings

/-!
# Waiting until nothing is queued

A task that waits looks whether nothing is queued and nothing is left to tell. If so its wait is
over, and else it sleeps until it is woken. All are woken whenever the queue comes to that state, so
none sleeps while it is in it. A session runs on one thread: that a task puts itself down to be woken
and that it looks is one step.
-/
namespace Sailplane.Download

namespace Observation

variable {Listener Note : Type}

/-- The label of a task whose wait is over. -/
def idle? : Observation Listener Note → Option String
  | idle label => some label
  | _ => none

end Observation

namespace Session

variable {users : Users} {session reached : Session users}

/-! ## Looks -/

/-- The label of the task that the next step sets to wait. -/
def asking? (session : Session users) : Option String :=
  match session.call? with
  | some (.watchIdle label) => some label
  | _ => none

/-- The label of the task that looks in the next step and sees that nothing is queued. -/
def returning? (session : Session users) : Option String :=
  match session.stack, session.ready with
  | [], .watcher label :: _ => if session.queue.isIdle then some label else none
  | _, _ => none

/-- The labels of the tasks whose waits are over, in order. -/
def returned (session : Session users) : List String :=
  session.audible.filterMap Observation.idle?

/-- The wait that is over in a step is said in that step. -/
theorem idle_utterance (session : Session users) :
    session.utterance?.toList.filterMap Observation.idle? = session.returning?.toList := by
  rw [utterance?, returning?]
  cases stack : session.stack with
  | cons frame rest =>
    split
    · rfl
    · rfl
    · rename_i signal _ _ _ _
      cases session.transfer? _ with
      | none => rfl
      | some transfer => cases signal <;> rfl
    · rename_i impossible _
      exact absurd impossible (by simp)
    · rfl
  | nil =>
    cases jobs : session.ready with
    | nil => rfl
    | cons job ready =>
      cases job with
      | transfer serial => rfl
      | watcher label =>
        cases session.queue.isIdle with
        | true => rfl
        | false => rfl

/-- Every step ends the wait of the task that looks in it and sees that nothing is queued. -/
theorem returned_step (taken : session.step? = some reached) (framed : Framed session) :
    reached.returned = session.returned ++ session.returning?.toList := by
  rw [returned, audible_step taken framed, List.filterMap_append, idle_utterance]
  rfl

/-! ## What a step does for those who wait -/

/-- What a step does for those who wait. The tasks that are about to look are in a row; the others
sleep. -/
inductive Waits (session : Session users) : Session users → Prop where
  /-- Nobody looks and nobody is woken, and the queue does not become idle. -/
  | aside {reached : Session users} (free : session.asking? = none)
    (unseen : session.returning? = none) (looking : reached.looking = session.looking)
    (waiting : reached.waiting = session.waiting)
    (busy : reached.queue.isIdle = true → session.queue.isIdle = true) : Waits session reached
  /-- All are woken. -/
  | woken {reached : Session users} (free : session.asking? = none)
    (unseen : session.returning? = none)
    (looking : reached.looking = session.looking ++ session.waiting)
    (waiting : reached.waiting = []) : Waits session reached
  /-- A task is set to wait and is about to look. -/
  | asked {reached : Session users} {label : String} (asks : session.asking? = some label)
    (unseen : session.returning? = none) (looking : reached.looking = session.looking ++ [label])
    (waiting : reached.waiting = session.waiting) (same : reached.queue = session.queue) :
    Waits session reached
  /-- A task looks and its wait is over. -/
  | returned {reached : Session users} {label : String} (free : session.asking? = none)
    (seen : session.returning? = some label) (looking : session.looking = label :: reached.looking)
    (waiting : reached.waiting = session.waiting) (same : reached.queue = session.queue) :
    Waits session reached
  /-- A task looks and falls asleep, since the queue is not idle. -/
  | slept {reached : Session users} {label : String} (free : session.asking? = none)
    (unseen : session.returning? = none) (looking : session.looking = label :: reached.looking)
    (waiting : reached.waiting = session.waiting ++ [label]) (same : reached.queue = session.queue)
    (busy : session.queue.isIdle = false) : Waits session reached

/-- A queue whose notices are being handed out is not idle. -/
theorem not_idle_of_delivering {queue : Queue} (delivering : queue.delivering = true) :
    ¬queue.isIdle = true := by
  rw [Queue.isIdle, delivering]
  simp

/-- A step after which notices are being handed out leaves those who wait alone if it does the
surroundings. -/
theorem Waits.delivering (free : session.asking? = none) (unseen : session.returning? = none)
    (same : reached.surroundings = session.surroundings)
    (opened : reached.queue.delivering = true) : Waits session reached :=
  .aside free unseen (congrArg Surroundings.looking same) (congrArg Surroundings.waiting same)
    fun idle => absurd idle (not_idle_of_delivering opened)

/-- A step that leaves the queue alone leaves those who wait alone if it does the surroundings. -/
theorem Waits.queue (free : session.asking? = none) (unseen : session.returning? = none)
    (looking : reached.looking = session.looking) (waiting : reached.waiting = session.waiting)
    (same : reached.queue = session.queue) : Waits session reached :=
  .aside free unseen looking waiting fun idle => same ▸ idle

/-- What has begun looks for nobody. -/
theorem returning_of_begun {frame : Frame users} {rest : List (Frame users)}
    (stack : session.stack = frame :: rest) : session.returning? = none := by
  simp only [returning?, stack]

/-- A cancel leaves those who wait alone. -/
theorem waits_cancel (name : String) (free : session.asking? = none)
    (unseen : session.returning? = none) (seen : Session users)
    (before : seen.surroundings = session.surroundings) (queue : seen.queue = session.queue)
    (surroundings : reached.surroundings = seen.surroundings)
    (after : reached.queue = (seen.perform (.cancel name)).2.2.queue) : Waits session reached := by
  have same := surroundings.trans before
  cases found : seen.queue.cancel? name with
  | none =>
    rw [perform_cancel_none found] at after
    exact .queue free unseen (congrArg Surroundings.looking same)
      (congrArg Surroundings.waiting same) (after.trans queue)
  | some change =>
    rw [perform_cancel_some found] at after
    refine .delivering free unseen same ?_
    rw [after, (shift_applyAndDeliver seen change).queue]

/-- Those who are woken look after those who are about to. -/
theorem looking_wake (session : Session users) :
    session.wake.looking = session.looking ++ session.waiting := by
  rw [looking, wake, List.filterMap_append, List.filterMap_map]
  congr 1
  exact List.filterMap_some

/-- A call wakes those who wait if it is a shutdown, and else leaves them alone. -/
theorem waits_call {operation : Operation users.Listener}
    {next : operation.Reply → users.Script Unit} {rest : List (Frame users)}
    (stack : session.stack = .script (.call operation next) :: rest) :
    Waits session (session.advance (.script (.call operation next)) rest) := by
  have call : session.call? = some operation := by simp only [call?, stack]
  have unseen := returning_of_begun stack
  cases operation with
  | enqueue request =>
    refine .delivering (by simp only [asking?, call]) unseen
      (surroundings_applyAndDeliver session (session.queue.enqueue request)) ?_
    exact congrArg Queue.delivering
      (shift_applyAndDeliver session (session.queue.enqueue request)).queue
  | cancel name =>
    exact waits_cancel name (by simp only [asking?, call]) unseen session rfl rfl
      (surroundings_cancel session name) rfl
  | shutdown =>
    have emptied := surroundings_empty session
    refine .woken (by simp only [asking?, call]) unseen ?_ rfl
    exact (looking_wake session.empty).trans (congrArg₂ (· ++ ·)
      (congrArg Surroundings.looking emptied) (congrArg Surroundings.waiting emptied))
  | watchIdle label =>
    have asks : session.asking? = some label := by simp only [asking?, call]
    refine .asked asks unseen ?_ rfl rfl
    simp [advance, perform, looking, Job.label?]
  | signal message =>
    have free : session.asking? = none := by simp only [asking?, call]
    cases receiver : session.fetching? with
    | none =>
      have after : session.advance (.script (.call (.signal message) next)) rest =
          { session with stack := .script (next ()) :: rest } := by
        simp only [advance, perform, receiver, List.nil_append]
      rw [after]
      exact .queue free unseen rfl rfl rfl
    | some transfer =>
      have after : session.advance (.script (.call (.signal message) next)) rest =
          { session.post transfer.serial message with stack := .script (next ()) :: rest } := by
        simp only [advance, perform, receiver, List.nil_append]
      have posted := surroundings_post session transfer.serial message
      rw [after]
      exact .queue free unseen (congrArg Surroundings.looking posted)
        (congrArg Surroundings.waiting posted) (shift_post session transfer.serial message).queue
  | entries | enumerate | isIdle | register | unregister | newSlot | readSlot | takeSlot =>
    exact .queue (by simp only [asking?, call]) unseen rfl rfl rfl

/-- The end of the handing out wakes those who wait if the queue has become idle. -/
theorem waits_drain {rest : List (Frame users)} (stack : session.stack = .drain :: rest)
    (delivering : session.queue.delivering = true) :
    Waits session (session.advance .drain rest) := by
  have free : session.asking? = none := by simp only [asking?, call?, stack]
  have unseen := returning_of_begun stack
  cases outbox : session.queue.outbox with
  | cons notice others =>
    rw [advance_drain_cons outbox]
    exact .delivering free unseen rfl delivering
  | nil =>
    -- Apart from a shutdown this is the only step in which the queue can become idle.
    rw [advance_drain_nil outbox]
    dsimp only
    by_cases idle : ({ session.queue with delivering := false } : Queue).isIdle = true
    · rw [if_pos idle]
      exact .woken free unseen (looking_wake _) rfl
    · rw [if_neg idle]
      exact .aside free unseen rfl rfl fun nothing => absurd nothing idle

/-- A transfer that follows a signal leaves those who wait alone. -/
theorem waits_follow {transfer : Transfer} {signal : Signal} {again : Frame users}
    {rest : List (Frame users)} (free : session.asking? = none)
    (unseen : session.returning? = none) :
    Waits session (session.follow transfer signal again rest) := by
  have filled := surroundings_follow session transfer signal again rest
  have looking : (session.follow transfer signal again rest).looking = session.looking :=
    congrArg Surroundings.looking filled
  have waiting : (session.follow transfer signal again rest).waiting = session.waiting :=
    congrArg Surroundings.waiting filled
  cases signal with
  | size bytes => exact .queue free unseen looking waiting rfl
  | position bytes => exact .queue free unseen looking waiting rfl
  | fill content =>
    refine .queue free unseen looking waiting ?_
    cases place : transfer.entry.request.slotFor content with
    | none => rw [follow_fill_none place]; rfl
    | some slot => rw [follow_fill_some place]; rfl
  | cancel name =>
    cases reaches : users.reaches session.state with
    | false =>
      rw [follow_cancel_unreached reaches] at looking waiting ⊢
      exact .queue free unseen looking waiting rfl
    | true =>
      refine waits_cancel name free unseen
        (session.see (.followed (launchOf transfer) (.cancel name))) rfl rfl filled ?_
      simp only [follow, reaches, if_true]
  | finish failure =>
    cases completed : session.queue.complete? transfer.serial failure with
    | none =>
      rw [follow_finish_none completed]
      exact .queue free unseen rfl rfl rfl
    | some change =>
      refine .delivering free unseen filled ?_
      rw [follow_finish_some completed]
      exact congrArg Queue.delivering (shift_applyAndDeliver _ change).queue

/-- A transfer that reads on leaves the queue alone. -/
theorem queue_readNext (session : Session users) (transfer : Transfer) (allowance : Nat)
    (rest : List (Frame users)) :
    (session.readNext transfer allowance rest).queue = session.queue := by
  have paused : (session.pause transfer).queue = session.queue := by
    rw [pause]
    split
    · rfl
    · rfl
  cases allowance with
  | zero =>
    cases stopped : transfer.stopped with
    | true =>
      rw [readNext_zero_stopped stopped]
      exact paused
    | false =>
      rw [readNext_zero_kept stopped]
      exact (shift_schedule session transfer.serial).queue
  | succ allowance =>
    cases inbox : transfer.inbox with
    | nil =>
      rw [readNext_nil inbox]
      exact paused
    | cons message others =>
      rw [readNext_cons inbox]
      rfl

/-- A transfer that reads leaves those who wait alone. -/
theorem waits_read {serial : Nat} {message : List Signal} {allowance : Nat}
    {rest : List (Frame users)} (free : session.asking? = none)
    (unseen : session.returning? = none) :
    Waits session (session.advance (.transfer serial message allowance) rest) := by
  cases stored : session.transfer? serial with
  | none =>
    rw [advance_read_missing stored]
    exact .queue free unseen rfl rfl rfl
  | some transfer =>
    cases message with
    | nil =>
      have same := surroundings_readNext session transfer allowance rest
      rw [advance_read_nil stored]
      exact .queue free unseen (congrArg Surroundings.looking same)
        (congrArg Surroundings.waiting same) (queue_readNext session transfer allowance rest)
    | cons signal message =>
      rw [advance_read_cons stored]
      exact waits_follow free unseen

/-- A transfer that reads sets nobody to wait. -/
theorem asking_of_transfer {serial : Nat} {message : List Signal} {allowance : Nat}
    {rest : List (Frame users)}
    (stack : session.stack = .transfer serial message allowance :: rest) :
    session.asking? = none := by
  cases message with
  | nil => simp only [asking?, call?, stack]
  | cons signal message =>
    cases signal with
    | cancel name =>
      simp only [asking?, call?, stack]
      split
      · rename_i asked
        split at asked
        · exact absurd asked (by simp)
        · exact absurd asked (by simp)
      · rfl
    | size bytes | position bytes | fill content | finish failure =>
      simp only [asking?, call?, stack]

/-- A step of what has begun does for those who wait what it can. -/
theorem waits_advance {frame : Frame users} {rest : List (Frame users)}
    (stack : session.stack = frame :: rest) (framed : Framed session) :
    Waits session (session.advance frame rest) := by
  have unseen := returning_of_begun stack
  cases frame with
  | script script =>
    cases script with
    | call operation next => exact waits_call stack
    | done result | get next | set state next | note note next =>
      exact .queue (by simp only [asking?, call?, stack]) unseen rfl rfl rfl
  | drain =>
    have nested := framed.nested
    rw [stack] at nested
    generalize opened : session.queue.delivering = delivering at nested
    cases nested with
    | drain below => exact waits_drain stack opened
  | tell calls =>
    cases calls with
    | nil => exact .queue (by simp only [asking?, call?, stack]) unseen rfl rfl rfl
    | cons call calls => exact .queue (by simp only [asking?, call?, stack]) unseen rfl rfl rfl
  | transfer serial message allowance => exact waits_read (asking_of_transfer stack) unseen
  | «show» observation => exact .queue (by simp only [asking?, call?, stack]) unseen rfl rfl rfl

/-- A transfer whose turn has come leaves the queue alone. -/
theorem queue_run (session : Session users) (serial : Nat) :
    (session.run (.transfer serial)).queue = session.queue := by
  rw [run]
  split
  · rfl
  · split
    · rfl
    · split
      · rfl
      · rfl
    · split
      · rw [pause]
        split
        · rfl
        · rfl
      · rfl

/-- Every step does for those who wait what it can. -/
theorem waits_step (taken : session.step? = some reached) (framed : Framed session) :
    Waits session reached := by
  rcases step_cases taken with ⟨frame, rest, stack, rfl⟩ | ⟨job, ready, stack, jobs, rfl⟩
  · exact waits_advance stack framed
  · have free : session.asking? = none := by simp only [asking?, call?, stack]
    cases job with
    | transfer serial =>
      have same := surroundings_run ({ session with ready } : Session users) serial
      have popped : session.looking = ({ session with ready } : Session users).looking := by
        rw [looking, jobs]
        rfl
      exact .queue free (by simp only [returning?, stack, jobs])
        ((congrArg Surroundings.looking same).trans popped.symm)
        (congrArg Surroundings.waiting same) (queue_run _ serial)
    | watcher label =>
      have popped : session.looking =
          label :: ({ session with ready } : Session users).looking := by
        rw [looking, jobs]
        rfl
      -- The task looks: its wait is over, or it falls asleep again.
      by_cases idle : session.queue.isIdle = true
      · have after : ({ session with ready } : Session users).run (.watcher label) =
            ({ session with ready } : Session users).see (.idle label) := by
          simp only [run, idle, if_true]
        rw [after]
        exact .returned free (by simp only [returning?, stack, jobs, idle, if_true]) popped rfl rfl
      · have after : ({ session with ready } : Session users).run (.watcher label) =
            { session with ready, waiting := session.waiting ++ [label] } := by
          simp only [run, if_neg idle]
        rw [after]
        exact .slept free (by simp only [returning?, stack, jobs, if_neg idle]) popped rfl rfl
          (Bool.not_eq_true _ ▸ idle)

/-- What comes from outside leaves the queue and those who wait alone. -/
theorem still_input (input : Input session reached) : reached.queue = session.queue ∧
    reached.surroundings = session.surroundings := by
  cases input with
  | begin quiet script => exact ⟨rfl, rfl⟩
  | arrive serial message =>
    rcases arrive_cases session serial message with same | ⟨_, _, _, posted⟩
    · rw [same]
      exact ⟨rfl, rfl⟩
    · rw [posted]
      exact ⟨(shift_post session serial message).queue, surroundings_post session serial message⟩

/-! ## What every step keeps -/

/-- Whether nobody sleeps while the queue is idle. -/
def Awake (session : Session users) : Prop := session.queue.isIdle = true → session.waiting = []

/-- Every step keeps everybody awake while the queue is idle. -/
theorem Awake.next (awake : Awake session) (waits : Waits session reached) : Awake reached := by
  intro idle
  cases waits with
  | aside _ _ _ waiting busy => exact waiting.trans (awake (busy idle))
  | woken _ _ _ waiting => exact waiting
  | asked _ _ _ waiting same | returned _ _ _ waiting same =>
    rw [same] at idle
    exact waiting.trans (awake idle)
  | slept _ _ _ _ same busy =>
    rw [same, busy] at idle
    exact Bool.noConfusion idle

/-- Whether every wait that was begun is over, is about to be, or sleeps. -/
def Accounted (asked : List String) (session : Session users) : Prop :=
  asked.Perm (session.returned ++ (session.looking ++ session.waiting))

/-- Every step keeps account of the waits. -/
theorem Accounted.next {asked : List String} (accounted : Accounted asked session)
    (returns : reached.returned = session.returned ++ session.returning?.toList)
    (waits : Waits session reached) : Accounted (asked ++ session.asking?.toList) reached := by
  rw [Accounted] at accounted ⊢
  rw [returns]
  cases waits with
  | aside free unseen looking waiting _ =>
    rw [free, unseen, looking, waiting]
    simpa using accounted
  | woken free unseen looking waiting =>
    rw [free, unseen, looking, waiting]
    simpa using accounted
  | @asked label asks unseen looking waiting _ =>
    rw [asks, unseen, looking, waiting, Option.toList_none, List.append_nil, Option.toList_some]
    have moved : (session.looking ++ [label] ++ session.waiting).Perm
        (session.looking ++ session.waiting ++ [label]) := by
      rw [List.append_assoc, List.append_assoc]
      exact List.perm_append_comm.append_left _
    have grown := accounted.append_right [label]
    rw [List.append_assoc] at grown
    exact grown.trans (moved.symm.append_left session.returned)
  | @returned label free seen looking waiting _ =>
    rw [free, seen, waiting, Option.toList_none, List.append_nil, Option.toList_some]
    rw [looking] at accounted
    simpa using accounted
  | @slept label free unseen looking waiting _ _ =>
    rw [free, unseen, waiting, Option.toList_none, List.append_nil,
      List.append_nil]
    rw [looking] at accounted
    have moved : (label :: reached.looking ++ session.waiting).Perm
        (reached.looking ++ (session.waiting ++ [label])) := by
      rw [← List.append_assoc]
      exact (List.perm_append_singleton label _).symm
    exact accounted.trans (moved.append_left _)

/-! ## Runs -/

/-- What it means that no task sleeps through the moment it waits for. -/
structure Wakeful (past : History users) (session : Session users) : Prop where
  /-- The waits that are over are those of the tasks that looked and saw an idle queue, in the order
  in which they looked. -/
  returned : session.returned = past.filterMap returning?
  /-- Every wait that was begun is over, is about to be, or sleeps. -/
  accounted : (past.filterMap asking?).Perm
    (session.returned ++ (session.looking ++ session.waiting))
  /-- Nobody sleeps while the queue is idle. -/
  awake : session.queue.isIdle = true → session.waiting = []
  /-- When the queue becomes idle all who sleep are woken. -/
  woken : session.queue.isIdle = false → ∀ next, Move session next → next.queue.isIdle = true →
    next.waiting = [] ∧ next.looking = session.looking ++ session.waiting
  /-- When the queue is idle and no step is left to take, every wait that was begun is over. -/
  ended : session.queue.isIdle = true → session.AtRest →
    (past.filterMap asking?).Perm session.returned

/-- A move after which the queue is idle and was not wakes all who sleep. -/
theorem woken_of_move {next : Session users} (framed : Framed session)
    (busy : session.queue.isIdle = false) (move : Move session next)
    (idle : next.queue.isIdle = true) :
    next.waiting = [] ∧ next.looking = session.looking ++ session.waiting := by
  cases move with
  | input input =>
    rw [(still_input input).1, busy] at idle
    exact Bool.noConfusion idle
  | step taken =>
    cases waits_step taken framed with
    | woken _ _ looking waiting => exact ⟨waiting, looking⟩
    | aside _ _ _ _ kept =>
      rw [kept idle] at busy
      exact Bool.noConfusion busy
    | asked _ _ _ _ same | returned _ _ _ _ same | slept _ _ _ _ same _ =>
      rw [same, busy] at idle
      exact Bool.noConfusion idle

/-- In every run the waits are accounted for, and nobody sleeps while the queue is idle. -/
theorem Run.waits {state : users.State} {past : History users}
    (run : Run (.new state) past session) : session.returned = past.filterMap returning? ∧
      Accounted (past.filterMap asking?) session ∧ Awake session := by
  induction run with
  | refl => exact ⟨rfl, .refl _, fun _ => rfl⟩
  | @step past session next before taken ih =>
    obtain ⟨returns, accounted, awake⟩ := ih
    have framed := before.framed (framed_new state)
    have waits := waits_step taken framed
    have more := returned_step taken framed
    have asked : (past ++ [session]).filterMap asking? =
        past.filterMap asking? ++ session.asking?.toList := by
      rw [List.filterMap_append]
      rfl
    refine ⟨?_, ?_, awake.next waits⟩
    · rw [more, returns, List.filterMap_append]
      rfl
    · rw [asked]
      exact accounted.next more waits
  | @input past session next before input ih =>
    obtain ⟨returns, accounted, awake⟩ := ih
    obtain ⟨queue, same⟩ := still_input input
    have unsaid : next.returned = session.returned := by
      rw [returned, audible_input input, returned]
    have looking : next.looking = session.looking := congrArg Surroundings.looking same
    have waiting : next.waiting = session.waiting := congrArg Surroundings.waiting same
    refine ⟨unsaid.trans returns, ?_, ?_⟩
    · rw [Accounted, unsaid, looking, waiting]
      exact accounted
    · rw [Awake, queue, waiting]
      exact awake

/-- In every run no task sleeps through the moment it waits for. -/
theorem wakeful {state : users.State} {past : History users}
    (run : Run (.new state) past session) : Wakeful past session := by
  obtain ⟨returns, accounted, awake⟩ := run.waits
  refine ⟨returns, accounted, awake, ?_, ?_⟩
  · exact fun busy next move idle =>
      woken_of_move (run.framed (framed_new state)) busy move idle
  · intro idle rest
    have nothing : session.ready = [] := by
      rw [AtRest, step?] at rest
      split at rest
      · exact absurd rest (by simp)
      · exact absurd rest (by simp)
      · assumption
    rw [Accounted, awake idle, Session.looking, nothing] at accounted
    simpa using accounted

/-! ## A wait that ends by a cancel -/

/-- A task is set to wait. -/
def watchAs (reaching : Bool) (label : String) : (callers reaching).Script Unit :=
  .call (.watchIdle label) fun _ => .done ()

/-- A task sleeps while a request runs, and its wait is over when that request, the last one, is
cancelled. -/
theorem wakeful_cancel :
    let queued := repeatedly step? 40
      ((Session.new () : Session (callers false)).begin (queueAll false ["only"]))
    let asleep := repeatedly step? 40 (queued.begin (watchAs false "early"))
    let last := repeatedly step? 40 (asleep.begin (cancelOne false "only"))
    let past := visited 40 ((Session.new ()).begin (queueAll false ["only"])) ++
      visited 40 (queued.begin (watchAs false "early")) ++
      visited 40 (asleep.begin (cancelOne false "only"))
    asleep.waiting = ["early"] ∧ last.returned = ["early"] ∧ Wakeful past last := by
  have start : Run (.new () : Session (callers false)) [] (.new ()) := .refl
  have queued := start.play rfl (queueAll false ["only"]) 40
  have asleep := queued.play rfl (watchAs false "early") 40
  exact ⟨rfl, rfl, wakeful (asleep.play rfl (cancelOne false "only") 40)⟩

end Session

end Sailplane.Download
