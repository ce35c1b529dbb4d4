import Sailplane.Proofs.Download.Effect.Call
import Sailplane.Proofs.Download.Effect.Transfer

/-!
# The effects of moves

Every move of a session has an effect, so what every effect keeps holds after every run.
-/
namespace Sailplane.Download

namespace Session

variable {users : Users}

/-! ## Steps -/

/-- A listener that is told something is told of a notice if notices are being handed out. -/
theorem sound_tell (session : Session users) (listener : users.Listener) (event : Event)
    (calls : List (users.Listener × Event)) (rest : List (Frame users))
    (stack : session.stack = .tell ((listener, event) :: calls) :: rest)
    (below : Nested session.tasks session.queue.delivering rest) :
    Sound session session.deed? (session.advance (.tell ((listener, event) :: calls)) rest) := by
  have shift : Shift session (session.advance (.tell ((listener, event) :: calls)) rest)
      session.queue session.tasks session.turns [.heard listener event] := ⟨rfl, rfl, rfl, rfl⟩
  have nested : Nested session.tasks session.queue.delivering
      (session.advance (.tell ((listener, event) :: calls)) rest).stack :=
    .script (users.react listener event) (.tell calls below)
  have neutral : ∀ observation ∈ [(.heard listener event :
      Observation users.Listener users.Note)], observation.isNeutral = true := neutral_single rfl
  have aside (deed : session.deed? = none) : Sound session session.deed?
      (session.advance (.tell ((listener, event) :: calls)) rest) := by
    rw [deed]
    exact sound_still neutral shift nested
  generalize session.queue.delivering = delivering at below
  cases below with
  | nil => exact aside (by simp only [deed?, asked?, call?, stack])
  | script script below => exact aside (by simp only [deed?, asked?, call?, stack])
  | tell others below => exact aside (by simp only [deed?, asked?, call?, stack])
  | shown name found below => exact aside (by simp only [deed?, asked?, call?, stack])
  | transfer found fetching message allowance =>
    exact aside (by simp only [deed?, asked?, call?, stack])
  | drain below =>
    have deed : session.deed? = some (.told listener event) := by simp only [deed?, stack]
    rw [deed]
    exact ⟨.told shift, nested⟩

/-- A script that goes on has the effect of its next call, or none. -/
theorem sound_script (session : Session users) (script : users.Script Unit)
    (rest : List (Frame users)) (stack : session.stack = .script script :: rest)
    (below : Nested session.tasks session.queue.delivering rest) :
    Sound session session.deed? (session.advance (.script script) rest) := by
  cases script with
  | done result =>
    exact sound_aside (by simp only [deed?, asked?, call?, stack]) rfl rfl rfl rfl below
  | get next =>
    exact sound_aside (by simp only [deed?, asked?, call?, stack]) rfl rfl rfl rfl
      (.script _ below)
  | set state next =>
    exact sound_aside (by simp only [deed?, asked?, call?, stack]) rfl rfl rfl rfl
      (.script _ below)
  | note note next =>
    have deed : session.deed? = none := by simp only [deed?, asked?, call?, stack]
    rw [deed]
    exact sound_still (neutral_single rfl) ⟨rfl, rfl, rfl, rfl⟩ (.script next below)
  | call operation next => exact sound_call session operation next rest stack below

/-- The next notice is handed out, or the handing out ends. -/
theorem sound_drain (session : Session users) (rest : List (Frame users))
    (stack : session.stack = .drain :: rest) (delivering : session.queue.delivering = true)
    (below : Nested session.tasks false rest) :
    Sound session session.deed? (session.advance .drain rest) := by
  cases outbox : session.queue.outbox with
  | nil =>
    have deed : session.deed? = none := by
      simp only [deed?, stack, outbox, List.head?_nil, Option.map_none]
    obtain ⟨shift, left⟩ := shift_drain_nil rest outbox
    rw [deed]
    refine ⟨.rested outbox shift, ?_⟩
    rw [shift.queue, shift.tasks, left]
    exact below
  | cons notice others =>
    have deed : session.deed? = some (.announced notice session.registry.listeners) := by
      simp only [deed?, stack, outbox, List.head?_cons, Option.map_some]
    rw [deed, advance_drain_cons outbox]
    refine ⟨.announced outbox ⟨rfl, rfl, rfl, rfl⟩, ?_⟩
    change Nested session.tasks session.queue.delivering _
    rw [delivering]
    exact .tell _ (.drain below)

/-- A transfer that reads follows the next signal, or reads on. -/
theorem sound_read (session : Session users) (transfer : Transfer) (message : List Signal)
    (allowance : Nat) (stored : session.transfer? transfer.serial = some transfer)
    (stack : session.stack = [.transfer transfer.serial message allowance])
    (fetching : transfer.phase = .fetching) (quiet : session.queue.delivering = false) :
    Sound session session.deed?
      (session.advance (.transfer transfer.serial message allowance) []) := by
  cases message with
  | nil =>
    have deed : session.deed? = none := by simp only [deed?, asked?, call?, stack]
    rw [deed, advance_read_nil stored]
    exact sound_readNext session transfer allowance (taskAt_of_stored stored).1 fetching quiet
  | cons signal message =>
    rw [advance_read_cons stored]
    exact sound_follow session transfer signal message allowance stored stack fetching quiet

/-- A step of the innermost thing that has begun. -/
theorem sound_advance (session : Session users) (frame : Frame users) (rest : List (Frame users))
    (stack : session.stack = frame :: rest) (framed : Framed session) :
    Sound session session.deed? (session.advance frame rest) := by
  have nested := framed.nested
  rw [stack] at nested
  generalize delivering : session.queue.delivering = opened at nested
  cases nested with
  | script script below =>
    rw [← delivering] at below
    exact sound_script session script rest stack below
  | tell calls below =>
    rw [← delivering] at below
    cases calls with
    | nil => exact sound_aside (by simp only [deed?, asked?, call?, stack]) rfl rfl rfl rfl below
    | cons call calls => exact sound_tell session call.1 call.2 calls rest stack below
  | shown name found below =>
    rw [← delivering] at below
    have deed : session.deed? = none := by simp only [deed?, asked?, call?, stack]
    rw [deed]
    exact sound_still (neutral_single rfl) ⟨rfl, rfl, rfl, rfl⟩ below
  | drain below => exact sound_drain session rest stack delivering below
  | @transfer serial task found fetching message allowance =>
    rw [taskAt_tasks] at found
    obtain ⟨transfer, stored, rfl⟩ := Option.map_eq_some_iff.mp found
    obtain rfl := (taskAt_of_stored stored).2
    exact sound_read session transfer message allowance stored stack fetching delivering

/-- While nothing has begun, no notices are being handed out. -/
theorem Framed.quiet {session : Session users} (framed : Framed session)
    (stack : session.stack = []) : session.queue.delivering = false := by
  have nested := framed.nested
  rw [stack] at nested
  generalize session.queue.delivering = delivering at nested
  cases nested
  rfl

/-- A task that waits until nothing is queued looks again. -/
theorem sound_watcher (session : Session users) (label : String) (ready : List Job)
    (stack : session.stack = []) (jobs : session.ready = .watcher label :: ready)
    (framed : Framed session) :
    Sound session none ({ session with ready }.run (.watcher label)) := by
  let popped : Session users := { session with ready }
  have nested := framed.nested
  rw [stack] at nested
  have turns : popped.turns = session.turns := by
    rw [Session.turns, Session.turns, jobs]
    rfl
  by_cases idle : session.queue.isIdle = true
  · have after : popped.run (.watcher label) = popped.see (.idle label) := by
      simp only [run, popped, idle, if_true]
    rw [after]
    exact sound_still (neutral_single rfl) ⟨rfl, rfl, turns, rfl⟩ (stack ▸ nested)
  · have after : popped.run (.watcher label) =
        { popped with waiting := popped.waiting ++ [label] } := by
      simp only [run, popped, if_neg idle]
    rw [after]
    exact sound_aside rfl rfl rfl turns rfl (stack ▸ nested)

/-- A transfer that has waited for its turn begins, or is over if it was stopped. -/
theorem sound_begin (session : Session users) (transfer : Transfer) (ready : List Job)
    (stack : session.stack = []) (jobs : session.ready = .transfer transfer.serial :: ready)
    (stored : session.transfer? transfer.serial = some transfer)
    (waiting : transfer.phase = .waiting) (quiet : session.queue.delivering = false) :
    Sound session none ({ session with ready }.run (.transfer transfer.serial)) := by
  let popped : Session users := { session with ready }
  have still : popped.transfer? transfer.serial = some transfer := stored
  have turn : session.turns = transfer.serial :: popped.turns := by
    rw [Session.turns, jobs]
    rfl
  have listed := (mem_of_taskAt (taskAt_of_stored stored).1).1
  cases stopped : transfer.stopped with
  | true =>
    have closed := shift_close popped transfer.serial
    have bottom : Nested (popped.alter transfer.serial .close).tasks session.queue.delivering
        session.stack := by
      rw [quiet, stack]
      exact .nil
    rw [run_discarded still waiting stopped]
    exact ⟨.discarded listed turn waiting stopped
      ⟨rfl, closed.tasks, rfl, (List.append_nil _).symm⟩, bottom⟩
  | false =>
    have entered : (popped.alter transfer.serial .enter).tasks =
        changeAt transfer.serial .enter session.tasks :=
      tasks_alter popped transfer.serial .enter fun _ => rfl
    rw [run_begun still waiting stopped]
    refine ⟨.begun listed turn waiting stopped ⟨rfl, entered, rfl, rfl⟩, ?_⟩
    change Nested (popped.alter transfer.serial .enter).tasks session.queue.delivering _
    rw [entered, quiet]
    exact .transfer (taskAt_enter stored) rfl [] Session.turn

/-- A transfer that runs goes on at its turn, or is dropped if it was stopped. -/
theorem sound_resume (session : Session users) (transfer : Transfer) (ready : List Job)
    (stack : session.stack = []) (jobs : session.ready = .transfer transfer.serial :: ready)
    (stored : session.transfer? transfer.serial = some transfer)
    (fetching : transfer.phase = .fetching) (quiet : session.queue.delivering = false) :
    Sound session none ({ session with ready }.run (.transfer transfer.serial)) := by
  let popped : Session users := { session with ready }
  have still : popped.transfer? transfer.serial = some transfer := stored
  have turn : session.turns = transfer.serial :: popped.turns := by
    rw [Session.turns, jobs]
    rfl
  have task := (taskAt_of_stored stored).1
  cases stopped : transfer.stopped with
  | true =>
    have dropped := shift_pause popped fetching stopped
    rw [run_dropped still fetching stopped]
    refine ⟨.dropped (mem_of_taskAt task).1 (.inl turn) fetching stopped
      ⟨dropped.queue, dropped.tasks, dropped.turns, dropped.log⟩, ?_⟩
    rw [dropped.queue, stack_pause, quiet, stack]
    exact .nil
  | false =>
    rw [run_resumed still fetching stopped]
    refine ⟨.passed turn ?_ ⟨rfl, rfl, rfl, (List.append_nil _).symm⟩, ?_⟩
    · intro other found
      obtain rfl := Option.some.inj (task.symm.trans found)
      refine ⟨?_, fun _ => stopped⟩
      rw [show transfer.bare.phase = .fetching from fetching]
      exact fun waiting => Phase.noConfusion waiting
    · change Nested session.tasks session.queue.delivering _
      rw [quiet]
      exact .transfer task fetching [] Session.turn

/-- A turn passes of a transfer that is not there or is over. -/
theorem sound_pass (session : Session users) (serial : Nat) (ready : List Job)
    (jobs : session.ready = .transfer serial :: ready)
    (settled : ∀ transfer, session.transfer? serial = some transfer → transfer.phase = .closed)
    (framed : Framed session) :
    Sound session none ({ session with ready }.run (.transfer serial)) := by
  let popped : Session users := { session with ready }
  have turn : session.turns = serial :: popped.turns := by
    rw [Session.turns, jobs]
    rfl
  have after : popped.run (.transfer serial) = popped := by
    cases stored : popped.transfer? serial with
    | none => exact run_missing stored
    | some transfer => exact run_closed stored (settled transfer stored)
  rw [after]
  refine ⟨.passed turn ?_ ⟨rfl, rfl, rfl, (List.append_nil _).symm⟩, framed.nested⟩
  intro task found
  rw [taskAt_tasks] at found
  obtain ⟨transfer, stored, rfl⟩ := Option.map_eq_some_iff.mp found
  rw [show transfer.bare.phase = .closed from settled transfer stored]
  exact ⟨fun waiting => Phase.noConfusion waiting, fun fetching => Phase.noConfusion fetching⟩

/-- A transfer whose turn has come begins, goes on, is dropped, or has long been over. -/
theorem sound_turn (session : Session users) (serial : Nat) (ready : List Job)
    (stack : session.stack = []) (jobs : session.ready = .transfer serial :: ready)
    (framed : Framed session) :
    Sound session none ({ session with ready }.run (.transfer serial)) := by
  have quiet := framed.quiet stack
  cases stored : session.transfer? serial with
  | none =>
    refine sound_pass session serial ready jobs (fun transfer found => ?_) framed
    rw [stored] at found
    exact absurd found (by simp)
  | some transfer =>
    obtain rfl := (taskAt_of_stored stored).2
    cases phase : transfer.phase with
    | waiting => exact sound_begin session transfer ready stack jobs stored phase quiet
    | fetching => exact sound_resume session transfer ready stack jobs stored phase quiet
    | closed =>
      refine sound_pass session transfer.serial ready jobs (fun other found => ?_) framed
      rw [← Option.some.inj (stored.symm.trans found)]
      exact phase

/-- What a step of a session comes to. -/
theorem sound_step {session next : Session users} (taken : session.step? = some next)
    (framed : Framed session) : Sound session session.deed? next := by
  rcases step_cases taken with ⟨frame, rest, stack, rfl⟩ | ⟨job, ready, stack, jobs, rfl⟩
  · exact sound_advance session frame rest stack framed
  · have deed : session.deed? = none := by simp only [deed?, asked?, call?, stack]
    rw [deed]
    cases job with
    | watcher label => exact sound_watcher session label ready stack jobs framed
    | transfer serial => exact sound_turn session serial ready stack jobs framed

/-- What comes from outside begins a script or wakes a transfer. -/
theorem sound_input {session next : Session users} (input : Input session next)
    (framed : Framed session) : Sound session none next := by
  have nested := framed.nested
  cases input with
  | begin quiet script => exact sound_aside rfl rfl rfl rfl rfl (.script script nested)
  | arrive serial message =>
    rcases arrive_cases session serial message with same | ⟨transfer, stored, pending, posted⟩
    · rw [same]
      exact sound_aside rfl rfl rfl rfl rfl nested
    · obtain ⟨task, rfl⟩ := taskAt_of_stored stored
      have shift := shift_post session transfer.serial message
      rw [posted]
      refine ⟨.woken (mem_of_taskAt task).1 pending shift, ?_⟩
      rw [shift.tasks, shift.queue, stack_post]
      exact nested

/-! ## Runs -/

/-- To take steps until there is none goes on with a run. -/
theorem Run.repeatedly {source session : Session users} {past : History users}
    (run : Run source past session) (fuel : Nat) :
    Run source (past ++ visited fuel session) (repeatedly step? fuel session) := by
  induction fuel generalizing past session with
  | zero =>
    rw [visited, List.append_nil]
    exact run
  | succ fuel ih =>
    rw [visited, Session.repeatedly]
    cases taken : session.step? with
    | none =>
      rw [List.append_nil]
      exact run
    | some next =>
      have after := ih (run.step taken)
      rwa [List.append_assoc] at after

/-- A script that is begun while nothing else is, and the steps after it, go on with a run. -/
theorem Run.play {source session : Session users} {past : History users}
    (run : Run source past session) (quiet : session.stack = []) (script : users.Script Unit)
    (fuel : Nat) : Run source (past ++ visited fuel (session.begin script))
      (Session.repeatedly step? fuel (session.begin script)) :=
  (run.input (.begin quiet script)).repeatedly fuel

/-- A move leaves no notice without somebody to hand it out. -/
theorem Effect.framed {session next : Session users} {deed : Option (Deed users.Listener)}
    (framed : Framed session) (sound : Sound session deed next) : Framed next := by
  refine ⟨sound.2, ?_⟩
  have pending := framed.pending
  cases sound.1 with
  | still _ shift | woken _ _ shift | told shift | emptied shift | begun _ _ _ _ shift
  | passed _ _ shift | discarded _ _ _ _ shift | dropped _ _ _ _ shift | outlived _ _ _ _ shift =>
    rw [shift.queue]
    exact pending
  | rested empty shift =>
    rw [shift.queue]
    exact fun waits => absurd empty waits
  | announced first shift =>
    rw [shift.queue]
    exact fun _ => pending (first ▸ List.cons_ne_nil _ _)
  | queued _ changed | cancelled _ _ _ changed | finished _ _ _ changed =>
    rw [changed.queue]
    exact fun _ => rfl

/-- The deeds of a run and of one step more. -/
theorem deeds_append (past : History users) (session : Session users) :
    History.deeds (past ++ [session]) = past.deeds ++ session.deed?.toList := by
  rw [History.deeds, List.filterMap_append]
  rfl

/-- In every run frames are nested and no notice is left without somebody to hand it out. -/
theorem Run.framed {source session : Session users} {past : History users}
    (run : Run source past session) (framed : Framed source) : Framed session := by
  induction run with
  | refl => exact framed
  | step before taken ih => exact Effect.framed ih (sound_step taken ih)
  | input before input ih => exact Effect.framed ih (sound_input input ih)

/-- What holds in the beginning and is kept by every effect holds after every run, of the deeds of
the run and the session it has reached. -/
theorem Run.induct {state : users.State}
    (Holds : List (Deed users.Listener) → Session users → Prop)
    (start : Holds [] (.new state))
    (kept : ∀ deeds session deed next, Framed session → Holds deeds session →
      Effect session deed next → Holds (deeds ++ deed.toList) next)
    {past : History users} {session : Session users} (run : Run (.new state) past session) :
    Holds past.deeds session := by
  induction run with
  | refl => exact start
  | @step past session next before taken ih =>
    have framed := before.framed (framed_new state)
    have after := kept _ _ _ _ framed ih (sound_step taken framed).1
    rw [deeds_append]
    exact after
  | @input past session next before input ih =>
    have framed := before.framed (framed_new state)
    have after := kept _ _ _ _ framed ih (sound_input input framed).1
    rwa [Option.toList_none, List.append_nil] at after

/-! ## Callers -/

/-- Callers without listeners, whose transfers reach the queue or do not. -/
def callers (reaching : Bool) : Users := ⟨Unit, Unit, Unit, fun _ _ => .done (), fun _ => reaching⟩

/-- A request for bytes under a name. -/
def bytesOf (name : String) : Request := .buffer "" name ⟨0⟩ .none

/-- Requests for bytes under some names are queued. -/
def queueAll (reaching : Bool) : List String → (callers reaching).Script Unit
  | [] => .done ()
  | name :: names => .call (.enqueue (bytesOf name)) fun _ => queueAll reaching names

/-- The first request of a name is cancelled. -/
def cancelOne (reaching : Bool) (name : String) : (callers reaching).Script Unit :=
  .call (.cancel name) fun _ => .done ()

end Session

end Sailplane.Download
