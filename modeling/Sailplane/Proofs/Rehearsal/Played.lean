import Sailplane.Download.Run
import Sailplane.Proofs.Download.Steps
import Sailplane.Rehearsal.Scene

/-!
# What is played

What is played on a stage is a run of one session. The stage hands over what was seen after each
move and starts with an empty log again, so the session of the run is that of the stage with
everything seen before in front of its log: no step looks into the log. The queue goes when nobody
uses it any more and not sooner; then the session is closed, and what is played afterwards is a run
of the closed session.
-/
namespace Sailplane

namespace Download.Session

variable {users : Users}

/-- A session, when something was seen before. -/
def afterSeeing (seen : List (Observation users.Listener users.Note)) (session : Session users) :
    Session users :=
  { session with log := seen ++ session.log }

section

variable (seen : List (Observation users.Listener users.Note)) (session : Session users)

/-! ## No step looks into the log -/

theorem see_afterSeeing (observation : Observation users.Listener users.Note) :
    (session.afterSeeing seen).see observation = (session.see observation).afterSeeing seen := by
  simp only [see, afterSeeing, List.append_assoc]

theorem see_onto_afterSeeing (observation : Observation users.Listener users.Note)
    (stack : List (Frame users)) :
    { (session.afterSeeing seen).see observation with stack } =
      ({ session.see observation with stack } : Session users).afterSeeing seen := by
  rw [see_afterSeeing]
  rfl

theorem schedule_afterSeeing (serial : Nat) :
    (session.afterSeeing seen).schedule serial = (session.schedule serial).afterSeeing seen := by
  rw [schedule_eq, schedule_eq]
  rfl

theorem apply_afterSeeing (change : Change) :
    (session.afterSeeing seen).apply change = (session.apply change).afterSeeing seen := by
  rw [apply_eq, apply_eq]
  simp only [afterSeeing, List.append_assoc]

theorem applyAndDeliver_afterSeeing (change : Change) :
    (session.afterSeeing seen).applyAndDeliver change =
      ((session.applyAndDeliver change).1,
        (session.applyAndDeliver change).2.afterSeeing seen) := by
  rw [applyAndDeliver_eq, applyAndDeliver_eq, apply_afterSeeing]
  rfl

theorem empty_afterSeeing :
    (session.afterSeeing seen).empty = session.empty.afterSeeing seen := by
  rw [empty, empty, see_afterSeeing, apply_afterSeeing]
  rfl

theorem pause_afterSeeing (transfer : Transfer) :
    (session.afterSeeing seen).pause transfer = (session.pause transfer).afterSeeing seen := by
  rw [pause, pause]
  split
  · exact see_afterSeeing seen (session.alter transfer.serial .close) _
  · rfl

theorem cancel_afterSeeing (name : String) :
    (session.afterSeeing seen).perform (.cancel name) =
      ((session.perform (.cancel name)).1, (session.perform (.cancel name)).2.1,
        (session.perform (.cancel name)).2.2.afterSeeing seen) := by
  cases found : session.queue.cancel? name with
  | none =>
    have missing : (session.afterSeeing seen).queue.cancel? name = none := found
    rw [perform_cancel_none missing, perform_cancel_none found]
    rfl
  | some change =>
    have same : (session.afterSeeing seen).queue.cancel? name = some change := found
    rw [perform_cancel_some same, perform_cancel_some found, applyAndDeliver_afterSeeing]
    rfl

/-- A call gets the same answer and sets off the same. -/
theorem perform_afterSeeing (operation : Operation users.Listener) :
    (session.afterSeeing seen).perform operation =
      ((session.perform operation).1, (session.perform operation).2.1,
        (session.perform operation).2.2.afterSeeing seen) := by
  cases operation with
  | enqueue request =>
    exact congrArg (Prod.mk ()) (applyAndDeliver_afterSeeing seen session _)
  | cancel name => exact cancel_afterSeeing seen session name
  | shutdown =>
    rw [perform, empty_afterSeeing]
    rfl
  | signal message =>
    cases found : session.fetching? with
    | none =>
      have missing : (session.afterSeeing seen).fetching? = none := found
      simp only [perform, found, missing]
    | some transfer =>
      have same : (session.afterSeeing seen).fetching? = some transfer := found
      have posted := schedule_afterSeeing seen (session.alter transfer.serial fun transfer =>
        { transfer with inbox := transfer.inbox ++ [message] }) transfer.serial
      simp only [perform, found, same]
      exact congrArg (fun reached => ((), [], reached)) posted
  | _ => rfl

theorem readNext_afterSeeing (transfer : Transfer) (allowance : Nat) (rest : List (Frame users)) :
    (session.afterSeeing seen).readNext transfer allowance rest =
      (session.readNext transfer allowance rest).afterSeeing seen := by
  cases allowance with
  | zero =>
    cases stopped : transfer.stopped with
    | true =>
      rw [readNext_zero_stopped stopped, readNext_zero_stopped stopped, pause_afterSeeing]
      rfl
    | false =>
      rw [readNext_zero_kept stopped, readNext_zero_kept stopped, schedule_afterSeeing]
      rfl
  | succ allowance =>
    cases inbox : transfer.inbox with
    | nil =>
      rw [readNext_nil inbox, readNext_nil inbox, pause_afterSeeing]
      rfl
    | cons message others =>
      rw [readNext_cons inbox, readNext_cons inbox]
      rfl

theorem follow_afterSeeing (transfer : Transfer) (signal : Signal) (again : Frame users)
    (rest : List (Frame users)) :
    (session.afterSeeing seen).follow transfer signal again rest =
      (session.follow transfer signal again rest).afterSeeing seen := by
  have followed := see_afterSeeing seen session (.followed (launchOf transfer) signal)
  cases signal with
  | size bytes | position bytes =>
    simp only [follow, followed]
    rfl
  | fill content =>
    simp only [follow, followed]
    split <;> rfl
  | cancel name =>
    have reaching : (session.afterSeeing seen).state = session.state := rfl
    simp only [follow, followed, reaching, cancel_afterSeeing]
    split <;> rfl
  | finish failure =>
    cases completed : session.queue.complete? transfer.serial failure with
    | none =>
      have same : (session.afterSeeing seen).queue.complete? transfer.serial failure = none :=
        completed
      rw [follow_finish_none completed, follow_finish_none same]
      exact see_onto_afterSeeing seen (session.alter transfer.serial .close) _ rest
    | some change =>
      have same : (session.afterSeeing seen).queue.complete? transfer.serial failure =
        some change := completed
      have changed := applyAndDeliver_afterSeeing seen
        ((session.alter transfer.serial .close).see (.ended (launchOf transfer) failure)) change
      rw [← see_afterSeeing] at changed
      rw [follow_finish_some same, follow_finish_some completed]
      exact congrArg (fun reached : List (Frame users) × Session users =>
        { reached.2 with stack := reached.1 ++ rest }) changed

theorem run_afterSeeing (job : Job) :
    (session.afterSeeing seen).run job = (session.run job).afterSeeing seen := by
  cases job with
  | watcher label =>
    rw [run, run]
    change (if session.queue.isIdle then _ else _) = _
    split
    · exact see_afterSeeing seen session _
    · rfl
  | transfer serial =>
    cases stored : session.transfer? serial with
    | none =>
      have missing : (session.afterSeeing seen).transfer? serial = none := stored
      rw [run_missing missing, run_missing stored]
    | some transfer =>
      have same : (session.afterSeeing seen).transfer? serial = some transfer := stored
      cases phase : transfer.phase with
      | closed => rw [run_closed same phase, run_closed stored phase]
      | waiting =>
        cases stopped : transfer.stopped with
        | true =>
          rw [run_discarded same phase stopped, run_discarded stored phase stopped]
          rfl
        | false =>
          rw [run_begun same phase stopped, run_begun stored phase stopped]
          exact see_onto_afterSeeing seen (session.alter serial .enter) _ _
      | fetching =>
        cases stopped : transfer.stopped with
        | true =>
          rw [run_dropped same phase stopped, run_dropped stored phase stopped]
          exact pause_afterSeeing seen session transfer
        | false =>
          rw [run_resumed same phase stopped, run_resumed stored phase stopped]
          rfl

theorem advance_afterSeeing (frame : Frame users) (rest : List (Frame users)) :
    (session.afterSeeing seen).advance frame rest =
      (session.advance frame rest).afterSeeing seen := by
  cases frame with
  | script script =>
    cases script with
    | note note next =>
      exact see_onto_afterSeeing seen session (.note note) (.script next :: rest)
    | call operation next =>
      simp only [advance, perform_afterSeeing]
      rfl
    | done | get | set => rfl
  | drain =>
    cases notices : session.queue.nextNotice with
    | mk notice queue =>
      have same : (session.afterSeeing seen).queue.nextNotice = (notice, queue) := notices
      cases notice with
      | none =>
        simp only [advance, notices, same]
        split <;> rfl
      | some notice =>
        simp only [advance, notices, same]
        exact see_onto_afterSeeing seen { session with queue } (.announced notice) _
  | tell calls =>
    cases calls with
    | nil => rfl
    | cons call calls =>
      exact see_onto_afterSeeing seen session (.heard call.1 call.2) _
  | transfer serial message allowance =>
    cases stored : session.transfer? serial with
    | none =>
      have missing : (session.afterSeeing seen).transfer? serial = none := stored
      rw [advance_read_missing missing, advance_read_missing stored]
      rfl
    | some transfer =>
      have same : (session.afterSeeing seen).transfer? serial = some transfer := stored
      cases message with
      | nil =>
        rw [advance_read_nil same, advance_read_nil stored]
        exact readNext_afterSeeing seen session transfer allowance rest
      | cons signal message =>
        rw [advance_read_cons same, advance_read_cons stored]
        exact follow_afterSeeing seen session transfer signal _ rest
  | «show» observation =>
    exact see_onto_afterSeeing seen session observation rest

end

/-- What is handed over is seen before. -/
theorem afterSeeing_handed (seen : List (Observation users.Listener users.Note))
    (session : Session users) :
    session.afterSeeing seen = ({ session with log := [] } : Session users).afterSeeing
      (seen ++ session.log) := by
  rw [afterSeeing, afterSeeing, List.append_nil]

/-- A step is the same when something was seen before. -/
theorem step_afterSeeing (seen : List (Observation users.Listener users.Note))
    {session next : Session users} (taken : session.step? = some next) :
    (session.afterSeeing seen).step? = some (next.afterSeeing seen) := by
  rcases step_cases taken with ⟨frame, rest, stack, rfl⟩ | ⟨job, ready, quiet, jobs, rfl⟩
  · have same : (session.afterSeeing seen).stack = frame :: rest := stack
    rw [step_of_stack same, advance_afterSeeing]
  · have still : (session.afterSeeing seen).stack = [] := quiet
    have same : (session.afterSeeing seen).ready = job :: ready := jobs
    rw [step_of_ready still same]
    exact congrArg some (run_afterSeeing seen { session with ready } job)

/-- Work on what has begun is a step. -/
theorem step_of_work {session next : Session users} (worked : session.work? = some next) :
    session.step? = some next := by
  rw [work?] at worked
  split at worked
  · cases worked
  · next frame rest stack => rw [step_of_stack stack, worked]

/-- The end of all handles is the same when something was seen before. -/
theorem close_afterSeeing (seen : List (Observation users.Listener users.Note))
    (session : Session users) :
    (session.afterSeeing seen).close = session.close.afterSeeing seen := by
  rw [close, close, empty_afterSeeing]
  rfl

end Download.Session

namespace Rehearsal

open Download (Observation Session)
open Download.Session (Run)

/-! ## Stages -/

/-- What comes of a stage, and what was seen until then. A caller plays a script only when all that
has begun is over. -/
inductive Played (first : Stage) : List Scene.Sight → Stage → Prop where
  /-- Nothing is played. -/
  | nothing : Played first [] first
  /-- A client starts. -/
  | connect {seen : List Scene.Sight} {stage : Stage} (before : Played first seen stage)
    (quiet : stage.session.stack = []) (account : Config.Account) (wanted : Bool) :
    Played first (seen ++ (stage.connect account wanted).1) (stage.connect account wanted).2
  /-- The caller takes a step. -/
  | play {seen : List Scene.Sight} {stage : Stage} (before : Played first seen stage)
    (quiet : stage.session.stack = []) (step : Step) (wanted : Bool) :
    Played first (seen ++ (stage.play step wanted).1) (stage.play step wanted).2

/-- Whether a stage is that of a run from a session, given what was seen before the stage's own log,
and after the queue has gone that of a run from where nobody used the session and it was closed. -/
def Stage.Follows (source : Session Scene.users) (seen : List Scene.Sight) (stage : Stage) : Prop :=
  ∃ past last, Run source past last ∧
    if stage.gone then
      (⟨last, false⟩ : Stage).inUse = false ∧
        ∃ later, Run last.close later (stage.session.afterSeeing seen)
    else stage.session.afterSeeing seen = last

namespace Stage

variable {source session : Session Scene.users} {seen : List Scene.Sight} {stage : Stage}

/-- A stage on which nobody uses the queue is rid of it. -/
theorem inUse_release (there : stage.release.gone = false) : stage.release.inUse = true := by
  rw [release] at there ⊢
  split at there
  · next kept =>
    rw [if_pos kept]
    simpa [there] using kept
  · cases there

/-- Whatever a step with its release keeps is kept by steps and by work, however many. -/
theorem repeatedly_induct {Good : Stage → Prop} {advance : Stage → Option Stage}
    (steps : ∀ {stage next : Stage}, advance stage = some next →
      ∃ session, stage.session.step? = some session ∧
        next = ({ stage with session } : Stage).release)
    (keeps : ∀ {stage : Stage} {session : Session Scene.users}, Good stage →
      stage.session.step? = some session → Good ({ stage with session } : Stage).release)
    (fuel : Nat) (good : Good stage) : Good (Session.repeatedly advance fuel stage) := by
  induction fuel generalizing stage with
  | zero => exact good
  | succ fuel ih =>
    rw [Session.repeatedly]
    cases advanced : advance stage with
    | none => exact good
    | some next =>
      obtain ⟨session, taken, rfl⟩ := steps advanced
      exact ih (keeps good taken)

/-- Playing a script keeps what its begin and every step keep. -/
theorem perform_induct {Good : Stage → Prop} {script : Scene.Play Unit}
    (keeps : ∀ {stage : Stage} {session : Session Scene.users}, Good stage →
      stage.session.step? = some session → Good ({ stage with session } : Stage).release)
    (begun : Good { stage with session := stage.session.begin script }) :
    Good (stage.perform script) := by
  refine repeatedly_induct (fun worked => ?_) keeps _ begun
  obtain ⟨session, worked, same⟩ := Option.map_eq_some_iff.mp worked
  exact ⟨session, Session.step_of_work worked, same.symm⟩

/-- Coming to rest keeps what every step keeps. -/
theorem rest_induct {Good : Stage → Prop}
    (keeps : ∀ {stage : Stage} {session : Session Scene.users}, Good stage →
      stage.session.step? = some session → Good ({ stage with session } : Stage).release)
    (wanted : Bool) (good : Good stage) :
    Good (if wanted then Session.repeatedly step? patience stage else stage) := by
  split
  · refine repeatedly_induct (fun stepped => ?_) keeps _ good
    obtain ⟨session, taken, same⟩ := Option.map_eq_some_iff.mp stepped
    exact ⟨session, taken, same.symm⟩
  · exact good

namespace Follows

/-- What a run goes on with, a stage goes on with. -/
theorem onward (follows : stage.Follows source seen)
    (goes : ∀ {source past}, Run source past (stage.session.afterSeeing seen) →
      ∃ past, Run source past (session.afterSeeing seen)) :
    Follows source seen { stage with session } := by
  obtain ⟨past, last, run, reached⟩ := follows
  by_cases gone : stage.gone = true
  · rw [if_pos gone] at reached
    obtain ⟨unused, later, closed⟩ := reached
    exact ⟨past, last, run, (if_pos gone).mpr ⟨unused, goes closed⟩⟩
  · rw [if_neg gone] at reached
    obtain ⟨past, run⟩ := goes (reached ▸ run)
    exact ⟨past, _, run, (if_neg gone).mpr rfl⟩

/-- The queue may go. -/
theorem release (follows : stage.Follows source seen) : stage.release.Follows source seen := by
  rw [Stage.release]
  split
  · exact follows
  · next free =>
    obtain ⟨past, last, run, reached⟩ := follows
    obtain ⟨there, unused⟩ : stage.gone = false ∧ stage.inUse = false := by simpa using free
    rw [there, if_neg Bool.false_ne_true] at reached
    subst reached
    have closed := Session.close_afterSeeing seen stage.session
    exact ⟨past, _, run, (if_pos rfl).mpr ⟨unused, [], closed ▸ .refl⟩⟩

/-- A step of the session, after which the queue may go. -/
theorem step (follows : stage.Follows source seen) (taken : stage.session.step? = some session) :
    ({ stage with session } : Stage).release.Follows source seen :=
  (follows.onward fun run => ⟨_, run.step (Session.step_afterSeeing seen taken)⟩).release

/-- A script is played to its end. -/
theorem perform (follows : stage.Follows source seen) (quiet : stage.session.stack = [])
    (script : Scene.Play Unit) : (stage.perform script).Follows source seen := by
  have begun : Session.Input (stage.session.afterSeeing seen)
      ((stage.session.begin script).afterSeeing seen) :=
    .begin (show (stage.session.afterSeeing seen).stack = [] from quiet) script
  exact perform_induct step (follows.onward fun run => ⟨_, run.input begun⟩)

/-- What was seen is handed over. -/
theorem settle (follows : stage.Follows source seen) (wanted : Bool) :
    (stage.settle wanted).2.Follows source (seen ++ (stage.settle wanted).1) := by
  obtain ⟨past, last, run, reached⟩ := rest_induct step wanted follows
  exact ⟨past, last, run, @Session.afterSeeing_handed Scene.users seen _ ▸ reached⟩

end Follows

end Stage

section

variable {now : Skysight.Instant} {rejected : List Skysight.Topic} {plain : Bool}
  {seen : List Scene.Sight} {stage : Stage}

/-- **What is played is a run**: the session of a stage, after all that was seen, is reached by a
run from the first one, and once the queue has gone by a run from where the session was closed. -/
theorem Played.follows (played : Played (.new now rejected plain) seen stage) :
    stage.Follows (Stage.new now rejected plain).session seen := by
  induction played with
  | nothing => exact ⟨[], _, .refl, (if_neg Bool.false_ne_true).mpr rfl⟩
  | connect _ quiet account wanted ih => exact (ih.perform quiet _).settle wanted
  | play _ quiet step wanted ih => exact (ih.perform quiet _).settle wanted

/-- While the queue is there, what is played can come about from nothing. -/
theorem Played.reachable (played : Played (.new now rejected plain) seen stage)
    (there : stage.gone = false) : (stage.session.afterSeeing seen).Reachable := by
  obtain ⟨past, last, run, reached⟩ := played.follows
  rw [there, if_neg Bool.false_ne_true] at reached
  exact ⟨_, past, reached ▸ run⟩

/-- The queue is there only as long as somebody uses it. -/
theorem Played.inUse (played : Played (.new now rejected plain) seen stage) :
    stage.gone = false → stage.inUse = true := by
  have keeps {stage : Stage} {session : Session Scene.users}
      (_ : stage.gone = false → stage.inUse = true) (_ : stage.session.step? = some session) :
      ({ stage with session } : Stage).release.gone = false →
        ({ stage with session } : Stage).release.inUse = true := Stage.inUse_release
  have begun (stage : Stage) (script : Scene.Play Unit) :
      ({ stage with session := stage.session.begin script } : Stage).inUse = true := by
    simp [Stage.inUse, Session.begin, Stage.usesQueue]
  induction played with
  | nothing => exact fun _ => rfl
  | connect _ _ account wanted | play _ _ step wanted =>
    exact Stage.rest_induct keeps wanted (Stage.perform_induct keeps fun _ => begun _ _)

end

end Rehearsal

end Sailplane
