import Sailplane.Proofs.Download.Grounded
import Sailplane.Proofs.Download.Lifecycle
import Sailplane.Proofs.Download.Stopped
import Sailplane.Proofs.Download.Surroundings
import Sailplane.Proofs.Download.TwinRuns

/-!
# Starting again

A shutdown leaves a queue that is as good as new. Nothing is ever told of the end of what it took
away, and what was recorded before is still handed out. If nothing was left to tell, whatever
happens from then on happens to a queue that was just built, too, though transfers of the past may
still wait to be dropped.
-/
namespace Sailplane.Download

/-- Whether a frame is a transfer that follows a message. -/
def Frame.isTransfer {users : Users} : Frame users → Bool
  | transfer _ _ _ => true
  | _ => false

namespace Session

variable {users : Users} {session : Session users} {rest : List (Frame users)}

/-- A new queue with the same listeners, in the same surroundings. The tasks that were about to look
whether nothing is queued still are, and what has begun has. -/
def rebuilt (session : Session users) : Session users :=
  { Session.new session.state with
    registry := session.registry
    slots := session.slots
    ready := session.looking.map .watcher
    stack := session.stack }

/-- A new queue with the same listeners that hands out a notice, if that is being done. -/
def rebuiltWithin (session : Session users) : Session users :=
  { session.rebuilt with
    queue := { Queue.empty with delivering := session.queue.delivering } }

/-- The numbers that were given out so far. -/
def lead (session : Session users) : Lead := ⟨session.queue.serial, session.queue.issued⟩

/-! ## Twins after a shutdown -/

/-- A call that takes all requests away leaves nothing queued and changes nothing else of the
queue. -/
theorem after_shutdown (session : Session users) (next : Unit → users.Script Unit)
    (rest : List (Frame users)) :
    let after := session.advance (.script (.call .shutdown next)) rest
    after.queue = { session.queue with entries := [], active := none } ∧
      after.waiting = [] ∧ after.stack = .script (next ()) :: rest ∧
      after.recorded = session.recorded := by
  have emptied := shift_apply (session.see (.emptied session.queue.entries))
    session.queue.shutdown
  refine ⟨emptied.queue, rfl, rfl, ?_⟩
  have recorded : session.empty.recorded =
      (session.see (.emptied session.queue.entries)).recorded ++
        (session.queue.shutdown.recorded.map .recorded).filterMap Observation.recorded? :=
    emptied.recorded
  have seen : (session.see (.emptied session.queue.entries)).recorded = session.recorded := by
    rw [Session.recorded, see, List.filterMap_append]
    exact List.append_nil _
  exact recorded.trans ((List.append_nil _).trans seen)

/-- When nothing runs the tasks of the time since are those that are about to look. -/
theorem since_of_bounded {ready : List Job} {lead : Lead}
    (bounded : ∀ serial ∈ ready.filterMap Job.serial?, serial ≤ lead.serials) :
    ready.filter (Job.isSince lead) = (ready.filterMap Job.label?).map .watcher := by
  induction ready with
  | nil => rfl
  | cons job ready ih =>
    cases job with
    | watcher label =>
      have since : (Job.watcher label).isSince lead = true := rfl
      rw [List.filter_cons, if_pos since, ih bounded]
      rfl
    | transfer serial =>
      have late : serial ≤ lead.serials := bounded serial List.mem_cons_self
      have past : (Job.transfer serial).isSince lead = false :=
        decide_eq_false (Nat.not_lt.mpr late)
      rw [List.filter_cons, past, if_neg Bool.false_ne_true,
        ih fun other listed => bounded other (List.mem_cons_of_mem _ listed)]
      rfl

/-- What has begun is nested without the transfers if none of it is one. -/
theorem nested_of_free {tasks : List Transfer} {delivering : Bool}
    {stack : List (Frame users)} (nested : Nested tasks delivering stack)
    (free : ∀ frame ∈ stack, frame.isTransfer = false) (lead : Lead) (others : List Transfer) :
    Nested others delivering stack ∧ stack.map (Frame.behind lead) = stack := by
  have below {frame : Frame users} {rest : List (Frame users)}
      (free : ∀ other ∈ frame :: rest, other.isTransfer = false) :
      ∀ other ∈ rest, other.isTransfer = false :=
    fun other listed => free other (List.mem_cons_of_mem _ listed)
  induction nested with
  | nil => exact ⟨.nil, rfl⟩
  | script script _ ih =>
    obtain ⟨nested, same⟩ := ih (below free)
    exact ⟨.script script nested, by rw [List.map_cons, same]; rfl⟩
  | tell calls _ ih =>
    obtain ⟨nested, same⟩ := ih (below free)
    exact ⟨.tell calls nested, by rw [List.map_cons, same]; rfl⟩
  | shown name found _ ih =>
    obtain ⟨nested, same⟩ := ih (below free)
    exact ⟨.shown name found nested, by rw [List.map_cons, same]; rfl⟩
  | drain _ ih =>
    obtain ⟨nested, same⟩ := ih (below free)
    exact ⟨.drain nested, by rw [List.map_cons, same]; rfl⟩
  | transfer found fetching message allowance =>
    exact Bool.noConfusion (free _ List.mem_cons_self)

/-- When nothing is queued, nothing is left to tell and no transfer is in the midst of a message, a
session and a new one go on together. -/
theorem paired_rebuilt (framed : Framed session) (orderly : Orderly session)
    (unqueued : session.queue.entries = []) (inactive : session.queue.active = none)
    (untold : session.queue.outbox = []) (asleep : session.waiting = [])
    (free : ∀ frame ∈ session.stack, frame.isTransfer = false) :
    Paired session.lead session.log session session.rebuiltWithin := by
  obtain ⟨nested, same⟩ := nested_of_free framed.nested free session.lead []
  have steady := orderly.steady
  have queue : session.queue = session.rebuiltWithin.queue.behind session.lead := by
    obtain ⟨queue, _⟩ := session
    obtain ⟨entries, active, serial, issued, outbox, delivering⟩ := queue
    obtain rfl : entries = [] := unqueued
    obtain rfl : active = none := inactive
    obtain rfl : outbox = [] := untold
    rfl
  have gone : ∀ transfer ∈ session.transfers, transfer.Gone session.lead := by
    intro transfer listed
    have there : transfer.bare ∈ session.tasks := List.mem_map_of_mem listed
    have late : transfer.bare.serial ≤ session.queue.serial := steady.serial_le there
    refine ⟨late, steady.settled transfer.bare there ?_⟩
    rw [inactive]
    exact (Option.some_ne_none _).symm
  have ready : session.ready.filter (Job.isSince session.lead) =
      (session.looking.map Job.watcher).map (Job.behind session.lead) := by
    have bounded : ∀ serial ∈ session.ready.filterMap Job.serial?,
        serial ≤ session.lead.serials := steady.bounded
    rw [since_of_bounded bounded, List.map_map]
    rfl
  have alike : Alike session.lead session.log session session.rebuiltWithin :=
    ⟨queue, ⟨session.transfers, (List.append_nil _).symm, gone⟩, rfl, rfl, rfl, asleep, ready,
      ⟨[], (List.append_nil _).symm, rfl⟩⟩
  have turns : session.rebuiltWithin.turns = [] := by
    rw [Session.turns, List.filterMap_eq_nil_iff]
    intro job listed
    obtain ⟨label, _, rfl⟩ := List.mem_map.mp listed
    rfl
  have started : Orderly session.rebuiltWithin := by
    refine ⟨?_, fun _ => rfl, Told.initial⟩
    rw [turns]
    exact .initial
  exact ⟨{ alike with stack := same.symm }, framed, ⟨nested, fun waits => absurd rfl waits⟩,
    started⟩

/-! ## A clean restart -/

/-- What it means that a step has taken all requests away and left a queue as good as new. -/
structure Restarted (past : History users) (session after : Session users) : Prop where
  /-- Nothing is queued, and nothing runs. -/
  emptied : after.queue.entries = [] ∧ after.queue.active = none
  /-- Nothing was recorded. -/
  silent : after.recorded = session.recorded ∧ after.queue.outbox = session.queue.outbox
  /-- Nothing ever tells that a request that was taken away is over. -/
  dropped : ∀ more later, Run after more later → ∀ entry ∈ session.queue.entries,
    ∀ notice ∈ later.recorded, notice.entry = entry → notice.isTerminal = false
  /-- What was recorded before stays first among what is recorded, and that is handed out in
  order. -/
  kept : ∀ more later, Run after more later → session.recorded <+: later.recorded ∧
    later.recorded =
      (handedOut (past ++ session :: more).deeds).map (·.1) ++ later.queue.outbox ∧
    told (past ++ session :: more).deeds ++ later.due =
      (handedOut (past ++ session :: more).deeds).flatMap callsFor
  /-- As soon as nothing is being handed out, everybody was told what was recorded before. -/
  delivered : ∀ more later, Run after more later → later.queue.delivering = false →
    ∀ notice ∈ session.recorded, Delivered (past ++ session :: more).deeds notice
  /-- If nothing was left to tell, the same happens from then on as to a new queue. -/
  renewed : session.queue.outbox = [] → session.queue.delivering = false →
    Equivalent after.lead after after.rebuilt
  /-- The same holds while the last notice is being handed out, for a new queue that hands out a
  notice, unless this goes on in the midst of a transfer. -/
  renewedWithin : session.queue.outbox = [] →
    (∀ frame ∈ session.stack, frame.isTransfer = false) →
    Equivalent after.lead after after.rebuiltWithin

/-- Every run records its notices behind the earlier ones. -/
theorem Run.recorded_mono {past : History users} {reached : Session users}
    (run : Run session past reached) (framed : Framed session) :
    session.recorded <+: reached.recorded := by
  induction run with
  | refl => exact List.prefix_refl _
  | step before taken ih =>
    exact ih.trans (sound_step taken (before.framed framed)).1.recorded_mono
  | input before input ih =>
    exact ih.trans (sound_input input (before.framed framed)).1.recorded_mono

/-- A shutdown may come at any time in a run; it leaves a queue as good as new. -/
theorem shutdown_restarts {state : users.State} {past : History users}
    {next : Unit → users.Script Unit} (run : Run (.new state) past session)
    (stack : session.stack = .script (.call .shutdown next) :: rest) :
    Restarted past session (session.advance (.script (.call .shutdown next)) rest) := by
  obtain ⟨queue, asleep, begun, recorded⟩ := after_shutdown session next rest
  have taken : session.step? = some (session.advance (.script (.call .shutdown next)) rest) := by
    simp only [step?, stack]
  generalize session.advance (.script (.call .shutdown next)) rest = after at *
  have framed := run.framed (framed_new state)
  have stepped := run.step taken
  have goes_on {more : History users} {later : Session users} (onward : Run after more later) :
      Run (.new state) (past ++ session :: more) later := by
    have whole := stepped.append onward
    rwa [List.append_assoc] at whole
  have remains {more : History users} {later : Session users} (onward : Run after more later) :
      session.recorded <+: later.recorded := by
    rw [← recorded]
    exact onward.recorded_mono (stepped.framed (framed_new state))
  -- The queue after the shutdown and the one built anew are a pair, whatever happens then.
  have within : session.queue.outbox = [] →
      (∀ frame ∈ session.stack, frame.isTransfer = false) →
      Equivalent after.lead after after.rebuiltWithin := by
    intro untold free
    have reachable : Reachable after := ⟨state, _, stepped⟩
    have still : ∀ frame ∈ after.stack, frame.isTransfer = false := by
      intro frame listed
      rw [begun, List.mem_cons] at listed
      rcases listed with rfl | below
      · rfl
      · exact free frame (stack ▸ List.mem_cons_of_mem _ below)
    exact (paired_rebuilt (stepped.framed (framed_new state)) reachable.orderly (by rw [queue])
      (by rw [queue]) (by rw [queue]; exact untold) asleep still).equivalent
  refine ⟨by rw [queue]; exact ⟨rfl, rfl⟩, ⟨recorded, by rw [queue]⟩, ?_, ?_, ?_, ?_, within⟩
  · intro more later onward entry waited notice listed same
    have booked := (goes_on onward).booked
    have taken_away : entry ∈ Download.dropped (past ++ session :: more).deeds := by
      have deed : session.deed? = some (.emptied session.queue.entries) := by
        simp only [deed?, asked?, call?, stack]
      rw [Download.dropped, List.mem_flatMap]
      refine ⟨_, List.mem_filterMap.mpr ⟨session, by simp, deed⟩, waited⟩
    have untold := (booked.balanced.gone entry taken_away).2
    by_contra terminal
    rw [Bool.not_eq_false] at terminal
    exact untold (mem_ended.mpr ⟨notice, listed, terminal, same⟩)
  · intro more later onward
    exact ⟨remains onward, (goes_on onward).pushed, (goes_on onward).settled⟩
  · intro more later onward quiet notice listed
    have whole := goes_on onward
    have handed : later.queue.outbox = [] := by
      by_contra waits
      have opened := (whole.framed (framed_new state)).pending waits
      rw [quiet] at opened
      exact Bool.noConfusion opened
    refine delivered_of_idle whole quiet handed ?_
    rw [noticed, ← whole.pushed]
    exact (remains onward).subset listed
  · intro untold quiet
    have same : after.rebuiltWithin = after.rebuilt := by
      rw [rebuiltWithin, queue, quiet]
      rfl
    rw [← same]
    refine within untold fun frame listed => ?_
    have grounded := run.grounded
    have free : .drain ∉ rest := by
      intro below
      have open_ := (delivering_iff_of_nested framed.nested).mpr
        (stack ▸ List.mem_cons_of_mem _ below)
      rw [quiet] at open_
      exact Bool.noConfusion open_
    rw [stack] at grounded listed
    rcases List.mem_cons.mp listed with rfl | below
    · rfl
    · have plain := grounded.1 rfl free frame below
      cases frame with
      | transfer serial message allowance => exact Bool.noConfusion plain
      | script | drain | tell | «show» => rfl

/-! ## A shutdown while a request runs -/

/-- All requests are taken away, and another one is queued. -/
def shutdownAndQueue (reaching : Bool) (name : String) : (callers reaching).Script Unit :=
  .call .shutdown fun _ => queueAll reaching [name]

/-- A request runs and another one waits when both are taken away. -/
theorem shutdown_restarts_running :
    let queued := repeatedly step? 40
      ((Session.new () : Session (callers false)).begin (queueAll false ["first", "second"]))
    let past := visited 40 ((Session.new ()).begin (queueAll false ["first", "second"]))
    let session := queued.begin (shutdownAndQueue false "third")
    let after := session.advance (.script (shutdownAndQueue false "third")) []
    session.queue.entries = [⟨0, bytesOf "first"⟩, ⟨1, bytesOf "second"⟩] ∧
      session.queue.active = some 1 ∧ session.queue.outbox = [] ∧
      session.queue.delivering = false ∧ Restarted past session after := by
  have start : Run (.new () : Session (callers false)) [] (.new ()) := .refl
  have queued := start.play rfl (queueAll false ["first", "second"]) 40
  have begun := queued.input (.begin rfl (shutdownAndQueue false "third"))
  exact ⟨rfl, rfl, rfl, rfl, shutdown_restarts begun rfl⟩

end Session

end Sailplane.Download
