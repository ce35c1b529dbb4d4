import Sailplane.Proofs.Download.Effect.Move
import Sailplane.Proofs.Download.Steady

/-!
# Order among transfers

In every session that can come about the transfers and their turns go with the queue, and the log
tells how the transfers that have begun came to their end.
-/
namespace Sailplane.Download

/-! ## Changes of the queue -/

/-- Whether requests are queued only while one of them runs. -/
def Queue.Busy (queue : Queue) : Prop := queue.active = none → queue.entries = []

/-- To record a notice starts the first request if nothing runs. -/
theorem steady_record {queue : Queue} {notice : Notice} {stopped : Option Nat}
    {tasks : List Transfer} {turns : List Nat}
    (steady : Steady queue.entries queue.active queue.serial (halt stopped tasks)
      (summon stopped turns)) :
    Steady (queue.record notice stopped).queue.entries (queue.record notice stopped).queue.active
        (queue.record notice stopped).queue.serial ((queue.record notice stopped).tasks tasks)
        ((queue.record notice stopped).turns turns) ∧
      (queue.record notice stopped).queue.Busy := by
  obtain ⟨entries, active, serial, issued, outbox, delivering⟩ := queue
  cases active with
  | some running =>
    simp only [Queue.record, Queue.startHead, Change.tasks, Change.turns, Option.toList_none,
      List.map_nil, List.append_nil]
    exact ⟨steady, fun idle => absurd idle (by simp)⟩
  | none =>
    cases entries with
    | nil =>
      simp only [Queue.record, Queue.startHead, Change.tasks, Change.turns, Option.toList_none,
        List.map_nil, List.append_nil]
      exact ⟨steady, fun _ => rfl⟩
    | cons entry rest =>
      exact ⟨steady.launch, fun idle => absurd idle (by simp [Queue.record, Queue.startHead])⟩

/-- To queue a request keeps what runs, or starts that request. -/
theorem steady_enqueue {queue : Queue} {tasks : List Transfer} {turns : List Nat}
    (request : Request) (steady : Steady queue.entries queue.active queue.serial tasks turns) :
    Steady (queue.enqueue request).queue.entries (queue.enqueue request).queue.active
        (queue.enqueue request).queue.serial ((queue.enqueue request).tasks tasks)
        ((queue.enqueue request).turns turns) ∧
      (queue.enqueue request).queue.Busy := by
  refine steady_record (steady.behind fun running => ?_)
  obtain ⟨serial, runs⟩ := Option.ne_none_iff_exists'.mp running
  obtain ⟨_, _, _, _, _, head⟩ := steady.current serial runs
  cases entries : queue.entries with
  | nil =>
    rw [entries] at head
    exact absurd head (by simp)
  | cons first rest => rfl

/-- To cancel a request stops its transfer if it has one, and starts the next request then. -/
theorem steady_cancel {queue : Queue} {tasks : List Transfer} {turns : List Nat} {name : String}
    {change : Change} (found : queue.cancel? name = some change)
    (steady : Steady queue.entries queue.active queue.serial tasks turns) :
    Steady change.queue.entries change.queue.active change.queue.serial (change.tasks tasks)
        (change.turns turns) ∧
      change.queue.Busy := by
  obtain ⟨entry, first, rfl⟩ := Option.map_eq_some_iff.mp found
  dsimp only
  split
  · rename_i running
    rw [Bool.and_eq_true] at running
    obtain ⟨serial, runs⟩ := Option.isSome_iff_exists.mp running.2
    obtain ⟨rfl, _⟩ := steady.current serial runs
    rw [runs] at steady ⊢
    exact steady_record (steady.stop _)
  · rename_i other
    refine steady_record (steady.behind fun running => ?_)
    rw [Option.ne_none_iff_isSome.mp running, Bool.and_true, Bool.not_eq_true] at other
    cases entries : queue.entries with
    | nil => rfl
    | cons head rest =>
      rw [entries] at other
      have kept : (head.name == name) = false := by simpa using other
      rw [List.eraseP_cons_of_neg (by rw [kept]; exact Bool.false_ne_true)]
      rfl

/-- When the transfer that runs has ended, its request is taken away and the next one started. -/
theorem steady_complete {queue : Queue} {tasks : List Transfer} {turns : List Nat}
    {transfer : Transfer} {failure : Option Failure} {change : Change}
    (completed : queue.complete? transfer.serial failure = some change)
    (listed : transfer ∈ tasks) (fetching : transfer.phase = .fetching)
    (steady : Steady queue.entries queue.active queue.serial tasks turns) :
    (∃ entry rest, queue.entries = entry :: rest ∧ entry = transfer.entry ∧
      change.recorded = [.ending entry failure]) ∧
    Steady change.queue.entries change.queue.active change.queue.serial
        (change.tasks (changeAt transfer.serial .close tasks)) (change.turns turns) ∧
      change.queue.Busy := by
  rw [Queue.complete?] at completed
  split at completed
  · rename_i runs
    have head := (steady.running listed runs).2.2.2
    split at completed
    · rename_i none_queued
      rw [none_queued] at head
      exact absurd head (by simp)
    · rename_i entry rest queued
      obtain rfl := Option.some.inj completed
      rw [queued, List.head?_cons, Option.some.injEq] at head
      refine ⟨⟨entry, rest, queued, head, rfl⟩, steady_record ?_⟩
      have finished : Steady queue.entries none queue.serial
          (changeAt transfer.serial .close tasks) turns := by
        refine steady.close ?_ ?_
        · intro earlier before less
          exact steady.begun earlier before transfer listed less (by rw [fetching]; decide)
        · intro running
          rw [runs, Option.some.injEq]
          exact ⟨fun idle => absurd idle (by simp), fun both => absurd both.1.symm both.2⟩
      exact finished.behind fun idle => absurd rfl idle
  · exact absurd completed (by simp)

/-- A shutdown stops the transfer that runs, if one does, and leaves nothing queued. -/
theorem steady_shutdown {queue : Queue} {tasks : List Transfer} {turns : List Nat}
    (steady : Steady queue.entries queue.active queue.serial tasks turns) :
    Steady queue.shutdown.queue.entries queue.shutdown.queue.active queue.shutdown.queue.serial
        (queue.shutdown.tasks tasks) (queue.shutdown.turns turns) ∧
      queue.shutdown.queue.Busy := by
  refine ⟨?_, fun _ => rfl⟩
  rw [Change.tasks, Change.turns]
  cases active : queue.active with
  | none =>
    rw [active] at steady
    have cleared : Steady [] none queue.serial tasks turns :=
      steady.behind fun running => absurd rfl running
    simpa [Queue.shutdown, active, halt, summon] using cleared
  | some running =>
    obtain ⟨rfl, _⟩ := steady.current running active
    rw [active] at steady
    simpa [Queue.shutdown, active, halt, summon] using steady.stop []

/-! ## The log -/

section Log

variable {Listener Note : Type} {log seen : List (Observation Listener Note)}
  {tasks : List Transfer}

/-- What the log tells of the transfers. -/
structure Told (log : List (Observation Listener Note)) (tasks : List Transfer) : Prop where
  /-- A transfer that is over was stopped or has ended. -/
  finished : ∀ transfer ∈ tasks, transfer.phase = .closed →
    transfer.stopped = true ∨ ∃ failure, .ended (Session.launchOf transfer) failure ∈ log
  /-- A transfer that has begun is under way until it ends or is dropped. -/
  flown : ∀ launch, .started launch ∈ log →
    (∃ failure, .ended launch failure ∈ log) ∨ .dropped launch ∈ log ∨
      ∃ transfer ∈ tasks, Session.launchOf transfer = launch ∧ transfer.phase = .fetching

namespace Told

/-- Nothing was seen in the beginning. -/
theorem initial : Told ([] : List (Observation Listener Note)) [] :=
  ⟨fun _ listed => absurd listed List.not_mem_nil, fun _ began => absurd began List.not_mem_nil⟩

/-- More may be seen as long as no transfer begins. -/
theorem more (told : Told log tasks) (quiet : ∀ launch, .started launch ∉ seen) :
    Told (log ++ seen) tasks where
  finished := by
    intro transfer listed closed
    rcases told.finished transfer listed closed with stopped | ⟨failure, ended⟩
    · exact .inl stopped
    · exact .inr ⟨failure, List.mem_append_left _ ended⟩
  flown := by
    intro launch began
    rcases List.mem_append.mp began with before | now
    · rcases told.flown launch before with ⟨failure, ended⟩ | dropped | under
      · exact .inl ⟨failure, List.mem_append_left _ ended⟩
      · exact .inr (.inl (List.mem_append_left _ dropped))
      · exact .inr (.inr under)
    · exact absurd now (quiet launch)

/-- A change of the queue neither ends a transfer nor begins one. -/
theorem change (told : Told log tasks) (change : Change) : Told log (change.tasks tasks) where
  finished := by
    intro transfer listed closed
    rw [Change.tasks] at listed
    rcases List.mem_append.mp listed with old | new
    · cases stopped : change.stopped with
      | none =>
        rw [stopped] at old
        exact told.finished transfer old closed
      | some serial =>
        rw [stopped] at old
        rcases mem_changeAt.mp old with ⟨_, _, _, rfl⟩ | ⟨there, _⟩
        · exact .inl rfl
        · exact told.finished transfer there closed
    · obtain ⟨launch, _, rfl⟩ := List.mem_map.mp new
      exact Phase.noConfusion closed
  flown := by
    intro launch began
    rcases told.flown launch began with ended | dropped | ⟨transfer, listed, same, fetching⟩
    · exact .inl ended
    · exact .inr (.inl dropped)
    · refine .inr (.inr ?_)
      rw [Change.tasks]
      cases change.stopped with
      | none => exact ⟨transfer, List.mem_append_left _ listed, same, fetching⟩
      | some serial =>
        by_cases stopped : transfer.serial = serial
        · exact ⟨transfer.stop, List.mem_append_left _
            (mem_changeAt.mpr (.inl ⟨transfer, listed, stopped, rfl⟩)), same, fetching⟩
        · exact ⟨transfer, List.mem_append_left _
            (mem_changeAt.mpr (.inr ⟨listed, stopped⟩)), same, fetching⟩

/-- A transfer may be over if the log tells why. -/
theorem close (told : Told log tasks) {transfer : Transfer}
    (alone : ∀ other ∈ tasks, other.serial = transfer.serial → other = transfer)
    (reason : transfer.stopped = true ∨
      ∃ failure, .ended (Session.launchOf transfer) failure ∈ log)
    (landed : transfer.phase = .fetching →
      (∃ failure, .ended (Session.launchOf transfer) failure ∈ log) ∨
        .dropped (Session.launchOf transfer) ∈ log) :
    Told log (changeAt transfer.serial .close tasks) where
  finished := by
    intro other listed closed
    rcases mem_changeAt.mp listed with ⟨origin, there, same, rfl⟩ | ⟨there, _⟩
    · rw [alone origin there same]
      exact reason
    · exact told.finished other there closed
  flown := by
    intro launch began
    rcases told.flown launch began with ended | dropped | ⟨other, listed, same, fetching⟩
    · exact .inl ended
    · exact .inr (.inl dropped)
    · by_cases itself : other.serial = transfer.serial
      · rw [alone other listed itself] at same fetching
        rcases landed fetching with ended | dropped
        · exact .inl (same ▸ ended)
        · exact .inr (.inl (same ▸ dropped))
      · exact .inr (.inr ⟨other, mem_changeAt.mpr (.inr ⟨listed, itself⟩), same, fetching⟩)

/-- A transfer begins. -/
theorem enter (told : Told log tasks) {transfer : Transfer} (listed : transfer ∈ tasks) :
    Told (log ++ [.started (Session.launchOf transfer)])
      (changeAt transfer.serial .enter tasks) where
  finished := by
    intro other among closed
    rcases mem_changeAt.mp among with ⟨_, _, _, rfl⟩ | ⟨there, _⟩
    · exact Phase.noConfusion closed
    · rcases told.finished other there closed with stopped | ⟨failure, ended⟩
      · exact .inl stopped
      · exact .inr ⟨failure, List.mem_append_left _ ended⟩
  flown := by
    intro launch began
    rcases List.mem_append.mp began with before | now
    · rcases told.flown launch before with ⟨failure, ended⟩ | dropped | ⟨other, there, same, runs⟩
      · exact .inl ⟨failure, List.mem_append_left _ ended⟩
      · exact .inr (.inl (List.mem_append_left _ dropped))
      · refine .inr (.inr ?_)
        by_cases itself : other.serial = transfer.serial
        · exact ⟨other.enter, mem_changeAt.mpr (.inl ⟨other, there, itself, rfl⟩), same, rfl⟩
        · exact ⟨other, mem_changeAt.mpr (.inr ⟨there, itself⟩), same, runs⟩
    · rw [List.mem_singleton, Observation.started.injEq] at now
      exact .inr (.inr ⟨transfer.enter,
        mem_changeAt.mpr (.inl ⟨transfer, listed, rfl, rfl⟩), now.symm, rfl⟩)

end Told

end Log

/-! ## Sessions -/

namespace Session

variable {users : Users}

/-- Whether the transfers of a session go with its queue and with its log. -/
structure Orderly (session : Session users) : Prop where
  /-- The transfers and their turns go with the queue. -/
  steady : Steady session.queue.entries session.queue.active session.queue.serial session.tasks
    session.turns
  /-- Requests are queued only while one of them runs. -/
  busy : session.queue.Busy
  /-- The log tells of the transfers. -/
  told : Told session.log session.tasks

/-- No transfer begins among neutral observations. -/
theorem not_started_of_neutral {seen : List (Observation users.Listener users.Note)}
    (neutral : ∀ observation ∈ seen, observation.isNeutral = true) (launch : Launch) :
    .started launch ∉ seen := by
  intro began
  exact Bool.noConfusion (neutral _ began)

/-- No transfer begins among recorded notices. -/
theorem not_started_of_recorded (notices : List Notice) (launch : Launch) :
    (.started launch : Observation users.Listener users.Note) ∉
      notices.map .recorded := by
  intro began
  obtain ⟨_, _, same⟩ := List.mem_map.mp began
  cases same

/-- In the beginning everything is in order. -/
theorem orderly_new (state : users.State) : Orderly (.new state) :=
  ⟨Steady.initial, fun _ => rfl, Told.initial⟩

/-- A session whose parts go together is in order. -/
theorem Orderly.shifted {session next : Session users} {queue : Queue} {tasks : List Transfer}
    {turns : List Nat} {seen : List (Observation users.Listener users.Note)}
    (shift : Shift session next queue tasks turns seen)
    (steady : Steady queue.entries queue.active queue.serial tasks turns) (busy : queue.Busy)
    (told : Told (session.log ++ seen) tasks) : Orderly next := by
  refine ⟨?_, ?_, ?_⟩
  · rw [shift.queue, shift.tasks, shift.turns]
    exact steady
  · rw [shift.queue]
    exact busy
  · rw [shift.tasks, shift.log]
    exact told

/-- A change of the queue that goes with the transfers keeps everything in order. -/
theorem Orderly.changed {session next : Session users} {change : Change} {tasks : List Transfer}
    {seen : List (Observation users.Listener users.Note)}
    (changed : Changed session next change tasks seen)
    (steady : Steady change.queue.entries change.queue.active change.queue.serial
      (change.tasks tasks) (change.turns session.turns) ∧ change.queue.Busy)
    (told : Told (session.log ++ seen) tasks) : Orderly next := by
  refine Orderly.shifted changed steady.1 steady.2 ?_
  rw [← List.append_assoc]
  exact (told.more (not_started_of_recorded change.recorded)).change change

/-- A transfer that was stopped does not run for the queue. -/
theorem Orderly.stopped {session : Session users} (orderly : Orderly session)
    {transfer : Transfer} (listed : transfer ∈ session.tasks)
    (stopped : transfer.stopped = true) : session.queue.active ≠ some transfer.serial := by
  intro runs
  have kept := (orderly.steady.running listed runs).2.1
  rw [stopped] at kept
  exact Bool.noConfusion kept

/-- To close a transfer that does not run for the queue keeps what does. -/
theorem Orderly.close {session : Session users} (orderly : Orderly session)
    {transfer : Transfer} (inactive : session.queue.active ≠ some transfer.serial)
    (before : ∀ earlier ∈ session.tasks, earlier.serial < transfer.serial →
      earlier.phase = .closed) :
    Steady session.queue.entries session.queue.active session.queue.serial
      (changeAt transfer.serial .close session.tasks) session.turns := by
  refine orderly.steady.close before ?_
  intro running
  exact ⟨fun runs => ⟨runs, fun same => inactive (same ▸ runs)⟩, fun both => both.1⟩

/-- After a transfer was closed its turn may pass. -/
theorem pass_closed {entries : List Entry} {active : Option Nat} {serial turn : Nat}
    {tasks : List Transfer} {turns rest : List Nat}
    (steady : Steady entries active serial (changeAt turn .close tasks) turns)
    (first : turns = turn :: rest) :
    Steady entries active serial (changeAt turn .close tasks) rest := by
  refine steady.pass first ?_
  intro other listed same pending
  rcases mem_changeAt.mp listed with ⟨_, _, _, rfl⟩ | ⟨_, different⟩
  · exact absurd rfl pending
  · exact absurd same different

/-- Every effect keeps everything in order. -/
theorem Orderly.next {session next : Session users} {deed : Option (Deed users.Listener)}
    (orderly : Orderly session) (effect : Effect session deed next) : Orderly next := by
  have alone {transfer : Transfer} (listed : transfer ∈ session.tasks) :
      ∀ other ∈ session.tasks, other.serial = transfer.serial → other = transfer :=
    fun other there same => orderly.steady.unique there listed same
  have begun {transfer : Transfer} (listed : transfer ∈ session.tasks)
      (fetching : transfer.phase = .fetching) : ∀ earlier ∈ session.tasks,
        earlier.serial < transfer.serial → earlier.phase = .closed := by
    intro earlier before less
    exact orderly.steady.begun earlier before transfer listed less (by rw [fetching]; decide)
  have ⟨steady, busy, told⟩ := orderly
  cases effect with
  | still neutral shift =>
    exact Orderly.shifted shift steady busy (told.more (not_started_of_neutral neutral))
  | woken listed pending shift =>
    exact Orderly.shifted shift (steady.wake listed pending) busy (told.more (by simp))
  | rested empty shift => exact Orderly.shifted shift steady busy (told.more (by simp))
  | announced first shift => exact Orderly.shifted shift steady busy (told.more (by simp))
  | told shift => exact Orderly.shifted shift steady busy (told.more (by simp))
  | queued request changed =>
    exact Orderly.changed changed (steady_enqueue request steady) (told.more (by simp))
  | cancelled first found neutral changed =>
    exact Orderly.changed changed (steady_cancel found steady)
      (told.more (not_started_of_neutral neutral))
  | emptied shift =>
    have cleared := steady_shutdown steady
    exact Orderly.shifted shift cleared.1 cleared.2 ((told.more (by simp)).change _)
  | begun listed turn waiting kept shift =>
    exact Orderly.shifted shift (steady.enter listed turn waiting kept) busy (told.enter listed)
  | passed turn settled shift =>
    refine Orderly.shifted shift (steady.pass turn ?_) busy (told.more (by simp))
    intro transfer listed same pending
    obtain ⟨started, kept⟩ := settled transfer (same ▸ steady.found listed)
    refine ⟨started, kept ?_⟩
    cases phase : transfer.phase with
    | waiting => exact absurd phase started
    | fetching => rfl
    | closed => exact absurd phase pending
  | discarded listed turn waiting stopped shift =>
    have closed := orderly.close (orderly.stopped listed stopped)
      fun earlier before less => steady.closed_before_turn turn listed before less
    refine Orderly.shifted shift (pass_closed closed turn) busy
      (Told.close (told.more (by simp)) (alone listed) (.inl stopped) ?_)
    rw [waiting]
    exact fun fetching => Phase.noConfusion fetching
  | dropped listed turn fetching stopped shift =>
    have closed := orderly.close (orderly.stopped listed stopped) (begun listed fetching)
    refine Orderly.shifted shift ?_ busy
      (Told.close (told.more (by simp)) (alone listed) (.inl stopped) fun _ => .inr (by simp))
    rcases turn with turn | same
    · exact pass_closed closed turn
    · exact same ▸ closed
  | @outlived _ transfer failure listed fetching late running shift =>
    have inactive : session.queue.active ≠ some transfer.serial := by
      intro runs
      rw [Queue.complete?, if_pos runs] at late
      split at late <;> exact absurd late (by simp)
    exact Orderly.shifted shift (orderly.close inactive (begun listed fetching)) busy
      (Told.close (told.more (by simp)) (alone listed) (.inr ⟨failure, by simp⟩)
        fun _ => .inl ⟨failure, by simp⟩)
  | @finished _ transfer failure change listed fetching completed changed =>
    exact Orderly.changed changed (steady_complete completed listed fetching steady).2
      (Told.close (told.more (by simp)) (alone listed) (.inr ⟨failure, by simp⟩)
        fun _ => .inl ⟨failure, by simp⟩)

/-- Every session that can come about is in order. -/
theorem Reachable.orderly {session : Session users} (reachable : Reachable session) :
    Orderly session := by
  obtain ⟨state, past, run⟩ := reachable
  exact Run.induct (fun _ session => Orderly session) (orderly_new state)
    (fun _ _ _ _ _ orderly effect => orderly.next effect) run

end Session

end Sailplane.Download
