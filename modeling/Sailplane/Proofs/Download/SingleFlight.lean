import Sailplane.Proofs.Download.Orderly

/-!
# One transfer at a time

In every session that can come about something runs exactly while requests are queued, what runs is
the last transfer started and is for the first request, and at most one transfer is under way.

A session runs on one thread: a transfer that was stopped is not in the middle of a poll when the
next one begins.
-/
namespace Sailplane.Download.Session

variable {users : Users}

/-- What it means that a session runs one transfer at a time. -/
structure SingleFlight (session : Session users) : Prop where
  /-- Something runs exactly while requests are queued. -/
  occupied : session.queue.active.isSome = true ↔ session.queue.entries ≠ []
  /-- What runs is the last transfer started; it is for the first request, was not stopped and is
  not over. -/
  front : ∀ serial, session.queue.active = some serial → serial = session.queue.serial ∧
    ∃ transfer, session.transfer? serial = some transfer ∧
      session.queue.entries.head? = some transfer.entry ∧ transfer.stopped = false ∧
      transfer.phase ≠ .closed
  /-- Every other transfer has ended or was stopped. -/
  retired : ∀ transfer ∈ session.transfers, session.queue.active ≠ some transfer.serial →
    (∃ failure, .ended (launchOf transfer) failure ∈ session.log) ∨ transfer.stopped = true
  /-- The end of the transfer that runs finds its request in front and tells its result. -/
  tells : ∀ serial failure change, session.queue.complete? serial failure = some change →
    ∃ entry rest, session.queue.entries = entry :: rest ∧
      change.recorded = [.ending entry failure]
  /-- At most one transfer has begun and neither ended nor been dropped. -/
  alone : ∀ first second, session.InFlight first → session.InFlight second → first = second

/-- A transfer that is in flight is among those that run. -/
theorem Orderly.flying {session : Session users} (orderly : Orderly session) {launch : Launch}
    (flight : session.InFlight launch) :
    ∃ transfer ∈ session.tasks, launchOf transfer = launch ∧ transfer.phase = .fetching := by
  obtain ⟨began, running, held⟩ := flight
  rcases orderly.told.flown launch began with ⟨failure, ended⟩ | dropped | under
  · exact absurd ended (running failure)
  · exact absurd dropped held
  · exact under

/-- Every session that can come about runs one transfer at a time, for the first request. -/
theorem single_flight {session : Session users} (reachable : Reachable session) :
    SingleFlight session := by
  have orderly := reachable.orderly
  have ⟨steady, busy, told⟩ := orderly
  refine ⟨?_, ?_, ?_, ?_, ?_⟩
  · constructor
    · intro runs
      obtain ⟨serial, active⟩ := Option.isSome_iff_exists.mp runs
      obtain ⟨_, _, _, _, _, head⟩ := steady.current serial active
      intro empty
      rw [empty] at head
      exact absurd head (by simp)
    · intro queued
      by_contra idle
      exact queued (busy (Option.not_isSome_iff_eq_none.mp idle))
  · intro serial active
    obtain ⟨last, task, found, kept, pending, head⟩ := steady.current serial active
    rw [taskAt_tasks] at found
    obtain ⟨transfer, stored, rfl⟩ := Option.map_eq_some_iff.mp found
    exact ⟨last, transfer, stored, head, kept, pending⟩
  · intro transfer listed inactive
    have among : transfer.bare ∈ session.tasks := List.mem_map_of_mem listed
    rcases steady.settled transfer.bare among inactive with stopped | closed
    · exact .inr stopped
    · exact (told.finished transfer.bare among closed).symm
  · intro serial failure change completed
    rw [Queue.complete?] at completed
    split at completed
    · rename_i active
      obtain ⟨_, _, _, _, _, head⟩ := steady.current serial active
      cases queued : session.queue.entries with
      | nil =>
        rw [queued] at head
        exact absurd head (by simp)
      | cons entry rest =>
        rw [queued] at completed
        obtain rfl := Option.some.inj completed
        exact ⟨entry, rest, rfl, rfl⟩
    · exact absurd completed (by simp)
  · intro first second one two
    obtain ⟨left, leftListed, rfl, leftRuns⟩ := orderly.flying one
    obtain ⟨right, rightListed, rfl, rightRuns⟩ := orderly.flying two
    rw [steady.single leftListed rightListed leftRuns rightRuns]

/-! ## A cancelled transfer beside the next one -/

/-- The second transfer is started while the first one, which was cancelled, has yet to be
dropped. -/
def crossing : Session (callers false) :=
  let waiting := repeatedly step? 40 ((Session.new ()).begin (queueAll false ["first", "second"]))
  repeatedly step? 5 (waiting.begin (cancelOne false "first"))

/-- A transfer that was cancelled and has yet to be dropped is the only one in flight. -/
theorem single_flight_crossing :
    crossing.queue.active = some 2 ∧
      (crossing.transfers.map fun transfer => (transfer.stopped, transfer.phase)) =
        [(true, .fetching), (false, .waiting)] ∧
      SingleFlight crossing := by
  have start : Run (.new () : Session (callers false)) [] (.new ()) := .refl
  have waiting := start.play rfl (queueAll false ["first", "second"]) 40
  exact ⟨rfl, rfl, single_flight ⟨(), _, waiting.play rfl (cancelOne false "first") 5⟩⟩

end Sailplane.Download.Session
