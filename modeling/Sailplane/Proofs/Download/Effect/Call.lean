import Sailplane.Proofs.Download.Effect

/-!
# The effects of calls

Every call of a script has the effect that its deed names, and every other call leaves the queue
and the transfers alone.
-/
namespace Sailplane.Download

namespace Session

variable {users : Users}

/-- A call that queues a request has that effect. -/
theorem sound_enqueue (session : Session users) (request : Request)
    (next : Unit → users.Script Unit) (rest : List (Frame users))
    (stack : session.stack = .script (.call (.enqueue request) next) :: rest)
    (below : Nested session.tasks session.queue.delivering rest) :
    Sound session session.deed?
      (session.advance (.script (.call (.enqueue request) next)) rest) := by
  have deed : session.deed? = some (.queued request) := by
    simp only [deed?, asked?, call?, stack]
  have changed := shift_applyAndDeliver session (session.queue.enqueue request)
  rw [deed]
  exact ⟨.queued request ⟨changed.queue, changed.tasks, changed.turns, changed.log⟩,
    nested_changed session (session.queue.enqueue request) (record_delivering _ _ _)
      (.script (next ()) below) rfl (congrArg Queue.delivering changed.queue) rfl⟩

/-- A call that cancels a request has that effect, or none if there is no such request. -/
theorem sound_cancel_call (session : Session users) (name : String)
    (next : Bool → users.Script Unit) (rest : List (Frame users))
    (stack : session.stack = .script (.call (.cancel name) next) :: rest)
    (below : Nested session.tasks session.queue.delivering rest) :
    Sound session session.deed? (session.advance (.script (.call (.cancel name) next)) rest) := by
  have call : session.call? = some (.cancel name) := by simp only [call?, stack]
  cases found : session.queue.cancel? name with
  | none =>
    have missing := Option.map_eq_none_iff.mp found
    have after : session.advance (.script (.call (.cancel name) next)) rest =
        { session with stack := .script (next false) :: rest } := by
      simp only [advance, perform, found, List.nil_append]
    rw [after]
    exact sound_aside (by simp only [deed?, asked?, stack, call, missing, Option.map_none])
      rfl rfl rfl rfl (.script (next false) below)
  | some change =>
    obtain ⟨entry, first, _⟩ := Option.map_eq_some_iff.mp found
    have deed : session.deed? = some (.cancelled entry) := by
      simp only [deed?, asked?, stack, call, first, Option.map_some]
    have after : session.advance (.script (.call (.cancel name) next)) rest =
        { (session.applyAndDeliver change).2 with
          stack := (session.applyAndDeliver change).1 ++ .script (next true) :: rest } := by
      simp only [advance, perform, found]
    have shifted := shift_applyAndDeliver session change
    have changed : Changed session (session.advance (.script (.call (.cancel name) next)) rest)
        change session.tasks [] := by
      rw [after]
      exact ⟨shifted.queue, shifted.tasks, shifted.turns, shifted.log⟩
    rw [deed]
    refine ⟨.cancelled first found (fun _ seen => absurd seen List.not_mem_nil) changed,
      nested_changed session change (cancel_delivering found) (.script (next true) below) ?_
        (congrArg Queue.delivering changed.queue) ?_⟩
    · rw [after]
      rfl
    · rw [after]

/-- A call that takes all requests away has that effect. -/
theorem sound_shutdown (session : Session users) (next : Unit → users.Script Unit)
    (rest : List (Frame users))
    (stack : session.stack = .script (.call .shutdown next) :: rest)
    (below : Nested session.tasks session.queue.delivering rest) :
    Sound session session.deed? (session.advance (.script (.call .shutdown next)) rest) := by
  have deed : session.deed? = some (.emptied session.queue.entries) := by
    simp only [deed?, asked?, call?, stack]
  have emptied := shift_apply (session.see (.emptied session.queue.entries))
    session.queue.shutdown
  have tasks : session.empty.wake.tasks = session.queue.shutdown.tasks session.tasks :=
    emptied.tasks
  have queue : session.empty.wake.queue = session.queue.shutdown.queue := emptied.queue
  rw [deed]
  refine ⟨.emptied ⟨queue, tasks, (turns_wake _).trans emptied.turns, ?_⟩, .script (next ()) ?_⟩
  · exact emptied.log.trans (List.append_nil _)
  · change Nested session.empty.wake.tasks session.empty.wake.queue.delivering rest
    rw [tasks, queue]
    exact below.carry (carries_change session.tasks session.queue.shutdown)

/-- A call that sends a message gives the transfer that runs a turn, if one runs. -/
theorem sound_signal (session : Session users) (message : List Signal)
    (next : Unit → users.Script Unit) (rest : List (Frame users))
    (stack : session.stack = .script (.call (.signal message) next) :: rest)
    (below : Nested session.tasks session.queue.delivering rest) :
    Sound session session.deed?
      (session.advance (.script (.call (.signal message) next)) rest) := by
  have deed : session.deed? = none := by simp only [deed?, asked?, call?, stack]
  cases receiver : session.fetching? with
  | none =>
    have after : session.advance (.script (.call (.signal message) next)) rest =
        { session with stack := .script (next ()) :: rest } := by
      simp only [advance, perform, receiver, List.nil_append]
    rw [after]
    exact sound_aside deed rfl rfl rfl rfl (.script (next ()) below)
  | some transfer =>
    have after : session.advance (.script (.call (.signal message) next)) rest =
        { session.post transfer.serial message with stack := .script (next ()) :: rest } := by
      simp only [advance, perform, receiver, List.nil_append]
    have listed := List.mem_reverse.mp (List.mem_of_find?_eq_some receiver)
    have fetching : transfer.phase = .fetching := by
      simpa using List.find?_some receiver
    have pending : transfer.bare.phase ≠ .closed := by
      rw [show transfer.bare.phase = transfer.phase from rfl, fetching]
      decide
    have posted := shift_post session transfer.serial message
    rw [deed, after]
    refine ⟨.woken (List.mem_map_of_mem listed) pending
      ⟨posted.queue, posted.tasks, posted.turns, posted.log⟩, .script (next ()) ?_⟩
    change Nested (session.post transfer.serial message).tasks
      (session.post transfer.serial message).queue.delivering rest
    rw [posted.tasks, posted.queue]
    exact below

/-- A call of a script has the effect of its deed. -/
theorem sound_call (session : Session users) (operation : Operation users.Listener)
    (next : operation.Reply → users.Script Unit) (rest : List (Frame users))
    (stack : session.stack = .script (.call operation next) :: rest)
    (below : Nested session.tasks session.queue.delivering rest) :
    Sound session session.deed? (session.advance (.script (.call operation next)) rest) := by
  have call : session.call? = some operation := by simp only [call?, stack]
  cases operation with
  | enqueue request => exact sound_enqueue session request next rest stack below
  | cancel name => exact sound_cancel_call session name next rest stack below
  | shutdown => exact sound_shutdown session next rest stack below
  | signal message => exact sound_signal session message next rest stack below
  | enumerate listener =>
    exact sound_aside (by simp only [deed?, asked?, stack, call]) rfl rfl rfl rfl
      (.tell _ (.script _ below))
  | watchIdle label =>
    have turns : (session.advance (.script (.call (.watchIdle label) next)) rest).turns =
        session.turns := by
      simp [advance, perform, turns, Job.serial?]
    exact sound_aside (by simp only [deed?, asked?, stack, call]) rfl rfl turns rfl
      (.script _ below)
  | entries | isIdle | newSlot | register listener | unregister number | readSlot slot
  | takeSlot slot =>
    exact sound_aside (by simp only [deed?, asked?, stack, call]) rfl rfl rfl rfl
      (.script _ below)

end Session

end Sailplane.Download
