import Sailplane.Proofs.Download.Line

/-!
# First come, first served

Transfers begin in the order in which their requests were queued, each at most once, and each only
after all earlier requests are over. Results are told in that order, too. A session runs on one
thread, so that no call comes while a transfer begins.
-/
namespace Sailplane.Download

/-- The request whose result a notice tells. -/
def Notice.outcome? : Notice → Option Entry
  | complete entry => some entry
  | error entry (some _) => some entry
  | _ => none

/-- The notice that a request is over with a result tells the result of that request. -/
theorem outcome_ending (entry : Entry) (failure : Option Failure) :
    (Notice.ending entry failure).outcome? = some entry := by
  cases failure with
  | none => rfl
  | some failure => rfl

/-- A notice that tells the result of a request is about that request. -/
theorem entry_of_outcome {notice : Notice} {entry : Entry} (told : notice.outcome? = some entry) :
    notice.entry = entry := by
  cases notice with
  | added other => exact absurd told (by simp [Notice.outcome?])
  | complete other => exact Option.some.inj told
  | error other failure =>
    cases failure with
    | none => exact absurd told (by simp [Notice.outcome?])
    | some failure => exact Option.some.inj told

section Log

variable {Listener Note : Type} {log seen : List (Observation Listener Note)}
  {tasks : List Transfer} {requests dropped : List Entry}

/-- Nothing that is not the beginning of a transfer is among the transfers begun. -/
theorem started_eq_nil (quiet : ∀ launch, .started launch ∉ seen) :
    seen.filterMap Observation.started? = [] := by
  rw [List.filterMap_eq_nil_iff]
  intro observation listed
  cases observation with
  | started launch => exact absurd listed (quiet launch)
  | _ => rfl

/-- A beginning that is seen with others that are none was seen before. -/
theorem started_before {before after : List (Observation Listener Note)} {launch : Launch}
    (quiet : ∀ launch, .started launch ∉ seen)
    (split : log ++ seen = before ++ .started launch :: after) :
    ∃ rest, log = before ++ .started launch :: rest := by
  rcases List.append_eq_append_iff.mp split with ⟨middle, rfl, more⟩ | ⟨middle, rfl, more⟩
  · refine absurd ?_ (quiet launch)
    rw [more]
    exact List.mem_append_right _ List.mem_cons_self
  · cases middle with
    | nil =>
      rw [List.nil_append] at more
      refine absurd ?_ (quiet launch)
      rw [← more]
      exact List.mem_cons_self
    | cons observation rest =>
      rw [List.cons_append, List.cons.injEq] at more
      rw [← more.1]
      exact ⟨rest, rfl⟩

/-! ## What has begun -/

/-- What the log tells of the transfers that have begun. -/
structure Begun (log : List (Observation Listener Note)) (tasks : List Transfer) : Prop where
  /-- They are among the transfers and do not wait to begin. -/
  launched : ∀ launch ∈ log.filterMap Observation.started?,
    ∃ transfer ∈ tasks, Session.launchOf transfer = launch ∧ transfer.phase ≠ .waiting
  /-- They have begun in the order of their serials. -/
  ordered : (log.filterMap Observation.started?).Pairwise fun first second =>
    first.serial < second.serial

namespace Begun

/-- Nothing has begun in the beginning. -/
theorem initial : Begun ([] : List (Observation Listener Note)) [] :=
  ⟨fun _ listed => absurd listed List.not_mem_nil, .nil⟩

/-- More may be seen as long as no transfer begins. -/
theorem more (begun : Begun log tasks) (quiet : ∀ launch, .started launch ∉ seen) :
    Begun (log ++ seen) tasks := by
  have same : (log ++ seen).filterMap Observation.started? =
      log.filterMap Observation.started? := by
    rw [List.filterMap_append, started_eq_nil quiet, List.append_nil]
  refine ⟨?_, ?_⟩
  · rw [same]
    exact begun.launched
  · rw [same]
    exact begun.ordered

/-- A transfer may change as long as it remains one that has begun. -/
theorem changeAt (begun : Begun log tasks) (serial : Nat) (change : Transfer → Transfer)
    (launches : ∀ transfer, Session.launchOf (change transfer) = Session.launchOf transfer)
    (phases : ∀ transfer, transfer.phase ≠ .waiting → (change transfer).phase ≠ .waiting) :
    Begun log (changeAt serial change tasks) := by
  refine ⟨?_, begun.ordered⟩
  intro launch listed
  obtain ⟨transfer, there, same, began⟩ := begun.launched launch listed
  by_cases chosen : transfer.serial = serial
  · exact ⟨change transfer, mem_changeAt.mpr (.inl ⟨transfer, there, chosen, rfl⟩),
      (launches transfer).trans same, phases transfer began⟩
  · exact ⟨transfer, mem_changeAt.mpr (.inr ⟨there, chosen⟩), same, began⟩

/-- A change of the queue begins no transfer. -/
theorem change (begun : Begun log tasks) (change : Change) : Begun log (change.tasks tasks) := by
  have halted : Begun log (halt change.stopped tasks) := by
    cases change.stopped with
    | none => exact begun
    | some serial => exact begun.changeAt serial .stop (fun _ => rfl) fun _ began => began
  refine ⟨?_, begun.ordered⟩
  intro launch listed
  obtain ⟨transfer, there, same, began⟩ := halted.launched launch listed
  exact ⟨transfer, List.mem_append_left _ there, same, began⟩

/-- The last transfer begins. -/
theorem enter (begun : Begun log tasks) {transfer : Transfer} (listed : transfer ∈ tasks)
    (waiting : transfer.phase = .waiting)
    (alone : ∀ other ∈ tasks, other.serial = transfer.serial → other = transfer)
    (last : ∀ other ∈ tasks, other.serial ≤ transfer.serial) :
    Begun (log ++ [.started (Session.launchOf transfer)])
      (Download.changeAt transfer.serial .enter tasks) := by
  have grown : (log ++ [Observation.started (Session.launchOf transfer)]).filterMap
      Observation.started? = log.filterMap Observation.started? ++ [Session.launchOf transfer] := by
    rw [List.filterMap_append]
    rfl
  have entered := begun.changeAt transfer.serial .enter (fun _ => rfl)
    fun _ _ waits => Phase.noConfusion waits
  refine ⟨?_, ?_⟩
  · rw [grown]
    intro launch among
    rcases List.mem_append.mp among with old | new
    · exact entered.launched launch old
    · rw [List.mem_singleton.mp new]
      exact ⟨transfer.enter, mem_changeAt.mpr (.inl ⟨transfer, listed, rfl, rfl⟩), rfl,
        fun waits => Phase.noConfusion waits⟩
  · rw [grown, List.pairwise_append]
    refine ⟨begun.ordered, List.pairwise_singleton _ _, ?_⟩
    intro launch old other new
    obtain ⟨earlier, there, same, began⟩ := begun.launched launch old
    have bound := last earlier there
    have different : earlier.serial ≠ transfer.serial := by
      intro equal
      rw [alone earlier there equal] at began
      exact began waiting
    have serial : launch.serial = earlier.serial := by rw [← same]; rfl
    have top : (Session.launchOf transfer).serial = transfer.serial := rfl
    rw [List.mem_singleton.mp new]
    omega

end Begun

/-! ## What came before -/

/-- Whether all requests before that of a transfer were over, or taken away, when it began. -/
def Preceded (log : List (Observation Listener Note)) (requests dropped : List Entry) : Prop :=
  ∀ before launch after, log = before ++ .started launch :: after →
    ∀ entry ∈ requests, Sooner entry launch.entry →
      entry ∈ ended (before.filterMap Observation.recorded?) ∨ entry ∈ dropped

namespace Preceded

/-- More may be seen as long as no transfer begins. -/
theorem more (preceded : Preceded log requests dropped)
    (quiet : ∀ launch, .started launch ∉ seen) : Preceded (log ++ seen) requests dropped := by
  intro before launch after split
  obtain ⟨rest, earlier⟩ := started_before quiet split
  exact preceded before launch rest earlier

/-- A request may be queued that comes after those of all transfers that have begun. -/
theorem join (preceded : Preceded log requests dropped) {entry : Entry}
    (late : ∀ launch, .started launch ∈ log → Sooner launch.entry entry) :
    Preceded log (requests ++ [entry]) dropped := by
  intro before launch after split other listed sooner
  rcases List.mem_append.mp listed with old | new
  · exact preceded before launch after split other old sooner
  · have began : .started launch ∈ log := by
      rw [split]
      exact List.mem_append_right _ List.mem_cons_self
    rw [List.mem_singleton.mp new] at sooner
    exact absurd (Nat.lt_trans sooner (late launch began)) (Nat.lt_irrefl _)

/-- Requests may be taken away. -/
theorem clear (preceded : Preceded log requests dropped) (gone : List Entry) :
    Preceded log requests (dropped ++ gone) := by
  intro before launch after split entry listed sooner
  exact (preceded before launch after split entry listed sooner).imp_right
    (List.mem_append_left _)

/-- A transfer may begin if all requests before its own are over or were taken away. -/
theorem enter (preceded : Preceded log requests dropped) (launch : Launch)
    (finished : ∀ entry ∈ requests, Sooner entry launch.entry →
      entry ∈ ended (log.filterMap Observation.recorded?) ∨ entry ∈ dropped) :
    Preceded (log ++ [.started launch]) requests dropped := by
  intro before other after split
  rcases List.eq_nil_or_concat after with rfl | ⟨rest, final, rfl⟩
  · obtain ⟨same, ends⟩ := List.append_inj' split rfl
    rw [List.cons.injEq, Observation.started.injEq] at ends
    rw [← same, ← ends.1]
    exact finished
  · rw [List.concat_eq_append, ← List.cons_append, ← List.append_assoc] at split
    exact preceded before other rest (List.append_inj' split rfl).1

end Preceded

end Log

/-! ## What results were told -/

/-- Whether results were told in the order of the requests, all of which came before those that
wait. -/
structure Outcomes (notices : List Notice) (queue : List Entry) : Prop where
  /-- Results were told in the order of the requests. -/
  ordered : (notices.filterMap Notice.outcome?).Pairwise Sooner
  /-- No request that waits came before one whose result was told. -/
  ahead : ∀ entry ∈ notices.filterMap Notice.outcome?, ∀ waiting ∈ queue, Sooner entry waiting

namespace Outcomes

variable {notices : List Notice} {queue others : List Entry}

/-- In the beginning no results were told. -/
theorem initial : Outcomes [] [] :=
  ⟨.nil, fun _ listed => absurd listed List.not_mem_nil⟩

/-- A notice that tells no result may be recorded while requests leave the queue. -/
theorem silent (outcomes : Outcomes notices queue) {notice : Notice}
    (none : notice.outcome? = none) (fewer : ∀ entry ∈ others, entry ∈ queue) :
    Outcomes (notices ++ [notice]) others := by
  have same : (notices ++ [notice]).filterMap Notice.outcome? =
      notices.filterMap Notice.outcome? := by
    rw [List.filterMap_append, List.filterMap_cons_none none, List.filterMap_nil, List.append_nil]
  refine ⟨?_, ?_⟩
  · rw [same]
    exact outcomes.ordered
  · rw [same]
    exact fun entry told waiting listed => outcomes.ahead entry told waiting (fewer waiting listed)

/-- A request may join behind all whose results were told. -/
theorem join (outcomes : Outcomes notices queue) {entry : Entry}
    (last : ∀ other ∈ notices.filterMap Notice.outcome?, Sooner other entry) :
    Outcomes notices (queue ++ [entry]) := by
  refine ⟨outcomes.ordered, ?_⟩
  intro other told waiting listed
  rcases List.mem_append.mp listed with old | new
  · exact outcomes.ahead other told waiting old
  · rw [List.mem_singleton.mp new]
    exact last other told

/-- The result of the first request may be told as that leaves the queue. -/
theorem finish {entry : Entry} {rest : List Entry} (outcomes : Outcomes notices (entry :: rest))
    (sorted : (entry :: rest).Pairwise Sooner) (failure : Option Failure) :
    Outcomes (notices ++ [.ending entry failure]) rest := by
  have grown : (notices ++ [Notice.ending entry failure]).filterMap Notice.outcome? =
      notices.filterMap Notice.outcome? ++ [entry] := by
    rw [List.filterMap_append, List.filterMap_cons_some (outcome_ending entry failure),
      List.filterMap_nil]
  refine ⟨?_, ?_⟩
  · rw [grown, List.pairwise_append]
    refine ⟨outcomes.ordered, List.pairwise_singleton _ _, ?_⟩
    intro other told last final
    rw [List.mem_singleton.mp final]
    exact outcomes.ahead other told entry List.mem_cons_self
  · rw [grown]
    intro other told waiting listed
    rcases List.mem_append.mp told with old | new
    · exact outcomes.ahead other old waiting (List.mem_cons_of_mem _ listed)
    · rw [List.mem_singleton.mp new]
      exact (List.pairwise_cons.mp sorted).1 waiting listed

end Outcomes

/-! ## Sessions -/

namespace Session

variable {users : Users}

/-- What was taken away goes on with what is taken away. -/
theorem dropped_append (deeds more : List (Deed users.Listener)) :
    dropped (deeds ++ more) = dropped deeds ++ dropped more :=
  List.flatMap_append

/-- Whether a session serves its requests in the order in which they came. -/
structure InLine (deeds : List (Deed users.Listener)) (session : Session users) : Prop where
  /-- The ledger is right. -/
  booked : Booked deeds session
  /-- Transfers were started in the order of the requests. -/
  line : Line (enqueued deeds) session.queue.entries session.queue.active session.tasks
  /-- Transfers have begun in the order in which they were started. -/
  begun : Begun session.log session.tasks
  /-- When a transfer began all earlier requests were over or had been taken away. -/
  preceded : Preceded session.log (enqueued deeds) (dropped deeds)
  /-- Results were told in the order of the requests. -/
  outcomes : Outcomes session.recorded session.queue.entries

/-- In the beginning nothing is in line. -/
theorem inLine_new (state : users.State) : InLine [] (.new state) where
  booked := booked_new state
  line := Line.initial
  begun := Begun.initial
  preceded := fun _ _ _ split => absurd split (by simp [Session.new])
  outcomes := Outcomes.initial

/-- A transfer that runs for the queue is for the first request. -/
theorem InLine.front {deeds : List (Deed users.Listener)} {session : Session users}
    (inLine : InLine deeds session) : ∀ transfer ∈ session.tasks,
      session.queue.active = some transfer.serial →
        session.queue.entries.head? = some transfer.entry :=
  fun _ listed runs => (inLine.booked.orderly.steady.running listed runs).2.2.2

/-- No transfer has a higher serial than the one that was started last. -/
theorem InLine.bounded {deeds : List (Deed users.Listener)} {session : Session users}
    (inLine : InLine deeds session) :
    ∀ transfer ∈ session.tasks, transfer.serial ≤ session.queue.serial :=
  fun _ listed => inLine.booked.orderly.steady.serial_le listed

/-- The requests that wait were queued. -/
theorem InLine.queued {deeds : List (Deed users.Listener)} {session : Session users}
    (inLine : InLine deeds session) :
    ∀ entry ∈ session.queue.entries, entry ∈ enqueued deeds :=
  fun _ listed => (inLine.booked.balanced.mem_queue.mp listed).1

/-- What leaves the requests alone leaves the line alone. -/
theorem InLine.aside {deeds : List (Deed users.Listener)} {session next : Session users}
    {deed : Option (Deed users.Listener)} {queue : Queue} {tasks : List Transfer}
    {turns : List Nat} {seen : List (Observation users.Listener users.Note)}
    (inLine : InLine deeds session) (booked : Booked (deeds ++ deed.toList) next)
    (aside : Aside deed) (shift : Shift session next queue tasks turns seen)
    (entries : queue.entries = session.queue.entries)
    (active : queue.active = session.queue.active)
    (unrecorded : seen.filterMap Observation.recorded? = [])
    (quiet : ∀ launch, .started launch ∉ seen)
    (line : Line (enqueued deeds) session.queue.entries session.queue.active tasks)
    (begun : Begun session.log tasks) : InLine (deeds ++ deed.toList) next where
  booked := booked
  line := by
    rw [enqueued_append _ _ aside.1, shift.queue, shift.tasks, entries, active]
    exact line
  begun := by
    rw [shift.log, shift.tasks]
    exact begun.more quiet
  preceded := by
    rw [enqueued_append _ _ aside.1, dropped_append, aside.2.2, List.append_nil, shift.log]
    exact inLine.preceded.more quiet
  outcomes := by
    rw [Shift.recorded shift, unrecorded, List.append_nil, shift.queue, entries]
    exact inLine.outcomes

/-- Among the observations of a change of the queue no transfer begins. -/
theorem not_started_of_changed {seen : List (Observation users.Listener users.Note)}
    (quiet : ∀ launch, .started launch ∉ seen) (notices : List Notice) (launch : Launch) :
    .started launch ∉ seen ++ notices.map .recorded := by
  rw [List.mem_append, not_or]
  exact ⟨quiet launch, not_started_of_recorded notices launch⟩

/-- Requests whose results were told have lower tickets than the next one. -/
theorem InLine.outcome_lt {deeds : List (Deed users.Listener)} {session : Session users}
    (inLine : InLine deeds session) {entry : Entry}
    (told : entry ∈ session.recorded.filterMap Notice.outcome?) :
    entry.ticket < (enqueued deeds).length := by
  obtain ⟨notice, listed, outcome⟩ := List.mem_filterMap.mp told
  rw [← entry_of_outcome outcome]
  exact inLine.booked.balanced.ticket_lt (inLine.booked.balanced.known notice listed)

/-- Requests of transfers that have begun have lower tickets than the next one. -/
theorem InLine.begun_lt {deeds : List (Deed users.Listener)} {session : Session users}
    (inLine : InLine deeds session) {launch : Launch} (began : .started launch ∈ session.log) :
    launch.entry.ticket < (enqueued deeds).length := by
  obtain ⟨transfer, listed, same, _⟩ :=
    inLine.begun.launched launch (List.mem_filterMap.mpr ⟨_, began, rfl⟩)
  have asked := inLine.line.asked transfer listed
  rw [← same]
  exact inLine.booked.balanced.ticket_lt asked

/-- A request that is queued is last in line. -/
theorem InLine.join {deeds : List (Deed users.Listener)} {session next : Session users}
    (inLine : InLine deeds session) (request : Request)
    (booked : Booked (deeds ++ [.queued request]) next)
    (changed : Changed session next (session.queue.enqueue request) session.tasks []) :
    InLine (deeds ++ [.queued request]) next := by
  have issued := inLine.booked.issued
  have requests : enqueued (deeds ++ [.queued request]) =
      enqueued deeds ++ [⟨session.queue.issued, request⟩] := by
    rw [enqueued_queued, issued]
  have last : ∀ other ∈ enqueued deeds, Sooner other ⟨session.queue.issued, request⟩ := by
    intro other listed
    rw [Sooner, issued]
    exact inLine.booked.balanced.ticket_lt listed
  have yields := yields_enqueue session.queue request
  refine ⟨booked, ?_, ?_, ?_, ?_⟩
  · rw [requests, changed.queue, changed.tasks]
    exact line_enqueue request inLine.line inLine.queued inLine.bounded last
  · rw [changed.log, changed.tasks]
    exact (inLine.begun.more (not_started_of_recorded _)).change _
  · rw [requests, dropped_append, changed.log]
    refine Preceded.more ?_ (not_started_of_recorded _)
    refine (inLine.preceded.clear (dropped [Deed.queued request])).join ?_
    intro launch began
    rw [Sooner, issued]
    exact inLine.begun_lt began
  · rw [Changed.recorded changed rfl, yields.recorded, changed.queue]
    change Outcomes _ (session.queue.enqueue request).queue.entries
    rw [yields.entries]
    refine (inLine.outcomes.join ?_).silent rfl fun _ listed => listed
    intro other told
    rw [Sooner, issued]
    exact inLine.outcome_lt told

/-- A request that is cancelled leaves the line. -/
theorem InLine.leave {deeds : List (Deed users.Listener)} {session next : Session users}
    {name : String} {entry : Entry} {change : Change}
    {seen : List (Observation users.Listener users.Note)} (inLine : InLine deeds session)
    (booked : Booked (deeds ++ [.cancelled entry]) next)
    (first : (session.queue.entries.find? fun entry => entry.name == name) = some entry)
    (found : session.queue.cancel? name = some change)
    (neutral : ∀ observation ∈ seen, observation.isNeutral = true)
    (changed : Changed session next change session.tasks seen) :
    InLine (deeds ++ [.cancelled entry]) next := by
  have quiet := not_started_of_changed (not_started_of_neutral neutral) change.recorded
  have yields := yields_cancel first found
  refine ⟨booked, ?_, ?_, ?_, ?_⟩
  · rw [enqueued_append _ _ rfl, changed.queue, changed.tasks]
    exact line_cancel found inLine.line inLine.queued inLine.bounded inLine.booked.balanced.sorted
      inLine.front
  · rw [changed.log, changed.tasks]
    exact (inLine.begun.more quiet).change change
  · rw [enqueued_append _ _ rfl, dropped_append, changed.log]
    exact (inLine.preceded.clear _).more quiet
  · rw [Changed.recorded changed (recorded_of_neutral neutral), yields.recorded, changed.queue]
    change Outcomes _ change.queue.entries
    rw [yields.entries]
    exact inLine.outcomes.silent rfl fun _ listed => List.mem_of_mem_erase listed

/-- After a shutdown nobody is in line. -/
theorem InLine.clear {deeds : List (Deed users.Listener)} {session next : Session users}
    (inLine : InLine deeds session)
    (booked : Booked (deeds ++ [.emptied session.queue.entries]) next)
    (shift : Shift session next session.queue.shutdown.queue
      (session.queue.shutdown.tasks session.tasks) (session.queue.shutdown.turns session.turns)
      [.emptied session.queue.entries]) :
    InLine (deeds ++ [.emptied session.queue.entries]) next := by
  refine ⟨booked, ?_, ?_, ?_, ?_⟩
  · rw [enqueued_append _ _ rfl, shift.queue, shift.tasks, Change.tasks]
    simp only [Queue.shutdown, Option.toList_none, List.map_nil, List.append_nil]
    refine (inLine.line.halt session.queue.active).narrow ?_ ?_
    · exact fun entry listed => absurd listed List.not_mem_nil
    · exact fun _ _ _ _ entry listed => absurd listed List.not_mem_nil
  · rw [shift.log, shift.tasks]
    exact (inLine.begun.more (by simp)).change _
  · rw [enqueued_append _ _ rfl, dropped_append, shift.log]
    exact (inLine.preceded.clear _).more (by simp)
  · have unrecorded : [(.emptied session.queue.entries : Observation users.Listener
        users.Note)].filterMap Observation.recorded? = [] := rfl
    rw [Shift.recorded shift, unrecorded, List.append_nil]
    refine ⟨inLine.outcomes.ordered, ?_⟩
    rw [shift.queue]
    exact fun _ _ _ listed => absurd listed List.not_mem_nil

/-- The first request leaves the line when its transfer has ended. -/
theorem InLine.finish {deeds : List (Deed users.Listener)} {session next : Session users}
    {transfer : Transfer} {failure : Option Failure} {change : Change}
    (inLine : InLine deeds session) (booked : Booked (deeds ++ []) next)
    (listed : transfer ∈ session.tasks) (fetching : transfer.phase = .fetching)
    (completed : session.queue.complete? transfer.serial failure = some change)
    (changed : Changed session next change (changeAt transfer.serial .close session.tasks)
      [.ended (launchOf transfer) failure]) : InLine (deeds ++ []) next := by
  have quiet : ∀ launch, (.started launch : Observation users.Listener users.Note) ∉
      [.ended (launchOf transfer) failure] ++ change.recorded.map .recorded :=
    not_started_of_changed (by simp) change.recorded
  have sorted := inLine.booked.balanced.sorted
  obtain ⟨entry, rest, queued, _, recorded⟩ :=
    (steady_complete completed listed fetching inLine.booked.orderly.steady).1
  have yields := yields_complete completed
  refine ⟨booked, ?_, ?_, ?_, ?_⟩
  · rw [enqueued_append _ _ rfl, changed.queue, changed.tasks]
    exact line_complete completed inLine.line inLine.queued inLine.bounded sorted inLine.front
  · rw [changed.log, changed.tasks]
    have closed := inLine.begun.changeAt transfer.serial .close (fun _ => rfl)
      fun _ _ waits => Phase.noConfusion waits
    exact (closed.more quiet).change change
  · rw [enqueued_append _ _ rfl, dropped_append, changed.log]
    exact (inLine.preceded.clear _).more quiet
  · have left : change.queue.entries = rest := by
      rw [yields.entries, queued, List.tail_cons]
    rw [Changed.recorded changed rfl, recorded, changed.queue]
    change Outcomes _ change.queue.entries
    rw [left]
    have outcomes := inLine.outcomes
    change session.queue.entries.Pairwise Sooner at sorted
    rw [queued] at outcomes sorted
    exact outcomes.finish sorted failure

/-- A transfer that begins is next in line. -/
theorem InLine.enter {deeds : List (Deed users.Listener)} {session next : Session users}
    {transfer : Transfer} {turns : List Nat} (inLine : InLine deeds session)
    (booked : Booked (deeds ++ []) next) (listed : transfer ∈ session.tasks)
    (waiting : transfer.phase = .waiting) (kept : transfer.stopped = false)
    (shift : Shift session next session.queue
      (changeAt transfer.serial .enter session.tasks) turns [.started (launchOf transfer)]) :
    InLine (deeds ++ []) next := by
  have steady := inLine.booked.orderly.steady
  have pending : transfer.phase ≠ .closed := by
    rw [waiting]
    exact fun closed => Phase.noConfusion closed
  have runs := steady.active_of_kept listed kept pending
  have last := (steady.running listed runs).1
  have balanced := inLine.booked.balanced
  have finished : ∀ entry ∈ enqueued deeds, Sooner entry transfer.entry →
      entry ∈ ended session.recorded ∨ entry ∈ dropped deeds := by
    intro entry asked sooner
    by_contra unfinished
    rw [not_or] at unfinished
    have waits : entry ∈ session.queue.entries :=
      balanced.mem_queue.mpr ⟨asked, unfinished.2, unfinished.1⟩
    exact not_sooner_of_head balanced.sorted (inLine.front transfer listed runs) waits sooner
  refine ⟨booked, ?_, ?_, ?_, ?_⟩
  · rw [enqueued_append _ _ rfl, shift.queue, shift.tasks]
    exact inLine.line.changeAt _ _ (fun _ => rfl) fun _ => rfl
  · rw [shift.log, shift.tasks]
    refine inLine.begun.enter listed waiting (fun other there => steady.unique there listed) ?_
    intro other there
    rw [last]
    exact steady.serial_le there
  · rw [enqueued_append _ _ rfl, dropped_append, shift.log]
    exact (inLine.preceded.clear _).enter (launchOf transfer) fun entry asked sooner =>
      (finished entry asked sooner).imp_right (List.mem_append_left _)
  · rw [Shift.recorded shift, shift.queue]
    have unrecorded : [(.started (launchOf transfer) : Observation users.Listener
        users.Note)].filterMap Observation.recorded? = [] := rfl
    rw [unrecorded, List.append_nil]
    exact inLine.outcomes

/-- Every effect keeps the requests in line. -/
theorem InLine.next {deeds : List (Deed users.Listener)} {session next : Session users}
    {deed : Option (Deed users.Listener)} (inLine : InLine deeds session)
    (effect : Effect session deed next) : InLine (deeds ++ deed.toList) next := by
  have booked := inLine.booked.next effect
  have line := inLine.line
  have begun := inLine.begun
  have closed (serial : Nat) := begun.changeAt serial .close (fun _ => rfl)
    fun _ _ waits => Phase.noConfusion waits
  cases effect with
  | still neutral shift =>
    exact inLine.aside booked ⟨rfl, rfl, rfl⟩ shift rfl rfl (recorded_of_neutral neutral)
      (not_started_of_neutral neutral) line begun
  | woken _ _ shift | rested _ shift | announced _ shift | told shift | passed _ _ shift =>
    exact inLine.aside booked ⟨rfl, rfl, rfl⟩ shift rfl rfl rfl (by simp) line begun
  | discarded _ _ _ _ shift | dropped _ _ _ _ shift | outlived _ _ _ _ shift =>
    exact inLine.aside booked ⟨rfl, rfl, rfl⟩ shift rfl rfl rfl (by simp)
      (line.changeAt _ _ (fun _ => rfl) fun _ => rfl) (closed _)
  | begun listed _ waiting kept shift => exact inLine.enter booked listed waiting kept shift
  | queued request changed => exact inLine.join request booked changed
  | cancelled first found neutral changed =>
    exact inLine.leave booked first found neutral changed
  | emptied shift => exact inLine.clear booked shift
  | finished listed fetching completed changed =>
    exact inLine.finish booked listed fetching completed changed

/-- Every run serves its requests in the order in which they came. -/
theorem Run.inLine {state : users.State} {past : History users} {session : Session users}
    (run : Run (.new state) past session) : InLine past.deeds session :=
  Run.induct InLine (inLine_new state) (fun _ _ _ _ _ inLine effect => inLine.next effect) run

/-! ## The order of a run without shutdown -/

/-- What it means that a run serves its requests in the order in which they came. -/
structure FirstCome (past : History users) (session : Session users) : Prop where
  /-- A transfer begins at most once for each request. -/
  once : (session.started.map (·.entry)).Nodup
  /-- Transfers begin in the order in which their requests were queued. -/
  begun : (session.started.map (·.entry)).Sublist (enqueued past.deeds)
  /-- A transfer begins only after every request queued before its own is over. -/
  preceded : ∀ before launch after, session.log = before ++ .started launch :: after →
    ∀ prior later, enqueued past.deeds = prior ++ launch.entry :: later → ∀ entry ∈ prior,
      ∃ notice, .recorded notice ∈ before ∧ notice.isTerminal = true ∧ notice.entry = entry
  /-- Results are told in the order in which the requests were queued. -/
  results : (session.recorded.filterMap Notice.outcome?).Sublist (enqueued past.deeds)
  /-- What waits is what is not over, in the order in which it was queued. -/
  waiting : session.queue.entries = (enqueued past.deeds).filter fun entry =>
    !session.recorded.any fun notice => notice.isTerminal && notice.entry == entry

/-- Transfers have begun in the order of their requests. -/
theorem InLine.rising {deeds : List (Deed users.Listener)} {session : Session users}
    (inLine : InLine deeds session) : (session.started.map (·.entry)).Pairwise Sooner := by
  rw [List.pairwise_map]
  refine inLine.begun.ordered.imp_of_mem ?_
  intro first second one two less
  obtain ⟨earlier, before, rfl, _⟩ := inLine.begun.launched first one
  obtain ⟨later, after, rfl, _⟩ := inLine.begun.launched second two
  exact inLine.line.rising earlier before later after less

/-- A transfer has begun only for a request that was queued. -/
theorem InLine.asked {deeds : List (Deed users.Listener)} {session : Session users}
    (inLine : InLine deeds session) : ∀ entry ∈ session.started.map (·.entry),
      entry ∈ enqueued deeds := by
  intro entry listed
  obtain ⟨launch, began, rfl⟩ := List.mem_map.mp listed
  obtain ⟨transfer, there, rfl, _⟩ := inLine.begun.launched launch began
  exact inLine.line.asked transfer there

/-- A request is over in a log if a notice that tells so was recorded there. -/
theorem recorded_of_ended {log : List (Observation users.Listener users.Note)} {entry : Entry}
    (finished : entry ∈ ended (log.filterMap Observation.recorded?)) :
    ∃ notice, .recorded notice ∈ log ∧ notice.isTerminal = true ∧ notice.entry = entry := by
  obtain ⟨notice, told, terminal, about⟩ := mem_ended.mp finished
  obtain ⟨observation, seen, recorded⟩ := List.mem_filterMap.mp told
  refine ⟨notice, ?_, terminal, about⟩
  cases observation with
  | recorded other => exact Option.some.inj recorded ▸ seen
  | _ => exact absurd recorded (by simp [Observation.recorded?])

/-- Nothing is taken away without a shutdown. -/
theorem dropped_eq_nil {deeds : List (Deed users.Listener)}
    (kept : ∀ entries, .emptied entries ∉ deeds) : dropped deeds = [] := by
  rw [dropped, List.flatMap_eq_nil_iff]
  intro deed listed
  cases deed with
  | emptied entries => exact absurd listed (kept entries)
  | _ => rfl

/-- A run without shutdown serves its requests in the order in which they came. -/
theorem first_come {state : users.State} {past : History users} {session : Session users}
    (run : Run (.new state) past session) (kept : ∀ entries, .emptied entries ∉ past.deeds) :
    FirstCome past session := by
  have inLine := run.inLine
  have balanced := inLine.booked.balanced
  have ordered : (enqueued past.deeds).Pairwise Sooner := balanced.ordered
  have nothing := dropped_eq_nil kept
  refine ⟨?_, sublist_of_sooner inLine.rising ordered inLine.asked, ?_, ?_, ?_⟩
  · refine inLine.rising.imp ?_
    rintro first second less rfl
    exact Nat.lt_irrefl _ less
  · intro before launch after split prior later asked entry among
    have sooner : Sooner entry launch.entry := by
      rw [asked, List.pairwise_append] at ordered
      exact ordered.2.2 entry among launch.entry List.mem_cons_self
    have listed : entry ∈ enqueued past.deeds := by
      rw [asked]
      exact List.mem_append_left _ among
    have finished := inLine.preceded before launch after split entry listed sooner
    rw [nothing] at finished
    exact recorded_of_ended (finished.resolve_right List.not_mem_nil)
  · refine sublist_of_sooner inLine.outcomes.ordered ordered ?_
    intro entry told
    obtain ⟨notice, listed, outcome⟩ := List.mem_filterMap.mp told
    rw [← entry_of_outcome outcome]
    exact balanced.known notice listed
  · refine balanced.waiting.trans ?_
    apply List.filter_congr
    intro entry _
    rw [Ledger.stays, Bool.eq_iff_iff, decide_eq_true_iff, Bool.not_eq_true', ← Bool.not_eq_true,
      List.any_eq_true]
    change entry ∉ dropped past.deeds ∧ entry ∉ ended session.recorded ↔ _
    rw [nothing, mem_ended]
    simp

/-- Where all deeds queue, cancel, announce or tell there is no shutdown. -/
theorem kept_of_all {deeds : List (Deed users.Listener)}
    (all : (deeds.all fun deed => deed.queued?.isSome || deed.cancelled?.isSome ||
      deed.announced?.isSome || deed.told?.isSome) = true)
    (entries : List Entry) : .emptied entries ∉ deeds :=
  fun emptied => Bool.noConfusion (List.all_eq_true.mp all _ emptied)

/-- Of three requests the second is cancelled while the first runs, and the others have their
results in order. -/
theorem first_come_three :
    let script := queueAll false ["first", "second", "third"]
    let queued := repeatedly step? 40 ((Session.new ()).begin script)
    let cancelled := repeatedly step? 40 (queued.begin (cancelOne false "second"))
    let first := repeatedly step? 40 (cancelled.arrive 1 [.finish none])
    let last := repeatedly step? 40 (first.arrive 2 [.finish (some .cancelled)])
    let past := visited 40 ((Session.new ()).begin script) ++
      visited 40 (queued.begin (cancelOne false "second")) ++
      visited 40 (cancelled.arrive 1 [.finish none]) ++
      visited 40 (first.arrive 2 [.finish (some .cancelled)])
    last.started.map (·.entry.name) = ["first", "third"] ∧ FirstCome past last := by
  have start : Run (.new () : Session (callers false)) [] (.new ()) := .refl
  have queued := start.play rfl (queueAll false ["first", "second", "third"]) 40
  have cancelled := queued.play rfl (cancelOne false "second") 40
  have first := (cancelled.input (.arrive _ 1 [.finish none])).repeatedly 40
  have last := (first.input (.arrive _ 2 [.finish (some .cancelled)])).repeatedly 40
  exact ⟨rfl, first_come last (kept_of_all rfl)⟩

end Session

end Sailplane.Download
