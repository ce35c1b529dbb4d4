import Sailplane.Proofs.Download.Delivery
import Sailplane.Proofs.Download.Ledger
import Sailplane.Proofs.Download.Orderly

/-!
# Accounts of sessions

Every effect on a session goes on with its ledger in one of the ways that keep a ledger balanced, so
the ledger of every run is balanced.
-/
namespace Sailplane.Download

/-! ## Deeds -/

/-- A deed that queues nothing leaves what was queued. -/
theorem enqueued_append {Listener : Type} (deeds more : List (Deed Listener))
    (nothing : more.filterMap Deed.queued? = []) : enqueued (deeds ++ more) = enqueued deeds := by
  rw [enqueued, List.filterMap_append, nothing, List.append_nil]
  rfl

/-- A request that is queued has the next ticket. -/
theorem enqueued_queued {Listener : Type} (deeds : List (Deed Listener)) (request : Request) :
    enqueued (deeds ++ [.queued request]) =
      enqueued deeds ++ [⟨(enqueued deeds).length, request⟩] := by
  have last : [(.queued request : Deed Listener)].filterMap Deed.queued? = [request] := rfl
  rw [enqueued, List.filterMap_append, last, List.mapIdx_concat, ← enqueued, enqueued,
    List.length_mapIdx]

/-- Whether a deed does nothing to the requests. -/
def Aside {Listener : Type} (deed : Option (Deed Listener)) : Prop :=
  deed.toList.filterMap Deed.queued? = [] ∧ cancelled deed.toList = [] ∧ dropped deed.toList = []

/-- Whether every transfer that was stopped is for a request that was cancelled or taken away. -/
def Ledger.Excused (ledger : Ledger) (tasks : List Transfer) : Prop :=
  ∀ transfer ∈ tasks, transfer.stopped = true →
    transfer.entry ∈ ledger.cancelled ∨ transfer.entry ∈ ledger.dropped

/-- To change what is not the request of a transfer and does not stop it needs no excuse. -/
theorem Ledger.Excused.changeAt {ledger : Ledger} {tasks : List Transfer}
    (excused : ledger.Excused tasks) (serial : Nat) (change : Transfer → Transfer)
    (entries : ∀ transfer, (change transfer).entry = transfer.entry)
    (stops : ∀ transfer, (change transfer).stopped = transfer.stopped) :
    ledger.Excused (changeAt serial change tasks) := by
  intro transfer listed stopped
  rcases mem_changeAt.mp listed with ⟨origin, there, _, rfl⟩ | ⟨there, _⟩
  · rw [stops] at stopped
    rw [entries]
    exact excused origin there stopped
  · exact excused transfer there stopped

/-- A change of the queue needs an excuse for the transfer it stops. -/
theorem Ledger.Excused.change {ledger : Ledger} {tasks : List Transfer}
    (excused : ledger.Excused tasks) (change : Change)
    (reason : ∀ serial, change.stopped = some serial → ∀ transfer ∈ tasks,
      transfer.serial = serial →
        transfer.entry ∈ ledger.cancelled ∨ transfer.entry ∈ ledger.dropped) :
    ledger.Excused (change.tasks tasks) := by
  intro transfer listed stopped
  rw [Change.tasks] at listed
  rcases List.mem_append.mp listed with old | new
  · cases halted : change.stopped with
    | none =>
      rw [halted] at old
      exact excused transfer old stopped
    | some serial =>
      rw [halted] at old
      rcases mem_changeAt.mp old with ⟨origin, there, same, rfl⟩ | ⟨there, _⟩
      · exact reason serial halted origin there same
      · exact excused transfer there stopped
  · obtain ⟨launch, _, rfl⟩ := List.mem_map.mp new
    exact Bool.noConfusion stopped

/-- Cancelling stops a transfer only if it runs for the request cancelled. -/
theorem cancel_stopped {queue : Queue} {name : String} {entry : Entry} {change : Change}
    {serial : Nat}
    (first : (queue.entries.find? fun entry => entry.name == name) = some entry)
    (found : queue.cancel? name = some change) (stopped : change.stopped = some serial) :
    queue.active = some serial ∧ queue.entries.head? = some entry := by
  rw [Queue.cancel?, first, Option.map_some, Option.some.injEq] at found
  subst found
  dsimp only at stopped
  split at stopped
  · rename_i running
    rw [Bool.and_eq_true] at running
    refine ⟨stopped, ?_⟩
    cases queued : queue.entries with
    | nil =>
      rw [queued] at first
      exact absurd first (by simp)
    | cons head rest =>
      rw [queued] at running first
      have chosen : (head.name == name) = true := by simpa using running.1
      simp only [List.find?_cons, chosen] at first
      rw [List.head?_cons, first]
  · exact absurd stopped (by simp [Queue.record])

/-- The end of a transfer stops no other. -/
theorem complete_stopped {queue : Queue} {serial : Nat} {failure : Option Failure}
    {change : Change} (completed : queue.complete? serial failure = some change) :
    change.stopped = none := by
  rw [Queue.complete?] at completed
  split at completed
  · split at completed
    · obtain rfl := Option.some.inj completed
      rfl
    · obtain rfl := Option.some.inj completed
      rfl
  · exact absurd completed (by simp)

namespace Session

variable {users : Users}

/-- The ledger of a session after some deeds. -/
def ledger (session : Session users) (deeds : List (Deed users.Listener)) : Ledger :=
  ⟨enqueued deeds, cancelled deeds, dropped deeds, session.recorded, session.results,
    session.queue.entries⟩

/-- The ledger after a shift goes on with what was done and seen. -/
theorem ledger_shift {session next : Session users} {queue : Queue} {tasks : List Transfer}
    {turns : List Nat} {seen : List (Observation users.Listener users.Note)}
    (shift : Shift session next queue tasks turns seen)
    (deeds more : List (Deed users.Listener)) :
    next.ledger (deeds ++ more) =
      ⟨enqueued (deeds ++ more), cancelled deeds ++ cancelled more, dropped deeds ++ dropped more,
        session.recorded ++ seen.filterMap Observation.recorded?,
        session.results ++ seen.filterMap Observation.result?, queue.entries⟩ := by
  rw [ledger, shift.queue, Session.recorded, Session.results, shift.log]
  simp only [cancelled, dropped, List.filterMap_append, List.flatMap_append]
  rfl

/-- No transfer ends among neutral observations. -/
theorem results_of_neutral {seen : List (Observation users.Listener users.Note)}
    (neutral : ∀ observation ∈ seen, observation.isNeutral = true) :
    seen.filterMap Observation.result? = [] := by
  rw [List.filterMap_eq_nil_iff]
  intro observation listed
  have plain := neutral observation listed
  cases observation with
  | ended launch failure => exact Bool.noConfusion plain
  | _ => rfl

/-- No transfer ends among recorded notices. -/
theorem results_map (notices : List Notice) :
    (notices.map (.recorded : Notice → Observation users.Listener users.Note)).filterMap
      Observation.result? = [] := by
  rw [List.filterMap_map, List.filterMap_eq_nil_iff]
  intro notice _
  rfl

/-- Whether a session is in order and its ledger is right. -/
structure Booked (deeds : List (Deed users.Listener)) (session : Session users) : Prop where
  /-- The transfers go with the queue. -/
  orderly : Orderly session
  /-- As many tickets were given out as requests were queued. -/
  issued : session.queue.issued = (enqueued deeds).length
  /-- The ledger is right. -/
  balanced : (session.ledger deeds).Balanced
  /-- Every transfer that was stopped has an excuse. -/
  excused : (session.ledger deeds).Excused session.tasks

/-- What goes on with a balanced ledger is booked. -/
theorem Booked.account {deeds : List (Deed users.Listener)} {session : Session users}
    {after : Ledger} (orderly : Orderly session) (same : session.ledger deeds = after)
    (issued : session.queue.issued = after.requests.length) (balanced : after.Balanced)
    (excused : after.Excused session.tasks) : Booked deeds session := by
  subst same
  exact ⟨orderly, issued, balanced, excused⟩

/-- In the beginning everything is booked. -/
theorem booked_new (state : users.State) : Booked [] (.new state) :=
  ⟨orderly_new state, rfl, Ledger.Balanced.blank, fun _ listed => absurd listed List.not_mem_nil⟩

/-- What leaves the requests alone leaves the ledger alone. -/
theorem Booked.aside {deeds : List (Deed users.Listener)} {session next : Session users}
    {deed : Option (Deed users.Listener)} {queue : Queue} {tasks : List Transfer}
    {turns : List Nat} {seen : List (Observation users.Listener users.Note)}
    (booked : Booked deeds session) (orderly : Orderly next) (aside : Aside deed)
    (shift : Shift session next queue tasks turns seen)
    (entries : queue.entries = session.queue.entries)
    (issued : queue.issued = session.queue.issued)
    (unrecorded : seen.filterMap Observation.recorded? = [])
    (unended : seen.filterMap Observation.result? = [])
    (excused : (session.ledger deeds).Excused tasks) : Booked (deeds ++ deed.toList) next := by
  have same : next.ledger (deeds ++ deed.toList) = session.ledger deeds := by
    rw [ledger_shift shift, enqueued_append _ _ aside.1, aside.2.1, aside.2.2, unrecorded, unended,
      entries, List.append_nil, List.append_nil, List.append_nil, List.append_nil]
    rfl
  refine .account orderly same ?_ booked.balanced ?_
  · rw [shift.queue, issued]
    exact booked.issued
  · rw [shift.tasks]
    exact excused

/-- The ledger after a change of the queue goes on with what the change yields. -/
theorem ledger_changed {session next : Session users} {change : Change} {tasks : List Transfer}
    {seen : List (Observation users.Listener users.Note)} {entries : List Entry} {issued : Nat}
    {notices : List Notice} (changed : Changed session next change tasks seen)
    (yields : Yields session.queue change entries issued notices)
    (unrecorded : seen.filterMap Observation.recorded? = [])
    (deeds more : List (Deed users.Listener)) :
    next.ledger (deeds ++ more) =
      ⟨enqueued (deeds ++ more), cancelled deeds ++ cancelled more, dropped deeds ++ dropped more,
        session.recorded ++ notices, session.results ++ seen.filterMap Observation.result?,
        entries⟩ := by
  rw [ledger_shift changed, List.filterMap_append, List.filterMap_append, unrecorded, recorded_map,
    results_map, List.nil_append, List.append_nil, yields.recorded, yields.entries]

/-- A request that is queued is booked. -/
theorem Booked.queued {deeds : List (Deed users.Listener)} {session next : Session users}
    (booked : Booked deeds session) (orderly : Orderly next) (request : Request)
    (changed : Changed session next (session.queue.enqueue request) session.tasks []) :
    Booked (deeds ++ [.queued request]) next := by
  have yields := yields_enqueue session.queue request
  have same : next.ledger (deeds ++ [.queued request]) =
      (session.ledger deeds).queueMore ⟨(session.ledger deeds).requests.length, request⟩ := by
    rw [ledger_changed changed yields rfl, enqueued_queued, booked.issued]
    simp [Download.cancelled, dropped, Deed.cancelled?, Deed.dropped, ledger, Ledger.queueMore]
  refine .account orderly same ?_ (booked.balanced.queueMore rfl) ?_
  · rw [changed.queue]
    change (session.queue.enqueue request).queue.issued = (enqueued deeds ++ [_]).length
    rw [yields.issued, booked.issued, List.length_append, List.length_singleton]
  · rw [changed.tasks]
    exact Ledger.Excused.change booked.excused _ fun _ stopped => absurd stopped (by
      simp [Queue.enqueue, Queue.record])

/-- A request that is cancelled is booked. -/
theorem Booked.cancelled {deeds : List (Deed users.Listener)} {session next : Session users}
    {name : String} {entry : Entry} {change : Change}
    {seen : List (Observation users.Listener users.Note)} (booked : Booked deeds session)
    (orderly : Orderly next)
    (first : (session.queue.entries.find? fun entry => entry.name == name) = some entry)
    (found : session.queue.cancel? name = some change)
    (neutral : ∀ observation ∈ seen, observation.isNeutral = true)
    (changed : Changed session next change session.tasks seen) :
    Booked (deeds ++ [.cancelled entry]) next := by
  have yields := yields_cancel first found
  have same : next.ledger (deeds ++ [.cancelled entry]) =
      (session.ledger deeds).cancel entry := by
    rw [ledger_changed changed yields (recorded_of_neutral neutral), enqueued_append _ _ rfl,
      results_of_neutral neutral, List.append_nil]
    simp [Download.cancelled, dropped, Deed.cancelled?, Deed.dropped, ledger, Ledger.cancel,
      Ledger.settle, Notice.entry]
  have waits : entry ∈ session.queue.entries := List.mem_of_find?_eq_some first
  refine .account orderly same ?_ (booked.balanced.cancel waits) ?_
  · rw [changed.queue]
    exact yields.issued.trans booked.issued
  · rw [changed.tasks]
    have excused : ((session.ledger deeds).cancel entry).Excused session.tasks := by
      intro transfer listed stopped
      refine (booked.excused transfer listed stopped).imp_left fun cancelled => ?_
      exact List.mem_append_left _ cancelled
    refine excused.change change ?_
    intro serial stopped transfer listed same
    obtain ⟨active, head⟩ := cancel_stopped first found stopped
    have front := (booked.orderly.steady.running listed (by rw [active, same])).2.2.2
    rw [head, Option.some.injEq] at front
    exact .inl (List.mem_append_right _ (List.mem_singleton.mpr front.symm))

/-- A shutdown is booked. -/
theorem Booked.emptied {deeds : List (Deed users.Listener)} {session next : Session users}
    (booked : Booked deeds session) (orderly : Orderly next)
    (shift : Shift session next session.queue.shutdown.queue
      (session.queue.shutdown.tasks session.tasks) (session.queue.shutdown.turns session.turns)
      [.emptied session.queue.entries]) :
    Booked (deeds ++ [.emptied session.queue.entries]) next := by
  have same : next.ledger (deeds ++ [.emptied session.queue.entries]) =
      (session.ledger deeds).clear := by
    rw [ledger_shift shift, enqueued_append _ _ rfl]
    simp [Download.cancelled, dropped, Deed.cancelled?, Deed.dropped, Observation.recorded?,
      Observation.result?, ledger, Ledger.clear, Queue.shutdown]
  refine .account orderly same ?_ booked.balanced.clear ?_
  · rw [shift.queue]
    exact booked.issued
  · rw [shift.tasks]
    have excused : (session.ledger deeds).clear.Excused session.tasks := by
      intro transfer listed stopped
      refine (booked.excused transfer listed stopped).imp_right fun dropped => ?_
      exact List.mem_append_left _ dropped
    refine excused.change _ ?_
    intro serial stopped transfer listed same
    have active : session.queue.active = some transfer.serial := by
      rw [same]
      exact stopped
    have front := (booked.orderly.steady.running listed active).2.2.2
    exact .inr (List.mem_append_right _ (List.mem_of_head? front))

/-- The end of a transfer that the queue does not wait for is booked. -/
theorem Booked.outlived {deeds : List (Deed users.Listener)} {session next : Session users}
    {transfer : Transfer} {failure : Option Failure} (booked : Booked deeds session)
    (orderly : Orderly next) (listed : transfer ∈ session.tasks)
    (fetching : transfer.phase = .fetching)
    (late : session.queue.complete? transfer.serial failure = none)
    (shift : Shift session next session.queue
      (changeAt transfer.serial .close session.tasks) session.turns
      [.ended (launchOf transfer) failure]) : Booked (deeds ++ []) next := by
  have same : next.ledger (deeds ++ []) =
      (session.ledger deeds).result transfer.entry failure := by
    rw [ledger_shift shift, enqueued_append _ _ rfl]
    simp [Download.cancelled, dropped, Observation.recorded?, Observation.result?, ledger,
      Ledger.result, launchOf]
  have inactive : session.queue.active ≠ some transfer.serial := by
    intro runs
    rw [Queue.complete?, if_pos runs] at late
    split at late <;> exact absurd late (by simp)
  have stopped : transfer.stopped = true := by
    refine (booked.orderly.steady.settled transfer listed inactive).resolve_right ?_
    rw [fetching]
    exact fun closed => Phase.noConfusion closed
  refine .account orderly same ?_
    (booked.balanced.late failure (booked.excused transfer listed stopped)) ?_
  · rw [shift.queue]
    exact booked.issued
  · rw [shift.tasks]
    exact booked.excused.changeAt _ _ (fun _ => rfl) fun _ => rfl

/-- The end of the transfer that the queue waits for is booked. -/
theorem Booked.finished {deeds : List (Deed users.Listener)} {session next : Session users}
    {transfer : Transfer} {failure : Option Failure} {change : Change}
    (booked : Booked deeds session) (orderly : Orderly next) (listed : transfer ∈ session.tasks)
    (fetching : transfer.phase = .fetching)
    (completed : session.queue.complete? transfer.serial failure = some change)
    (changed : Changed session next change (changeAt transfer.serial .close session.tasks)
      [.ended (launchOf transfer) failure]) : Booked (deeds ++ []) next := by
  obtain ⟨entry, rest, queued, front, _⟩ :=
    (steady_complete completed listed fetching booked.orderly.steady).1
  subst front
  have yields := yields_complete completed
  rw [queued] at yields
  have erased : session.queue.entries.erase transfer.entry = rest := by
    rw [queued, List.erase_cons_head]
  have same : next.ledger (deeds ++ []) =
      (session.ledger deeds).finish transfer.entry failure := by
    rw [ledger_changed changed yields rfl, enqueued_append _ _ rfl]
    simp [Download.cancelled, dropped, Observation.result?, ledger, Ledger.finish, Ledger.settle,
      Ledger.result, Ledger.ending_entry, launchOf, erased]
  have waits : transfer.entry ∈ session.queue.entries := by
    rw [queued]
    exact List.mem_cons_self
  refine .account orderly same ?_ (booked.balanced.finish failure waits) ?_
  · rw [changed.queue]
    exact yields.issued.trans booked.issued
  · rw [changed.tasks]
    have closed : (session.ledger deeds).Excused
        (changeAt transfer.serial .close session.tasks) :=
      booked.excused.changeAt _ _ (fun _ => rfl) fun _ => rfl
    refine Ledger.Excused.change closed change fun serial stopped => ?_
    rw [complete_stopped completed] at stopped
    exact absurd stopped (by simp)

/-- Every effect is booked. -/
theorem Booked.next {deeds : List (Deed users.Listener)} {session next : Session users}
    {deed : Option (Deed users.Listener)} (booked : Booked deeds session)
    (effect : Effect session deed next) : Booked (deeds ++ deed.toList) next := by
  have orderly := booked.orderly.next effect
  have excused := booked.excused
  cases effect with
  | still neutral shift =>
    exact booked.aside orderly ⟨rfl, rfl, rfl⟩ shift rfl rfl (recorded_of_neutral neutral)
      (results_of_neutral neutral) excused
  | woken _ _ shift | rested _ shift | announced _ shift | told shift | passed _ _ shift =>
    exact booked.aside orderly ⟨rfl, rfl, rfl⟩ shift rfl rfl rfl rfl excused
  | begun _ _ _ _ shift | discarded _ _ _ _ shift | dropped _ _ _ _ shift =>
    exact booked.aside orderly ⟨rfl, rfl, rfl⟩ shift rfl rfl rfl rfl
      (excused.changeAt _ _ (fun _ => rfl) fun _ => rfl)
  | queued request changed => exact booked.queued orderly request changed
  | cancelled first found neutral changed =>
    exact booked.cancelled orderly first found neutral changed
  | emptied shift => exact booked.emptied orderly shift
  | outlived listed fetching late _ shift =>
    exact booked.outlived orderly listed fetching late shift
  | finished listed fetching completed changed =>
    exact booked.finished orderly listed fetching completed changed

/-- Every run is booked. -/
theorem Run.booked {state : users.State} {past : History users} {session : Session users}
    (run : Run (.new state) past session) : Booked past.deeds session :=
  Run.induct Booked (booked_new state) (fun _ _ _ _ _ booked effect => booked.next effect) run

end Session

end Sailplane.Download
