import Sailplane.Proofs.Download.FirstCome
import Sailplane.Proofs.Download.Sources

/-!
# Transfers that were stopped

A transfer was stopped exactly if its request was cancelled or taken away. From then on nothing that
becomes of it touches the queue: whatever it comes to, and whenever it does, no request is retired
and no listener is told of it.
-/
namespace Sailplane.Download

namespace Session

variable {users : Users} {session reached : Session users}

/-! ## The end of a transfer -/

/-- What the queue makes of the end of a transfer, with a failure or without: it takes the request
away and hands out the notices, if it has waited for that transfer. -/
def conclude (session : Session users) (serial : Nat) (failure : Option Failure) :
    List (Frame users) × Session users :=
  match session.queue.complete? serial failure with
  | some change => session.applyAndDeliver change
  | none => ([], session)

/-- A transfer that follows its end is closed, and the queue makes of it what it does. -/
theorem follow_finish (session : Session users) (transfer : Transfer) (failure : Option Failure)
    (again : Frame users) (rest : List (Frame users)) :
    session.follow transfer (.finish failure) again rest =
      let ended :=
        (session.alter transfer.serial .close).see (.ended (launchOf transfer) failure)
      { (ended.conclude transfer.serial failure).2 with
        stack := (ended.conclude transfer.serial failure).1 ++ rest } := by
  cases completed : session.queue.complete? transfer.serial failure with
  | none =>
    rw [follow_finish_none completed]
    simp only [conclude, see, alter, completed, List.nil_append]
  | some change =>
    rw [follow_finish_some completed]
    simp only [conclude, see, alter, completed]

/-- The queue makes nothing of the end of a transfer that does not run for it. -/
theorem conclude_of_inactive (session : Session users) {serial : Nat}
    (inactive : session.queue.active ≠ some serial) (failure : Option Failure) :
    session.conclude serial failure = ([], session) := by
  rw [conclude, Queue.complete?, if_neg inactive]

/-! ## Transfers last -/

/-- Whether every transfer is still there among others, and stopped if it was. -/
def Lasting (tasks others : List Transfer) : Prop :=
  ∀ transfer ∈ tasks, ∃ other ∈ others, launchOf other = launchOf transfer ∧
    (transfer.stopped = true → other.stopped = true)

/-- Transfers last. -/
theorem Lasting.refl (tasks : List Transfer) : Lasting tasks tasks :=
  fun transfer listed => ⟨transfer, listed, rfl, id⟩

/-- What lasts among others lasts among those that last from them. -/
theorem Lasting.trans {first second third : List Transfer} (one : Lasting first second)
    (two : Lasting second third) : Lasting first third := by
  intro transfer listed
  obtain ⟨middle, there, same, stopped⟩ := one transfer listed
  obtain ⟨last, among, equal, still⟩ := two middle there
  exact ⟨last, among, equal.trans same, fun was => still (stopped was)⟩

/-- Transfers last through a change of one of them that starts none again. -/
theorem lasting_changeAt (serial : Nat) (change : Transfer → Transfer) (tasks : List Transfer)
    (launches : ∀ transfer, launchOf (change transfer) = launchOf transfer)
    (stops : ∀ transfer, transfer.stopped = true → (change transfer).stopped = true) :
    Lasting tasks (changeAt serial change tasks) := by
  intro transfer listed
  by_cases chosen : transfer.serial = serial
  · exact ⟨change transfer, mem_changeAt.mpr (.inl ⟨transfer, listed, chosen, rfl⟩),
      launches transfer, stops transfer⟩
  · exact ⟨transfer, mem_changeAt.mpr (.inr ⟨listed, chosen⟩), rfl, id⟩

/-- Transfers last through a change of the queue. -/
theorem lasting_change (change : Change) (tasks : List Transfer) :
    Lasting tasks (change.tasks tasks) := by
  have halted : Lasting tasks (halt change.stopped tasks) := by
    cases change.stopped with
    | none => exact .refl tasks
    | some serial => exact lasting_changeAt serial .stop tasks (fun _ => rfl) fun _ _ => rfl
  intro transfer listed
  obtain ⟨other, there, same, stopped⟩ := halted transfer listed
  exact ⟨other, List.mem_append_left _ there, same, stopped⟩

/-- Transfers last through every effect. -/
theorem Effect.lasting {deed : Option (Deed users.Listener)}
    (effect : Effect session deed reached) :
    Lasting session.tasks reached.tasks := by
  have closed (serial : Nat) (tasks : List Transfer) :
      Lasting tasks (changeAt serial .close tasks) :=
    lasting_changeAt serial .close tasks (fun _ => rfl) fun _ stopped => stopped
  cases effect with
  | still _ shift | woken _ _ shift | rested _ shift | announced _ shift | told shift
  | passed _ _ shift =>
    rw [shift.tasks]
    exact .refl _
  | begun _ _ _ _ shift =>
    rw [shift.tasks]
    exact lasting_changeAt _ .enter _ (fun _ => rfl) fun _ stopped => stopped
  | discarded _ _ _ _ shift | dropped _ _ _ _ shift | outlived _ _ _ _ shift =>
    rw [shift.tasks]
    exact closed _ _
  | emptied shift =>
    rw [shift.tasks]
    exact lasting_change _ _
  | queued _ changed | cancelled _ _ _ changed =>
    rw [changed.tasks]
    exact lasting_change _ _
  | finished _ _ _ changed =>
    rw [changed.tasks]
    exact (closed _ _).trans (lasting_change _ _)

/-- Transfers last through every run. -/
theorem Run.lasting {past : History users} (run : Run session past reached)
    (framed : Framed session) : Lasting session.tasks reached.tasks := by
  induction run with
  | refl => exact .refl _
  | step before taken ih =>
    exact ih.trans (sound_step taken (before.framed framed)).1.lasting
  | input before input ih =>
    exact ih.trans (sound_input input (before.framed framed)).1.lasting

/-- A run may go on with another. -/
theorem Run.append {source : Session users} {past more : History users}
    (before : Run source past session) (after : Run session more reached) :
    Run source (past ++ more) reached := by
  induction after with
  | refl =>
    rw [List.append_nil]
    exact before
  | step _ taken ih =>
    rw [← List.append_assoc]
    exact ih.step taken
  | input _ input ih => exact ih.input input

/-! ## Which transfers were stopped -/

/-- Whether the requests of transfers that were not stopped are neither cancelled nor taken
away. -/
def Spared (deeds : List (Deed users.Listener)) (tasks : List Transfer) : Prop :=
  ∀ transfer ∈ tasks, transfer.stopped = false →
    transfer.entry ∉ cancelled deeds ∧ transfer.entry ∉ dropped deeds

/-- The request of a transfer that is still needed waits in the queue. -/
theorem spared_of_pending {deeds : List (Deed users.Listener)} (booked : Booked deeds session)
    {transfer : Transfer} (listed : transfer ∈ session.tasks) (kept : transfer.stopped = false)
    (pending : transfer.phase ≠ .closed) :
    transfer.entry ∉ cancelled deeds ∧ transfer.entry ∉ dropped deeds := by
  have steady := booked.orderly.steady
  have head := (steady.running listed (steady.active_of_kept listed kept pending)).2.2.2
  have waits : transfer.entry ∈ session.queue.entries := List.mem_of_head? head
  exact ⟨booked.balanced.not_cancelled waits, (booked.balanced.mem_queue.mp waits).2.1⟩

/-- A transfer that is over and was not stopped is not for a request that waits. -/
theorem InLine.away {deeds : List (Deed users.Listener)} (inLine : InLine deeds session)
    {transfer : Transfer} (listed : transfer ∈ session.tasks) (closed : transfer.phase = .closed) :
    transfer.entry ∉ session.queue.entries := by
  intro waits
  have inactive : session.queue.active ≠ some transfer.serial := fun runs =>
    (inLine.booked.orderly.steady.running listed runs).2.2.1 closed
  exact Nat.lt_irrefl _ (inLine.line.ahead transfer listed inactive _ waits)

/-- A change of the queue neither ends a transfer nor starts one that is over. -/
theorem mem_of_closed_change {change : Change} {tasks : List Transfer} {transfer : Transfer}
    (listed : transfer ∈ change.tasks tasks) (kept : transfer.stopped = false)
    (closed : transfer.phase = .closed) : transfer ∈ tasks := by
  rcases List.mem_append.mp listed with old | new
  · cases stopped : change.stopped with
    | none =>
      rw [stopped] at old
      exact old
    | some serial =>
      rw [stopped] at old
      rcases mem_changeAt.mp old with ⟨_, _, _, rfl⟩ | ⟨there, _⟩
      · exact Bool.noConfusion kept
      · exact there
  · obtain ⟨launch, _, rfl⟩ := List.mem_map.mp new
    exact Phase.noConfusion closed

/-- Transfers are spared if those are that are over. -/
theorem Spared.of_closed {deeds : List (Deed users.Listener)} (booked : Booked deeds session)
    (closed : ∀ transfer ∈ session.tasks, transfer.stopped = false → transfer.phase = .closed →
      transfer.entry ∉ cancelled deeds ∧ transfer.entry ∉ dropped deeds) :
    Spared deeds session.tasks := by
  intro transfer listed kept
  by_cases ended : transfer.phase = .closed
  · exact closed transfer listed kept ended
  · exact spared_of_pending booked listed kept ended

/-- What is done aside spares transfers that are changed without being stopped. -/
theorem Spared.aside {deeds : List (Deed users.Listener)} {deed : Option (Deed users.Listener)}
    {tasks : List Transfer} (spared : Spared deeds tasks) (free : Aside deed) (serial : Nat)
    (change : Transfer → Transfer)
    (entries : ∀ transfer, (change transfer).entry = transfer.entry)
    (stops : ∀ transfer, (change transfer).stopped = transfer.stopped) :
    Spared (deeds ++ deed.toList) (changeAt serial change tasks) := by
  have same : cancelled (deeds ++ deed.toList) = cancelled deeds := by
    rw [cancelled, List.filterMap_append]
    exact (congrArg _ free.2.1).trans (List.append_nil _)
  intro transfer listed kept
  rw [same, dropped_append, free.2.2, List.append_nil]
  rcases mem_changeAt.mp listed with ⟨origin, there, _, rfl⟩ | ⟨there, _⟩
  · rw [stops] at kept
    rw [entries]
    exact spared origin there kept
  · exact spared transfer there kept

/-- Every effect spares the transfers that it does not stop. -/
theorem Spared.next {deeds : List (Deed users.Listener)} {deed : Option (Deed users.Listener)}
    (spared : Spared deeds session.tasks) (inLine : InLine deeds session)
    (effect : Effect session deed reached) : Spared (deeds ++ deed.toList) reached.tasks := by
  have booked := inLine.booked.next effect
  have unchanged (serial : Nat) : changeAt serial id session.tasks = session.tasks := by
    rw [changeAt]
    simp
  have still (free : Aside deed) : Spared (deeds ++ deed.toList) session.tasks := by
    have aside := spared.aside free 0 id (fun _ => rfl) fun _ => rfl
    rwa [unchanged] at aside
  cases effect with
  | still _ shift | woken _ _ shift | rested _ shift | announced _ shift | told shift
  | passed _ _ shift =>
    rw [shift.tasks]
    exact still ⟨rfl, rfl, rfl⟩
  | begun _ _ _ _ shift =>
    rw [shift.tasks]
    exact spared.aside ⟨rfl, rfl, rfl⟩ _ .enter (fun _ => rfl) fun _ => rfl
  | discarded _ _ _ _ shift | dropped _ _ _ _ shift | outlived _ _ _ _ shift =>
    rw [shift.tasks]
    exact spared.aside ⟨rfl, rfl, rfl⟩ _ .close (fun _ => rfl) fun _ => rfl
  | finished _ _ _ changed =>
    refine .of_closed booked fun transfer listed kept closed => ?_
    rw [changed.tasks] at listed
    have aside : Aside (none : Option (Deed users.Listener)) := ⟨rfl, rfl, rfl⟩
    exact spared.aside aside _ .close (fun _ => rfl) (fun _ => rfl) transfer
      (mem_of_closed_change listed kept closed) kept
  | queued request changed =>
    refine .of_closed booked fun transfer listed kept closed => ?_
    rw [changed.tasks] at listed
    have old := spared transfer (mem_of_closed_change listed kept closed) kept
    simpa [cancelled, dropped, Deed.cancelled?, Deed.dropped] using old
  | @cancelled _ _ entry _ _ first _ _ changed =>
    refine .of_closed booked fun transfer listed kept closed => ?_
    rw [changed.tasks] at listed
    have there := mem_of_closed_change listed kept closed
    have old := spared transfer there kept
    have different : transfer.entry ≠ entry := fun same =>
      inLine.away there closed (same ▸ List.mem_of_find?_eq_some first)
    simpa [cancelled, dropped, Deed.cancelled?, Deed.dropped, different] using old
  | emptied shift =>
    refine .of_closed booked fun transfer listed kept closed => ?_
    rw [shift.tasks] at listed
    have there := mem_of_closed_change listed kept closed
    have old := spared transfer there kept
    have away := inLine.away there closed
    simpa [cancelled, dropped, Deed.cancelled?, Deed.dropped, away] using old

/-- In every run the requests of transfers that were not stopped are neither cancelled nor taken
away. -/
theorem Run.spared {state : users.State} {past : History users}
    (run : Run (.new state) past session) : Spared past.deeds session.tasks := by
  refine (Run.induct (fun deeds session => InLine deeds session ∧ Spared deeds session.tasks)
    ⟨inLine_new state, fun _ listed => absurd listed List.not_mem_nil⟩ ?_ run).2
  intro deeds session deed next _ both effect
  exact ⟨both.1.next effect, both.2.next both.1 effect⟩

/-! ## Without effect -/

/-- What it means that what was stopped has no effect any more. -/
structure Inert (past : History users) (session : Session users) : Prop where
  /-- A transfer was stopped exactly if its request was cancelled or taken away. -/
  stopped : ∀ transfer ∈ session.transfers, transfer.stopped = true ↔
    transfer.entry ∈ cancelled past.deeds ∨ transfer.entry ∈ dropped past.deeds
  /-- Whatever a stopped transfer comes to, now or later, the queue makes nothing of it. -/
  late : ∀ transfer ∈ session.transfers, transfer.stopped = true →
    ∀ more later, Run session more later → ∀ failure,
      later.conclude transfer.serial failure = ([], later)
  /-- When a stopped transfer follows its end, the queue stays as it was, nothing is recorded, and
  nothing is set off. -/
  silent : ∀ transfer ∈ session.transfers, transfer.stopped = true →
    ∀ failure message allowance rest,
      session.stack = .transfer transfer.serial (.finish failure :: message) allowance :: rest →
      ∀ next, session.step? = some next → next.queue = session.queue ∧
        next.recorded = session.recorded ∧ next.stack = rest
  /-- A listener was told of a failure only if the transfer of a request of that name came to it
  and that request was neither cancelled nor taken away. -/
  failed : ∀ listener name failure, .heard listener (.error name (some failure)) ∈ session.log →
    ∃ launch, .ended launch (some failure) ∈ session.log ∧ launch.entry.name = name ∧
      launch.entry ∉ cancelled past.deeds ∧ launch.entry ∉ dropped past.deeds

/-- A transfer that was stopped does not run for the queue, now or later. -/
theorem inactive_of_stopped {state : users.State} {past more : History users}
    (run : Run (.new state) past session) {transfer : Transfer}
    (listed : transfer ∈ session.transfers) (stopped : transfer.stopped = true)
    (after : Run session more reached) : reached.queue.active ≠ some transfer.serial := by
  obtain ⟨other, there, same, still⟩ :=
    after.lasting (run.framed (framed_new state)) transfer.bare (List.mem_map_of_mem listed)
  have reachable : Reachable reached := ⟨state, _, run.append after⟩
  have serials : other.serial = transfer.serial := congrArg Launch.serial same
  rw [← serials]
  exact reachable.orderly.stopped there (still stopped)

/-- A failure that a listener was told of is the one that the transfer of a request came to. -/
theorem ended_of_heard {state : users.State} {past : History users}
    (run : Run (.new state) past session) {listener : users.Listener} {name : String}
    {failure : Failure} (heard : .heard listener (.error name (some failure)) ∈ session.log) :
    ∃ launch, .ended launch (some failure) ∈ session.log ∧ launch.entry.name = name ∧
      launch.entry ∉ cancelled past.deeds ∧ launch.entry ∉ dropped past.deeds := by
  have audible : .heard listener (.error name (some failure)) ∈ session.audible :=
    List.mem_filter.mpr ⟨heard, rfl⟩
  rcases run.sourced.heard _ _ audible with ⟨_, _, other⟩ | ⟨notice, recorded, event⟩
  · exact Event.noConfusion other
  · cases notice with
    | added entry => exact Event.noConfusion event
    | complete entry => exact Event.noConfusion event
    | error entry reason =>
      obtain ⟨rfl, rfl⟩ := Event.error.inj event
      have told : Notice.ending entry (some failure) ∈ session.recorded := recorded
      obtain ⟨came, free, kept⟩ := (run.booked.balanced.reported entry (some failure)).mp told
      obtain ⟨observation, seen, result⟩ := List.mem_filterMap.mp came
      cases observation with
      | ended launch outcome =>
        obtain ⟨rfl, rfl⟩ := Prod.mk.inj (Option.some.inj result)
        exact ⟨launch, seen, rfl, free, kept⟩
      | _ => exact absurd result (by simp [Observation.result?])

/-- In every run transfers that were stopped have no effect any more. -/
theorem stopped_inert {state : users.State} {past : History users}
    (run : Run (.new state) past session) : Inert past session := by
  have framed := run.framed (framed_new state)
  refine ⟨?_, ?_, ?_, ?_⟩
  · intro transfer listed
    have among : transfer.bare ∈ session.tasks := List.mem_map_of_mem listed
    constructor
    · exact run.booked.excused transfer.bare among
    · intro away
      by_contra kept
      have spared := run.spared transfer.bare among (Bool.not_eq_true _ ▸ kept)
      exact away.elim spared.1 spared.2
  · intro transfer listed stopped more later after failure
    exact conclude_of_inactive later (inactive_of_stopped run listed stopped after) failure
  · intro transfer listed stopped failure message allowance rest stack next taken
    have inactive := inactive_of_stopped run listed stopped .refl
    have among : transfer.bare ∈ session.tasks := List.mem_map_of_mem listed
    have found := run.booked.orderly.steady.found among
    rw [taskAt_tasks] at found
    obtain ⟨stored, there, same⟩ := Option.map_eq_some_iff.mp found
    have still : session.transfer? transfer.serial = some stored := there
    have serials : stored.serial = transfer.serial :=
      (congrArg Transfer.serial same : stored.bare.serial = transfer.bare.serial)
    rw [step?, stack, Option.some.injEq] at taken
    rw [← taken, advance_read_cons still, follow_finish, serials]
    dsimp only
    rw [conclude_of_inactive ((session.alter transfer.serial .close).see
      (.ended (launchOf stored) failure)) inactive failure]
    refine ⟨rfl, ?_, rfl⟩
    change (session.log ++ [_]).filterMap Observation.recorded? = _
    rw [List.filterMap_append]
    exact List.append_nil _
  · exact fun listener name failure heard => ended_of_heard run heard

/-! ## A transfer that is stopped while it ends -/

/-- The first of two requests of one name is cancelled by its own transfer, which then fails as
cancelled; the second has its own result. -/
theorem stopped_inert_same_name :
    let queued := repeatedly step? 40
      ((Session.new () : Session (callers true)).begin (queueAll true ["same", "same"]))
    let first := queued.arrive 1 [.cancel "same", .finish (some .cancelled)]
    let second := (repeatedly step? 40 first).arrive 2 [.finish (some (.network "lost"))]
    let past := visited 40 ((Session.new ()).begin (queueAll true ["same", "same"])) ++
      visited 40 first ++ visited 40 second
    (repeatedly step? 40 second).recorded =
        [.added ⟨0, bytesOf "same"⟩, .added ⟨1, bytesOf "same"⟩,
          .error ⟨0, bytesOf "same"⟩ none,
          .error ⟨1, bytesOf "same"⟩ (some (.network "lost"))] ∧
      Inert past (repeatedly step? 40 second) := by
  have start : Run (.new () : Session (callers true)) [] (.new ()) := .refl
  have queued := start.play rfl (queueAll true ["same", "same"]) 40
  have first := (queued.input
    (.arrive _ 1 [.cancel "same", .finish (some .cancelled)])).repeatedly 40
  exact ⟨rfl, stopped_inert
    ((first.input (.arrive _ 2 [.finish (some (.network "lost"))])).repeatedly 40)⟩

end Session

end Sailplane.Download
