import Sailplane.Proofs.Download.Delivery
import Sailplane.Proofs.Download.Strides
import Sailplane.Proofs.Download.Surroundings

/-!
# A queue that is left alone

One listener is registered, which does no more than to note what it is told, and nobody calls the
queue while its transfers run. Then every step is known. A request that is queued or over is told
of in seven steps, and a transfer that is sent its signals follows them one by one.
-/
namespace Sailplane.Download

/-- Whether a signal reports progress or brings something for a slot. -/
def Signal.isPlain : Signal → Bool
  | size _ => true
  | position _ => true
  | fill _ => true
  | cancel _ => false
  | finish _ => false

namespace Session

variable {users : Users} {who : users.Listener} {note : users.State → Event → users.State}
  {past : Nat}

/-- Whether a listener does no more than to note what it is told. -/
def Notes (who : users.Listener) (note : users.State → Event → users.State) : Prop :=
  ∀ event, users.react who event = Script.modify fun state => ((), note state event)

/-- When nobody waits nobody is woken. -/
theorem wake_of_unwatched {session : Session users} (unwatched : session.waiting = []) :
    session.wake = session := by
  obtain ⟨queue, transfers, slots, registry, ready, waiting, state, stack, log⟩ := session
  subst unwatched
  rw [wake, List.map_nil, List.append_nil]

/-! ## Telling the listener -/

section Telling

variable (session : Session users) (rest : List (Frame users))

/-- The listener notes an event in five steps. -/
theorem strides_tell (notes : Notes who note) (event : Event) :
    Strides 5 { session with stack := .tell [(who, event)] :: rest }
      { session with
        state := note session.state event
        stack := rest
        log := session.log ++ [.heard who event] } := by
  have begins : Strides 1 { session with stack := .tell [(who, event)] :: rest }
      { session with
        stack := .script (users.react who event) :: .tell [] :: rest
        log := session.log ++ [.heard who event] } := .single rfl
  rw [notes event] at begins
  exact begins.trans (.onward rfl (.onward rfl (.onward rfl (.single rfl))))

/-- A notice that waits alone is handed out in seven steps. -/
theorem strides_drain (notes : Notes who note) {notice : Notice}
    (registered : session.registry.listeners = [who]) (unwatched : session.waiting = [])
    (outbox : session.queue.outbox = [notice]) :
    Strides 7 { session with stack := .drain :: rest }
      { session with
        queue := { session.queue with outbox := [], delivering := false }
        state := note session.state notice.event
        stack := rest
        log := session.log ++ [.announced notice, .heard who notice.event] } := by
  let announced : Session users :=
    { session with
      queue := { session.queue with outbox := [] }
      log := session.log ++ [.announced notice] }
  let heard : Session users :=
    { announced with
      state := note session.state notice.event
      log := announced.log ++ [.heard who notice.event] }
  have announces : Strides 1 { session with stack := .drain :: rest }
      { announced with stack := .tell [(who, notice.event)] :: .drain :: rest } := by
    have calls : callsFor (notice, session.registry.listeners) = [(who, notice.event)] := by
      rw [callsFor, registered]
      rfl
    have first := @advance_drain_cons users { session with stack := .drain :: rest } rest notice []
      outbox
    refine .single ((step_of_stack rfl).trans (congrArg some ?_))
    rw [first, calls]
    rfl
  have ends : Strides 1 { heard with stack := .drain :: rest }
      { heard with queue := { heard.queue with delivering := false }, stack := rest } := by
    have last := @advance_drain_nil users { heard with stack := .drain :: rest } rest rfl
    refine .single ((step_of_stack rfl).trans (congrArg some ?_))
    rw [last]
    dsimp only
    rw [wake_of_unwatched (by exact unwatched), ite_self]
  have whole := announces.trans ((strides_tell announced (.drain :: rest) notes notice.event).trans
    ends)
  simpa only [heard, announced, List.append_assoc, List.cons_append, List.nil_append] using whole

end Telling

/-! ## Changes of the queue -/

section Changes

variable (session : Session users) {change : Change}

/-- A change that stops nothing may start a transfer. -/
theorem apply_of_kept (kept : change.stopped = none) : session.apply change =
    { session with
      queue := change.queue
      transfers := session.transfers ++ change.started.toList.map .new
      ready := session.ready ++ change.started.toList.map fun launch => .transfer launch.serial
      log := session.log ++ change.recorded.map .recorded } := by
  rw [apply_eq, kept]
  rfl

/-- The session after a change of its queue of which the listener was told. -/
def noting (who : users.Listener) (note : users.State → Event → users.State)
    (session : Session users) (change : Change) (notice : Notice) : Session users :=
  { session with
    queue := { change.queue with outbox := [], delivering := false }
    transfers := session.transfers ++ change.started.toList.map .new
    ready := session.ready ++ change.started.toList.map fun launch => .transfer launch.serial
    state := note session.state notice.event
    log := session.log ++ [.recorded notice, .announced notice, .heard who notice.event] }

/-- A change of the queue that is to be told alone is told in seven steps. -/
theorem strides_change (notes : Notes who note) {notice : Notice} (rest : List (Frame users))
    (registered : session.registry.listeners = [who]) (unwatched : session.waiting = [])
    (kept : change.stopped = none) (recorded : change.recorded = [notice])
    (outbox : change.queue.outbox = [notice]) (closed : change.queue.delivering = false) :
    Strides 7
      { (session.applyAndDeliver change).2 with
        stack := (session.applyAndDeliver change).1 ++ rest }
      { noting who note session change notice with stack := rest } := by
  have opened : change.queue.openDelivery? = some { change.queue with delivering := true } := by
    rw [Queue.openDelivery?, closed]
    rfl
  have drained := @strides_drain users who note
    { session.apply change with queue := { change.queue with delivering := true } } rest notes
    notice
  rw [applyAndDeliver, apply_of_kept session kept]
  rw [apply_of_kept session kept] at drained
  dsimp only at drained ⊢
  rw [opened]
  have whole := drained registered unwatched outbox
  rw [recorded] at whole ⊢
  simpa only [noting, List.append_assoc, List.map_cons, List.map_nil, List.cons_append,
    List.nil_append] using whole

end Changes

/-! ## The transfer that was started last -/

/-- Whether a transfer was started last and has a serial of its own. -/
structure Last (session : Session users) (earlier : List Transfer) (transfer : Transfer) :
    Prop where
  /-- It comes behind the others. -/
  transfers : session.transfers = earlier ++ [transfer]
  /-- The others have other serials. -/
  apart : ∀ other ∈ earlier, other.serial ≠ transfer.serial

namespace Last

variable {session : Session users} {earlier : List Transfer} {transfer : Transfer}

/-- It is found by its serial. -/
theorem stored (last : Last session earlier transfer) :
    session.transfer? transfer.serial = some transfer := by
  have none : earlier.find? (fun other => other.serial == transfer.serial) = none := by
    rw [List.find?_eq_none]
    intro other listed same
    exact last.apart other listed (beq_iff_eq.mp same)
  rw [transfer?, last.transfers, List.find?_append, none, Option.none_or]
  exact List.find?_cons_of_pos (beq_self_eq_true _)

/-- To change it leaves the others. -/
theorem alter (last : Last session earlier transfer) (change : Transfer → Transfer) :
    session.alter transfer.serial change =
      { session with transfers := earlier ++ [change transfer] } := by
  have others : (earlier.map fun other =>
      if (other.serial == transfer.serial) = true then change other else other) = earlier := by
    refine (List.map_congr_left fun other listed => ?_).trans (List.map_id _)
    exact if_neg fun same => last.apart other listed (beq_iff_eq.mp same)
  rw [Session.alter, last.transfers, List.map_append, others, List.map_singleton,
    if_pos (beq_self_eq_true _)]

/-- It is the one that takes messages if it runs. -/
theorem fetching (last : Last session earlier transfer) (fetches : transfer.phase = .fetching) :
    session.fetching? = some transfer := by
  have runs : (transfer.phase == .fetching) = true := beq_iff_eq.mpr fetches
  rw [fetching?, last.transfers, List.reverse_append, List.reverse_singleton,
    List.singleton_append]
  exact List.find?_cons_of_pos runs

end Last

/-! ## Following signals -/

section Following

variable {session : Session users} {earlier : List Transfer} {transfer : Transfer}

/-- The slots after a transfer has followed some signals. -/
def slotsAfter (transfer : Transfer) (signals : List Signal) (slots : Slots Content) :
    Slots Content :=
  signals.foldl (fun slots signal => fillWith slots (filling? transfer signal)) slots

/-- What a transfer puts into slots does not depend on how far it is. -/
theorem filling?_status (transfer : Transfer) (status : Status) (signal : Signal) :
    filling? { transfer with status } signal = filling? transfer signal := by
  cases signal with
  | _ => rfl

/-- What is the same, and what is not, after a transfer has followed plain signals. -/
structure Followed (earlier : List Transfer) (transfer : Transfer) (signals : List Signal)
    (session next : Session users) : Prop where
  /-- The queue is the same. -/
  queue : next.queue = session.queue
  /-- The transfer is as far as it has reported. -/
  transfers : ∃ status, next.transfers = earlier ++ [{ transfer with status }]
  /-- The slots of its request may be filled. -/
  slots : next.slots = slotsAfter transfer signals session.slots
  /-- The same are registered. -/
  registry : next.registry = session.registry
  /-- The same tasks are ready. -/
  ready : next.ready = session.ready
  /-- The same wait. -/
  waiting : next.waiting = session.waiting
  /-- What is shared is the same. -/
  state : next.state = session.state
  /-- Nothing was recorded. -/
  recorded : next.recorded = session.recorded

/-- A transfer follows a plain signal in one step. -/
theorem step_plain (last : Last session earlier transfer) {signal : Signal}
    (plain : signal.isPlain = true) {message : List Signal} {allowance : Nat}
    (stack : session.stack = [.transfer transfer.serial (signal :: message) allowance]) :
    ∃ next, session.step? = some next ∧ Followed earlier transfer [signal] session next ∧
      next.stack = [.transfer transfer.serial message allowance] := by
  have step : session.step? = some (session.follow transfer signal
      (.transfer transfer.serial message allowance) []) :=
    (step_of_stack stack).trans (congrArg some (advance_read_cons last.stored))
  have seen : Last (session.see (.followed (launchOf transfer) signal)) earlier transfer :=
    ⟨last.transfers, last.apart⟩
  have recorded : (session.see (.followed (launchOf transfer) signal)).recorded =
      session.recorded := by
    rw [Session.recorded, see, List.filterMap_append]
    exact List.append_nil _
  refine ⟨_, step, ?_⟩
  cases signal with
  | size bytes =>
    rw [follow, seen.alter]
    exact ⟨⟨rfl, ⟨_, rfl⟩, rfl, rfl, rfl, rfl, rfl, recorded⟩, rfl⟩
  | position bytes =>
    rw [follow, seen.alter]
    exact ⟨⟨rfl, ⟨_, rfl⟩, rfl, rfl, rfl, rfl, rfl, recorded⟩, rfl⟩
  | fill content =>
    have filled : slotsAfter transfer [.fill content] session.slots =
        fillWith session.slots (filling? transfer (.fill content)) := rfl
    cases place : transfer.entry.request.slotFor content with
    | none =>
      rw [filling?, place] at filled
      rw [follow_fill_none place]
      exact ⟨⟨rfl, ⟨_, last.transfers⟩, filled.symm, rfl, rfl, rfl, rfl, recorded⟩, rfl⟩
    | some slot =>
      rw [filling?, place] at filled
      rw [follow_fill_some place]
      exact ⟨⟨rfl, ⟨_, last.transfers⟩, filled.symm, rfl, rfl, rfl, rfl, recorded⟩, rfl⟩
  | cancel name => exact Bool.noConfusion plain
  | finish failure => exact Bool.noConfusion plain

/-- A transfer follows plain signals one by one. -/
theorem strides_plain (last : Last session earlier transfer) {signals : List Signal}
    (plain : ∀ signal ∈ signals, signal.isPlain = true) {message : List Signal}
    {allowance : Nat}
    (stack : session.stack = [.transfer transfer.serial (signals ++ message) allowance]) :
    ∃ next, Strides signals.length session next ∧ Followed earlier transfer signals session next ∧
      next.stack = [.transfer transfer.serial message allowance] := by
  induction signals generalizing session transfer with
  | nil =>
    exact ⟨session, .stay session, ⟨rfl, ⟨_, last.transfers⟩, rfl, rfl, rfl, rfl, rfl, rfl⟩, stack⟩
  | cons signal signals ih =>
    obtain ⟨middle, step, one, reads⟩ := step_plain last (plain signal List.mem_cons_self) stack
    obtain ⟨status, transfers⟩ := one.transfers
    have still : Last middle earlier { transfer with status } := ⟨transfers, last.apart⟩
    obtain ⟨next, rest, others, ends⟩ :=
      ih still (fun other listed => plain other (List.mem_cons_of_mem _ listed)) reads
    have slots : next.slots = slotsAfter transfer (signal :: signals) session.slots := by
      have same : slotsAfter { transfer with status } signals = slotsAfter transfer signals := by
        funext slots
        simp only [slotsAfter, filling?_status]
      rw [others.slots, same, one.slots]
      rfl
    refine ⟨next, .onward step rest, ⟨others.queue.trans one.queue, others.transfers, slots,
      others.registry.trans one.registry, others.ready.trans one.ready,
      others.waiting.trans one.waiting, others.state.trans one.state,
      others.recorded.trans one.recorded⟩, ends⟩

end Following

/-! ## The first request -/

/-- Whether a number of requests are over and some are queued, of which the first one has the serial
given out last, and nobody but one listener has to do with them. -/
structure Tended (who : users.Listener) (past : Nat) (entries : List Entry)
    (session : Session users) : Prop where
  /-- These are queued. -/
  queued : session.queue.entries = entries
  /-- The first of them has the last serial. -/
  active : session.queue.active = entries.head?.map fun _ => session.queue.serial
  /-- Serials were given out to those that are over and to the first. -/
  serial : session.queue.serial = past + entries.head?.toList.length
  /-- Nothing waits to be told. -/
  sent : session.queue.outbox = []
  /-- Nothing is being told. -/
  closed : session.queue.delivering = false
  /-- The listener is registered, and nobody else. -/
  registered : session.registry.listeners = [who]
  /-- Nobody waits for the end. -/
  unwatched : session.waiting = []
  /-- No transfer has a later serial. -/
  bounded : ∀ transfer ∈ session.transfers, transfer.serial ≤ session.queue.serial

/-- Whether the transfer of the first of some requests is in a phase and has nothing to read. -/
def Heads (entries : List Entry) (phase : Phase) (session : Session users) : Prop :=
  ∀ entry ∈ entries.head?, ∃ earlier status,
    Last session earlier ⟨session.queue.serial, entry, phase, false, status, []⟩

/-- Whether the transfer of the first request is about to begin. -/
structure Poised (who : users.Listener) (past : Nat) (entries : List Entry)
    (session : Session users) : Prop extends Tended who past entries session where
  /-- It has not begun. -/
  heads : Heads entries .waiting session
  /-- It is ready, and nothing else is. -/
  ready : session.ready = entries.head?.toList.map fun _ => .transfer session.queue.serial

/-- Whether the transfer of the first request runs and has nothing to read, and nothing else is
under way. -/
structure Serves (who : users.Listener) (past : Nat) (entries : List Entry)
    (session : Session users) : Prop extends Tended who past entries session where
  /-- It runs. -/
  heads : Heads entries .fetching session
  /-- Nothing is ready. -/
  ready : session.ready = []
  /-- Nothing has begun. -/
  quiet : session.stack = []

/-- What is known outside after some notices were told and slots were filled. -/
structure Informs (note : users.State → Event → users.State) (session next : Session users)
    (notices : List Notice) (slots : Slots Content) : Prop where
  /-- The notices were recorded. -/
  recorded : next.recorded = session.recorded ++ notices
  /-- The listener has noted them. -/
  state : next.state = notices.foldl (fun state notice => note state notice.event) session.state
  /-- This is what the slots hold. -/
  slots : next.slots = slots

/-- What is known outside after more was told. -/
theorem Informs.trans {session middle next : Session users} {notices others : List Notice}
    {slots filled : Slots Content} (first : Informs note session middle notices slots)
    (second : Informs note middle next others filled) :
    Informs note session next (notices ++ others) filled where
  recorded := by rw [second.recorded, first.recorded, List.append_assoc]
  state := by rw [second.state, first.state, List.foldl_append]
  slots := second.slots

/-- The first request is about to begin whatever the slots hold and whatever else has begun. -/
theorem Poised.of_slots {entries : List Entry} {session : Session users}
    (poised : Poised who past entries session) (slots : Slots Content)
    (stack : List (Frame users)) : Poised who past entries { session with slots, stack } := by
  refine ⟨⟨poised.queued, poised.active, poised.serial, poised.sent, poised.closed,
    poised.registered, poised.unwatched, poised.bounded⟩, fun entry heads => ?_, poised.ready⟩
  obtain ⟨earlier, status, last⟩ := poised.heads entry heads
  exact ⟨earlier, status, last.transfers, last.apart⟩

/-- Nothing is left to do while the transfer has nothing to read. -/
theorem Serves.atRest {entries : List Entry} {session : Session users}
    (serves : Serves who past entries session) : session.AtRest := by
  rw [AtRest, step?, serves.quiet, serves.ready]

/-- A transfer that is about to begin begins in two steps. -/
theorem Poised.begins {entries : List Entry} {session : Session users}
    (poised : Poised who past entries session) (quiet : session.stack = []) :
    ∃ count next, count ≤ 2 ∧ Strides count session next ∧ Serves who past entries next ∧
      next.queue = session.queue ∧ Informs note session next [] session.slots := by
  cases entries with
  | nil =>
    exact ⟨0, session, by omega, .stay session,
      ⟨poised.toTended, fun _ none => absurd none (by simp), poised.ready, quiet⟩, rfl,
      ⟨(List.append_nil _).symm, rfl, rfl⟩⟩
  | cons entry left =>
    obtain ⟨earlier, status, last⟩ := poised.heads entry rfl
    let begun : Session users :=
      { session with
        transfers := earlier ++ [⟨session.queue.serial, entry, .fetching, false, status, []⟩]
        ready := []
        stack := [.transfer session.queue.serial [] turn]
        log := session.log ++ [.started ⟨session.queue.serial, entry⟩] }
    have first : session.step? = some begun := by
      have waits : Last { session with ready := [] } earlier
          ⟨session.queue.serial, entry, .waiting, false, status, []⟩ := ⟨last.transfers, last.apart⟩
      have jobs : session.ready = [.transfer session.queue.serial] := poised.ready
      refine (step_of_ready quiet jobs).trans (congrArg some ?_)
      rw [run_begun waits.stored rfl rfl, waits.alter]
      rfl
    have runs : Last begun earlier ⟨session.queue.serial, entry, .fetching, false, status, []⟩ :=
      ⟨rfl, last.apart⟩
    have second : begun.step? = some { begun with stack := [] } := by
      rw [step_of_stack rfl, advance_read_nil runs.stored]
      rw [turn, readNext_nil rfl, pause_of_kept rfl]
    refine ⟨2, { begun with stack := [] }, by omega, .onward first (.single second), ?_, rfl, ?_⟩
    · refine ⟨⟨poised.queued, poised.active, poised.serial, poised.sent, poised.closed,
        poised.registered, poised.unwatched, ?_⟩, ?_, rfl, rfl⟩
      · intro transfer listed
        rcases List.mem_append.mp listed with old | new
        · exact poised.bounded transfer (last.transfers ▸ List.mem_append_left _ old)
        · exact Nat.le_of_eq (congrArg Transfer.serial (List.mem_singleton.mp new))
      · intro other same
        obtain rfl := Option.some.inj same
        exact ⟨earlier, status, rfl, last.apart⟩
    · refine ⟨?_, rfl, rfl⟩
      change (session.log ++ [_]).filterMap _ = session.log.filterMap _ ++ []
      rw [List.filterMap_append]
      rfl

/-! ## Requests that come and go -/

/-- While nothing runs a notice is recorded and the first request is started. -/
theorem record_of_free {queue : Queue} (notice : Notice) (free : queue.active = none)
    (sent : queue.outbox = []) : queue.record notice none =
      ⟨{ queue with
          outbox := [notice]
          active := queue.entries.head?.map fun _ => queue.serial + 1
          serial := queue.serial + queue.entries.head?.toList.length },
        [notice], none, queue.entries.head?.map fun entry => ⟨queue.serial + 1, entry⟩⟩ := by
  obtain ⟨entries, active, serial, issued, outbox, delivering⟩ := queue
  dsimp only at free sent
  subst free sent
  cases entries with
  | nil => rfl
  | cons entry rest => rfl

/-- While a transfer runs a notice is recorded and nothing is started. -/
theorem record_of_busy {queue : Queue} (notice : Notice) {serial : Nat}
    (busy : queue.active = some serial) (sent : queue.outbox = []) :
    queue.record notice none = ⟨{ queue with outbox := [notice] }, [notice], none, none⟩ := by
  obtain ⟨entries, active, last, issued, outbox, delivering⟩ := queue
  dsimp only at busy sent
  subst busy sent
  rfl

/-- When a notice was told it was recorded and noted, and no slot was filled. -/
theorem informs_noting (session : Session users) (change : Change) (notice : Notice)
    (stack : List (Frame users)) :
    Informs note session { noting who note session change notice with stack } [notice]
      session.slots := by
  refine ⟨?_, rfl, rfl⟩
  change (session.log ++ [_, _, _]).filterMap _ = session.log.filterMap _ ++ [notice]
  rw [List.filterMap_append]
  rfl

/-- When a notice was told while nothing ran the first request is about to begin. -/
theorem poised_noting {session : Session users} {queue : Queue} (notice : Notice)
    (stack : List (Frame users)) (free : queue.active = none) (serials : queue.serial = past)
    (sent : queue.outbox = [])
    (registered : session.registry.listeners = [who]) (unwatched : session.waiting = [])
    (idle : session.ready = [])
    (bounded : ∀ transfer ∈ session.transfers, transfer.serial ≤ queue.serial) :
    Poised who past queue.entries
      { noting who note session (queue.record notice none) notice with stack } := by
  subst serials
  rw [record_of_free notice free sent]
  cases entries : queue.entries with
  | nil =>
    have same : session.transfers ++ [] = session.transfers := List.append_nil _
    refine ⟨⟨rfl, rfl, rfl, rfl, rfl, registered, unwatched, ?_⟩, ?_, ?_⟩
    · intro transfer listed
      exact bounded transfer (same ▸ listed)
    · exact fun _ none => absurd none (by simp)
    · simp [noting, idle]
  | cons entry rest =>
    refine ⟨⟨rfl, rfl, rfl, rfl, rfl, registered, unwatched, ?_⟩, ?_, ?_⟩
    · intro transfer listed
      rcases List.mem_append.mp listed with old | new
      · exact Nat.le_succ_of_le (bounded transfer old)
      · exact Nat.le_of_eq (congrArg Transfer.serial (List.mem_singleton.mp new))
    · intro other same
      obtain rfl := Option.some.inj same
      refine ⟨session.transfers, .begun, rfl, fun earlier listed => ?_⟩
      exact Nat.ne_of_lt (Nat.lt_succ_of_le (bounded earlier listed))
    · simp [noting, idle]

/-- A request that is queued is told in eight steps. -/
theorem Poised.queues {entries : List Entry} {session : Session users}
    (poised : Poised who past entries session) (notes : Notes who note) {request : Request}
    {script : Unit → users.Script Unit} {rest : List (Frame users)}
    (stack : session.stack = .script (.call (.enqueue request) script) :: rest) :
    ∃ next, Strides 8 session next ∧
      Poised who past (entries ++ [⟨session.queue.issued, request⟩]) next ∧
      next.queue.issued = session.queue.issued + 1 ∧
      Informs note session next [.added ⟨session.queue.issued, request⟩] session.slots ∧
      next.stack = .script (script ()) :: rest := by
  let entry : Entry := ⟨session.queue.issued, request⟩
  let grown : Queue :=
    { session.queue with
      entries := session.queue.entries ++ [entry]
      issued := session.queue.issued + 1 }
  have change : session.queue.enqueue request = grown.record (.added entry) none := rfl
  have asked : session.step? = some
      { (session.applyAndDeliver (session.queue.enqueue request)).2 with
        stack := (session.applyAndDeliver (session.queue.enqueue request)).1 ++
          .script (script ()) :: rest } := step_of_stack stack
  have yields := yields_enqueue session.queue request
  have told := strides_change session notes (.script (script ()) :: rest) poised.registered
    poised.unwatched rfl yields.recorded (yields.outbox.trans (by rw [poised.sent]; rfl))
    (by rw [change, record_delivering]; exact poised.closed)
  refine ⟨_, .onward asked told, ?_, ?_, informs_noting session _ (.added entry) _, rfl⟩
  · rw [change, ← poised.queued]
    cases entries with
    | nil =>
      have free : grown.active = none := poised.active
      exact poised_noting (.added entry) _ free poised.serial poised.sent poised.registered
        poised.unwatched poised.ready poised.bounded
    | cons first others =>
      have busy : grown.active = some session.queue.serial := poised.active
      have head : (session.queue.entries ++ [entry]).head? = some first := by
        rw [poised.queued]
        rfl
      have transfers : session.transfers ++ [] = session.transfers := List.append_nil _
      have ready : session.ready ++ [] = session.ready := List.append_nil _
      rw [record_of_busy (.added entry) busy poised.sent]
      refine ⟨⟨rfl, ?_, ?_, rfl, rfl, poised.registered, poised.unwatched, ?_⟩, ?_, ?_⟩
      · rw [head]
        exact busy
      · rw [head]
        exact poised.serial
      · intro transfer listed
        exact poised.bounded transfer (transfers ▸ listed)
      · intro other same
        rw [head] at same
        obtain ⟨earlier, status, last⟩ := poised.heads other same
        exact ⟨earlier, status, transfers.trans last.transfers, last.apart⟩
      · rw [head]
        exact ready.trans poised.ready
  · exact yields.issued

/-- A message is sent to the transfer that runs. -/
theorem perform_signal {session : Session users} {transfer : Transfer}
    (fetches : session.fetching? = some transfer) (message : List Signal) :
    session.perform (.signal message) = ((), [], session.post transfer.serial message) := by
  simp only [perform, fetches]
  rfl

/-- A message for the last transfer waits in front of it, and it becomes ready. -/
theorem Last.post {session : Session users} {earlier : List Transfer} {transfer : Transfer}
    (last : Last session earlier transfer) (idle : session.ready = []) (message : List Signal) :
    session.post transfer.serial message =
      { session with
        transfers := earlier ++ [{ transfer with inbox := transfer.inbox ++ [message] }]
        ready := [.transfer transfer.serial] } := by
  obtain ⟨queue, transfers, slots, registry, ready, waiting, state, stack, log⟩ := session
  dsimp only at idle
  subst idle
  rw [Session.post, last.alter]
  rfl

/-- A transfer that is sent a message begins to read it in four steps. -/
theorem Serves.reads {entry : Entry} {left : List Entry} {session : Session users}
    (serves : Serves who past (entry :: left) session) {earlier : List Transfer} {status : Status}
    (last : Last session earlier
      ⟨session.queue.serial, entry, .fetching, false, status, []⟩) (message : List Signal) :
    Strides 4 (session.begin (Script.ask (.signal message)))
      { session with stack := [.transfer session.queue.serial message 127] } := by
  let begun := session.begin (Script.ask (.signal message))
  let posted : Session users :=
    { session with
      transfers := earlier ++ [⟨session.queue.serial, entry, .fetching, false, status, [message]⟩]
      ready := [.transfer session.queue.serial] }
  have stays : Last begun earlier ⟨session.queue.serial, entry, .fetching, false, status, []⟩ :=
    ⟨last.transfers, last.apart⟩
  have sent : begun.step? = some { posted with stack := [.script (.done ())] } := by
    have begins : begun.stack = [.script (.call (.signal message) .done)] :=
      congrArg (List.cons _) serves.quiet
    have reply := perform_signal (stays.fetching rfl) message
    rw [stays.post serves.ready message] at reply
    rw [step_of_call begins, reply]
    rfl
  have resumed : ({ posted with stack := [] } : Session users).step? =
      some { posted with ready := [], stack := [.transfer session.queue.serial [] turn] } := by
    have holds : Last { posted with ready := [], stack := [] } earlier _ := ⟨rfl, last.apart⟩
    refine (step_of_ready rfl rfl).trans (congrArg some ?_)
    exact run_resumed holds.stored rfl rfl
  have reads : ({ posted with ready := [], stack := [.transfer session.queue.serial [] turn] } :
      Session users).step? =
        some { session with stack := [.transfer session.queue.serial message 127] } := by
    let awake : Session users :=
      { posted with ready := [], stack := [.transfer session.queue.serial [] turn] }
    have holds : Last awake earlier
      ⟨session.queue.serial, entry, .fetching, false, status, [message]⟩ := ⟨rfl, last.apart⟩
    have next := @readNext_cons users awake
      ⟨session.queue.serial, entry, .fetching, false, status, [message]⟩ 127 [] message [] rfl
    rw [holds.alter] at next
    refine (step_of_stack rfl).trans (congrArg some ?_)
    refine (advance_read_nil holds.stored).trans (next.trans ?_)
    simp only [awake, posted, ← last.transfers, serves.ready]
  exact .onward sent (.onward rfl (.onward resumed (.single reads)))

/-- What was followed leaves everything else as it was. -/
theorem Tended.followed {entries : List Entry} {session next : Session users}
    (tended : Tended who past entries session) {earlier : List Transfer} {transfer : Transfer}
    (last : Last session earlier transfer) {signals : List Signal}
    (followed : Followed earlier transfer signals session next) :
    Tended who past entries next where
  queued := by rw [followed.queue, tended.queued]
  active := by rw [followed.queue, tended.active]
  serial := by rw [followed.queue, tended.serial]
  sent := by rw [followed.queue, tended.sent]
  closed := by rw [followed.queue, tended.closed]
  registered := by rw [followed.registry, tended.registered]
  unwatched := by rw [followed.waiting, tended.unwatched]
  bounded := fun other listed => by
    obtain ⟨status, transfers⟩ := followed.transfers
    rw [followed.queue]
    rw [transfers] at listed
    rcases List.mem_append.mp listed with old | new
    · exact tended.bounded other (last.transfers ▸ List.mem_append_left _ old)
    · rw [List.mem_singleton.mp new]
      exact tended.bounded transfer
        (last.transfers ▸ List.mem_append_right _ (List.mem_singleton.mpr rfl))

/-- When the first transfer reads its end its request is let go, and the next one is about to
begin. -/
theorem Tended.finishes {entry : Entry} {left : List Entry} {session : Session users}
    (tended : Tended who past (entry :: left) session) (notes : Notes who note)
    {earlier : List Transfer} {status : Status}
    (last : Last session earlier ⟨session.queue.serial, entry, .fetching, false, status, []⟩)
    (idle : session.ready = []) {failure : Option Failure} {allowance : Nat}
    (stack : session.stack = [.transfer session.queue.serial [.finish failure] allowance]) :
    ∃ next, Strides 8 session next ∧ Poised who (past + 1) left next ∧ next.stack = [] ∧
      Informs note session next [.ending entry failure] session.slots := by
  let transfer : Transfer := ⟨session.queue.serial, entry, .fetching, false, status, []⟩
  let ended : Session users :=
    (session.alter session.queue.serial .close).see (.ended ⟨session.queue.serial, entry⟩ failure)
  let shorter : Queue := { session.queue with entries := left, active := none }
  let change := shorter.record (.ending entry failure) none
  have completed : session.queue.complete? session.queue.serial failure = some change := by
    have active : session.queue.active = some session.queue.serial := tended.active
    rw [Queue.complete?, if_pos active, tended.queued]
  have finished : session.step? = some
      { (ended.applyAndDeliver change).2 with
        stack := (ended.applyAndDeliver change).1 ++ [] } := by
    refine (step_of_stack stack).trans (congrArg some ?_)
    rw [advance_read_cons last.stored, follow_finish_some completed]
    rfl
  have yields : Yields shorter change left session.queue.issued [.ending entry failure] :=
    yields_record shorter (.ending entry failure) none
  have free := @record_of_free shorter (.ending entry failure) rfl tended.sent
  have sent : change.queue.outbox = [.ending entry failure] :=
    yields.outbox.trans (congrArg (· ++ _) tended.sent)
  have closed : change.queue.delivering = false :=
    (record_delivering shorter _ none).trans tended.closed
  have told := @strides_change users who note ended change notes (.ending entry failure) []
    tended.registered tended.unwatched (congrArg Change.stopped free) yields.recorded sent closed
  refine ⟨{ noting who note ended change (.ending entry failure) with stack := [] },
    .onward finished told, ?_, rfl, ?_⟩
  · refine @poised_noting users who note (past + 1) ended shorter _ [] rfl tended.serial
      tended.sent tended.registered tended.unwatched idle fun other listed => ?_
    have altered : ended.transfers = earlier ++ [transfer.close] :=
      congrArg Session.transfers (last.alter .close)
    rw [altered] at listed
    rcases List.mem_append.mp listed with old | new
    · exact tended.bounded other (last.transfers ▸ List.mem_append_left _ old)
    · exact Nat.le_of_eq (congrArg Transfer.serial (List.mem_singleton.mp new))
  · have informs := @informs_noting users who note ended change (.ending entry failure) []
    have recorded : ended.recorded = session.recorded := by
      change (session.log ++ [_]).filterMap _ = session.log.filterMap _
      rw [List.filterMap_append]
      exact List.append_nil _
    exact ⟨by rw [informs.recorded, recorded], informs.state, informs.slots⟩

/-- A transfer that is sent plain signals and its end follows them, and then the next request is
about to begin. -/
theorem Serves.fetches {entry : Entry} {left : List Entry} {session : Session users}
    (serves : Serves who past (entry :: left) session) (notes : Notes who note)
    {signals : List Signal} (plain : ∀ signal ∈ signals, signal.isPlain = true)
    (failure : Option Failure) :
    ∃ transfer next, session.transfer? session.queue.serial = some transfer ∧
      transfer.entry = entry ∧ transfer.serial = session.queue.serial ∧
      Strides (signals.length + 12)
        (session.begin (Script.ask (.signal (signals ++ [.finish failure])))) next ∧
      Poised who (past + 1) left next ∧ next.stack = [] ∧
      Informs note session next [.ending entry failure]
        (slotsAfter transfer signals session.slots) := by
  obtain ⟨earlier, status, last⟩ := serves.heads entry rfl
  let reading : Session users :=
    { session with
      stack := [.transfer session.queue.serial (signals ++ [.finish failure]) 127] }
  have holds : Last reading earlier ⟨session.queue.serial, entry, .fetching, false, status, []⟩ :=
    ⟨last.transfers, last.apart⟩
  have tended : Tended who past (entry :: left) reading :=
    ⟨serves.queued, serves.active, serves.serial, serves.sent, serves.closed, serves.registered,
      serves.unwatched, serves.bounded⟩
  obtain ⟨read, strides, followed, stack⟩ := strides_plain holds plain rfl
  obtain ⟨final, transfers⟩ := followed.transfers
  have serial : read.queue.serial = session.queue.serial := congrArg Queue.serial followed.queue
  have still : Last read earlier ⟨read.queue.serial, entry, .fetching, false, final, []⟩ := by
    rw [serial]
    exact ⟨transfers, last.apart⟩
  obtain ⟨next, ends, poised, quiet, told⟩ := (tended.followed holds followed).finishes notes still
    (followed.ready.trans serves.ready) (by rw [serial]; exact stack)
  refine ⟨_, next, last.stored, rfl, rfl, ?_, poised, quiet, ?_⟩
  · have whole := (serves.reads last (signals ++ [.finish failure])).trans (strides.trans ends)
    rwa [show 4 + (signals.length + 8) = signals.length + 12 by omega] at whole
  · have recorded : read.recorded = session.recorded := followed.recorded
    have state : read.state = session.state := followed.state
    refine ⟨?_, ?_, told.slots.trans followed.slots⟩
    · rw [told.recorded, recorded]
    · rw [told.state, state]

end Session

end Sailplane.Download
