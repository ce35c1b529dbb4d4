import Sailplane.Proofs.Download.Audible
import Sailplane.Proofs.Download.SingleFlight

/-!
# Gauges

A transfer that was not stopped shows what it has reported since it was started: the last size and
the last position. What a transfer reports after it was stopped is shown by no other.
-/
namespace Sailplane.Download

/-! ## Reports -/

/-- The size that a signal reports. -/
def Signal.size? : Signal → Option UInt64
  | size bytes => some bytes
  | _ => none

/-- The position that a signal reports. -/
def Signal.position? : Signal → Option UInt64
  | position bytes => some bytes
  | _ => none

/-- Whether a signal reports progress. -/
def Signal.isReport : Signal → Bool
  | size _ => true
  | position _ => true
  | _ => false

namespace Status

/-- What reports come to since the start: the last size, or -1, and the last position, or 0. -/
def reported (signals : List Signal) : Status :=
  ⟨((signals.filterMap Signal.size?).getLast?.map clamp).getD (-1),
    ((signals.filterMap Signal.position?).getLast?.map clamp).getD 0⟩

/-- How far a download is after one signal more. -/
def hear (status : Status) : Signal → Status
  | .size bytes => status.withSize bytes
  | .position bytes => status.withPosition bytes
  | _ => status

/-- A report replaces the last one of its kind. -/
theorem reported_concat (signals : List Signal) (signal : Signal) :
    reported (signals ++ [signal]) = (reported signals).hear signal := by
  cases signal <;>
    simp [reported, hear, withSize, withPosition, Signal.size?, Signal.position?]

/-- A download that has started has a position. -/
theorem reported_nonneg (signals : List Signal) : 0 ≤ (reported signals).position := by
  rw [reported]
  cases (signals.filterMap Signal.position?).getLast? with
  | none => exact Int.le_refl 0
  | some bytes =>
    simp only [Option.map_some, Option.getD_some, clamp]
    omega

end Status

/-- The signal that the transfer of a launch is seen to follow. -/
def Observation.follows? {Listener Note : Type} (launch : Launch) :
    Observation Listener Note → Option Signal
  | followed other signal => if other = launch then some signal else none
  | _ => none

namespace Session

variable {users : Users} {session next : Session users} {transfer : Transfer}
  {heard : Launch → List Signal} {serial : Nat} {transfers : List Transfer}

/-- The signals that the transfer of a launch has followed, in order. -/
def reports (session : Session users) (launch : Launch) : List Signal :=
  session.log.filterMap (Observation.follows? launch)

/-- Whether transfers show what they have reported, and those to be started have reported
nothing. -/
structure Gauges (heard : Launch → List Signal) (serial : Nat) (transfers : List Transfer) :
    Prop where
  /-- A transfer that was not stopped shows what it has reported. -/
  shown : ∀ transfer ∈ transfers, transfer.stopped = false →
    transfer.status = .reported (heard (launchOf transfer))
  /-- A serial that was not given out has no reports. -/
  unheard : ∀ launch : Launch, serial < launch.serial → heard launch = []

namespace Gauges

/-- A transfer may change as long as it shows the same or is stopped. -/
theorem change (gauges : Gauges heard serial transfers) (other : Nat)
    (change : Transfer → Transfer)
    (same : ∀ transfer, launchOf (change transfer) = launchOf transfer)
    (kept : ∀ transfer, (change transfer).stopped = false →
      transfer.stopped = false ∧ (change transfer).status = transfer.status) :
    Gauges heard serial (changeAt other change transfers) where
  shown := by
    intro transfer listed running
    rcases mem_changeAt.mp listed with ⟨earlier, among, _, rfl⟩ | ⟨among, _⟩
    · obtain ⟨ran, shows⟩ := kept earlier running
      rw [shows, same]
      exact gauges.shown earlier among ran
    · exact gauges.shown transfer among running
  unheard := gauges.unheard

/-- A transfer that is started has reported nothing. -/
theorem launch (gauges : Gauges heard serial transfers) (entry : Entry) :
    Gauges heard (serial + 1) (transfers ++ [.new ⟨serial + 1, entry⟩]) where
  shown := by
    intro transfer listed running
    rcases List.mem_append.mp listed with old | new
    · exact gauges.shown transfer old running
    · obtain rfl := List.mem_singleton.mp new
      have silent := gauges.unheard ⟨serial + 1, entry⟩ (Nat.lt_succ_self serial)
      exact (congrArg Status.reported silent).symm
  unheard launch later := gauges.unheard launch (Nat.lt_of_succ_lt later)

/-- A transfer that runs shows what it reports. -/
theorem hear (gauges : Gauges heard serial transfers) (listed : transfer ∈ transfers)
    (alone : ∀ other ∈ transfers, other.serial = transfer.serial → other = transfer)
    (bound : transfer.serial ≤ serial) (signal : Signal) :
    Gauges (fun launch => heard launch ++ if launchOf transfer = launch then [signal] else [])
      serial (changeAt transfer.serial
        (fun transfer => { transfer with status := transfer.status.hear signal }) transfers) where
  shown := by
    intro other among running
    rcases mem_changeAt.mp among with ⟨earlier, there, same, rfl⟩ | ⟨there, different⟩
    · obtain rfl := alone earlier there same
      have before := gauges.shown earlier there running
      change earlier.status.hear signal = .reported (heard (launchOf earlier) ++
        if launchOf earlier = launchOf earlier then [signal] else [])
      rw [if_pos rfl, Status.reported_concat, ← before]
    · have others : launchOf transfer ≠ launchOf other := by
        intro same
        exact different (congrArg Launch.serial same).symm
      rw [if_neg others, List.append_nil]
      exact gauges.shown other there running
  unheard launch later := by
    have others : launchOf transfer ≠ launch := by
      rintro rfl
      exact absurd bound (Nat.not_le_of_lt later)
    rw [if_neg others, List.append_nil]
    exact gauges.unheard launch later

end Gauges

/-! ## What keeps the gauges -/

/-- Whether whatever transfers show, as long as it is what they have reported, is so afterwards. -/
def Tends (session next : Session users) : Prop :=
  ∀ heard, Gauges heard session.queue.serial session.transfers →
    Gauges heard next.queue.serial next.transfers

/-- What touches neither the serials nor the transfers keeps the gauges. -/
theorem Tends.of_eq (serial : next.queue.serial = session.queue.serial)
    (transfers : next.transfers = session.transfers) : Tends session next := by
  intro heard gauges
  rw [serial, transfers]
  exact gauges

/-- One thing after another keeps the gauges. -/
theorem Tends.trans {middle : Session users} (first : Tends session middle)
    (second : Tends middle next) : Tends session next :=
  fun heard gauges => second heard (first heard gauges)

/-- A transfer may change as long as it shows the same. -/
theorem tends_alter (session : Session users) (serial : Nat) (change : Transfer → Transfer)
    (same : ∀ transfer, launchOf (change transfer) = launchOf transfer)
    (kept : ∀ transfer, (change transfer).stopped = false →
      transfer.stopped = false ∧ (change transfer).status = transfer.status) :
    Tends session (session.alter serial change) :=
  fun _ gauges => gauges.change serial change same kept

/-- A transfer that becomes ready shows the same. -/
theorem tends_schedule (session : Session users) (serial : Nat) :
    Tends session (session.schedule serial) := by
  rw [schedule_eq]
  exact .of_eq rfl rfl

/-- A transfer with one message more shows the same. -/
theorem tends_post (session : Session users) (serial : Nat) (message : List Signal) :
    Tends session (session.post serial message) := by
  have waiting := tends_alter session serial (fun transfer =>
    { transfer with inbox := transfer.inbox ++ [message] }) (fun _ => rfl)
    fun _ running => ⟨running, rfl⟩
  exact waiting.trans (tends_schedule _ serial)

/-- A transfer that is over shows the same. -/
theorem tends_close (session : Session users) (serial : Nat) :
    Tends session (session.alter serial .close) :=
  tends_alter session serial .close (fun _ => rfl) fun _ running => ⟨running, rfl⟩

/-- A transfer that comes to rest shows the same. -/
theorem tends_pause (session : Session users) (transfer : Transfer) :
    Tends session (session.pause transfer) := by
  rw [pause]
  split
  · exact tends_close session transfer.serial
  · exact .of_eq rfl rfl

/-- Whether a change starts at most one transfer, and that with the next serial. -/
def Proceeds (serial : Nat) (change : Change) : Prop :=
  (change.queue.serial = serial ∧ change.started = none) ∨
    ∃ entry, change.queue.serial = serial + 1 ∧ change.started = some ⟨serial + 1, entry⟩

/-- A notice that is recorded starts at most one transfer. -/
theorem proceeds_record (queue : Queue) (notice : Notice) (stopped : Option Nat) :
    Proceeds queue.serial (queue.record notice stopped) := by
  obtain ⟨entries, active, serial, issued, outbox, delivering⟩ := queue
  cases active with
  | some running => exact .inl ⟨rfl, rfl⟩
  | none =>
    cases entries with
    | nil => exact .inl ⟨rfl, rfl⟩
    | cons entry rest => exact .inr ⟨entry, rfl, rfl⟩

/-- A cancel starts at most one transfer. -/
theorem proceeds_cancel {queue : Queue} {name : String} {change : Change}
    (found : queue.cancel? name = some change) : Proceeds queue.serial change := by
  obtain ⟨entry, _, rfl⟩ := Option.map_eq_some_iff.mp found
  dsimp only
  split
  · exact proceeds_record { queue with
      entries := queue.entries.eraseP fun entry => entry.name == name, active := none } _ _
  · exact proceeds_record { queue with
      entries := queue.entries.eraseP fun entry => entry.name == name } _ _

/-- The end of a transfer starts at most one other. -/
theorem proceeds_complete {queue : Queue} {serial : Nat} {failure : Option Failure}
    {change : Change} (completed : queue.complete? serial failure = some change) :
    Proceeds queue.serial change := by
  rw [Queue.complete?] at completed
  split at completed
  · split at completed
    · obtain rfl := Option.some.inj completed
      exact .inl ⟨rfl, rfl⟩
    · rename_i entry rest _
      obtain rfl := Option.some.inj completed
      exact proceeds_record { queue with entries := rest, active := none } _ none
  · exact absurd completed (by simp)

/-- A change that starts at most one transfer keeps the gauges. -/
theorem tends_apply {change : Change} (proceeds : Proceeds session.queue.serial change) :
    Tends session (session.apply change) := by
  intro heard gauges
  have halted : Gauges heard session.queue.serial (halt change.stopped session.transfers) := by
    cases change.stopped with
    | none => exact gauges
    | some serial =>
      exact gauges.change serial .stop (fun _ => rfl) fun _ running => Bool.noConfusion running
  rw [apply_eq]
  rcases proceeds with ⟨serial, started⟩ | ⟨entry, serial, started⟩
  · simp only [serial, started, Option.toList_none, List.map_nil, List.append_nil]
    exact halted
  · simp only [serial, started, Option.toList_some, List.map_cons, List.map_nil]
    exact halted.launch entry

/-- So does one of which the notices are handed out. -/
theorem tends_applyAndDeliver {change : Change}
    (proceeds : Proceeds session.queue.serial change) :
    Tends session (session.applyAndDeliver change).2 := by
  have applied := tends_apply proceeds
  rw [applyAndDeliver_eq]
  rw [apply_eq] at applied ⊢
  exact applied

/-- Every call keeps the gauges. -/
theorem tends_perform (session : Session users) (operation : Operation users.Listener) :
    Tends session (session.perform operation).2.2 := by
  cases operation with
  | enqueue request => exact tends_applyAndDeliver (proceeds_record _ _ none)
  | cancel name =>
    cases found : session.queue.cancel? name with
    | none =>
      rw [perform_cancel_none found]
      exact .of_eq rfl rfl
    | some change =>
      rw [perform_cancel_some found]
      exact tends_applyAndDeliver (proceeds_cancel found)
  | shutdown =>
    have proceeds : Proceeds session.queue.serial session.queue.shutdown := .inl ⟨rfl, rfl⟩
    exact @tends_apply users (session.see (.emptied session.queue.entries)) _ proceeds
  | signal message =>
    rw [perform]
    split
    · exact tends_post session _ message
    · exact .of_eq rfl rfl
  | entries | enumerate | isIdle | watchIdle | newSlot | register | unregister | readSlot
  | takeSlot => exact .of_eq rfl rfl

/-! ## Steps -/

/-- A transfer that reads on keeps the gauges. -/
theorem tends_readNext (session : Session users) (transfer : Transfer) (allowance : Nat)
    (rest : List (Frame users)) : Tends session (session.readNext transfer allowance rest) := by
  cases allowance with
  | zero =>
    cases stopped : transfer.stopped with
    | true =>
      rw [readNext_zero_stopped stopped]
      exact tends_pause session transfer
    | false =>
      rw [readNext_zero_kept stopped]
      exact tends_schedule session transfer.serial
  | succ allowance =>
    cases inbox : transfer.inbox with
    | nil =>
      rw [readNext_nil inbox]
      exact tends_pause session transfer
    | cons message others =>
      rw [readNext_cons inbox]
      exact tends_alter session transfer.serial (fun transfer => { transfer with inbox := others })
        (fun _ => rfl) fun _ running => ⟨running, rfl⟩

/-- A task that runs keeps the gauges. -/
theorem tends_run (session : Session users) (job : Job) : Tends session (session.run job) := by
  cases job with
  | watcher label =>
    rw [run]
    split
    · exact .of_eq rfl rfl
    · exact .of_eq rfl rfl
  | transfer serial =>
    cases stored : session.transfer? serial with
    | none =>
      rw [run_missing stored]
      exact .of_eq rfl rfl
    | some transfer =>
      cases phase : transfer.phase with
      | closed =>
        rw [run_closed stored phase]
        exact .of_eq rfl rfl
      | waiting =>
        cases stopped : transfer.stopped with
        | true =>
          rw [run_discarded stored phase stopped]
          exact tends_close session serial
        | false =>
          rw [run_begun stored phase stopped]
          exact tends_alter session serial .enter (fun _ => rfl) fun _ running => ⟨running, rfl⟩
      | fetching =>
        cases stopped : transfer.stopped with
        | true =>
          rw [run_dropped stored phase stopped]
          exact tends_pause session transfer
        | false =>
          rw [run_resumed stored phase stopped]
          exact .of_eq rfl rfl

/-- A transfer that ends keeps the gauges. -/
theorem tends_finish (session : Session users) (transfer : Transfer) (failure : Option Failure)
    (again : Frame users) (rest : List (Frame users)) :
    Tends session (session.follow transfer (.finish failure) again rest) := by
  have closed := tends_close session transfer.serial
  cases completed : session.queue.complete? transfer.serial failure with
  | none =>
    rw [follow_finish_none completed]
    exact closed
  | some change =>
    rw [follow_finish_some completed]
    let ended := (session.alter transfer.serial .close).see (.ended (launchOf transfer) failure)
    have delivered : Tends ended (ended.applyAndDeliver change).2 :=
      tends_applyAndDeliver (proceeds_complete completed)
    exact closed.trans delivered

/-- A transfer shows what it reports when it follows a signal. -/
theorem gauges_follow (gauges : Gauges heard session.queue.serial session.transfers)
    (listed : transfer ∈ session.transfers)
    (alone : ∀ other ∈ session.transfers, other.serial = transfer.serial → other = transfer)
    (bound : transfer.serial ≤ session.queue.serial) (signal : Signal)
    (pending : ∀ failure, signal ≠ .finish failure) (again : Frame users)
    (rest : List (Frame users)) :
    Gauges (fun launch => heard launch ++ if launchOf transfer = launch then [signal] else [])
      (session.follow transfer signal again rest).queue.serial
      (session.follow transfer signal again rest).transfers := by
  have shows := gauges.hear listed alone bound signal
  -- A signal that reports nothing leaves what is shown.
  have quiet (same : ∀ status : Status, status.hear signal = status) :
      Gauges (fun launch => heard launch ++ if launchOf transfer = launch then [signal] else [])
        session.queue.serial session.transfers := by
    have unchanged : changeAt transfer.serial (fun transfer =>
        { transfer with status := transfer.status.hear signal }) session.transfers =
        session.transfers := by
      refine (List.map_congr_left fun other _ => ?_).trans (List.map_id _)
      dsimp only
      rw [same, ite_self]
      rfl
    rwa [unchanged] at shows
  cases signal with
  | size bytes => exact shows
  | position bytes => exact shows
  | fill content =>
    cases place : transfer.entry.request.slotFor content with
    | none =>
      rw [follow_fill_none place]
      exact quiet fun _ => rfl
    | some slot =>
      rw [follow_fill_some place]
      exact quiet fun _ => rfl
  | cancel name =>
    rw [follow]
    split
    · exact tends_perform (session.see (.followed (launchOf transfer) (.cancel name)))
        (.cancel name) _ (quiet fun _ => rfl)
    · exact quiet fun _ => rfl
  | finish failure => exact absurd rfl (pending failure)

/-- Whether all transfers that were not stopped show what they have reported. -/
def Gauged (session : Session users) : Prop :=
  Gauges session.reports session.queue.serial session.transfers

/-- What is not said is no report. -/
theorem follows_unheard (launch : Launch) (observation : Observation users.Listener users.Note)
    (unheard : observation.isAudible = false) : observation.follows? launch = none := by
  cases observation with
  | followed other signal => exact Bool.noConfusion unheard
  | _ => rfl

/-- A signal that is followed is reported by the transfer that follows it and by no other. -/
theorem follows_followed (launch other : Launch) (signal : Signal) :
    [(.followed launch signal : Observation users.Listener users.Note)].filterMap
      (Observation.follows? other) = if launch = other then [signal] else [] := by
  by_cases same : launch = other
  · rw [if_pos same]
    exact List.filterMap_cons_some (if_pos same)
  · rw [if_neg same]
    exact List.filterMap_cons_none (if_neg same)

/-- No two transfers have one serial. -/
theorem Orderly.distinct (orderly : Orderly session) {first second : Transfer}
    (one : first ∈ session.transfers) (two : second ∈ session.transfers)
    (same : first.serial = second.serial) : first = second := by
  have numbered : session.transfers.map (·.serial) = List.range' 1 session.queue.serial := by
    rw [← orderly.steady.numbered, tasks, List.map_map]
    rfl
  have distinct : (session.transfers.map (·.serial)).Nodup := numbered ▸ List.nodup_range'
  exact List.inj_on_of_nodup_map distinct one two same

/-- After a step there are the reports of before and what the step reports. -/
theorem reports_step (taken : session.step? = some next) (framed : Framed session) :
    next.reports = fun launch => session.reports launch ++
      session.utterance?.toList.filterMap (Observation.follows? launch) :=
  funext fun launch => said_step _ (follows_unheard launch) taken framed

/-- A step that reports nothing and keeps the gauges leaves everything gauged. -/
theorem Gauged.tended (gauged : Gauged session) (taken : session.step? = some next)
    (framed : Framed session)
    (silent : ∀ launch, session.utterance?.bind (Observation.follows? launch) = none)
    (tends : Tends session next) : Gauged next := by
  have unreported : next.reports = session.reports := by
    rw [reports_step taken framed]
    funext launch
    have nothing := silent launch
    cases said : session.utterance? with
    | none => exact List.append_nil _
    | some observation =>
      rw [said, Option.bind_some] at nothing
      rw [Option.toList_some, List.filterMap_cons_none nothing, List.filterMap_nil,
        List.append_nil]
  rw [Gauged, unreported]
  exact tends _ gauged

/-- A transfer that follows a signal is gauged afterwards. -/
theorem Gauged.followed (gauged : Gauged session) (orderly : Orderly session)
    (framed : Framed session) {message : List Signal} {allowance : Nat} {signal : Signal}
    {rest : List (Frame users)}
    (stack : session.stack = .transfer serial (signal :: message) allowance :: rest)
    (stored : session.transfer? serial = some transfer) :
    Gauged (session.follow transfer signal (.transfer serial message allowance) rest) := by
  have taken := step_of_stack stack
  rw [advance_read_cons stored] at taken
  have said : session.utterance? = some (following transfer signal) := by
    simp only [utterance?, stack, stored, Option.map_some]
  by_cases ending : ∃ failure, signal = .finish failure
  · obtain ⟨failure, rfl⟩ := ending
    refine gauged.tended taken framed (fun launch => ?_) (tends_finish _ _ _ _ _)
    rw [said]
    rfl
  · have pending : ∀ failure, signal ≠ .finish failure := fun failure same => ending ⟨failure, same⟩
    have listed : transfer ∈ session.transfers := List.mem_of_find?_eq_some stored
    have alone : ∀ other ∈ session.transfers, other.serial = transfer.serial → other = transfer :=
      fun other there same => orderly.distinct there listed same
    have among : transfer.bare ∈ session.tasks := List.mem_map_of_mem listed
    have bound : transfer.bare.serial ≤ session.queue.serial := orderly.steady.serial_le among
    have shows := gauges_follow gauged listed alone bound signal pending
      (.transfer serial message allowance) rest
    have heard : following transfer signal =
        (.followed (launchOf transfer) signal : Observation users.Listener users.Note) := by
      cases signal with
      | finish failure => exact absurd rfl (pending failure)
      | _ => rfl
    rw [Gauged, reports_step taken framed, said, heard]
    simpa only [Option.toList_some, follows_followed] using shows

/-- What goes on other than by a signal keeps the gauges. -/
theorem tends_advance (session : Session users) (frame : Frame users) (rest : List (Frame users))
    (other : ∀ serial signal message allowance,
      frame ≠ .transfer serial (signal :: message) allowance) :
    Tends session (session.advance frame rest) := by
  cases frame with
  | script script =>
    cases script with
    | call operation next => exact tends_perform session operation
    | done | get | set | note => exact .of_eq rfl rfl
  | drain =>
    cases outbox : session.queue.outbox with
    | cons notice others =>
      rw [advance_drain_cons outbox]
      exact .of_eq rfl rfl
    | nil =>
      rw [advance_drain_nil outbox]
      dsimp only
      split
      · exact .of_eq rfl rfl
      · exact .of_eq rfl rfl
  | tell calls =>
    cases calls with
    | nil => exact .of_eq rfl rfl
    | cons call calls => exact .of_eq rfl rfl
  | transfer serial message allowance =>
    cases message with
    | cons signal message => exact absurd rfl (other serial signal message allowance)
    | nil =>
      cases stored : session.transfer? serial with
      | none =>
        rw [advance_read_missing stored]
        exact .of_eq rfl rfl
      | some transfer =>
        rw [advance_read_nil stored]
        exact tends_readNext session transfer allowance rest
  | «show» observation => exact .of_eq rfl rfl

/-- A step reports something only if a transfer follows a signal. -/
theorem unreported_of_stack (other : ∀ serial signal message allowance rest,
    session.stack ≠ .transfer serial (signal :: message) allowance :: rest) (launch : Launch) :
    session.utterance?.bind (Observation.follows? launch) = none := by
  rw [utterance?]
  split
  · rfl
  · rfl
  · rename_i serial signal message allowance rest stack
    exact absurd stack (other serial signal message allowance rest)
  · split <;> rfl
  · rfl

/-- After every step everything is gauged. -/
theorem Gauged.step (gauged : Gauged session) (orderly : Orderly session)
    (framed : Framed session) (taken : session.step? = some next) : Gauged next := by
  by_cases reading : ∃ serial signal message allowance rest,
      session.stack = .transfer serial (signal :: message) allowance :: rest
  · obtain ⟨serial, signal, message, allowance, rest, stack⟩ := reading
    have advanced := taken.symm.trans (step_of_stack stack)
    cases stored : session.transfer? serial with
    | some transfer =>
      rw [advance_read_cons stored, Option.some.injEq] at advanced
      rw [advanced]
      exact gauged.followed orderly framed stack stored
    | none =>
      rw [advance_read_missing stored, Option.some.injEq] at advanced
      have unsaid : session.utterance? = none := by
        simp only [utterance?, stack, stored, Option.map_none]
      refine gauged.tended taken framed (fun launch => ?_) ?_
      · rw [unsaid, Option.bind_none]
      · rw [advanced]
        exact .of_eq rfl rfl
  · have other : ∀ serial signal message allowance rest,
        session.stack ≠ .transfer serial (signal :: message) allowance :: rest :=
      fun serial signal message allowance rest stack =>
        reading ⟨serial, signal, message, allowance, rest, stack⟩
    refine gauged.tended taken framed (unreported_of_stack other) ?_
    rcases step_cases taken with ⟨frame, rest, stack, rfl⟩ | ⟨job, ready, _, _, rfl⟩
    · refine tends_advance session frame rest ?_
      rintro serial signal message allowance rfl
      exact other serial signal message allowance rest stack
    · exact tends_run ({ session with ready } : Session users) job

/-- What comes from outside leaves everything gauged. -/
theorem Gauged.input (gauged : Gauged session) (input : Input session next) : Gauged next := by
  have unreported : next.reports = session.reports :=
    funext fun launch => said_input (Observation.follows? launch) input
  rw [Gauged, unreported]
  cases input with
  | begin quiet script => exact gauged
  | arrive serial message =>
    rcases arrive_cases session serial message with same | ⟨_, _, _, posted⟩
    · rw [same]
      exact gauged
    · rw [posted]
      exact tends_post session serial message _ gauged

/-- In every session that can come about everything is gauged. -/
theorem Reachable.gauged (reachable : Reachable session) : Gauged session := by
  obtain ⟨state, past, run⟩ := reachable
  induction run with
  | refl => exact ⟨fun transfer listed => absurd listed List.not_mem_nil, fun _ _ => rfl⟩
  | step before taken ih =>
    exact ih.step (Reachable.orderly ⟨state, _, before⟩) (before.framed (framed_new state)) taken
  | input _ input ih => exact ih.input input

/-! ## What is shown -/

/-- What is shown when requests are queued. -/
theorem entries_of_queued {entry : Entry} {rest : List Entry}
    (queued : session.queue.entries = entry :: rest) : session.entries =
      (entry.name, ((session.queue.active.bind session.transfer?).map (·.status)).getD .queued) ::
        rest.map fun waiting => (waiting.name, .queued) := by
  simp only [entries, queued]

/-- The first request is shown with what the transfer that runs has reported, and those behind it
as waiting. -/
theorem Reachable.shows (reachable : Reachable session) {entry : Entry} {rest : List Entry}
    (queued : session.queue.entries = entry :: rest) : ∃ transfer,
      session.queue.active = some transfer.serial ∧
        session.transfer? transfer.serial = some transfer ∧ transfer.entry = entry ∧
        transfer.stopped = false ∧ transfer.phase ≠ .closed ∧
        session.entries =
          (entry.name, .reported (session.reports ⟨transfer.serial, entry⟩)) ::
            rest.map fun waiting => (waiting.name, .queued) := by
  have single := single_flight reachable
  have occupied := single.occupied.mpr (by rw [queued]; exact List.cons_ne_nil entry rest)
  obtain ⟨serial, active⟩ := Option.isSome_iff_exists.mp occupied
  obtain ⟨_, transfer, stored, head, running, pending⟩ := single.front serial active
  obtain rfl : entry = transfer.entry := by
    rw [queued, List.head?_cons, Option.some.injEq] at head
    exact head
  obtain rfl : transfer.serial = serial := (taskAt_of_stored stored).2
  have shown := reachable.gauged.shown transfer (List.mem_of_find?_eq_some stored) running
  refine ⟨transfer, active, stored, rfl, running, pending, ?_⟩
  rw [entries_of_queued queued, active, Option.bind_some, stored, Option.map_some,
    Option.getD_some, shown]
  rfl

/-- A report that a transfer follows changes nothing but what that transfer shows. -/
theorem follow_report (session : Session users) (transfer : Transfer) {signal : Signal}
    (report : signal.isReport = true) (again : Frame users) (rest : List (Frame users)) :
    (session.follow transfer signal again rest).queue = session.queue ∧
      (session.follow transfer signal again rest).transfers =
        changeAt transfer.serial
          (fun transfer => { transfer with status := transfer.status.hear signal })
          session.transfers := by
  cases signal with
  | size bytes => exact ⟨rfl, rfl⟩
  | position bytes => exact ⟨rfl, rfl⟩
  | cancel | fill | finish => exact Bool.noConfusion report

/-- A transfer that reads is there. -/
theorem stored_of_reading (framed : Framed session) {message : List Signal} {allowance : Nat}
    {rest : List (Frame users)}
    (stack : session.stack = .transfer serial message allowance :: rest) :
    ∃ transfer, session.transfer? serial = some transfer := by
  have nested := framed.nested
  rw [stack] at nested
  generalize session.queue.delivering = delivering at nested
  cases nested with
  | transfer found _ =>
    rw [taskAt_tasks] at found
    obtain ⟨transfer, stored, _⟩ := Option.map_eq_some_iff.mp found
    exact ⟨transfer, stored⟩

/-- A report shows exactly if it is one of the transfer that runs. -/
theorem entries_of_report (framed : Framed session) {message : List Signal} {allowance : Nat}
    {signal : Signal} {rest : List (Frame users)}
    (stack : session.stack = .transfer serial (signal :: message) allowance :: rest)
    (report : signal.isReport = true) (taken : session.step? = some next) :
    next.entries = if session.queue.active = some serial then
        session.entries.modifyHead fun shown => (shown.1, shown.2.hear signal)
      else session.entries := by
  obtain ⟨transfer, stored⟩ := stored_of_reading framed stack
  obtain rfl : transfer.serial = serial := (taskAt_of_stored stored).2
  have advanced := taken.symm.trans (step_of_stack stack)
  rw [advance_read_cons stored, Option.some.injEq] at advanced
  obtain ⟨queue, transfers⟩ := follow_report session transfer report
    (.transfer transfer.serial message allowance) rest
  rw [← advanced] at queue transfers
  -- What is found by a serial is what was found before, perhaps with a report more.
  have found (other : Nat) : next.transfer? other = (session.transfer? other).map fun transfer' =>
      if transfer'.serial == transfer.serial then
        { transfer' with status := transfer'.status.hear signal }
      else transfer' := by
    have changed := taskAt_changeAt transfer.serial other
      (fun transfer => { transfer with status := transfer.status.hear signal })
      session.transfers fun _ => rfl
    rw [← transfers] at changed
    exact changed
  cases queued : session.queue.entries with
  | nil =>
    have nothing : session.entries = [] := by simp only [entries, queued]
    rw [nothing, List.modifyHead_nil, ite_self]
    simp only [entries, queue, queued]
  | cons entry others =>
    rw [entries_of_queued (queue ▸ queued), entries_of_queued queued, queue]
    split
    · rename_i active
      rw [active, Option.bind_some, Option.bind_some, found, stored]
      simp
    · rename_i inactive
      congr 3
      cases active : session.queue.active with
      | none => rfl
      | some other =>
        rw [Option.bind_some, Option.bind_some, found]
        cases there : session.transfer? other with
        | none => rfl
        | some running =>
          have different : ¬(running.serial == transfer.serial) = true := by
            rw [beq_iff_eq, (taskAt_of_stored there).2]
            rintro rfl
            exact inactive active
          rw [Option.map_some, if_neg different]

end Session

end Sailplane.Download
