import Sailplane.Proofs.Download.Renumbering

/-!
# Twins

Two sessions of which one has a past: its queue has given out numbers before, and transfers of that
past may still be there, stopped or over. But for these the two are the same, and whatever both do
keeps them the same.
-/
namespace Sailplane.Download

/-- Whether a task was not ready before a lead. -/
def Job.isSince (lead : Lead) : Job → Bool
  | transfer serial => decide (lead.serials < serial)
  | watcher _ => true

/-- Whether something seen is not the end of a transfer that was there before a lead. -/
def Observation.isSince {Listener Note : Type} (lead : Lead) : Observation Listener Note → Bool
  | dropped launch => decide (lead.serials < launch.serial)
  | _ => true

/-- Whether a transfer was there before a lead and is stopped or over. -/
def Transfer.Gone (lead : Lead) (transfer : Transfer) : Prop :=
  transfer.serial ≤ lead.serials ∧ (transfer.stopped = true ∨ transfer.phase = .closed)

/-- Whether the transfers that a change stops and starts have serials. -/
structure Change.Numbered (change : Change) : Prop where
  /-- The transfer to stop has one. -/
  stopped : ∀ serial, change.stopped = some serial → 0 < serial
  /-- The transfer to start has one. -/
  started : ∀ launch, change.started = some launch → 0 < launch.serial

namespace Session

variable {users : Users} {lead : Lead} {before : List (Observation users.Listener users.Note)}
  {old fresh : Session users} {transfer : Transfer} {serial : Nat}

/-- Whether two sessions are the same, but for what has begun, when one of them was numbered after a
lead and has a past. -/
structure Alike (lead : Lead) (before : List (Observation users.Listener users.Note))
    (old fresh : Session users) : Prop where
  /-- The queues are the same. -/
  queue : old.queue = fresh.queue.behind lead
  /-- Before the same transfers there are those of the past. -/
  transfers : ∃ gone, old.transfers = gone ++ fresh.transfers.map (Transfer.behind lead) ∧
    ∀ transfer ∈ gone, transfer.Gone lead
  /-- The listeners are the same. -/
  registry : old.registry = fresh.registry
  /-- The slots are the same. -/
  slots : old.slots = fresh.slots
  /-- What callers share is the same. -/
  state : old.state = fresh.state
  /-- The same tasks wait. -/
  waiting : old.waiting = fresh.waiting
  /-- Among the tasks of the past the same tasks are ready in the same order. -/
  ready : old.ready.filter (Job.isSince lead) = fresh.ready.map (Job.behind lead)
  /-- Since then the same was seen, among what was seen of the transfers of the past. -/
  log : ∃ seen, old.log = before ++ seen ∧
    seen.filter (Observation.isSince lead) = fresh.log.map (Observation.behind lead)

/-- Whether two sessions are the same when one of them was numbered after a lead and has a past. -/
structure Twins (lead : Lead) (before : List (Observation users.Listener users.Note))
    (old fresh : Session users) : Prop extends Alike lead before old fresh where
  /-- The same has begun. -/
  stack : old.stack = fresh.stack.map (Frame.behind lead)

/-! ## Transfers after a lead -/

/-- A change at a serial acts on the transfers of two lists one after the other. -/
theorem changeAt_append (serial : Nat) (change : Transfer → Transfer)
    (tasks others : List Transfer) :
    changeAt serial change (tasks ++ others) =
      changeAt serial change tasks ++ changeAt serial change others :=
  List.map_append

/-- A change at a serial that no transfer has changes nothing. -/
theorem changeAt_absent {change : Transfer → Transfer} {tasks : List Transfer}
    (absent : ∀ transfer ∈ tasks, transfer.serial ≠ serial) :
    changeAt serial change tasks = tasks := by
  have same : ∀ transfer ∈ tasks,
      (if transfer.serial == serial then change transfer else transfer) = transfer := by
    intro transfer listed
    rw [if_neg fun found => absent transfer listed (beq_iff_eq.mp found)]
  exact (List.map_congr_left same).trans (List.map_id' tasks)

/-- A change that goes with the numbers changes the same transfer after a lead. -/
theorem changeAt_behind (lead : Lead) {change : Transfer → Transfer}
    (commutes : ∀ transfer, change (transfer.behind lead) = (change transfer).behind lead)
    (tasks : List Transfer) :
    changeAt (lead.shift serial) change (tasks.map (Transfer.behind lead)) =
      (changeAt serial change tasks).map (Transfer.behind lead) := by
  rw [changeAt, changeAt, List.map_map, List.map_map]
  apply List.map_congr_left
  intro transfer _
  have same : (transfer.behind lead).serial = lead.shift serial ↔ transfer.serial = serial :=
    lead.shift_inj
  simp only [Function.comp_apply, beq_iff_eq, same]
  split
  · exact commutes transfer
  · rfl

/-- A serial given out after a lead is greater than all before. -/
theorem lt_shift (lead : Lead) (positive : 0 < serial) : lead.serials < lead.shift serial := by
  rw [Lead.shift]
  omega

/-- A transfer of the past does not have a serial given out since. -/
theorem Gone.ne_shift (gone : transfer.Gone lead) (positive : 0 < serial) :
    transfer.serial ≠ lead.shift serial := by
  intro same
  have past := gone.1
  have since := lt_shift lead positive
  omega

/-- A task for a serial given out since is of the time since. -/
theorem isSince_shift (positive : 0 < serial) :
    (Job.transfer (lead.shift serial)).isSince lead = true :=
  decide_eq_true (lt_shift lead positive)

namespace Alike

variable (alike : Alike lead before old fresh)
include alike

/-! ## Transfers -/

/-- The transfer of a serial given out since is the same. -/
theorem transfer_eq (positive : 0 < serial) :
    old.transfer? (lead.shift serial) =
      (fresh.transfer? serial).map (Transfer.behind lead) := by
  obtain ⟨gone, transfers, past⟩ := alike.transfers
  have missing : (gone.find? fun transfer => transfer.serial == lead.shift serial) = none := by
    rw [List.find?_eq_none]
    intro transfer listed
    rw [beq_iff_eq]
    exact Gone.ne_shift (past transfer listed) positive
  have same : (fun transfer : Transfer => transfer.serial == lead.shift serial) ∘
      Transfer.behind lead = fun transfer => transfer.serial == serial := by
    funext transfer
    rw [Function.comp_apply, Bool.eq_iff_iff, beq_iff_eq, beq_iff_eq]
    exact lead.shift_inj
  rw [transfer?, transfers, List.find?_append, missing, Option.none_or, List.find?_map, same,
    transfer?]

/-- A change of a transfer given out since that goes with the numbers keeps the sessions alike. -/
theorem alter (positive : 0 < serial) (change : Transfer → Transfer)
    (commutes : ∀ transfer, change (transfer.behind lead) = (change transfer).behind lead) :
    Alike lead before (old.alter (lead.shift serial) change) (fresh.alter serial change) := by
  obtain ⟨gone, transfers, past⟩ := alike.transfers
  have absent : ∀ transfer ∈ gone, transfer.serial ≠ lead.shift serial :=
    fun transfer listed => Gone.ne_shift (past transfer listed) positive
  refine { alike with transfers := ⟨gone, ?_, past⟩ }
  change changeAt (lead.shift serial) change old.transfers =
    gone ++ (changeAt serial change fresh.transfers).map (Transfer.behind lead)
  rw [transfers, changeAt_append, changeAt_absent absent, changeAt_behind lead commutes]

/-- A change of a transfer of the past that leaves it stopped or over keeps the sessions alike. -/
theorem alter_gone (numbered : ∀ transfer ∈ fresh.transfers, 0 < transfer.serial)
    (late : serial ≤ lead.serials) (change : Transfer → Transfer)
    (kept : ∀ transfer : Transfer, transfer.Gone lead → (change transfer).Gone lead) :
    Alike lead before (old.alter serial change) fresh := by
  obtain ⟨gone, transfers, past⟩ := alike.transfers
  have absent : ∀ transfer ∈ fresh.transfers.map (Transfer.behind lead),
      transfer.serial ≠ serial := by
    rintro _ listed rfl
    obtain ⟨transfer, there, rfl⟩ := List.mem_map.mp listed
    exact absurd (lt_shift lead (numbered transfer there)) (Nat.not_lt.mpr late)
  refine { alike with transfers := ⟨changeAt serial change gone, ?_, ?_⟩ }
  · change changeAt serial change old.transfers = _
    rw [transfers, changeAt_append, changeAt_absent absent]
  · intro transfer listed
    obtain ⟨origin, there, rfl⟩ := List.mem_map.mp listed
    split
    · exact kept origin (past origin there)
    · exact past origin there

/-! ## Tasks and the log -/

/-- A task given out since is ready in both sessions or in neither. -/
theorem mem_ready (positive : 0 < serial) :
    .transfer (lead.shift serial) ∈ old.ready ↔ .transfer serial ∈ fresh.ready := by
  have filtered : .transfer (lead.shift serial) ∈ old.ready ↔
      .transfer (lead.shift serial) ∈ old.ready.filter (Job.isSince lead) := by
    rw [List.mem_filter, isSince_shift positive, and_iff_left rfl]
  rw [filtered, alike.ready, List.mem_map]
  constructor
  · rintro ⟨job, ready, same⟩
    cases job with
    | transfer other =>
      rw [Job.behind, Job.transfer.injEq, lead.shift_inj] at same
      exact same ▸ ready
    | watcher label => exact Job.noConfusion same
  · intro ready
    exact ⟨_, ready, rfl⟩

/-- A transfer given out since that becomes ready keeps the sessions alike. -/
theorem schedule (positive : 0 < serial) :
    Alike lead before (old.schedule (lead.shift serial)) (fresh.schedule serial) := by
  have same := alike.mem_ready positive
  rw [Session.schedule, Session.schedule]
  by_cases ready : Job.transfer serial ∈ fresh.ready
  · rw [if_pos (List.contains_iff_mem.mpr ready),
      if_pos (List.contains_iff_mem.mpr (same.mpr ready))]
    exact alike
  · rw [if_neg fun listed => ready (List.contains_iff_mem.mp listed),
      if_neg fun listed => ready (same.mp (List.contains_iff_mem.mp listed))]
    refine { alike with ready := ?_ }
    rw [List.filter_append, alike.ready, List.filter_cons, isSince_shift positive, List.map_append]
    rfl

/-- A transfer of the past that becomes ready keeps the sessions alike. -/
theorem schedule_gone (late : serial ≤ lead.serials) :
    Alike lead before (old.schedule serial) fresh := by
  rw [Session.schedule]
  split
  · exact alike
  · refine { alike with ready := ?_ }
    have past : (Job.transfer serial).isSince lead = false :=
      decide_eq_false (Nat.not_lt.mpr late)
    rw [List.filter_append, alike.ready, List.filter_cons, past, if_neg Bool.false_ne_true,
      List.filter_nil, List.append_nil]

/-- A message for a transfer given out since keeps the sessions alike. -/
theorem post (positive : 0 < serial) (message : List Signal) :
    Alike lead before (old.post (lead.shift serial) message) (fresh.post serial message) :=
  (alike.alter positive (fun transfer =>
    { transfer with inbox := transfer.inbox ++ [message] }) fun _ => rfl).schedule positive

/-- A message for a transfer of the past keeps the sessions alike. -/
theorem post_gone (numbered : ∀ transfer ∈ fresh.transfers, 0 < transfer.serial)
    (late : serial ≤ lead.serials) (message : List Signal) :
    Alike lead before (old.post serial message) fresh :=
  (alike.alter_gone numbered late (fun transfer =>
    { transfer with inbox := transfer.inbox ++ [message] }) fun _ gone => gone).schedule_gone late

/-- What is seen in both keeps the sessions alike. -/
theorem see (observation : Observation users.Listener users.Note)
    (since : (observation.behind lead).isSince lead = true) :
    Alike lead before (old.see (observation.behind lead)) (fresh.see observation) := by
  obtain ⟨seen, log, same⟩ := alike.log
  refine { alike with log := ⟨seen ++ [observation.behind lead], ?_, ?_⟩ }
  · rw [Session.see, log, List.append_assoc]
  · rw [List.filter_append, same, List.filter_cons, since, if_pos rfl, List.filter_nil,
      Session.see, List.map_append]
    rfl

/-- The end of a transfer of the past keeps the sessions alike. -/
theorem see_gone {launch : Launch} (late : launch.serial ≤ lead.serials) :
    Alike lead before (old.see (.dropped launch)) fresh := by
  obtain ⟨seen, log, same⟩ := alike.log
  have past : (Observation.dropped launch : Observation users.Listener users.Note).isSince lead =
      false := decide_eq_false (Nat.not_lt.mpr late)
  refine { alike with log := ⟨seen ++ [.dropped launch], ?_, ?_⟩ }
  · rw [Session.see, log, List.append_assoc]
  · rw [List.filter_append, same, List.filter_cons, past, if_neg Bool.false_ne_true,
      List.filter_nil, List.append_nil]

/-- Woken tasks keep the sessions alike. -/
theorem wake : Alike lead before old.wake fresh.wake := by
  have since : (old.waiting.map Job.watcher).filter (Job.isSince lead) =
      (fresh.waiting.map Job.watcher).map (Job.behind lead) := by
    rw [alike.waiting, List.map_map, List.filter_eq_self.mpr]
    · rfl
    · intro job listed
      obtain ⟨label, _, rfl⟩ := List.mem_map.mp listed
      rfl
  refine { alike with waiting := rfl, ready := ?_ }
  rw [Session.wake, List.filter_append, alike.ready, since, Session.wake, List.map_append]

/-! ## Changes of the queue -/

/-- Recorded notices keep the sessions alike. -/
theorem record (change : Change) :
    Alike lead before
      { old with
        queue := (change.behind lead).queue
        log := old.log ++ (change.behind lead).recorded.map .recorded }
      { fresh with
        queue := change.queue
        log := fresh.log ++ change.recorded.map .recorded } := by
  obtain ⟨seen, log, same⟩ := alike.log
  refine { alike with
    queue := rfl
    log := ⟨seen ++ (change.recorded.map (Notice.behind lead)).map .recorded, ?_, ?_⟩ }
  · rw [← List.append_assoc, ← log]
    rfl
  · rw [List.filter_append, same, List.map_append, List.filter_eq_self.mpr, List.map_map,
      List.map_map]
    · rfl
    · intro observation listed
      obtain ⟨notice, _, rfl⟩ := List.mem_map.mp listed
      rfl

/-- A started transfer keeps the sessions alike. -/
theorem launch {launch : Launch} (positive : 0 < launch.serial) :
    Alike lead before
      { old with
        transfers := old.transfers ++ [.new (launch.behind lead)]
        ready := old.ready ++ [.transfer (launch.behind lead).serial] }
      { fresh with
        transfers := fresh.transfers ++ [.new launch]
        ready := fresh.ready ++ [.transfer launch.serial] } := by
  obtain ⟨gone, transfers, past⟩ := alike.transfers
  have since : (Job.transfer (launch.behind lead).serial).isSince lead = true :=
    isSince_shift positive
  refine { alike with transfers := ⟨gone, ?_, past⟩, ready := ?_ }
  · rw [transfers, List.map_append, List.append_assoc]
    rfl
  · rw [List.filter_append, alike.ready, List.filter_cons, since, List.map_append]
    rfl

/-- A change of the queue keeps the sessions alike. -/
theorem apply {change : Change} (numbered : change.Numbered) :
    Alike lead before (old.apply (change.behind lead)) (fresh.apply change) := by
  have recorded := alike.record change
  obtain ⟨queue, notices, stopped, started⟩ := change
  cases stopped with
  | none =>
    cases started with
    | none => exact recorded
    | some launch => exact recorded.launch (numbered.started launch rfl)
  | some serial =>
    have positive := numbered.stopped serial rfl
    have halted := (recorded.alter positive .stop fun _ => rfl).schedule positive
    cases started with
    | none => exact halted
    | some launch => exact halted.launch (numbered.started launch rfl)

/-- A change of the queue of which the notices are handed out sets off the same in both sessions and
keeps them alike. -/
theorem applyAndDeliver {change : Change} (numbered : change.Numbered) :
    (old.applyAndDeliver (change.behind lead)).1 =
        (fresh.applyAndDeliver change).1.map (Frame.behind lead) ∧
      Alike lead before (old.applyAndDeliver (change.behind lead)).2
        (fresh.applyAndDeliver change).2 := by
  have applied := alike.apply numbered
  have opens : (old.apply (change.behind lead)).queue.openDelivery? =
      (fresh.apply change).queue.openDelivery?.map (Queue.behind lead) := by
    rw [applied.queue, Queue.openDelivery_behind]
  rw [Session.applyAndDeliver, Session.applyAndDeliver, opens]
  cases (fresh.apply change).queue.openDelivery? with
  | none => exact ⟨rfl, applied⟩
  | some queue => exact ⟨rfl, { applied with queue := rfl }⟩

end Alike

end Session

end Sailplane.Download
