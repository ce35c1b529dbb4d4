import Mathlib.Data.List.Sort
import Sailplane.Proofs.Download.Accounts

/-!
# Requests in line

Transfers are started in the order in which their requests were queued: the request of a transfer
that no longer runs came before all that wait. Each change of the queue is shown to keep this.
-/
namespace Sailplane.Download

/-- Whether one request was queued before another. -/
def Sooner (first second : Entry) : Prop := first.ticket < second.ticket

/-- Requests in the order of their tickets that are among others in that order come in the order of
those. -/
theorem sublist_of_sooner {part all : List Entry} (sorted : part.Pairwise Sooner)
    (ordered : all.Pairwise Sooner) (among : ∀ entry ∈ part, entry ∈ all) : part.Sublist all := by
  have strict : Std.Antisymm Sooner :=
    ⟨fun first second less greater => absurd (Nat.lt_trans less greater) (Nat.lt_irrefl _)⟩
  have distinct : part.Nodup := by
    refine sorted.imp ?_
    rintro first second less rfl
    exact Nat.lt_irrefl _ less
  exact List.sublist_of_subperm_of_pairwise (List.subperm_of_subset distinct among) sorted ordered

/-- The first of some requests in the order of their tickets came before the rest. -/
theorem sooner_of_head {entries : List Entry} {leader : Entry} (sorted : entries.Pairwise Sooner)
    (head : entries.head? = some leader) : ∀ entry ∈ entries.tail, Sooner leader entry := by
  obtain ⟨rest, rfl⟩ := List.head?_eq_some_iff.mp head
  exact fun entry listed => (List.pairwise_cons.mp sorted).1 entry listed

/-- None of some requests in the order of their tickets came before the first. -/
theorem not_sooner_of_head {entries : List Entry} {leader entry : Entry}
    (sorted : entries.Pairwise Sooner) (head : entries.head? = some leader)
    (listed : entry ∈ entries) : ¬Sooner entry leader := by
  have later := sooner_of_head sorted head
  obtain ⟨rest, rfl⟩ := List.head?_eq_some_iff.mp head
  intro sooner
  rcases List.mem_cons.mp listed with rfl | behind
  · exact Nat.lt_irrefl _ sooner
  · exact Nat.lt_asymm sooner (later entry behind)

/-- The requests of a balanced ledger come in the order of their tickets. -/
theorem Ledger.Balanced.ordered {ledger : Ledger} (balanced : ledger.Balanced) :
    ledger.requests.Pairwise Sooner := by
  have tickets : (ledger.requests.map (·.ticket)).Pairwise (· < ·) := by
    rw [balanced.numbered]
    exact List.pairwise_lt_range
  rw [List.pairwise_map] at tickets
  exact tickets

/-- The requests that wait come in the order of their tickets. -/
theorem Ledger.Balanced.sorted {ledger : Ledger} (balanced : ledger.Balanced) :
    ledger.queue.Pairwise Sooner := by
  rw [balanced.waiting]
  exact balanced.ordered.filter _

/-- Every ticket that was given out is smaller than the next one. -/
theorem Ledger.Balanced.ticket_lt {ledger : Ledger} (balanced : ledger.Balanced) {entry : Entry}
    (listed : entry ∈ ledger.requests) : entry.ticket < ledger.requests.length := by
  have numbered : entry.ticket ∈ ledger.requests.map (·.ticket) := List.mem_map_of_mem listed
  rwa [balanced.numbered, List.mem_range] at numbered

/-- Whether transfers were started in the order of their requests. -/
structure Line (requests queue : List Entry) (active : Option Nat) (tasks : List Transfer) :
    Prop where
  /-- Transfers are for requests that were queued. -/
  asked : ∀ transfer ∈ tasks, transfer.entry ∈ requests
  /-- A transfer that was started later is for a later request. -/
  rising : ∀ earlier ∈ tasks, ∀ later ∈ tasks, earlier.serial < later.serial →
    Sooner earlier.entry later.entry
  /-- A transfer that does not run for the queue is for an earlier request than those that wait. -/
  ahead : ∀ transfer ∈ tasks, active ≠ some transfer.serial → ∀ entry ∈ queue,
    Sooner transfer.entry entry

namespace Line

variable {requests queue others : List Entry} {active remaining : Option Nat}
  {tasks : List Transfer}

/-- In the beginning there are no transfers. -/
theorem initial : Line [] [] none [] where
  asked := fun _ listed => absurd listed List.not_mem_nil
  rising := fun _ listed => absurd listed List.not_mem_nil
  ahead := fun _ listed => absurd listed List.not_mem_nil

/-- Transfers that keep their serials and requests stay in line. -/
theorem changeAt (line : Line requests queue active tasks) (serial : Nat)
    (change : Transfer → Transfer)
    (serials : ∀ transfer, (change transfer).serial = transfer.serial)
    (entries : ∀ transfer, (change transfer).entry = transfer.entry) :
    Line requests queue active (Download.changeAt serial change tasks) := by
  have origin : ∀ transfer ∈ Download.changeAt serial change tasks, ∃ other ∈ tasks,
      transfer.serial = other.serial ∧ transfer.entry = other.entry := by
    intro transfer listed
    rcases mem_changeAt.mp listed with ⟨other, there, _, rfl⟩ | ⟨there, _⟩
    · exact ⟨other, there, serials other, entries other⟩
    · exact ⟨transfer, there, rfl, rfl⟩
  refine ⟨?_, ?_, ?_⟩
  · intro transfer listed
    obtain ⟨other, there, _, same⟩ := origin transfer listed
    rw [same]
    exact line.asked other there
  · intro earlier before later after less
    obtain ⟨first, one, firstSerial, firstEntry⟩ := origin earlier before
    obtain ⟨second, two, secondSerial, secondEntry⟩ := origin later after
    rw [firstSerial, secondSerial] at less
    rw [firstEntry, secondEntry]
    exact line.rising first one second two less
  · intro transfer listed inactive entry waits
    obtain ⟨other, there, serialSame, same⟩ := origin transfer listed
    rw [serialSame] at inactive
    rw [same]
    exact line.ahead other there inactive entry waits

/-- A request may join behind all others. -/
theorem join (line : Line requests queue active tasks) {entry : Entry}
    (last : ∀ other ∈ requests, Sooner other entry) :
    Line (requests ++ [entry]) (queue ++ [entry]) active tasks where
  asked := fun transfer listed => List.mem_append_left _ (line.asked transfer listed)
  rising := line.rising
  ahead := by
    intro transfer listed inactive other waits
    rcases List.mem_append.mp waits with old | new
    · exact line.ahead transfer listed inactive other old
    · rw [List.mem_singleton.mp new]
      exact last transfer.entry (line.asked transfer listed)

/-- Requests may leave the queue, and the transfer that runs with those up to its own. -/
theorem narrow (line : Line requests queue active tasks) (fewer : ∀ entry ∈ others, entry ∈ queue)
    (released : ∀ transfer ∈ tasks, remaining ≠ some transfer.serial →
      active = some transfer.serial → ∀ entry ∈ others, Sooner transfer.entry entry) :
    Line requests others remaining tasks where
  asked := line.asked
  rising := line.rising
  ahead := by
    intro transfer listed inactive entry waits
    by_cases ran : active = some transfer.serial
    · exact released transfer listed inactive ran entry waits
    · exact line.ahead transfer listed ran entry (fewer entry waits)

/-- When nothing runs a transfer for the first request may be started. -/
theorem launch {entry : Entry} {rest : List Entry} {serial : Nat}
    (line : Line requests (entry :: rest) none tasks) (queued : entry ∈ requests)
    (bounded : ∀ transfer ∈ tasks, transfer.serial ≤ serial) :
    Line requests (entry :: rest) (some (serial + 1))
      (tasks ++ [(Transfer.new ⟨serial + 1, entry⟩).bare]) := by
  have free (transfer : Transfer) : (none : Option Nat) ≠ some transfer.serial := by simp
  refine ⟨?_, ?_, ?_⟩
  · intro transfer listed
    rcases List.mem_append.mp listed with old | new
    · exact line.asked transfer old
    · rw [List.mem_singleton.mp new]
      exact queued
  · intro earlier before later after less
    rcases List.mem_append.mp before with first | new
    · rcases List.mem_append.mp after with second | new
      · exact line.rising earlier first later second less
      · rw [List.mem_singleton.mp new]
        exact line.ahead earlier first (free earlier) entry List.mem_cons_self
    · have highest : earlier.serial = serial + 1 := by
        rw [List.mem_singleton.mp new]
        rfl
      have bound : later.serial ≤ serial + 1 := by
        rcases List.mem_append.mp after with second | new
        · exact Nat.le_succ_of_le (bounded later second)
        · rw [List.mem_singleton.mp new]
          exact Nat.le_refl _
      omega
  · intro transfer listed inactive other waits
    rcases List.mem_append.mp listed with old | new
    · exact line.ahead transfer old (free transfer) other waits
    · refine absurd ?_ inactive
      rw [List.mem_singleton.mp new]
      rfl

end Line

/-! ## Changes of the queue -/

section Changes

variable {requests : List Entry} {queue : Queue} {tasks : List Transfer} {change : Change}

/-- To stop a transfer keeps transfers in line. -/
theorem Line.halt {entries : List Entry} {active : Option Nat}
    (line : Line requests entries active tasks) (stopped : Option Nat) :
    Line requests entries active (halt stopped tasks) := by
  cases stopped with
  | none => exact line
  | some serial => exact line.changeAt serial .stop (fun _ => rfl) fun _ => rfl

/-- To change a transfer gives no new serials if that keeps its own. -/
theorem serial_le_changeAt {bound : Nat} (bounded : ∀ transfer ∈ tasks, transfer.serial ≤ bound)
    (serial : Nat) (change : Transfer → Transfer)
    (serials : ∀ transfer, (change transfer).serial = transfer.serial) :
    ∀ transfer ∈ changeAt serial change tasks, transfer.serial ≤ bound := by
  intro transfer listed
  rcases mem_changeAt.mp listed with ⟨origin, there, _, rfl⟩ | ⟨there, _⟩
  · rw [serials]
    exact bounded origin there
  · exact bounded transfer there

/-- To stop a transfer gives no new serials. -/
theorem serial_le_halt {bound : Nat} (bounded : ∀ transfer ∈ tasks, transfer.serial ≤ bound)
    (stopped : Option Nat) : ∀ transfer ∈ halt stopped tasks, transfer.serial ≤ bound := by
  cases stopped with
  | none => exact bounded
  | some serial => exact serial_le_changeAt bounded serial .stop fun _ => rfl

/-- To record a notice keeps transfers in line, with the one that is started. -/
theorem line_record (notice : Notice) (stopped : Option Nat)
    (line : Line requests queue.entries queue.active tasks)
    (queued : ∀ entry ∈ queue.entries, entry ∈ requests)
    (bounded : ∀ transfer ∈ tasks, transfer.serial ≤ queue.serial) :
    Line requests (queue.record notice stopped).queue.entries
      (queue.record notice stopped).queue.active ((queue.record notice stopped).tasks tasks) := by
  have halted := line.halt stopped
  have below := serial_le_halt bounded stopped
  obtain ⟨entries, active, serial, issued, outbox, delivering⟩ := queue
  cases active with
  | some running =>
    simp only [Queue.record, Queue.startHead, Change.tasks, Option.toList_none, List.map_nil,
      List.append_nil]
    exact halted
  | none =>
    cases entries with
    | nil =>
      simp only [Queue.record, Queue.startHead, Change.tasks, Option.toList_none, List.map_nil,
        List.append_nil]
      exact halted
    | cons entry rest => exact halted.launch (queued entry List.mem_cons_self) below

/-- A request that is queued joins the line. -/
theorem line_enqueue (request : Request)
    (line : Line requests queue.entries queue.active tasks)
    (queued : ∀ entry ∈ queue.entries, entry ∈ requests)
    (bounded : ∀ transfer ∈ tasks, transfer.serial ≤ queue.serial)
    (last : ∀ other ∈ requests, Sooner other ⟨queue.issued, request⟩) :
    Line (requests ++ [⟨queue.issued, request⟩]) (queue.enqueue request).queue.entries
      (queue.enqueue request).queue.active ((queue.enqueue request).tasks tasks) := by
  refine line_record _ none (line.join last) ?_ bounded
  intro entry listed
  rcases List.mem_append.mp listed with old | new
  · exact List.mem_append_left _ (queued entry old)
  · exact List.mem_append_right _ new

/-- A request that is cancelled leaves the line. -/
theorem line_cancel {name : String} (found : queue.cancel? name = some change)
    (line : Line requests queue.entries queue.active tasks)
    (queued : ∀ entry ∈ queue.entries, entry ∈ requests)
    (bounded : ∀ transfer ∈ tasks, transfer.serial ≤ queue.serial)
    (sorted : queue.entries.Pairwise Sooner)
    (front : ∀ transfer ∈ tasks, queue.active = some transfer.serial →
      queue.entries.head? = some transfer.entry) :
    Line requests change.queue.entries change.queue.active (change.tasks tasks) := by
  obtain ⟨entry, first, rfl⟩ := Option.map_eq_some_iff.mp found
  have fewer : ∀ other ∈ queue.entries.eraseP (fun entry => entry.name == name),
      other ∈ queue.entries := fun other listed => List.mem_of_mem_eraseP listed
  dsimp only
  split
  · rename_i running
    rw [Bool.and_eq_true] at running
    refine line_record _ queue.active (line.narrow fewer ?_)
      (fun other listed => queued other (fewer other listed)) bounded
    intro transfer listed _ runs other waits
    have head := front transfer listed runs
    have later := sooner_of_head sorted head
    obtain ⟨rest, entries⟩ := List.head?_eq_some_iff.mp head
    have chosen : (transfer.entry.name == name) = true := by
      simpa [entries] using running.1
    have left : queue.entries.eraseP (fun entry => entry.name == name) = queue.entries.tail := by
      rw [entries, List.eraseP_cons, chosen]
      rfl
    change other ∈ queue.entries.eraseP fun entry => entry.name == name at waits
    rw [left] at waits
    exact later other waits
  · refine line_record _ none (line.narrow fewer ?_)
      (fun other listed => queued other (fewer other listed)) bounded
    exact fun transfer _ inactive runs => absurd runs inactive

/-- A request whose transfer has ended leaves the line. -/
theorem line_complete {transfer : Transfer} {failure : Option Failure}
    (completed : queue.complete? transfer.serial failure = some change)
    (line : Line requests queue.entries queue.active tasks)
    (queued : ∀ entry ∈ queue.entries, entry ∈ requests)
    (bounded : ∀ transfer ∈ tasks, transfer.serial ≤ queue.serial)
    (sorted : queue.entries.Pairwise Sooner)
    (front : ∀ transfer ∈ tasks, queue.active = some transfer.serial →
      queue.entries.head? = some transfer.entry) :
    Line requests change.queue.entries change.queue.active
      (change.tasks (changeAt transfer.serial .close tasks)) := by
  have fewer : ∀ entry ∈ queue.entries.tail, entry ∈ queue.entries :=
    fun entry listed => List.mem_of_mem_tail listed
  have narrowed : Line requests queue.entries.tail none tasks := by
    refine line.narrow fewer ?_
    intro other listed _ runs entry waits
    exact sooner_of_head sorted (front other listed runs) entry waits
  have closed := narrowed.changeAt transfer.serial .close (fun _ => rfl) fun _ => rfl
  have below := serial_le_changeAt bounded transfer.serial .close fun _ => rfl
  rw [Queue.complete?] at completed
  split at completed
  · split at completed
    · rename_i empty
      obtain rfl := Option.some.inj completed
      rw [empty] at closed
      rw [Change.tasks, Option.toList_none, List.map_nil, List.append_nil, empty]
      exact closed
    · rename_i entry rest entries
      obtain rfl := Option.some.inj completed
      rw [entries] at closed fewer
      refine line_record _ none closed (fun other listed => ?_) below
      exact queued other (entries ▸ fewer other listed)
  · exact absurd completed (by simp)

end Changes

end Sailplane.Download
