import Mathlib.Data.List.Nodup
import Sailplane.Download.History

/-!
# Ledgers

The account of what was asked of a queue and what it told. Every request is in one of three places:
it waits, it was taken away by a shutdown, or its last notice was recorded. Each way in which the
account goes on is shown to keep it balanced.
-/
namespace Sailplane.Download

/-- What was asked of a queue, what its transfers came to, what it recorded, and what waits. -/
structure Ledger where
  /-- The requests ever queued. -/
  requests : List Entry
  /-- Those that were cancelled. -/
  cancelled : List Entry
  /-- Those that were taken away by a shutdown. -/
  dropped : List Entry
  /-- The notices recorded. -/
  notices : List Notice
  /-- The requests whose transfers have ended, with their failures. -/
  results : List (Entry × Option Failure)
  /-- The requests that wait. -/
  queue : List Entry

/-- A request has left the queue exactly if a notice says so. -/
theorem mem_ended {notices : List Notice} {entry : Entry} :
    entry ∈ ended notices ↔
      ∃ notice ∈ notices, notice.isTerminal = true ∧ notice.entry = entry := by
  rw [ended, List.mem_map]
  constructor
  · rintro ⟨notice, listed, same⟩
    rw [List.mem_filter] at listed
    exact ⟨notice, listed.1, listed.2, same⟩
  · rintro ⟨notice, listed, terminal, same⟩
    exact ⟨notice, List.mem_filter.mpr ⟨listed, terminal⟩, same⟩

/-- What has ended goes on with what ends. -/
theorem ended_append (notices more : List Notice) :
    ended (notices ++ more) = ended notices ++ ended more := by
  rw [ended, List.filter_append, List.map_append]
  rfl

/-- What ends with a notice that a request is over is that request. -/
theorem ended_single {notice : Notice} (terminal : notice.isTerminal = true) :
    ended [notice] = [notice.entry] := by
  rw [ended, List.filter_cons_of_pos terminal]
  rfl

namespace Ledger

/-- Whether a request was neither taken away nor told to be over. -/
def stays (ledger : Ledger) (entry : Entry) : Bool :=
  decide (entry ∉ ledger.dropped ∧ entry ∉ ended ledger.notices)

/-- What was recorded of a request, in order. -/
def about (ledger : Ledger) (entry : Entry) : List Notice :=
  ledger.notices.filter fun notice => notice.entry == entry

/-- Whether the account of a queue is right. -/
structure Balanced (ledger : Ledger) : Prop where
  /-- Tickets were given out in order. -/
  numbered : ledger.requests.map (·.ticket) = List.range ledger.requests.length
  /-- What waits is what stays, in order. -/
  waiting : ledger.queue = ledger.requests.filter ledger.stays
  /-- Only what was queued is taken away, and nothing tells that it is over. -/
  gone : ∀ entry ∈ ledger.dropped, entry ∈ ledger.requests ∧ entry ∉ ended ledger.notices
  /-- Only what was queued is told of. -/
  known : ∀ notice ∈ ledger.notices, notice.entry ∈ ledger.requests
  /-- Of every request it is told that it was queued, and then at most that it is over. -/
  once : ∀ entry ∈ ledger.requests, ∃ last : Option Notice,
    ledger.about entry = .added entry :: last.toList ∧
      ∀ notice ∈ last, notice.isTerminal = true
  /-- What was cancelled is told to have ended without a failure and without a result. -/
  withdrawn : ∀ entry, .error entry none ∈ ledger.notices ↔ entry ∈ ledger.cancelled
  /-- The result of a transfer is told of its request unless that was cancelled or taken away. -/
  reported : ∀ entry failure, .ending entry failure ∈ ledger.notices ↔
    (entry, failure) ∈ ledger.results ∧ entry ∉ ledger.cancelled ∧ entry ∉ ledger.dropped

/-- Nothing was asked and nothing told. -/
def blank : Ledger := ⟨[], [], [], [], [], []⟩

/-- A request is queued. -/
def queueMore (ledger : Ledger) (entry : Entry) : Ledger :=
  { ledger with
    requests := ledger.requests ++ [entry]
    notices := ledger.notices ++ [.added entry]
    queue := ledger.queue ++ [entry] }

/-- A request leaves the queue with a notice. -/
def settle (ledger : Ledger) (notice : Notice) : Ledger :=
  { ledger with
    notices := ledger.notices ++ [notice]
    queue := ledger.queue.erase notice.entry }

/-- A request is cancelled. -/
def cancel (ledger : Ledger) (entry : Entry) : Ledger :=
  { ledger.settle (.error entry none) with cancelled := ledger.cancelled ++ [entry] }

/-- All requests are taken away. -/
def clear (ledger : Ledger) : Ledger :=
  { ledger with dropped := ledger.dropped ++ ledger.queue, queue := [] }

/-- A transfer ends. -/
def result (ledger : Ledger) (entry : Entry) (failure : Option Failure) : Ledger :=
  { ledger with results := ledger.results ++ [(entry, failure)] }

/-- A transfer ends whose request is told to be over. -/
def finish (ledger : Ledger) (entry : Entry) (failure : Option Failure) : Ledger :=
  (ledger.settle (.ending entry failure)).result entry failure

/-- Every notice that a request is over leaves the queue without it. -/
theorem ending_isTerminal (entry : Entry) (failure : Option Failure) :
    (Notice.ending entry failure).isTerminal = true := by
  cases failure with
  | none => rfl
  | some failure => rfl

/-- The notice that a request is over is about that request. -/
theorem ending_entry (entry : Entry) (failure : Option Failure) :
    (Notice.ending entry failure).entry = entry := by
  cases failure with
  | none => rfl
  | some failure => rfl

/-- The notice that a request is over tells which request and with what failure. -/
theorem ending_inj {first second : Entry} {left right : Option Failure}
    (same : Notice.ending first left = .ending second right) : first = second ∧ left = right := by
  cases left with
  | none =>
    cases right with
    | none => exact ⟨Notice.complete.inj same, rfl⟩
    | some failure => exact Notice.noConfusion same
  | some failure =>
    cases right with
    | none => exact Notice.noConfusion same
    | some other =>
      obtain ⟨entries, failures⟩ := Notice.error.inj same
      exact ⟨entries, failures⟩

/-- That a request is over is not that it was cancelled. -/
theorem ending_ne_cancelled (entry other : Entry) (failure : Option Failure) :
    Notice.ending entry failure ≠ .error other none := by
  cases failure with
  | none => exact fun same => Notice.noConfusion same
  | some failure =>
    intro same
    exact Option.some_ne_none _ (Notice.error.inj same).2

/-- That a request is over is not that it was queued. -/
theorem ending_ne_added (entry other : Entry) (failure : Option Failure) :
    Notice.ending entry failure ≠ .added other := by
  cases failure with
  | none => exact fun same => Notice.noConfusion same
  | some failure => exact fun same => Notice.noConfusion same

namespace Balanced

variable {ledger : Ledger}

/-- The blank account is right. -/
theorem blank : Ledger.blank.Balanced where
  numbered := rfl
  waiting := rfl
  gone := fun _ listed => absurd listed List.not_mem_nil
  known := fun _ listed => absurd listed List.not_mem_nil
  once := fun _ listed => absurd listed List.not_mem_nil
  withdrawn := fun _ => ⟨fun listed => absurd listed List.not_mem_nil,
    fun listed => absurd listed List.not_mem_nil⟩
  reported := fun _ _ => ⟨fun listed => absurd listed List.not_mem_nil,
    fun both => absurd both.1 List.not_mem_nil⟩

/-! ## What follows -/

/-- No request was queued twice. -/
theorem distinct (balanced : ledger.Balanced) : ledger.requests.Nodup := by
  have tickets : (ledger.requests.map (·.ticket)).Nodup := by
    rw [balanced.numbered]
    exact List.nodup_range
  exact tickets.of_map _

/-- What waits was queued, was not taken away, and no notice says that it is over. -/
theorem mem_queue (balanced : ledger.Balanced) {entry : Entry} :
    entry ∈ ledger.queue ↔
      entry ∈ ledger.requests ∧ entry ∉ ledger.dropped ∧ entry ∉ ended ledger.notices := by
  rw [balanced.waiting, List.mem_filter, stays, decide_eq_true_iff]

/-- No notice says that a request that waits is over. -/
theorem not_terminal (balanced : ledger.Balanced) {entry : Entry} (waits : entry ∈ ledger.queue)
    {notice : Notice} (listed : notice ∈ ledger.notices) (same : notice.entry = entry) :
    notice.isTerminal = false := by
  by_contra terminal
  rw [Bool.not_eq_false] at terminal
  exact (balanced.mem_queue.mp waits).2.2 (mem_ended.mpr ⟨notice, listed, terminal, same⟩)

/-- A request that waits was not cancelled. -/
theorem not_cancelled (balanced : ledger.Balanced) {entry : Entry}
    (waits : entry ∈ ledger.queue) : entry ∉ ledger.cancelled := by
  intro listed
  have terminal := balanced.not_terminal waits ((balanced.withdrawn entry).mpr listed) rfl
  exact Bool.noConfusion terminal

/-- No transfer of a request that waits has ended. -/
theorem not_result (balanced : ledger.Balanced) {entry : Entry} (waits : entry ∈ ledger.queue)
    (failure : Option Failure) : (entry, failure) ∉ ledger.results := by
  intro listed
  have told := (balanced.reported entry failure).mpr
    ⟨listed, balanced.not_cancelled waits, (balanced.mem_queue.mp waits).2.1⟩
  have free := balanced.not_terminal waits told (ending_entry entry failure)
  rw [ending_isTerminal] at free
  exact Bool.noConfusion free

/-! ## Ways to go on -/

/-- A notice more is listed after the others of its request, and not among those of others. -/
theorem about_append (ledger : Ledger) (notice : Notice) (entry : Entry) :
    ({ ledger with notices := ledger.notices ++ [notice] } : Ledger).about entry =
      ledger.about entry ++ if notice.entry = entry then [notice] else [] := by
  rw [about, about, List.filter_append]
  simp only [List.filter_cons, List.filter_nil, beq_iff_eq]

/-- A request with the next ticket was not queued before. -/
theorem fresh (balanced : ledger.Balanced) {entry : Entry}
    (next : entry.ticket = ledger.requests.length) : entry ∉ ledger.requests := by
  intro listed
  have numbered : entry.ticket ∈ ledger.requests.map (·.ticket) := List.mem_map_of_mem listed
  rw [balanced.numbered, List.mem_range, next] at numbered
  exact absurd numbered (Nat.lt_irrefl _)

/-- Of a request that was not queued nothing is told. -/
theorem about_of_fresh (balanced : ledger.Balanced) {entry : Entry}
    (new : entry ∉ ledger.requests) : ledger.about entry = [] := by
  rw [about, List.filter_eq_nil_iff]
  intro notice among same
  exact new (beq_iff_eq.mp same ▸ balanced.known notice among)

/-- Of every request it is told that it was queued also when one more is. -/
theorem once_queueMore (balanced : ledger.Balanced) {entry : Entry}
    (new : entry ∉ ledger.requests) : ∀ other ∈ ledger.requests ++ [entry],
      ∃ last : Option Notice, (ledger.queueMore entry).about other = .added other :: last.toList ∧
        ∀ notice ∈ last, notice.isTerminal = true := by
  intro other listed
  have grown := about_append ledger (.added entry) other
  change (ledger.queueMore entry).about other = _ at grown
  rw [grown]
  rcases List.mem_append.mp listed with old | last
  · obtain ⟨final, told, terminal⟩ := balanced.once other old
    have different : Notice.entry (.added entry) ≠ other := by
      intro same
      exact new ((show other = entry from same.symm) ▸ old)
    rw [if_neg different, List.append_nil]
    exact ⟨final, told, terminal⟩
  · obtain rfl := List.mem_singleton.mp last
    rw [balanced.about_of_fresh new, if_pos (show Notice.entry (.added other) = other from rfl)]
    exact ⟨none, rfl, fun _ impossible => absurd impossible (by simp)⟩

/-- A request with the next ticket may be queued. -/
theorem queueMore (balanced : ledger.Balanced) {entry : Entry}
    (next : entry.ticket = ledger.requests.length) : (ledger.queueMore entry).Balanced := by
  have new := balanced.fresh next
  have still : ended (ledger.notices ++ [.added entry]) = ended ledger.notices := by
    rw [ended_append]
    exact List.append_nil _
  have stays : (ledger.queueMore entry).stays = ledger.stays := by
    funext other
    rw [Ledger.stays, Ledger.stays]
    change decide (other ∉ ledger.dropped ∧ other ∉ ended (ledger.notices ++ [.added entry])) = _
    rw [still]
  have unended : entry ∉ ended ledger.notices := by
    intro listed
    obtain ⟨notice, among, _, same⟩ := mem_ended.mp listed
    exact new (same ▸ balanced.known notice among)
  refine ⟨?_, ?_, ?_, ?_, balanced.once_queueMore new, ?_, ?_⟩
  · change (ledger.requests ++ [entry]).map (·.ticket) =
      List.range (ledger.requests ++ [entry]).length
    rw [List.map_append, balanced.numbered, List.length_append, List.length_singleton,
      List.range_succ, List.map_singleton, next]
  · rw [stays]
    change ledger.queue ++ [entry] = (ledger.requests ++ [entry]).filter ledger.stays
    rw [List.filter_append, ← balanced.waiting, List.filter_cons_of_pos, List.filter_nil]
    rw [Ledger.stays, decide_eq_true_iff]
    exact ⟨fun listed => new (balanced.gone entry listed).1, unended⟩
  · intro other listed
    obtain ⟨asked, silent⟩ := balanced.gone other listed
    refine ⟨List.mem_append_left _ asked, ?_⟩
    change other ∉ ended (ledger.notices ++ [.added entry])
    rw [still]
    exact silent
  · intro notice listed
    rcases List.mem_append.mp listed with old | last
    · exact List.mem_append_left _ (balanced.known notice old)
    · rw [List.mem_singleton.mp last]
      exact List.mem_append_right _ (List.mem_singleton.mpr rfl)
  · intro other
    change _ ∈ ledger.notices ++ [_] ↔ _
    rw [List.mem_append, List.mem_singleton]
    refine Iff.trans (or_iff_left ?_) (balanced.withdrawn other)
    exact fun same => Notice.noConfusion same
  · intro other failure
    change _ ∈ ledger.notices ++ [_] ↔ _
    rw [List.mem_append, List.mem_singleton]
    exact Iff.trans (or_iff_left (ending_ne_added other entry failure))
      (balanced.reported other failure)

/-- All requests that wait may be taken away. -/
theorem clear (balanced : ledger.Balanced) : ledger.clear.Balanced := by
  refine ⟨balanced.numbered, ?_, ?_, balanced.known, balanced.once, balanced.withdrawn, ?_⟩
  · symm
    change ledger.requests.filter ledger.clear.stays = []
    rw [List.filter_eq_nil_iff]
    intro entry listed stays
    rw [Ledger.stays, decide_eq_true_iff] at stays
    obtain ⟨kept, unended⟩ := stays
    change entry ∉ ledger.dropped ++ ledger.queue at kept
    rw [List.mem_append, not_or] at kept
    exact kept.2 (balanced.mem_queue.mpr ⟨listed, kept.1, unended⟩)
  · intro entry listed
    rcases List.mem_append.mp listed with old | waits
    · exact balanced.gone entry old
    · obtain ⟨asked, _, silent⟩ := balanced.mem_queue.mp waits
      exact ⟨asked, silent⟩
  · intro entry failure
    refine Iff.trans (balanced.reported entry failure) ?_
    change _ ↔ _ ∧ _ ∧ entry ∉ ledger.dropped ++ ledger.queue
    rw [List.mem_append, not_or]
    constructor
    · rintro ⟨came, free, kept⟩
      exact ⟨came, free, kept, fun waits => balanced.not_result waits failure came⟩
    · rintro ⟨came, free, kept, _⟩
      exact ⟨came, free, kept⟩

/-- A transfer may end whose request was cancelled or taken away. -/
theorem late (balanced : ledger.Balanced) {entry : Entry} (failure : Option Failure)
    (excused : entry ∈ ledger.cancelled ∨ entry ∈ ledger.dropped) :
    (ledger.result entry failure).Balanced := by
  refine ⟨balanced.numbered, balanced.waiting, balanced.gone, balanced.known, balanced.once,
    balanced.withdrawn, ?_⟩
  intro other outcome
  refine Iff.trans (balanced.reported other outcome) (and_congr_left ?_)
  rintro ⟨free, kept⟩
  change _ ↔ _ ∈ ledger.results ++ [_]
  rw [List.mem_append, List.mem_singleton]
  refine (or_iff_left ?_).symm
  intro same
  obtain ⟨rfl, _⟩ := Prod.mk.inj same
  exact excused.elim free kept

/-- What ends with a notice is the request it is about. -/
theorem ended_settle {notice : Notice} (terminal : notice.isTerminal = true) :
    ended (ledger.settle notice).notices = ended ledger.notices ++ [notice.entry] := by
  change ended (ledger.notices ++ [notice]) = _
  rw [ended_append, ended_single terminal]

/-- What waits is what stays also when one request leaves the queue. -/
theorem waiting_settle (balanced : ledger.Balanced) {notice : Notice}
    (terminal : notice.isTerminal = true) :
    ledger.queue.erase notice.entry = ledger.requests.filter (ledger.settle notice).stays := by
  have unique : ledger.queue.Nodup := by
    rw [balanced.waiting]
    exact balanced.distinct.filter _
  rw [unique.erase_eq_filter, balanced.waiting, List.filter_filter]
  apply List.filter_congr
  intro entry _
  rw [Bool.eq_iff_iff, Bool.and_eq_true, bne_iff_ne, Ledger.stays, Ledger.stays,
    decide_eq_true_iff, decide_eq_true_iff, ended_settle terminal, List.mem_append,
    List.mem_singleton, not_or]
  constructor
  · rintro ⟨different, kept, unended⟩
    exact ⟨kept, unended, different⟩
  · rintro ⟨kept, unended, different⟩
    exact ⟨different, kept, unended⟩

/-- Of a request that leaves the queue it is told once that it is over. -/
theorem once_settle (balanced : ledger.Balanced) {notice : Notice}
    (waits : notice.entry ∈ ledger.queue) (terminal : notice.isTerminal = true) :
    ∀ entry ∈ ledger.requests, ∃ last : Option Notice,
      (ledger.settle notice).about entry = .added entry :: last.toList ∧
        ∀ other ∈ last, other.isTerminal = true := by
  intro entry listed
  have grown := about_append ledger notice entry
  change (ledger.settle notice).about entry = _ at grown
  obtain ⟨final, told, last⟩ := balanced.once entry listed
  rw [grown, told]
  by_cases same : notice.entry = entry
  · rw [if_pos same]
    cases final with
    | none => exact ⟨some notice, rfl, fun _ other => Option.mem_some.mp other ▸ terminal⟩
    | some earlier =>
      have among : earlier ∈ ledger.about entry := by
        rw [told]
        simp
      rw [about, List.mem_filter, beq_iff_eq] at among
      have pending := balanced.not_terminal waits among.1 (among.2.trans same.symm)
      rw [last earlier rfl] at pending
      exact Bool.noConfusion pending
  · rw [if_neg same, List.append_nil]
    exact ⟨final, rfl, last⟩

/-- A request that waits may be told to be over, if the account says why. -/
theorem settle (balanced : ledger.Balanced) (notice : Notice)
    (waits : notice.entry ∈ ledger.queue) (terminal : notice.isTerminal = true)
    {cancelled : List Entry} {results : List (Entry × Option Failure)}
    (withdrawn : ∀ entry, .error entry none ∈ ledger.notices ++ [notice] ↔ entry ∈ cancelled)
    (reported : ∀ entry failure, .ending entry failure ∈ ledger.notices ++ [notice] ↔
      (entry, failure) ∈ results ∧ entry ∉ cancelled ∧ entry ∉ ledger.dropped) :
    Balanced { ledger.settle notice with cancelled, results } := by
  refine ⟨balanced.numbered, balanced.waiting_settle terminal, ?_, ?_,
    balanced.once_settle waits terminal, withdrawn, reported⟩
  · intro entry listed
    obtain ⟨asked, silent⟩ := balanced.gone entry listed
    refine ⟨asked, ?_⟩
    change entry ∉ ended (ledger.settle notice).notices
    rw [ended_settle terminal, List.mem_append, List.mem_singleton, not_or]
    refine ⟨silent, ?_⟩
    rintro rfl
    exact (balanced.mem_queue.mp waits).2.1 listed
  · intro other listed
    rcases List.mem_append.mp listed with old | last
    · exact balanced.known other old
    · rw [List.mem_singleton.mp last]
      exact (balanced.mem_queue.mp waits).1

/-- A request that waits may be cancelled. -/
theorem cancel (balanced : ledger.Balanced) {entry : Entry} (waits : entry ∈ ledger.queue) :
    (ledger.cancel entry).Balanced := by
  refine balanced.settle (.error entry none) waits rfl ?_ ?_
  · intro other
    rw [List.mem_append, List.mem_append, List.mem_singleton, List.mem_singleton]
    refine or_congr (balanced.withdrawn other) ?_
    exact ⟨fun same => (Notice.error.inj same).1, fun same => same ▸ rfl⟩
  · intro other failure
    rw [List.mem_append, List.mem_append, List.mem_singleton, List.mem_singleton, not_or]
    refine Iff.trans (or_iff_left (ending_ne_cancelled other entry failure)) ?_
    refine Iff.trans (balanced.reported other failure) ?_
    constructor
    · rintro ⟨came, free, kept⟩
      refine ⟨came, ⟨free, ?_⟩, kept⟩
      intro same
      exact balanced.not_result (same ▸ waits) failure came
    · rintro ⟨came, ⟨free, _⟩, kept⟩
      exact ⟨came, free, kept⟩

/-- The transfer of a request that waits may end, and the request with it. -/
theorem finish (balanced : ledger.Balanced) {entry : Entry} (failure : Option Failure)
    (waits : entry ∈ ledger.queue) : (ledger.finish entry failure).Balanced := by
  have about := ending_entry entry failure
  refine balanced.settle (.ending entry failure) (by rwa [about])
    (ending_isTerminal entry failure) ?_ ?_
  · intro other
    rw [List.mem_append, List.mem_singleton]
    refine Iff.trans (or_iff_left ?_) (balanced.withdrawn other)
    exact fun same => ending_ne_cancelled entry other failure same.symm
  · intro other outcome
    rw [List.mem_append, List.mem_append, List.mem_singleton, List.mem_singleton]
    constructor
    · rintro (old | last)
      · obtain ⟨came, free⟩ := (balanced.reported other outcome).mp old
        exact ⟨.inl came, free⟩
      · obtain ⟨rfl, rfl⟩ := ending_inj last
        exact ⟨.inr rfl, balanced.not_cancelled waits, (balanced.mem_queue.mp waits).2.1⟩
    · rintro ⟨old | last, free⟩
      · exact .inl ((balanced.reported other outcome).mpr ⟨old, free⟩)
      · obtain ⟨rfl, rfl⟩ := Prod.mk.inj last
        exact .inr rfl

end Balanced

end Ledger

end Sailplane.Download
