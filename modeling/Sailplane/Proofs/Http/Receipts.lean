import Mathlib.Data.List.Infix
import Sailplane.Proofs.Download.Gauges
import Sailplane.Proofs.Http.Reports

/-!
# What is received, and what is reported of it

A document or bytes are put into their slot when all of the body has come in and can be read, and
otherwise the slot is left alone. Meanwhile the size is reported first, if it is known, and after
each chunk how much has come in. The same is reported of a file, unless the disk cuts it short.
-/
namespace Sailplane.Http

open Download (Content Destination Failure Request Session Signal Slot Slots Transfer)

/-! ## Reports of an answer -/

/-- How much has come in after each chunk. -/
def totals (chunks : List (List UInt8)) : List Nat :=
  (List.range chunks.length).map fun index => (chunks.take (index + 1)).flatten.length

/-- What is to be reported of an answer: the size first, if it is known, and after each chunk how
much has come in. -/
def Reply.reports (reply : Reply) : List Signal :=
  reply.length.toList.map .size ++
    (totals reply.chunks).map fun total => .position (.ofNat total)

/-- What a course reports, in order. -/
def Course.reports (course : Course) : List Signal := course.signals.filter Signal.isReport

/-- The positions that a course reports, in order. -/
def Course.positions (course : Course) : List UInt64 := course.reports.filterMap Signal.position?

theorem totals_cons (chunk : List UInt8) (rest : List (List UInt8)) :
    totals (chunk :: rest) = chunk.length :: (totals rest).map (chunk.length + ·) := by
  simp [totals, List.range_succ_eq_map, Function.comp_def]

/-- No total is beyond the whole body. -/
theorem le_of_mem_totals {chunks : List (List UInt8)} {total : Nat}
    (listed : total ∈ totals chunks) : total ≤ chunks.flatten.length := by
  obtain ⟨index, _, rfl⟩ := List.mem_map.mp listed
  have split := congrArg (fun chunks => chunks.flatten.length)
    (List.take_append_drop (index + 1) chunks)
  simp only [List.flatten_append, List.length_append] at split
  omega

/-- What has come in grows. -/
theorem pairwise_totals (chunks : List (List UInt8)) : (totals chunks).Pairwise (· ≤ ·) := by
  induction chunks with
  | nil => exact .nil
  | cons chunk rest ih =>
    rw [totals_cons, List.pairwise_cons, List.pairwise_map]
    refine ⟨fun total listed => ?_, ih.imp fun less => Nat.add_le_add_left less _⟩
    obtain ⟨_, _, rfl⟩ := List.mem_map.mp listed
    exact Nat.le_add_right _ _

/-- After the last chunk all has come in. -/
theorem getLast?_totals {chunks : List (List UInt8)} (some_chunk : chunks ≠ []) :
    (totals chunks).getLast? = some chunks.flatten.length := by
  obtain ⟨count, counted⟩ :=
    Nat.exists_eq_succ_of_ne_zero (mt List.length_eq_zero_iff.mp some_chunk)
  rw [totals, counted, List.range_succ, List.map_append, List.map_singleton, List.getLast?_concat,
    ← Nat.succ_eq_add_one, ← counted, List.take_length]

/-- The positions are reported as they are counted. -/
theorem positionSignals_eq (before : Nat) (chunks : List (List UInt8)) :
    positionSignals before chunks =
      (totals chunks).map fun total => .position (.ofNat (before + total)) := by
  induction chunks generalizing before with
  | nil => rfl
  | cons chunk rest ih =>
    rw [positionSignals, ih, totals_cons, List.map_cons, List.map_map]
    simp only [Function.comp_def, Nat.add_assoc]

theorem Reply.reports_eq (reply : Reply) :
    reply.reports = sizeSignals reply ++ positionSignals 0 reply.chunks := by
  rw [Reply.reports, positionSignals_eq]
  simp only [Nat.zero_add, sizeSignals]

/-- The positions among what is to be reported are the totals. -/
theorem Reply.positions_reports (reply : Reply) :
    reply.reports.filterMap Signal.position? = (totals reply.chunks).map .ofNat := by
  have sizes : (reply.length.toList.map Signal.size).filterMap Signal.position? = [] := by
    cases reply.length <;> rfl
  rw [Reply.reports, List.filterMap_append, sizes, List.nil_append, List.filterMap_map]
  exact congrFun (List.filterMap_eq_map (f := UInt64.ofNat)) (totals reply.chunks)

theorem reports_positionSignals (before : Nat) (chunks : List (List UInt8)) :
    Reports (positionSignals before chunks) := by
  rw [positionSignals_eq]
  intro signal listed
  obtain ⟨total, _, rfl⟩ := List.mem_map.mp listed
  exact .inr ⟨_, rfl⟩

/-- Reports are all that is reported of them. -/
theorem Reports.filter_eq {signals : List Signal} (reports : Reports signals) :
    signals.filter Signal.isReport = signals := by
  refine List.filter_eq_self.mpr fun signal listed => ?_
  rcases reports signal listed with ⟨bytes, rfl⟩ | ⟨bytes, rfl⟩
  · rfl
  · rfl

/-! ## Reports of a course -/

section Tracks

variable {answer : Answer} {reply : Reply} {disk : Disk} {course : Course}

/-- Whether a course reports what is to be reported, unless the disk cuts it short. -/
structure Tracks (reply : Reply) (course : Course) : Prop where
  /-- It reports no more than that. -/
  ordered : course.reports <+: reply.reports
  /-- It reports all of it if the disk does not stop it. -/
  whole : ¬ course.StoppedByDisk → course.reports = reply.reports

/-- The reports of an answer are reports only. -/
theorem Reply.reports_plain (reply : Reply) : Reports reply.reports := by
  rw [Reply.reports_eq]
  exact (reports_sizeSignals reply).append (reports_positionSignals 0 reply.chunks)

/-- A course that the disk cuts short is on track. -/
theorem Tracks.short {signals : List Signal} {trouble : Trouble}
    (ordered : signals <+: reply.reports) : Tracks reply ⟨signals, some (.of trouble), disk⟩ where
  ordered := by
    have plain : Reports signals := fun signal listed =>
      reply.reports_plain signal (ordered.subset listed)
    rw [Course.reports, plain.filter_eq]
    exact ordered
  whole runs := absurd ⟨trouble, rfl⟩ runs

/-- A course that reports all is on track. -/
theorem Tracks.full (reply : Reply) (stop : Option Stop) (disk : Disk) :
    Tracks reply ⟨reply.reports, stop, disk⟩ where
  ordered := by rw [Course.reports, reply.reports_plain.filter_eq]
  whole _ := reply.reports_plain.filter_eq

/-- So is one that fills a slot after that. -/
theorem Tracks.filled (reply : Reply) (content : Content) (disk : Disk) :
    Tracks reply ⟨reply.reports ++ [.fill content], none, disk⟩ := by
  have same : (reply.reports ++ [Signal.fill content]).filter Signal.isReport =
      reply.reports := by
    rw [List.filter_append, reply.reports_plain.filter_eq]
    exact List.append_nil _
  refine ⟨?_, fun _ => same⟩
  rw [Course.reports, same]

/-- Chunks that are written are reported, up to the first that is not. -/
theorem store_reports {file : Place} {before : Nat} {chunks : List (List UInt8)} {after : Disk}
    {signals : List Signal} {trouble : Option Trouble}
    (stored : store file before chunks disk = (signals, trouble, after)) :
    signals <+: positionSignals before chunks ∧
      (trouble = none → signals = positionSignals before chunks) := by
  induction chunks generalizing before disk signals with
  | nil =>
    cases stored
    exact ⟨List.prefix_rfl, fun _ => rfl⟩
  | cons chunk rest ih =>
    rw [store] at stored
    split at stored
    · cases stored
      exact ⟨List.nil_prefix, fun whole => by cases whole⟩
    · rename_i middle _
      cases further : store file (before + chunk.length) rest middle with
      | mk later reached =>
        rw [further] at stored
        cases stored
        obtain ⟨ordered, whole⟩ := ih further
        rw [positionSignals]
        exact ⟨List.cons_prefix_cons.mpr ⟨rfl, ordered⟩, fun done => by rw [whole done]⟩

theorem commit_tracks (path partialFile : String) (disk : Disk) :
    Tracks answer.reply (commit path partialFile answer answer.reply.reports disk) := by
  unfold commit
  dsimp only
  split
  · split
    · exact .full _ _ _
    · exact .filled _ _ _
  · split
    · exact .full _ _ _
    · split
      · exact .full _ _ _
      · exact .full _ _ _

theorem fill_tracks (path partialFile : String) (disk : Disk) :
    Tracks answer.reply (fill path partialFile answer disk) := by
  have all := answer.reply.reports_eq
  unfold fill
  dsimp only
  split
  · exact .short (all ▸ List.prefix_append _ _)
  split
  · rename_i reports _ _ stored
    refine .short ?_
    rw [all]
    exact (List.prefix_append_right_inj _).mpr (store_reports stored).1
  -- All chunks are written.
  rename_i reports _ stored
  obtain rfl := (store_reports stored).2 rfl
  rw [← all]
  split
  · exact .full _ _ _
  · split
    · exact .full _ _ _
    · exact commit_tracks path partialFile _

/-- A download for a file is on track if its answer is wanted. -/
theorem download_tracks (path tag : String) (disk : Disk) (received : answer.IsReceived) :
    Tracks answer.reply (download path tag answer disk) := by
  rw [download]
  simp only [received.taken, Bool.false_eq_true, if_false]
  split
  · exact .short List.nil_prefix
  · exact fill_tracks path _ _

/-- A body for a slot is on track if its answer is wanted. -/
theorem receive_tracks (isDocument : Bool) (disk : Disk)
    (success : isSuccess answer.reply.status = true) :
    Tracks answer.reply
      ⟨(receive isDocument answer).1, (receive isDocument answer).2, disk⟩ := by
  unfold receive
  dsimp only
  rw [success, ← Reply.reports_eq]
  cases answer.reply.stop with
  | some stop => exact .full _ _ _
  | none =>
    cases contentOf isDocument answer.reply.chunks.flatten with
    | ok content => exact .filled _ _ _
    | error failure => exact .full _ _ _

end Tracks

/-! ## A whole fetch -/

/-- What a course reports that got an answer, or a failure instead of one, where answers of some
statuses are wanted. -/
structure ReportsOn (wanted : List Nat) (answered : Except Failure Answer) (course : Course) :
    Prop where
  /-- Without an answer that is wanted nothing is reported. -/
  silent : (∀ answer, answered = .ok answer → answer.reply.status ∉ wanted) → course.signals = []
  /-- Otherwise it is what is to be reported of the answer, in order and no more. -/
  ordered : ∀ answer, answered = .ok answer → course.reports <+: answer.reply.reports
  /-- Only the disk cuts it short. -/
  whole : ∀ answer, answered = .ok answer → answer.reply.status ∈ wanted →
    ¬ course.StoppedByDisk → course.reports = answer.reply.reports
  /-- The positions are counts that never decrease, up to that of the body. -/
  counted : ∀ answer, answered = .ok answer → ∃ counts : List Nat,
    course.positions = counts.map .ofNat ∧ counts.Pairwise (· ≤ ·) ∧
      ∀ count ∈ counts, count ≤ answer.body.length
  /-- So they never decrease as long as a word can hold the length of the body. -/
  rising : ∀ answer, answered = .ok answer → answer.body.length < UInt64.size →
    (course.positions.map UInt64.toNat).Pairwise (· ≤ ·)
  /-- After a success the last one is the length of the body, if there was a chunk. -/
  last : course.stop = none → ∀ answer, answered = .ok answer → answer.reply.chunks ≠ [] →
    course.positions.getLast? = some (.ofNat answer.body.length)

section Fetch

variable {wanted : List Nat} {answer : Answer} {answered : Except Failure Answer} {course : Course}

/-- The positions that are on track are counted. -/
theorem Tracks.counted (tracks : Tracks answer.reply course) : ∃ counts : List Nat,
    course.positions = counts.map .ofNat ∧ counts.Pairwise (· ≤ ·) ∧
      ∀ count ∈ counts, count ≤ answer.body.length := by
  obtain ⟨more, split⟩ := tracks.ordered
  have positions := answer.reply.positions_reports
  rw [← split, List.filterMap_append] at positions
  obtain ⟨counts, others, whole, first, _⟩ := List.map_eq_append_iff.mp positions.symm
  have sorted := pairwise_totals answer.reply.chunks
  rw [whole] at sorted
  refine ⟨counts, first.symm, (List.pairwise_append.mp sorted).1, fun count listed => ?_⟩
  exact le_of_mem_totals (whole ▸ List.mem_append_left others listed)

/-- Words hold small counts as they are. -/
theorem map_toNat_ofNat {counts : List Nat} {limit : Nat}
    (bounded : ∀ count ∈ counts, count ≤ limit) (small : limit < UInt64.size) :
    (counts.map UInt64.ofNat).map UInt64.toNat = counts := by
  rw [List.map_map]
  refine (List.map_congr_left fun count listed => ?_).trans (List.map_id counts)
  have bound := bounded count listed
  exact UInt64.toNat_ofNat_of_lt' (Nat.lt_of_le_of_lt bound small)

/-- A course that is on track reports what is to be reported. -/
theorem ReportsOn.of_tracks (tracks : Tracks answer.reply course)
    (accepted : answer.reply.status ∈ wanted) : ReportsOn wanted (.ok answer) course where
  silent other := absurd accepted (other answer rfl)
  ordered own same := by
    cases same
    exact tracks.ordered
  whole own same _ runs := by
    cases same
    exact tracks.whole runs
  counted own same := by
    cases same
    exact tracks.counted
  rising own same small := by
    cases same
    obtain ⟨counts, positions, sorted, bounded⟩ := tracks.counted
    rw [positions, map_toNat_ofNat bounded small]
    exact sorted
  last ends own same some_chunk := by
    cases same
    have runs : ¬ course.StoppedByDisk := by
      rintro ⟨trouble, stopped⟩
      rw [ends] at stopped
      cases stopped
    rw [Course.positions, tracks.whole runs, answer.reply.positions_reports, List.getLast?_map,
      getLast?_totals some_chunk]
    rfl

/-- A course that says nothing and fails reports nothing. -/
theorem ReportsOn.of_silent (signals : course.signals = []) (fails : course.stop ≠ none)
    (unwanted : ∀ answer, answered = .ok answer → answer.reply.status ∉ wanted) :
    ReportsOn wanted answered course := by
  have reports : course.reports = [] := by
    rw [Course.reports, signals]
    rfl
  have positions : course.positions = [] := by
    rw [Course.positions, reports]
    rfl
  refine ⟨fun _ => signals, fun _ _ => reports ▸ List.nil_prefix, ?_, ?_, ?_, ?_⟩
  · exact fun answer same accepted => absurd accepted (unwanted answer same)
  · exact fun _ _ => ⟨[], positions, .nil, fun _ listed => absurd listed List.not_mem_nil⟩
  · intro _ _ _
    rw [positions, List.map_nil]
    exact .nil
  · exact fun ends => absurd ends fails

end Fetch

/-- What a body makes for a slot: a document, with its keys in order, if it can be read as one, or
the bytes as they are. -/
inductive Makes (body : List UInt8) : Destination → Content → Prop where
  /-- A document. -/
  | document {slot : Slot} {value : Json} (parsed : Json.parse body = .ok value) :
    Makes body (.json slot) (.document value.sorted)
  /-- Bytes. -/
  | bytes {slot : Slot} : Makes body (.buffer slot) (.bytes body)

/-- How a course ends that received an answer, or a failure instead of one, for a slot. -/
structure Receives (slot : Slot) (transfer : Transfer) (slots : Slots Content)
    (answered : Except Failure Answer) (before : Disk) (course : Course) : Prop where
  /-- It succeeds exactly if all of a successful answer has come in and makes something. -/
  success : course.stop = none ↔ ∃ answer content, answered = .ok answer ∧
    (answer.reply.status = 200 ∨ answer.reply.status = 201) ∧ answer.reply.broken = none ∧
      Makes answer.body transfer.entry.request.destination content
  /-- Then that is put into the slot. -/
  filled : course.stop = none → ∀ answer, answered = .ok answer →
    ∃ content, Makes answer.body transfer.entry.request.destination content ∧
      course.slots transfer slots = slots.put slot content ∧
      (slot.number < slots.contents.length →
        (course.slots transfer slots).get slot = some content)
  /-- Otherwise all slots are left alone. -/
  kept : course.stop ≠ none → course.slots transfer slots = slots
  /-- The disk has nothing to do with it. -/
  apart : course.disk = before ∧ ¬ course.StoppedByDisk
  /-- What is reported. -/
  reports : ReportsOn [200, 201] answered course

section Fetch

variable {answer : Answer} {before : Disk} {transfer : Transfer} {slots : Slots Content}
  {slot : Slot}

theorem mem_successes {status : Nat} : status ∈ [200, 201] ↔ isSuccess status = true := by
  rw [isSuccess_iff]
  simp

/-- What is wanted for a file. -/
theorem isReceived_iff : answer.IsReceived ↔ answer.reply.status ∈ [200, 201, 401] := by
  rw [Answer.IsReceived, isSuccess_iff, unauthorized]
  simp [or_assoc]

/-- What a body makes is what is read from it. -/
theorem makes_iff {isDocument : Bool} {destination : Destination}
    (wanted : destination = if isDocument then .json slot else .buffer slot)
    {body : List UInt8} {content : Content} :
    Makes body destination content ↔ contentOf isDocument body = .ok content := by
  subst wanted
  cases isDocument with
  | false =>
    constructor
    · intro makes
      cases makes
      rfl
    · intro read
      cases read
      exact .bytes
  | true =>
    simp only [contentOf, if_true]
    constructor
    · intro makes
      cases makes with
      | document parsed => rw [parsed]
    · intro read
      cases parsed : Json.parse body with
      | error fault =>
        rw [parsed] at read
        cases read
      | ok value =>
        rw [parsed] at read
        cases read
        exact .document parsed

/-- A failure that comes instead of an answer, or an answer that is not wanted, leaves all
alone. -/
theorem Receives.of_rest {answered : Except Failure Answer} {failure : Failure}
    (unwanted : ∀ answer, answered = .ok answer → answer.reply.status ∉ [200, 201])
    (other : ∀ reason, failure ≠ .disk reason) :
    Receives slot transfer slots answered before ⟨[], some (.failed failure), before⟩ where
  success := by
    refine iff_of_false (by simp) ?_
    rintro ⟨answer, content, same, success, _⟩
    exact unwanted answer same (mem_successes.mpr ((isSuccess_iff _).mpr success))
  filled ends := by cases ends
  kept _ := slots_of_silent silent_nil transfer slots
  apart := ⟨rfl, not_stoppedByDisk (failed_ne_of other)⟩
  reports := .of_silent rfl (by simp) unwanted

/-- What a body makes goes into the slot that was asked for. -/
theorem slotFor_of_makes {request : Request} {isDocument : Bool} {body : List UInt8}
    {content : Content} (makes : Makes body request.destination content)
    (wanted : request.destination = if isDocument then .json slot else .buffer slot) :
    request.slotFor content = some slot := by
  rw [wanted] at makes
  cases isDocument with
  | true =>
    cases makes
    simp only [Request.slotFor, wanted, if_true]
  | false =>
    cases makes
    simp only [Request.slotFor, wanted, Bool.false_eq_true, if_false]

/-- What cannot be read is a failure, but not of a disk. -/
theorem contentOf_error {isDocument : Bool} {body : List UInt8} {failure : Failure}
    (failed : contentOf isDocument body = .error failure) (reason : String) :
    failure ≠ .disk reason := by
  rw [contentOf] at failed
  split at failed
  · split at failed
    · cases failed
    · cases failed
      exact fun same => by cases same
  · cases failed

/-- A successful answer is read when it is complete, or else fails after all reports. -/
theorem receive_cases (isDocument : Bool) (success : isSuccess answer.reply.status = true) :
    (∃ content, answer.reply.broken = none ∧ contentOf isDocument answer.body = .ok content ∧
        receive isDocument answer = (answer.reply.reports ++ [.fill content], none)) ∨
      ∃ failure, (∀ reason, failure ≠ .disk reason) ∧
        (answer.reply.broken = none → ∀ content, contentOf isDocument answer.body ≠ .ok content) ∧
        receive isDocument answer = (answer.reply.reports, some (.failed failure)) := by
  cases broken : answer.reply.broken with
  | some reason =>
    have stops : answer.reply.stop = some (.failed (.network reason)) := by
      rw [Reply.stop, broken]
      rfl
    refine .inr ⟨.network reason, fun _ same => ?_, fun whole => ?_, ?_⟩
    · cases same
    · cases whole
    · rw [receive, success, stops, Reply.reports_eq]
      rfl
  | none =>
    have goesOn : answer.reply.stop = none := by
      rw [Reply.stop, broken]
      rfl
    cases read : contentOf isDocument answer.body with
    | ok content =>
      rw [Answer.body] at read
      refine .inl ⟨content, rfl, rfl, ?_⟩
      rw [receive, success, goesOn, read, Reply.reports_eq]
      rfl
    | error failure =>
      refine .inr ⟨failure, contentOf_error read, fun _ content same => ?_, ?_⟩
      · cases same
      · rw [Answer.body] at read
        rw [receive, success, goesOn, read, Reply.reports_eq]
        rfl

/-- An answer is received for a slot. -/
theorem receive_receives {isDocument : Bool}
    (wanted : transfer.entry.request.destination =
      if isDocument then .json slot else .buffer slot) :
    Receives slot transfer slots (.ok answer) before
      ⟨(receive isDocument answer).1, (receive isDocument answer).2, before⟩ := by
  cases success : isSuccess answer.reply.status with
  | false =>
    have refused : receive isDocument answer = ([], some (.failed (statusFailure answer))) := by
      rw [receive, success]
      rfl
    rw [refused]
    refine .of_rest (fun own same accepted => ?_) fun reason same => by cases same
    cases same
    exact Bool.noConfusion (success.symm.trans (mem_successes.mp accepted))
  | true =>
    have reports := ReportsOn.of_tracks (receive_tracks isDocument before success)
      (mem_successes.mpr success)
    have silent := answer.reply.reports_plain.silent
    rcases receive_cases isDocument success with
      ⟨content, complete, read, course⟩ | ⟨failure, other, unread, course⟩
    · rw [course] at reports ⊢
      have makes := (makes_iff wanted).mpr read
      have told : Course.slots ⟨answer.reply.reports ++ [.fill content], none, before⟩ transfer
          slots = slots.put slot content := by
        have place : Session.filling? transfer (.fill content) = some (slot, content) := by
          rw [Session.filling?, slotFor_of_makes makes wanted]
          rfl
        rw [Course.slots, Course.toSignals, List.append_assoc, List.foldl_append,
          foldl_silent silent]
        simp only [List.singleton_append, List.foldl_cons, List.foldl_nil, place]
        rfl
      refine ⟨iff_of_true rfl ⟨answer, content, rfl, (isSuccess_iff _).mp success, complete, makes⟩,
        fun _ own same => ?_, fun fails => absurd rfl fails, ⟨rfl, ?_⟩, reports⟩
      · cases same
        exact ⟨content, makes, told, fun handed => told ▸ Slots.get_put slots content handed⟩
      · exact not_stoppedByDisk fun trouble same => by cases same
    · rw [course] at reports ⊢
      refine ⟨iff_of_false (by simp) ?_, fun ends => (by cases ends), fun _ => ?_,
        ⟨rfl, not_stoppedByDisk (failed_ne_of other)⟩, reports⟩
      · rintro ⟨own, content, same, _, complete, makes⟩
        cases same
        exact unread complete content ((makes_iff wanted).mp makes)
      · exact slots_of_silent silent transfer slots

/-- **What is received, and what is reported of it**, over every network, for every request, on
every disk: a body for a slot is put there if all of it has come in and makes something, and what
comes in for a slot or a file is reported as it comes. -/
theorem fetch_receives (network : Network) (userAgent : String) (count : Nat)
    (transfer : Transfer) (slots : Slots Content) (tag : String) (before : Disk) :
    let answered := (ask network userAgent count transfer.entry.request).1
    let course := (fetch network userAgent count transfer.entry.request tag before).1
    (∀ slot, transfer.entry.request.destination = .json slot ∨
        transfer.entry.request.destination = .buffer slot →
      Receives slot transfer slots answered before course) ∧
      ∀ path, transfer.entry.request.destination = .file path →
        ReportsOn [200, 201, 401] answered course := by
  dsimp only
  rw [fetch]
  cases asked : ask network userAgent count transfer.entry.request with
  | mk answered total =>
    cases answered with
    | error failure =>
      exact ⟨fun slot _ => .of_rest (fun answer same => by cases same) (ask_error asked),
        fun path _ => .of_silent rfl (by simp) fun answer same => by cases same⟩
    | ok answer =>
      refine ⟨fun slot wanted => ?_, fun path wanted => ?_⟩
      · rcases wanted with document | bytes
        · have received := @receive_receives answer before transfer slots slot true document
          simpa only [deliver, document] using received
        · have received := @receive_receives answer before transfer slots slot false bytes
          simpa only [deliver, bytes] using received
      · simp only [deliver, wanted]
        by_cases received : answer.IsReceived
        · exact .of_tracks (download_tracks path tag before received) (isReceived_iff.mp received)
        · rw [download_of_not_isReceived received]
          refine .of_silent rfl (by simp) fun own same accepted => ?_
          cases same
          exact received (isReceived_iff.mpr accepted)

end Fetch

namespace Arriving

/-- A server that sends a document in two chunks and says how long it is. -/
def network : Network := fun _ _ => .ok ⟨201, none, some 2, [[0x5B], [0x5D]], none⟩

/-- A transfer of a document. -/
def transfer : Transfer := .new ⟨0, 0, ⟨"http://h/d", "d", .json ⟨0⟩, {}⟩⟩

theorem asked : ∃ answer, (ask network "u" 0 transfer.entry.request).1 = .ok answer ∧
    answer.reply = ⟨201, none, some 2, [[0x5B], [0x5D]], none⟩ := by
  have evaluated : ((ask network "u" 0 transfer.entry.request).1.toOption.map (·.reply)) =
      some ⟨201, none, some 2, [[0x5B], [0x5D]], none⟩ := by decide +kernel
  cases asked : (ask network "u" 0 transfer.entry.request).1 with
  | error failure =>
    rw [asked] at evaluated
    cases evaluated
  | ok answer =>
    rw [asked] at evaluated
    exact ⟨answer, rfl, Option.some.inj evaluated⟩

end Arriving

/-- An empty list in two chunks is reported byte by byte and put into the slot. -/
theorem fetch_receives_arriving :
    let course := (fetch Arriving.network "u" 0 Arriving.transfer.entry.request "t" .empty).1
    course.stop = none ∧ course.reports = [.size 2, .position 1, .position 2] ∧
      (course.slots Arriving.transfer ⟨[none]⟩).get ⟨0⟩ = some (.document (.list [])) := by
  have received := (fetch_receives Arriving.network "u" 0 Arriving.transfer ⟨[none]⟩ "t" .empty).1
    ⟨0⟩ (.inl rfl)
  obtain ⟨answer, asked, reply⟩ := Arriving.asked
  have body : answer.body = [0x5B, 0x5D] := by
    rw [Answer.body, reply]
    rfl
  have parsed : Json.parse answer.body = .ok (.list []) := by
    rw [body]
    rfl
  have ends := received.success.mpr
    ⟨answer, _, asked, .inr (by rw [reply]), by rw [reply], .document parsed⟩
  obtain ⟨content, makes, _, filled⟩ := received.filled ends answer asked
  have reported := received.reports.whole answer asked (by rw [reply]; decide) received.apart.2
  refine ⟨ends, ?_, ?_⟩
  · rw [reported, reply]
    rfl
  · rw [filled Nat.one_pos]
    change Makes answer.body (.json ⟨0⟩) content at makes
    cases makes with
    | document same =>
      obtain rfl := Except.ok.inj (parsed.symm.trans same)
      rfl

end Sailplane.Http
