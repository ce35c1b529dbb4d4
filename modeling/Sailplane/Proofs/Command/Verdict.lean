import Sailplane.Proofs.Command.Carrying
import Sailplane.Proofs.Download.Ledger

/-!
# The verdict on a list of downloads

A download succeeds exactly if every request of its list has its result. It prints a line for each
that has, in the order of the list, and names each name that failed with its last failure, in the
order of the names. Requests may share a name: all of them are queued before the first one ends, so
that no failure is forgotten because another request of its name is queued, or has its result.
-/
namespace Sailplane.Command

open Download (Content Entry Failure Notice Request Tracker)
open Http (Course Network)

/-! ## Failures by name -/

/-- The failure that a notice tells of a name, if it tells one. -/
def failureOf? (name : String) : Notice → Option Failure
  | .error entry (some failure) => if entry.name = name then some failure else none
  | _ => none

/-- The failures of the requests of a name, in the order in which they were told. -/
def failuresOf (name : String) (notices : List Notice) : List Failure :=
  notices.filterMap (failureOf? name)

/-- That requests were queued tells of no failure, and the tracker knows of none. -/
theorem failure?_added (queued : List Entry) (name : String) :
    (Tracker.after ((queued.map Notice.added).map Notice.event)).failure? name = none := by
  induction queued using List.reverseRecOn with
  | nil => rfl
  | append_singleton queued last ih =>
    rw [List.map_append, List.map_append, List.map_singleton, List.map_singleton,
      Tracker.after_concat, Tracker.failure?_record, ih]
    exact ite_self _

theorem failuresOf_added (queued : List Entry) (name : String) :
    failuresOf name (queued.map .added) = [] :=
  List.filterMap_eq_nil_iff.mpr fun notice listed => by
    obtain ⟨entry, -, rfl⟩ := List.mem_map.mp listed
    rfl

/-- The words of the last failure of a name. -/
def lastFailure? (name : String) (notices : List Notice) : Option String :=
  (failuresOf name notices).getLast?.map Failure.message

/-- No failure of any name is told exactly if none is told at all. -/
theorem forall_lastFailure?_eq_none {notices : List Notice} :
    (∀ name, lastFailure? name notices = none) ↔
      ∀ entry failure, .error entry (some failure) ∉ notices := by
  simp only [lastFailure?, Option.map_eq_none_iff, List.getLast?_eq_none_iff, failuresOf,
    List.filterMap_eq_nil_iff]
  constructor
  · intro silent entry failure told
    have none := silent entry.name _ told
    exact absurd none (by rw [failureOf?, if_pos rfl]; exact Option.some_ne_none failure)
  · intro fine name notice told
    cases notice with
    | added entry => rfl
    | complete entry => rfl
    | error entry failure =>
      cases failure with
      | none => rfl
      | some failure => exact absurd told (fine entry failure)

/-- If the tracker knows the last failure of a name, it still does when one more request ended. -/
theorem failure?_ending {notices : List Notice} {name : String}
    (known : (Tracker.after (notices.map Notice.event)).failure? name =
      (lastFailure? name notices).map some) {entry : Entry} (letters : entry.name ≠ "")
    (failure : Option Failure) :
    (Tracker.after ((notices ++ [Notice.ending entry failure]).map Notice.event)).failure? name =
      (lastFailure? name (notices ++ [.ending entry failure])).map some := by
  have more : failuresOf name (notices ++ [.ending entry failure]) =
      failuresOf name notices ++ failuresOf name [.ending entry failure] := List.filterMap_append
  rw [List.map_append, List.map_singleton, Tracker.after_concat, Tracker.failure?_record, known,
    lastFailure?, lastFailure?, more]
  cases failure with
  | none =>
    rw [show failuresOf name [.ending entry none] = [] from rfl, List.append_nil]
    exact ite_self _
  | some failure =>
    by_cases same : entry.name = name
    · have told : failuresOf name [.ending entry (some failure)] = [failure] :=
        List.filterMap_cons_some (if_pos same)
      rw [told, List.getLast?_concat]
      exact if_pos ⟨same, same ▸ letters⟩
    · have silent : failuresOf name [.ending entry (some failure)] = [] :=
        List.filterMap_cons_none (if_neg same)
      rw [silent, List.append_nil]
      exact if_neg fun both => same both.1

/-- When requests were queued and then ended, the tracker knows the last failure of a name. -/
theorem failure?_endings (queued : List Entry) {ended : List (Entry × Option Failure)}
    (named : ∀ own ∈ ended, own.1.name ≠ "") (name : String) :
    (Tracker.after ((queued.map Notice.added ++ endings ended).map Notice.event)).failure? name =
      (lastFailure? name (queued.map .added ++ endings ended)).map some := by
  -- From the end of the list, where the tracker heard last.
  induction ended using List.reverseRecOn with
  | nil =>
    rw [show endings [] = [] from rfl, List.append_nil, failure?_added, lastFailure?,
      failuresOf_added]
    rfl
  | append_singleton ended last ih =>
    have known := ih fun own listed => named own (List.mem_append_left _ listed)
    have more : endings (ended ++ [last]) = endings ended ++ [.ending last.1 last.2] := by
      rw [endings, List.map_append]
      rfl
    rw [more, ← List.append_assoc]
    exact failure?_ending known
      (named last (List.mem_append_right _ (List.mem_singleton.mpr rfl))) last.2

/-! ## Who has a result -/

/-- The requests that were queued and are over. -/
def toldOf (entries : List Entry) (failures : List (Option Failure)) : List Notice :=
  entries.map .added ++ endings (entries.zip failures)

section Results

variable {requests : List Request} {failures : List (Option Failure)} {entry : Entry}

/-- It is told that a request is over exactly if it came to that. -/
theorem mem_toldOf (failure : Option Failure) :
    .ending entry failure ∈ toldOf (numbered 0 requests) failures ↔
      (entry, failure) ∈ (numbered 0 requests).zip failures := by
  rw [toldOf, List.mem_append]
  have notQueued : .ending entry failure ∉ (numbered 0 requests).map Notice.added := by
    intro listed
    obtain ⟨other, -, same⟩ := List.mem_map.mp listed
    exact Download.Ledger.ending_ne_added entry other failure same.symm
  rw [or_iff_right notQueued, endings, List.mem_map]
  constructor
  · rintro ⟨own, listed, same⟩
    obtain ⟨rfl, rfl⟩ := Download.Ledger.ending_inj same
    exact listed
  · exact fun listed => ⟨_, listed, rfl⟩

/-- A request has its ticket by its index. -/
theorem mem_numbered : entry ∈ numbered 0 requests ↔
    requests[entry.ticket]? = some entry.request := by
  rw [numbered, List.mem_map]
  constructor
  · rintro ⟨own, listed, rfl⟩
    exact List.mem_zipIdx_iff_getElem?.mp listed
  · exact fun there => ⟨⟨entry.request, entry.ticket⟩, List.mem_zipIdx_iff_getElem?.mpr there, rfl⟩

/-- It is told that the request of a ticket is over exactly if it came to that. -/
theorem mem_toldOf_iff (queued : entry ∈ numbered 0 requests) (failure : Option Failure) :
    .ending entry failure ∈ toldOf (numbered 0 requests) failures ↔
      failures[entry.ticket]? = some failure := by
  have own (index : Nat) : (numbered 0 requests)[index]? =
      requests[index]?.map fun request => ⟨index, request⟩ := by
    rw [numbered, List.getElem?_map, List.getElem?_zipIdx, Option.map_map, Nat.zero_add]
    rfl
  rw [mem_toldOf, List.mem_iff_getElem?]
  constructor
  · rintro ⟨index, found⟩
    obtain ⟨listed, came⟩ := List.getElem?_zip_eq_some.mp found
    rw [own] at listed
    obtain ⟨request, -, same⟩ := Option.map_eq_some_iff.mp listed
    have here : index = entry.ticket := congrArg Entry.ticket same
    exact here ▸ came
  · intro came
    refine ⟨entry.ticket, List.getElem?_zip_eq_some.mpr ⟨?_, came⟩⟩
    rw [own, mem_numbered.mp queued]
    rfl

/-- All requests have their results exactly if none is told to have failed. -/
theorem all_complete_iff (whole : failures.length = requests.length) :
    (∀ entry ∈ numbered 0 requests,
        .complete entry ∈ toldOf (numbered 0 requests) failures) ↔
      ∀ entry failure, .error entry (some failure) ∉ toldOf (numbered 0 requests) failures := by
  constructor
  · intro complete entry failure failed
    -- A ticket comes to one result only.
    have queued : entry ∈ numbered 0 requests :=
      (List.of_mem_zip ((mem_toldOf (some failure)).mp failed)).1
    have one := (mem_toldOf_iff queued none).mp (complete entry queued)
    have other := (mem_toldOf_iff queued (some failure)).mp failed
    cases one.symm.trans other
  · intro fine entry queued
    have inside : entry.ticket < failures.length := by
      rw [whole]
      exact (List.getElem?_eq_some_iff.mp (mem_numbered.mp queued)).1
    have came := List.getElem?_eq_getElem inside
    cases result : failures[entry.ticket] with
    | none => exact (mem_toldOf_iff queued none).mpr (came.trans (congrArg _ result))
    | some failure =>
      exact absurd ((mem_toldOf_iff queued (some failure)).mpr (came.trans (congrArg _ result)))
        (fine entry failure)

end Results

/-! ## The verdict -/

/-- The targets of the requests that have their results, in the order in which they were planned. -/
def completed (notices : List Notice) (planned : List (Target × Request)) : List Target :=
  (planned.zipIdx.filter fun own => .complete ⟨own.2, own.1.2⟩ ∈ notices).map fun own => own.1.1

/-- A line for a file whose digest is there. -/
def IsDigestLine (target : Target) (line : String) : Prop :=
  ∃ digest, line = Text.hex digest ++ "  " ++ target.path

/-- What is said of requests that came to some failures, or none, after their notices. -/
structure Verdict (planned : List (Target × Request)) (failures : List (Option Failure))
    (notices : List Notice) (outcome : Outcome) : Prop where
  /-- Each came to something. -/
  length : failures.length = planned.length
  /-- All were queued before the first one ended, and each ended with what it came to. -/
  told : notices = toldOf (numbered 0 (planned.map (·.2))) failures
  /-- It is a success exactly if each has its result. -/
  code : outcome.code = 0 ↔
    ∀ entry ∈ numbered 0 (planned.map (·.2)), .complete entry ∈ notices
  /-- There is a line for each that has its result, in their order, and no other. -/
  output : List.Forall₂ IsDigestLine (completed notices planned) outcome.output
  /-- Each name that failed is there with its last failure, in the order of the names, once. -/
  errors : ∃ failures, outcome.errors = failures.map failureLine ∧ Named.Sorted failures ∧
    ∀ name words, (name, words) ∈ failures ↔
      ∃ last, lastFailure? name notices = some last ∧ words = some last

/-- What is picked from a list comes from those that are chosen, in their order. -/
theorem forall₂_filterMap {α β γ : Type} {related : β → γ → Prop} {chosen : α → Bool}
    {pick : α → β} {make? : α → Option γ} {items : List α}
    (made : ∀ item ∈ items, chosen item = true → ∃ made, make? item = some made ∧
      related (pick item) made)
    (left : ∀ item ∈ items, chosen item = false → make? item = none) :
    List.Forall₂ related ((items.filter chosen).map pick) (items.filterMap make?) := by
  induction items with
  | nil => exact .nil
  | cons item items ih =>
    have rest := ih (fun other listed => made other (List.mem_cons_of_mem _ listed))
      fun other listed => left other (List.mem_cons_of_mem _ listed)
    cases choice : chosen item with
    | true =>
      obtain ⟨result, makes, fits⟩ := made item List.mem_cons_self choice
      rw [List.filter_cons_of_pos choice, List.filterMap_cons_some makes]
      exact .cons fits rest
    | false =>
      rw [List.filter_cons_of_neg (Bool.eq_false_iff.mp choice),
        List.filterMap_cons_none (left item List.mem_cons_self choice)]
      exact rest

section Carried

variable {planned : List (Target × Request)} {run : List Course} {disk : Disk} {rested : Progress}
  (plan : ∀ own ∈ planned.zipIdx, Planned own.2 own.1)
  (carried : Carried (planned.map (·.2)) run disk rested)
include plan carried

/-- What a planned request came to is what was told of it, and its slot holds the digest. -/
theorem came_of_planned {own : (Target × Request) × Nat} (listed : own ∈ planned.zipIdx) :
    ∃ course ∈ run, run[own.2]? = some course ∧
      rested.session.slots.get own.1.1.digest = slotAfter course ∧
      ∀ failure, .ending ⟨own.2, own.1.2⟩ failure ∈ rested.session.recorded ↔
        course.failure? = failure := by
  have there : planned[own.2]? = some own.1 := List.mem_zipIdx_iff_getElem?.mp listed
  have queued : ⟨own.2, own.1.2⟩ ∈ numbered 0 (planned.map (·.2)) :=
    mem_numbered.mpr ((List.getElem?_map).trans (congrArg (Option.map (·.2)) there))
  have inside : own.2 < run.length := by
    rw [carried.length, List.length_map]
    exact (List.getElem?_eq_some_iff.mp there).1
  have course := List.getElem?_eq_getElem inside
  refine ⟨_, List.getElem_mem inside, course, ?_, fun failure => ?_⟩
  · rw [(plan own listed).slot, carried.slots, Download.Slots.get, List.getElem?_map, course]
    rfl
  · rw [carried.recorded]
    refine (mem_toldOf_iff queued failure).trans ?_
    rw [List.getElem?_map, course, Option.map_some, Option.some.injEq]

/-- Lines are printed for the requests that have their results. -/
theorem forall₂_output : List.Forall₂ IsDigestLine (completed rested.session.recorded planned)
    ((planned.map (·.1)).filterMap (digestLine? rested.session)) := by
  have targets : planned.map (·.1) = planned.zipIdx.map fun own => own.1.1 := by
    conv_lhs => rw [← List.zipIdx_map_fst 0 planned, List.map_map]
    rfl
  rw [targets, List.filterMap_map, completed]
  -- A course that has not failed tells a digest, and one that has failed tells none.
  refine forall₂_filterMap (fun own listed chosen => ?_) fun own listed left => ?_
  · obtain ⟨course, among, -, filled, result⟩ := came_of_planned plan carried listed
    have some := carried.tells course among
    rw [(result none).mp (of_decide_eq_true chosen), Option.isNone_none] at some
    obtain ⟨digest, tells⟩ := Option.isSome_iff_exists.mp some
    refine ⟨_, ?_, digest, rfl⟩
    rw [Function.comp_apply, digestLine?, filled, slotAfter, tells]
    rfl
  · obtain ⟨course, among, -, filled, result⟩ := came_of_planned plan carried listed
    have none := carried.tells course among
    have failed : course.failure? ≠ .none := mt (result .none).mpr (of_decide_eq_false left)
    rw [Option.isNone_eq_false_iff.mpr (Option.isSome_iff_ne_none.mpr failed),
      Option.isSome_eq_false_iff, Option.isNone_iff_eq_none] at none
    rw [Function.comp_apply, digestLine?, filled, slotAfter, none]
    rfl

/-- The tracker knows the last failures of the names, in their order. -/
theorem failures_iff :
    let failures := (show Tracker from rested.session.state).failures
    Named.Sorted failures ∧ ∀ name words, (name, words) ∈ failures ↔
      ∃ last, lastFailure? name rested.session.recorded = some last ∧ words = some last := by
  intro failures
  have ordered : Named.Sorted failures := by
    have whole := Tracker.ordered_after (rested.session.recorded.map Notice.event)
    rw [← carried.state] at whole
    exact whole.failures
  refine ⟨ordered, fun name words => ?_⟩
  have named : ∀ own ∈ (numbered 0 (planned.map (·.2))).zip (run.map Course.failure?),
      own.1.name ≠ "" :=
    fun own listed => (wanted_of_planned plan own.1 (List.of_mem_zip listed).1).named
  have known := failure?_endings (numbered 0 (planned.map (·.2))) named name
  rw [← carried.recorded, ← carried.state] at known
  rw [Named.mem_iff_find? ordered]
  change Tracker.failure? _ name = some words ↔ _
  rw [known, Option.map_eq_some_iff]
  exact exists_congr fun last => and_congr_right fun _ => eq_comm

/-- The download succeeds exactly if each request has its result. -/
theorem code_iff : (downloadOutcome rested.session (planned.map (·.1))).code = 0 ↔
    ∀ entry ∈ numbered 0 (planned.map (·.2)), .complete entry ∈ rested.session.recorded := by
  let failures := (show Tracker from rested.session.state).failures
  obtain ⟨-, known⟩ := failures_iff plan carried
  have empty : (downloadOutcome rested.session (planned.map (·.1))).code = 0 ↔ failures = [] := by
    rw [downloadOutcome, Outcome.finished, ite_eq_left_iff, List.isEmpty_iff]
    exact ⟨fun zero => by_contra fun some => absurd (zero some) (by decide),
      fun none some => absurd none some⟩
  -- No name is listed exactly if no failure was told, whatever the name.
  have silent : failures = [] ↔ ∀ name, lastFailure? name rested.session.recorded = none := by
    rw [List.eq_nil_iff_forall_not_mem]
    constructor
    · intro nothing name
      refine Option.eq_none_iff_forall_ne_some.mpr fun last told => ?_
      exact nothing _ ((known name (some last)).mpr ⟨last, told, rfl⟩)
    · intro silent own listed
      obtain ⟨last, told, -⟩ := (known own.1 own.2).mp listed
      exact Option.some_ne_none last (told.symm.trans (silent own.1))
  have whole : (run.map Course.failure?).length = (planned.map (·.2)).length := by
    rw [List.length_map, carried.length]
  rw [empty, silent, forall_lastFailure?_eq_none, carried.recorded]
  exact (all_complete_iff whole).symm

/-- The verdict on requests that were carried out. -/
theorem verdict_of_carried : Verdict planned (run.map Course.failure?) rested.session.recorded
    (downloadOutcome rested.session (planned.map (·.1))) := by
  obtain ⟨sorted, known⟩ := failures_iff plan carried
  refine ⟨?_, carried.recorded, code_iff plan carried, forall₂_output plan carried,
    ⟨_, rfl, sorted, known⟩⟩
  rw [List.length_map, carried.length, List.length_map]

end Carried

/-- **A download succeeds exactly if every request has its result**, over every network, for every
list of addresses that name files, and on every disk whatever troubles lie ahead, as long as nobody
gives up waiting. It prints the digests of those that have, in order, and the last failure of each
name that failed; what a request comes to is the course of its own fetch on the disk that those
before it have left. A name of the program that cannot be sent stops it before anything is done. -/
theorem download_by_results (network : Network) {plan : DownloadPlan} {disk : Disk}
    {planned : List (Target × Request)}
    (planning : requests plan.directory 0 plan.urls = .ok planned) (awaited : disk.Awaited) :
    List.Forall₂ (IsFor plan.directory) plan.urls planned ∧
      if Http.isHeaderValue plan.settings.userAgent then
        let run := courses network plan.settings.userAgent 0 0 disk (planned.map (·.2))
        let rested := carriedOut network plan.settings.userAgent disk (planned.map (·.2))
        download network plan disk =
            (downloadOutcome rested.session (planned.map (·.1)), rested.disk) ∧
          Verdict planned (run.map Course.failure?) rested.session.recorded
            (download network plan disk).1
      else download network plan disk =
        (.failed (Failure.network Http.malformedRequest).message, disk) := by
  refine ⟨forall₂_requests planning, ?_⟩
  have plans := planned_of_requests planning
  split
  · rename_i sendable
    intro run rested
    have whole := download_eq network disk planning sendable
    refine ⟨whole, ?_⟩
    rw [whole]
    exact verdict_of_carried plans (carried network _ (wanted_of_planned plans) awaited)
  · rename_i unsendable
    rw [download, if_pos (by rw [Bool.eq_false_iff.mpr unsendable]; rfl)]

/-! ## Two files of one name -/

namespace Recovering

/-- A server that fails at first. -/
def network : Network := fun count _ =>
  .ok ⟨if count = 0 then 500 else 200, none, none, [[UInt8.ofNat (0x30 + count)]], none⟩

/-- Two files of one name and another one between them. -/
def plan : DownloadPlan := ⟨["http://h/a", "http://h/b", "http://h/a"], "", ⟨"u", none⟩⟩

/-- What is planned for one of them. -/
def planned (number : Nat) (name : String) : Target × Request :=
  (⟨name, ⟨number⟩⟩, ⟨"http://h/" ++ name, name, .file name, { digest := some ⟨number⟩ }⟩)

end Recovering

/-- The second file of the name arrives, and the failure of the first one is not forgotten. -/
theorem download_by_results_recovering :
    let planned := [Recovering.planned 0 "a", Recovering.planned 1 "b", Recovering.planned 2 "a"]
    requests "" 0 Recovering.plan.urls = .ok planned ∧ Disk.empty.Awaited ∧
      Verdict planned [some (.httpStatus "http://h/a" 500), none, none]
        (carriedOut Recovering.network "u" .empty (planned.map (·.2))).session.recorded
        (download Recovering.network Recovering.plan .empty).1 ∧
      (download Recovering.network Recovering.plan .empty).1 =
        ⟨["6b86b273ff34fce19d6b804eff5a3f5747ada4eaa22f1d49c01e52ddb7875b4b  b",
          "d4735e3a265e16eee03f59718b9b5d03019c07d8b6c51f90da3a666eec13ab35  a"],
          ["a: http://h/a returned HTTP 500"], 1⟩ := by
  intro planned
  have planning : requests "" 0 Recovering.plan.urls = .ok planned := rfl
  have awaited : Disk.empty.Awaited := fun _ => List.not_mem_nil
  have verdict := (@download_by_results Recovering.network Recovering.plan .empty _ planning
    awaited).2.2
  have failures : (courses Recovering.network "u" 0 0 .empty (planned.map (·.2))).map
      Course.failure? = [some (.httpStatus "http://h/a" 500), none, none] := by decide +kernel
  exact ⟨planning, awaited, failures ▸ verdict, by decide +kernel⟩

end Sailplane.Command
