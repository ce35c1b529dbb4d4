import Mathlib.Data.List.Forall2
import Sailplane.Command.Download
import Sailplane.Proofs.Download.Alone
import Sailplane.Proofs.Download.Tracking
import Sailplane.Proofs.Http.Reports

/-!
# Carrying out a list of downloads

All requests are queued before the first transfer begins. From then on each is carried out when all
before it are over, and the queue waits for nothing else: what comes of the whole is what comes of
the courses one after the other.
-/
namespace Sailplane.Command

open Download (Content Entry Event Failure Frame Notice Request Script Session Signal Slots Tracker)
open Download.Session (Informs Poised Serves Strides)
open Http (Course Network)

/-! ## Queueing -/

/-- What the tracker knows after an event. -/
def tracked : trackerUsers.State → Event → trackerUsers.State := Tracker.record

/-- The tracker notes what it is told. -/
theorem notes_tracked : @Session.Notes trackerUsers () tracked := fun _ => rfl

/-- Requests numbered from a number on. -/
def numbered (first : Nat) (requests : List Request) : List Entry :=
  (requests.zipIdx first).map fun own => ⟨own.2, own.1⟩

/-- The first of some requests has the first number. -/
theorem numbered_cons (first : Nat) (request : Request) (requests : List Request) :
    numbered first (request :: requests) = ⟨first, request⟩ :: numbered (first + 1) requests :=
  rfl

/-- What is done for a request that is to be queued. -/
def queueOne (request : Request) : trackerUsers.Script Unit := do
  let _ ← Script.newSlot
  Script.enqueue request

/-- Queueing requests takes nine steps for each. -/
theorem strides_each (requests : List Request) {past : Nat} {entries : List Entry}
    {session : Session trackerUsers} (poised : @Poised trackerUsers () past entries session)
    (stack : session.stack = [.script (Script.each requests queueOne)]) :
    ∃ next, Strides (9 * requests.length + 1) session next ∧
      @Poised trackerUsers () past (entries ++ numbered session.queue.issued requests) next ∧
      next.stack = [] ∧
      Informs tracked session next
        ((numbered session.queue.issued requests).map .added)
        ⟨session.slots.contents ++ List.replicate requests.length none⟩ := by
  -- What is queued before the rest is queued stays in front of it.
  induction requests generalizing entries session with
  | nil =>
    have ended : session.step? = some { session with stack := [] } := Session.step_of_stack stack
    refine ⟨{ session with stack := [] }, .single ended, ?_, rfl, ?_⟩
    · rw [show numbered session.queue.issued [] = [] from rfl, List.append_nil]
      exact poised.of_slots session.slots []
    · exact ⟨(List.append_nil _).symm, rfl, congrArg Slots.mk (List.append_nil _).symm⟩
  | cons request requests ih =>
    let asking : Session trackerUsers :=
      { session with
        slots := ⟨session.slots.contents ++ [none]⟩
        stack := [.script (.call (.enqueue request) fun _ => Script.each requests queueOne)] }
    have asked : session.step? = some asking := Session.step_of_call stack
    have still : @Poised trackerUsers () past entries asking := poised.of_slots _ _
    obtain ⟨queued, strides, heads, issued, told, left⟩ := still.queues notes_tracked rfl
    obtain ⟨next, rest, ends, quiet, informs⟩ := ih heads left
    rw [issued] at ends informs
    refine ⟨next, ?_, ?_, quiet, ?_⟩
    · have whole := Strides.onward asked (strides.trans rest)
      rwa [show 8 + (9 * requests.length + 1) + 1 = 9 * (request :: requests).length + 1 by
        rw [List.length_cons]; omega] at whole
    · rwa [List.append_assoc, List.singleton_append, ← numbered_cons] at ends
    · have whole := told.trans informs
      rw [numbered_cons, List.map_cons]
      refine ⟨whole.recorded, whole.state, whole.slots.trans ?_⟩
      rw [told.slots, List.length_cons, List.replicate_succ, List.append_assoc]
      rfl

/-- After all requests were queued the transfer of the first one runs. -/
theorem serves_queueAll (requests : List Request) :
    ∃ session,
      settle (.new Tracker.empty) (queueAll requests) (patience requests.length 0) = session ∧
      @Serves trackerUsers () 0 (numbered 0 requests) session ∧
      Informs tracked (.new Tracker.empty) session
        ((numbered 0 requests).map .added) ⟨List.replicate requests.length none⟩ := by
  let opened : Session trackerUsers :=
    { Session.new Tracker.empty with
      registry := (Download.Registry.empty.add ()).2
      stack := [.script (Script.each requests queueOne)] }
  have registered : Session.step? ((Session.new Tracker.empty).begin (queueAll requests)) =
      some opened := rfl
  have poised : @Poised trackerUsers () 0 [] opened :=
    ⟨⟨rfl, rfl, rfl, rfl, rfl, rfl, rfl, fun _ none => absurd none List.not_mem_nil⟩,
      fun _ none => absurd none (by simp), rfl⟩
  obtain ⟨queued, strides, heads, quiet, told⟩ := strides_each requests poised rfl
  obtain ⟨count, session, few, begun, serves, -, silent⟩ := heads.begins quiet
  have whole := Strides.onward registered (strides.trans begun)
  refine ⟨session, whole.repeatedly serves.atRest ?_, serves, ?_⟩
  · rw [patience]
    omega
  · have informs := told.trans silent
    rw [List.append_nil] at informs
    exact ⟨informs.recorded, informs.state, informs.slots.trans told.slots⟩

/-! ## One after the other -/

/-- That requests are over, with their failures. -/
def endings (ended : List (Entry × Option Failure)) : List Notice :=
  ended.map fun own => .ending own.1 own.2

/-- The courses of requests that are carried out after a number of requests and exchanges. -/
def courses (network : Network) (userAgent : String) :
    Nat → Nat → Disk → List Request → List Course
  | _, _, _, [] => []
  | past, count, disk, request :: rest =>
    let fetched := Http.fetch network userAgent count request (toString (past + 1)) disk
    fetched.1 :: courses network userAgent (past + 1) fetched.2 fetched.1.disk rest

/-- The disk after courses. -/
def diskAfter (disk : Disk) (courses : List Course) : Disk :=
  courses.foldl (fun _ course => course.disk) disk

/-- Whether a request has a name, is for a file, and has the slot of its ticket for the digest. -/
structure Wanted (entry : Entry) : Prop where
  /-- It is named. -/
  named : entry.name ≠ ""
  /-- A file is wanted. -/
  file : ∃ path, entry.request.destination = .file path
  /-- The digest, too. -/
  digest : entry.request.data.digest = some ⟨entry.ticket⟩

/-- What a slot holds after a course. -/
def slotAfter (course : Course) : Option Content := course.digest?.map .digest

/-- A slot that was empty is filled by a course that arrives. -/
theorem put_digest (filled left : List (Option Content)) (course : Course) :
    course.digest?.elim ⟨filled ++ none :: left⟩
        (fun digest => Slots.put ⟨filled ++ none :: left⟩ ⟨filled.length⟩ (.digest digest)) =
      ⟨(filled ++ [slotAfter course]) ++ left⟩ := by
  rw [slotAfter]
  cases course.digest? with
  | none => simp
  | some digest => simp [Slots.put]

/-- The transfer that runs is carried out, and then the next one runs. -/
theorem fetch?_eq (network : Network) (userAgent : String) (total : Nat) {past : Nat}
    {entry : Entry} {left : List Entry} {progress : Progress}
    (serves : @Serves trackerUsers () past (entry :: left) progress.session)
    (wanted : Wanted entry) (awaited : progress.disk.Awaited) :
    let fetched := Http.fetch network userAgent progress.exchanges entry.request
      (toString (past + 1)) progress.disk
    ∃ session, progress.fetch? network userAgent total =
        some ⟨session, fetched.1.disk, fetched.2⟩ ∧
      @Serves trackerUsers () (past + 1) left session ∧
      Informs tracked progress.session session [.ending entry fetched.1.failure?]
        (fetched.1.digest?.elim progress.session.slots fun digest =>
          progress.session.slots.put ⟨entry.ticket⟩ (.digest digest)) ∧
      fetched.1.disk.Awaited := by
  intro fetched
  obtain ⟨path, file⟩ := wanted.file
  have tells := Http.fetch_tells network userAgent progress.exchanges (toString (past + 1)) file
    awaited
  obtain ⟨transfer, poised, found, same, numbered, strides, heads, quiet, told⟩ :=
    serves.fetches notes_tracked tells.isPlain fetched.1.failure?
  obtain ⟨count, session, few, begun, waits, -, silent⟩ :=
    @Poised.begins trackerUsers () tracked _ _ _ heads quiet
  have serial : progress.session.queue.serial = past + 1 := serves.serial
  have active : progress.session.queue.active = some progress.session.queue.serial := serves.active
  have settled : settle progress.session (Script.ask (.signal fetched.1.toSignals))
      (patience total fetched.1.toSignals.length) = session := by
    rw [tells.toSignals]
    refine (strides.trans begun).repeatedly waits.atRest ?_
    rw [patience, List.length_append, List.length_singleton]
    omega
  refine ⟨session, ?_, waits, ?_, tells.awaited⟩
  · rw [Progress.fetch?, active, Option.bind_some, found, Option.map_some, same, numbered, serial]
    exact congrArg (fun session => some (⟨session, fetched.1.disk, fetched.2⟩ : Progress)) settled
  · have asked : transfer.entry.request.data.digest = some ⟨entry.ticket⟩ := same ▸ wanted.digest
    have whole := told.trans silent
    rw [List.append_nil] at whole
    refine ⟨whole.recorded, whole.state, whole.slots.trans (told.slots.trans ?_)⟩
    exact tells.fills asked progress.session.slots

/-- Requests that wait are carried out one after the other, and nothing else happens. -/
theorem fetchAll_eq (network : Network) (userAgent : String) (total : Nat)
    {requests : List Request} {filled : List (Option Content)} {progress : Progress}
    (serves : @Serves trackerUsers () filled.length (numbered filled.length requests)
      progress.session)
    (slots : progress.session.slots = ⟨filled ++ List.replicate requests.length none⟩)
    (wanted : ∀ entry ∈ numbered filled.length requests, Wanted entry)
    (awaited : progress.disk.Awaited) :
    let run := courses network userAgent filled.length progress.exchanges progress.disk requests
    let rested := progress.fetchAll network userAgent total requests.length
    Informs tracked progress.session rested.session
        (endings ((numbered filled.length requests).zip (run.map Course.failure?)))
        ⟨filled ++ run.map slotAfter⟩ ∧
      rested.disk = diskAfter progress.disk run := by
  -- The slots that are filled grow by one with each request that is over.
  induction requests generalizing filled progress with
  | nil => exact ⟨⟨(List.append_nil _).symm, rfl, slots⟩, rfl⟩
  | cons request requests ih =>
    rw [numbered_cons] at serves wanted
    obtain ⟨session, fetched, waits, told, stillAwaited⟩ :=
      fetch?_eq network userAgent total serves (wanted _ List.mem_cons_self) awaited
    let course := (Http.fetch network userAgent progress.exchanges request
      (toString (filled.length + 1)) progress.disk).1
    let exchanges := (Http.fetch network userAgent progress.exchanges request
      (toString (filled.length + 1)) progress.disk).2
    have longer : (filled ++ [slotAfter course]).length = filled.length + 1 := List.length_append
    have filledNow : session.slots =
        ⟨(filled ++ [slotAfter course]) ++ List.replicate requests.length none⟩ := by
      rw [told.slots, slots]
      exact put_digest filled (List.replicate requests.length none) course
    obtain ⟨informs, disk⟩ := @ih (filled ++ [slotAfter course]) ⟨session, course.disk, exchanges⟩
      (by rw [longer]; exact waits) filledNow
      (by rw [longer]; exact fun other listed => wanted other (List.mem_cons_of_mem _ listed))
      stillAwaited
    rw [longer] at informs disk
    intro run rested
    have goes : rested = Progress.fetchAll network userAgent total requests.length
        ⟨session, course.disk, exchanges⟩ := by
      change Progress.fetchAll network userAgent total (requests.length + 1) progress = _
      rw [Progress.fetchAll, fetched]
    have whole := told.trans informs
    rw [goes, numbered_cons]
    refine ⟨⟨whole.recorded, whole.state, whole.slots.trans ?_⟩, disk⟩
    rw [List.append_assoc]
    rfl

/-! ## The whole list -/

/-- Requests, carried out from the first to the last. -/
def carriedOut (network : Network) (userAgent : String) (disk : Disk) (requests : List Request) :
    Progress :=
  Progress.fetchAll network userAgent requests.length requests.length
    ⟨settle (.new Tracker.empty) (queueAll requests) (patience requests.length 0), disk, 0⟩

/-- Whether a list of requests was carried out: they were queued, and then each had its course,
which was recorded and left its digest in the slot. -/
structure Carried (requests : List Request) (run : List Course) (disk : Disk)
    (rested : Progress) : Prop where
  /-- Each request has a course. -/
  length : run.length = requests.length
  /-- A course tells of a digest or of a failure. -/
  tells : ∀ course ∈ run, course.digest?.isSome = course.failure?.isNone
  /-- All were queued before the first one ended. -/
  recorded : rested.session.recorded = (numbered 0 requests).map .added ++
    endings ((numbered 0 requests).zip (run.map Course.failure?))
  /-- The tracker knows what was recorded. -/
  state : rested.session.state = Tracker.after (rested.session.recorded.map Notice.event)
  /-- The slots hold the digests. -/
  slots : rested.session.slots = ⟨run.map slotAfter⟩
  /-- The disk is as the last course left it. -/
  disk : rested.disk = diskAfter disk run

/-- Each request has a course. -/
theorem length_courses (network : Network) (userAgent : String) (past count : Nat) (disk : Disk)
    (requests : List Request) :
    (courses network userAgent past count disk requests).length = requests.length := by
  induction requests generalizing past count disk with
  | nil => rfl
  | cons request requests ih => exact congrArg (· + 1) (ih _ _ _)

/-- Each course tells of a digest or of a failure. -/
theorem tells_courses (network : Network) (userAgent : String) {past count : Nat} {disk : Disk}
    {requests : List Request} (wanted : ∀ entry ∈ numbered past requests, Wanted entry)
    (awaited : disk.Awaited) :
    ∀ course ∈ courses network userAgent past count disk requests,
      course.digest?.isSome = course.failure?.isNone := by
  induction requests generalizing past count disk with
  | nil => exact fun course listed => absurd listed List.not_mem_nil
  | cons request requests ih =>
    rw [numbered_cons] at wanted
    obtain ⟨path, file⟩ := (wanted _ List.mem_cons_self).file
    have tells := Http.fetch_tells network userAgent count (toString (past + 1)) file awaited
    intro course listed
    rcases List.mem_cons.mp listed with rfl | behind
    · exact tells.isSome_digest?
    · exact ih (fun entry later => wanted entry (List.mem_cons_of_mem _ later)) tells.awaited
        course behind

/-- Requests for files are carried out on a disk while somebody waits. -/
theorem carried (network : Network) (userAgent : String) {disk : Disk} {requests : List Request}
    (wanted : ∀ entry ∈ numbered 0 requests, Wanted entry) (awaited : disk.Awaited) :
    Carried requests (courses network userAgent 0 0 disk requests) disk
      (carriedOut network userAgent disk requests) := by
  obtain ⟨session, settled, serves, told⟩ := serves_queueAll requests
  obtain ⟨informs, left⟩ := @fetchAll_eq network userAgent requests.length requests []
    ⟨session, disk, 0⟩ serves told.slots wanted awaited
  have whole := told.trans informs
  rw [carriedOut, settled]
  refine ⟨length_courses .., tells_courses network userAgent wanted awaited, whole.recorded, ?_,
    whole.slots, left⟩
  rw [whole.state, whole.recorded, Tracker.after, List.foldl_map]
  rfl

/-! ## What is planned -/

/-- A planned request is for a file of a name at the path of its target, and its digest goes into
the slot of that number. -/
structure Planned (number : Nat) (own : Target × Request) : Prop where
  /-- The file goes to the path. -/
  file : own.2.destination = .file own.1.path
  /-- It is named. -/
  named : own.2.name ≠ ""
  /-- The digest goes into the slot. -/
  digest : own.2.data.digest = some own.1.digest
  /-- The slot has the number. -/
  slot : own.1.digest = ⟨number⟩

/-- A target and a request are for an address: the file is named after the address, lies in the
directory, and is the one that is asked for. -/
structure IsFor (directory url : String) (own : Target × Request) : Prop where
  /-- The path ends in the name. -/
  path : own.1.path = Path.join directory (fileName url)
  /-- The address is asked for. -/
  uri : own.2.uri = url
  /-- The request is named after the file. -/
  name : Path.fileName? own.1.path = some own.2.name

/-- A request for a file is named after it. -/
theorem planned_file {url path : String} {number : Nat} {request : Request}
    (made : Request.file url path (.withDigest .none ⟨number⟩) = .ok request) :
    Planned number (⟨path, ⟨number⟩⟩, request) ∧ request.uri = url ∧
      Path.fileName? path = some request.name := by
  unfold Request.file at made
  split at made
  · rename_i name named
    cases made
    exact ⟨⟨rfl, Path.ne_empty_of_fileName? named, rfl, rfl⟩, rfl, named⟩
  · cases made

section Planning

variable {directory : String} {urls : List String} {first : Nat}
  {planned : List (Target × Request)}

/-- The first address is planned first. -/
theorem requests_cons {url : String}
    (planning : requests directory first (url :: urls) = .ok planned) :
    ∃ request rest, Request.file url (Path.join directory (fileName url))
        (.withDigest .none ⟨first⟩) = .ok request ∧
      requests directory (first + 1) urls = .ok rest ∧
      planned = (⟨Path.join directory (fileName url), ⟨first⟩⟩, request) :: rest := by
  rw [requests] at planning
  cases made : Request.file url (Path.join directory (fileName url))
      (.withDigest .none ⟨first⟩) with
  | error failure =>
    rw [made] at planning
    cases planning
  | ok request =>
    cases others : requests directory (first + 1) urls with
    | error failure =>
      rw [made, others] at planning
      cases planning
    | ok rest =>
      rw [made, others] at planning
      cases planning
      exact ⟨request, rest, rfl, rfl, rfl⟩

/-- Each address has its target and its request. -/
theorem forall₂_requests (planning : requests directory first urls = .ok planned) :
    List.Forall₂ (IsFor directory) urls planned := by
  induction urls generalizing first planned with
  | nil =>
    cases planning
    exact .nil
  | cons url urls ih =>
    obtain ⟨request, rest, made, others, rfl⟩ := requests_cons planning
    obtain ⟨-, uri, name⟩ := planned_file made
    exact .cons ⟨rfl, uri, name⟩ (ih others)

/-- Everything that is planned is planned under its number. -/
theorem planned_of_requests (planning : requests directory first urls = .ok planned) :
    ∀ own ∈ planned.zipIdx first, Planned own.2 own.1 := by
  induction urls generalizing first planned with
  | nil =>
    cases planning
    exact fun own listed => absurd listed List.not_mem_nil
  | cons url urls ih =>
    obtain ⟨request, rest, made, others, rfl⟩ := requests_cons planning
    intro own listed
    rcases List.mem_cons.mp listed with rfl | behind
    · exact (planned_file made).1
    · exact ih others own behind

end Planning

/-- What is planned is wanted. -/
theorem wanted_of_planned {first : Nat} {planned : List (Target × Request)}
    (plan : ∀ own ∈ planned.zipIdx first, Planned own.2 own.1) :
    ∀ entry ∈ numbered first (planned.map (·.2)), Wanted entry := by
  intro entry listed
  rw [numbered, List.zipIdx_map, List.map_map] at listed
  obtain ⟨own, among, rfl⟩ := List.mem_map.mp listed
  have planned := plan own among
  exact ⟨planned.named, ⟨own.1.1.path, planned.file⟩,
    planned.digest.trans (congrArg some planned.slot)⟩

/-- To download is to carry out what is planned. -/
theorem download_eq (network : Network) {plan : DownloadPlan} (disk : Disk)
    {planned : List (Target × Request)}
    (planning : requests plan.directory 0 plan.urls = .ok planned)
    (sendable : Http.isHeaderValue plan.settings.userAgent = true) :
    let rested := carriedOut network plan.settings.userAgent disk (planned.map (·.2))
    download network plan disk =
      (downloadOutcome rested.session (planned.map (·.1)), rested.disk) := by
  intro rested
  simp only [download, planning, sendable, rested, carriedOut, List.length_map]
  rfl

end Sailplane.Command
