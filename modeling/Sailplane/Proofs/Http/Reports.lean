import Sailplane.Proofs.Download.Alone
import Sailplane.Proofs.Http.AllOrNothing

/-!
# What a download tells

While somebody waits for a download for a file it tells how far it is, then the digest of what has
arrived if all of it has, and its end; and somebody still waits after it.
-/
namespace Sailplane.Http

open Download (Content Failure Request Session Signal Slot Slots Transfer)

/-- Whether signals are reports of progress only. -/
def Reports (signals : List Signal) : Prop :=
  ∀ signal ∈ signals, (∃ bytes, signal = .size bytes) ∨ ∃ bytes, signal = .position bytes

theorem reports_nil : Reports [] := fun _ listed => absurd listed List.not_mem_nil

theorem reports_sizeSignals (reply : Reply) : Reports (sizeSignals reply) := by
  intro signal listed
  obtain ⟨bytes, -, same⟩ := List.mem_map.mp listed
  exact .inl ⟨bytes, same.symm⟩

theorem Reports.append {signals others : List Signal} (reports : Reports signals)
    (alsoReports : Reports others) : Reports (signals ++ others) := fun signal listed =>
  (List.mem_append.mp listed).elim (reports signal) (alsoReports signal)

/-- Reports fill no slot. -/
theorem Reports.silent {signals : List Signal} (reports : Reports signals) : Silent signals := by
  intro content listed
  rcases reports _ listed with ⟨bytes, same⟩ | ⟨bytes, same⟩
  · cases same
  · cases same

/-- Reports are followed without more ado. -/
theorem Reports.isPlain {signals : List Signal} (reports : Reports signals) :
    ∀ signal ∈ signals, signal.isPlain = true := by
  intro signal listed
  rcases reports signal listed with ⟨bytes, rfl⟩ | ⟨bytes, rfl⟩
  · rfl
  · rfl

/-- What a course tells that was asked for a file and got an answer, or a failure instead. -/
inductive Tells (answered : Except Failure Answer) : Course → Prop where
  /-- All has arrived, and the digest is told. -/
  | arrived {reports : List Signal} {answer : Answer} {disk : Disk} (plain : Reports reports)
    (awaited : disk.Awaited) (same : answered = .ok answer) :
    Tells answered ⟨reports ++ [.fill (.digest (Sha256.digest answer.body))], none, disk⟩
  /-- It has failed. -/
  | failed {reports : List Signal} {failure : Failure} {disk : Disk} (plain : Reports reports)
    (awaited : disk.Awaited) : Tells answered ⟨reports, some (.failed failure), disk⟩

/-- The failure of a course that has failed. -/
def Course.failure? (course : Course) : Option Failure :=
  match course.stop with
  | some (.failed failure) => some failure
  | _ => none

/-- The digest that a course tells, if it tells one. -/
def Course.digest? (course : Course) : Option (List UInt8) :=
  course.signals.findSome? fun signal =>
    match signal with
    | .fill (.digest digest) => some digest
    | _ => none

/-- What fills no slot tells no digest. -/
theorem Silent.digest?_append {reports : List Signal} (silent : Silent reports)
    (signals : List Signal) (stop : Option Stop) (disk : Disk) :
    Course.digest? ⟨reports ++ signals, stop, disk⟩ = Course.digest? ⟨signals, stop, disk⟩ := by
  induction reports with
  | nil => rfl
  | cons signal reports ih =>
    have rest := ih fun content listed => silent content (List.mem_cons_of_mem _ listed)
    cases signal with
    | fill content => exact absurd List.mem_cons_self (silent content)
    | _ => exact rest

/-- A course that fills no slot tells no digest. -/
theorem Silent.digest?_eq_none {course : Course} (silent : Silent course.signals) :
    course.digest? = none := by
  have alone := silent.digest?_append [] course.stop course.disk
  rw [List.append_nil] at alone
  exact alone

namespace Tells

variable {answered : Except Failure Answer} {course : Course}

/-- Somebody still waits. -/
theorem awaited (tells : Tells answered course) : course.disk.Awaited := by
  cases tells with
  | arrived plain awaited same => exact awaited
  | failed plain awaited => exact awaited

/-- It was not given up. -/
theorem waited (tells : Tells answered course) : course.stop ≠ some .abandoned := by
  cases tells with
  | arrived plain awaited same => simp
  | failed plain awaited => simp

/-- The end is told last. -/
theorem toSignals (tells : Tells answered course) :
    course.toSignals = course.signals ++ [.finish course.failure?] := by
  cases tells with
  | arrived plain awaited same => rfl
  | failed plain awaited => rfl

/-- Before the end nothing is told but how far it is and what was wanted. -/
theorem isPlain (tells : Tells answered course) :
    ∀ signal ∈ course.signals, signal.isPlain = true := by
  cases tells with
  | arrived plain awaited same =>
    intro signal listed
    rcases List.mem_append.mp listed with early | last
    · exact plain.isPlain signal early
    · rw [List.mem_singleton.mp last]
      rfl
  | failed plain awaited => exact plain.isPlain

/-- A digest is told exactly by a course that has not failed. -/
theorem isSome_digest? (tells : Tells answered course) :
    course.digest?.isSome = course.failure?.isNone := by
  cases tells with
  | arrived plain awaited same =>
    rw [plain.silent.digest?_append]
    rfl
  | failed plain awaited =>
    rw [Silent.digest?_eq_none plain.silent]
    rfl

/-- The digest that is told is put into the slot for it. -/
theorem fills (tells : Tells answered course) {transfer : Transfer} {slot : Slot}
    (asked : transfer.entry.request.data.digest = some slot) (slots : Slots Content) :
    Session.slotsAfter transfer course.signals slots =
      course.digest?.elim slots fun digest => slots.put slot (.digest digest) := by
  cases tells with
  | arrived plain awaited same =>
    rw [plain.silent.digest?_append, Session.slotsAfter, List.foldl_append,
      foldl_silent plain.silent transfer slots, List.foldl_cons, Session.filling?,
      Request.slotFor, asked]
    rfl
  | failed plain awaited =>
    rw [Silent.digest?_eq_none plain.silent]
    exact foldl_silent plain.silent transfer slots

end Tells

section

variable {answer : Answer} {disk : Disk}

/-- An operation that stops and was not interrupted makes the course fail. -/
theorem tells_stopped {answered : Except Failure Answer} {reports : List Signal}
    {trouble : Trouble} (plain : Reports reports)
    (awaits : Disk.Awaits (some trouble, disk)) (place : Place) :
    Tells answered ⟨reports, some (.of trouble), disk.remove place⟩ := by
  cases trouble with
  | fails reason => exact .failed plain awaits.awaited
  | interrupts fate => exact absurd rfl (awaits.met fate)

/-- Chunks are written with a report after each. -/
theorem store_tells {file : Place} {count : Nat} {chunks : List (List UInt8)} {after : Disk}
    {signals : List Signal} {trouble : Option Trouble} (awaited : disk.Awaited)
    (stored : store file count chunks disk = (signals, trouble, after)) :
    Reports signals ∧ Disk.Awaits (trouble, after) := by
  induction chunks generalizing count disk signals with
  | nil =>
    cases stored
    exact ⟨reports_nil, by simp, awaited⟩
  | cons chunk rest ih =>
    have written : Disk.Awaits (disk.append file chunk) := awaited.operate _
    rw [store] at stored
    split at stored
    · rename_i met
      cases stored
      exact ⟨reports_nil, met ▸ written⟩
    · rename_i middle done
      cases further : store file (count + chunk.length) rest middle with
      | mk later reached =>
        rw [further] at stored
        cases stored
        obtain ⟨plain, awaits⟩ := ih (done ▸ written).awaited further
        refine ⟨fun signal listed => ?_, awaits⟩
        rcases List.mem_cons.mp listed with rfl | mem
        · exact .inr ⟨_, rfl⟩
        · exact plain signal mem

theorem commit_tells {path partialFile : String} {reports : List Signal} (plain : Reports reports)
    (awaited : disk.Awaited) :
    Tells (.ok answer) (commit path partialFile answer reports disk) := by
  have moved (target : String) : Disk.Awaits (disk.rename (Path.place partialFile) target) :=
    awaited.operate _
  unfold commit
  dsimp only
  split
  · split
    · rename_i met
      exact tells_stopped plain (met ▸ moved path) _
    · rename_i done
      exact .arrived plain (done ▸ moved path).awaited rfl
  · split
    · exact .failed plain awaited
    · split
      · rename_i met
        exact tells_stopped plain (met ▸ moved _) _
      · rename_i done
        exact .failed plain (done ▸ moved _).awaited

theorem fill_tells (path partialFile : String) (awaited : disk.Awaited) :
    Tells (.ok answer) (fill path partialFile answer disk) := by
  have plain := reports_sizeSignals answer.reply
  have created : Disk.Awaits (disk.create (Path.place partialFile)) := awaited.operate _
  unfold fill
  dsimp only
  split
  · rename_i met
    exact tells_stopped plain (met ▸ created) _
  rename_i made done
  have awaited := (done ▸ created).awaited
  split
  · rename_i after stored
    obtain ⟨alsoPlain, awaits⟩ := store_tells awaited stored
    exact tells_stopped (plain.append alsoPlain) awaits _
  rename_i reached stored
  obtain ⟨alsoPlain, awaits⟩ := store_tells awaited stored
  have plain := plain.append alsoPlain
  cases breaks : answer.reply.broken with
  | some reason =>
    rw [show answer.reply.stop = some (.failed (.network reason)) by rw [Reply.stop, breaks]; rfl]
    exact .failed plain awaits.awaited
  | none =>
    rw [show answer.reply.stop = none by rw [Reply.stop, breaks]; rfl]
    dsimp only
    have synced : Disk.Awaits reached.sync := awaits.awaited.operate .sync
    split
    · rename_i met
      exact tells_stopped plain (met ▸ synced) _
    · rename_i done
      exact commit_tells plain (done ▸ synced).awaited

theorem download_tells (path tag : String) (awaited : disk.Awaited) :
    Tells (.ok answer) (download path tag answer disk) := by
  rw [download]
  split
  · exact .failed reports_nil awaited
  have made : Disk.Awaits (makeWay path disk) := by
    unfold makeWay
    split
    · exact awaited.operate _
    · exact ⟨by simp, awaited⟩
  split
  · rename_i trouble after met
    cases trouble with
    | fails reason => exact .failed reports_nil (met ▸ made).awaited
    | interrupts fate => exact absurd rfl ((met ▸ made).met fate)
  · rename_i done
    exact fill_tells path _ (done ▸ made).awaited

end

/-- While somebody waits a request for a file tells the digest of what has arrived, or that it
failed. -/
theorem fetch_tells (network : Network) (userAgent : String) (count : Nat)
    {request : Download.Request} {path : String} (tag : String) {disk : Disk}
    (wanted : request.destination = .file path) (awaited : disk.Awaited) :
    Tells (ask network userAgent count request).1
      (fetch network userAgent count request tag disk).1 := by
  unfold fetch
  cases asked : ask network userAgent count request with
  | mk answered total =>
    cases answered with
    | error failure => exact .failed reports_nil awaited
    | ok answer =>
      dsimp only
      rw [deliver, wanted]
      exact download_tells path tag awaited

end Sailplane.Http
