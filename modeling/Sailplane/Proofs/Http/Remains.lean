import Sailplane.Proofs.Http.Reports

/-!
# What a download leaves on a disk

A download for a file puts a file at its path if it arrives, and beside it if it wants a login. It
never takes a file away, and every other file is the same after it.
-/
namespace Sailplane.Http

open Disk (Kept)

/-- Whether a course may put a file at a place: it arrives there, or it wants a login and what is
said of that goes there. -/
def MayPut (path : String) (course : Course) (place : Place) : Prop :=
  (course.failure? = none ∧ Path.place path = place) ∨
    ∃ url, course.failure? = some (.httpStatus url unauthorized) ∧
      Path.place (refusalPath path) = place

/-- What a course for a file leaves on a disk. -/
structure Leaves (path : String) (before : Disk) (course : Course) : Prop where
  /-- A file whose digest is told is there. -/
  arrived : ∀ digest, course.digest? = some digest →
    ∃ bytes, course.disk.contents? (Path.place path) = some bytes ∧ digest = Sha256.digest bytes
  /-- Where a file was there is one. -/
  stays : ∀ place, (before.contents? place).isSome = true →
    (course.disk.contents? place).isSome = true
  /-- It is the same file if none was put there. -/
  untouched : ∀ place, ¬ MayPut path course place →
    course.disk.contents? place = before.contents? place
  /-- Elsewhere only directories are made. -/
  elsewhere : ∀ place, place ≠ Path.place path → place ≠ Path.place (refusalPath path) →
    Kept (wayTo path) before course.disk place

/-- A file that was put at a place is there, and the other files are the same. -/
theorem Replaced.contents? {way : List Place} {before after : Disk} {own : Place}
    {bytes : List UInt8} (replaced : Replaced way before after own bytes) (place : Place) :
    after.contents? place = if place = own then some bytes else before.contents? place := by
  by_cases here : place = own
  · rw [if_pos here, here, Disk.contents?, replaced.1]
  · rw [if_neg here]
    exact (replaced.2 place here).contents?

section

variable {path tag : String} {before : Disk} {answer : Answer} {course : Course}

/-- A course that fills no slot and keeps what stands leaves every file as it was. -/
theorem leaves_of_kept (silent : Silent course.signals)
    (kept : ∀ place, Kept (wayTo path) before course.disk place) : Leaves path before course where
  arrived := fun digest told => by
    rw [silent.digest?_eq_none] at told
    cases told
  stays := fun place there => by
    rw [(kept place).contents?]
    exact there
  untouched := fun place _ => (kept place).contents?
  elsewhere := fun place _ _ => kept place

/-- A course that puts a file at a place where it may leaves the others as they were. -/
theorem leaves_of_replaced {own : Place} {bytes : List UInt8}
    (told : ∀ digest, course.digest? = some digest →
      own = Path.place path ∧ digest = Sha256.digest bytes)
    (replaced : Replaced (wayTo path) before course.disk own bytes) (puts : MayPut path course own)
    (among : own = Path.place path ∨ own = Path.place (refusalPath path)) :
    Leaves path before course where
  arrived := fun digest same => by
    obtain ⟨rfl, digests⟩ := told digest same
    exact ⟨bytes, (replaced.contents? _).trans (if_pos rfl), digests⟩
  stays := fun place there => by
    rw [replaced.contents? place]
    split
    · rfl
    · exact there
  untouched := fun place none => by
    rw [replaced.contents? place, if_neg]
    rintro rfl
    exact none puts
  elsewhere := fun place notTarget notRefusal => replaced.2 place fun same =>
    among.elim (fun target => notTarget (same.trans target)) fun refusal =>
      notRefusal (same.trans refusal)

/-- However a download ends that somebody waits for, it leaves the disk so. -/
theorem Ending.leaves {file : Place} (ending : Ending path file answer (wayTo path) before course)
    (received : answer.IsReceived) (waited : course.stop ≠ some .abandoned) :
    Leaves path before course := by
  cases ending with
  | stopped silent kept => exact leaves_of_kept silent kept
  | abandoned => exact absurd rfl waited
  | broken breaks silent kept => exact leaves_of_kept silent kept
  | refused complete refusal empty silent kept => exact leaves_of_kept silent kept
  | noted complete refusal spoken silent replaced =>
    have login : answer.reply.status = unauthorized :=
      received.resolve_left (Bool.eq_false_iff.mp refusal)
    refine leaves_of_replaced (fun digest told => ?_) replaced (.inr ⟨answer.url.text, ?_, rfl⟩)
      (.inr rfl)
    · rw [Silent.digest?_eq_none silent] at told
      cases told
    · rw [← login]
      rfl
  | arrived complete success silent replaced =>
    refine leaves_of_replaced (fun digest told => ?_) replaced (.inl ⟨rfl, rfl⟩) (.inl rfl)
    rw [silent.digest?_append] at told
    exact ⟨rfl, (Option.some.inj told).symm⟩

/-- A request for a file leaves the disk so under a fresh tag, as long as somebody waits. -/
theorem fetch_leaves (network : Network) (userAgent : String) (count : Nat)
    {request : Download.Request} (wanted : request.destination = .file path)
    (fresh : Fresh path tag before) (awaited : before.Awaited) :
    Leaves path before (fetch network userAgent count request tag before).1 := by
  have rests (failure : Download.Failure) :
      Leaves path before ⟨[], some (.failed failure), before⟩ :=
    leaves_of_kept silent_nil fun _ => .inl rfl
  unfold fetch
  cases asked : ask network userAgent count request with
  | mk answered total =>
    cases answered with
    | error failure => exact rests failure
    | ok answer =>
      dsimp only
      rw [deliver, wanted]
      by_cases received : answer.IsReceived
      · exact (download_ending fresh received).leaves received
          (download_tells path tag awaited).waited
      · dsimp only
        rw [download_of_not_isReceived received]
        exact rests (statusFailure answer)

end

end Sailplane.Http
