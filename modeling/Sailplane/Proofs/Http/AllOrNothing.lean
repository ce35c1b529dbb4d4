import Sailplane.Proofs.Download.Slots
import Sailplane.Proofs.Download.Surroundings
import Sailplane.Proofs.Http.Readiness

/-!
# Files are downloaded as a whole or not at all

However a server answers, however the body of its answer is cut and wherever it breaks off, whatever
operation of the disk fails and whenever the one who waits goes away: a file at the target is the
whole body, or what was there before. Going away between two operations, as while a chunk is on its
way, is the same as going away at the second; before there is an answer nothing is touched. An
operation that fails changes nothing, and taking away a file does not fail. A tag is drawn at
random, so that it is fresh.

Who goes away leaves the operation that was waited for behind. It may be given up, or be done, even
after the file beside the target was taken away. So all is said of the disk when the download is
over, and of the disk when everything is done. Only two operations make a difference then: the file
may be moved to its target just before it would have been taken away, and it may be made afterwards.

Only the directories on the way to the target may be new after a download that failed. A path such
as `a/../a` leads through its own target, which then is a directory; without two dots in the path
no such thing happens.
-/
namespace Sailplane.Http

open Disk (Kept Operation)
open Download (Content Failure Session Signal Slots Transfer)

/-! ## What is left alone -/

/-- A place in which a download has not changed anything. -/
structure LeftAlone (path : String) (before after : Disk) (place : Place) : Prop where
  /-- The same stands there, or nothing did and it is a directory on the way. -/
  kept : Kept (wayTo path) before after place
  /-- The old contents are there, or still no file. -/
  contents : after.contents? place = before.contents? place
  /-- Without two dots in the path no directory on the way is made there: the same stands there. -/
  level : ".." ∉ Path.segments path → after.node? place = before.node? place

/-- Without two dots neither the target nor what is kept of a refusal is on the way. -/
theorem not_mem_wayTo_of_level {path : String} (level : ".." ∉ Path.segments path) {place : Place}
    (own : place = Path.place path ∨ place = Path.place (refusalPath path)) :
    place ∉ wayTo path := by
  intro passed
  obtain ⟨directory, up, passed⟩ := parent_of_mem_wayTo passed
  rcases own with rfl | rfl
  · exact Path.place_not_mem_way level up passed
  · exact Path.place_append_not_mem_way (by decide) (by decide) level up passed

theorem LeftAlone.of_kept {path : String} {before after : Disk} {place : Place}
    (own : place = Path.place path ∨ place = Path.place (refusalPath path))
    (kept : Kept (wayTo path) before after place) : LeftAlone path before after place where
  kept := kept
  contents := kept.contents?
  level := fun level => kept.resolve_right fun made => not_mem_wayTo_of_level level own made.1

/-! ## What a transfer fills in -/

/-- The slots after a transfer was told a course. -/
def Course.slots (course : Course) (transfer : Transfer) (slots : Slots Content) : Slots Content :=
  course.toSignals.foldl
    (fun slots signal => Session.fillWith slots (Session.filling? transfer signal)) slots

theorem foldl_silent {signals : List Signal} (silent : Silent signals) (transfer : Transfer)
    (slots : Slots Content) :
    signals.foldl (fun slots signal => Session.fillWith slots (Session.filling? transfer signal))
      slots = slots := by
  induction signals with
  | nil => rfl
  | cons signal rest ih =>
    have first : Session.fillWith slots (Session.filling? transfer signal) = slots := by
      cases signal with
      | fill content => exact absurd List.mem_cons_self (silent content)
      | _ => rfl
    rw [List.foldl_cons, first]
    exact ih fun content mem => silent content (List.mem_cons_of_mem _ mem)

/-- A course that reports only fills no slot, however it stops. -/
theorem slots_of_silent {course : Course} (silent : Silent course.signals) (transfer : Transfer)
    (slots : Slots Content) : course.slots transfer slots = slots := by
  refine foldl_silent (silent.append fun content mem => ?_) transfer slots
  cases stop : course.stop with
  | none => rw [stop] at mem; cases List.mem_singleton.mp mem
  | some stop' =>
    cases stop' with
    | failed failure => rw [stop] at mem; cases List.mem_singleton.mp mem
    | abandoned => rw [stop] at mem; cases mem

/-! ## The whole or nothing -/

/-- The bytes of an answer. -/
def Answer.body (answer : Answer) : List UInt8 := answer.reply.chunks.flatten

/-- A complete answer that says why a login is wanted. -/
structure Answer.IsRefusal (answer : Answer) : Prop where
  /-- It wants a login. -/
  status : answer.reply.status = 401
  /-- It did not break off. -/
  complete : answer.reply.broken = none
  /-- It says something. -/
  spoken : answer.body ≠ []

/-- What may be seen of the disk after a course: when the course is over, and when everything is
done that nobody waited for any more. -/
def Course.Seen (course : Course) (disk : Disk) : Prop :=
  disk = course.disk ∨ disk = course.disk.settled

/-- Whether nobody waited any more for an operation of a course. -/
def Course.LeftAt (course : Course) (operation : Operation) : Prop :=
  ∃ fate, (operation, fate) ∈ course.disk.left

/-- How a disk and the slots are left by a course that received an answer, or a failure instead of
one, for a file at a path. -/
structure AllOrNothing (path tag : String) (transfer : Transfer) (slots : Slots Content)
    (answered : Except Failure Answer) (before : Disk) (course : Course) : Prop where
  /-- A download that succeeds has put all the bytes of a complete answer at the target, and their
  digest into the slot that was asked for. -/
  success : course.stop = none → ∃ answer, answered = .ok answer ∧
    (answer.reply.status = 200 ∨ answer.reply.status = 201) ∧ answer.reply.broken = none ∧
    (∀ disk, course.Seen disk → disk.node? (Path.place path) = some (.file answer.body)) ∧
    ∀ slot, transfer.entry.request.data.digest = some slot →
      slot.number < slots.contents.length →
        (course.slots transfer slots).get slot = some (.digest (Sha256.digest answer.body))
  /-- Any other leaves all slots alone, and the target, unless nobody waited any more when the file
  was to be moved there. -/
  failure : course.stop ≠ none → course.slots transfer slots = slots ∧
    (¬ course.LeftAt (.rename (partialPlace path tag) path) →
      ∀ disk, course.Seen disk → LeftAlone path before disk (Path.place path))
  /-- A complete answer arrives unless the disk stops it. -/
  arrives : ∀ answer, answered = .ok answer →
    answer.reply.status = 200 ∨ answer.reply.status = 201 → answer.reply.broken = none →
      ¬ course.StoppedByDisk → course.stop = none
  /-- A complete refusal is kept beside the target and reported, unless the disk stops it. -/
  refusal : ∀ answer, answered = .ok answer → answer.IsRefusal → ¬ course.StoppedByDisk →
    course.stop = some (.failed (.httpStatus answer.url.text 401)) ∧
      ∀ disk, course.Seen disk →
        disk.node? (Path.place (refusalPath path)) = some (.file answer.body)
  /-- Otherwise the place for it is left alone, unless nobody waited any more when the file was to
  be moved there. -/
  otherwise : (∀ answer, answered = .ok answer → answer.IsRefusal → course.StoppedByDisk) →
    ¬ course.LeftAt (.rename (partialPlace path tag) (refusalPath path)) →
      ∀ disk, course.Seen disk → LeftAlone path before disk (Path.place (refusalPath path))
  /-- Where nobody waited any more when the file was to be moved, the answer is complete and the
  file whole: either it is there, or the place is left alone. -/
  moved : ∀ target, course.LeftAt (.rename (partialPlace path tag) target) → ∃ answer,
    answered = .ok answer ∧ answer.reply.broken = none ∧
      (((answer.reply.status = 200 ∨ answer.reply.status = 201) ∧ target = path) ∨
        (answer.IsRefusal ∧ target = refusalPath path)) ∧
      ∀ disk, course.Seen disk → LeftAlone path before disk (Path.place target) ∨
        disk.node? (Path.place target) = some (.file answer.body)
  /-- Only a download that nobody waits for any more leaves an operation, the one that was waited
  for last. -/
  left : if course.stop = some .abandoned then ∃ own, course.disk.left = [own]
    else course.disk.left = []
  /-- Everywhere else no more was done than to make directories on the way. -/
  elsewhere : ∀ place, place ≠ Path.place path → place ≠ Path.place (refusalPath path) →
    place ≠ partialPlace path tag →
      ∀ disk, course.Seen disk → Kept (wayTo path) before disk place
  /-- No answer, or one of another status, leaves the disk as it was. -/
  untouched : (∀ answer, answered = .ok answer → answer.reply.status ∉ [200, 201, 401]) →
    course.disk = before
  /-- The file beside the target is gone. -/
  clean : course.disk.node? (partialPlace path tag) = none
  /-- It stays gone, unless nobody waited any more when it was to be made. -/
  gone : ¬ course.LeftAt (.create (partialPlace path tag)) →
    course.disk.settled.node? (partialPlace path tag) = none
  /-- A disk that is ready for the download does not stop it. -/
  smooth : Ready path before → ¬ course.StoppedByDisk

theorem isSuccess_iff (status : Nat) : isSuccess status = true ↔ status = 200 ∨ status = 201 := by
  simp [isSuccess]

section

variable {path tag : String} {transfer : Transfer} {slots : Slots Content} {before : Disk}
  {answer : Answer} {course : Course} {file : Place}

/-- Where no operation was left nothing happens after the course. -/
theorem Course.Seen.of_rest {disk : Disk} (seen : course.Seen disk)
    (rests : course.disk.left = []) : disk = course.disk := by
  rcases seen with same | same
  · exact same
  · rw [same, Disk.settled_of_left_nil rests]

/-- Where one operation was left it may be done after the course. -/
theorem Course.Seen.later {disk : Disk} {operation : Operation} {fate : Fate}
    (seen : course.Seen disk) (one : course.disk.left = [(operation, fate)]) :
    Later operation course.disk disk := by
  rcases seen with same | same
  · exact .inl same
  · rw [same]
    exact Disk.settled_of_left one

/-- A place to which the file beside the target goes is the target or that of a refusal. -/
theorem Goes.ne {target : String} {place : Place} (goes : Goes path answer target)
    (notTarget : target = path → place ≠ Path.place path)
    (notRefusal : target = refusalPath path → place ≠ Path.place (refusalPath path)) :
    place ≠ Path.place target := by
  rcases goes with ⟨-, rfl⟩ | ⟨-, -, rfl⟩
  · exact notTarget rfl
  · exact notRefusal rfl

namespace Ending

variable (ending : Ending path file answer (wayTo path) before course)
include ending

/-- A course that fills a slot has arrived. -/
theorem silent (fails : course.stop ≠ none) : Silent course.signals := by
  cases ending with
  | stopped silent | abandoned silent => exact silent
  | broken _ silent => exact silent
  | refused _ _ _ silent | noted _ _ _ silent => exact silent
  | arrived => exact absurd rfl fails

/-- Only a download that arrives ends in success. -/
theorem success (ends : course.stop = none) :
    isSuccess answer.reply.status = true ∧ answer.reply.broken = none ∧
      Replaced (wayTo path) before course.disk (Path.place path) answer.body ∧
      ∃ reports, Silent reports ∧
        course.signals = reports ++ [.fill (.digest (Sha256.digest answer.body))] := by
  cases ending with
  | arrived complete success silent replaced =>
    exact ⟨success, complete, replaced, _, silent, rfl⟩
  | _ => cases ends

/-- A complete success arrives. -/
theorem arrives (success : isSuccess answer.reply.status = true)
    (complete : answer.reply.broken = none) (runs : ¬ course.StoppedByDisk) :
    course.stop = none := by
  cases ending with
  | @stopped _ reason => exact absurd ⟨.fails reason, rfl⟩ runs
  | @abandoned _ _ _ fate => exact absurd ⟨.interrupts fate, rfl⟩ runs
  | broken breaks => cases breaks.symm.trans complete
  | refused _ refusal => cases success.symm.trans refusal
  | noted _ refusal => cases success.symm.trans refusal
  | arrived => rfl

/-- A complete refusal is kept. -/
theorem refusal (refuses : answer.IsRefusal) (runs : ¬ course.StoppedByDisk) :
    course.stop = some (.failed (statusFailure answer)) ∧
      course.disk.node? (Path.place (refusalPath path)) = some (.file answer.body) := by
  cases ending with
  | @stopped _ reason => exact absurd ⟨.fails reason, rfl⟩ runs
  | @abandoned _ _ _ fate => exact absurd ⟨.interrupts fate, rfl⟩ runs
  | broken breaks => cases breaks.symm.trans refuses.complete
  | refused _ _ empty => exact absurd empty refuses.spoken
  | noted _ _ _ _ replaced => exact ⟨rfl, replaced.1⟩
  | arrived _ success =>
    rw [refuses.status] at success
    cases success

variable (atRest : before.left = [])
include atRest

/-- What somebody waits for leaves no operation, and what nobody waits for any more leaves one. -/
theorem left : if course.stop = some .abandoned then ∃ own, course.disk.left = [own]
    else course.disk.left = [] := by
  cases ending with
  | @abandoned _ _ operation fate _ left =>
    rw [if_pos rfl]
    exact ⟨(operation, fate), by rw [left, atRest, List.nil_append]⟩
  | stopped _ _ left => exact (if_neg (by simp)).mpr (left.trans atRest)
  | broken _ _ _ left => exact (if_neg (by simp)).mpr (left.trans atRest)
  | refused _ _ _ _ _ left => exact (if_neg (by simp)).mpr (left.trans atRest)
  | noted _ _ _ _ _ left => exact (if_neg (by simp)).mpr (left.trans atRest)
  | arrived _ _ _ _ left => exact (if_neg (by simp)).mpr (left.trans atRest)

theorem rests (waited : course.stop ≠ some .abandoned) : course.disk.left = [] := by
  have left := ending.left atRest
  rwa [if_neg waited] at left

/-- A place is kept, then and later, where no file has arrived, no refusal is kept and no operation
was left that makes a file there. -/
theorem kept (received : answer.IsReceived) {place : Place} {disk : Disk}
    (seen : course.Seen disk) (unarrived : course.stop = none → place ≠ Path.place path)
    (unnoted : answer.IsRefusal → ¬ course.StoppedByDisk →
      place ≠ Path.place (refusalPath path))
    (unmade : disk ≠ course.disk → course.LeftAt (.create file) → place ≠ file)
    (unmoved : ∀ target, course.LeftAt (.rename file target) → Goes path answer target →
      place ≠ Path.place target) : Kept (wayTo path) before disk place := by
  cases ending with
  | stopped _ kept left => exact seen.of_rest (left.trans atRest) ▸ kept place
  | broken _ _ kept left => exact seen.of_rest (left.trans atRest) ▸ kept place
  | refused _ _ _ _ kept left => exact seen.of_rest (left.trans atRest) ▸ kept place
  | noted complete refusal spoken _ replaced left =>
    have refuses : answer.IsRefusal :=
      ⟨received.resolve_left (Bool.eq_false_iff.mp refusal), complete, spoken⟩
    have runs := failed_ne_of fun reason (same : statusFailure answer = .disk reason) => by
      cases same
    exact seen.of_rest (left.trans atRest) ▸
      replaced.2 place (unnoted refuses (not_stoppedByDisk runs))
  | arrived _ _ _ replaced left =>
    exact seen.of_rest (left.trans atRest) ▸ replaced.2 place (unarrived rfl)
  | @abandoned _ reached operation fate _ left forsaken =>
    rw [atRest, List.nil_append] at left
    have later := Course.Seen.later seen left
    have among : (operation, fate) ∈ reached.left := left ▸ List.mem_singleton.mpr rfl
    cases forsaken with
    | idle _ _ kept => exact kept disk later place
    | making kept apart =>
      by_cases same : disk = reached
      · exact same ▸ kept place
      · rw [later.resolve_left same]
        exact apart place (unmade same ⟨fate, among⟩)
    | moving complete goes either =>
      rcases either disk later with kept | replaced
      · exact kept place
      · exact replaced.2 place (unmoved _ ⟨fate, among⟩ goes)

/-- Where nobody waited any more when the file was to be moved it is there, or all is kept. -/
theorem moved {target : String} (leftAt : course.LeftAt (.rename file target)) :
    answer.reply.broken = none ∧ Goes path answer target ∧ ∀ disk, course.Seen disk →
      Kept (wayTo path) before disk (Path.place target) ∨
        disk.node? (Path.place target) = some (.file answer.body) := by
  obtain ⟨fate, among⟩ := leftAt
  by_cases abandoned : course.stop = some .abandoned
  swap
  · rw [ending.rests atRest abandoned] at among
    cases among
  cases ending with
  | @abandoned _ _ operation fate' _ left forsaken =>
    rw [atRest, List.nil_append] at left
    have same := (Prod.mk.inj (List.mem_singleton.mp (left ▸ among))).1
    subst same
    cases forsaken with
    | idle _ notMoved => exact absurd rfl (notMoved target)
    | moving complete goes either =>
      refine ⟨complete, goes, fun disk seen => ?_⟩
      rcases either disk (Course.Seen.later seen left) with kept | replaced
      · exact .inl (kept _)
      · exact .inr replaced.1
  | _ => cases abandoned

omit atRest in
/-- The digest of a file that arrives is filled into the slot that was asked for. -/
theorem fills {slot : Download.Slot} (ends : course.stop = none)
    (asked : transfer.entry.request.data.digest = some slot)
    (handed : slot.number < slots.contents.length) :
    (course.slots transfer slots).get slot = some (.digest (Sha256.digest answer.body)) := by
  obtain ⟨-, -, -, reports, silent, whole⟩ := ending.success ends
  have told : course.toSignals =
      reports ++ [.fill (.digest (Sha256.digest answer.body)), .finish none] := by
    rw [Course.toSignals, ends, whole, List.append_assoc]
    rfl
  have filled : Session.filling? transfer (.fill (.digest (Sha256.digest answer.body))) =
      some (slot, .digest (Sha256.digest answer.body)) := by
    rw [Session.filling?, Download.Request.slotFor, asked]
    rfl
  rw [Course.slots, told, List.foldl_append, foldl_silent silent, List.foldl_cons, filled]
  exact Slots.get_put slots _ handed

end Ending

/-! ## Beside a fresh file -/

namespace Ending

variable (fresh : Fresh path tag before) (received : answer.IsReceived)
  (ending : Ending path (partialPlace path tag) answer (wayTo path) before course)
  (atRest : before.left = []) {disk : Disk} (seen : course.Seen disk)
include fresh received ending atRest seen

/-- What does not arrive leaves the target alone, unless nobody waited when it was to be moved. -/
theorem target (fails : course.stop ≠ none)
    (unmoved : ¬ course.LeftAt (.rename (partialPlace path tag) path)) :
    LeftAlone path before disk (Path.place path) := by
  have apart := (place_refusalPath_ne path).symm
  refine .of_kept (.inl rfl) (ending.kept atRest received seen (fun ends => absurd ends fails)
    (fun _ _ => apart) (fun _ _ => fresh.target_ne) fun target leftAt goes =>
      goes.ne (fun same => ?_) fun _ => apart)
  subst same
  exact absurd leftAt unmoved

/-- What is no complete refusal leaves the place for it alone, unless nobody waited when it was to
be moved there. -/
theorem beside (other : answer.IsRefusal → course.StoppedByDisk)
    (unmoved : ¬ course.LeftAt (.rename (partialPlace path tag) (refusalPath path))) :
    LeftAlone path before disk (Path.place (refusalPath path)) := by
  have apart := place_refusalPath_ne path
  refine .of_kept (.inr rfl) (ending.kept atRest received seen (fun _ => apart)
    (fun refuses runs => absurd (other refuses) runs) (fun _ _ => fresh.refusal_ne)
    fun target leftAt goes => goes.ne (fun _ => apart) fun same => ?_)
  subst same
  exact absurd leftAt unmoved

/-- The file beside the target is gone, unless it is made after the course. -/
theorem absent
    (unmade : disk ≠ course.disk → ¬ course.LeftAt (.create (partialPlace path tag))) :
    disk.node? (partialPlace path tag) = none := by
  have kept := ending.kept atRest received seen (fun _ => fresh.target_ne.symm)
    (fun _ _ => fresh.refusal_ne.symm) (fun differs made => absurd made (unmade differs))
    fun target _ goes => goes.ne (fun _ => fresh.target_ne.symm) fun _ => fresh.refusal_ne.symm
  rcases kept with same | made
  · exact same.trans fresh.absent
  · exact absurd made.1 fresh.not_mem_wayTo

end Ending

theorem Course.LeftAt.of_rest {operation : Operation} (leftAt : course.LeftAt operation)
    (rests : course.disk.left = []) : False := by
  obtain ⟨fate, among⟩ := leftAt
  rw [rests] at among
  cases among

/-- What is received goes all the way or none of it. -/
theorem AllOrNothing.of_ending (fresh : Fresh path tag before) (atRest : before.left = [])
    (received : answer.IsReceived)
    (ending : Ending path (partialPlace path tag) answer (wayTo path) before course)
    (smooth : Ready path before → ¬ course.StoppedByDisk) :
    AllOrNothing path tag transfer slots (.ok answer) before course where
  success := fun ends => by
    obtain ⟨success, complete, replaced, -⟩ := ending.success ends
    have rests := ending.rests atRest (by rw [ends]; simp)
    exact ⟨answer, rfl, (isSuccess_iff _).mp success, complete,
      fun disk seen => seen.of_rest rests ▸ replaced.1,
      fun slot asked handed => ending.fills ends asked handed⟩
  failure := fun fails => ⟨slots_of_silent (ending.silent fails) transfer slots,
    fun unmoved disk seen => ending.target fresh received atRest seen fails unmoved⟩
  arrives := fun own same success complete runs => by
    cases same
    exact ending.arrives ((isSuccess_iff _).mpr success) complete runs
  refusal := fun own same refuses runs => by
    cases same
    obtain ⟨ends, kept⟩ := ending.refusal refuses runs
    have rests := ending.rests atRest (by rw [ends]; simp)
    exact ⟨by rw [ends, statusFailure, refuses.status],
      fun disk seen => seen.of_rest rests ▸ kept⟩
  otherwise := fun other unmoved disk seen =>
    ending.beside fresh received atRest seen (other answer rfl) unmoved
  moved := fun target leftAt => by
    obtain ⟨complete, goes, either⟩ := ending.moved atRest leftAt
    refine ⟨answer, rfl, complete, ?_, fun disk seen => (either disk seen).imp_left fun kept => ?_⟩
    · refine goes.imp (fun goes => ⟨(isSuccess_iff _).mp goes.1, goes.2⟩) fun goes => ?_
      exact ⟨⟨received.resolve_left (Bool.eq_false_iff.mp goes.1), complete, goes.2.1⟩, goes.2.2⟩
    · refine .of_kept ?_ kept
      exact goes.imp (fun goes => by rw [goes.2]) fun goes => by rw [goes.2.2]
  left := ending.left atRest
  elsewhere := fun place notTarget notRefusal notFile disk seen =>
    ending.kept atRest received seen (fun _ => notTarget) (fun _ _ => notRefusal)
      (fun _ _ => notFile) fun target _ goes => goes.ne (fun _ => notTarget) fun _ => notRefusal
  untouched := fun other => by
    have received : answer.reply.status ∈ [200, 201, 401] := by
      rcases received with success | login
      · rcases (isSuccess_iff _).mp success with status | status <;> rw [status] <;> decide
      · rw [login]
        decide
    exact absurd received (other answer rfl)
  clean := ending.absent fresh received atRest (.inl rfl) fun differs => absurd rfl differs
  gone := fun unmade => ending.absent fresh received atRest (.inr rfl) fun _ => unmade
  smooth := smooth

/-- What is not received changes nothing. -/
theorem AllOrNothing.of_rest {answered : Except Failure Answer} {failure : Failure}
    (fresh : Fresh path tag before) (atRest : before.left = [])
    (unwanted : ∀ answer, answered = .ok answer → ¬ answer.IsReceived)
    (other : ∀ reason, failure ≠ .disk reason) :
    AllOrNothing path tag transfer slots answered before ⟨[], some (.failed failure), before⟩ where
  success := fun ends => by cases ends
  failure := fun _ => by
    refine ⟨slots_of_silent silent_nil transfer slots, fun _ disk seen => ?_⟩
    rw [seen.of_rest atRest]
    exact .of_kept (.inl rfl) (.inl rfl)
  arrives := fun answer same success =>
    absurd (.inl ((isSuccess_iff _).mpr success)) (unwanted answer same)
  refusal := fun answer same refuses => absurd (.inr refuses.status) (unwanted answer same)
  otherwise := fun _ _ disk seen => by
    rw [seen.of_rest atRest]
    exact .of_kept (.inr rfl) (.inl rfl)
  moved := fun _ leftAt => (leftAt.of_rest atRest).elim
  left := (if_neg (by simp)).mpr atRest
  elsewhere := fun _ _ _ _ disk seen => by
    rw [seen.of_rest atRest]
    exact .inl rfl
  untouched := fun _ => rfl
  clean := fresh.absent
  gone := fun _ => by
    rw [Disk.settled_of_left_nil atRest]
    exact fresh.absent
  smooth := fun _ => not_stoppedByDisk (failed_ne_of other)

end

/-- A request that gets no answer does not fail because of a disk. -/
theorem ask_error {network : Network} {userAgent : String} {count total : Nat}
    {request : Download.Request} {failure : Failure}
    (failed : ask network userAgent count request = (.error failure, total)) (reason : String) :
    failure ≠ .disk reason := by
  unfold ask at failed
  split at failed
  · cases failed
    exact fun same => by cases same
  · split at failed
    · cases failed
      exact fun same => by cases same
    · rename_i exchange _
      cases followed : follow network redirectLimit count exchange with
      | mk answered reached =>
        rw [followed] at failed
        cases answered with
        | ok answer => cases failed
        | error words =>
          cases failed
          exact fun same => by cases same

/-- **Files are downloaded as a whole or not at all**, over every network, for every request for a
file, on every disk where nothing is left to be done, whatever troubles lie ahead, and under every
fresh tag. -/
theorem fetch_all_or_nothing (network : Network) (userAgent : String) (count : Nat)
    (transfer : Transfer) (slots : Slots Content) {path tag : String} {before : Disk}
    (wanted : transfer.entry.request.destination = .file path) (fresh : Fresh path tag before)
    (atRest : before.left = []) :
    AllOrNothing path tag transfer slots
      (ask network userAgent count transfer.entry.request).1 before
      (fetch network userAgent count transfer.entry.request tag before).1 := by
  unfold fetch
  cases asked : ask network userAgent count transfer.entry.request with
  | mk answered total =>
    cases answered with
    | error failure =>
      exact .of_rest fresh atRest (fun answer same => by cases same) (ask_error asked)
    | ok answer =>
      dsimp only
      rw [deliver, wanted]
      by_cases received : answer.IsReceived
      · exact .of_ending fresh atRest received (download_ending fresh received)
          (download_ready fresh)
      · dsimp only
        rw [download_of_not_isReceived received]
        refine .of_rest fresh atRest (fun own same => ?_) fun reason same => by cases same
        cases same
        exact received

section Cases

/-- A server that always answers the same. -/
def answering (reply : Reply) : Network := fun _ _ => .ok reply

/-- A transfer of a file whose digest is asked for. -/
def digested (path : String) : Transfer :=
  .new ⟨0, 0, ⟨"http://h/f", "f", .file path, { digest := some ⟨0⟩ }⟩⟩

/-- A letter at a time. -/
def spelled : Reply := ⟨200, none, none, [[0x61], [0x62], [0x63]], none⟩

/-- The want of a login, said in two chunks. -/
def refusing : Reply := ⟨401, none, none, [[0x7B], [0x7D]], none⟩

/-- A disk with an older file at the target. -/
def older : Disk := ⟨[(["d"], .directory), (["d", "f"], .file [7])], [], []⟩

/-- The course of a download of a file that is there. -/
def courseOver (reply : Reply) : Course :=
  (fetch (answering reply) "u" 0 (digested "d/f").entry.request "t" older).1

theorem ready_older : Ready "d/f" older where
  calm := fun met mem => by cases mem
  named := ⟨["d"], "f", by decide, by decide, by decide, by decide⟩
  clear := fun place passed bytes => by
    rw [show wayTo "d/f" = [["d"]] by decide] at passed
    rw [List.mem_singleton.mp passed]
    exact fun same => by cases same
  free := by
    rintro place (rfl | rfl) <;> decide

theorem exists_answer {answered : Except Failure Answer} {text : String} {reply : Reply}
    (evaluated : (answered.toOption.map fun answer => (answer.url.text, answer.reply)) =
      some (text, reply)) :
    ∃ answer, answered = .ok answer ∧ answer.url.text = text ∧ answer.reply = reply := by
  cases answered with
  | error failure => cases evaluated
  | ok answer =>
    obtain ⟨text, reply⟩ := Prod.mk.inj (Option.some.inj evaluated)
    exact ⟨answer, rfl, text, reply⟩

end Cases

/-- The way to `a/../a` leads through the target itself, which becomes a directory although nothing
arrives. -/
theorem fetch_through_itself :
    (digested "a/../a").entry.request.destination = .file "a/../a" ∧
      Fresh "a/../a" "t" .empty ∧
      let course := (fetch (answering spelled) "u" 0 (digested "a/../a").entry.request "t" .empty).1
      course.stop = some (.failed (.disk Disk.isDirectory)) ∧
        Disk.empty.node? (Path.place "a/../a") = none ∧
        course.disk.node? (Path.place "a/../a") = some .directory :=
  ⟨rfl, ⟨by decide, by decide, by decide⟩, by decide +kernel⟩

/-- A success takes the place of the older file, and the digest of its three letters is filled in. A
refusal is kept beside the older file, which stays, and no digest is filled in. -/
theorem fetch_all_or_nothing_older :
    (digested "d/f").entry.request.destination = .file "d/f" ∧ Fresh "d/f" "t" older ∧
      older.left = [] ∧
      ((courseOver spelled).stop = none ∧
        (courseOver spelled).disk.node? ["d", "f"] = some (.file [0x61, 0x62, 0x63]) ∧
        (courseOver spelled).disk.node? ["d", ".f.t.part"] = none ∧
        ((courseOver spelled).slots (digested "d/f") ⟨[none]⟩).get ⟨0⟩ = some (.digest
          [0xba, 0x78, 0x16, 0xbf, 0x8f, 0x01, 0xcf, 0xea, 0x41, 0x41, 0x40, 0xde, 0x5d, 0xae, 0x22,
            0x23, 0xb0, 0x03, 0x61, 0xa3, 0x96, 0x17, 0x7a, 0x9c, 0xb4, 0x10, 0xff, 0x61, 0xf2,
            0x00, 0x15, 0xad])) ∧
      (courseOver refusing).stop = some (.failed (.httpStatus "http://h/f" 401)) ∧
      (courseOver refusing).disk.node? ["d", "f"] = some (.file [7]) ∧
      (courseOver refusing).disk.node? ["d", "f.json"] = some (.file [0x7B, 0x7D]) ∧
      (courseOver refusing).disk.node? ["d", ".f.t.part"] = none ∧
      ((courseOver refusing).slots (digested "d/f") ⟨[none]⟩).contents = [none] := by
  have fresh : Fresh "d/f" "t" older := ⟨by decide, by decide, by decide⟩
  have whole (reply : Reply) : AllOrNothing "d/f" "t" (digested "d/f") ⟨[none]⟩
      (ask (answering reply) "u" 0 (digested "d/f").entry.request).1 older (courseOver reply) :=
    fetch_all_or_nothing (answering reply) "u" 0 (digested "d/f") ⟨[none]⟩ rfl fresh rfl
  refine ⟨rfl, fresh, rfl, ?_, ?_⟩
  · obtain ⟨answer, asked, -, reply⟩ : ∃ answer, (ask (answering spelled) "u" 0
        (digested "d/f").entry.request).1 = .ok answer ∧ answer.url.text = "http://h/f" ∧
        answer.reply = spelled := exists_answer (by decide +kernel)
    have ends := (whole spelled).arrives answer asked (.inl (by rw [reply]; rfl))
      (by rw [reply]; rfl) ((whole spelled).smooth ready_older)
    obtain ⟨own, same, -, -, there, filled⟩ := (whole spelled).success ends
    cases asked.symm.trans same
    have body : answer.body = [0x61, 0x62, 0x63] := by rw [Answer.body, reply]; rfl
    rw [body] at there filled
    refine ⟨ends, there _ (.inl rfl), (whole spelled).clean, ?_⟩
    rw [filled ⟨0⟩ rfl (by decide)]
    exact congrArg (fun bytes => some (Content.digest bytes)) (by decide +kernel)
  · obtain ⟨answer, asked, text, reply⟩ : ∃ answer, (ask (answering refusing) "u" 0
        (digested "d/f").entry.request).1 = .ok answer ∧ answer.url.text = "http://h/f" ∧
        answer.reply = refusing := exists_answer (by decide +kernel)
    have body : answer.body = [0x7B, 0x7D] := by rw [Answer.body, reply]; rfl
    have refuses : answer.IsRefusal :=
      ⟨by rw [reply]; rfl, by rw [reply]; rfl, by rw [body]; decide⟩
    obtain ⟨ends, noted⟩ :=
      (whole refusing).refusal answer asked refuses ((whole refusing).smooth ready_older)
    obtain ⟨unfilled, alone⟩ := (whole refusing).failure (by rw [ends]; simp)
    have rests := (whole refusing).left
    rw [if_neg (by rw [ends]; simp)] at rests
    have left := alone (fun leftAt => leftAt.of_rest rests) _ (.inl rfl)
    rw [text] at ends
    rw [body] at noted
    refine ⟨ends, ?_, noted _ (.inl rfl), (whole refusing).clean, by rw [unfilled]⟩
    exact (left.level (by decide)).trans (by decide)

/-- A file whose making nobody waited for, and that is made late, stays beside the target. -/
example : (fetch (answering spelled) "u" 0 (digested "d/f").entry.request "t"
    { older with troubles := [none, some (.interrupts .late)] }).1.disk.settled.node?
      ["d", ".f.t.part"] = some (.file []) := by decide +kernel

end Sailplane.Http
