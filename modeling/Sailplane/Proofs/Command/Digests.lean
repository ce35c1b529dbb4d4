import Sailplane.Proofs.Command.Verdict
import Sailplane.Proofs.Http.Remains

/-!
# Printed digests

The digest of a file is printed when all downloads are over, beside the path where the file was put
when it arrived. What is there in the end is what was put there last. So a printed digest is the one
of the file unless a later request of the list has put another file there: one for the same path, or
one for a path beside it that was refused.
-/
namespace Sailplane.Command

open Download (Entry Failure Notice Request)
open Http (Course Fresh Leaves MayPut Network)

/-! ## Names beside the targets -/

/-- Whether the files in which downloads for some paths are received have names that nobody uses. -/
structure Unused (paths : List String) (disk : Disk) : Prop where
  /-- None of the paths leads through one. -/
  unnamed : ∀ serial : Nat, ∀ path ∈ paths, ∀ other ∈ paths,
    Http.partialName path (toString serial) ∉ Path.segments other
  /-- None is there. -/
  absent : ∀ serial : Nat, ∀ path ∈ paths,
    disk.node? (Http.partialPlace path (toString serial)) = none

/-- A number is part of a name. -/
theorem slash_not_mem_digits (serial : Nat) : '/' ∉ (toString serial).toList := by
  intro listed
  have digits : (toString serial).toList = Nat.toDigits 10 serial := by simp [toString, Nat.repr]
  rw [digits] at listed
  exact absurd (Nat.isDigit_of_mem_toDigits (by decide) (by decide) listed) (by decide)

/-- Names of files that begin with a dot are unused if neither the paths nor the disk have any. -/
theorem unused_of_visible {paths : List String} {disk : Disk}
    (visible : ∀ path ∈ paths, ∀ name ∈ Path.segments path, name.toList.head? ≠ some '.')
    (hidden : ∀ place, ∀ name ∈ place, name.toList.head? = some '.' → disk.node? place = none) :
    Unused paths disk := by
  have dotted (path tag : String) : (Http.partialName path tag).toList.head? = some '.' := by
    simp [Http.partialName, String.toList_append]
  refine ⟨fun serial path _ other listed named => ?_, fun serial path _ => ?_⟩
  · exact visible other listed _ named (dotted path (toString serial))
  · exact hidden _ _ (Http.mem_partialPlace (slash_not_mem_digits serial)) (dotted path _)

section Names

variable {paths : List String} {path : String} {disk : Disk} (unused : Unused paths disk)
  (among : path ∈ paths)
include unused among

/-- A serial is a fresh tag. -/
theorem Unused.fresh (serial : Nat) : Fresh path (toString serial) disk where
  plain := slash_not_mem_digits serial
  unnamed := unused.unnamed serial path among path among
  absent := unused.absent serial path among

/-- The names are still unused after a download. -/
theorem Unused.later {course : Course} (leaves : Leaves path disk course) :
    Unused paths course.disk where
  unnamed := unused.unnamed
  absent := fun serial other listed => by
    have plain := slash_not_mem_digits serial
    have unnamed := unused.unnamed serial other listed path among
    rcases leaves.elsewhere _ (Http.place_ne_partialPlace plain unnamed).symm
      (Http.place_refusalPath_ne_partialPlace plain unnamed).symm with same | made
    · exact same.trans (unused.absent serial other listed)
    · exact absurd made.1 (Http.partialPlace_not_mem_wayTo plain unnamed)

end Names

/-! ## One download after the other -/

/-- Whether courses for files at some paths leave a disk one after the other. -/
inductive LeaveAll : Disk → List String → List Course → Prop where
  /-- There is none. -/
  | nil (disk : Disk) : LeaveAll disk [] []
  /-- One comes before the others. -/
  | cons {disk : Disk} {path : String} {paths : List String} {course : Course}
    {run : List Course} (leaves : Leaves path disk course)
    (rest : LeaveAll course.disk paths run) : LeaveAll disk (path :: paths) (course :: run)

/-- Whether one of some courses may put a file at a place, from an index on. -/
def MayPutFrom (index : Nat) (paths : List String) (run : List Course) (place : Place) : Prop :=
  ∃ later path course, index ≤ later ∧ paths[later]? = some path ∧ run[later]? = some course ∧
    MayPut path course place

/-- One of some courses is also one of more. -/
theorem MayPutFrom.behind {index : Nat} {paths : List String} {run : List Course} {place : Place}
    (puts : MayPutFrom index paths run place) (path : String) (course : Course) :
    MayPutFrom (index + 1) (path :: paths) (course :: run) place := by
  obtain ⟨later, other, next, onward, listed, came, puts⟩ := puts
  exact ⟨later + 1, other, next, Nat.succ_le_succ onward, listed, came, puts⟩

namespace LeaveAll

variable {disk : Disk} {paths : List String} {run : List Course} {place : Place}

/-- Where a file was there is one, and it is the same if no course has put one there. -/
theorem stays (leaving : LeaveAll disk paths run)
    (there : (disk.contents? place).isSome = true) :
    ((diskAfter disk run).contents? place).isSome = true ∧
      (¬ MayPutFrom 0 paths run place →
        (diskAfter disk run).contents? place = disk.contents? place) := by
  induction leaving with
  | nil disk => exact ⟨there, fun _ => rfl⟩
  | @cons disk path paths course run leaves rest ih =>
    obtain ⟨still, same⟩ := ih (leaves.stays place there)
    refine ⟨still, fun none => (same fun puts => ?_).trans (leaves.untouched place fun puts => ?_)⟩
    · obtain ⟨later, other, next, -, listed, came, puts⟩ := puts.behind path course
      exact none ⟨later, other, next, Nat.zero_le later, listed, came, puts⟩
    · exact none ⟨0, path, course, Nat.le_refl 0, rfl, rfl, puts⟩

/-- Where a file has arrived there is one, and it has the digest that was told if no later course
has put one there. -/
theorem arrived (leaving : LeaveAll disk paths run) {index : Nat} {path : String}
    {course : Course} (listed : paths[index]? = some path) (came : run[index]? = some course)
    {digest : List UInt8} (told : course.digest? = some digest) :
    ∃ bytes, (diskAfter disk run).contents? (Path.place path) = some bytes ∧
      (¬ MayPutFrom (index + 1) paths run (Path.place path) → digest = Sha256.digest bytes) := by
  -- The course at the index puts the file there, and those behind it leave it or replace it.
  induction leaving generalizing index with
  | nil disk => cases came
  | cons leaves rest ih =>
    cases index with
    | zero =>
      cases listed
      cases came
      obtain ⟨brought, there, digests⟩ := leaves.arrived digest told
      obtain ⟨still, same⟩ := rest.stays (Option.isSome_iff_exists.mpr ⟨brought, there⟩)
      obtain ⟨bytes, ends⟩ := Option.isSome_iff_exists.mp still
      refine ⟨bytes, ends, fun none => ?_⟩
      have kept : some bytes = some brought :=
        ends.symm.trans ((same fun puts => none (puts.behind path course)).trans there)
      rw [digests, Option.some.inj kept]
    | succ index =>
      obtain ⟨bytes, ends, same⟩ := ih listed came
      exact ⟨bytes, ends, fun none => same fun puts => none (puts.behind _ _)⟩

end LeaveAll

/-- Downloads for files leave a disk one after the other. -/
theorem leaveAll_courses (network : Network) (userAgent : String) {past count : Nat} {disk : Disk}
    {planned : List (Target × Request)} {paths : List String}
    (plan : ∀ own ∈ planned.zipIdx past, Planned own.2 own.1)
    (within : ∀ own ∈ planned, own.1.path ∈ paths) (unused : Unused paths disk)
    (awaited : disk.Awaited) :
    LeaveAll disk (planned.map fun own => own.1.path)
      (courses network userAgent past count disk (planned.map (·.2))) := by
  induction planned generalizing past count disk with
  | nil => exact .nil disk
  | cons own planned ih =>
    have first := plan (own, past) List.mem_cons_self
    have among := within own List.mem_cons_self
    have leaves := Http.fetch_leaves network userAgent count first.file
      (unused.fresh among (past + 1)) awaited
    have tells := Http.fetch_tells network userAgent count (toString (past + 1)) first.file awaited
    exact .cons leaves (ih (fun other listed => plan other (List.mem_cons_of_mem _ listed))
      (fun other listed => within other (List.mem_cons_of_mem _ listed))
      (unused.later among leaves) tells.awaited)

/-! ## Lines and files -/

/-- Whether a request may have put a file at a place: it has its result there, or it was refused for
want of a login and what was said of that went there. -/
def PutBy (notices : List Notice) (own : (Target × Request) × Nat) (place : Place) : Prop :=
  (.complete ⟨own.2, own.1.2⟩ ∈ notices ∧ Path.place own.1.1.path = place) ∨
    ∃ url, .error ⟨own.2, own.1.2⟩ (some (.httpStatus url Http.unauthorized)) ∈ notices ∧
      Path.place (Http.refusalPath own.1.1.path) = place

/-- What is true of a line that is printed for a request: the file is there, and it has the digest
unless a later request has put another one there. -/
structure Accounts (planned : List (Target × Request)) (notices : List Notice) (disk : Disk)
    (own : (Target × Request) × Nat) (line : String) : Prop where
  /-- The request is one of those that were planned. -/
  among : own ∈ planned.zipIdx
  /-- It has its result. -/
  complete : .complete ⟨own.2, own.1.2⟩ ∈ notices
  /-- The line has a digest and the path of a file. -/
  file : ∃ digest bytes, line = Text.hex digest ++ "  " ++ own.1.1.path ∧
    disk.node? (Path.place own.1.1.path) = some (.file bytes) ∧
    ((∀ later ∈ planned.zipIdx, own.2 < later.2 →
        ¬ PutBy notices later (Path.place own.1.1.path)) → digest = Sha256.digest bytes)

section Carried

variable {planned : List (Target × Request)} {run : List Course} {disk : Disk} {rested : Progress}
  (plan : ∀ own ∈ planned.zipIdx, Planned own.2 own.1)
  (carried : Carried (planned.map (·.2)) run disk rested)
include plan carried

/-- A course that may put a file at a place does it for a request that is told to. -/
theorem putBy_of_mayPutFrom {index : Nat} {place : Place}
    (puts : MayPutFrom index (planned.map fun own => own.1.path) run place) :
    ∃ later ∈ planned.zipIdx, index ≤ later.2 ∧ PutBy rested.session.recorded later place := by
  obtain ⟨later, path, course, onward, listed, came, puts⟩ := puts
  rw [List.getElem?_map] at listed
  obtain ⟨own, there, rfl⟩ := Option.map_eq_some_iff.mp listed
  have among : (own, later) ∈ planned.zipIdx := List.mem_zipIdx_iff_getElem?.mpr there
  obtain ⟨same, -, comes, -, told⟩ := came_of_planned plan carried among
  obtain rfl := Option.some.inj (comes.symm.trans came)
  refine ⟨(own, later), among, onward, ?_⟩
  rcases puts with ⟨arrived, here⟩ | ⟨url, failed, here⟩
  · exact .inl ⟨(told none).mpr arrived, here⟩
  · exact .inr ⟨url, (told (some (.httpStatus url Http.unauthorized))).mpr failed, here⟩

/-- What is printed of requests that were carried out accounts for the files. -/
theorem accounts_of_carried
    (leaving : LeaveAll disk (planned.map fun own => own.1.path) run) {line : String}
    (printed : line ∈ (downloadOutcome rested.session (planned.map (·.1))).output) :
    ∃ own, Accounts planned rested.session.recorded rested.disk own line := by
  obtain ⟨target, listed, made⟩ := List.mem_filterMap.mp printed
  obtain ⟨own, inside, rfl⟩ := List.mem_map.mp listed
  obtain ⟨index, there⟩ := List.mem_iff_getElem?.mp inside
  have among : (own, index) ∈ planned.zipIdx := List.mem_zipIdx_iff_getElem?.mpr there
  obtain ⟨course, within, came, filled, told⟩ := came_of_planned plan carried among
  rw [digestLine?, filled, slotAfter] at made
  cases tells : course.digest? with
  | none =>
    rw [tells] at made
    cases made
  | some digest =>
    rw [tells] at made
    have path : (planned.map fun own => own.1.path)[index]? = some own.1.path := by
      rw [List.getElem?_map, there]
      rfl
    obtain ⟨bytes, holds, digests⟩ := leaving.arrived path came tells
    have arrived : course.failure? = none := by
      rw [← Option.isNone_iff_eq_none, ← carried.tells course within, tells]
      rfl
    rw [← carried.disk] at holds
    refine ⟨(own, index), among, (told none).mpr arrived, digest, bytes,
      (Option.some.inj made).symm, Disk.node?_of_contents? holds, fun none => ?_⟩
    refine digests fun puts => ?_
    obtain ⟨later, behind, onward, put⟩ := putBy_of_mayPutFrom plan carried puts
    exact none later behind onward put

end Carried

/-- Nothing is printed of requests that cannot be planned, or under a name that cannot be sent. -/
theorem planned_of_printed {network : Network} {plan : DownloadPlan} {disk : Disk} {line : String}
    (printed : line ∈ (download network plan disk).1.output) :
    Http.isHeaderValue plan.settings.userAgent = true ∧
      ∃ planned, requests plan.directory 0 plan.urls = .ok planned := by
  rw [download] at printed
  split at printed
  · cases printed
  · rename_i sendable
    split at printed
    · cases printed
    · rename_i planned planning
      exact ⟨by simpa using sendable, planned, planning⟩

/-- **A printed digest is the one of the file beside it unless a later request has put another file
there**, over every network, for every list of addresses, and on every disk whatever troubles lie
ahead, as long as nobody gives up waiting and nobody uses the names of the files in which downloads
are received. In any case there is a file. -/
theorem printed_digests (network : Network) {plan : DownloadPlan} {disk : Disk}
    (awaited : disk.Awaited)
    (unused : Unused (plan.urls.map fun url => Path.join plan.directory (fileName url)) disk)
    {line : String} (printed : line ∈ (download network plan disk).1.output) :
    ∃ planned, requests plan.directory 0 plan.urls = .ok planned ∧
      ∃ own, Accounts planned
        (carriedOut network plan.settings.userAgent disk
          (planned.map (·.2))).session.recorded
        (download network plan disk).2 own line := by
  obtain ⟨sendable, planned, planning⟩ := planned_of_printed printed
  have whole := download_eq network disk planning sendable
  have plans := planned_of_requests planning
  have paths : (planned.map fun own => own.1.path) =
      plan.urls.map fun url => Path.join plan.directory (fileName url) := by
    rw [← List.forall₂_eq_eq_eq, List.forall₂_map_left_iff, List.forall₂_map_right_iff]
    exact (forall₂_requests planning).flip.imp fun own url isFor => isFor.path
  rw [whole] at printed ⊢
  refine ⟨planned, planning, accounts_of_carried plans
    (carried network _ (wanted_of_planned plans) awaited)
    (leaveAll_courses network _ plans (fun own listed => ?_) unused awaited) printed⟩
  rw [← paths]
  exact List.mem_map_of_mem listed

/-! ## Two files of one path -/

namespace Overwriting

/-- A server with another file for each request. -/
def network : Network := fun count _ =>
  .ok ⟨200, none, none, [[UInt8.ofNat (0x31 + count)]], none⟩

/-- Two files of one path. -/
def plan : DownloadPlan := ⟨["http://h/a", "http://h/a"], "", ⟨"u", none⟩⟩

/-- The line for the second file. -/
def line : String := "d4735e3a265e16eee03f59718b9b5d03019c07d8b6c51f90da3a666eec13ab35  a"

end Overwriting

/-- The digest that is printed for the second file accounts for it. -/
theorem printed_digests_overwriting :
    Disk.empty.Awaited ∧ Unused ["a", "a"] .empty ∧
      Overwriting.line ∈ (download Overwriting.network Overwriting.plan .empty).1.output ∧
      ∃ planned, requests "" 0 Overwriting.plan.urls = .ok planned ∧
        ∃ own, Accounts planned
          (carriedOut Overwriting.network "u" .empty (planned.map (·.2))).session.recorded
          (download Overwriting.network Overwriting.plan .empty).2 own Overwriting.line := by
  have awaited : Disk.empty.Awaited := fun _ => List.not_mem_nil
  have unused : Unused ["a", "a"] .empty := by
    refine unused_of_visible (by decide) fun place name among dotted => ?_
    rw [Disk.node?_of_ne_nil _ (List.ne_nil_of_mem among)]
    rfl
  have printed :
      Overwriting.line ∈ (download Overwriting.network Overwriting.plan .empty).1.output := by
    decide +kernel
  exact ⟨awaited, unused, printed,
    @printed_digests Overwriting.network Overwriting.plan .empty awaited unused _ printed⟩

/-- The digest that is printed for the first file is that of a file that is not there any more. -/
theorem digest_of_overwritten :
    (download Overwriting.network Overwriting.plan .empty).1.output =
        [Text.hex (Sha256.digest [0x31]) ++ "  a", Text.hex (Sha256.digest [0x32]) ++ "  a"] ∧
      (download Overwriting.network Overwriting.plan .empty).2.node? (Path.place "a") =
        some (.file [0x32]) ∧
      Sha256.digest [0x31] ≠ Sha256.digest [0x32] :=
  ⟨by decide +kernel, by decide +kernel, by decide +kernel⟩

end Sailplane.Command
