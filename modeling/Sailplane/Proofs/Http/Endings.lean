import Sailplane.Http.Fetch
import Sailplane.Proofs.Files.Operations

/-!
# How a download ends

A download is stopped by the disk, its body breaks off, it is refused without a word or with a body
that is kept, or it arrives. Up to its last operation it changes no more than the file beside its
target, and whatever stops it takes that file away again. If nobody waits for it any more, it leaves
one operation behind, which may still be done when the file was taken away.
-/
namespace Sailplane.Http

open Disk (Kept Operation)
open Download (Signal)

/-! ## The file beside the target -/

/-- The place of the file beside the target. -/
def partialPlace (path tag : String) : Place := Path.place (partialPath path tag)

/-- The directories that are passed on the way to a file, up to the one it lies in. -/
def wayTo (path : String) : List Place :=
  ((directoryOf path).map fun directory => Path.way [] (Path.segments directory)).getD []

theorem parent_of_mem_wayTo {path : String} {place : Place} (passed : place ∈ wayTo path) :
    ∃ directory, Path.parent? path = some directory ∧
      place ∈ Path.way [] (Path.segments directory) := by
  unfold wayTo at passed
  cases up : directoryOf path with
  | none =>
    rw [up] at passed
    cases passed
  | some directory =>
    rw [up] at passed
    exact ⟨directory, (Option.filter_eq_some_iff.mp up).1, passed⟩

/-- A tag is fresh if the file it names has not been named or made by anyone. -/
structure Fresh (path tag : String) (disk : Disk) : Prop where
  /-- It is part of a name. -/
  plain : '/' ∉ tag.toList
  /-- The path does not lead through the file. -/
  unnamed : partialName path tag ∉ Path.segments path
  /-- The file is not there. -/
  absent : disk.node? (partialPlace path tag) = none

theorem isName_partialName (path tag : String) : Path.IsName (partialName path tag) :=
  Path.isName_append (by decide) _

/-- What is kept of a refusal lies elsewhere than the target. -/
theorem place_refusalPath_ne (path : String) :
    Path.place (refusalPath path) ≠ Path.place path :=
  Path.place_append_ne (by decide) (by decide) path

section Naming

variable {path tag other : String} (plain : '/' ∉ tag.toList)
include plain

theorem plain_partialName : '/' ∉ (partialName path tag).toList := by
  have own : '/' ∉ ((Path.fileName? path).getD "").toList := by
    cases named : Path.fileName? path with
    | none => decide
    | some name => exact Path.plain_of_fileName? named
  simp [partialName, String.toList_append, own, plain]

theorem mem_partialPlace : partialName path tag ∈ partialPlace path tag := by
  obtain ⟨seat, whole, -⟩ :=
    Path.place_sibling (isName_partialName path tag) (plain_partialName plain) path
  rw [partialPlace, partialPath, whole]
  exact List.mem_append_right _ (List.mem_singleton.mpr rfl)

variable (unnamed : partialName path tag ∉ Path.segments other)
include unnamed

/-- No path leads to the file unless it names it. -/
theorem place_ne_partialPlace : Path.place other ≠ partialPlace path tag := fun same =>
  unnamed (Path.mem_segments_of_mem_place (same ▸ mem_partialPlace plain))

theorem place_refusalPath_ne_partialPlace :
    Path.place (refusalPath other) ≠ partialPlace path tag := by
  refine place_ne_partialPlace plain fun mem => ?_
  obtain ⟨before, last, whole, longer, -⟩ :=
    Path.place_append (show 2 < ".json".length by decide) (by decide) other
  rw [refusalPath, longer] at mem
  rcases List.mem_append.mp mem with mem | mem
  · exact unnamed (whole ▸ List.mem_append_left _ mem)
  · have same := congrArg (fun name => name.toList.getLast?) (List.mem_singleton.mp mem)
    have ends : (partialName path tag).toList.getLast? = some 't' := by
      rw [partialName, String.toList_append, List.getLast?_append]
      rfl
    have endsElse : (last ++ ".json").toList.getLast? = some 'n' := by
      rw [String.toList_append, List.getLast?_append]
      rfl
    exact absurd (ends.symm.trans (same.trans endsElse)) (by decide)

theorem partialPlace_not_mem_wayTo : partialPlace path tag ∉ wayTo other := by
  intro passed
  obtain ⟨directory, up, passed⟩ := parent_of_mem_wayTo passed
  obtain ⟨before, last, found, -, names⟩ := Path.lastSegment?_of_parent? up
  obtain ⟨blanks, whole, -⟩ := Path.lastSegment?_spec found
  have mem := (Path.mem_of_mem_way passed (mem_partialPlace plain)).resolve_left List.not_mem_nil
  rcases names _ mem with mem | blank
  · exact unnamed (whole ▸ List.mem_append_left _ mem)
  · rcases blank with blank | blank
    · exact (isName_partialName path tag).1 blank
    · exact (isName_partialName path tag).2.1 blank

end Naming

namespace Fresh

variable {path tag : String} {disk : Disk} (fresh : Fresh path tag disk)
include fresh

theorem plain_name : '/' ∉ (partialName path tag).toList := plain_partialName fresh.plain

theorem target_ne : Path.place path ≠ partialPlace path tag :=
  place_ne_partialPlace fresh.plain fresh.unnamed

theorem refusal_ne : Path.place (refusalPath path) ≠ partialPlace path tag :=
  place_refusalPath_ne_partialPlace fresh.plain fresh.unnamed

theorem not_mem_wayTo : partialPlace path tag ∉ wayTo path :=
  partialPlace_not_mem_wayTo fresh.plain fresh.unnamed

end Fresh

/-! ## What is reported -/

/-- Reports that fill no slot. -/
def Silent (signals : List Signal) : Prop := ∀ content, Signal.fill content ∉ signals

theorem silent_nil : Silent [] := fun _ => List.not_mem_nil

theorem silent_sizeSignals (reply : Reply) : Silent (sizeSignals reply) := by
  intro content mem
  obtain ⟨bytes, -, same⟩ := List.mem_map.mp mem
  cases same

theorem Silent.append {signals others : List Signal} (silent : Silent signals)
    (alsoSilent : Silent others) : Silent (signals ++ others) := fun content mem =>
  (List.mem_append.mp mem).elim (silent content) (alsoSilent content)

/-! ## Up to the last operation -/

/-- What stands anywhere but at one place is the same. -/
def Apart (file : Place) (before after : Disk) : Prop :=
  ∀ other, other ≠ file → after.node? other = before.node? other

theorem Apart.trans {file : Place} {before middle after : Disk} (first : Apart file before middle)
    (second : Apart file middle after) : Apart file before after := fun other differs =>
  (second other differs).trans (first other differs)

theorem Apart.of_nodes {file : Place} {before after : Disk} (same : after.nodes = before.nodes) :
    Apart file before after := fun other _ => Disk.node?_congr same other

/-- Taking away a file that was not there leaves everything as it was. -/
theorem Apart.remove {file : Place} {before after : Disk} (apart : Apart file before after)
    (absent : before.node? file = none) (place : Place) :
    (after.remove file).node? place = before.node? place := by
  have below : file ≠ [] := by
    rintro rfl
    cases absent
  rw [Disk.node?_remove _ below]
  split
  · rename_i here
    rw [here, absent]
  · rename_i differs
    exact apart place differs

/-- An operation that is meant for one file. -/
inductive Within (file : Place) : Operation → Prop
  /-- The file is made. -/
  | create : Within file (.create file)
  /-- Bytes are written into it. -/
  | append (bytes : List UInt8) : Within file (.append file bytes)
  /-- All is written. -/
  | sync : Within file .sync

/-- What is meant for one file changes no other. -/
theorem Within.apart {file : Place} {operation : Operation} (within : Within file operation)
    (disk : Disk) : Apart file disk (disk.perform operation).2 := by
  have same : Apart file disk disk := fun _ _ => rfl
  cases within with
  | create =>
    refine Disk.outcome_cases (Apart file disk) same fun after works other differs => ?_
    obtain ⟨below, rfl⟩ := Disk.withFile_ok works
    rw [Disk.node?_put _ below, if_neg differs]
  | append bytes =>
    refine Disk.outcome_cases (Apart file disk) same fun after works other differs => ?_
    obtain ⟨written, stands, rfl⟩ := Disk.withBytes_ok works
    have below : file ≠ [] := by
      rintro rfl
      cases stands
    rw [Disk.node?_put _ below, if_neg differs]
  | sync => exact same

/-- What is meant for a file that is not there does nothing, unless it makes the file. -/
theorem Within.idle {file : Place} {operation : Operation} (within : Within file operation)
    (other : operation ≠ .create file) {disk : Disk} (absent : disk.node? file = none) :
    (disk.perform operation).2 = disk := by
  cases within with
  | create => exact absurd rfl other
  | append bytes =>
    refine Disk.outcome_cases (fun after => after = disk) rfl fun after works => ?_
    obtain ⟨written, stands, -⟩ := Disk.withBytes_ok works
    cases absent.symm.trans stands
  | sync => rfl

/-- Between two disks a file was written, and no operation was left. -/
structure Written (file : Place) (before after : Disk) : Prop where
  /-- Nothing else has changed. -/
  apart : Apart file before after
  /-- The same operations are left. -/
  left : after.left = before.left

theorem Written.refl (file : Place) (disk : Disk) : Written file disk disk := ⟨fun _ _ => rfl, rfl⟩

theorem Written.trans {file : Place} {before middle after : Disk}
    (first : Written file before middle) (second : Written file middle after) :
    Written file before after :=
  ⟨first.apart.trans second.apart, second.left.trans first.left⟩

/-- What is meant for a file writes it when it is done. -/
theorem Within.written {file : Place} {operation : Operation} (within : Within file operation)
    {before after : Disk} (done : before.operate operation = (none, after)) :
    Written file before after := by
  have performed := Disk.operate_done done
  have apart := within.apart before.onward
  have onward := Disk.perform_onward before.onward operation
  rw [performed] at apart onward
  exact ⟨apart, onward.left⟩

/-- Chunks that are written are put behind what the file holds. -/
theorem store_done {file : Place} {written : List UInt8} {count : Nat} {chunks : List (List UInt8)}
    {before after : Disk} {signals : List Signal}
    (stands : before.node? file = some (.file written))
    (stored : store file count chunks before = (signals, none, after)) :
    Silent signals ∧ Written file before after ∧
      after.node? file = some (.file (written ++ chunks.flatten)) := by
  induction chunks generalizing written count before signals with
  | nil =>
    cases stored
    refine ⟨silent_nil, .refl file _, ?_⟩
    rw [stands, List.flatten_nil, List.append_nil]
  | cons chunk rest ih =>
    rw [store] at stored
    split at stored
    · cases stored
    · rename_i middle done
      have grown : middle.node? file = some (.file (written ++ chunk)) := by
        rw [Disk.append_done stands done, if_pos rfl]
      cases further : store file (count + chunk.length) rest middle with
      | mk later outcome =>
        obtain ⟨met, reached⟩ := outcome
        rw [further] at stored
        cases stored
        obtain ⟨silent, written', whole⟩ := ih grown further
        refine ⟨fun content mem => ?_, ((Within.append chunk).written done).trans written', ?_⟩
        · rcases List.mem_cons.mp mem with same | mem
          · cases same
          · exact silent content mem
        · rw [whole, List.flatten_cons, List.append_assoc]

/-- What stops the writing of chunks stops the writing of one. -/
theorem store_stopped {file : Place} {count : Nat} {chunks : List (List UInt8)}
    {before after : Disk} {signals : List Signal} {trouble : Trouble}
    (stored : store file count chunks before = (signals, some trouble, after)) :
    Silent signals ∧ ∃ middle chunk, Written file before middle ∧
      middle.append file chunk = (some trouble, after) := by
  induction chunks generalizing count before signals with
  | nil => cases stored
  | cons chunk rest ih =>
    rw [store] at stored
    split at stored
    · rename_i stopped
      cases stored
      exact ⟨silent_nil, before, chunk, .refl file before, stopped⟩
    · rename_i middle done
      cases further : store file (count + chunk.length) rest middle with
      | mk later outcome =>
        obtain ⟨met, reached⟩ := outcome
        rw [further] at stored
        cases stored
        obtain ⟨silent, middle', chunk', written, stopped⟩ := ih further
        refine ⟨fun content mem => ?_, middle', chunk',
          ((Within.append chunk).written done).trans written, stopped⟩
        rcases List.mem_cons.mp mem with same | mem
        · cases same
        · exact silent content mem

/-! ## Endings -/

/-- A file stands at a place, and everywhere else no more was done than to make directories on the
way. -/
def Replaced (way : List Place) (before after : Disk) (place : Place) (bytes : List UInt8) : Prop :=
  after.node? place = some (.file bytes) ∧ ∀ other, other ≠ place → Kept way before after other

/-- Where the file beside the target goes: a success to the target, and a refusal that says
something to the place for it. -/
def Goes (path : String) (answer : Answer) (target : String) : Prop :=
  (isSuccess answer.reply.status = true ∧ target = path) ∨
    (isSuccess answer.reply.status = false ∧ answer.reply.chunks.flatten ≠ [] ∧
      target = refusalPath path)

/-- What may be seen of a disk where an operation was left: the disk as it is, or with the operation
done. -/
def Later (operation : Operation) (disk after : Disk) : Prop :=
  after = disk ∨ after = (disk.perform operation).2

/-- How a disk looks where an operation was left. -/
inductive Forsaken (path : String) (file : Place) (answer : Answer) (way : List Place)
    (before disk : Disk) : Operation → Prop
  /-- It does nothing to the file that was taken away, or it makes directories. -/
  | idle {operation : Operation} (notMade : operation ≠ .create file)
      (notMoved : ∀ target, operation ≠ .rename file target)
      (kept : ∀ after, Later operation disk after → ∀ place, Kept way before after place) :
      Forsaken path file answer way before disk operation
  /-- It makes the file that was taken away. -/
  | making (kept : ∀ place, Kept way before disk place)
      (apart : ∀ place, place ≠ file → Kept way before (disk.perform (.create file)).2 place) :
      Forsaken path file answer way before disk (.create file)
  /-- It moves the file to where it goes, if it comes before the file is taken away. -/
  | moving {target : String} (complete : answer.reply.broken = none)
      (goes : Goes path answer target)
      (either : ∀ after, Later (.rename file target) disk after →
        (∀ place, Kept way before after place) ∨
          Replaced way before after (Path.place target) answer.reply.chunks.flatten) :
      Forsaken path file answer way before disk (.rename file target)

/-- How a download ends when the answer is a success or the want of a login. -/
inductive Ending (path : String) (file : Place) (answer : Answer) (way : List Place)
    (before : Disk) : Course → Prop
  /-- The disk fails. -/
  | stopped {signals : List Signal} {reason : String} {disk : Disk} (silent : Silent signals)
      (kept : ∀ place, Kept way before disk place) (left : disk.left = before.left) :
      Ending path file answer way before ⟨signals, some (.failed (.disk reason)), disk⟩
  /-- Nobody waits for it any more. -/
  | abandoned {signals : List Signal} {disk : Disk} {operation : Operation} {fate : Fate}
      (silent : Silent signals) (left : disk.left = before.left ++ [(operation, fate)])
      (forsaken : Forsaken path file answer way before disk operation) :
      Ending path file answer way before ⟨signals, some .abandoned, disk⟩
  /-- The body breaks off. -/
  | broken {signals : List Signal} {reason : String} {disk : Disk}
      (breaks : answer.reply.broken = some reason) (silent : Silent signals)
      (kept : ∀ place, Kept way before disk place) (left : disk.left = before.left) :
      Ending path file answer way before ⟨signals, some (.failed (.network reason)), disk⟩
  /-- It is refused without a word. -/
  | refused {signals : List Signal} {disk : Disk} (complete : answer.reply.broken = none)
      (refusal : isSuccess answer.reply.status = false)
      (empty : answer.reply.chunks.flatten = []) (silent : Silent signals)
      (kept : ∀ place, Kept way before disk place) (left : disk.left = before.left) :
      Ending path file answer way before ⟨signals, some (.failed (statusFailure answer)), disk⟩
  /-- It is refused, and what was said is kept beside the target. -/
  | noted {signals : List Signal} {disk : Disk} (complete : answer.reply.broken = none)
      (refusal : isSuccess answer.reply.status = false)
      (spoken : answer.reply.chunks.flatten ≠ []) (silent : Silent signals)
      (replaced : Replaced way before disk (Path.place (refusalPath path))
        answer.reply.chunks.flatten) (left : disk.left = before.left) :
      Ending path file answer way before ⟨signals, some (.failed (statusFailure answer)), disk⟩
  /-- It arrives. -/
  | arrived {signals : List Signal} {disk : Disk} (complete : answer.reply.broken = none)
      (success : isSuccess answer.reply.status = true) (silent : Silent signals)
      (replaced : Replaced way before disk (Path.place path) answer.reply.chunks.flatten)
      (left : disk.left = before.left) :
      Ending path file answer way before
        ⟨signals ++ [.fill (.digest (Sha256.digest answer.reply.chunks.flatten))], none, disk⟩

variable {path : String} {answer : Answer} {before : Disk}

section Filling

variable {partialFile : String} (absent : before.node? (Path.place partialFile) = none)
include absent

/-- What is meant for the file and is not done has left everything as it was, once the file was
taken away. -/
theorem Ending.of_stopped {signals : List Signal} {trouble : Trouble} {middle after : Disk}
    {operation : Operation} (silent : Silent signals)
    (within : Within (Path.place partialFile) operation)
    (written : Written (Path.place partialFile) before middle)
    (stopped : middle.operate operation = (some trouble, after)) :
    Ending path (Path.place partialFile) answer [] before
      ⟨signals, some (.of trouble), after.remove (Path.place partialFile)⟩ := by
  have apart : Apart (Path.place partialFile) before after := by
    obtain ⟨same, nodes, seen⟩ := Disk.operate_cases middle operation
    rw [stopped] at seen
    have still := written.apart.trans (.of_nodes nodes)
    rcases seen with rfl | rfl
    · exact still
    · exact still.trans (within.apart same)
  have stands := apart.remove absent
  have kept (place : Place) :
      Kept [] before (after.remove (Path.place partialFile)) place := .inl (stands place)
  rcases Disk.operate_stopped stopped with ⟨reason, rfl, failed⟩ | ⟨fate, rfl, rfl⟩
  · refine .stopped silent kept ?_
    rcases failed with rfl | failed
    · exact written.left
    · have left := (Disk.perform_onward middle.onward operation).left
      rw [failed] at left
      exact left.trans written.left
  · have left := Disk.leave_left middle.onward operation fate
    rw [show middle.onward.left = before.left from written.left] at left
    refine .abandoned silent left ?_
    by_cases made : operation = .create (Path.place partialFile)
    · subst made
      exact .making kept fun place differs =>
        .inl ((within.apart _ place differs).trans (stands place))
    · refine .idle made (fun target same => by subst same; cases within) ?_
      rintro later (rfl | rfl)
      · exact kept
      · rw [within.idle made ((stands _).trans absent)]
        exact kept

/-- A file that was moved to its target is gone from beside it. -/
theorem replaced_of_moved {target : String} {middle after : Disk} {bytes : List UInt8}
    (apart : Apart (Path.place partialFile) before middle)
    (stands : middle.node? (Path.place partialFile) = some (.file bytes))
    (works : middle.withMoved (Path.place partialFile) target = .ok after) :
    Replaced [] before after (Path.place target) bytes := by
  have changed := Disk.withMoved_node? stands works
  refine ⟨by rw [changed, if_pos rfl], fun other differs => .inl ?_⟩
  rw [changed, if_neg differs]
  split
  · rename_i here
    rw [here, absent]
  · rename_i elsewhere
    exact apart other elsewhere

omit absent in
/-- Where a file stands is below the root. -/
theorem ne_nil_of_file {disk : Disk} {place : Place} {bytes : List UInt8}
    (stands : disk.node? place = some (.file bytes)) : place ≠ [] := by
  intro root
  rw [root] at stands
  cases stands

/-- What has arrived at its target stays there when the file beside it is taken away. -/
theorem Replaced.remove {moved : Disk} {target : String} {bytes : List UInt8}
    (replaced : Replaced [] before moved (Path.place target) bytes)
    (beside : Path.place target ≠ Path.place partialFile) (below : Path.place partialFile ≠ []) :
    Replaced [] before (moved.remove (Path.place partialFile)) (Path.place target) bytes := by
  have gone := Disk.node?_remove moved below
  refine ⟨by rw [gone, if_neg beside, replaced.1], fun other differs => ?_⟩
  by_cases here : other = Path.place partialFile
  · exact .inl (by rw [here, gone, if_pos rfl, absent])
  · rw [Kept, gone, if_neg here]
    exact replaced.2 other differs

/-- A move that nobody waits for any more is done, or everything is as it was, once the file was
taken away. -/
theorem moved_or_kept {target : String} {middle : Disk} {bytes : List UInt8} (fate : Fate)
    (beside : Path.place target ≠ Path.place partialFile)
    (apart : Apart (Path.place partialFile) before middle)
    (stands : middle.node? (Path.place partialFile) = some (.file bytes)) :
    (∀ place, Kept [] before ((middle.leave (.rename (Path.place partialFile) target) fate).remove
        (Path.place partialFile)) place) ∨
      Replaced [] before ((middle.leave (.rename (Path.place partialFile) target) fate).remove
        (Path.place partialFile)) (Path.place target) bytes := by
  obtain ⟨same, nodes, either⟩ :=
    Disk.leave_cases middle (.rename (Path.place partialFile) target) fate
  have still := apart.trans (.of_nodes nodes)
  rw [Disk.perform] at either
  cases works : same.withMoved (Path.place partialFile) target with
  | error reason =>
    rw [works] at either
    rw [either.elim id id]
    exact .inl fun place => .inl (still.remove absent place)
  | ok moved =>
    rw [works] at either
    rcases either with undone | done
    · rw [undone]
      exact .inl fun place => .inl (still.remove absent place)
    · have replaced := replaced_of_moved absent still
        ((Disk.node?_congr nodes _).trans stands) works
      rw [done]
      exact .inr (replaced.remove absent beside (ne_nil_of_file stands))

/-- A file that is moved when nobody waits any more is moved, or it was taken away before. -/
theorem Ending.of_moving {signals : List Signal} {trouble : Trouble} {middle after : Disk}
    {target : String} (silent : Silent signals) (complete : answer.reply.broken = none)
    (goes : Goes path answer target) (beside : Path.place target ≠ Path.place partialFile)
    (written : Written (Path.place partialFile) before middle)
    (stands : middle.node? (Path.place partialFile) = some (.file answer.reply.chunks.flatten))
    (stopped : middle.rename (Path.place partialFile) target = (some trouble, after)) :
    Ending path (Path.place partialFile) answer [] before
      ⟨signals, some (.of trouble), after.remove (Path.place partialFile)⟩ := by
  rcases Disk.operate_stopped stopped with ⟨reason, rfl, failed⟩ | ⟨fate, rfl, rfl⟩
  · have same : after = middle.onward := failed.elim id Disk.outcome_failed
    subst same
    exact .stopped silent (fun place => .inl (written.apart.remove absent place)) written.left
  · have left := Disk.leave_left middle.onward (.rename (Path.place partialFile) target) fate
    rw [show middle.onward.left = before.left from written.left] at left
    refine .abandoned silent left (.moving complete goes ?_)
    have apart : Apart (Path.place partialFile) before middle.onward := written.apart
    have either := moved_or_kept absent fate beside apart stands
    rintro later (rfl | rfl)
    · exact either
    -- The file is gone by then, so that there is nothing to move.
    · rw [Disk.perform_rename_of_absent (by
        rw [Disk.node?_remove _ (ne_nil_of_file stands), if_pos rfl]) target]
      exact either

theorem commit_ending {reports : List Signal} {middle : Disk} (silent : Silent reports)
    (complete : answer.reply.broken = none)
    (beside : ∀ target, target = path ∨ target = refusalPath path →
      Path.place target ≠ Path.place partialFile)
    (written : Written (Path.place partialFile) before middle)
    (stands : middle.node? (Path.place partialFile) = some (.file answer.reply.chunks.flatten)) :
    Ending path (Path.place partialFile) answer [] before
      (commit path partialFile answer reports middle) := by
  have moved {target : String} {after : Disk}
      (done : middle.rename (Path.place partialFile) target = (none, after)) :
      Replaced [] before after (Path.place target) answer.reply.chunks.flatten ∧
        after.left = before.left := by
    have performed := Disk.operate_done done
    have onward := Disk.perform_onward middle.onward (.rename (Path.place partialFile) target)
    rw [performed] at onward
    have works : middle.onward.withMoved (Path.place partialFile) target = .ok after :=
      Disk.outcome_done performed
    have apart : Apart (Path.place partialFile) before middle.onward := written.apart
    exact ⟨replaced_of_moved absent apart stands works, onward.left.trans written.left⟩
  unfold commit
  dsimp only
  split
  · rename_i success
    split
    · rename_i stopped
      exact .of_moving absent silent complete (.inl ⟨success, rfl⟩) (beside path (.inl rfl))
        written stands stopped
    · rename_i done
      exact .arrived complete success silent (moved done).1 (moved done).2
  · rename_i refusal
    have refusal := Bool.eq_false_iff.mpr refusal
    split
    · rename_i empty
      exact .refused complete refusal (List.isEmpty_iff.mp empty) silent
        (fun place => .inl (written.apart.remove absent place)) written.left
    · rename_i spoken
      have spoken := mt List.isEmpty_iff.mpr spoken
      split
      · rename_i stopped
        exact .of_moving absent silent complete (.inr ⟨refusal, spoken, rfl⟩)
          (beside _ (.inr rfl)) written stands stopped
      · rename_i done
        exact .noted complete refusal spoken silent (moved done).1 (moved done).2

theorem fill_ending (beside : ∀ target, target = path ∨ target = refusalPath path →
      Path.place target ≠ Path.place partialFile) :
    Ending path (Path.place partialFile) answer [] before
      (fill path partialFile answer before) := by
  have silent := silent_sizeSignals answer.reply
  unfold fill
  dsimp only
  split
  · rename_i stopped
    exact .of_stopped absent silent .create (.refl _ before) stopped
  rename_i made created
  have stands : made.node? (Path.place partialFile) = some (.file []) := by
    rw [Disk.create_done created, if_pos rfl]
  have written := Within.create.written created
  split
  · rename_i stored
    obtain ⟨alsoSilent, middle, chunk, written', stopped⟩ := store_stopped stored
    exact .of_stopped absent (silent.append alsoSilent) (.append chunk) (written.trans written')
      stopped
  rename_i stored
  obtain ⟨alsoSilent, written', whole⟩ := store_done stands stored
  have written := written.trans written'
  have silent := silent.append alsoSilent
  cases breaks : answer.reply.broken with
  | some reason =>
    rw [show answer.reply.stop = some (.failed (.network reason)) by rw [Reply.stop, breaks]; rfl]
    exact .broken breaks silent (fun place => .inl (written.apart.remove absent place)) written.left
  | none =>
    rw [show answer.reply.stop = none by rw [Reply.stop, breaks]; rfl]
    dsimp only
    split
    · rename_i stopped
      exact .of_stopped absent silent .sync written stopped
    · rename_i synced done
      refine commit_ending absent silent breaks beside (written.trans (Within.sync.written done)) ?_
      rw [Disk.sync_done done, whole, List.nil_append]

end Filling

section Behind

variable {file : Place} {way : List Place} {middle : Disk}
  (made : ∀ place, Kept way before middle place)
include made

theorem Forsaken.behind {disk : Disk} {operation : Operation}
    (forsaken : Forsaken path file answer [] middle disk operation) :
    Forsaken path file answer way before disk operation := by
  have lift {disk : Disk} {place : Place} (kept : Kept [] middle disk place) :
      Kept way before disk place := (made place).trans (kept.mono (List.nil_subset way))
  cases forsaken with
  | idle notMade notMoved kept =>
    exact .idle notMade notMoved fun after seen place => lift (kept after seen place)
  | making kept apart =>
    exact .making (fun place => lift (kept place)) fun place differs => lift (apart place differs)
  | moving complete goes either =>
    refine .moving complete goes fun after seen => ?_
    rcases either after seen with kept | replaced
    · exact .inl fun place => lift (kept place)
    · exact .inr ⟨replaced.1, fun other differs => lift (replaced.2 other differs)⟩

/-- What comes after the directories were made ends like the whole. -/
theorem Ending.behind (rests : middle.left = before.left) {course : Course}
    (ending : Ending path file answer [] middle course) :
    Ending path file answer way before course := by
  have lift {disk : Disk} {place : Place} (kept : Kept [] middle disk place) :
      Kept way before disk place := (made place).trans (kept.mono (List.nil_subset way))
  cases ending with
  | stopped silent kept left =>
    exact .stopped silent (fun place => lift (kept place)) (left.trans rests)
  | abandoned silent left forsaken =>
    exact .abandoned silent (rests ▸ left) (forsaken.behind made)
  | broken breaks silent kept left =>
    exact .broken breaks silent (fun place => lift (kept place)) (left.trans rests)
  | refused complete refusal empty silent kept left =>
    exact .refused complete refusal empty silent (fun place => lift (kept place)) (left.trans rests)
  | noted complete refusal spoken silent replaced left =>
    exact .noted complete refusal spoken silent
      ⟨replaced.1, fun other differs => lift (replaced.2 other differs)⟩ (left.trans rests)
  | arrived complete success silent replaced left =>
    exact .arrived complete success silent
      ⟨replaced.1, fun other differs => lift (replaced.2 other differs)⟩ (left.trans rests)

end Behind

variable {tag : String}

/-- Only a success and the want of a login are received into a file. -/
def Answer.IsReceived (answer : Answer) : Prop :=
  isSuccess answer.reply.status = true ∨ answer.reply.status = unauthorized

/-- What is received is not turned away. -/
theorem Answer.IsReceived.taken (received : answer.IsReceived) :
    (!isSuccess answer.reply.status && answer.reply.status != unauthorized) = false := by
  rcases received with success | login
  · simp [success]
  · simp [login]

theorem download_of_not_isReceived (other : ¬ answer.IsReceived) (path tag : String)
    (before : Disk) : download path tag answer before =
      ⟨[], some (.failed (statusFailure answer)), before⟩ := by
  obtain ⟨failure, notLogin⟩ := not_or.mp other
  simp [download, failure, notLogin]

/-- Making the way to a file keeps all that stands. -/
theorem makeWay_kept (path : String) (before : Disk) (place : Place) :
    Kept (wayTo path) before (makeWay path before).2 place := by
  unfold makeWay wayTo
  cases directoryOf path with
  | none => exact .inl rfl
  | some directory => exact Disk.makeDirectories_kept _ before place

/-- Directories that are not made leave everything as it was but those that were. -/
theorem makeWay_stopped {file : Place} {trouble : Trouble} {middle : Disk}
    (stopped : makeWay path before = (some trouble, middle)) :
    Ending path file answer (wayTo path) before ⟨[], some (.of trouble), middle⟩ := by
  have kept := makeWay_kept path before
  rw [stopped] at kept
  unfold makeWay at stopped
  unfold wayTo at kept ⊢
  cases up : directoryOf path with
  | none =>
    rw [up] at stopped
    cases stopped
  | some directory =>
    rw [up] at stopped kept
    rcases Disk.operate_stopped stopped with ⟨reason, rfl, failed⟩ | ⟨fate, rfl, rfl⟩
    · refine .stopped silent_nil kept ?_
      rcases failed with rfl | failed
      · rfl
      · have left := (Disk.perform_onward before.onward
          (.makeDirectories (Path.segments directory))).left
        rw [failed] at left
        exact left
    · refine .abandoned silent_nil (Disk.leave_left _ _ fate)
        (.idle (fun same => by cases same) (fun target same => by cases same) ?_)
      rintro later (rfl | rfl) place
      · exact kept place
      · exact (kept place).trans (Disk.makeFrom_kept _ [] _ place)

theorem makeWay_left {middle : Disk} (made : makeWay path before = (none, middle)) :
    middle.left = before.left := by
  unfold makeWay at made
  split at made
  · rename_i directory _
    have onward := Disk.perform_onward before.onward (.makeDirectories (Path.segments directory))
    rw [Disk.operate_done made] at onward
    exact onward.left
  · cases made
    rfl

theorem download_ending (fresh : Fresh path tag before) (received : answer.IsReceived) :
    Ending path (partialPlace path tag) answer (wayTo path) before
      (download path tag answer before) := by
  have kept := makeWay_kept path before
  rw [download]
  rw [received.taken]
  cases made : makeWay path before with
  | mk trouble middle =>
    rw [made] at kept
    cases trouble with
    | some trouble => exact makeWay_stopped made
    | none =>
      refine .behind kept (makeWay_left made) (fill_ending ?_ ?_)
      · rcases kept (partialPlace path tag) with same | ⟨passed, -⟩
        · exact same.trans fresh.absent
        · exact absurd passed fresh.not_mem_wayTo
      · rintro target (rfl | rfl)
        · exact fresh.target_ne
        · exact fresh.refusal_ne

end Sailplane.Http
