import Sailplane.Proofs.Http.Endings

/-!
# Disks that are ready for a download

Where no trouble lies ahead, no file stands in the way and no directory stands where a file is
wanted, the disk does not stop a download.
-/
namespace Sailplane.Http

/-- The disk stops the course, by a failure or because nobody waits for it any more. -/
def Course.StoppedByDisk (course : Course) : Prop :=
  ∃ trouble, course.stop = some (.of trouble)

/-- A disk is ready to receive a file at a path, or what is said instead of it. -/
structure Ready (path : String) (disk : Disk) : Prop where
  /-- No operation fails, and nobody goes away. -/
  calm : disk.Calm
  /-- The path ends in a name. -/
  named : ∃ front last, Path.segments path = front ++ [last] ∧ Path.IsName last
  /-- No file stands in the way. -/
  clear : ∀ place ∈ wayTo path, ∀ bytes, disk.node? place ≠ some (.file bytes)
  /-- No directory stands where a file is wanted, and none is made there on the way. -/
  free : ∀ place, place = Path.place path ∨ place = Path.place (refusalPath path) →
    place ∉ wayTo path ∧ disk.node? place ≠ some .directory

/-- Without trouble all chunks are written. -/
theorem store_calm {file : Place} {written : List UInt8} (count : Nat) (chunks : List (List UInt8))
    {disk : Disk} (calm : disk.Calm) (stands : disk.node? file = some (.file written)) :
    ∃ signals after, store file count chunks disk = (signals, none, after) ∧ after.Calm := by
  induction chunks generalizing written count disk with
  | nil => exact ⟨[], disk, rfl, calm⟩
  | cons chunk rest ih =>
    obtain ⟨middle, done, calm⟩ := calm.append stands chunk
    have grown : middle.node? file = some (.file (written ++ chunk)) := by
      rw [Disk.append_done stands done, if_pos rfl]
    obtain ⟨signals, after, stored, calm⟩ := ih (count + chunk.length) calm grown
    exact ⟨.position (.ofNat (count + chunk.length)) :: signals, after, by
      rw [store, done]
      dsimp only
      rw [stored], calm⟩

/-- What the answer itself brings about is no stop by the disk. -/
theorem not_stoppedByDisk {signals : List Download.Signal} {disk : Disk} {stop : Option Stop}
    (other : ∀ trouble, stop ≠ some (.of trouble)) :
    ¬ Course.StoppedByDisk ⟨signals, stop, disk⟩ := fun stopped =>
  stopped.elim other

theorem failed_ne_of {failure : Download.Failure} (other : ∀ reason, failure ≠ .disk reason)
    (trouble : Trouble) : some (Stop.failed failure) ≠ some (.of trouble) := by
  intro same
  cases trouble with
  | fails reason => exact other reason (Stop.failed.inj (Option.some.inj same))
  | interrupts fate => cases same

variable {path : String} {answer : Answer} {disk : Disk}

section Named

variable {front : List String} {last : String} (whole : Path.segments path = front ++ [last])
  (isName : Path.IsName last)
include whole isName

section Beside

variable {partialFile name : String}
  (beside : Path.place partialFile = front.foldl Path.enter [] ++ [name])
include beside

theorem commit_calm {reports : List Download.Signal} {bytes : List UInt8} (calm : disk.Calm)
    (seated : disk.node? (front.foldl Path.enter []) = some .directory)
    (stands : disk.node? (Path.place partialFile) = some (.file bytes))
    (free : ∀ place, place = Path.place path ∨ place = Path.place (refusalPath path) →
      disk.node? place ≠ some .directory) :
    ¬ (commit path partialFile answer reports disk).StoppedByDisk := by
  have refused := failed_ne_of fun reason (same : statusFailure answer = .disk reason) => by
    cases same
  unfold commit
  dsimp only
  split
  · obtain ⟨after, done⟩ := calm.rename whole isName seated stands (free _ (.inl rfl))
    rw [done]
    exact not_stoppedByDisk fun trouble same => by cases same
  · split
    · exact not_stoppedByDisk refused
    · obtain ⟨front', last', cut, longer, -⟩ :=
        Path.place_append (show 2 < ".json".length by decide) (by decide) path
      obtain ⟨rfl, -⟩ := List.append_inj' (cut.symm.trans whole) rfl
      have isName := Path.isName_append (show 2 < ".json".length by decide) last'
      obtain ⟨after, done⟩ := calm.rename longer isName seated stands (free _ (.inr rfl))
      rw [refusalPath, done]
      exact not_stoppedByDisk refused

theorem fill_calm (calm : disk.Calm) (absent : disk.node? (Path.place partialFile) = none)
    (seated : disk.node? (front.foldl Path.enter []) = some .directory)
    (free : ∀ place, place = Path.place path ∨ place = Path.place (refusalPath path) →
      disk.node? place ≠ some .directory) :
    ¬ (fill path partialFile answer disk).StoppedByDisk := by
  have holds : (Path.place partialFile).dropLast = front.foldl Path.enter [] := by
    rw [beside, List.dropLast_concat]
  have away : front.foldl Path.enter [] ≠ Path.place partialFile := by
    rw [beside]
    exact fun same => absurd (congrArg List.length same) (by simp)
  obtain ⟨made, created, calm⟩ := calm.create (by rw [holds, seated]) (by rw [absent]; simp)
  have changed := Disk.create_done created
  have stands : made.node? (Path.place partialFile) = some (.file []) := by
    rw [changed, if_pos rfl]
  obtain ⟨reports, written, stored, calm⟩ := store_calm 0 answer.reply.chunks calm stands
  obtain ⟨-, filled, complete⟩ := store_done stands stored
  have kept (place : Place) (differs : place ≠ Path.place partialFile) :
      written.node? place = disk.node? place := by
    rw [filled.apart place differs, changed, if_neg differs]
  unfold fill
  dsimp only
  rw [created]
  dsimp only
  rw [stored]
  dsimp only
  cases breaks : answer.reply.broken with
  | some reason =>
    rw [show answer.reply.stop = some (.failed (.network reason)) by rw [Reply.stop, breaks]; rfl]
    exact not_stoppedByDisk (failed_ne_of fun reason same => by cases same)
  | none =>
    rw [show answer.reply.stop = none by rw [Reply.stop, breaks]; rfl, calm.sync]
    dsimp only
    refine commit_calm whole isName beside calm.onward ?_ complete fun place wanted => ?_
    · rw [Disk.node?_onward, kept _ away, seated]
    · rw [Disk.node?_onward]
      by_cases here : place = Path.place partialFile
      · rw [here, complete]
        simp
      · rw [kept place here]
        exact free place wanted

end Beside

/-- The directory that a file lies in is made. -/
theorem makeWay_calm (calm : disk.Calm)
    (clear : ∀ place ∈ wayTo path, ∀ bytes, disk.node? place ≠ some (.file bytes)) :
    ∃ after, makeWay path disk = (none, after) ∧ after.Calm ∧
      after.node? (front.foldl Path.enter []) = some .directory := by
  obtain ⟨directory, up, along, -⟩ :=
    Path.parent?_of_lastSegment? (Path.lastSegment?_of_segments whole isName)
  rw [← along]
  unfold makeWay
  unfold wayTo at clear
  by_cases present : directory = ""
  · have here : directoryOf path = none := by
      rw [directoryOf, up, present]
      rfl
    rw [here, present]
    exact ⟨disk, rfl, calm, rfl⟩
  · have above : directoryOf path = some directory := by
      rw [directoryOf, up, Option.filter_some, if_pos (by simpa using present)]
    rw [above] at clear ⊢
    obtain ⟨after, made, calm, stands⟩ := calm.makeDirectories clear
    exact ⟨after, made, calm, stands _ List.prefix_rfl⟩

end Named

variable {tag : String}

/-- A ready disk stops no download. -/
theorem download_ready (fresh : Fresh path tag disk) (ready : Ready path disk) :
    ¬ (download path tag answer disk).StoppedByDisk := by
  obtain ⟨front, last, whole, isName⟩ := ready.named
  obtain ⟨directory, up, along, -⟩ :=
    Path.parent?_of_lastSegment? (Path.lastSegment?_of_segments whole isName)
  have beside : Path.place (partialPath path tag) =
      front.foldl Path.enter [] ++ [partialName path tag] := by
    rw [← along]
    exact Path.place_sibling_of_parent? (isName_partialName path tag) fresh.plain_name
      (Path.fileName?_of_segments whole isName) up
  obtain ⟨middle, made, calm, seated⟩ := makeWay_calm whole isName ready.calm ready.clear
  have kept := makeWay_kept path disk
  rw [made] at kept
  unfold download
  dsimp only
  split
  · exact not_stoppedByDisk (failed_ne_of fun reason same => by cases same)
  · rw [made]
    refine fill_calm whole isName beside calm ?_ seated fun place wanted => ?_
    · rcases kept (partialPlace path tag) with same | ⟨passed, -⟩
      · exact same.trans fresh.absent
      · exact absurd passed fresh.not_mem_wayTo
    · obtain ⟨aside, free⟩ := ready.free place wanted
      rcases kept place with same | ⟨passed, -⟩
      · rw [same]
        exact free
      · exact absurd passed aside

end Sailplane.Http
