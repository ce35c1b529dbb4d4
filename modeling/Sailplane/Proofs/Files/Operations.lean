import Sailplane.Files.Disk
import Sailplane.Proofs.Files.Paths

/-!
# What operations change

An operation that fails leaves everything as it stands, and one that is done changes the place it is
meant for and no other. Making directories changes no more than what is missing on the way to them.
An operation that nobody waits for any more is done or not, then or later. As long as somebody waits
no operation is interrupted.
-/
namespace Sailplane.Disk

variable {disk after : Disk} {place : Place} {trouble : Trouble} {operation : Operation}

/-! ## Places -/

/-- What a file holds; none where no file stands. -/
def contents? (disk : Disk) (place : Place) : Option (List UInt8) :=
  match disk.node? place with
  | some (.file bytes) => some bytes
  | _ => none

/-- A file that holds something stands there. -/
theorem node?_of_contents? {bytes : List UInt8} (holds : disk.contents? place = some bytes) :
    disk.node? place = some (.file bytes) := by
  unfold contents? at holds
  split at holds
  · rename_i stands
    rw [stands, Option.some.inj holds]
  · cases holds

theorem node?_of_ne_nil (disk : Disk) (below : place ≠ []) :
    disk.node? place = (disk.nodes.find? fun entry => entry.1 == place).map (·.2) :=
  if_neg (by simpa using below)

theorem node?_remove (disk : Disk) (below : place ≠ []) (other : Place) :
    (disk.remove place).node? other = if other = place then none else disk.node? other := by
  by_cases root : other = []
  · rw [root, if_neg below.symm]
    rfl
  rw [node?_of_ne_nil _ root, node?_of_ne_nil _ root, remove]
  by_cases here : other = place
  · have never : (disk.nodes.filter fun entry => entry.1 != place).find?
        (fun entry => entry.1 == other) = none := by
      refine List.find?_eq_none.mpr fun entry mem => ?_
      have away := (List.mem_filter.mp mem).2
      simpa [here] using away
    rw [if_pos here, never]
    rfl
  · rw [if_neg here, List.find?_filter]
    congr 2
    funext entry
    by_cases found : entry.1 = other <;> simp [found, here]

theorem node?_put (disk : Disk) (below : place ≠ []) (node : Node) (other : Place) :
    (disk.put place node).node? other = if other = place then some node else disk.node? other := by
  by_cases root : other = []
  · rw [root, if_neg below.symm]
    rfl
  have without := node?_remove disk below other
  rw [node?_of_ne_nil _ root, remove] at without
  rw [node?_of_ne_nil _ root, put, List.find?_append]
  by_cases here : other = place
  · rw [if_pos here, Option.map_eq_none_iff] at without
    rw [without, here]
    simp
  · rw [if_neg here] at without ⊢
    rw [← without]
    simp [Ne.symm here]


/-! ## One operation -/

@[simp] theorem node?_onward (disk : Disk) (place : Place) :
    disk.onward.node? place = disk.node? place := rfl

/-- The same stands on two disks. -/
theorem node?_congr (same : after.nodes = disk.nodes) (place : Place) :
    after.node? place = disk.node? place := by
  rw [node?, node?, same]

/-- What comes after the test for a directory was done. -/
theorem ok_of_checkDirectory {work : Except String Disk}
    (done : (disk.checkDirectory place >>= fun _ => work) = .ok after) : work = .ok after := by
  unfold checkDirectory at done
  split at done
  · exact done
  all_goals cases done

theorem withFile_ok (works : disk.withFile place = .ok after) :
    place ≠ [] ∧ after = disk.put place (.file []) := by
  have made := ok_of_checkDirectory works
  split at made
  · cases made
  · rename_i free
    refine ⟨?_, (Except.ok.inj made).symm⟩
    rintro rfl
    exact free rfl

theorem withBytes_ok {bytes : List UInt8} (works : disk.withBytes place bytes = .ok after) :
    ∃ written, disk.node? place = some (.file written) ∧
      after = disk.put place (.file (written ++ bytes)) := by
  unfold withBytes at works
  split at works
  · rename_i written stands
    exact ⟨written, stands, (Except.ok.inj works).symm⟩
  all_goals cases works

theorem withMoved_ok {source : Place} {path : String}
    (works : disk.withMoved source path = .ok after) :
    ∃ node, disk.node? source = some node ∧ Path.place path ≠ [] ∧
      after = (disk.remove source).put (Path.place path) node := by
  unfold withMoved at works
  split at works
  · cases works
  have made := ok_of_checkDirectory works
  split at made
  · cases made
  split at made
  · cases made
  rename_i node stands
  split at made
  · cases made
  split at made
  · cases made
  rename_i free
  refine ⟨node, stands, fun root => ?_, (Except.ok.inj made).symm⟩
  rw [root] at free
  exact free rfl

theorem outcome_done {work : Except String Disk} (done : disk.outcome work = (none, after)) :
    work = .ok after := by
  cases work with
  | ok changed => rw [(Prod.mk.inj done).2]
  | error reason => cases done

theorem outcome_failed {work : Except String Disk} {reason : String}
    (failed : disk.outcome work = (some reason, after)) : after = disk := by
  cases work with
  | ok changed => cases failed
  | error _ => exact (Prod.mk.inj failed).2.symm

/-- Whatever holds of a disk and of what work makes of it holds after the work. -/
theorem outcome_cases (holds : Disk → Prop) {work : Except String Disk} (same : holds disk)
    (changed : ∀ after, work = .ok after → holds after) : holds (disk.outcome work).2 := by
  cases works : work with
  | ok after => exact changed after works
  | error reason => exact same

/-- Between two disks nothing is left, and no trouble comes up. -/
structure Onward (before after : Disk) : Prop where
  /-- The same operations are left. -/
  left : after.left = before.left
  /-- Troubles are met, but none are added. -/
  troubles : after.troubles ⊆ before.troubles

theorem Onward.refl (disk : Disk) : Onward disk disk := ⟨rfl, List.Subset.refl _⟩

theorem Onward.trans {before middle after : Disk} (first : Onward before middle)
    (second : Onward middle after) : Onward before after :=
  ⟨second.left.trans first.left, List.Subset.trans second.troubles first.troubles⟩

theorem onward_onward (disk : Disk) : Onward disk disk.onward := ⟨rfl, List.drop_subset 1 _⟩

theorem makeFrom_onward (base : Place) (names : List String) (disk : Disk) :
    Onward disk (makeFrom base names disk).2 := by
  induction names generalizing base disk with
  | nil =>
    rw [makeFrom]
    split <;> exact .refl disk
  | cons segment rest ih =>
    rw [makeFrom]
    split
    · exact ih base disk
    split
    · exact .refl disk
    dsimp only
    split
    · exact ih _ disk
    split
    · exact onward_onward disk
    · refine Onward.trans ?_ (ih _ _)
      exact ⟨rfl, (onward_onward disk).troubles⟩

theorem perform_onward (disk : Disk) (operation : Operation) :
    Onward disk (disk.perform operation).2 := by
  have same := Onward.refl disk
  cases operation with
  | makeDirectories names => exact makeFrom_onward [] names disk
  | create place =>
    refine outcome_cases (Onward disk) same fun after works => ?_
    obtain ⟨-, rfl⟩ := withFile_ok works
    exact ⟨same.left, same.troubles⟩
  | append place bytes =>
    refine outcome_cases (Onward disk) same fun after works => ?_
    obtain ⟨written, -, rfl⟩ := withBytes_ok works
    exact ⟨same.left, same.troubles⟩
  | sync => exact same
  | rename source path =>
    refine outcome_cases (Onward disk) same fun after works => ?_
    obtain ⟨node, -, -, rfl⟩ := withMoved_ok works
    exact ⟨same.left, same.troubles⟩

theorem leave_left (disk : Disk) (operation : Operation) (fate : Fate) :
    (disk.leave operation fate).left = disk.left ++ [(operation, fate)] := by
  cases fate with
  | done => exact (perform_onward _ operation).left
  | _ => rfl

/-- What is left is done, or nothing is. -/
theorem leave_cases (disk : Disk) (operation : Operation) (fate : Fate) :
    ∃ same : Disk, same.nodes = disk.nodes ∧
      (disk.leave operation fate = same ∨
        disk.leave operation fate = (same.perform operation).2) := by
  refine ⟨{ disk with left := disk.left ++ [(operation, fate)] }, rfl, ?_⟩
  cases fate with
  | done => exact .inr rfl
  | _ => exact .inl rfl

theorem operate_done (done : disk.operate operation = (none, after)) :
    disk.onward.perform operation = (none, after) := by
  unfold operate at done
  split at done
  · cases done
  · cases done
  · generalize disk.onward.perform operation = performed at done ⊢
    obtain ⟨reason | reason, reached⟩ := performed <;> cases done
    rfl

/-- An operation that is asked for and not done fails at once, or in doing it, or nobody waits for
it any more. -/
theorem operate_stopped (stopped : disk.operate operation = (some trouble, after)) :
    (∃ reason, trouble = .fails reason ∧
      (after = disk.onward ∨ disk.onward.perform operation = (some reason, after))) ∨
    ∃ fate, trouble = .interrupts fate ∧ after = disk.onward.leave operation fate := by
  unfold operate at stopped
  split at stopped
  · rename_i reason _
    obtain ⟨met, rfl⟩ := Prod.mk.inj stopped
    exact .inl ⟨reason, (Option.some.inj met).symm, .inl rfl⟩
  · rename_i fate _
    obtain ⟨met, rfl⟩ := Prod.mk.inj stopped
    exact .inr ⟨fate, (Option.some.inj met).symm, rfl⟩
  · generalize disk.onward.perform operation = performed at stopped ⊢
    obtain ⟨reason | reason, reached⟩ := performed <;> cases stopped
    exact .inl ⟨reason, rfl, .inr rfl⟩

/-- Whether an operation is done or not, something is done to what stands on a disk or it is not. -/
theorem operate_cases (disk : Disk) (operation : Operation) :
    ∃ same : Disk, same.nodes = disk.nodes ∧ ((disk.operate operation).2 = same ∨
      (disk.operate operation).2 = (same.perform operation).2) := by
  unfold operate
  split
  · exact ⟨disk.onward, rfl, .inl rfl⟩
  · exact leave_cases disk.onward operation _
  · exact ⟨disk.onward, rfl, .inr rfl⟩

/-- To make a file leaves it empty. -/
theorem create_done (done : disk.create place = (none, after)) (other : Place) :
    after.node? other = if other = place then some (.file []) else disk.node? other := by
  obtain ⟨below, rfl⟩ := withFile_ok (outcome_done (operate_done done))
  exact node?_put _ below _ other

/-- To write into a file leaves the bytes behind those it holds. -/
theorem append_done {written bytes : List UInt8} (stands : disk.node? place = some (.file written))
    (done : disk.append place bytes = (none, after)) (other : Place) :
    after.node? other =
      if other = place then some (.file (written ++ bytes)) else disk.node? other := by
  have below : place ≠ [] := by
    rintro rfl
    cases stands
  obtain ⟨held, holds, rfl⟩ := withBytes_ok (outcome_done (operate_done done))
  rw [node?_onward, stands] at holds
  cases holds
  exact node?_put _ below _ other

theorem sync_done (done : disk.sync = (none, after)) (other : Place) :
    after.node? other = disk.node? other := by
  cases operate_done done
  rfl

/-- To move a file leaves it where it was meant to go, and nothing where it was. -/
theorem withMoved_node? {source : Place} {path : String} {bytes : List UInt8}
    (stands : disk.node? source = some (.file bytes))
    (works : disk.withMoved source path = .ok after) (other : Place) :
    after.node? other = if other = Path.place path then some (.file bytes)
      else if other = source then none else disk.node? other := by
  have started : source ≠ [] := by
    rintro rfl
    cases stands
  obtain ⟨node, holds, below, rfl⟩ := withMoved_ok works
  rw [stands] at holds
  cases holds
  rw [node?_put _ below, node?_remove _ started]

/-- A file that is not there cannot be moved. -/
theorem perform_rename_of_absent {source : Place} (absent : disk.node? source = none)
    (path : String) : (disk.perform (.rename source path)).2 = disk := by
  refine outcome_cases (fun after => after = disk) rfl fun after works => ?_
  obtain ⟨node, stands, -⟩ := withMoved_ok works
  cases absent.symm.trans stands

/-! ## Once all is done -/

/-- Where nothing was left all is done. -/
theorem settled_of_left_nil (none : disk.left = []) : disk.settled = disk := by
  rw [settled, none]
  rfl

/-- Where one operation was left it is done, or nothing is. -/
theorem settled_of_left {fate : Fate} (one : disk.left = [(operation, fate)]) :
    disk.settled = disk ∨ disk.settled = (disk.perform operation).2 := by
  rw [settled, one]
  cases fate with
  | late => exact .inr rfl
  | _ => exact .inl rfl

/-! ## Making directories -/

/-- What stands at a place is kept, or a directory on the way was made there. -/
def Kept (way : List Place) (before after : Disk) (place : Place) : Prop :=
  after.node? place = before.node? place ∨
    (place ∈ way ∧ before.node? place = none ∧ after.node? place = some .directory)

theorem Kept.trans {way : List Place} {before middle after : Disk}
    (first : Kept way before middle place) (second : Kept way middle after place) :
    Kept way before after place := by
  rcases first with same | ⟨passed, absent, made⟩
  · rcases second with same' | ⟨passed, absent, made⟩
    · exact .inl (same'.trans same)
    · exact .inr ⟨passed, same ▸ absent, made⟩
  · rcases second with same | ⟨-, absent', -⟩
    · exact .inr ⟨passed, absent, same.trans made⟩
    · cases absent'.symm.trans made

theorem Kept.mono {way longer : List Place} {before after : Disk} (within : way ⊆ longer)
    (kept : Kept way before after place) : Kept longer before after place :=
  kept.imp_right fun made => ⟨within made.1, made.2⟩

/-- No file is lost or changed. -/
theorem Kept.contents? {way : List Place} {before after : Disk}
    (kept : Kept way before after place) : after.contents? place = before.contents? place := by
  unfold Disk.contents?
  rcases kept with same | ⟨-, absent, made⟩
  · rw [same]
  · rw [absent, made]

theorem makeFrom_kept (names : List String) (base : Place) (disk : Disk) (place : Place) :
    Kept (Path.way base names) disk (makeFrom base names disk).2 place := by
  induction names generalizing base disk with
  | nil =>
    rw [makeFrom]
    split <;> exact .inl rfl
  | cons segment rest ih =>
    have further : Path.way (Path.enter base segment) rest ⊆ Path.way base (segment :: rest) :=
      List.subset_cons_self _ _
    rw [makeFrom]
    split
    · rename_i blank
      have stays : Path.enter base segment = base := if_pos blank
      rw [stays] at further
      exact (ih base disk).mono further
    · rename_i means
      split
      · exact .inl rfl
      dsimp only
      split
      · exact (ih _ disk).mono further
      · rename_i missing
        have absent : disk.node? (Path.enter base segment) = none := by
          simp only [Bool.or_eq_true, not_or, Bool.not_eq_true, Option.isSome_eq_false_iff,
            Option.isNone_iff_eq_none] at missing
          exact missing.2
        split
        · exact .inl rfl
        · refine Kept.trans ?_ ((ih _ _).mono further)
          have below : Path.enter base segment ≠ [] := by
            intro root
            rw [root] at absent
            cases absent
          rw [Kept, node?_put _ below, node?_onward]
          split
          · rename_i here
            subst here
            exact .inr ⟨List.mem_cons_self, absent, rfl⟩
          · exact .inl rfl

/-- Making directories keeps all that stands, apart from what is missing on the way. -/
theorem makeDirectories_kept (names : List String) (disk : Disk) (place : Place) :
    Kept (Path.way [] names) disk (disk.makeDirectories names).2 place := by
  obtain ⟨same, stands, kept⟩ := operate_cases disk (.makeDirectories names)
  have still : Kept (Path.way [] names) disk same place := .inl (node?_congr stands place)
  rcases kept with kept | done
  · exact kept.symm ▸ still
  · exact done.symm ▸ still.trans (makeFrom_kept names [] same place)

/-! ## Without trouble -/

/-- No trouble lies ahead. -/
def Calm (disk : Disk) : Prop := ∀ met ∈ disk.troubles, met = none

/-- A place is a directory, and so are all that lead to it. -/
def Stands (disk : Disk) (place : Place) : Prop :=
  ∀ above, above <+: place → disk.node? above = some .directory

theorem Stands.below {base : Place} {name : String} (stands : disk.Stands base)
    (there : disk.node? (base ++ [name]) = some .directory) : disk.Stands (base ++ [name]) := by
  intro above leads
  rcases List.prefix_concat_iff.mp leads with rfl | leads
  · exact there
  · exact stands above leads

namespace Calm

theorem onward (calm : disk.Calm) : disk.onward.Calm :=
  fun met mem => calm met (List.mem_of_mem_drop mem)

/-- Without trouble no trouble is met. -/
theorem clear (calm : disk.Calm) : disk.troubles.head?.join = none := by
  cases troubles : disk.troubles with
  | nil => rfl
  | cons first rest => rw [calm first (troubles ▸ List.mem_cons_self)]; rfl

/-- Without trouble an operation is done if it can be. -/
theorem operate (calm : disk.Calm) (works : disk.onward.perform operation = (none, after)) :
    disk.operate operation = (none, after) := by
  rw [Disk.operate, calm.clear]
  dsimp only
  rw [works]
  rfl

theorem create (calm : disk.Calm) (seated : disk.node? place.dropLast = some .directory)
    (free : disk.node? place ≠ some .directory) :
    ∃ after, disk.create place = (none, after) ∧ after.Calm := by
  refine ⟨disk.onward.put place (.file []), calm.operate ?_, calm.onward⟩
  have checked : disk.onward.checkDirectory place.dropLast = .ok () := by
    rw [checkDirectory, node?_onward, seated]
  rw [perform, withFile, checked, node?_onward, if_neg free]
  rfl

theorem append {written : List UInt8} (calm : disk.Calm)
    (stands : disk.node? place = some (.file written)) (bytes : List UInt8) :
    ∃ after, disk.append place bytes = (none, after) ∧ after.Calm := by
  refine ⟨disk.onward.put place (.file (written ++ bytes)), calm.operate ?_, calm.onward⟩
  rw [perform, withBytes, node?_onward, stands]
  rfl

theorem sync (calm : disk.Calm) : disk.sync = (none, disk.onward) := calm.operate rfl

theorem rename {source : Place} {node : Node} {path last : String} {before : List String}
    (calm : disk.Calm) (whole : Path.segments path = before ++ [last]) (isName : Path.IsName last)
    (seated : disk.node? (before.foldl Path.enter []) = some .directory)
    (stands : disk.node? source = some node)
    (free : disk.node? (Path.place path) ≠ some .directory) :
    ∃ after, disk.rename source path = (none, after) := by
  refine ⟨(disk.onward.remove source).put (Path.place path) node, calm.operate ?_⟩
  have checked : disk.onward.checkDirectory (before.foldl Path.enter []) = .ok () := by
    rw [checkDirectory, node?_onward, seated]
  have named : (last == "." || last == "..") = false := by simp [isName.2.1, isName.2.2]
  rw [perform, withMoved, Path.leaf?_of_segments whole isName.1]
  dsimp only
  rw [checked, named, node?_onward, stands]
  dsimp only
  rw [node?_onward, if_neg free]
  rfl

/-- Without trouble, and where no file stands in the way, all directories are made. -/
theorem makeFrom {names : List String} {base : Place} (calm : disk.Calm) (stands : disk.Stands base)
    (clear : ∀ place ∈ Path.way base names, ∀ bytes, disk.node? place ≠ some (.file bytes)) :
    ∃ after, Disk.makeFrom base names disk = (none, after) ∧ after.Calm ∧
      after.Stands (names.foldl Path.enter base) := by
  induction names generalizing base disk with
  | nil =>
    refine ⟨disk, ?_, calm, stands⟩
    rw [Disk.makeFrom, stands base List.prefix_rfl]
  | cons segment rest ih =>
    obtain ⟨clearHere, clear⟩ := List.forall_mem_cons.mp clear
    rw [List.foldl_cons, Disk.makeFrom]
    split
    · rename_i blank
      have stays : Path.enter base segment = base := if_pos blank
      rw [stays] at clear ⊢
      exact ih calm stands clear
    · rename_i means
      rw [stands base List.prefix_rfl]
      dsimp only
      by_cases up : segment = ".."
      · subst up
        rw [if_pos (by rfl)]
        refine ih calm (fun above leads => ?_) clear
        exact stands above (leads.trans (List.dropLast_prefix base))
      have isName : Path.IsName segment := by simpa [Path.IsName, up] using means
      rw [Path.enter_name isName] at clearHere clear ⊢
      cases found : disk.node? (base ++ [segment]) with
      | some node =>
        rw [if_pos (by simp)]
        refine ih calm (stands.below ?_) clear
        cases node with
        | directory => exact found
        | file bytes => exact absurd found (clearHere bytes)
      | none =>
        rw [if_neg (by simp [up]), calm.clear]
        dsimp only
        have below : base ++ [segment] ≠ [] := by simp
        have placed := node?_put disk.onward below .directory
        refine ih calm.onward (Stands.below (fun above leads => ?_) ?_) fun place passed bytes => ?_
        · rw [placed, if_neg, node?_onward]
          · exact stands above leads
          · rintro rfl
            exact absurd leads.length_le (by simp)
        · rw [placed, if_pos rfl]
        · rw [placed]
          split
          · exact fun same => by cases same
          · exact clear place passed bytes

/-- Without trouble, and where no file stands in the way, all directories on it are made. -/
theorem makeDirectories {names : List String} (calm : disk.Calm)
    (clear : ∀ place ∈ Path.way [] names, ∀ bytes, disk.node? place ≠ some (.file bytes)) :
    ∃ after, disk.makeDirectories names = (none, after) ∧ after.Calm ∧
      after.Stands (names.foldl Path.enter []) := by
  have rooted : disk.onward.Stands [] := fun above leads => by
    rw [List.prefix_nil.mp leads]
    rfl
  obtain ⟨after, made, calm', stands⟩ := calm.onward.makeFrom rooted clear
  exact ⟨after, calm.operate made, calm', stands⟩

end Calm

/-! ## With somebody who waits -/

/-- Somebody waits for what is done: no operation ahead is interrupted. -/
def Awaited (disk : Disk) : Prop := ∀ fate, some (.interrupts fate) ∉ disk.troubles

/-- Whether somebody still waits after an operation, which was not interrupted. -/
structure Awaits (outcome : Option Trouble × Disk) : Prop where
  /-- It was not interrupted. -/
  met : ∀ fate, outcome.1 ≠ some (.interrupts fate)
  /-- Those ahead are not. -/
  awaited : outcome.2.Awaited

namespace Awaited

theorem onward (awaited : disk.Awaited) : disk.onward.Awaited :=
  fun fate mem => awaited fate (List.mem_of_mem_drop mem)

/-- While somebody waits an operation is not interrupted. -/
theorem operate (awaited : disk.Awaited) (operation : Operation) :
    Awaits (disk.operate operation) := by
  unfold Disk.operate
  split
  · exact ⟨fun fate same => (by cases same), awaited.onward⟩
  · rename_i fate met
    exact absurd (List.mem_of_head? (Option.join_eq_some_iff.mp met)) (awaited fate)
  · refine ⟨fun fate same => ?_, fun fate mem => ?_⟩
    · obtain ⟨reason, -, met⟩ := Option.map_eq_some_iff.mp same
      cases met
    · exact awaited.onward fate ((perform_onward _ operation).troubles mem)

end Awaited

end Sailplane.Disk
