import Sailplane.Config.TaskFile

/-!
# The layout of a task

What is laid out when a task is made never changes: how many points there are, of which kind each
is, and its waypoint with the zone turned along the legs. The first point is the start, the last one
the finish, and every point between them a turn point.
-/
namespace Sailplane

variable {P K : Type} [Scalar K]

/-- What never changes of a point: its kind, its waypoint and its zone. -/
def TaskPoint.layout (point : TaskPoint P K) : PointKind × Anchor P K := (point.kind, point.anchor)

/-- What never changes of a task. -/
def OrderedTask.layout (task : OrderedTask P K) : List (PointKind × Anchor P K) :=
  task.points.map TaskPoint.layout

/-- What a list is made into stays when an item is put in the place of one that is made into the
same. -/
theorem map_set_eq {α β : Type} {items : List α} {index : Nat} {item other : α} {make : α → β}
    (there : items[index]? = some item) (same : make other = make item) :
    (items.set index other).map make = items.map make := by
  obtain ⟨inside, rfl⟩ := List.getElem?_eq_some_iff.mp there
  rw [List.map_set, same, ← List.getElem_map make, List.set_getElem_self]
  rwa [List.length_map]

namespace TaskPoint

/-- Other preferences leave the layout of a point. -/
@[simp] theorem layout_setPreferences (preferences : Preferences K) (point : TaskPoint P K) :
    (point.setPreferences preferences).layout = point.layout := by
  cases point <;> rfl

/-- Other rules leave the layout of a point. -/
@[simp] theorem layout_setRules (rules : Rules K) (point : TaskPoint P K) :
    (point.setRules rules).layout = point.layout := by
  cases point <;> rfl

/-- A point that is turned is of the same kind. -/
@[simp] theorem kind_orient [Geodesy P K] (previous next : Option P) (point : TaskPoint P K) :
    (point.orient previous next).kind = point.kind := by
  cases point <;> rfl

end TaskPoint

/-! ## Shape -/

/-- Whether points stand where their kind may stand, and are enough for a task. -/
structure Shaped (kinds : List PointKind) : Prop where
  /-- There are at least a start and a finish. -/
  two : 2 ≤ kinds.length
  /-- Each point may stand where it stands. -/
  fits : ∀ index kind, kinds[index]? = some kind →
    OrderedTask.fits kind index (kinds.length - 1) = true

/-- Points pass the check of their shape exactly if their kinds are those of a task. -/
theorem OrderedTask.checkShape_eq_ok_iff {points : List (TaskPoint P K)} :
    OrderedTask.checkShape points = .ok () ↔ Shaped (points.map TaskPoint.kind) := by
  rw [OrderedTask.checkShape]
  split
  · rename_i few
    refine ⟨fun checked => (nomatch checked), fun shaped => ?_⟩
    have enough := shaped.two
    rw [List.length_map] at enough
    omega
  · rename_i enough
    have placed : OrderedTask.misplaced? points = none ↔
        ∀ index kind, (points.map TaskPoint.kind)[index]? = some kind →
          OrderedTask.fits kind index ((points.map TaskPoint.kind).length - 1) = true := by
      rw [OrderedTask.misplaced?, List.find?_eq_none]
      simp only [List.mem_zipIdx_iff_getElem?, Prod.forall, List.getElem?_map, List.length_map,
        Option.map_eq_some_iff, Bool.not_eq_eq_eq_not, Bool.not_true, Bool.not_eq_false]
      constructor
      · rintro all index kind ⟨point, listed, rfl⟩
        exact all point index listed
      · intro all point index listed
        exact all index point.kind ⟨point, listed, rfl⟩
    have two : 2 ≤ (points.map TaskPoint.kind).length := by
      rw [List.length_map]
      omega
    constructor
    · intro checked
      refine ⟨two, placed.mp ?_⟩
      split at checked
      · assumption
      · exact nomatch checked
    · intro shaped
      rw [placed.mpr shaped.fits]

namespace Shaped

variable {kinds : List PointKind} {index : Nat}

/-- The first point is a start. -/
theorem first (shaped : Shaped kinds) : kinds[0]? = some .start := by
  have two := shaped.two
  obtain ⟨kind, first⟩ : ∃ kind, kinds[0]? = some kind :=
    ⟨_, List.getElem?_eq_getElem (by omega)⟩
  have fits := shaped.fits 0 kind first
  cases kind with
  | start => exact first
  | turn => simp [OrderedTask.fits] at fits
  | finish =>
    simp only [OrderedTask.fits, beq_iff_eq] at fits
    omega

/-- Only the first point is a start. -/
theorem eq_zero_of_start (shaped : Shaped kinds) (start : kinds[index]? = some .start) :
    index = 0 := by
  simpa [OrderedTask.fits] using shaped.fits index .start start

/-- Only the last point is a finish. -/
theorem eq_last_of_finish (shaped : Shaped kinds) (finish : kinds[index]? = some .finish) :
    index + 1 = kinds.length := by
  have fits := shaped.fits index .finish finish
  have two := shaped.two
  simp only [OrderedTask.fits, beq_iff_eq] at fits
  omega

/-- A turn point is neither the first point nor the last one. -/
theorem between_of_turn (shaped : Shaped kinds) (turn : kinds[index]? = some .turn) :
    1 ≤ index ∧ index + 1 < kinds.length := by
  have fits := shaped.fits index .turn turn
  have there := (List.getElem?_eq_some_iff.mp turn).1
  simp only [OrderedTask.fits, Bool.and_eq_true, bne_iff_ne, ne_eq] at fits
  omega

end Shaped

namespace OrderedTask

variable {task : OrderedTask P K} {points : List (TaskPoint P K)} {preferences : Preferences K}
  {rules : Rules K}

/-- The kinds of the points of a task. -/
def kinds (task : OrderedTask P K) : List PointKind := task.points.map TaskPoint.kind

/-- The kinds are part of the layout. -/
theorem map_fst_layout (task : OrderedTask P K) : task.layout.map Prod.fst = task.kinds := by
  simp [layout, kinds, TaskPoint.layout, Function.comp_def]

/-- Other preferences leave the layout. -/
@[simp] theorem layout_setPreferences (task : OrderedTask P K) (preferences : Preferences K) :
    (task.setPreferences preferences).layout = task.layout := by
  simp [layout, setPreferences, Function.comp_def]

/-- Other rules leave the layout. -/
@[simp] theorem layout_setRules (task : OrderedTask P K) (rules : Rules K) :
    (task.setRules rules).layout = task.layout := by
  simp [layout, setRules, Function.comp_def]

/-- A task of the right shape begins with a start point. -/
theorem points_eq_cons (shaped : Shaped task.kinds) :
    ∃ start rest, task.points = .start start :: rest := by
  have first := shaped.first
  cases points : task.points with
  | nil => simp [kinds, points] at first
  | cons point rest =>
    cases point with
    | start start => exact ⟨start, rest, rfl⟩
    | turn anchor => simp [kinds, points, TaskPoint.kind] at first
    | finish finish => simp [kinds, points, TaskPoint.kind] at first

/-- A task without progress has the same layout. -/
@[simp] theorem layout_reset (task : OrderedTask P K) : task.reset.layout = task.layout := by
  rw [layout, layout, reset]
  split
  · rename_i points
    rw [points]
    rfl
  · rfl

/-! ## New tasks -/

variable [Geodesy P K]

/-- To turn points leaves their kinds. -/
theorem map_kind_wire (previous : Option P) (points : List (TaskPoint P K)) :
    (wire previous points).map TaskPoint.kind = points.map TaskPoint.kind := by
  induction points generalizing previous with
  | nil => rfl
  | cons point rest ih => rw [wire, List.map_cons, List.map_cons, ih, TaskPoint.kind_orient]

/-- A task is made of points of the right shape, which it turns along the legs, and is without
progress. -/
theorem new_eq_ok_iff : new points preferences rules = .ok task ↔
    Shaped (points.map TaskPoint.kind) ∧
      task = ⟨wire none (points.map fun point =>
        (point.setPreferences preferences).setRules rules), 0, false⟩ := by
  rw [← checkShape_eq_ok_iff, new]
  cases checked : checkShape points with
  | error error => exact ⟨fun made => (nomatch made), fun both => (nomatch both.1)⟩
  | ok =>
    constructor
    · intro made
      exact ⟨rfl, (Except.ok.inj made).symm⟩
    · rintro ⟨-, rfl⟩
      rfl

/-- A task that was just made of points of which no start was made. -/
structure IsNew (task : OrderedTask P K) : Prop where
  /-- The points are those of a task. -/
  shaped : Shaped task.kinds
  /-- The start comes first. -/
  active : task.active = 0
  /-- The finish was not made. -/
  unfinished : task.finished = false
  /-- The start was not made. -/
  unstarted : ∀ start, task.start? = some start → start.state = .notStarted

/-- A point that was turned under other preferences and rules is a start only if it was one, and the
start was made if it was before. -/
theorem state_of_configured {point : TaskPoint P K} {start : StartPoint P K}
    {previous next : Option P}
    (configured : ((point.setPreferences preferences).setRules rules).orient previous next =
      .start start) : ∃ before, point = .start before ∧ start.state = before.state := by
  cases point with
  | start before =>
    refine ⟨before, rfl, ?_⟩
    cases configured
    rfl
  | turn anchor => exact nomatch configured
  | finish finish => exact nomatch configured

/-- A task that is made has the kinds of its points, which are in order. -/
theorem shaped_of_new (made : new points preferences rules = .ok task) : Shaped task.kinds := by
  obtain ⟨shaped, rfl⟩ := new_eq_ok_iff.mp made
  have kept : (points.map fun point => (point.setPreferences preferences).setRules rules).map
      TaskPoint.kind = points.map TaskPoint.kind := by
    rw [List.map_map]
    refine List.map_congr_left fun point _ => ?_
    cases point <;> rfl
  rw [kinds, map_kind_wire, kept]
  exact shaped

/-- A task that is made of points of which no start was made is new. -/
theorem isNew_of_new (made : new points preferences rules = .ok task)
    (unstarted : ∀ start, .start start ∈ points → start.state = .notStarted) : task.IsNew := by
  have shaped := shaped_of_new made
  obtain ⟨-, rfl⟩ := new_eq_ok_iff.mp made
  refine ⟨shaped, rfl, rfl, fun start first => ?_⟩
  cases points with
  | nil => exact nomatch first
  | cons point rest =>
    simp only [start?, List.map_cons, wire] at first
    split at first
    · rename_i turned after configured
      obtain ⟨before, rfl, same⟩ := state_of_configured (List.cons.inj configured).1
      cases first
      rw [same]
      exact unstarted before List.mem_cons_self
    · exact nomatch first

end OrderedTask

/-- A task that is built from a file is new. -/
theorem Config.TaskFile.isNew_of_build {file : Config.TaskFile}
    {task : OrderedTask Position Float} (built : file.build = .ok task) : task.IsNew := by
  refine OrderedTask.isNew_of_new built fun start listed => ?_
  obtain ⟨point, -, made⟩ := List.mem_map.mp listed
  rw [Config.PlannedPoint.build] at made
  split at made
  · cases made
    rfl
  · exact nomatch made
  · exact nomatch made

/-- A task that is loaded from a file is new. -/
theorem Config.isNew_of_loadTask {path : String} {contents : Config.Contents}
    {task : OrderedTask Position Float} (loaded : Config.loadTask path contents = .ok task) :
    task.IsNew := by
  rw [loadTask] at loaded
  cases read : load taskFile path contents with
  | error error =>
    rw [read] at loaded
    have failed : Except.error error = Except.ok task := loaded
    cases failed
  | ok file =>
    rw [read] at loaded
    cases built : file.build with
    | error error =>
      have failed : file.build.mapError LoadError.task = .ok task := loaded
      rw [built] at failed
      have refused : Except.error (LoadError.task error) = Except.ok task := failed
      cases refused
    | ok made =>
      have succeeded : file.build.mapError LoadError.task = .ok task := loaded
      rw [built] at succeeded
      have same : (Except.ok made : Except LoadError _) = .ok task := succeeded
      obtain rfl := Except.ok.inj same
      exact TaskFile.isNew_of_build built

end Sailplane
