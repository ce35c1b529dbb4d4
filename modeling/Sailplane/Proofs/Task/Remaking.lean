import Sailplane.Proofs.Task.Editing
import Sailplane.Proofs.Task.Wiring

/-!
# Tasks made of used points

A point can be flown, searched, edited and turned before a task is made of it. The task is then
configured like one that is made of new points after the same plan, and begins with the first point.
But a start that was made stays made: such a task makes no event until it is reset. In all other
cases, and after a reset, it goes on like the one made of new points.
-/
namespace Sailplane

variable {P K : Type} [Scalar K]

/-! ## Points -/

namespace TaskPoint

/-- What is planned of a point: its kind, its waypoint and the shape of its zone. -/
def plan (point : TaskPoint P K) : PointKind × Waypoint P K × Shape K :=
  (point.kind, point.anchor.waypoint, point.anchor.zone.shape)

/-- A point that was just made. -/
inductive IsNew : TaskPoint P K → Prop
  /-- A start. -/
  | start (shape : Shape K) (waypoint : Waypoint P K) (preferences : Preferences K)
      (rules : StartRules K) : IsNew (.start (.new shape waypoint preferences rules))
  /-- A turn point. -/
  | turn (shape : Shape K) (waypoint : Waypoint P K) : IsNew (.turn (.new shape waypoint))
  /-- A finish. -/
  | finish (shape : Shape K) (waypoint : Waypoint P K) (rules : FinishRules K) :
      IsNew (.finish (.new shape waypoint rules))

/-- A start that was just made was not passed. -/
theorem IsNew.unstarted {start : StartPoint P K} (new : (TaskPoint.start start).IsNew) :
    start.state = .notStarted := by
  cases new
  rfl

variable [Geodesy P K]

/-- A point that was made at some time, and then came through whatever can be done with a point. -/
inductive Used : TaskPoint P K → Prop
  /-- It was just made. -/
  | new {point : TaskPoint P K} (new : point.IsNew) : Used point
  /-- It was turned. -/
  | orient {point : TaskPoint P K} (used : Used point) (previous next : Option P) :
      Used (point.orient previous next)
  /-- It was put under other preferences. -/
  | setPreferences {point : TaskPoint P K} (used : Used point) (preferences : Preferences K) :
      Used (point.setPreferences preferences)
  /-- It was put under other rules. -/
  | setRules {point : TaskPoint P K} (used : Used point) (rules : Rules K) :
      Used (point.setRules rules)
  /-- A start was fed with a pair of samples. -/
  | update {start : StartPoint P K} (used : Used (.start start)) (now last : Sample P K) :
      Used (.start (start.update now last).2)
  /-- A start was searched. -/
  | findBestStart {start : StartPoint P K} (used : Used (.start start)) (sample : Sample P K)
      (next : P) : Used (.start (start.findBestStart sample next).2)
  /-- A start was reset. -/
  | reset {start : StartPoint P K} (used : Used (.start start)) : Used (.start start.reset)

/-- The zone of a point is always centered at its waypoint. -/
theorem Used.center_eq {point : TaskPoint P K} (used : point.Used) :
    point.anchor.zone.center = point.place := by
  induction used with
  | new new => cases new <;> rfl
  | @orient point _ _ _ ih => cases point <;> exact ih
  | @setPreferences point _ _ ih => cases point <;> exact ih
  | @setRules point _ _ ih => cases point <;> exact ih
  | @update start _ now last ih =>
    rw [StartPoint.update]
    split <;> exact ih
  | findBestStart _ _ _ ih => exact ih
  | reset _ ih => exact ih

end TaskPoint

/-! ## Tasks -/

namespace OrderedTask

variable [Geodesy P K] {task : OrderedTask P K} {points : List (TaskPoint P K)}
  {preferences : Preferences K} {rules : Rules K}

/-- The points of a task that is made of used points are used. -/
theorem used_of_new (made : new points preferences rules = .ok task)
    (used : ∀ point ∈ points, point.Used) : ∀ point ∈ task.points, point.Used := by
  intro point listed
  obtain ⟨position, found⟩ := List.mem_iff_getElem?.mp listed
  have wired := wired_of_new made
  have inside := (List.getElem?_eq_some_iff.mp found).1
  rw [wired.length_eq] at inside
  have there := List.getElem?_eq_getElem inside
  obtain rfl := Option.some.inj ((wired.placed position _ there).symm.trans found)
  exact (((used _ (List.getElem_mem inside)).setPreferences preferences).setRules rules).orient _ _

/-- Whatever is done with a task of used points leaves them used. -/
theorem used_act {flight : Flight P K} (used : ∀ point ∈ flight.task.points, point.Used)
    (action : TaskAction P K) : ∀ point ∈ (flight.act action).task.points, point.Used := by
  cases action with
  | feed now last =>
    have advances := flight.task.update_advances now last
    rw [Flight.act]
    revert advances
    cases flight.task.update now last with
    | mk event next =>
      intro advances
      -- of all points only a start that is passed changes
      cases advances with
      | rest => exact used
      | start _ there passed =>
        intro point listed
        rcases List.mem_or_eq_of_mem_set listed with among | rfl
        · exact used point among
        · have fed := (used _ (List.mem_of_getElem? there)).update now last
          rwa [StartPoint.update_of_passed passed] at fed
      | turn => exact used
      | finish => exact used
  | prefer latest =>
    intro point listed
    obtain ⟨before, among, rfl⟩ := List.mem_map.mp listed
    exact (used before among).setPreferences latest
  | regulate latest =>
    intro point listed
    obtain ⟨before, among, rfl⟩ := List.mem_map.mp listed
    exact (used before among).setRules latest
  | reset =>
    intro point listed
    rw [Flight.act, OrderedTask.reset] at listed
    dsimp only at listed
    split at listed
    · rename_i start rest points
      rcases List.mem_cons.mp listed with rfl | among
      · exact (used _ (points ▸ List.mem_cons_self)).reset
      · exact used point (points ▸ List.mem_cons_of_mem _ among)
    · exact used point listed

/-- The points of a task that was made of used points are used on every flight. -/
theorem used_fly (made : new points preferences rules = .ok task)
    (used : ∀ point ∈ points, point.Used) (actions : List (TaskAction P K)) :
    ∀ point ∈ (Flight.fly task actions).task.points, point.Used := by
  have steps (flight : Flight P K) (used : ∀ point ∈ flight.task.points, point.Used) :
      ∀ point ∈ (actions.foldl Flight.act flight).task.points, point.Used := by
    induction actions generalizing flight with
    | nil => exact used
    | cons action rest ih => exact ih (flight.act action) (used_act used action)
  exact steps ⟨task, []⟩ (used_of_new made used)

end OrderedTask

/-! ## The same plan -/

/-- How a zone is turned along at least one leg does not depend on how it was turned before. -/
theorem Zone.orient_congr [Geodesy P K] {zone other : Zone P K} (shape : zone.shape = other.shape)
    (center : zone.center = other.center) {previous next : Option P}
    (led : (previous, next) ≠ (none, none)) :
    zone.orient previous next = other.orient previous next := by
  obtain ⟨shape, center, direction⟩ := zone
  obtain ⟨shape', center', direction'⟩ := other
  subst shape center
  rcases previous with _ | previous
  · rcases next with _ | next
    · exact absurd rfl led
    · rfl
  · rcases next with _ | next
    · rfl
    · rfl

namespace TaskPoint

variable [Geodesy P K] {point other : TaskPoint P K}

/-- Used points after one plan are laid out alike when they are turned along at least one leg. -/
theorem layout_orient_congr (plan : point.plan = other.plan) (used : point.Used)
    (used' : other.Used) {previous next : Option P}
    (led : point.kind.legs previous next ≠ (none, none)) :
    (point.orient previous next).layout = (other.orient previous next).layout := by
  have turned_eq (point : TaskPoint P K) : (point.orient previous next).layout =
      (point.kind, point.anchor.orient (point.kind.legs previous next).1
        (point.kind.legs previous next).2) := by
    cases point <;> rfl
  obtain ⟨kind, rest⟩ := Prod.mk.inj plan
  obtain ⟨waypoint, shape⟩ := Prod.mk.inj rest
  -- the zones can differ in their directions only, and those are overwritten
  have center : point.anchor.zone.center = other.anchor.zone.center := by
    rw [used.center_eq, used'.center_eq, place, place, waypoint]
  have zone : point.anchor.zone.orient (point.kind.legs previous next).1
      (point.kind.legs previous next).2 = other.anchor.zone.orient
        (point.kind.legs previous next).1 (point.kind.legs previous next).2 :=
    Zone.orient_congr shape center led
  rw [turned_eq, turned_eq, ← kind, Anchor.orient, Anchor.orient, waypoint, zone]

omit [Geodesy P K] in
/-- Preferences and rules leave what is planned. -/
theorem plan_governed (preferences : Preferences K) (rules : Rules K) (point : TaskPoint P K) :
    (point.governed preferences rules).plan = point.plan :=
  congrArg (fun layout : PointKind × Anchor P K =>
    (layout.1, layout.2.waypoint, layout.2.zone.shape)) (layout_governed preferences rules point)

omit [Geodesy P K] in
/-- Preferences and rules leave the kind of a point. -/
theorem kind_governed (preferences : Preferences K) (rules : Rules K) (point : TaskPoint P K) :
    (point.governed preferences rules).kind = point.kind :=
  congrArg Prod.fst (layout_governed preferences rules point)

end TaskPoint

namespace OrderedTask

variable [Geodesy P K] {task fresh : OrderedTask P K} {points others : List (TaskPoint P K)}
  {preferences : Preferences K} {rules : Rules K}

omit [Geodesy P K] in
/-- Points after one plan lie at the same places. -/
theorem getElem?_place_congr (plans : others.map TaskPoint.plan = points.map TaskPoint.plan)
    (position : Nat) :
    others[position]?.map TaskPoint.place = points[position]?.map TaskPoint.place := by
  have same := congrArg (fun plans => plans[position]?.map fun plan => plan.2.1.place) plans
  simp only [List.getElem?_map, Option.map_map] at same
  exact same

/-- Tasks that are made of used points after one plan are laid out alike. -/
theorem layout_of_new_congr (made : new points preferences rules = .ok task)
    (made' : new others preferences rules = .ok fresh)
    (plans : others.map TaskPoint.plan = points.map TaskPoint.plan)
    (used : ∀ point ∈ points, point.Used) (used' : ∀ point ∈ others, point.Used) :
    task.layout = fresh.layout := by
  have wired := wired_of_new made
  have wired' := wired_of_new made'
  have length : others.length = points.length := by simpa using congrArg List.length plans
  refine List.ext_getElem? fun position => ?_
  rw [layout, layout, List.getElem?_map, List.getElem?_map]
  by_cases inside : position < points.length
  · have there := List.getElem?_eq_getElem inside
    have there' := List.getElem?_eq_getElem (length.symm ▸ inside : position < others.length)
    have before : placeBefore none others position = placeBefore none points position := by
      cases position with
      | zero => rfl
      | succ position => exact getElem?_place_congr plans position
    have plan : others[position].plan = points[position].plan := by
      have same := congrArg (fun plans => plans[position]?) plans
      rw [List.getElem?_map, List.getElem?_map, there, there'] at same
      exact Option.some.inj same
    rw [wired.placed position _ there, wired'.placed position _ there', before, placeBehind,
      placeBehind, getElem?_place_congr plans, Option.map_some, Option.map_some]
    refine congrArg some (TaskPoint.layout_orient_congr ?_ ?_ ?_ ?_)
    · rw [TaskPoint.plan_governed, TaskPoint.plan_governed, plan]
    · exact ((used _ (List.getElem_mem inside)).setPreferences preferences).setRules rules
    · exact ((used' _ (List.getElem_mem _)).setPreferences preferences).setRules rules
    · rw [TaskPoint.kind_governed]
      exact (wired.turned position _ there).1
  · rw [List.getElem?_eq_none (by rw [wired.length_eq]; omega),
      List.getElem?_eq_none (by rw [wired'.length_eq]; omega)]

/-- Tasks that are made of used points after one plan are configured alike. -/
theorem configuration_of_new_congr (made : new points preferences rules = .ok task)
    (made' : new others preferences rules = .ok fresh)
    (plans : others.map TaskPoint.plan = points.map TaskPoint.plan)
    (used : ∀ point ∈ points, point.Used) (used' : ∀ point ∈ others, point.Used) :
    task.configuration = fresh.configuration := by
  rw [configuration_eq (obeys_of_new made), configuration_eq (obeys_of_new made'),
    layout_of_new_congr made made' plans used used']

/-! ## A start that stays made -/

omit [Geodesy P K] in
/-- A start was made exactly if the first point is one that was. -/
theorem isStarted_iff (task : OrderedTask P K) : task.isStarted = true ↔
    ∃ start, task.points[0]? = some (.start start) ∧ start.isStarted = true := by
  rw [isStarted, Option.any_eq_true]
  simp only [start?_eq_some_iff]

/-- Whether the first point of a task comes next, though it is a start that was made. -/
structure Stuck (task : OrderedTask P K) : Prop where
  /-- The first point comes next. -/
  active : task.active = 0
  /-- The start was made. -/
  started : task.isStarted = true

/-- No pair of samples makes an event or changes anything then. -/
theorem Stuck.update_eq (stuck : task.Stuck) (now last : Sample P K) :
    task.update now last = (none, task) := by
  obtain ⟨start, first, made⟩ := (isStarted_iff task).mp stuck.started
  have next : task.points[task.active]? = some (.start start) := by rw [stuck.active, first]
  have refused : (TaskPoint.start start).isPassed now last = false := by
    rw [TaskPoint.isPassed, made]
    rfl
  have advances := task.update_advances now last
  revert advances
  cases task.update now last with
  | mk event after =>
    intro advances
    cases advances with
    | rest => rfl
    | start _ there passed =>
      obtain rfl := TaskPoint.start.inj (Option.some.inj (next.symm.trans there))
      exact absurd passed (by rw [refused]; exact Bool.false_ne_true)
    | turn _ there => cases next.symm.trans there
    | finish _ there => cases next.symm.trans there

omit [Geodesy P K] in
/-- What keeps the point that comes next and what the start remembers keeps a task stuck. -/
theorem Stuck.edited {other : OrderedTask P K} (stuck : task.Stuck)
    (active : other.active = task.active)
    (start : other.start?.map StartPoint.state = task.start?.map StartPoint.state) :
    other.Stuck := by
  refine ⟨active.trans stuck.active, ?_⟩
  rw [isStarted_eq, startTime?_congr start, ← isStarted_eq]
  exact stuck.started

/-- Short of a reset nothing makes an event or progress then. -/
theorem Stuck.act {flight : Flight P K} (stuck : flight.task.Stuck) {action : TaskAction P K}
    (kept : action ≠ .reset) : (flight.act action).task.Stuck ∧
      (flight.act action).events = flight.events ∧
      (flight.act action).task.progress = flight.task.progress := by
  cases action with
  | feed now last =>
    rw [Flight.act, stuck.update_eq now last]
    exact ⟨stuck, List.append_nil _, rfl⟩
  | prefer preferences =>
    have start := start?_setPreferences flight.task preferences
    exact ⟨stuck.edited rfl start, rfl, Prod.ext rfl (Prod.ext rfl start)⟩
  | regulate rules =>
    have start := start?_setRules flight.task rules
    exact ⟨stuck.edited rfl start, rfl, Prod.ext rfl (Prod.ext rfl start)⟩
  | reset => exact absurd rfl kept

/-- Until it is reset such a task makes no event and no progress. -/
theorem Stuck.fly (stuck : task.Stuck) {actions : List (TaskAction P K)}
    (kept : .reset ∉ actions) : (Flight.fly task actions).events = [] ∧
      (Flight.fly task actions).task.progress = task.progress := by
  have steps (flight : Flight P K) (stuck : flight.task.Stuck) :
      (actions.foldl Flight.act flight).events = flight.events ∧
        (actions.foldl Flight.act flight).task.progress = flight.task.progress := by
    induction actions generalizing flight with
    | nil => exact ⟨rfl, rfl⟩
    | cons action rest ih =>
      rw [List.mem_cons, not_or] at kept
      obtain ⟨still, events, progress⟩ := stuck.act (Ne.symm kept.1)
      obtain ⟨events', progress'⟩ := ih kept.2 (flight.act action) still
      exact ⟨events'.trans events, progress'.trans progress⟩
  exact steps ⟨task, []⟩ stuck

/-! ## Used points and new ones -/

/-- What it means that a task of certain points is like one that is made of new points, but for a
start that was made. -/
structure LikeFresh (points : List (TaskPoint P K)) (task fresh : OrderedTask P K) : Prop where
  /-- The first point comes next. -/
  active : task.active = 0
  /-- The finish was not made. -/
  unfinished : task.finished = false
  /-- The start was made exactly if the start among the points was. -/
  started_iff : task.isStarted = true ↔
    ∃ start, points[0]? = some (.start start) ∧ start.isStarted = true
  /-- If it was not, the two tasks go on alike. -/
  alike : task.isStarted = false → GoAlike task fresh
  /-- If it was, nothing makes an event or progress before a reset. -/
  stuck : task.isStarted = true → ∀ actions, .reset ∉ actions →
    (Flight.fly task actions).events = [] ∧
      (Flight.fly task actions).task.progress = task.progress
  /-- After a reset the two tasks go on alike. -/
  resets : GoAlike task.reset fresh

/-- The start of a task that is made was made exactly if the start among the points was. -/
theorem isStarted_of_new (made : new points preferences rules = .ok task) :
    task.isStarted = true ↔
      ∃ start, points[0]? = some (.start start) ∧ start.isStarted = true := by
  obtain ⟨shaped, -⟩ := new_eq_ok_iff.mp made
  have first := shaped.first
  rw [List.getElem?_map, Option.map_eq_some_iff] at first
  obtain ⟨point, there, kind⟩ := first
  have wired := getElem?_of_new made there
  cases point with
  | start start =>
    rw [isStarted_iff, there, wired]
    constructor
    · rintro ⟨turned, found, started⟩
      obtain rfl := TaskPoint.start.inj (Option.some.inj found)
      exact ⟨start, rfl, started⟩
    · rintro ⟨_, found, started⟩
      obtain rfl := TaskPoint.start.inj (Option.some.inj found)
      exact ⟨_, rfl, started⟩
  | turn => exact nomatch kind
  | finish => exact nomatch kind

omit [Geodesy P K] in
/-- A task at its first point whose start was not made has the progress of a new one. -/
theorem progress_of_unstarted (shaped : Shaped task.kinds) (active : task.active = 0)
    (unfinished : task.finished = false) (unstarted : task.isStarted = false) :
    task.progress = (0, false, some .notStarted) := by
  refine IsNew.progress_eq ⟨shaped, active, unfinished, fun start first => ?_⟩
  rw [isStarted, first, Option.any_some, StartPoint.isStarted] at unstarted
  cases state : start.state with
  | notStarted => rfl
  | started time =>
    rw [state] at unstarted
    cases unstarted

/-- A task of used points is like one of new points after the same plan, but for a start that was
made. -/
theorem likeFresh_of_new (made : new points preferences rules = .ok task)
    (made' : new others preferences rules = .ok fresh)
    (plans : others.map TaskPoint.plan = points.map TaskPoint.plan)
    (used : ∀ point ∈ points, point.Used) (new' : ∀ point ∈ others, point.IsNew) :
    LikeFresh points task fresh := by
  have shaped := shaped_of_new made
  have configuration := configuration_of_new_congr made made' plans used
    fun point listed => .new (new' point listed)
  have progress := (isNew_of_new made' fun start listed => (new' _ listed).unstarted).progress_eq
  have zero : task.active = 0 ∧ task.finished = false := by
    rw [(new_eq_ok_iff.mp made).2]
    exact ⟨rfl, rfl⟩
  refine ⟨zero.1, zero.2, isStarted_of_new made, fun unstarted => ?_, fun started _ kept =>
    Stuck.fly ⟨zero.1, started⟩ kept, ?_⟩
  -- tasks of one configuration and one progress go on alike
  · refine goAlike_of_eq shaped configuration ?_
    rw [progress, progress_of_unstarted shaped zero.1 zero.2 unstarted]
  · have again := isNew_reset shaped
    refine goAlike_of_eq again.shaped ?_ (again.progress_eq.trans progress.symm)
    rw [← configuration, configuration_eq (obeys_of_new made).reset, layout_reset,
      configuration_eq (obeys_of_new made)]

/-- Of used points one can make a task wherever one can make it of new points after the same plan,
and it is like that one, but for a start that was made; the points of a task are used at any time of
a flight. -/
theorem remakes_like_fresh :
    (∀ (points others : List (TaskPoint P K)) (preferences : Preferences K) (rules : Rules K)
      (task : OrderedTask P K), (∀ point ∈ points, point.Used) → (∀ point ∈ others, point.IsNew) →
        others.map TaskPoint.plan = points.map TaskPoint.plan →
          new points preferences rules = .ok task →
            ∃ fresh, new others preferences rules = .ok fresh ∧ LikeFresh points task fresh) ∧
    ∀ (points : List (TaskPoint P K)) (preferences : Preferences K) (rules : Rules K)
      (task : OrderedTask P K), (∀ point ∈ points, point.Used) →
        new points preferences rules = .ok task → ∀ actions,
          ∀ point ∈ (Flight.fly task actions).task.points, point.Used := by
  constructor
  · intro points others preferences rules task used new' plans made
    have kinds : others.map TaskPoint.kind = points.map TaskPoint.kind := by
      simpa only [List.map_map, Function.comp_def, TaskPoint.plan] using
        congrArg (List.map Prod.fst) plans
    obtain ⟨fresh, made'⟩ : ∃ fresh, new others preferences rules = .ok fresh :=
      ⟨_, new_eq_ok_iff.mpr ⟨kinds ▸ (new_eq_ok_iff.mp made).1, rfl⟩⟩
    exact ⟨fresh, made', likeFresh_of_new made made' plans used new'⟩
  · intro points preferences rules task used made actions
    exact used_fly made used actions

end OrderedTask

namespace Milestone

open OrderedTask

/-- The points of the road are new. -/
theorem new_road : ∀ point ∈ road, point.IsNew := by
  intro point listed
  simp only [road, List.mem_cons, List.not_mem_nil, or_false] at listed
  rcases listed with rfl | rfl | rfl
  · exact .start _ _ _ _
  · exact .turn _ _
  · exact .finish _ _ _

/-- The task along the road. -/
def roadTask : OrderedTask Milestone Rat :=
  ⟨wire none (road.map (TaskPoint.governed .none .none)), 0, false⟩

/-- It is made of the road. -/
theorem made_roadTask : new road .none .none = .ok roadTask := rfl

/-- The points of the task along the road after its start. -/
def flown : List (TaskPoint Milestone Rat) :=
  (Flight.fly roadTask [.feed (sample 2 1) (sample 0 0)]).task.points

/-- The points after the start are used. -/
theorem used_flown : ∀ point ∈ flown, point.Used :=
  used_fly made_roadTask (fun point listed => .new (new_road point listed)) _

/-- The points after the start are after the plan of the road. -/
theorem plan_flown : road.map TaskPoint.plan = flown.map TaskPoint.plan := by
  have kept := (obeys_fly (obeys_of_new made_roadTask) [.feed (sample 2 1) (sample 0 0)]).1
  have plans := congrArg (List.map fun layout : PointKind × Anchor Milestone Rat =>
    (layout.1, layout.2.waypoint, layout.2.zone.shape)) kept
  rw [layout, layout, List.map_map, List.map_map] at plans
  exact plans.symm

/-- The task that is made of the points after the start. -/
def remade : OrderedTask Milestone Rat :=
  ⟨wire none (flown.map (TaskPoint.governed .none .none)), 0, false⟩

/-- It is made of them. -/
theorem made_remade : new flown .none .none = .ok remade :=
  new_eq_ok_iff.mpr ⟨shaped_fly made_roadTask _, rfl⟩

/-- The task of the points after the start is like the one along the road, but for its start. -/
theorem remakes_like_fresh_flown :
    (∀ point ∈ flown, point.Used) ∧ (∀ point ∈ road, point.IsNew) ∧
      road.map TaskPoint.plan = flown.map TaskPoint.plan ∧ new flown .none .none = .ok remade ∧
      (∃ fresh, new road .none .none = .ok fresh ∧ LikeFresh flown remade fresh) ∧
      ∀ point ∈ (Flight.fly remade [.reset]).task.points, point.Used := by
  have law := remakes_like_fresh (P := Milestone) (K := Rat)
  exact ⟨used_flown, new_road, plan_flown, made_remade,
    law.1 flown road .none .none remade used_flown new_road plan_flown made_remade,
    law.2 flown .none .none remade used_flown made_remade [.reset]⟩

/-- A task that is made of points after the start counts as started. So it is not true that a task
begins without progress and then goes on like one of new points, whatever its points went
through. -/
theorem flown_start_stays :
    ¬∀ (points others : List (TaskPoint Milestone Rat)) (preferences : Preferences Rat)
      (rules : Rules Rat) (task fresh : OrderedTask Milestone Rat),
      (∀ point ∈ points, point.Used) → (∀ point ∈ others, point.IsNew) →
        others.map TaskPoint.plan = points.map TaskPoint.plan →
        new points preferences rules = .ok task → new others preferences rules = .ok fresh →
          (task.isStarted = false ∧ task.finished = false ∧ task.active = 0) ∧
            ∀ actions, (Flight.fly task actions).events = (Flight.fly fresh actions).events ∧
              (Flight.fly task actions).task.progress =
                (Flight.fly fresh actions).task.progress := by
  intro claim
  have unstarted := (claim flown road .none .none remade roadTask used_flown new_road plan_flown
    made_remade made_roadTask).1.1
  have started : remade.isStarted = true := by decide +kernel
  exact absurd unstarted (by rw [started]; exact Bool.noConfusion)

end Milestone

end Sailplane
