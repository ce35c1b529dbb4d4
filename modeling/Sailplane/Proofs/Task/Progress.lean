import Sailplane.Proofs.Task.Layout

/-!
# Progress of a task

How far a task has come is held in three places: which point comes next, whether the finish was
made, and what the start point remembers. Whatever is done with a task, these three go together, and
they tell which events it made since it was last without progress.
-/
namespace Sailplane

variable {P K : Type} [Scalar K]

/-- What can be done with a task. -/
inductive TaskAction (P K : Type) [Scalar K] where
  /-- Feed a pair of samples. -/
  | feed (now last : Sample P K)
  /-- Go by other preferences. -/
  | prefer (preferences : Preferences K)
  /-- Go by other rules. -/
  | regulate (rules : Rules K)
  /-- Forget all progress. -/
  | reset

/-! ## Passing a point -/

namespace TaskPoint

variable [Geodesy P K]

/-- Whether a pair of samples passes a point: a start that was not made is left, or another point is
entered. -/
def isPassed (now last : Sample P K) : TaskPoint P K → Bool
  | start point => !point.isStarted && point.isExit now last
  | turn anchor => anchor.isEntered now last
  | finish point => point.isEntered now last

end TaskPoint

namespace StartPoint

variable [Geodesy P K] {start : StartPoint P K} {now last : Sample P K}

/-- A start point that is passed remembers the time of the sample outside. -/
theorem update_of_passed (passed : (TaskPoint.start start).isPassed now last = true) :
    start.update now last = (true, { start with state := .started now.time }) := by
  rw [TaskPoint.isPassed] at passed
  rw [update, if_pos passed]

/-- A start point that is not passed stays as it is. -/
theorem update_of_refused (refused : (TaskPoint.start start).isPassed now last = false) :
    start.update now last = (false, start) := by
  rw [TaskPoint.isPassed] at refused
  rw [update, if_neg (ne_true_of_eq_false refused)]

end StartPoint

namespace OrderedTask

variable {task origin : OrderedTask P K} {events : List (TaskEvent K)}

/-- The time that the start point remembers, if the start was made. -/
def startTime? (task : OrderedTask P K) : Option K :=
  task.start?.bind fun start => match start.state with
    | .notStarted => none
    | .started time => some time

/-- The progress of a task: the point that comes next, whether the finish was made, and what the
start point remembers. -/
def progress (task : OrderedTask P K) : Nat × Bool × Option (StartState K) :=
  (task.active, task.finished, task.start?.map StartPoint.state)

/-- The events of a task with some progress: the start at its time, the turn points before the one
that comes next in their order, and the finish at some time. -/
def journal (startTime : Option K) (active : Nat) (finishTime : Option K) : List (TaskEvent K) :=
  startTime.toList.map .started ++ (List.range' 1 (active - 1)).map .turnPoint ++
    finishTime.toList.map .finished

/-- What it means that the progress of a task is in step, with the events that it made since it was
last without progress. -/
structure InStep (origin task : OrderedTask P K) (events : List (TaskEvent K)) : Prop where
  /-- The points are laid out as they were at first. -/
  layout : task.layout = origin.layout
  /-- A point comes next. -/
  active_lt : task.active < task.points.length
  /-- A point behind the start comes next exactly if the start was made. -/
  started_iff : task.isStarted = true ↔ 1 ≤ task.active
  /-- No point comes behind the one that comes next if the finish was made. -/
  finished_last : task.finished = true → task.active + 1 = task.points.length
  /-- The events are those of the progress. -/
  events_eq : ∃ finishTime : Option K, finishTime.isSome = task.finished ∧
    events = journal task.startTime? task.active finishTime

/-! ## Starting over -/

/-- A start was made exactly if its time is remembered. -/
theorem isStarted_eq (task : OrderedTask P K) : task.isStarted = task.startTime?.isSome := by
  rw [isStarted, startTime?]
  cases task.start? with
  | none => rfl
  | some start =>
    rw [Option.any_some, Option.bind_some, StartPoint.isStarted]
    cases start.state <;> rfl

/-- The first point is a start exactly if the task has a start point. -/
theorem start?_eq_some_iff {start : StartPoint P K} :
    task.start? = some start ↔ task.points[0]? = some (.start start) := by
  rw [start?]
  rcases task.points with _ | ⟨point, rest⟩
  · simp
  · cases point <;> simp

/-- A task of the right shape has a start point. -/
theorem exists_start (shaped : Shaped task.kinds) : ∃ start, task.start? = some start := by
  obtain ⟨start, rest, points⟩ := points_eq_cons shaped
  exact ⟨start, start?_eq_some_iff.mpr (by rw [points]; rfl)⟩

/-- Other preferences leave what the start point remembers. -/
theorem start?_setPreferences (task : OrderedTask P K) (preferences : Preferences K) :
    (task.setPreferences preferences).start?.map StartPoint.state =
      task.start?.map StartPoint.state := by
  rw [setPreferences, start?, start?]
  rcases task.points with _ | ⟨point, rest⟩
  · rfl
  · cases point <;> rfl

/-- Other rules leave what the start point remembers. -/
theorem start?_setRules (task : OrderedTask P K) (rules : Rules K) :
    (task.setRules rules).start?.map StartPoint.state = task.start?.map StartPoint.state := by
  rw [setRules, start?, start?]
  rcases task.points with _ | ⟨point, rest⟩
  · rfl
  · cases point <;> rfl

/-- The time of the start is part of what the start point remembers. -/
theorem startTime?_congr {other : OrderedTask P K}
    (same : task.start?.map StartPoint.state = other.start?.map StartPoint.state) :
    task.startTime? = other.startTime? := by
  have times (task : OrderedTask P K) : task.startTime? =
      (task.start?.map StartPoint.state).bind fun state => match state with
        | .notStarted => none
        | .started time => some time := by
    rw [startTime?, Option.bind_map]
    rfl
  rw [times, times, same]

/-- A start point that was passed remembers its time. -/
theorem startTime?_set {points : List (TaskPoint P K)} (start : StartPoint P K) (time : K)
    (active : Nat) (finished : Bool) (there : 0 < points.length) :
    (OrderedTask.mk (points.set 0 (.start { start with state := .started time })) active
      finished).startTime? = some time := by
  rw [startTime?, start?_eq_some_iff.mpr (List.getElem?_set_self there)]
  rfl

/-- A task without progress remembers no start. -/
theorem start?_reset (task : OrderedTask P K) :
    task.reset.start? = task.start?.map StartPoint.reset := by
  rw [reset, start?, start?]
  rcases task.points with _ | ⟨point, rest⟩
  · rfl
  · cases point <;> rfl

/-- A new task is in step, and has made no events. -/
theorem IsNew.inStep (new : task.IsNew) : InStep task task [] := by
  obtain ⟨start, first⟩ := exists_start new.shaped
  have none : task.startTime? = none := by rw [startTime?, first, Option.bind_some,
    new.unstarted start first]
  have two := new.shaped.two
  rw [kinds, List.length_map] at two
  refine ⟨rfl, ?_, ?_, fun finished => ?_, Option.none, ?_, ?_⟩
  · rw [new.active]
    omega
  · rw [isStarted_eq, none, new.active]
    simp
  · rw [new.unfinished] at finished
    exact absurd finished Bool.false_ne_true
  · rw [new.unfinished]
    rfl
  · rw [none, new.active]
    rfl

/-- A task without progress is new if it has the points of a task. -/
theorem isNew_reset (shaped : Shaped task.kinds) : task.reset.IsNew := by
  refine ⟨?_, rfl, rfl, fun start first => ?_⟩
  · rw [← map_fst_layout, layout_reset, map_fst_layout]
    exact shaped
  · rw [start?_reset] at first
    obtain ⟨before, -, rfl⟩ := Option.map_eq_some_iff.mp first
    rfl

/-! ## One pair of samples -/

variable [Geodesy P K]

/-- What a pair of samples does to a task: the event that it makes, and the task after it. -/
inductive Advance (task : OrderedTask P K) (now last : Sample P K) :
    Option (TaskEvent K) → OrderedTask P K → Prop where
  /-- The finish was made before, or the pair does not pass the point that comes next. -/
  | rest (refused : task.finished = true ∨ ∀ point, task.points[task.active]? = some point →
      point.isPassed now last = false) : Advance task now last none task
  /-- The start is made. -/
  | start {start : StartPoint P K} (unfinished : task.finished = false)
    (next : task.points[task.active]? = some (.start start))
    (passed : (TaskPoint.start start).isPassed now last = true) :
    Advance task now last (some (.started now.time))
      { task with
        points := task.points.set task.active (.start { start with state := .started now.time })
        active := 1 }
  /-- A turn point is reached. -/
  | turn {anchor : Anchor P K} (unfinished : task.finished = false)
    (next : task.points[task.active]? = some (.turn anchor))
    (passed : (TaskPoint.turn anchor).isPassed now last = true) :
    Advance task now last (some (.turnPoint task.active)) { task with active := task.active + 1 }
  /-- The finish is made. -/
  | finish {finish : FinishPoint P K} (unfinished : task.finished = false)
    (next : task.points[task.active]? = some (.finish finish))
    (passed : (TaskPoint.finish finish).isPassed now last = true) :
    Advance task now last (some (.finished now.time)) { task with finished := true }

/-- A pair of samples does one of these things. -/
theorem update_advances (task : OrderedTask P K) (now last : Sample P K) :
    Advance task now last (task.update now last).1 (task.update now last).2 := by
  cases finished : task.finished with
  | true =>
    rw [update, if_pos finished]
    exact .rest (.inl finished)
  | false =>
    rw [update, if_neg (by simp [finished])]
    cases next : task.points[task.active]? with
    | none => exact .rest (.inr fun point there => nomatch next.symm.trans there)
    | some point =>
      have refusing (refuses : point.isPassed now last = false) :
          ∀ other, task.points[task.active]? = some other → other.isPassed now last = false := by
        intro other there
        obtain rfl := Option.some.inj (next.symm.trans there)
        exact refuses
      cases passed : point.isPassed now last with
      | true =>
        cases point with
        | start start =>
          simp only [StartPoint.update_of_passed passed, if_true]
          exact .start finished next passed
        | turn anchor =>
          simp only [show anchor.isEntered now last = true from passed, if_true]
          exact .turn finished next passed
        | finish finish =>
          simp only [show finish.isEntered now last = true from passed, if_true]
          exact .finish finished next passed
      | false =>
        cases point with
        | start start =>
          have same : task.points.set task.active (.start start) = task.points := by
            obtain ⟨there, found⟩ := List.getElem?_eq_some_iff.mp next
            rw [← found, List.set_getElem_self]
          simp only [StartPoint.update_of_refused passed, same]
          exact .rest (.inr (refusing passed))
        | turn anchor =>
          simp only [show anchor.isEntered now last = false from passed]
          exact .rest (.inr (refusing passed))
        | finish finish =>
          simp only [show finish.isEntered now last = false from passed]
          exact .rest (.inr (refusing passed))

/-! ## Staying in step -/

namespace InStep

omit [Geodesy P K]

/-- The points are of the kinds of which they were at first. -/
theorem kinds_eq (inStep : InStep origin task events) : task.kinds = origin.kinds := by
  rw [← map_fst_layout, inStep.layout, map_fst_layout]

/-- The kind of a point is found among the kinds that there were at first. -/
theorem kind_eq (inStep : InStep origin task events) {index : Nat} {point : TaskPoint P K}
    (there : task.points[index]? = some point) : origin.kinds[index]? = some point.kind := by
  rw [← inStep.kinds_eq, kinds, List.getElem?_map, there]
  rfl

/-- There are as many points as at first. -/
theorem length_eq (inStep : InStep origin task events) :
    origin.kinds.length = task.points.length := by
  rw [← inStep.kinds_eq, kinds, List.length_map]

/-- While the finish was not made the events end with the turn points. -/
theorem events_of_unfinished (inStep : InStep origin task events)
    (unfinished : task.finished = false) :
    events = journal task.startTime? task.active none := by
  obtain ⟨finishTime, made, events_eq⟩ := inStep.events_eq
  rw [unfinished, Option.isSome_eq_false_iff, Option.isNone_iff_eq_none] at made
  rw [events_eq, made]

/-- What keeps the layout, the point that comes next and what was made keeps a task in step. -/
theorem edited {other : OrderedTask P K} (inStep : InStep origin task events)
    (layout : other.layout = task.layout) (active : other.active = task.active)
    (finished : other.finished = task.finished)
    (start : other.start?.map StartPoint.state = task.start?.map StartPoint.state) :
    InStep origin other events := by
  have same := startTime?_congr start
  have length : other.points.length = task.points.length := by
    simpa [OrderedTask.layout] using congrArg List.length layout
  refine ⟨layout.trans inStep.layout, ?_, ?_, fun made => ?_, ?_⟩
  · rw [active, length]
    exact inStep.active_lt
  · rw [isStarted_eq, same, ← isStarted_eq, active]
    exact inStep.started_iff
  · rw [active, length]
    exact inStep.finished_last (finished ▸ made)
  · rw [active, finished, same]
    exact inStep.events_eq

/-- The start is made: it was the point that came next, and the first turn point comes next. -/
theorem started (shaped : Shaped origin.kinds) (inStep : InStep origin task events)
    (unfinished : task.finished = false) {start : StartPoint P K} (time : K)
    (next : task.points[task.active]? = some (.start start)) :
    InStep origin { task with
        points := task.points.set task.active (.start { start with state := .started time })
        active := 1 } (events ++ [.started time]) := by
  have first : task.active = 0 := shaped.eq_zero_of_start (inStep.kind_eq next)
  have before : task.startTime? = none := by
    rw [← Option.not_isSome_iff_eq_none, ← isStarted_eq, inStep.started_iff, first]
    omega
  have two := shaped.two
  rw [inStep.length_eq] at two
  rw [first] at next ⊢
  have after := startTime?_set start time 1 task.finished (show 0 < task.points.length by omega)
  refine ⟨?_, ?_, ?_, fun finished => ?_, none, ?_, ?_⟩
  · rw [← inStep.layout]
    refine map_set_eq next ?_
    rfl
  · show 1 < (task.points.set 0 _).length
    rw [List.length_set]
    omega
  · rw [isStarted_eq, after]
    simp
  · exact nomatch unfinished.symm.trans finished
  · exact unfinished.symm
  · rw [after, inStep.events_of_unfinished unfinished, before, first]
    rfl

/-- A turn point is reached: the point behind it comes next. -/
theorem turned (shaped : Shaped origin.kinds) (inStep : InStep origin task events)
    (unfinished : task.finished = false) {anchor : Anchor P K}
    (next : task.points[task.active]? = some (.turn anchor)) :
    InStep origin { task with active := task.active + 1 }
      (events ++ [.turnPoint task.active]) := by
  obtain ⟨behind, before⟩ := shaped.between_of_turn (inStep.kind_eq next)
  rw [inStep.length_eq] at before
  refine ⟨inStep.layout, before, ?_, fun finished => ?_, none, unfinished.symm, ?_⟩
  · have started : task.isStarted = true := inStep.started_iff.mpr behind
    exact ⟨fun _ => Nat.le_add_left 1 task.active, fun _ => started⟩
  · exact nomatch unfinished.symm.trans finished
  · have range : List.range' 1 (task.active + 1 - 1) =
        List.range' 1 (task.active - 1) ++ [task.active] := by
      rw [show task.active + 1 - 1 = task.active - 1 + 1 by omega, List.range'_concat,
        show 1 + 1 * (task.active - 1) = task.active by omega]
    rw [inStep.events_of_unfinished unfinished]
    simp only [journal, range, List.map_append, List.map_cons, List.map_nil, Option.toList_none,
      List.append_nil, List.append_assoc]
    rfl

/-- The finish is made: it was the last point. -/
theorem finished (shaped : Shaped origin.kinds) (inStep : InStep origin task events)
    (unfinished : task.finished = false) {finish : FinishPoint P K} (time : K)
    (next : task.points[task.active]? = some (.finish finish)) :
    InStep origin { task with finished := true } (events ++ [.finished time]) := by
  have last := shaped.eq_last_of_finish (inStep.kind_eq next)
  rw [inStep.length_eq] at last
  refine ⟨inStep.layout, inStep.active_lt, inStep.started_iff, fun _ => last, some time, rfl, ?_⟩
  rw [inStep.events_of_unfinished unfinished, journal, journal]
  simp [startTime?, start?]

end InStep

/-- A pair of samples keeps a task in step. -/
theorem InStep.advance {next : OrderedTask P K} {now last : Sample P K}
    {event : Option (TaskEvent K)} (shaped : Shaped origin.kinds)
    (inStep : InStep origin task events) (advance : Advance task now last event next) :
    InStep origin next (events ++ event.toList) := by
  cases advance with
  | rest => simpa using inStep
  | start unfinished next _ => exact inStep.started shaped unfinished now.time next
  | turn unfinished next _ => exact inStep.turned shaped unfinished next
  | finish unfinished next _ => exact inStep.finished shaped unfinished now.time next

end OrderedTask

/-! ## Flights -/

/-- A task on its way, with the events that it made since it was last without progress. -/
structure Flight (P K : Type) [Scalar K] where
  /-- The task. -/
  task : OrderedTask P K
  /-- The events in order. -/
  events : List (TaskEvent K)

namespace Flight

variable [Geodesy P K]

/-- Do something with a task. -/
def act (flight : Flight P K) : TaskAction P K → Flight P K
  | .feed now last =>
    let (event, task) := flight.task.update now last
    ⟨task, flight.events ++ event.toList⟩
  | .prefer preferences => { flight with task := flight.task.setPreferences preferences }
  | .regulate rules => { flight with task := flight.task.setRules rules }
  | .reset => ⟨flight.task.reset, []⟩

/-- Do one thing after the other with a task. -/
def fly (task : OrderedTask P K) (actions : List (TaskAction P K)) : Flight P K :=
  actions.foldl act ⟨task, []⟩

end Flight

namespace OrderedTask

variable [Geodesy P K] {task origin : OrderedTask P K}

/-- Whatever is done with a task keeps it in step. -/
theorem InStep.act {flight : Flight P K} (shaped : Shaped origin.kinds)
    (inStep : InStep origin flight.task flight.events) (action : TaskAction P K) :
    InStep origin (flight.act action).task (flight.act action).events := by
  cases action with
  | feed now last => exact inStep.advance shaped (flight.task.update_advances now last)
  | prefer preferences =>
    exact inStep.edited (layout_setPreferences _ _) rfl rfl (start?_setPreferences _ _)
  | regulate rules => exact inStep.edited (layout_setRules _ _) rfl rfl (start?_setRules _ _)
  | reset =>
    have new : flight.task.reset.IsNew := isNew_reset (inStep.kinds_eq ▸ shaped)
    obtain ⟨_, active_lt, started_iff, finished_last, events_eq⟩ := new.inStep
    exact ⟨(layout_reset _).trans inStep.layout, active_lt, started_iff, finished_last, events_eq⟩

/-- A new task is in step after any actions. -/
theorem IsNew.inStep_fly (new : task.IsNew) (actions : List (TaskAction P K)) :
    InStep task (Flight.fly task actions).task (Flight.fly task actions).events := by
  have steps (flight : Flight P K) (inStep : InStep task flight.task flight.events) :
      InStep task (actions.foldl Flight.act flight).task
        (actions.foldl Flight.act flight).events := by
    induction actions generalizing flight with
    | nil => exact inStep
    | cons action rest ih => exact ih (flight.act action) (inStep.act new.shaped action)
  exact steps ⟨task, []⟩ new.inStep

/-- What it means that a task and its events go together on a flight. -/
structure Aligned (origin : OrderedTask P K) (flight : Flight P K) : Prop
    extends InStep origin flight.task flight.events where
  /-- After the finish no pair of samples makes an event or changes anything. -/
  rests : flight.task.finished = true →
    ∀ now last, flight.task.update now last = (none, flight.task)
  /-- Without its progress it is where it was at first. -/
  resets : flight.task.reset.progress = origin.progress

/-- A task that was finished stays as it is. -/
theorem update_of_finished (finished : task.finished = true) (now last : Sample P K) :
    task.update now last = (none, task) := by
  rw [update, if_pos finished]

omit [Geodesy P K] in
/-- The progress of a new task: the start comes next and was not made. -/
theorem IsNew.progress_eq (new : task.IsNew) : task.progress = (0, false, some .notStarted) := by
  obtain ⟨start, first⟩ := exists_start new.shaped
  rw [progress, new.active, new.unfinished, first, Option.map_some, new.unstarted start first]

/-- A new task is aligned with its events after any actions. -/
theorem IsNew.aligned (new : task.IsNew) (actions : List (TaskAction P K)) :
    Aligned task (Flight.fly task actions) := by
  have inStep := new.inStep_fly actions
  have again : (Flight.fly task actions).task.reset.IsNew :=
    isNew_reset (inStep.kinds_eq ▸ new.shaped)
  refine ⟨inStep, fun finished now last => update_of_finished finished now last, ?_⟩
  rw [again.progress_eq, new.progress_eq]

/-- A task that is made of points whose start was not made, or built from a file, is aligned with
its events, whatever is done with it. -/
theorem flies_aligned :
    (∀ points preferences rules (task : OrderedTask P K), new points preferences rules = .ok task →
      (∀ start, .start start ∈ points → start.state = .notStarted) →
        ∀ actions, Aligned task (Flight.fly task actions)) ∧
      ∀ (file : Config.TaskFile) (task : OrderedTask Position Float), file.build = .ok task →
        ∀ actions, Aligned task (Flight.fly task actions) := by
  constructor
  · intro points preferences rules task made unstarted actions
    exact (isNew_of_new made unstarted).aligned actions
  · intro file task built actions
    exact (Config.TaskFile.isNew_of_build built).aligned actions

end OrderedTask

/-! ## A flight along a road -/

/-- A place on a straight road that leads north. -/
structure Milestone where
  /-- How far it is along the road. -/
  miles : Rat
  deriving DecidableEq

/-- Distances along a straight road. -/
instance instGeodesyMilestone : Geodesy Milestone Rat where
  distance a b := if a.miles ≤ b.miles then b.miles - a.miles else a.miles - b.miles
  bearing a b := if a.miles ≤ b.miles then 0 else 180
  destination origin bearing distance :=
    if bearing = 0 then ⟨origin.miles + distance⟩ else ⟨origin.miles - distance⟩

namespace Milestone

/-- A milestone as a waypoint. -/
def waypoint (name : String) (miles : Rat) : Waypoint Milestone Rat := ⟨name, ⟨miles⟩, 0⟩

/-- A sample at a milestone, at a time. -/
def sample (miles time : Rat) : Sample Milestone Rat := ⟨⟨miles⟩, 0, 0, time⟩

/-- A start, a turn point and a finish, ten apart. -/
def road : List (TaskPoint Milestone Rat) :=
  [.start (.new (.cylinder 1) (waypoint "Home" 0) .none .none),
    .turn (.new (.cylinder 1) (waypoint "Mill" 10)),
    .finish (.new (.cylinder 1) (waypoint "Goal" 20) .none)]

/-- A start that is taken back, other preferences, and then the whole road. -/
def actions : List (TaskAction Milestone Rat) :=
  [.feed (sample 2 1) (sample 0 0), .reset, .prefer ⟨5, ⟨0, 0⟩, true⟩,
    .feed (sample 3 12) (sample 1 11), .feed (sample 10 13) (sample 3 12),
    .feed (sample 20 14) (sample 10 13), .feed (sample 10 15) (sample 20 14)]

/-- A task with a start and a finish, as it is stored. -/
def stored : Config.TaskFile where
  preferences := .none
  rules := .none
  points := [⟨.start, ⟨"Home", ⟨46, 8⟩, 0⟩, .cylinder 1000⟩,
    ⟨.finish, ⟨"Goal", ⟨47, 8⟩, 0⟩, .line 1000⟩]

/-- The start of the road was not made. -/
theorem unstarted_road : ∀ start, TaskPoint.start start ∈ road → start.state = .notStarted := by
  intro start listed
  simp only [road, List.mem_cons, TaskPoint.start.injEq, reduceCtorEq, List.not_mem_nil,
    or_false] at listed
  rw [listed]
  rfl

open OrderedTask in
/-- The task along the road makes its events once more after it was reset, and a stored task is
aligned, too. -/
theorem flies_aligned_road :
    (∃ task, new road .none .none = .ok task ∧
      (∀ start, TaskPoint.start start ∈ road → start.state = .notStarted) ∧
      (Flight.fly task actions).events = [.started 12, .turnPoint 1, .finished 14] ∧
      Aligned task (Flight.fly task actions)) ∧
    ∃ task, stored.build = .ok task ∧ ∀ actions, Aligned task (Flight.fly task actions) := by
  constructor
  · exact ⟨_, rfl, unstarted_road, by decide +kernel,
      flies_aligned.1 road .none .none _ rfl unstarted_road actions⟩
  · exact ⟨_, rfl, fun actions =>
      (flies_aligned (P := Position) (K := Float)).2 stored _ rfl actions⟩

end Milestone

end Sailplane
