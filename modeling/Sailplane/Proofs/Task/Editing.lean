import Sailplane.Proofs.Task.Progress

/-!
# Editing a task

A task can be put under other preferences and rules at any time of a flight. What is decided by them
and by the legs, the configuration, is then that of a task which is made anew of the same points
under the preferences and rules that were given last. What a flight and a search for the best start
leave in a task, its memory, is not touched. So two tasks of one configuration that are equally far
go on alike.
-/
namespace Sailplane

variable {P K : Type} [Scalar K]

/-! ## Points -/

namespace TaskPoint

/-- What is decided of a point when a task is made or edited: all but what a flight and a search
leave in it. -/
def configuration : TaskPoint P K → TaskPoint P K
  | start point => start point.reset
  | turn anchor => turn anchor
  | finish point => finish point

/-- What a flight and a search leave in a point: whether its start was made, and the best start that
was found. -/
def memory : TaskPoint P K → Option (StartState K × Option P)
  | start point => some (point.state, point.bestStart)
  | turn _ => none
  | finish _ => none

/-- The configuration of a point of some layout under preferences and rules. -/
def configured (preferences : Preferences K) (rules : Rules K) :
    PointKind × Anchor P K → TaskPoint P K
  | (.start, anchor) => start ⟨anchor, preferences, rules.start, none, .notStarted⟩
  | (.turn, anchor) => turn anchor
  | (.finish, anchor) => finish ⟨anchor, rules.finish⟩

/-- Whether a point goes by some preferences and rules, as far as they concern it. -/
def Obeys (preferences : Preferences K) (rules : Rules K) : TaskPoint P K → Prop
  | start point => point.preferences = preferences ∧ point.rules = rules.start
  | turn _ => True
  | finish point => point.rules = rules.finish

variable {point : TaskPoint P K} {preferences : Preferences K} {rules : Rules K}

/-- The configuration of a point is given by its layout and by what it goes by. -/
theorem configuration_eq (obeys : point.Obeys preferences rules) :
    point.configuration = configured preferences rules point.layout := by
  cases point with
  | start start =>
    obtain ⟨rfl, limits⟩ := obeys
    rw [layout, kind, anchor, configured, ← limits]
    rfl
  | turn anchor => rfl
  | finish finish =>
    obtain ⟨anchor, limits⟩ := finish
    obtain rfl : limits = rules.finish := obeys
    rfl

/-- A point under other preferences goes by them. -/
theorem obeys_setPreferences (latest : Preferences K) (obeys : point.Obeys preferences rules) :
    (point.setPreferences latest).Obeys latest rules := by
  cases point with
  | start start => exact ⟨rfl, obeys.2⟩
  | turn anchor => exact obeys
  | finish finish => exact obeys

/-- A point under other rules goes by them. -/
theorem obeys_setRules (latest : Rules K) (obeys : point.Obeys preferences rules) :
    (point.setRules latest).Obeys preferences latest := by
  cases point with
  | start start => exact ⟨obeys.1, rfl⟩
  | turn anchor => exact obeys
  | finish finish => exact rfl

/-- A point under preferences and rules goes by them, whatever it went by before. -/
theorem obeys_configured (point : TaskPoint P K) (preferences : Preferences K) (rules : Rules K) :
    ((point.setPreferences preferences).setRules rules).Obeys preferences rules := by
  cases point with
  | start start => exact ⟨rfl, rfl⟩
  | turn anchor => exact trivial
  | finish finish => exact rfl

/-- A start that was made goes by what it went by. -/
theorem obeys_started {start : StartPoint P K} (state : StartState K)
    (obeys : (TaskPoint.start start).Obeys preferences rules) :
    (TaskPoint.start { start with state }).Obeys preferences rules :=
  obeys

/-- Other preferences leave the memory of a point. -/
@[simp] theorem memory_setPreferences (preferences : Preferences K) (point : TaskPoint P K) :
    (point.setPreferences preferences).memory = point.memory := by
  cases point <;> rfl

/-- Other rules leave the memory of a point. -/
@[simp] theorem memory_setRules (rules : Rules K) (point : TaskPoint P K) :
    (point.setRules rules).memory = point.memory := by
  cases point <;> rfl

variable [Geodesy P K]

/-- The layout of a point that is turned along the legs. -/
def turned (previous next : Option P) : PointKind × Anchor P K → PointKind × Anchor P K
  | (.start, anchor) => (.start, anchor.orient none next)
  | (.turn, anchor) => (.turn, anchor.orient previous next)
  | (.finish, anchor) => (.finish, anchor.orient previous none)

/-- How a point is turned is given by its layout. -/
theorem layout_orient (previous next : Option P) (point : TaskPoint P K) :
    (point.orient previous next).layout = turned previous next point.layout := by
  cases point <;> rfl

/-- A point that is turned goes by what it went by. -/
theorem obeys_orient (previous next : Option P) (obeys : point.Obeys preferences rules) :
    (point.orient previous next).Obeys preferences rules := by
  cases point <;> exact obeys

end TaskPoint

/-! ## Tasks -/

namespace OrderedTask

/-- What is decided of a task when it is made or edited. -/
def configuration (task : OrderedTask P K) : List (TaskPoint P K) :=
  task.points.map TaskPoint.configuration

/-- What a flight and searches leave in a task: which point comes next, whether the finish was made,
and what they leave in each point. -/
def memory (task : OrderedTask P K) : Nat × Bool × List (Option (StartState K × Option P)) :=
  (task.active, task.finished, task.points.map TaskPoint.memory)

/-- Whether all points of a task go by some preferences and rules. -/
def Obeys (preferences : Preferences K) (rules : Rules K) (task : OrderedTask P K) : Prop :=
  ∀ point ∈ task.points, point.Obeys preferences rules

variable {task other : OrderedTask P K} {preferences : Preferences K} {rules : Rules K}

/-- The configuration of a task is given by its layout and by what it goes by. -/
theorem configuration_eq (obeys : task.Obeys preferences rules) :
    task.configuration = task.layout.map (TaskPoint.configured preferences rules) := by
  rw [configuration, layout, List.map_map]
  exact List.map_congr_left fun point listed => TaskPoint.configuration_eq (obeys point listed)

/-- Other preferences leave the memory of a task. -/
theorem memory_setPreferences (task : OrderedTask P K) (preferences : Preferences K) :
    (task.setPreferences preferences).memory = task.memory := by
  simp [memory, setPreferences, Function.comp_def]

/-- Other rules leave the memory of a task. -/
theorem memory_setRules (task : OrderedTask P K) (rules : Rules K) :
    (task.setRules rules).memory = task.memory := by
  simp [memory, setRules, Function.comp_def]

/-- A task under other preferences goes by them. -/
theorem Obeys.setPreferences (obeys : task.Obeys preferences rules) (latest : Preferences K) :
    (task.setPreferences latest).Obeys latest rules := by
  intro point listed
  obtain ⟨before, among, rfl⟩ := List.mem_map.mp listed
  exact TaskPoint.obeys_setPreferences latest (obeys before among)

/-- A task under other rules goes by them. -/
theorem Obeys.setRules (obeys : task.Obeys preferences rules) (latest : Rules K) :
    (task.setRules latest).Obeys preferences latest := by
  intro point listed
  obtain ⟨before, among, rfl⟩ := List.mem_map.mp listed
  exact TaskPoint.obeys_setRules latest (obeys before among)

/-- A task without progress goes by what it went by. -/
theorem Obeys.reset (obeys : task.Obeys preferences rules) :
    task.reset.Obeys preferences rules := by
  intro point listed
  rw [OrderedTask.reset] at listed
  dsimp only at listed
  split at listed
  · rename_i start rest points
    have first : (TaskPoint.start start).Obeys preferences rules :=
      obeys _ (points ▸ List.mem_cons_self)
    rcases List.mem_cons.mp listed with rfl | among
    · exact first
    · exact obeys point (points ▸ List.mem_cons_of_mem _ among)
  · exact obeys point listed

variable [Geodesy P K] {points others : List (TaskPoint P K)}

/-- How points are turned along the legs is given by their layout. -/
theorem map_layout_wire_congr (previous : Option P)
    (layout : points.map TaskPoint.layout = others.map TaskPoint.layout) :
    (wire previous points).map TaskPoint.layout = (wire previous others).map TaskPoint.layout := by
  induction points generalizing previous others with
  | nil =>
    obtain rfl := List.map_eq_nil_iff.mp layout.symm
    rfl
  | cons point rest ih =>
    cases others with
    | nil => exact nomatch layout
    | cons other more =>
      obtain ⟨first, behind⟩ := List.cons.inj layout
      have place : point.place = other.place := congrArg (·.2.waypoint.place) first
      have next : rest.head?.map TaskPoint.place = more.head?.map TaskPoint.place := by
        have heads := congrArg (fun layouts => layouts.head?.map (·.2.waypoint.place)) behind
        rw [List.head?_map, List.head?_map, Option.map_map, Option.map_map] at heads
        exact heads
      rw [wire, wire, List.map_cons, List.map_cons, TaskPoint.layout_orient,
        TaskPoint.layout_orient, first, place, next, ih (some other.place) behind]

/-- Points that are turned go by what they went by. -/
theorem obeys_wire (previous : Option P)
    (obeys : ∀ point ∈ points, point.Obeys preferences rules) :
    ∀ point ∈ wire previous points, point.Obeys preferences rules := by
  induction points generalizing previous with
  | nil => exact fun point listed => absurd listed List.not_mem_nil
  | cons point rest ih =>
    intro other listed
    rcases List.mem_cons.mp listed with rfl | among
    · exact TaskPoint.obeys_orient _ _ (obeys point List.mem_cons_self)
    · exact ih _ (fun each there => obeys each (List.mem_cons_of_mem _ there)) other among

/-- A task that is made under preferences and rules goes by them. -/
theorem obeys_of_new (made : new points preferences rules = .ok task) :
    task.Obeys preferences rules := by
  obtain ⟨-, rfl⟩ := new_eq_ok_iff.mp made
  refine obeys_wire none fun point listed => ?_
  obtain ⟨before, -, rfl⟩ := List.mem_map.mp listed
  exact before.obeys_configured preferences rules

/-- Of points that are laid out like those of a task one can make a task of the same layout, under
any preferences and rules. -/
theorem exists_rebuilt (made : new points preferences rules = .ok task)
    (layout : others.map TaskPoint.layout = points.map TaskPoint.layout)
    (latest : Preferences K) (latest' : Rules K) :
    ∃ rebuilt, new others latest latest' = .ok rebuilt ∧ rebuilt.layout = task.layout := by
  obtain ⟨shaped, rfl⟩ := new_eq_ok_iff.mp made
  have kinds : others.map TaskPoint.kind = points.map TaskPoint.kind := by
    have firsts := congrArg (List.map Prod.fst) layout
    simpa only [List.map_map, Function.comp_def, TaskPoint.layout] using firsts
  refine ⟨_, new_eq_ok_iff.mpr ⟨kinds ▸ shaped, rfl⟩, ?_⟩
  refine map_layout_wire_congr none ?_
  simpa only [List.map_map, Function.comp_def, TaskPoint.layout_setPreferences,
    TaskPoint.layout_setRules] using layout

end OrderedTask

/-! ## What is given last -/

namespace TaskAction

/-- The preferences that an action gives. -/
def preferences? : TaskAction P K → Option (Preferences K)
  | prefer preferences => some preferences
  | _ => none

/-- The rules that an action gives. -/
def rules? : TaskAction P K → Option (Rules K)
  | regulate rules => some rules
  | _ => none

end TaskAction

/-- The preferences that are given last: by an action, or else at first. -/
def latestPreferences (first : Preferences K) (actions : List (TaskAction P K)) : Preferences K :=
  (actions.filterMap TaskAction.preferences?).getLastD first

/-- The rules that are given last: by an action, or else at first. -/
def latestRules (first : Rules K) (actions : List (TaskAction P K)) : Rules K :=
  (actions.filterMap TaskAction.rules?).getLastD first

/-- What is given by an action and then perhaps by others is what is given last. -/
theorem getLastD_filterMap_cons {α β : Type} (give : α → Option β) (first : β) (action : α)
    (rest : List α) : ((action :: rest).filterMap give).getLastD first =
      (rest.filterMap give).getLastD ((give action).getD first) := by
  rw [List.filterMap_cons]
  cases give action with
  | none => rfl
  | some given => exact List.getLastD_cons

namespace OrderedTask

variable [Geodesy P K] {task other : OrderedTask P K} {flight : Flight P K}
  {preferences : Preferences K} {rules : Rules K} {points others : List (TaskPoint P K)}

/-- A pair of samples leaves the layout and what a task goes by. -/
theorem Advance.obeys {now last : Sample P K} {event : Option (TaskEvent K)}
    (advance : Advance task now last event other) (obeys : task.Obeys preferences rules) :
    other.layout = task.layout ∧ other.Obeys preferences rules := by
  cases advance with
  | rest => exact ⟨rfl, obeys⟩
  | start _ next _ =>
    refine ⟨map_set_eq next rfl, fun point listed => ?_⟩
    rcases List.mem_or_eq_of_mem_set listed with among | rfl
    · exact obeys point among
    · exact TaskPoint.obeys_started _ (obeys _ (List.mem_of_getElem? next))
  | turn => exact ⟨rfl, obeys⟩
  | finish => exact ⟨rfl, obeys⟩

/-- Whatever is done with a task, it keeps its layout and goes by what is given last. -/
theorem obeys_act (obeys : flight.task.Obeys preferences rules) (action : TaskAction P K) :
    (flight.act action).task.layout = flight.task.layout ∧
      (flight.act action).task.Obeys (action.preferences?.getD preferences)
        (action.rules?.getD rules) := by
  cases action with
  | feed now last => exact (flight.task.update_advances now last).obeys obeys
  | prefer latest => exact ⟨layout_setPreferences _ _, obeys.setPreferences latest⟩
  | regulate latest => exact ⟨layout_setRules _ _, obeys.setRules latest⟩
  | reset => exact ⟨layout_reset _, obeys.reset⟩

/-- Whatever is done with a task one thing after the other, it keeps its layout and goes by what is
given last. -/
theorem obeys_fly (obeys : task.Obeys preferences rules) (actions : List (TaskAction P K)) :
    (Flight.fly task actions).task.layout = task.layout ∧
      (Flight.fly task actions).task.Obeys (latestPreferences preferences actions)
        (latestRules rules actions) := by
  have steps (own : Preferences K) (limits : Rules K) (flight : Flight P K)
      (obeys : flight.task.Obeys own limits) :
      (actions.foldl Flight.act flight).task.layout = flight.task.layout ∧
        (actions.foldl Flight.act flight).task.Obeys (latestPreferences own actions)
          (latestRules limits actions) := by
    induction actions generalizing flight own limits with
    | nil => exact ⟨rfl, obeys⟩
    | cons action rest ih =>
      obtain ⟨layout, kept⟩ := obeys_act obeys action
      obtain ⟨layout', kept'⟩ := ih _ _ (flight.act action) kept
      rw [latestPreferences, latestRules, getLastD_filterMap_cons, getLastD_filterMap_cons]
      exact ⟨layout'.trans layout, kept'⟩
  exact steps preferences rules ⟨task, []⟩ obeys

/-- A task that is edited has the configuration of one that is made anew of points of the same
layout under what was given last. -/
theorem configuration_fly (made : new points preferences rules = .ok task)
    (layout : others.map TaskPoint.layout = points.map TaskPoint.layout)
    (actions : List (TaskAction P K)) :
    ∃ rebuilt, new others (latestPreferences preferences actions) (latestRules rules actions) =
        .ok rebuilt ∧ (Flight.fly task actions).task.configuration = rebuilt.configuration := by
  obtain ⟨rebuilt, again, same⟩ := exists_rebuilt made layout
    (latestPreferences preferences actions) (latestRules rules actions)
  obtain ⟨kept, obeys⟩ := obeys_fly (obeys_of_new made) actions
  refine ⟨rebuilt, again, ?_⟩
  rw [configuration_eq obeys, configuration_eq (obeys_of_new again), kept, same]

end OrderedTask

/-! ## Tasks that are equally far -/

/-- The point without the best start that was found. -/
def TaskPoint.unsearched : TaskPoint P K → TaskPoint P K
  | start point => start { point with bestStart := none }
  | turn anchor => turn anchor
  | finish point => finish point

namespace OrderedTask

/-- The task without the best start that was found. -/
def unsearched (task : OrderedTask P K) : OrderedTask P K :=
  { task with points := task.points.map TaskPoint.unsearched }

variable {task other : OrderedTask P K}

/-- What was found by a search is neither configuration nor progress. -/
theorem configuration_unsearched (task : OrderedTask P K) :
    task.unsearched.configuration = task.configuration := by
  rw [configuration, configuration, unsearched, List.map_map]
  refine List.map_congr_left fun point _ => ?_
  cases point <;> rfl

/-- What was found by a search is neither configuration nor progress. -/
theorem progress_unsearched (task : OrderedTask P K) :
    task.unsearched.progress = task.progress := by
  rw [progress, progress, unsearched, start?, start?]
  rcases task.points with _ | ⟨point, rest⟩
  · rfl
  · cases point <;> rfl

/-- Behind the first point there is no start, so nothing but the configuration. -/
theorem unsearched_of_behind {start : StartPoint P K} {rest : List (TaskPoint P K)}
    (shaped : Shaped task.kinds) (points : task.points = .start start :: rest) :
    rest.map TaskPoint.configuration = rest ∧ rest.map TaskPoint.unsearched = rest := by
  have other (point : TaskPoint P K) (listed : point ∈ rest) : point.kind ≠ .start := by
    intro first
    obtain ⟨index, there⟩ := List.mem_iff_getElem?.mp listed
    have behind : task.kinds[index + 1]? = some .start := by
      rw [kinds, points, List.map_cons, List.getElem?_cons_succ, List.getElem?_map, there, ← first]
      rfl
    have zero := shaped.eq_zero_of_start behind
    omega
  constructor
  · refine (List.map_congr_left fun point listed => ?_).trans (List.map_id rest)
    cases point with
    | start => exact absurd rfl (other _ listed)
    | turn => rfl
    | finish => rfl
  · refine (List.map_congr_left fun point listed => ?_).trans (List.map_id rest)
    cases point with
    | start => exact absurd rfl (other _ listed)
    | turn => rfl
    | finish => rfl

/-- Two tasks of one configuration that are equally far differ in what searches found only. -/
theorem unsearched_eq (shaped : Shaped task.kinds)
    (configuration_eq : task.configuration = other.configuration)
    (progress_eq : task.progress = other.progress) : task.unsearched = other.unsearched := by
  have kinds_eq : task.kinds = other.kinds := by
    have layouts := congrArg (List.map (TaskPoint.kind ∘ id)) configuration_eq
    have kept (task : OrderedTask P K) :
        task.configuration.map (TaskPoint.kind ∘ id) = task.kinds := by
      rw [configuration, kinds, List.map_map]
      refine List.map_congr_left fun point _ => ?_
      cases point <;> rfl
    rwa [kept, kept] at layouts
  obtain ⟨start, rest, points⟩ := points_eq_cons shaped
  obtain ⟨start', rest', points'⟩ := points_eq_cons (kinds_eq ▸ shaped)
  obtain ⟨same, same'⟩ := unsearched_of_behind shaped points
  obtain ⟨own, own'⟩ := unsearched_of_behind (kinds_eq ▸ shaped) points'
  obtain ⟨active, finished, state⟩ : task.active = other.active ∧
      task.finished = other.finished ∧ start.state = start'.state := by
    simpa [progress, start?, points, points'] using progress_eq
  rw [configuration, configuration, points, points', List.map_cons, List.map_cons, same, own]
    at configuration_eq
  obtain ⟨first, rfl⟩ := List.cons.inj configuration_eq
  have heads : { start with bestStart := none } = { start' with bestStart := none } := by
    have resets : start.reset = start'.reset := TaskPoint.start.inj first
    obtain ⟨anchor, preferences, rules, best, state⟩ := start
    obtain ⟨anchor', preferences', rules', best', state'⟩ := start'
    cases state
    simpa [StartPoint.reset] using resets
  rw [unsearched, unsearched, points, points', List.map_cons, List.map_cons,
    TaskPoint.unsearched, TaskPoint.unsearched, heads, active, finished]

variable [Geodesy P K]

/-- What was found by a search does not matter to a pair of samples. -/
theorem update_unsearched (task : OrderedTask P K) (now last : Sample P K) :
    task.unsearched.update now last =
      ((task.update now last).1, (task.update now last).2.unsearched) := by
  have found : task.unsearched.points[task.unsearched.active]? =
      task.points[task.active]?.map TaskPoint.unsearched := List.getElem?_map ..
  have same : task.unsearched.finished = task.finished := rfl
  rw [update, update, same, found]
  split
  · rfl
  · cases next : task.points[task.active]? with
    | none => rfl
    | some point =>
      rw [Option.map_some]
      cases point with
      | start start =>
        have passed : StartPoint.isExit { start with bestStart := none } now last =
          start.isExit now last := rfl
        have begun : StartPoint.isStarted { start with bestStart := none } = start.isStarted := rfl
        simp only [TaskPoint.unsearched, StartPoint.update, passed, begun]
        split <;> simp [unsearched, TaskPoint.unsearched]
      | turn anchor =>
        simp only [TaskPoint.unsearched]
        split <;> rfl
      | finish finish =>
        simp only [TaskPoint.unsearched]
        split <;> rfl

/-- What was found by a search does not matter to what is done with a task. -/
theorem act_unsearched (flight : Flight P K) (action : TaskAction P K) :
    Flight.act ⟨flight.task.unsearched, flight.events⟩ action =
      ⟨(flight.act action).task.unsearched, (flight.act action).events⟩ := by
  cases action with
  | feed now last =>
    rw [Flight.act, Flight.act]
    simp only [update_unsearched]
  | prefer preferences =>
    have points (point : TaskPoint P K) : (point.unsearched).setPreferences preferences =
        (point.setPreferences preferences).unsearched := by
      cases point <;> rfl
    simp [Flight.act, setPreferences, unsearched, Function.comp_def, points]
  | regulate rules =>
    have points (point : TaskPoint P K) : (point.unsearched).setRules rules =
        (point.setRules rules).unsearched := by
      cases point <;> rfl
    simp [Flight.act, setRules, unsearched, Function.comp_def, points]
  | reset =>
    rw [Flight.act, Flight.act, reset, reset, unsearched, unsearched]
    rcases flight.task.points with _ | ⟨point, rest⟩
    · rfl
    · cases point <;> rfl

/-- What was found by a search does not matter to a flight. -/
theorem fly_unsearched (task : OrderedTask P K) (actions : List (TaskAction P K)) :
    Flight.fly task.unsearched actions =
      ⟨(Flight.fly task actions).task.unsearched, (Flight.fly task actions).events⟩ := by
  have steps (flight : Flight P K) :
      actions.foldl Flight.act ⟨flight.task.unsearched, flight.events⟩ =
        ⟨(actions.foldl Flight.act flight).task.unsearched,
          (actions.foldl Flight.act flight).events⟩ := by
    induction actions generalizing flight with
    | nil => rfl
    | cons action rest ih =>
      rw [List.foldl_cons, act_unsearched, ih, List.foldl_cons]
  exact steps ⟨task, []⟩

/-- Two tasks go on alike: whatever is done with both, they make the same events, are equally far
and have one configuration. -/
structure GoAlike (task other : OrderedTask P K) : Prop where
  /-- They make the same events. -/
  events : ∀ actions, (Flight.fly task actions).events = (Flight.fly other actions).events
  /-- They are equally far. -/
  progress : ∀ actions,
    (Flight.fly task actions).task.progress = (Flight.fly other actions).task.progress
  /-- They have one configuration. -/
  configuration : ∀ actions,
    (Flight.fly task actions).task.configuration = (Flight.fly other actions).task.configuration

/-- Two tasks of one configuration that are equally far go on alike. -/
theorem goAlike_of_eq (shaped : Shaped task.kinds)
    (configuration_eq : task.configuration = other.configuration)
    (progress_eq : task.progress = other.progress) : GoAlike task other := by
  have flown (actions : List (TaskAction P K)) :
      (Flight.fly task actions).task.unsearched = (Flight.fly other actions).task.unsearched ∧
        (Flight.fly task actions).events = (Flight.fly other actions).events := by
    have both := fly_unsearched task actions
    rw [unsearched_eq shaped configuration_eq progress_eq, fly_unsearched] at both
    exact ⟨(congrArg Flight.task both).symm, (congrArg Flight.events both).symm⟩
  refine ⟨fun actions => (flown actions).2, fun actions => ?_, fun actions => ?_⟩
  · rw [← progress_unsearched, (flown actions).1, progress_unsearched]
  · rw [← configuration_unsearched, (flown actions).1, configuration_unsearched]

/-! ## Editing and making anew -/

variable {points others : List (TaskPoint P K)} {preferences preferences' : Preferences K}
  {rules rules' : Rules K}

/-- A task that was made has the kinds of its points on every flight. -/
theorem shaped_fly (made : new points preferences rules = .ok task)
    (actions : List (TaskAction P K)) : Shaped (Flight.fly task actions).task.kinds := by
  rw [← map_fst_layout, (obeys_fly (obeys_of_new made) actions).1, map_fst_layout]
  exact shaped_of_new made

/-- What it means that to edit a task comes to the same as to make it anew. -/
structure EditsAsRebuilt (points : List (TaskPoint P K)) (preferences : Preferences K)
    (rules : Rules K) (task : OrderedTask P K) : Prop where
  /-- After any actions the task has the configuration of one that is made under what was given
  last, of the same points or others laid out like them, whatever those went by. -/
  configured : ∀ actions others, others.map TaskPoint.layout = points.map TaskPoint.layout →
    ∃ rebuilt, new others (latestPreferences preferences actions) (latestRules rules actions) =
      .ok rebuilt ∧ (Flight.fly task actions).task.configuration = rebuilt.configuration
  /-- To edit it then leaves what the flight and searches left in it. -/
  remembers : ∀ actions, (∀ latest : Preferences K,
      ((Flight.fly task actions).task.setPreferences latest).memory =
        (Flight.fly task actions).task.memory) ∧
    ∀ latest : Rules K, ((Flight.fly task actions).task.setRules latest).memory =
      (Flight.fly task actions).task.memory
  /-- It goes on like every task that is made of points laid out like its own, is then equally far
  and was given the same preferences and rules last. -/
  goesAlike : ∀ actions others preferences' rules' other actions',
    others.map TaskPoint.layout = points.map TaskPoint.layout →
    new others preferences' rules' = .ok other →
    latestPreferences preferences actions = latestPreferences preferences' actions' →
    latestRules rules actions = latestRules rules' actions' →
    (Flight.fly task actions).task.progress = (Flight.fly other actions').task.progress →
    GoAlike (Flight.fly task actions).task (Flight.fly other actions').task

/-- A task that is made is edited as if it were made anew. -/
theorem editsAsRebuilt_of_new (made : new points preferences rules = .ok task) :
    EditsAsRebuilt points preferences rules task := by
  refine ⟨fun actions others layout => configuration_fly made layout actions, fun actions =>
    ⟨memory_setPreferences _, memory_setRules _⟩, ?_⟩
  intro actions others preferences' rules' other actions' layout made' given given' far
  refine goAlike_of_eq (shaped_fly made actions) ?_ far
  obtain ⟨rebuilt, again, same⟩ := configuration_fly made layout actions
  obtain ⟨rebuilt', again', same'⟩ := configuration_fly made' rfl actions'
  rw [← given, ← given', again] at again'
  obtain rfl := Except.ok.inj again'
  rw [same, same']

end OrderedTask

/-- How a stored point is laid out depends neither on preferences nor on rules. -/
theorem Config.PlannedPoint.layout_build (point : Config.PlannedPoint)
    (preferences preferences' : Preferences Float) (rules rules' : Rules Float) :
    (point.build preferences rules).layout = (point.build preferences' rules').layout := by
  rw [build, build]
  cases point.kind <;> rfl

namespace OrderedTask

variable [Geodesy P K]

/-- To edit a task comes to the same as to make it anew, of its points or of the file in which it is
stored. -/
theorem edits_as_rebuilt :
    (∀ points preferences rules (task : OrderedTask P K),
      new points preferences rules = .ok task → EditsAsRebuilt points preferences rules task) ∧
      ∀ (file : Config.TaskFile) (task : OrderedTask Position Float), file.build = .ok task →
        ∀ actions, ∃ rebuilt, Config.TaskFile.build { file with
            preferences := latestPreferences file.preferences actions
            rules := latestRules file.rules actions } = .ok rebuilt ∧
          (Flight.fly task actions).task.configuration = rebuilt.configuration := by
  constructor
  · intro points preferences rules task made
    exact editsAsRebuilt_of_new made
  · intro file task built actions
    refine (editsAsRebuilt_of_new built).configured actions _ ?_
    rw [List.map_map, List.map_map]
    exact List.map_congr_left fun point _ => point.layout_build _ _ _ _

end OrderedTask

namespace Milestone

/-- The points of the road with limits of their own, of which the start was made before. -/
def steepRoad : List (TaskPoint Milestone Rat) :=
  [.start { StartPoint.new (.cylinder 1) (waypoint "Home" 0) ⟨9, ⟨1, 1⟩, false⟩
      { StartRules.none with maxSpeed := 40 } with state := .started 3 },
    .turn (.new (.cylinder 1) (waypoint "Mill" 10)),
    .finish (.new (.cylinder 1) (waypoint "Goal" 20) ⟨500, .ground⟩)]

open OrderedTask in
/-- The task along the road that is put under other preferences on its way has the configuration of
one that is made under them of points with other limits. -/
theorem edits_as_rebuilt_road :
    (∃ task rebuilt, new road .none .none = .ok task ∧
      steepRoad.map TaskPoint.layout = road.map TaskPoint.layout ∧
      new steepRoad ⟨5, ⟨0, 0⟩, true⟩ .none = .ok rebuilt ∧
      (Flight.fly task actions).task.configuration = rebuilt.configuration) ∧
    ∃ task rebuilt, stored.build = .ok task ∧
      Config.TaskFile.build { stored with preferences := ⟨7, ⟨0, 0⟩, false⟩ } = .ok rebuilt ∧
      (Flight.fly task [.prefer ⟨7, ⟨0, 0⟩, false⟩, .reset]).task.configuration =
        rebuilt.configuration := by
  constructor
  · obtain ⟨rebuilt, again, same⟩ :=
      (edits_as_rebuilt.1 road .none .none _ rfl).configured actions steepRoad rfl
    exact ⟨_, rebuilt, rfl, rfl, again, same⟩
  · obtain ⟨rebuilt, again, same⟩ := (edits_as_rebuilt (P := Position) (K := Float)).2 stored _ rfl
      [.prefer ⟨7, ⟨0, 0⟩, false⟩, .reset]
    exact ⟨_, rebuilt, rfl, again, same⟩

end Milestone

end Sailplane
