import Sailplane.Proofs.Task.Progress

/-!
# The earliest matching of a task and a track

A track is a list of samples; the pair at a position is the sample there and the one behind it. The
start is matched with the first pair by which it is left, and every further point with the first
pair behind that of the point before it by which it is entered. A task that is flown point by point
makes its events at these pairs.
-/
namespace Sailplane

variable {P K : Type} [Scalar K] [Geodesy P K]

namespace TaskPoint

/-- Whether a pair of samples is what a point waits for: a start is left, or another point is
entered. -/
def admits (now last : Sample P K) : TaskPoint P K → Bool
  | start point => point.isExit now last
  | turn anchor => anchor.isEntered now last
  | finish point => point.isEntered now last

omit [Geodesy P K] in
/-- The point as if its start had not been made. -/
def unmade : TaskPoint P K → TaskPoint P K
  | start point => start { point with state := .notStarted }
  | turn anchor => turn anchor
  | finish point => finish point

omit [Geodesy P K] in
/-- The event that is made when the point at an index is passed. -/
def event (index : Nat) (now : Sample P K) : TaskPoint P K → TaskEvent K
  | start _ => .started now.time
  | turn _ => .turnPoint index
  | finish _ => .finished now.time

/-- What a point waits for does not depend on whether it was passed. -/
@[simp] theorem admits_unmade (now last : Sample P K) (point : TaskPoint P K) :
    point.unmade.admits now last = point.admits now last := by
  cases point <;> rfl

omit [Geodesy P K] in
/-- Which event a point makes does not depend on whether it was passed. -/
@[simp] theorem event_unmade (index : Nat) (now : Sample P K) (point : TaskPoint P K) :
    point.unmade.event index now = point.event index now := by
  cases point <;> rfl

omit [Geodesy P K] in
/-- A point as if its start had not been made has the same waypoint and zone. -/
@[simp] theorem anchor_unmade (point : TaskPoint P K) : point.unmade.anchor = point.anchor := by
  cases point <;> rfl

omit [Geodesy P K] in
/-- A point as if its start had not been made is of the same kind. -/
@[simp] theorem kind_unmade (point : TaskPoint P K) : point.unmade.kind = point.kind := by
  cases point <;> rfl

end TaskPoint

namespace OrderedTask

variable {task origin : OrderedTask P K} {track : List (Sample P K)} {index position start : Nat}

/-- Whether the point at an index waits for the pair at a position of a track. -/
def admits (task : OrderedTask P K) (track : List (Sample P K)) (index position : Nat) : Bool :=
  match task.points[index]?, track[position]?, track[position + 1]? with
  | some point, some last, some now => point.admits now last
  | _, _, _ => false

/-- The first pair from a position on for which the point at an index waits. -/
def firstFrom? (task : OrderedTask P K) (track : List (Sample P K)) (index start : Nat) :
    Option Nat :=
  (List.range' start (track.length - start)).find? (task.admits track index)

/-- The pair with which each point is matched: the first one for the start, and for every further
point the first one behind that of the point before it. -/
def earliest? (task : OrderedTask P K) (track : List (Sample P K)) : Nat → Option Nat
  | 0 => task.firstFrom? track 0 0
  | index + 1 => (task.earliest? track index).bind fun before =>
    task.firstFrom? track (index + 1) (before + 1)

/-- The points that are matched, with the positions of their pairs. -/
def matching (task : OrderedTask P K) (track : List (Sample P K)) : List (Nat × Nat) :=
  (List.range task.points.length).filterMap fun index =>
    (task.earliest? track index).map (index, ·)

/-! ## The first pair -/

/-- Behind the last sample there is no pair. -/
theorem admits_of_length_le (short : track.length ≤ position + 1) :
    task.admits track index position = false := by
  rw [admits, List.getElem?_eq_none short]
  split
  · contradiction
  · rfl

/-- The first pair is a pair for which the point waits, and it waits for none before. -/
theorem firstFrom?_eq_some_iff : task.firstFrom? track index start = some position ↔
    start ≤ position ∧ task.admits track index position = true ∧
      ∀ earlier, start ≤ earlier → earlier < position →
        task.admits track index earlier = false := by
  rw [firstFrom?, List.find?_range'_eq_some]
  simp only [List.mem_range'_1, Bool.not_eq_eq_eq_not, Bool.not_true]
  constructor
  · rintro ⟨admitted, ⟨from_start, -⟩, first⟩
    exact ⟨from_start, admitted, first⟩
  · rintro ⟨from_start, admitted, first⟩
    have inside : position < track.length := by
      rcases Nat.lt_or_ge position track.length with inside | beyond
      · exact inside
      · rw [admits_of_length_le (by omega)] at admitted
        exact nomatch admitted
    exact ⟨admitted, ⟨from_start, by omega⟩, first⟩

/-- There is no first pair exactly if the point waits for none. -/
theorem firstFrom?_eq_none_iff : task.firstFrom? track index start = none ↔
    ∀ position, start ≤ position → task.admits track index position = false := by
  rw [firstFrom?, List.find?_eq_none]
  simp only [List.mem_range'_1, Bool.not_eq_true, and_imp]
  constructor
  · intro none position from_start
    by_cases inside : position < track.length
    · exact none position from_start (by omega)
    · exact admits_of_length_le (by omega)
  · intro none position from_start _
    exact none position from_start

/-- A pair for which the point waits is the first one from there on. -/
theorem firstFrom?_of_admits (admitted : task.admits track index start = true) :
    task.firstFrom? track index start = some start :=
  firstFrom?_eq_some_iff.mpr
    ⟨Nat.le_refl start, admitted, fun earlier least most => absurd least (by omega)⟩

/-- A pair for which the point does not wait can be passed over. -/
theorem firstFrom?_of_refuses (refused : task.admits track index start = false) :
    task.firstFrom? track index start = task.firstFrom? track index (start + 1) := by
  cases found : task.firstFrom? track index (start + 1) with
  | none =>
    rw [firstFrom?_eq_none_iff] at found ⊢
    intro position least
    rcases Nat.eq_or_lt_of_le least with rfl | later
    · exact refused
    · exact found position later
  | some position =>
    rw [firstFrom?_eq_some_iff] at found ⊢
    obtain ⟨least, admitted, first⟩ := found
    refine ⟨by omega, admitted, fun earlier from_start before => ?_⟩
    rcases Nat.eq_or_lt_of_le from_start with rfl | later
    · exact refused
    · exact first earlier later before

/-! ## Point by point -/

/-- The points from an index on that are matched with pairs from a position on, at most a number of
them. -/
def matchFrom (task : OrderedTask P K) (track : List (Sample P K)) :
    (left index start : Nat) → List (Nat × Nat)
  | 0, _, _ => []
  | left + 1, index, start =>
    match task.firstFrom? track index start with
    | some position => (index, position) :: task.matchFrom track left (index + 1) (position + 1)
    | none => []

/-- If a point is not matched then no point behind it is. -/
theorem earliest?_eq_none_of_le {later : Nat} (unmatched : task.earliest? track index = none)
    (behind : index ≤ later) : task.earliest? track later = none := by
  induction behind with
  | refl => exact unmatched
  | step _ ih => rw [earliest?, ih, Option.bind_none]

/-- To match point by point finds the pair of each point. -/
theorem matchFrom_eq {left : Nat}
    (from_start : task.earliest? track index = task.firstFrom? track index start) :
    task.matchFrom track left index start = (List.range' index left).filterMap fun index =>
      (task.earliest? track index).map (index, ·) := by
  induction left generalizing index start with
  | zero => rfl
  | succ left ih =>
    rw [List.range'_succ, matchFrom]
    cases found : task.firstFrom? track index start with
    | none =>
      have unmatched : task.earliest? track index = none := from_start.trans found
      symm
      rw [List.filterMap_eq_nil_iff]
      intro later listed
      have behind : index ≤ later := by
        rcases List.mem_cons.mp listed with rfl | further
        · exact Nat.le_refl _
        · exact Nat.le_of_succ_le (List.mem_range'_1.mp further).1
      rw [earliest?_eq_none_of_le unmatched behind, Option.map_none]
    | some position =>
      have matched : task.earliest? track index = some position := from_start.trans found
      have next : task.earliest? track (index + 1) =
          task.firstFrom? track (index + 1) (position + 1) := by
        rw [earliest?, matched, Option.bind_some]
      simp only [List.filterMap_cons, matched, Option.map_some, ih next]

/-- The matching of all points, point by point. -/
theorem matching_eq (task : OrderedTask P K) (track : List (Sample P K)) :
    task.matching track = task.matchFrom track task.points.length 0 0 := by
  rw [matching, List.range_eq_range', matchFrom_eq rfl]

/-- The pairs from a position on are met one after the other. -/
theorem matchFrom_positions {left : Nat} :
    (∀ entry ∈ task.matchFrom track left index start, start ≤ entry.2) ∧
      ((task.matchFrom track left index start).map Prod.snd).Pairwise (· < ·) := by
  induction left generalizing index start with
  | zero => exact ⟨fun entry listed => (nomatch listed), .nil⟩
  | succ left ih =>
    rw [matchFrom]
    split
    · rename_i position found
      obtain ⟨least, -, -⟩ := firstFrom?_eq_some_iff.mp found
      obtain ⟨behind, ordered⟩ := @ih (index + 1) (position + 1)
      refine ⟨fun entry listed => ?_, ?_⟩
      · rcases List.mem_cons.mp listed with rfl | further
        · exact least
        · exact Nat.le_trans (by omega) (behind entry further)
      · rw [List.map_cons, List.pairwise_cons]
        refine ⟨fun later listed => ?_, ordered⟩
        obtain ⟨entry, further, rfl⟩ := List.mem_map.mp listed
        exact behind entry further
    · exact ⟨fun entry listed => (nomatch listed), .nil⟩

/-- No pair is matched twice, and later points are matched with later pairs. -/
theorem matching_ordered (task : OrderedTask P K) (track : List (Sample P K)) :
    ((task.matching track).map Prod.snd).Pairwise (· < ·) := by
  rw [matching_eq]
  exact matchFrom_positions.2

/-! ## Flown -/

/-- What it means that a task has come so far that a number of its points were passed. -/
structure AtStage (origin task : OrderedTask P K) (stage : Nat) : Prop where
  /-- Apart from the start the points are as they were at first. -/
  unmade : task.points.map TaskPoint.unmade = origin.points.map TaskPoint.unmade
  /-- No more points were passed than there are. -/
  le : stage ≤ origin.points.length
  /-- The start was made if any point was passed. -/
  started_iff : task.isStarted = true ↔ 1 ≤ stage
  /-- The finish was made if all points were passed. -/
  finished_iff : task.finished = true ↔ stage = origin.points.length
  /-- Unless all points were passed the one behind them comes next. -/
  active : stage < origin.points.length → task.active = stage

namespace AtStage

variable {stage : Nat}

omit [Geodesy P K] in
/-- The points of a task at a stage are those that there were at first, apart from the start. -/
theorem point (atStage : AtStage origin task stage) {point : TaskPoint P K}
    (there : task.points[index]? = some point) :
    ∃ first, origin.points[index]? = some first ∧ point.unmade = first.unmade := by
  have same := congrArg (fun points => points[index]?) atStage.unmade
  simp only [List.getElem?_map, there, Option.map_some] at same
  obtain ⟨first, found, equal⟩ := Option.map_eq_some_iff.mp same.symm
  exact ⟨first, found, equal.symm⟩

omit [Geodesy P K] in
/-- There are as many points as at first. -/
theorem length_eq (atStage : AtStage origin task stage) :
    task.points.length = origin.points.length := by
  simpa using congrArg List.length atStage.unmade

omit [Geodesy P K] in
/-- A new task is at the stage at which no point was passed. -/
theorem new (new : origin.IsNew) : AtStage origin origin 0 := by
  obtain ⟨start, first⟩ := exists_start new.shaped
  have two := new.shaped.two
  rw [kinds, List.length_map] at two
  refine ⟨rfl, Nat.zero_le _, ?_, ?_, fun _ => new.active⟩
  · rw [isStarted, first, Option.any_some, StartPoint.isStarted, new.unstarted start first]
    simp
  · rw [new.unfinished]
    exact ⟨fun finished => absurd finished Bool.false_ne_true, fun none => absurd none (by omega)⟩

omit [Geodesy P K] in
/-- When the point that comes next is passed a task comes to the next stage. -/
theorem passed {next : OrderedTask P K} (atStage : AtStage origin task stage)
    (unmade : next.points.map TaskPoint.unmade = task.points.map TaskPoint.unmade)
    (started : next.isStarted = true) (inside : stage < origin.points.length)
    (finished : next.finished = true ↔ stage + 1 = origin.points.length)
    (active : stage + 1 < origin.points.length → next.active = stage + 1) :
    AtStage origin next (stage + 1) :=
  ⟨unmade.trans atStage.unmade, inside, ⟨fun _ => by omega, fun _ => started⟩, finished, active⟩

omit [Geodesy P K] in
/-- A point is of the kind of which it was at first. -/
theorem kind_eq (atStage : AtStage origin task stage) {point : TaskPoint P K}
    (there : task.points[index]? = some point) : origin.kinds[index]? = some point.kind := by
  obtain ⟨first, found, same⟩ := atStage.point there
  rw [kinds, List.getElem?_map, found, Option.map_some, ← TaskPoint.kind_unmade first, ← same,
    TaskPoint.kind_unmade]

omit [Geodesy P K] in
/-- While the finish was not made the point behind the stage comes next. -/
theorem active_of_unfinished (atStage : AtStage origin task stage)
    (unfinished : task.finished = false) : task.active = stage ∧ stage < origin.points.length := by
  have inside : stage < origin.points.length := by
    refine Nat.lt_of_le_of_ne atStage.le fun all => ?_
    exact nomatch unfinished.symm.trans (atStage.finished_iff.mpr all)
  exact ⟨atStage.active inside, inside⟩

/-- The task waits at first for a pair of the track exactly if the point that comes next is passed
by it. -/
theorem admits_eq (shaped : Shaped origin.kinds) (atStage : AtStage origin task stage)
    {last now : Sample P K} {point : TaskPoint P K} (there : task.points[stage]? = some point)
    (before : track[position]? = some last) (behind : track[position + 1]? = some now) :
    origin.admits track stage position = point.isPassed now last := by
  obtain ⟨first, found, same⟩ := atStage.point there
  have waits : origin.admits track stage position = point.admits now last := by
    simp only [admits, found, before, behind]
    rw [← TaskPoint.admits_unmade, ← same, TaskPoint.admits_unmade]
  rw [waits]
  cases point with
  | start start =>
    -- The start is the point behind the stage only as long as it was not made.
    obtain rfl := shaped.eq_zero_of_start (atStage.kind_eq there)
    have unmade : start.isStarted = false := by
      have started : task.isStarted = start.isStarted := by
        rw [isStarted, start?_eq_some_iff.mpr there, Option.any_some]
      rw [← started]
      exact Bool.eq_false_iff.mpr fun made => absurd (atStage.started_iff.mp made) (by decide)
    rw [TaskPoint.admits, TaskPoint.isPassed, unmade, Bool.not_false, Bool.true_and]
  | turn anchor => rfl
  | finish finish => rfl

omit [Geodesy P K] in
/-- The event of the point that comes next is that of the point behind the stage at first. -/
theorem event_eq (atStage : AtStage origin task stage) (now : Sample P K) {point : TaskPoint P K}
    (there : task.points[stage]? = some point) :
    ∃ first, origin.points[stage]? = some first ∧
      some (point.event stage now) = some (first.event stage now) := by
  obtain ⟨first, found, same⟩ := atStage.point there
  exact ⟨first, found, by rw [← TaskPoint.event_unmade, same, TaskPoint.event_unmade]⟩

/-- A pair for which the point behind the stage waits makes the event of that point, and the task
comes to the next stage. Any other pair does nothing. -/
theorem advance (shaped : Shaped origin.kinds) (atStage : AtStage origin task stage)
    {last now : Sample P K} {happened : Option (TaskEvent K)} {after : OrderedTask P K}
    (before : track[position]? = some last) (behind : track[position + 1]? = some now)
    (advance : Advance task now last happened after) :
    if origin.admits track stage position = true then
      (∃ point, origin.points[stage]? = some point ∧ happened = some (point.event stage now)) ∧
        AtStage origin after (stage + 1)
    else happened = none ∧ after = task := by
  have length : origin.kinds.length = origin.points.length := List.length_map _
  cases advance with
  | rest refused =>
    have refuses : origin.admits track stage position = false := by
      cases there : task.points[stage]? with
      | none =>
        have absent : origin.points[stage]? = none := by
          rw [List.getElem?_eq_none_iff, ← atStage.length_eq]
          exact List.getElem?_eq_none_iff.mp there
        simp only [admits, absent]
      | some point =>
        rw [atStage.admits_eq shaped there before behind]
        rcases refused with finished | refuses
        · have all := atStage.finished_iff.mp finished
          rw [← atStage.length_eq] at all
          exact absurd (List.getElem?_eq_some_iff.mp there).1 (by omega)
        · cases finished : task.finished with
          | true =>
            have all := atStage.finished_iff.mp finished
            rw [← atStage.length_eq] at all
            exact absurd (List.getElem?_eq_some_iff.mp there).1 (by omega)
          | false =>
            rw [← (atStage.active_of_unfinished finished).1] at there
            exact refuses point there
    rw [if_neg (ne_true_of_eq_false refuses)]
    exact ⟨rfl, rfl⟩
  | @start start unfinished there passed =>
    obtain ⟨active, inside⟩ := atStage.active_of_unfinished unfinished
    rw [active] at there ⊢
    obtain rfl := shaped.eq_zero_of_start (atStage.kind_eq there)
    have two := shaped.two
    rw [if_pos ((atStage.admits_eq shaped there before behind).trans passed)]
    refine ⟨atStage.event_eq now there, atStage.passed ?_ ?_ inside ?_ fun _ => rfl⟩
    · exact map_set_eq there rfl
    · rw [isStarted_eq, startTime?_set start now.time 1 task.finished (by
        rw [atStage.length_eq]
        exact inside)]
      rfl
    · rw [unfinished]
      exact ⟨fun finished => absurd finished Bool.false_ne_true, fun all => absurd all (by omega)⟩
  | @turn anchor unfinished there passed =>
    obtain ⟨active, inside⟩ := atStage.active_of_unfinished unfinished
    rw [active] at there ⊢
    obtain ⟨made, further⟩ := shaped.between_of_turn (atStage.kind_eq there)
    rw [if_pos ((atStage.admits_eq shaped there before behind).trans passed)]
    refine ⟨atStage.event_eq now there,
      atStage.passed rfl (atStage.started_iff.mpr made) inside ?_ fun _ => rfl⟩
    rw [unfinished]
    exact ⟨fun finished => absurd finished Bool.false_ne_true, fun all => absurd all (by omega)⟩
  | @finish finish unfinished there passed =>
    obtain ⟨active, inside⟩ := atStage.active_of_unfinished unfinished
    rw [active] at there
    have last := shaped.eq_last_of_finish (atStage.kind_eq there)
    have two := shaped.two
    rw [if_pos ((atStage.admits_eq shaped there before behind).trans passed)]
    refine ⟨atStage.event_eq now there,
      atStage.passed rfl (atStage.started_iff.mpr (by omega)) inside ?_ fun further => ?_⟩
    · exact ⟨fun _ => by omega, fun _ => rfl⟩
    · exact absurd further (by omega)

end AtStage

end OrderedTask

end Sailplane
