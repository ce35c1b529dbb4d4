import Mathlib.Order.Bounds.Basic
import Sailplane.Proofs.Task.Progress

/-!
# Accepted points and how they are wired

Points make a task exactly if they read as an itinerary: a start, any number of turn points and a
finish. Otherwise the refusal counts them, if they are too few, or names the first one that strays
from the itinerary of their number. A task that is made has its points in their order, each turned
along the legs to its neighbours in the list, of which only the first and the last point lack one.
-/
namespace Sailplane

/-- The kinds of the points of a task in order, with so many turn points. -/
def itinerary (turns : Nat) : List PointKind :=
  .start :: (List.replicate turns .turn ++ [.finish])

/-- An itinerary counts a start and a finish more than turn points. -/
@[simp] theorem length_itinerary (turns : Nat) : (itinerary turns).length = turns + 2 := by
  simp [itinerary]

/-- At a position of an itinerary stands the one kind that fits there. -/
theorem getElem?_itinerary_eq_iff {turns position : Nat} (kind : PointKind)
    (inside : position < turns + 2) : (itinerary turns)[position]? = some kind ↔
      OrderedTask.fits kind position (turns + 1) = true := by
  rcases position with _ | position
  · cases kind <;> simp [itinerary, OrderedTask.fits]
  · rw [itinerary, List.getElem?_cons_succ, List.getElem?_append, List.length_replicate]
    by_cases turn : position < turns
    · rw [if_pos turn, List.getElem?_replicate, if_pos turn]
      cases kind <;> simp [OrderedTask.fits] <;> omega
    · obtain rfl : position = turns := by omega
      rw [if_neg turn, Nat.sub_self]
      cases kind <;> simp [OrderedTask.fits]

/-- Whether at a position there is another kind, or none, than in the itinerary of the same
length. -/
def Strays (kinds : List PointKind) (position : Nat) : Prop :=
  kinds[position]? ≠ (itinerary (kinds.length - 2))[position]?

/-- Of at least two points one strays exactly if it does not fit where it stands. -/
theorem strays_iff {kinds : List PointKind} {position : Nat} (enough : 2 ≤ kinds.length) :
    Strays kinds position ↔ ∃ kind, kinds[position]? = some kind ∧
      OrderedTask.fits kind position (kinds.length - 1) = false := by
  obtain ⟨turns, length⟩ := Nat.exists_eq_add_of_le' enough
  rw [Strays, length, Nat.add_sub_cancel, show turns + 2 - 1 = turns + 1 from rfl]
  by_cases inside : position < turns + 2
  · have there := List.getElem?_eq_getElem (length ▸ inside : position < kinds.length)
    rw [there, ne_comm, ne_eq, getElem?_itinerary_eq_iff _ inside, Bool.not_eq_true]
    simp
  · -- beyond the end there is nothing in either list
    have beyond : kinds[position]? = none := List.getElem?_eq_none (by omega)
    have beyond' : (itinerary turns)[position]? = none :=
      List.getElem?_eq_none (by rw [length_itinerary]; omega)
    rw [beyond, beyond']
    simp

/-- Points are of the right shape exactly if their kinds are an itinerary. -/
theorem shaped_iff {kinds : List PointKind} :
    Shaped kinds ↔ ∃ turns, kinds = itinerary turns := by
  have straight (enough : 2 ≤ kinds.length) : (∀ position, ¬Strays kinds position) ↔
      ∀ position kind, kinds[position]? = some kind →
        OrderedTask.fits kind position (kinds.length - 1) = true := by
    simp only [strays_iff enough, not_exists, not_and, Bool.not_eq_false]
  constructor
  · intro shaped
    refine ⟨kinds.length - 2, List.ext_getElem? fun position => ?_⟩
    exact not_not.mp ((straight shaped.two).mpr shaped.fits position)
  · rintro ⟨turns, rfl⟩
    have two : 2 ≤ (itinerary turns).length := by
      rw [length_itinerary]
      omega
    refine ⟨two, (straight two).mp fun position => not_not.mpr ?_⟩
    rw [length_itinerary, Nat.add_sub_cancel]

/-! ## Refusals -/

/-- Why points of some kinds and names make no task: there are fewer than two, or one of them is the
first that strays. -/
inductive Refusal {K : Type} (labels : List (PointKind × String)) : TaskError K → Prop
  /-- There are fewer than two. -/
  | few (few : labels.length < 2) : Refusal labels (.tooFewPoints labels.length)
  /-- There are enough, and the one at a position is the first that strays. -/
  | misplaced (enough : 2 ≤ labels.length) (kind : PointKind) (name : String) (position : Nat)
      (there : labels[position]? = some (kind, name))
      (first : IsLeast {position | Strays (labels.map Prod.fst) position} position) :
      Refusal labels (.misplacedPoint name position)

/-- Whether words say why points of some kinds and names make no task: they tell how many there are,
or the name and the position of the first one that strays. -/
def SaysWhy (labels : List (PointKind × String)) (words : String) : Prop :=
  (labels.length < 2 ∧ words =
    "invalid task shape: a task needs at least a start and a finish, got " ++
      toString labels.length ++ " point(s)") ∨
  2 ≤ labels.length ∧ ∃ kind name position, labels[position]? = some (kind, name) ∧
    IsLeast {position | Strays (labels.map Prod.fst) position} position ∧ words =
      "invalid task shape: unexpected task point '" ++ name ++ "' at position " ++
        toString position

/-- A refusal says why. -/
theorem Refusal.saysWhy {labels : List (PointKind × String)} {error : TaskError Float}
    (refusal : Refusal labels error) : SaysWhy labels error.message := by
  cases refusal with
  | few few => exact .inl ⟨few, rfl⟩
  | misplaced enough kind name position there first =>
    exact .inr ⟨enough, kind, name, position, there, first, rfl⟩

/-- The kind of a point and the name of its waypoint. -/
def TaskPoint.label {P K : Type} [Scalar K] (point : TaskPoint P K) : PointKind × String :=
  (point.kind, point.anchor.waypoint.name)

namespace OrderedTask

variable {P K : Type} [Scalar K] {points : List (TaskPoint P K)}

/-- The point that is reported is the first one that does not fit where it stands. -/
theorem misplaced?_eq_some_iff {point : TaskPoint P K} {position : Nat} :
    misplaced? points = some (point, position) ↔ points[position]? = some point ∧
      fits point.kind position (points.length - 1) = false ∧
        ∀ earlier < position, ∀ other, points[earlier]? = some other →
          fits other.kind earlier (points.length - 1) = true := by
  rw [misplaced?, List.find?_eq_some_iff_getElem]
  simp only [List.getElem_zipIdx, List.length_zipIdx, Nat.zero_add, Prod.mk.injEq, Bool.not_not,
    Bool.not_eq_true']
  constructor
  · rintro ⟨stray, position, inside, ⟨rfl, rfl⟩, before⟩
    refine ⟨List.getElem?_eq_getElem inside, stray, fun earlier less other there => ?_⟩
    obtain ⟨_, rfl⟩ := List.getElem?_eq_some_iff.mp there
    exact before earlier less
  · rintro ⟨there, stray, before⟩
    obtain ⟨inside, found⟩ := List.getElem?_eq_some_iff.mp there
    exact ⟨stray, position, inside, ⟨found, rfl⟩, fun earlier less =>
      before earlier less _ (List.getElem?_eq_getElem (Nat.lt_trans less inside))⟩

/-- Of at least two points the one that is reported is the first one that strays. -/
theorem misplaced?_eq_some_iff_isLeast (enough : 2 ≤ points.length) {point : TaskPoint P K}
    {position : Nat} : misplaced? points = some (point, position) ↔
      points[position]? = some point ∧
        IsLeast {position | Strays (points.map TaskPoint.kind) position} position := by
  have stray (position : Nat) : Strays (points.map TaskPoint.kind) position ↔
      ∃ point, points[position]? = some point ∧
        fits point.kind position (points.length - 1) = false := by
    rw [strays_iff (by rwa [List.length_map]), List.getElem?_map, List.length_map]
    cases points[position]? <;> simp
  rw [misplaced?_eq_some_iff]
  refine and_congr_right fun there => ?_
  -- that all before it fit is that whichever strays does not stand before it
  rw [IsLeast, mem_lowerBounds, Set.mem_ofPred_eq, stray]
  refine and_congr ?_ ⟨fun before other strays => ?_, fun least earlier less other found => ?_⟩
  · exact ⟨fun refused => ⟨point, there, refused⟩, fun ⟨_, found, refused⟩ =>
      Option.some.inj (there.symm.trans found) ▸ refused⟩
  · obtain ⟨found, listed, refused⟩ := (stray other).mp strays
    refine Nat.le_of_not_lt fun less => ?_
    rw [before other less found listed] at refused
    exact nomatch refused
  · refine Bool.eq_true_of_not_eq_false fun refused => ?_
    exact absurd (least earlier ((stray earlier).mpr ⟨other, found, refused⟩)) (by omega)

/-- Fewer than two points are refused for their number. -/
theorem refusal_iff_of_few (few : points.length < 2) {error : TaskError K} :
    Refusal (points.map TaskPoint.label) error ↔ error = .tooFewPoints points.length := by
  constructor
  · rintro (_ | ⟨enough⟩)
    · rw [List.length_map]
    · rw [List.length_map] at enough
      omega
  · rintro rfl
    rw [← List.length_map TaskPoint.label]
    exact .few (by rwa [List.length_map])

/-- At least two points are refused for the one that is reported. -/
theorem refusal_iff_of_enough (enough : 2 ≤ points.length) {error : TaskError K} :
    Refusal (points.map TaskPoint.label) error ↔ ∃ point position,
      misplaced? points = some (point, position) ∧
        error = .misplacedPoint point.anchor.waypoint.name position := by
  have kinds : (points.map TaskPoint.label).map Prod.fst = points.map TaskPoint.kind := by
    rw [List.map_map]
    rfl
  constructor
  · rintro (few | ⟨-, kind, name, position, there, first⟩)
    · rw [List.length_map] at few
      omega
    · rw [List.getElem?_map, Option.map_eq_some_iff] at there
      obtain ⟨point, there, label⟩ := there
      obtain ⟨-, rfl⟩ := Prod.mk.inj label
      rw [kinds] at first
      exact ⟨point, position, (misplaced?_eq_some_iff_isLeast enough).mpr ⟨there, first⟩, rfl⟩
  · rintro ⟨point, position, found, rfl⟩
    obtain ⟨there, first⟩ := (misplaced?_eq_some_iff_isLeast enough).mp found
    refine .misplaced (by rwa [List.length_map]) point.kind _ position ?_ (kinds ▸ first)
    rw [List.getElem?_map, there]
    rfl

/-- Points are refused exactly for the reason that there is. -/
theorem checkShape_eq_error_iff {error : TaskError K} :
    checkShape points = .error error ↔ Refusal (points.map TaskPoint.label) error := by
  rw [checkShape]
  split
  · rename_i few
    rw [refusal_iff_of_few few, Except.error.injEq, eq_comm]
  · rename_i enough
    rw [refusal_iff_of_enough (Nat.le_of_not_lt enough)]
    split
    · rename_i fitting
      simp [fitting]
    · rename_i point position found
      simp [found, eq_comm]

/-! ## Wiring -/

/-- Where the point before a position lies, if something lies before the first one. -/
def placeBefore (previous : Option P) (points : List (TaskPoint P K)) : Nat → Option P
  | 0 => previous
  | position + 1 => points[position]?.map TaskPoint.place

/-- Where the point behind a position lies. -/
def placeBehind (points : List (TaskPoint P K)) (position : Nat) : Option P :=
  points[position + 1]?.map TaskPoint.place

/-- A place is before every position but the first, if nothing lies before the first point. -/
theorem placeBefore_eq_none_iff {position : Nat} (inside : position < points.length) :
    placeBefore none points position = none ↔ position = 0 := by
  rcases position with _ | position
  · exact iff_of_true rfl rfl
  · rw [placeBefore, Option.map_eq_none_iff, List.getElem?_eq_none_iff]
    omega

/-- A place is behind every position but the last. -/
theorem placeBehind_eq_none_iff {position : Nat} (inside : position < points.length) :
    placeBehind points position = none ↔ position + 1 = points.length := by
  rw [placeBehind, Option.map_eq_none_iff, List.getElem?_eq_none_iff]
  omega

end OrderedTask

/-- The legs along which the zone of a point of some kind is turned: a start looks at none before
it, and a finish at none behind it. -/
def PointKind.legs {P : Type} (previous next : Option P) : PointKind → Option P × Option P
  | start => (none, next)
  | turn => (previous, next)
  | finish => (previous, none)

namespace TaskPoint

variable {P K : Type} [Scalar K]

/-- The point under preferences and rules, as far as they concern it. -/
def governed (preferences : Preferences K) (rules : Rules K) (point : TaskPoint P K) :
    TaskPoint P K :=
  (point.setPreferences preferences).setRules rules

/-- Preferences and rules leave a point where it lies, as what it is. -/
theorem layout_governed (preferences : Preferences K) (rules : Rules K) (point : TaskPoint P K) :
    (point.governed preferences rules).layout = point.layout := by
  rw [governed, layout_setRules, layout_setPreferences]

/-- A point under preferences and rules lies where it lay. -/
theorem place_governed (preferences : Preferences K) (rules : Rules K) (point : TaskPoint P K) :
    (point.governed preferences rules).place = point.place :=
  congrArg (·.2.waypoint.place) (layout_governed preferences rules point)

/-- The zone of a point that is turned is turned along its legs. -/
theorem zone_orient [Geodesy P K] (previous next : Option P) (point : TaskPoint P K) :
    (point.orient previous next).anchor.zone =
      point.anchor.zone.orient (point.kind.legs previous next).1
        (point.kind.legs previous next).2 := by
  cases point <;> rfl

end TaskPoint

namespace OrderedTask

variable {P K : Type} [Scalar K] [Geodesy P K] {points : List (TaskPoint P K)}
  {preferences : Preferences K} {rules : Rules K} {task : OrderedTask P K}

/-- Each point is turned along the legs to the points before and behind it. -/
theorem getElem?_wire (previous : Option P) (points : List (TaskPoint P K)) (position : Nat) :
    (wire previous points)[position]? = points[position]?.map fun point =>
      point.orient (placeBefore previous points position) (placeBehind points position) := by
  induction points generalizing previous position with
  | nil => rfl
  | cons point rest ih =>
    cases position with
    | zero =>
      rw [wire, List.getElem?_cons_zero, List.getElem?_cons_zero, List.head?_eq_getElem?]
      rfl
    | succ position =>
      -- the place that is handed on is the one before the next position
      rw [wire, List.getElem?_cons_succ, List.getElem?_cons_succ, ih]
      cases position <;> rfl

omit [Geodesy P K] in
/-- The legs of a point of some kind at a position of a list. -/
def legsAt (points : List (TaskPoint P K)) (position : Nat) (kind : PointKind) :
    Option P × Option P :=
  kind.legs (placeBefore none points position) (placeBehind points position)

/-- What it means that a task has certain points under preferences and rules, wired. -/
structure Wired (points : List (TaskPoint P K)) (preferences : Preferences K) (rules : Rules K)
    (task : OrderedTask P K) : Prop where
  /-- There are as many points. -/
  length_eq : task.points.length = points.length
  /-- Each stands where it stood, turned along the legs to its neighbours in the list. -/
  placed : ∀ (position : Nat) (point : TaskPoint P K), points[position]? = some point →
    task.points[position]? = some ((point.governed preferences rules).orient
      (placeBefore none points position) (placeBehind points position))
  /-- Only the first one has none before it. -/
  first : ∀ position < points.length, placeBefore none points position = none ↔ position = 0
  /-- Only the last one has none behind it. -/
  last : ∀ position < points.length,
    placeBehind points position = none ↔ position + 1 = points.length
  /-- A start is not given a point before it, nor a finish one behind it. -/
  meant : ∀ (position : Nat) (point : TaskPoint P K), points[position]? = some point →
    (point.kind = .start → placeBefore none points position = none) ∧
      (point.kind = .finish → placeBehind points position = none)
  /-- No zone is turned without a leg. -/
  turned : ∀ (position : Nat) (point : TaskPoint P K), points[position]? = some point →
    legsAt points position point.kind ≠ (none, none) ∧
      ∀ wired : TaskPoint P K, task.points[position]? = some wired →
        wired.anchor.zone = point.anchor.zone.orient (legsAt points position point.kind).1
          (legsAt points position point.kind).2

omit [Geodesy P K] in
/-- Of points in the right order the first one alone is a start and the last one alone a finish. -/
theorem ends_of_shaped (shaped : Shaped (points.map TaskPoint.kind)) {position : Nat}
    {point : TaskPoint P K} (there : points[position]? = some point) :
    (point.kind = .start ↔ position = 0) ∧
      (point.kind = .finish ↔ position + 1 = points.length) := by
  have kind : (points.map TaskPoint.kind)[position]? = some point.kind := by
    rw [List.getElem?_map, there]
    rfl
  have fits := shaped.fits position _ kind
  have two := shaped.two
  have inside := (List.getElem?_eq_some_iff.mp there).1
  rw [List.length_map] at fits two
  cases of : point.kind <;>
    simp only [of, OrderedTask.fits, Bool.and_eq_true, bne_iff_ne, ne_eq, beq_iff_eq] at fits <;>
    simp <;> omega

omit [Geodesy P K] in
/-- To put points under preferences and rules leaves where they lie. -/
theorem map_place_governed (points : List (TaskPoint P K)) (position : Nat) :
    (points.map (TaskPoint.governed preferences rules))[position]?.map TaskPoint.place =
      points[position]?.map TaskPoint.place := by
  rw [List.getElem?_map, Option.map_map]
  exact Option.map_congr fun point _ => TaskPoint.place_governed preferences rules point

/-- Each point of a task that is made stands where it stood, turned along the legs to its
neighbours. -/
theorem getElem?_of_new (made : new points preferences rules = .ok task) {position : Nat}
    {point : TaskPoint P K} (there : points[position]? = some point) :
    task.points[position]? = some ((point.governed preferences rules).orient
      (placeBefore none points position) (placeBehind points position)) := by
  obtain ⟨-, rfl⟩ := new_eq_ok_iff.mp made
  have before : placeBefore none (points.map (TaskPoint.governed preferences rules)) position =
      placeBefore none points position := by
    cases position with
    | zero => rfl
    | succ position => exact map_place_governed points position
  change (wire none (points.map (TaskPoint.governed preferences rules)))[position]? = _
  rw [getElem?_wire, List.getElem?_map, there, before, placeBehind, map_place_governed]
  rfl

/-- A task that is made has as many points as it was made of. -/
theorem length_of_new (made : new points preferences rules = .ok task) :
    task.points.length = points.length := by
  have kinds := congrArg List.length (map_kind_wire none
    (points.map (TaskPoint.governed preferences rules)))
  rw [List.length_map, List.length_map, List.length_map] at kinds
  rw [(new_eq_ok_iff.mp made).2]
  exact kinds

omit [Geodesy P K] in
/-- Of points in the right order each has a leg: the start has one behind it, the finish one before
it, and a turn point both. -/
theorem legsAt_ne_none (shaped : Shaped (points.map TaskPoint.kind)) {position : Nat}
    {point : TaskPoint P K} (there : points[position]? = some point) :
    legsAt points position point.kind ≠ (none, none) := by
  intro alone
  have inside := (List.getElem?_eq_some_iff.mp there).1
  have before := placeBefore_eq_none_iff inside
  have behind := placeBehind_eq_none_iff inside
  obtain ⟨start, finish⟩ := ends_of_shaped shaped there
  have two := shaped.two
  rw [List.length_map] at two
  cases point with
  | start =>
    have first := start.mp rfl
    have last := behind.mp (congrArg Prod.snd alone)
    omega
  | turn => exact nomatch start.mpr (before.mp (congrArg Prod.fst alone))
  | finish =>
    have first := before.mp (congrArg Prod.fst alone)
    have last := finish.mp rfl
    omega

/-- The zone of each point of a task that is made is turned along the legs of the point. -/
theorem zone_of_new (made : new points preferences rules = .ok task) {position : Nat}
    {point wired : TaskPoint P K} (there : points[position]? = some point)
    (found : task.points[position]? = some wired) : wired.anchor.zone = point.anchor.zone.orient
      (legsAt points position point.kind).1 (legsAt points position point.kind).2 := by
  obtain rfl := Option.some.inj ((getElem?_of_new made there).symm.trans found)
  rw [TaskPoint.zone_orient]
  cases point <;> rfl

/-- The points of a task that is made are wired. -/
theorem wired_of_new (made : new points preferences rules = .ok task) :
    Wired points preferences rules task where
  length_eq := length_of_new made
  placed _ _ := getElem?_of_new made
  first _ := placeBefore_eq_none_iff
  last _ := placeBehind_eq_none_iff
  meant position point there := by
    have inside := (List.getElem?_eq_some_iff.mp there).1
    have ends := ends_of_shaped (new_eq_ok_iff.mp made).1 there
    rw [placeBefore_eq_none_iff inside, placeBehind_eq_none_iff inside]
    exact ⟨ends.1.mp, ends.2.mp⟩
  turned _ _ there :=
    ⟨legsAt_ne_none (new_eq_ok_iff.mp made).1 there, fun _ found => zone_of_new made there found⟩

/-! ## Acceptance -/

/-- What it means that points of some kinds and names make a task exactly if they read as an
itinerary. -/
structure MakesExactly (labels : List (PointKind × String))
    (made : Except (TaskError K) (OrderedTask P K)) : Prop where
  /-- A task is made exactly if the kinds are those of an itinerary. -/
  accepts : (∃ task, made = .ok task) ↔ ∃ turns, labels.map Prod.fst = itinerary turns
  /-- Otherwise it is refused for the reason that there is. -/
  refuses : ∀ error, made = .error error ↔ Refusal labels error

/-- Points make a task exactly if they read as an itinerary. -/
theorem makesExactly_new (points : List (TaskPoint P K)) (preferences : Preferences K)
    (rules : Rules K) :
    MakesExactly (points.map TaskPoint.label) (new points preferences rules) := by
  refine ⟨?_, fun error => ?_⟩
  · rw [List.map_map, ← shaped_iff]
    refine ⟨fun ⟨task, made⟩ => (new_eq_ok_iff.mp made).1, fun shaped => ?_⟩
    exact ⟨_, new_eq_ok_iff.mpr ⟨shaped, rfl⟩⟩
  · rw [← checkShape_eq_error_iff, new]
    cases checkShape points with
    | error other =>
      exact ⟨fun made => congrArg Except.error (Except.error.inj made),
        fun refused => congrArg Except.error (Except.error.inj refused)⟩
    | ok =>
      constructor
      · intro made
        cases made
      · intro refused
        cases refused

end OrderedTask

namespace Config

/-- The kind of a stored point and the name of its waypoint. -/
def PlannedPoint.label (point : PlannedPoint) : PointKind × String :=
  (point.kind, point.waypoint.name)

/-- A point that is built is labelled as it is stored. -/
theorem PlannedPoint.label_build (point : PlannedPoint) (preferences : Preferences Float)
    (rules : Rules Float) : (point.build preferences rules).label = point.label := by
  rw [build, label]
  cases point.kind <;> rfl

/-- The points of a task file under its preferences and rules. -/
def TaskFile.built (file : TaskFile) : List (TaskPoint Position Float) :=
  file.points.map fun point => point.build file.preferences file.rules

/-- The points of a task file are labelled as they are stored. -/
theorem TaskFile.map_label_built (file : TaskFile) :
    file.built.map TaskPoint.label = file.points.map PlannedPoint.label := by
  rw [built, List.map_map]
  exact List.map_congr_left fun point _ => point.label_build file.preferences file.rules

end Config

namespace OrderedTask

variable {P K : Type} [Scalar K] [Geodesy P K]

/-- Of points and of stored points a task is made exactly if they read as an itinerary, with a
refusal that says why not, and the points of the task are then wired. -/
theorem makes_itineraries :
    (∀ (points : List (TaskPoint P K)) (preferences : Preferences K) (rules : Rules K),
      MakesExactly (points.map TaskPoint.label) (new points preferences rules) ∧
        ∀ task, new points preferences rules = .ok task → Wired points preferences rules task) ∧
    ∀ file : Config.TaskFile,
      MakesExactly (file.points.map Config.PlannedPoint.label) file.build ∧
        (∀ error, file.build = .error error →
          SaysWhy (file.points.map Config.PlannedPoint.label) error.message) ∧
        ∀ task, file.build = .ok task → Wired file.built file.preferences file.rules task := by
  constructor
  · intro points preferences rules
    exact ⟨makesExactly_new points preferences rules, fun task made => wired_of_new made⟩
  · intro file
    have exactly := makesExactly_new file.built file.preferences file.rules
    rw [file.map_label_built] at exactly
    exact ⟨exactly, fun error refused => ((exactly.refuses error).mp refused).saysWhy,
      fun task made => wired_of_new made⟩

end OrderedTask

namespace Milestone

/-- A road that is flown on beyond a mill and then back past it. -/
def backRoad : List (TaskPoint Milestone Rat) :=
  [.start (.new (.cylinder 1) (waypoint "Home" 0) .none .none),
    .turn (.new (.cylinder 1) (waypoint "Mill" 10)),
    .turn (.new (.line 1) (waypoint "Ford" 15)),
    .finish (.new (.cylinder 1) (waypoint "Goal" 5) .none)]

open OrderedTask in
/-- The points of a road that turns back and those of a stored task are wired to tasks: each zone
faces away from where the legs of its point come together, and across them where they go straight
on. If the stored points are turned round, the refusal says why. -/
theorem makes_itineraries_road :
    (∃ task, new backRoad .none .none = .ok task ∧ Wired backRoad .none .none task ∧
      task.points.map (·.anchor.zone.direction) = [180, 90, 0, 180]) ∧
    (∃ task, stored.build = .ok task ∧
      Wired stored.built stored.preferences stored.rules task) ∧
    ∃ error, Config.TaskFile.build { stored with points := stored.points.reverse } =
      .error error ∧ SaysWhy [(.finish, "Goal"), (.start, "Home")] error.message := by
  have law := makes_itineraries (P := Milestone) (K := Rat)
  refine ⟨⟨_, rfl, (law.1 backRoad .none .none).2 _ rfl, by decide +kernel⟩,
    ⟨_, rfl, (law.2 stored).2.2 _ rfl⟩, _, rfl, ?_⟩
  exact (law.2 { stored with points := stored.points.reverse }).2.1 _ rfl

end Milestone

end Sailplane
