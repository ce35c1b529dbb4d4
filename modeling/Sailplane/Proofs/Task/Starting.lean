import Sailplane.Proofs.Numeric.Order
import Sailplane.Task.Point

/-!
# What is a start

A pair of samples is a start if the gate lets it pass and it leaves the start zone, which ends at
the start height. Out of an area one goes sideways below that height, or through the top where the
pilot wants such starts; a line is only left below the height, between two samples that are both
near its center. This holds whatever the samples and the limits are, numbers or not. The time that
is recorded lies within the bounds that are set.
-/
namespace Sailplane

/-! ## Zones -/

/-- An area has a top. -/
theorem Zone.hasTop_of_area {P K : Type} {zone : Zone P K} (area : zone.isLine = false) :
    zone.hasTop = true := by
  change (!zone.isLine) = true
  rw [area]
  rfl

section

variable {P K : Type} [Scalar K] [Geodesy P K]

/-- Every crossing of an area counts. -/
theorem Zone.admitsCrossing_of_area {zone : Zone P K} (area : zone.isLine = false) (now last : P) :
    zone.admitsCrossing now last = true := by
  obtain ⟨shape, center, direction⟩ := zone
  cases shape with
  | line length => exact Bool.noConfusion area
  | _ => rfl

/-- A crossing of a line counts when both places are within half its length of the center. -/
theorem Zone.admitsCrossing_of_line {zone : Zone P K} {length : K}
    (line : zone.shape = .line length) (now last : P) : zone.admitsCrossing now last = true ↔
      Geodesy.distance zone.center now ≤ length / 2 ∧
        Geodesy.distance zone.center last ≤ length / 2 := by
  simp only [Zone.admitsCrossing, line, Bool.and_eq_true, decide_eq_true_iff]

end

namespace StartPoint

section

variable {P K : Type} [Scalar K] {start : StartPoint P K} {now last : Sample P K}

/-! ## The gate -/

/-- Whether the gate lets a pair of samples pass. -/
structure LetsPass (start : StartPoint P K) (now last : Sample P K) : Prop where
  /-- The start has opened at the sample inside. -/
  begun : start.rules.openSpan.hasBegun last.time = true
  /-- It is not over at the sample outside. -/
  unended : start.rules.openSpan.hasEnded now.time = false
  /-- No pilot event closes it there. -/
  event : start.rules.admitsPilotEvent now.time = true
  /-- The limits and the margins admit the speed outside. -/
  speed : start.rules.admitsSpeed (some start.preferences.margins) now.groundSpeed = true
  /-- They admit the speed inside. -/
  speedBefore : start.rules.admitsSpeed (some start.preferences.margins) last.groundSpeed = true

/-- The gate is open and both speeds are admitted. -/
theorem letsPass_iff : start.LetsPass now last ↔
    (start.isOpen now last && start.admitsSpeed now && start.admitsSpeed last) = true := by
  simp only [isOpen, admitsSpeed, Bool.and_eq_true, Bool.not_eq_true']
  constructor
  · rintro ⟨begun, unended, event, speed, speedBefore⟩
    exact ⟨⟨⟨⟨begun, unended⟩, event⟩, speed⟩, speedBefore⟩
  · rintro ⟨⟨⟨⟨begun, unended⟩, event⟩, speed⟩, speedBefore⟩
    exact ⟨begun, unended, event, speed, speedBefore⟩

/-! ## Ways out -/

variable [Geodesy P K]

/-- A start passes the gate, and then leaves the zone sideways or through its top. -/
theorem isExit_iff : start.isExit now last = true ↔ start.LetsPass now last ∧
    ((start.admitsHeight now = true ∧ start.admitsHeight last = true ∧
        start.anchor.isLeft now last = true) ∨
      start.isLeftThroughTop now last = true) := by
  rw [letsPass_iff, isExit, Bool.and_eq_true]
  refine and_congr_right fun _ => ?_
  cases high : start.admitsHeight now with
  | false => simp
  | true =>
    cases highBefore : start.admitsHeight last with
    | false => simp
    | true => simp [isLeftThroughTop, high]

/-- Out of an area one goes from inside, sideways below the start height or through the top. -/
theorem isExit_iff_of_area (area : start.anchor.zone.isLine = false) :
    start.isExit now last = true ↔ start.LetsPass now last ∧ start.contains last = true ∧
      ((start.anchor.contains now = false ∧ start.admitsHeight now = true) ∨
        (start.preferences.startThroughTop = true ∧ start.admitsHeight now = false)) := by
  rw [isExit_iff]
  refine and_congr_right fun _ => ?_
  have crossing := Zone.admitsCrossing_of_area area now.place last.place
  simp only [Anchor.isLeft, Zone.isLeft, isLeftThroughTop, crossing, area,
    Zone.hasTop_of_area area, contains, Anchor.contains]
  cases start.admitsHeight now <;> cases start.admitsHeight last <;>
    cases start.anchor.zone.contains last.place <;> simp

/-- A line is left below the start height only, near its center. -/
theorem isExit_iff_of_line {length : K} (line : start.anchor.zone.shape = .line length) :
    start.isExit now last = true ↔ start.LetsPass now last ∧
      start.admitsHeight now = true ∧ start.admitsHeight last = true ∧
      Geodesy.distance start.anchor.zone.center now.place ≤ length / 2 ∧
      Geodesy.distance start.anchor.zone.center last.place ≤ length / 2 ∧
      start.anchor.contains last = true ∧ start.anchor.contains now = false := by
  have isLine : start.anchor.zone.isLine = true := by
    rw [Zone.isLine, line]
    rfl
  have flat : start.isLeftThroughTop now last = false := by
    simp only [isLeftThroughTop, isLine, Bool.not_true, Bool.false_and]
  rw [isExit_iff, flat]
  refine and_congr_right fun _ => ?_
  simp only [Anchor.isLeft, Zone.isLeft, Bool.and_eq_true, Bool.not_eq_true',
    Zone.admitsCrossing_of_line line, Anchor.contains, Bool.false_eq_true, or_false]
  tauto

/-- A start leaves the zone below the start height. -/
theorem leaves_of_isExit (exit : start.isExit now last = true) :
    start.contains last = true ∧ start.contains now = false := by
  cases shape : start.anchor.zone.isLine with
  | false =>
    obtain ⟨-, inside, ⟨outside, -⟩ | ⟨-, above⟩⟩ := (isExit_iff_of_area shape).mp exit
    · exact ⟨inside, by rw [contains, outside, Bool.false_and]⟩
    · exact ⟨inside, by rw [contains, above, Bool.and_false]⟩
  | true =>
    cases line : start.anchor.zone.shape with
    | line length =>
      obtain ⟨-, -, height, -, -, inside, outside⟩ := (isExit_iff_of_line line).mp exit
      exact ⟨by rw [contains, inside, height]; rfl, by rw [contains, outside, Bool.false_and]⟩
    | _ =>
      rw [Zone.isLine, line] at shape
      exact Bool.noConfusion shape

end

end StartPoint

/-! ## The recorded time -/

/-- Whether a time lies within the bounds of a start that are set. A bound that is no number bounds
nothing, but for the beginning of the span, which then never comes. -/
structure StartRules.InTime (rules : StartRules Float) (time : Float) : Prop where
  /-- The span has begun. -/
  begun : ∀ begins ∈ rules.openSpan.begins, begins ≤ time
  /-- The span has not ended. -/
  unended : ∀ ends ∈ rules.openSpan.ends, ends.isNaN = false → time < ends
  /-- The pilot event that opens the start is not to come. -/
  opened : ∀ opens ∈ rules.pilotOpens, opens.isNaN = false → opens ≤ time
  /-- The pilot event that closes the start is not over. -/
  unclosed : ∀ closes ∈ rules.pilotCloses, closes.isNaN = false → time ≤ closes

namespace StartPoint

variable {P : Type}

/-- If time goes on between two samples that the gate lets pass, the second one is in time. -/
theorem LetsPass.inTime {start : StartPoint P Float} {now last : Sample P Float}
    (passes : start.LetsPass now last) (onward : last.time ≤ now.time) :
    start.rules.InTime now.time := by
  obtain ⟨-, defined, -⟩ := Binary64.le_iff.mp onward
  obtain ⟨begun, unended, event, -, -⟩ := passes
  rw [StartRules.admitsPilotEvent, Bool.and_eq_true, Bool.not_eq_true', Bool.not_eq_true'] at event
  refine ⟨fun begins set => ?_, fun ends set number => ?_, fun opens set number => ?_,
    fun closes set number => ?_⟩
  · rw [TimeSpan.hasBegun, Option.mem_def.mp set] at begun
    exact Binary64.le_trans (of_decide_eq_true begun) onward
  · rw [TimeSpan.hasEnded, Option.mem_def.mp set] at unended
    exact Binary64.lt_of_not_le defined number (of_decide_eq_false unended)
  · rw [Option.mem_def.mp set] at event
    exact Binary64.le_of_not_lt number defined (of_decide_eq_false event.1)
  · rw [Option.mem_def.mp set] at event
    exact Binary64.le_of_not_lt defined number (of_decide_eq_false event.2)

/-! ## Starts -/

/-- What exactly a start is, for a pair of samples at a start point. -/
structure StartsExactly [Geodesy P Float] (start : StartPoint P Float) (now last : Sample P Float) :
    Prop where
  /-- Where starts through the top are wanted, an area is left wherever the start zone is. -/
  throughTop : start.anchor.zone.isLine = false → start.preferences.startThroughTop = true →
    (start.isExit now last = true ↔
      start.LetsPass now last ∧ start.contains last = true ∧ start.contains now = false)
  /-- Where they are not, it is left sideways below the start height. -/
  sideways : start.anchor.zone.isLine = false → start.preferences.startThroughTop = false →
    (start.isExit now last = true ↔ start.LetsPass now last ∧ start.contains last = true ∧
      start.anchor.contains now = false ∧ start.admitsHeight now = true)
  /-- A line is left near its center and below the start height, whatever is wanted. -/
  acrossLine : ∀ length, start.anchor.zone.shape = .line length →
    (start.isExit now last = true ↔ start.LetsPass now last ∧
      start.admitsHeight now = true ∧ start.admitsHeight last = true ∧
      Geodesy.distance start.anchor.zone.center now.place ≤ length / 2 ∧
      Geodesy.distance start.anchor.zone.center last.place ≤ length / 2 ∧
      start.anchor.contains last = true ∧ start.anchor.contains now = false)
  /-- Every start leaves the start zone. -/
  leaves : start.isExit now last = true →
    start.contains last = true ∧ start.contains now = false
  /-- A start point accepts a pair exactly if it is a start and none was made. -/
  accepts : (start.update now last).1 = true ↔
    start.isStarted = false ∧ start.isExit now last = true
  /-- The time outside is recorded with the start that is accepted, and else nothing. -/
  records : (start.update now last).2 = if (start.update now last).1 = true
    then { start with state := .started now.time } else start
  /-- If time goes on between the samples, the time that is recorded is in time. -/
  punctual : (start.update now last).1 = true → last.time ≤ now.time →
    start.rules.InTime now.time

/-- For every start point and every pair of samples this is what exactly a start is. -/
theorem starts_exactly [Geodesy P Float] (start : StartPoint P Float)
    (now last : Sample P Float) : StartsExactly start now last := by
  have accepts : (start.update now last).1 = true ↔
      start.isStarted = false ∧ start.isExit now last = true := by
    rw [update]
    cases start.isStarted <;> cases start.isExit now last <;> simp
  refine ⟨fun area wanted => ?_, fun area unwanted => ?_,
    fun length line => isExit_iff_of_line line, leaves_of_isExit, accepts, ?_,
    fun accepted onward => ?_⟩
  · rw [isExit_iff_of_area area, wanted]
    refine and_congr_right fun _ => and_congr_right fun _ => ?_
    rw [show start.contains now = (start.anchor.contains now && start.admitsHeight now) from rfl]
    cases start.admitsHeight now <;> cases start.anchor.contains now <;> simp
  · rw [isExit_iff_of_area area, unwanted]
    simp
  · rw [update]
    split
    · rfl
    · rfl
  · exact (isExit_iff.mp (accepts.mp accepted).2).1.inTime onward

end StartPoint

/-! ## A climb out of the start zone -/

/-- A place on a straight strip, in metres from its head. -/
structure Airstrip where
  /-- How far it is from the head. -/
  metres : Float

/-- Distances along a straight strip. -/
instance instGeodesyAirstrip : Geodesy Airstrip Float where
  distance a b := if a.metres ≤ b.metres then b.metres - a.metres else a.metres - b.metres
  bearing a b := if a.metres ≤ b.metres then 0 else 180
  destination origin bearing distance :=
    if bearing == 0 then ⟨origin.metres + distance⟩ else ⟨origin.metres - distance⟩

namespace Airstrip

/-- A start from the head of the strip, open from one to two o'clock and closed by the pilot at half
past one, with a ground speed from twenty up to twenty-eight and a margin of five, at most a
thousand metres high; starts through the top are wanted. -/
def start : StartPoint Airstrip Float :=
  .new (.cylinder 500) ⟨"Head", ⟨0⟩, 0⟩ ⟨0, ⟨5, 0⟩, true⟩
    { StartRules.none with
      openSpan := ⟨some 3600, some 7200, by simp; decide⟩
      minSpeed := 20
      maxSpeed := 28
      maxHeight := 1000
      pilotCloses := some 5400 }

/-- A glider over the strip at a height, with a ground speed. -/
def sample (metres height speed time : Float) : Sample Airstrip Float :=
  ⟨⟨metres⟩, height, speed, time⟩

/-- A climb through the start height over the head of the strip is a start if its speeds are within
the limits and the margin, and its time is recorded. One that is faster is none. -/
theorem starts_exactly_climbing :
    let inside := sample 10 990 33 4000
    let outside := sample 20 1010 30 4010
    let update := start.update outside inside
    StartPoint.StartsExactly start outside inside ∧ start.LetsPass outside inside ∧
      update.1 = true ∧ update.2.state = .started 4010 ∧ start.rules.InTime 4010 ∧
      StartPoint.StartsExactly start (sample 20 1010 34 4010) inside ∧
      start.isExit (sample 20 1010 34 4010) inside = false := by
  have law := StartPoint.starts_exactly start (sample 20 1010 30 4010) (sample 10 990 33 4000)
  have accepted : (start.update (sample 20 1010 30 4010) (sample 10 990 33 4000)).1 = true := by
    decide +kernel
  have exit := (law.accepts.mp accepted).2
  have passes := ((law.throughTop rfl rfl).mp exit).1
  refine ⟨law, passes, accepted, ?_, law.punctual accepted (by decide +kernel),
    StartPoint.starts_exactly start _ _, by decide +kernel⟩
  rw [law.records, if_pos accepted]
  rfl

end Airstrip

end Sailplane
