import Sailplane.Config.Settings
import Sailplane.Config.TaskFile
import Sailplane.Proofs.Json.Tagged

/-!
# Formats of configuration are faithful

Which values of each type can be stored, told by the numbers they hold, and that the format of the
type is faithful to them. A format is put together from records, and its proof from theirs.
-/
namespace Sailplane

/-! ## Finite values -/

/-- Both coordinates are finite. -/
def Position.Finite (place : Position) : Prop :=
  place.latitude.isFinite = true ∧ place.longitude.isFinite = true

/-- All numbers of a waypoint are finite. -/
def Waypoint.Finite (waypoint : Waypoint Position Float) : Prop :=
  waypoint.place.Finite ∧ waypoint.elevation.isFinite = true

/-- All numbers of a sample are finite. -/
def Sample.Finite (sample : Sample Position Float) : Prop :=
  sample.place.Finite ∧ sample.altitude.isFinite = true ∧ sample.groundSpeed.isFinite = true ∧
    sample.time.isFinite = true

/-- All numbers of a shape are finite. -/
def Shape.Finite : Shape Float → Prop
  | .cylinder radius => radius.isFinite = true
  | .sector radius startRadial endRadial =>
    radius.isFinite = true ∧ startRadial.isFinite = true ∧ endRadial.isFinite = true
  | .symmetricSector radius angle => radius.isFinite = true ∧ angle.isFinite = true
  | .line length => length.isFinite = true

/-- The bounds of a time span are finite. -/
def TimeSpan.Finite (span : TimeSpan Float) : Prop :=
  (∀ begins ∈ span.begins, begins.isFinite = true) ∧ ∀ ends ∈ span.ends, ends.isFinite = true

/-- Both margins are finite. -/
def StartMargins.Finite (margins : StartMargins Float) : Prop :=
  margins.speed.isFinite = true ∧ margins.height.isFinite = true

/-- All numbers of the limits of a start are finite. -/
structure StartRules.Finite (rules : StartRules Float) : Prop where
  /-- Those of the span it is open. -/
  openSpan : rules.openSpan.Finite
  /-- The least speed. -/
  minSpeed : rules.minSpeed.isFinite = true
  /-- The greatest speed. -/
  maxSpeed : rules.maxSpeed.isFinite = true
  /-- The greatest height. -/
  maxHeight : rules.maxHeight.isFinite = true
  /-- The time a pilot event opens it. -/
  pilotOpens : ∀ time ∈ rules.pilotOpens, time.isFinite = true
  /-- The time a pilot event closes it. -/
  pilotCloses : ∀ time ∈ rules.pilotCloses, time.isFinite = true

/-- The least height is finite. -/
def FinishRules.Finite (rules : FinishRules Float) : Prop := rules.minHeight.isFinite = true

/-- All numbers of the rules are finite. -/
def Rules.Finite (rules : Rules Float) : Prop := rules.start.Finite ∧ rules.finish.Finite

/-- All numbers of the preferences are finite. -/
def Preferences.Finite (preferences : Preferences Float) : Prop :=
  preferences.safetyHeight.isFinite = true ∧ preferences.margins.Finite

namespace Config

open Json (Format Record Alternative)

/-- All numbers of a planned point are finite. -/
def PlannedPoint.Finite (point : PlannedPoint) : Prop := point.waypoint.Finite ∧ point.shape.Finite

/-- All numbers of a task file are finite. -/
structure TaskFile.Finite (file : TaskFile) : Prop where
  /-- Those of the preferences. -/
  preferences : file.preferences.Finite
  /-- Those of the rules. -/
  rules : file.rules.Finite
  /-- Those of each point. -/
  points : ∀ point ∈ file.points, point.Finite

/-! ## Faithful formats -/

/-- A part that has to be there. -/
theorem required {α : Type} {finite : α → Prop} : ∀ value ∈ (none : Option α), finite value := by
  intro _ none
  cases none

theorem zero_finite : ∀ value ∈ some (0 : Float), value.isFinite = true := by
  rintro _ ⟨⟩
  decide

theorem real_present (value : Float) (finite : value.isFinite = true) :
    Format.real.encode value ≠ .null := by
  simp [Format.real, finite]

theorem optionalReal_faithful :
    (Format.option .real).Faithful fun value => ∀ number ∈ value, number.isFinite = true :=
  Format.real_faithful.option real_present

theorem position_faithful : position.Faithful Position.Finite :=
  (((Record.faithful_field _ Format.real_faithful none required).pair
    (Record.faithful_field _ Format.real_faithful none required) (by decide)).map
      (fun _ => rfl) (fun _ => rfl)).format _

theorem waypoint_faithful : waypoint.Faithful Waypoint.Finite :=
  ((((Record.faithful_field _ Format.text_faithful none required).pair
    ((Record.faithful_field _ position_faithful none required).pair
      (Record.faithful_field _ Format.real_faithful (some 0) zero_finite) (by decide))
      (by decide)).map (fun _ => rfl) (fun _ => rfl)).format _).of_iff
        fun _ => Iff.of_eq (true_and _)

theorem sample_faithful : sample.Faithful Sample.Finite :=
  (((Record.faithful_field _ position_faithful none required).pair
    ((Record.faithful_field _ Format.real_faithful none required).pair
      ((Record.faithful_field _ Format.real_faithful none required).pair
        (Record.faithful_field _ Format.real_faithful none required) (by decide)) (by decide))
      (by decide)).map (fun _ => rfl) (fun _ => rfl)).format _

/-! ### Zones -/

theorem cylinder_faithful : cylinder.Faithful fun radius => radius.isFinite = true :=
  Record.faithful_field _ Format.real_faithful none required

theorem sector_faithful : sector.Faithful fun content =>
    content.1.isFinite = true ∧ content.2.1.isFinite = true ∧ content.2.2.isFinite = true :=
  (Record.faithful_field _ Format.real_faithful none required).pair
    ((Record.faithful_field _ Format.real_faithful none required).pair
      (Record.faithful_field _ Format.real_faithful none required) (by decide)) (by decide)

theorem symmetricSector_faithful : symmetricSector.Faithful fun content =>
    content.1.isFinite = true ∧ content.2.isFinite = true :=
  (Record.faithful_field _ Format.real_faithful none required).pair
    (Record.faithful_field _ Format.real_faithful none required) (by decide)

theorem line_faithful : line.Faithful fun length => length.isFinite = true :=
  Record.faithful_field _ Format.real_faithful none required

/-- Every alternative of a zone is read back, and none has a part that is called as the tag is. -/
theorem shapes_faithful : ∀ alternative ∈ shapes, alternative.Faithful "type" Shape.Finite := by
  simp only [shapes, List.forall_mem_cons]
  exact ⟨⟨cylinder_faithful, by decide⟩, ⟨sector_faithful, by decide⟩,
    ⟨symmetricSector_faithful, by decide⟩, ⟨line_faithful, by decide⟩, fun _ none => by cases none⟩

theorem shape_faithful : shape.Faithful Shape.Finite := by
  refine Format.tagged_faithful shapes_faithful fun value => ?_
  cases value with
  | cylinder radius => exact ⟨shapes.get ⟨0, by decide⟩, radius, rfl, rfl, rfl⟩
  | sector radius startRadial endRadial =>
    exact ⟨shapes.get ⟨1, by decide⟩, (radius, startRadial, endRadial), rfl, rfl, rfl⟩
  | symmetricSector radius angle =>
    exact ⟨shapes.get ⟨2, by decide⟩, (radius, angle), rfl, rfl, rfl⟩
  | line length => exact ⟨shapes.get ⟨3, by decide⟩, length, rfl, rfl, rfl⟩

/-! ### Rules -/

theorem bounds_faithful : bounds.Faithful fun bounds =>
    (∀ begins ∈ bounds.1, begins.isFinite = true) ∧ ∀ ends ∈ bounds.2, ends.isFinite = true :=
  ((Record.faithful_field _ optionalReal_faithful (some none) (by rintro _ ⟨⟩ _ ⟨⟩)).pair
    (Record.faithful_field _ optionalReal_faithful (some none) (by rintro _ ⟨⟩ _ ⟨⟩))
      (by decide)).format _

/-- The bounds of a span make the span again. -/
theorem new_bounds (span : TimeSpan Float) :
    (TimeSpan.new span.begins span.ends).mapError TaskError.message = .ok span := by
  obtain ⟨begins, ends, ordered⟩ := span
  cases begins with
  | none => rfl
  | some begins =>
    cases ends with
    | none => rfl
    | some ends =>
      unfold TimeSpan.new
      simp only [dif_neg (ordered begins rfl ends rfl)]
      rfl

/-- A span has the bounds it was made of. -/
theorem bounds_of_new {begins ends : Option Float} {span : TimeSpan Float}
    (made : (TimeSpan.new begins ends).mapError TaskError.message = .ok span) :
    (span.begins, span.ends) = (begins, ends) := by
  unfold TimeSpan.new at made
  split at made
  · cases made; rfl
  · cases made; rfl
  · split at made
    · cases made
    · cases made; rfl

theorem timeSpan_faithful : timeSpan.Faithful TimeSpan.Finite :=
  bounds_faithful.checked new_bounds bounds_of_new

theorem heightReference_faithful : heightReference.Faithful fun _ => True :=
  Format.variant_faithful fun value => by cases value <;> rfl

theorem startMargins_faithful : startMargins.Faithful StartMargins.Finite :=
  (((Record.faithful_field _ Format.real_faithful none required).pair
    (Record.faithful_field _ Format.real_faithful none required) (by decide)).map
      (fun _ => rfl) (fun _ => rfl)).format _

theorem startRules_faithful : startRules.Faithful StartRules.Finite := by
  have record := (Record.faithful_field "open_time_span" timeSpan_faithful (some .unbounded)
      (by rintro _ ⟨⟩; exact ⟨required, required⟩)).pair
    ((Record.faithful_field "min_speed" Format.real_faithful (some 0) zero_finite).pair
      ((Record.faithful_field "max_speed" Format.real_faithful (some 0) zero_finite).pair
        ((Record.faithful_field "max_height" Format.real_faithful (some 0) zero_finite).pair
          ((Record.faithful_field "max_height_ref" heightReference_faithful (some .seaLevel)
              fun _ _ => trivial).pair
            ((Record.faithful_field "pev_open" optionalReal_faithful (some none)
                (by rintro _ ⟨⟩; exact required)).pair
              (Record.faithful_field "pev_closed" optionalReal_faithful (some none)
                (by rintro _ ⟨⟩; exact required)) (by decide)) (by decide)) (by decide))
          (by decide)) (by decide)) (by decide)
  refine Format.Faithful.of_iff ((record.map (fun _ => rfl) (fun _ => rfl)).format _)
    fun rules => ?_
  constructor
  · rintro ⟨openSpan, minSpeed, maxSpeed, maxHeight, -, opens, closes⟩
    exact ⟨openSpan, minSpeed, maxSpeed, maxHeight, opens, closes⟩
  · intro fine
    exact ⟨fine.openSpan, fine.minSpeed, fine.maxSpeed, fine.maxHeight, trivial, fine.pilotOpens,
      fine.pilotCloses⟩

theorem finishRules_faithful : finishRules.Faithful FinishRules.Finite :=
  ((((Record.faithful_field _ Format.real_faithful (some 0) zero_finite).pair
    (Record.faithful_field _ heightReference_faithful (some .seaLevel) fun _ _ => trivial)
      (by decide)).map (fun _ => rfl) (fun _ => rfl)).format _).of_iff
        fun _ => Iff.of_eq (and_true _)

/-- No limits at all are finite limits. -/
theorem startRules_none_finite : StartRules.none.Finite :=
  ⟨⟨required, required⟩, by decide, by decide, by decide, required, required⟩

theorem finishRules_none_finite : FinishRules.none.Finite :=
  show (0 : Float).isFinite = true by decide

theorem rules_faithful : rules.Faithful Rules.Finite :=
  (((Record.faithful_field _ startRules_faithful (some .none)
      (by rintro _ ⟨⟩; exact startRules_none_finite)).pair
    (Record.faithful_field _ finishRules_faithful (some .none)
      (by rintro _ ⟨⟩; exact finishRules_none_finite)) (by decide)).map
        (fun _ => rfl) (fun _ => rfl)).format _

theorem preferences_faithful : preferences.Faithful Preferences.Finite :=
  ((((Record.faithful_field _ Format.real_faithful (some 0) zero_finite).pair
    ((Record.faithful_field _ startMargins_faithful (some ⟨0, 0⟩)
        (by rintro _ ⟨⟩; exact ⟨by decide, by decide⟩)).pair
      (Record.faithful_field _ Format.bool_faithful (some false) fun _ _ => trivial) (by decide))
        (by decide)).map (fun _ => rfl) (fun _ => rfl)).format _).of_iff
          fun _ => and_congr_right fun _ => Iff.of_eq (and_true _)

/-! ### Task files -/

theorem pointKind_faithful : pointKind.Faithful fun _ => True :=
  Format.variant_faithful fun value => by cases value <;> rfl

theorem plannedPoint_faithful : plannedPoint.Faithful PlannedPoint.Finite :=
  ((((Record.faithful_field _ pointKind_faithful none required).pair
    ((Record.faithful_field _ waypoint_faithful none required).pair
      (Record.faithful_field _ shape_faithful none required) (by decide)) (by decide)).map
        (fun _ => rfl) (fun _ => rfl)).format _).of_iff fun _ => Iff.of_eq (true_and _)

theorem taskFile_faithful : taskFile.Faithful TaskFile.Finite := by
  have record := (Record.faithful_field "behaviour" preferences_faithful (some .none)
      (by rintro _ ⟨⟩; exact ⟨by decide, by decide, by decide⟩)).pair
    ((Record.faithful_field "settings" rules_faithful (some .none)
        (by rintro _ ⟨⟩; exact ⟨startRules_none_finite, finishRules_none_finite⟩)).pair
      (Record.faithful_field "points" plannedPoint_faithful.list none required) (by decide))
        (by decide)
  refine Format.Faithful.of_iff ((record.map (fun _ => rfl) (fun _ => rfl)).format _) fun file => ?_
  constructor
  · rintro ⟨preferences, rules, points⟩
    exact ⟨preferences, rules, points⟩
  · intro fine
    exact ⟨fine.preferences, fine.rules, fine.points⟩

/-! ### Settings -/

theorem transportSettings_faithful : transportSettings.Faithful fun _ => True :=
  ((((Record.faithful_field _ Format.text_faithful (some userAgent) fun _ _ => trivial).pair
    (Record.faithful_field _ (Format.word_faithful.option fun _ _ null => by cases null) (some none)
      fun _ _ _ _ => trivial) (by decide)).map (fun _ => rfl) (fun _ => rfl)).format _).of_iff
        fun _ => ⟨fun _ => trivial, fun _ => ⟨trivial, fun _ _ => trivial⟩⟩

theorem account_faithful : account.Faithful fun _ => True :=
  ((((Record.faithful_field _ Format.text_faithful none required).pair
    ((Record.faithful_field _ Format.text_faithful none required).pair
      ((Record.faithful_field _ Format.text_faithful (some serviceUrl) fun _ _ => trivial).pair
        ((Record.faithful_field _ Format.text_faithful (some applicationKey)
            fun _ _ => trivial).pair
          (Record.faithful_field _ Format.text_faithful (some userAgent) fun _ _ => trivial)
            (by decide)) (by decide)) (by decide)) (by decide)).map
              (fun _ => rfl) (fun _ => rfl)).format _).of_iff
                fun _ => ⟨fun _ => trivial, fun _ => ⟨trivial, trivial, trivial, trivial, trivial⟩⟩

theorem login_faithful : login.Faithful fun _ => True :=
  ((((Record.faithful_field _ Format.text_faithful none required).pair
    (Record.faithful_field _ Format.text_faithful none required) (by decide)).map
      (fun _ => rfl) (fun _ => rfl)).format _).of_iff
        fun _ => ⟨fun _ => trivial, fun _ => ⟨trivial, trivial⟩⟩

end Config

end Sailplane
