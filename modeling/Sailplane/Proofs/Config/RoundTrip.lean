import Sailplane.Proofs.Config.Formats

/-!
# Stored configuration is read back

Everything that can be stored is read back as it was, and whatever is read, in any of the forms a
reader admits, is stored in a form that is read as the same value. A time span that begins after it
ends is refused, and so is everything that holds one.
-/
namespace Sailplane.Config

open Json (Format Record Part number?)

/-! ## What is stored -/

/-- The kinds of values that are stored as configuration. -/
inductive Storable where
  /-- A task file. -/
  | taskFile
  /-- A point of a task file. -/
  | plannedPoint
  /-- The shape of a zone. -/
  | shape
  /-- A sample of a track. -/
  | sample
  /-- A waypoint. -/
  | waypoint
  /-- A pilot's preferences. -/
  | preferences
  /-- The rules of a task. -/
  | rules
  /-- A time span. -/
  | timeSpan
  /-- Settings of transfers. -/
  | transportSettings
  /-- An account of the weather service. -/
  | account
  /-- A login. -/
  | login
  deriving Repr, DecidableEq

namespace Storable

/-- The values of a kind. -/
def Value : Storable → Type
  | taskFile => TaskFile
  | plannedPoint => PlannedPoint
  | shape => Shape Float
  | sample => Sample Position Float
  | waypoint => Waypoint Position Float
  | preferences => Preferences Float
  | rules => Rules Float
  | timeSpan => TimeSpan Float
  | transportSettings => TransportSettings
  | account => Account
  | login => Login

/-- The format of a kind. -/
def format : (kind : Storable) → Format kind.Value
  | taskFile => Config.taskFile
  | plannedPoint => Config.plannedPoint
  | shape => Config.shape
  | sample => Config.sample
  | waypoint => Config.waypoint
  | preferences => Config.preferences
  | rules => Config.rules
  | timeSpan => Config.timeSpan
  | transportSettings => Config.transportSettings
  | account => Config.account
  | login => Config.login

/-- All numbers of a value are finite; settings hold none but whole ones. -/
def Finite : (kind : Storable) → kind.Value → Prop
  | taskFile => TaskFile.Finite
  | plannedPoint => PlannedPoint.Finite
  | shape => Shape.Finite
  | sample => Sample.Finite
  | waypoint => Waypoint.Finite
  | preferences => Preferences.Finite
  | rules => Rules.Finite
  | timeSpan => TimeSpan.Finite
  | transportSettings => fun _ => True
  | account => fun _ => True
  | login => fun _ => True

theorem faithful (kind : Storable) : kind.format.Faithful kind.Finite := by
  cases kind with
  | taskFile => exact taskFile_faithful
  | plannedPoint => exact plannedPoint_faithful
  | shape => exact shape_faithful
  | sample => exact sample_faithful
  | waypoint => exact waypoint_faithful
  | preferences => exact preferences_faithful
  | rules => exact rules_faithful
  | timeSpan => exact timeSpan_faithful
  | transportSettings => exact transportSettings_faithful
  | account => exact account_faithful
  | login => exact login_faithful

/-- What stands inside a value of a kind where a time span is wanted: as a field of its name in an
object, or at its place in a list. -/
inductive HoldsSpan : Storable → Json → Json → Prop where
  /-- A time span is one itself. -/
  | timeSpan (span : Json) : HoldsSpan .timeSpan span span
  /-- The span in which the start of the rules is open. -/
  | rules {json start span : Json} (starts : Part "start_constraints" 0 json start)
    (opens : Part "open_time_span" 0 start span) : HoldsSpan .rules json span
  /-- A span in the rules of a task file. -/
  | taskFile {json inner span : Json} (settings : Part "settings" 1 json inner)
    (inside : HoldsSpan .rules inner span) : HoldsSpan .taskFile json span

end Storable

/-- A span that begins after it ends, by the doubles its bounds are read as. -/
def ReversedSpan (span : Json) : Prop :=
  ∃ first last begins ends, Part "begin" 0 span first ∧ Part "end" 1 span last ∧
    number? first = some begins ∧ number? last = some ends ∧ ends < begins

/-! ## Reversed spans -/

/-- An optional number that is there is read as the number. -/
theorem optionalReal_reads {json : Json} {number : Float} {value : Option Float}
    (known : number? json = some number) (read : (Format.option .real).Reads json value) :
    value = some number := by
  obtain ⟨reading, -, read⟩ := read
  have notNull : json ≠ .null := by
    rintro rfl
    cases known
  rw [Format.option_decode notNull, Format.real_decode.mpr known] at read
  exact (Except.ok.inj read).symm

/-- A reversed span is read as no span. -/
theorem timeSpan_refuses {json : Json} {span : TimeSpan Float} (read : timeSpan.Reads json span) :
    ¬ ReversedSpan json := by
  rintro ⟨first, last, begins, ends, begun, ended, isBegins, isEnds, reversed⟩
  obtain ⟨reading, isStored, read⟩ := read
  obtain ⟨⟨lower, upper⟩, read, made⟩ := Format.checked_decode.mp read
  have left := Record.tidy_field "begin" (.option .real) (some none)
  have right := Record.tidy_field "end" (.option .real) (some none)
  have apart : ∀ name ∈ ["begin"], name ∉ ["end"] := by decide
  have lowerRead := ((Record.shows_field "begin" (.option .real) (some none)).pair_left left right
    apart).of_reads ⟨reading, isStored, read⟩ begun
  have upperRead := ((Record.shows_field "end" (.option .real) (some none)).pair_right left right
    apart).of_reads ⟨reading, isStored, read⟩ ended
  have isLower : lower = some begins := optionalReal_reads isBegins lowerRead
  have isUpper : upper = some ends := optionalReal_reads isEnds upperRead
  subst isLower isUpper
  simp only [TimeSpan.new, dif_pos reversed] at made
  cases made

/-- The limits of a start are read with a span that is read from their first part. -/
theorem startRules_reads {json span : Json} {value : StartRules Float}
    (read : startRules.Reads json value) (inside : Part "open_time_span" 0 json span) :
    ∃ opens, timeSpan.Reads span opens := by
  have rest := (Record.tidy_field "min_speed" .real (some 0)).pair
    ((Record.tidy_field "max_speed" .real (some 0)).pair
      ((Record.tidy_field "max_height" .real (some 0)).pair
        ((Record.tidy_field "max_height_ref" heightReference (some .seaLevel)).pair
          ((Record.tidy_field "pev_open" (.option .real) (some none)).pair
            (Record.tidy_field "pev_closed" (.option .real) (some none)) (by decide)) (by decide))
          (by decide)) (by decide)) (by decide)
  obtain ⟨raw, opens, -⟩ := ((Record.shows_field "open_time_span" timeSpan
    (some .unbounded)).pair_left (Record.tidy_field _ _ _) rest (by decide)).map.of_reads read
      inside
  exact ⟨raw.1, opens⟩

/-- Rules are read with limits of a start that are read from their first part. -/
theorem rules_reads {json start : Json} {value : Rules Float} (read : rules.Reads json value)
    (inside : Part "start_constraints" 0 json start) : ∃ limits, startRules.Reads start limits := by
  have finish := Record.tidy_field "finish_constraints" finishRules (some .none)
  obtain ⟨raw, limits, -⟩ := ((Record.shows_field "start_constraints" startRules
    (some .none)).pair_left (Record.tidy_field _ _ _) finish (by decide)).map.of_reads read inside
  exact ⟨raw.1, limits⟩

/-- A task file is read with rules that are read from its second part. -/
theorem taskFile_reads {json inner : Json} {value : TaskFile} (read : taskFile.Reads json value)
    (inside : Part "settings" 1 json inner) : ∃ kept, rules.Reads inner kept := by
  have points := Record.tidy_field "points" (.list plannedPoint) none
  have settings := Record.tidy_field "settings" rules (some .none)
  obtain ⟨raw, kept, -⟩ := (((Record.shows_field "settings" rules (some .none)).pair_left settings
    points (by decide)).pair_right (Record.tidy_field "behaviour" preferences (some .none))
      (settings.pair points (by decide)) (by decide)).map.of_reads read inside
  exact ⟨raw.2.1, kept⟩

/-- What holds a reversed span cannot be read. -/
theorem Storable.HoldsSpan.not_reads {kind : Storable} {json span : Json} {value : kind.Value}
    (holds : kind.HoldsSpan json span) (reversed : ReversedSpan span) :
    ¬ kind.format.Reads json value := by
  intro read
  induction holds with
  | timeSpan span => exact timeSpan_refuses read reversed
  | rules starts opens =>
    obtain ⟨limits, read⟩ := rules_reads read starts
    obtain ⟨window, read⟩ := startRules_reads read opens
    exact timeSpan_refuses read reversed
  | taskFile settings inside ih =>
    obtain ⟨kept, read⟩ := taskFile_reads read settings
    exact ih reversed read

/-! ## The round trip -/

/-- Stored configuration is read back. Every value with finite numbers is read from its stored form
as it was. Whatever is read, from any value without infinite numbers, is stored in a form that is
read as the same value, and stored in the same form again. And nothing is read from a value that
holds a reversed time span. -/
theorem stored_round_trip (kind : Storable) :
    (∀ value, kind.Finite value → kind.format.ofValue (kind.format.stored value) = .ok value) ∧
      (∀ json value, json.Finite → kind.format.ofValue json = .ok value →
        ∃ again, kind.format.ofValue (kind.format.stored value) = .ok again ∧ again = value ∧
          kind.format.stored again = kind.format.stored value) ∧
        ∀ json span, kind.HoldsSpan json span → ReversedSpan span →
          ∃ error, kind.format.ofValue json = .error error := by
  have isStored : Json.Reading.IsStored ⟨.value, 0⟩ := fun text => by cases text
  refine ⟨fun value finite => kind.faithful.restores isStored finite, ?_, ?_⟩
  · intro json value finite accepted
    have fine := kind.faithful.finite isStored finite accepted
    exact ⟨value, kind.faithful.restores isStored fine, rfl, rfl⟩
  · intro json span holds reversed
    cases result : kind.format.ofValue json with
    | error error => exact ⟨error, rfl⟩
    | ok value => exact absurd ⟨⟨.value, 0⟩, isStored, result⟩ (holds.not_reads reversed)

/-- A task as people write it: lists for objects, whole numbers, parts left out, in any order, and
one that no reader knows; its start opens between two times. -/
def handwritten (begins ends : Int) : Json :=
  .object [("pilot", .null),
    ("settings", .list [.object [("open_time_span",
      .object [("end", .integer ends), ("begin", .integer begins)])]]),
    ("points", .list [
      .object [("zone", .list [.text "line", .integer 2000]), ("kind", .text "start"),
        ("waypoint", .list [.text "Home", .list [.real 46.5, .integer 8]])]])]

/-- A task with one point and nothing else. -/
def lonePoint : TaskFile := ⟨.none, .none, [⟨.start, ⟨"Home", ⟨46.5, 8.25⟩, 300⟩, .line 2000⟩]⟩

/-- The handwritten task is stored as what is read of it, the task of one point is read back, and
the handwritten one is refused if its start closes before it opens. -/
theorem stored_round_trip_task :
    (∃ file, Config.taskFile.ofValue (handwritten 36000 50400) = .ok file ∧
      Config.taskFile.ofValue (Config.taskFile.stored file) = .ok file) ∧
    Config.taskFile.ofValue (Config.taskFile.stored lonePoint) = .ok lonePoint ∧
    ∃ error, Config.taskFile.ofValue (handwritten 50400 36000) = .error error := by
  obtain ⟨restores, again, refuses⟩ := stored_round_trip .taskFile
  refine ⟨?_, restores lonePoint ?_, ?_⟩
  · have readable : (Config.taskFile.ofValue (handwritten 36000 50400)).isOk = true := by
      decide +kernel
    have finite : (handwritten 36000 50400).Finite := by
      simp only [handwritten, Json.Finite, Json.FiniteFields, Json.FiniteItems, and_true, true_and]
      decide
    cases accepted : Config.taskFile.ofValue (handwritten 36000 50400) with
    | error error => rw [accepted] at readable; cases readable
    | ok file =>
      obtain ⟨other, restored, rfl, -⟩ := again _ file finite accepted
      exact ⟨_, rfl, restored⟩
  · refine ⟨⟨by decide, by decide, by decide⟩,
      ⟨startRules_none_finite, finishRules_none_finite⟩, ?_⟩
    intro point mem
    cases List.mem_singleton.mp mem
    exact ⟨⟨⟨by decide, by decide⟩, by decide⟩, show (2000 : Float).isFinite = true by decide⟩
  · have holds : Storable.HoldsSpan .taskFile (handwritten 50400 36000)
        (.object [("end", .integer 36000), ("begin", .integer 50400)]) :=
      .taskFile (.field (List.mem_cons_of_mem _ List.mem_cons_self))
        (.rules (.item rfl) (.field List.mem_cons_self))
    exact refuses _ _ holds ⟨_, _, _, _, .field (List.mem_cons_of_mem _ List.mem_cons_self),
      .field List.mem_cons_self, rfl, rfl, by decide⟩

end Sailplane.Config
