import Mathlib.Data.List.Forall2
import Sailplane.Command.StartCheck
import Sailplane.Proofs.Task.Matching

/-!
# The report of a start check

A report has a line for every point that is matched in the earliest matching of the task and the
track, and says what is missing. It never takes a pair of samples for two points.
-/
namespace Sailplane.Command

open OrderedTask (AtStage IsNew)

variable {P K : Type} [Scalar K] [Geodesy P K] {task origin : OrderedTask P K}
  {track suffix : List (Sample P K)} {index position stage left : Nat}

omit [Geodesy P K] in
/-- The line for the point at an index that is passed at a sample. -/
def ReportLine.passed (index : Nat) (now : Sample P K) : TaskPoint P K → ReportLine K
  | .start _ => started now.time
  | .turn anchor => turnPoint index anchor.waypoint.name now.time
  | .finish _ => finished now.time

omit [Geodesy P K] in
/-- Whether a line reports a point that is matched with a pair of a track: the line of that point at
the later sample of the pair. -/
def Reports (task : OrderedTask P K) (track : List (Sample P K)) (entry : Nat × Nat)
    (line : ReportLine K) : Prop :=
  ∃ point now, task.points[entry.1]? = some point ∧ track[entry.2 + 1]? = some now ∧
    line = .passed entry.1 now point

/-- What a report says at its end: that the start is not matched, or else which point is the first
one that is not. -/
def verdict (task : OrderedTask P K) (track : List (Sample P K)) : List (ReportLine K) :=
  if (task.earliest? track 0).isNone then [.noStart track.length]
  else if (task.matching track).length < task.points.length then
    [.unfinished (task.matching track).length]
  else []

/-! ## Line by line -/

omit [Geodesy P K] in
/-- The line for the event of a point is the line of that point. -/
theorem of_event (atStage : AtStage origin task stage) {point : TaskPoint P K}
    (there : origin.points[index]? = some point) (now : Sample P K) :
    ReportLine.of task now (point.event index now) = .passed index now point := by
  cases point with
  | start start => rfl
  | finish finish => rfl
  | turn anchor =>
    have same := congrArg (fun points => points[index]?) atStage.unmade
    simp only [List.getElem?_map, there, Option.map_some] at same
    obtain ⟨reached, found, equal⟩ := Option.map_eq_some_iff.mp same
    have anchors : reached.anchor = anchor := by
      rw [← TaskPoint.anchor_unmade, equal]
      rfl
    simp only [TaskPoint.event, ReportLine.of, found, Option.map_some, Option.getD_some, anchors,
      ReportLine.passed]

/-- A pair for which the point that comes next waits is the first one with which a point is
matched. -/
theorem matchFrom_of_admits (admitted : task.admits track index position = true) :
    task.matchFrom track (left + 1) index position =
      (index, position) :: task.matchFrom track left (index + 1) (position + 1) := by
  rw [OrderedTask.matchFrom, OrderedTask.firstFrom?_of_admits admitted]

/-- A pair for which the point that comes next does not wait is matched with no point. -/
theorem matchFrom_of_refuses (refused : task.admits track index position = false) :
    task.matchFrom track left index position = task.matchFrom track left index (position + 1) := by
  cases left with
  | zero => rfl
  | succ left => rw [OrderedTask.matchFrom, OrderedTask.matchFrom,
      OrderedTask.firstFrom?_of_refuses refused]

/-- Behind the last sample no point is matched. -/
theorem matchFrom_of_length_le (short : track.length ≤ position + 1) :
    task.matchFrom track left index position = [] := by
  cases left with
  | zero => rfl
  | succ left =>
    have none : task.firstFrom? track index position = none :=
      OrderedTask.firstFrom?_eq_none_iff.mpr fun later behind =>
        OrderedTask.admits_of_length_le (by omega)
    rw [OrderedTask.matchFrom, none]

omit [Scalar K] [Geodesy P K] in
/-- The samples from a position on begin with the one there. -/
theorem drop_eq_cons {last : Sample P K} (dropped : track.drop position = last :: suffix) :
    track[position]? = some last ∧ track.drop (position + 1) = suffix := by
  constructor
  · rw [← List.head?_drop, dropped, List.head?_cons]
  · rw [← List.drop_drop, dropped, List.drop_succ_cons, List.drop_zero]

/-- The first pair of a track makes the line for its event, and the other pairs make theirs behind
it. -/
theorem flown_cons_cons (task : OrderedTask P K) (last now : Sample P K)
    (rest : List (Sample P K)) :
    flown task (last :: now :: rest) =
      ((task.update now last).1.toList.map (ReportLine.of (task.update now last).2 now) ++
          (flown (task.update now last).2 (now :: rest)).1,
        (flown (task.update now last).2 (now :: rest)).2) := rfl

/-- The samples of a track from a position on make a line for every point that is matched from there
on, and the task comes to the stage behind the last of them. -/
theorem flown_reports (shaped : Shaped origin.kinds) (atStage : AtStage origin task stage)
    (dropped : track.drop position = suffix) :
    List.Forall₂ (Reports origin track)
        (origin.matchFrom track (origin.points.length - stage) stage position)
        (flown task suffix).1 ∧
      AtStage origin (flown task suffix).2
        (stage + (origin.matchFrom track (origin.points.length - stage) stage position).length) := by
  induction suffix generalizing task stage position with
  | nil =>
    rw [List.drop_eq_nil_iff] at dropped
    rw [matchFrom_of_length_le (by omega)]
    exact ⟨.nil, atStage⟩
  | cons last rest ih =>
    obtain ⟨before, tail⟩ := drop_eq_cons dropped
    cases rest with
    | nil =>
      rw [List.drop_eq_nil_iff] at tail
      rw [matchFrom_of_length_le tail]
      exact ⟨.nil, atStage⟩
    | cons now rest =>
      obtain ⟨behind, -⟩ := drop_eq_cons tail
      have advance := atStage.advance shaped before behind (task.update_advances now last)
      rw [flown_cons_cons]
      cases admitted : origin.admits track stage position with
      | false =>
        rw [if_neg (ne_true_of_eq_false admitted)] at advance
        obtain ⟨nothing, same⟩ := advance
        rw [matchFrom_of_refuses admitted, nothing, same]
        exact ih atStage tail
      | true =>
        rw [if_pos admitted] at advance
        obtain ⟨⟨point, there, made⟩, next⟩ := advance
        obtain ⟨inside, -⟩ := List.getElem?_eq_some_iff.mp there
        obtain ⟨lines, reached⟩ := ih next tail
        rw [show origin.points.length - stage = origin.points.length - (stage + 1) + 1 by omega,
          matchFrom_of_admits admitted, made]
        refine ⟨.cons ⟨point, now, there, behind, of_event next there now⟩ lines, ?_⟩
        rwa [List.length_cons, Nat.add_comm _ 1, ← Nat.add_assoc]

/-! ## The whole report -/

/-- The start is matched exactly if any point is. -/
theorem isNone_earliest?_iff (task : OrderedTask P K) (track : List (Sample P K))
    (any : 0 < task.points.length) :
    (task.earliest? track 0).isNone = true ↔ (task.matching track).length = 0 := by
  obtain ⟨left, enough⟩ := Nat.exists_eq_add_one.mpr any
  rw [OrderedTask.matching_eq, enough, OrderedTask.matchFrom, OrderedTask.earliest?]
  cases task.firstFrom? track 0 0 <;> simp

/-- What a report says at its end follows from the stage that the task came to. -/
theorem closing_eq (new : origin.IsNew)
    (atStage : AtStage origin task (origin.matching track).length) :
    closing task track.length = verdict origin track ∧
      task.isStarted = (origin.earliest? track 0).isSome := by
  have two := new.shaped.two
  rw [OrderedTask.kinds, List.length_map] at two
  have unmatched := isNone_earliest?_iff origin track (by omega)
  have started : task.isStarted = !(origin.earliest? track 0).isNone := by
    rw [Bool.eq_iff_iff, atStage.started_iff, Bool.not_eq_true', ← Bool.not_eq_true, unmatched]
    omega
  constructor
  · rw [closing, verdict, started, Bool.not_not]
    split
    · rfl
    · cases finished : task.finished with
      | true =>
        have all := atStage.finished_iff.mp finished
        rw [if_neg (by simp), if_neg (by omega)]
      | false =>
        obtain ⟨active, inside⟩ := atStage.active_of_unfinished finished
        rw [Bool.not_false, if_pos rfl, if_pos inside, active]
  · rw [started, Option.not_isNone]

/-- A report has a line for every point in the earliest matching and then says what is missing; the
check succeeds if the start is matched. -/
theorem startReport_eq (new : task.IsNew) (track : List (Sample P K)) :
    ∃ lines, List.Forall₂ (Reports task track) (task.matching track) lines ∧
      startReport task track =
        (lines ++ verdict task track, (task.earliest? track 0).isSome) := by
  have whole : track.drop 0 = track := rfl
  have flying := flown_reports new.shaped (AtStage.new new) whole
  rw [Nat.sub_zero, Nat.zero_add, ← OrderedTask.matching_eq] at flying
  obtain ⟨lines, atStage⟩ := flying
  obtain ⟨closed, started⟩ := closing_eq new atStage
  refine ⟨_, lines, ?_⟩
  rw [startReport, ← closed, ← started]

/-- What it means that a report tells the earliest matching of a task and a track. -/
structure TellsEarliest (task : OrderedTask P K) (track : List (Sample P K))
    (report : List (ReportLine K) × Bool) : Prop where
  /-- It has a line for every point that is matched, in their order, and then says what is
  missing. -/
  lines : ∃ lines, List.Forall₂ (Reports task track) (task.matching track) lines ∧
    report.1 = lines ++ verdict task track
  /-- It is a success exactly if the start is matched. -/
  succeeds : report.2 = (task.earliest? track 0).isSome
  /-- No pair is matched with two points, and later points are matched with later pairs. -/
  ordered : ((task.matching track).map Prod.snd).Pairwise (· < ·)

/-- The report on a new task tells its earliest matching. -/
theorem tellsEarliest_startReport (new : task.IsNew) (track : List (Sample P K)) :
    TellsEarliest task track (startReport task track) := by
  obtain ⟨lines, reported, report⟩ := startReport_eq new track
  rw [report]
  exact ⟨⟨lines, reported, rfl⟩, rfl, task.matching_ordered track⟩

/-! ## What is printed -/

section Printed

variable {Q : Type} [Geodesy Q Float] {course : OrderedTask Q Float}
  {path : List (Sample Q Float)}

omit [Geodesy Q Float] in
/-- What is printed for the point at an index that is passed at a sample. -/
def printedFor (index : Nat) (now : Sample Q Float) : TaskPoint Q Float → String
  | .start _ => "started at " ++ Decimal.shortest now.time
  | .turn anchor =>
    "turn point " ++ toString index ++ " (" ++ anchor.waypoint.name ++ ") at " ++
      Decimal.shortest now.time
  | .finish _ => "finished at " ++ Decimal.shortest now.time

omit [Geodesy Q Float] in
/-- Whether a text is printed for a point that is matched with a pair of a track: the text of that
point at the later sample of the pair. -/
def Prints (task : OrderedTask Q Float) (track : List (Sample Q Float)) (entry : Nat × Nat)
    (text : String) : Prop :=
  ∃ point now, task.points[entry.1]? = some point ∧ track[entry.2 + 1]? = some now ∧
    text = printedFor entry.1 now point

/-- What is printed at the end. -/
def printedVerdict (task : OrderedTask Q Float) (track : List (Sample Q Float)) : List String :=
  if (task.earliest? track 0).isNone then
    ["no valid start in " ++ toString track.length ++ " fix(es)"]
  else if (task.matching track).length < task.points.length then
    ["task not finished, next point is #" ++ toString (task.matching track).length]
  else []

/-- What it means that texts tell the earliest matching of a task and a track: one is printed for
every point that is matched, in their order, and then what is missing. -/
def PrintsEarliest (task : OrderedTask Q Float) (track : List (Sample Q Float))
    (printed : List String) : Prop :=
  ∃ texts, List.Forall₂ (Prints task track) (task.matching track) texts ∧
    printed = texts ++ printedVerdict task track

omit [Geodesy Q Float] in
/-- The line of a point is printed as its text. -/
theorem text_passed (index : Nat) (now : Sample Q Float) (point : TaskPoint Q Float) :
    (ReportLine.passed index now point).text = printedFor index now point := by
  cases point <;> rfl

/-- What a report says at its end is printed so. -/
theorem text_verdict (task : OrderedTask Q Float) (track : List (Sample Q Float)) :
    (verdict task track).map ReportLine.text = printedVerdict task track := by
  unfold verdict printedVerdict
  split
  · rfl
  · split <;> rfl

/-- A report that tells the earliest matching is printed as texts that tell it. -/
theorem TellsEarliest.prints {report : List (ReportLine Float) × Bool}
    (tells : TellsEarliest course path report) :
    PrintsEarliest course path (report.1.map ReportLine.text) := by
  obtain ⟨lines, reported, whole⟩ := tells.lines
  refine ⟨lines.map ReportLine.text, ?_, ?_⟩
  · rw [List.forall₂_map_right_iff]
    refine reported.imp fun entry line ⟨point, now, there, behind, same⟩ => ?_
    exact ⟨point, now, there, behind, same ▸ text_passed entry.1 now point⟩
  · rw [whole, List.map_append, text_verdict]

end Printed

/-- The report on a track tells the earliest matching of the track and a task that is new or built
from a file, and is printed as texts that tell it. A start check prints that report for what is
stored in its files. -/
theorem reports_earliest_matching :
    (∀ task : OrderedTask P K, task.IsNew →
      ∀ track, TellsEarliest task track (startReport task track)) ∧
      (∀ (Q : Type) [Geodesy Q Float] (task : OrderedTask Q Float), task.IsNew →
        ∀ track, TellsEarliest task track (startReport task track) ∧
          PrintsEarliest task track ((startReport task track).1.map ReportLine.text)) ∧
      (∀ (file : Config.TaskFile) (task : OrderedTask Position Float), file.build = .ok task →
        ∀ track, TellsEarliest task track (startReport task track)) ∧
      ∀ taskPath taskText trackPath trackText task track,
        Config.loadTask taskPath taskText = .ok task →
          Config.load Config.track trackPath trackText = .ok track →
            ∃ report, TellsEarliest task track report ∧
              PrintsEarliest task track (report.1.map ReportLine.text) ∧
              startCheck taskPath taskText trackPath trackText =
                .finished (report.1.map ReportLine.text) [] report.2 := by
  refine ⟨fun task new track => tellsEarliest_startReport new track,
    fun Q _ task new track => ⟨tellsEarliest_startReport new track,
      (tellsEarliest_startReport new track).prints⟩,
    fun file task built track =>
      tellsEarliest_startReport (Config.TaskFile.isNew_of_build built) track, ?_⟩
  intro taskPath taskText trackPath trackText task track loaded tracked
  have tells := tellsEarliest_startReport (Config.isNew_of_loadTask loaded) track
  refine ⟨_, tells, tells.prints, ?_⟩
  simp only [startCheck, loaded, tracked, bind, Except.bind]
  rfl

/-! ## A track along the road -/

open Milestone (sample)

/-- A track that enters the turn point before the start is made, and ends before the finish. -/
def roadTrack : List (Sample Milestone Rat) :=
  [sample 15 1, sample 10 2, sample 0 3, sample 3 4, sample 10 5, sample 15 6]

/-- A place on a straight road that is measured in doubles. -/
structure Post where
  /-- How far it is along the road. -/
  miles : Float

/-- Distances along a straight road, in doubles. -/
instance instGeodesyPost : Geodesy Post Float where
  distance a b := (a.miles - b.miles).abs
  bearing a b := if a.miles ≤ b.miles then 0 else 180
  destination origin bearing distance :=
    if bearing == 0 then ⟨origin.miles + distance⟩ else ⟨origin.miles - distance⟩

/-- The start, the turn point and the finish of the road, in doubles. -/
def posts : List (TaskPoint Post Float) :=
  [.start (.new (.cylinder 1) ⟨"Home", ⟨0⟩, 0⟩ .none .none),
    .turn (.new (.cylinder 1) ⟨"Mill", ⟨10⟩, 0⟩),
    .finish (.new (.cylinder 1) ⟨"Goal", ⟨20⟩, 0⟩ .none)]

/-- The same track in doubles, with times between the seconds. -/
def postTrack : List (Sample Post Float) :=
  [(15, 1), (10, 2), (0, 3), (3, 4.25), (10, 5.5), (15, 6)].map fun fix => ⟨⟨fix.1⟩, 0, 0, fix.2⟩

/-- The start of the posts was not made. -/
theorem unstarted_posts : ∀ start, TaskPoint.start start ∈ posts → start.state = .notStarted := by
  intro start listed
  simp only [posts, List.mem_cons, TaskPoint.start.injEq, reduceCtorEq, List.not_mem_nil,
    or_false] at listed
  rw [listed]
  rfl

/-- A task as it is written in a file. -/
def taskText : Config.Contents := .file (Text.toBytes
  "\x7b\"points\":[[\"start\",[\"A\",[0,0]],[\"line\",1]],[\"finish\",[\"B\",[0,1]],[\"line\",1]]]\x7d")

/-- A track as it is written in a file. -/
def trackText : Config.Contents := .file (Text.toBytes "[[[0,0],0,0,0],[[0,1],0,0,1]]")

/-- The report on the track along the road takes no pair from before the start, in exact numbers and
in doubles, of which the texts are shown; and a start check prints the report of what is written in
its files. -/
theorem reports_earliest_matching_road :
    (∃ task, OrderedTask.new Milestone.road .none .none = .ok task ∧ task.IsNew ∧
      task.matching roadTrack = [(0, 2), (1, 3)] ∧
      startReport task roadTrack = ([.started 4, .turnPoint 1 "Mill" 5, .unfinished 2], true) ∧
      TellsEarliest task roadTrack (startReport task roadTrack)) ∧
    (∃ task, OrderedTask.new posts .none .none = .ok task ∧ task.IsNew ∧
      (startReport task postTrack).1.map ReportLine.text =
        ["started at 4.25", "turn point 1 (Mill) at 5.5", "task not finished, next point is #2"] ∧
      PrintsEarliest task postTrack ((startReport task postTrack).1.map ReportLine.text) ∧
      (startReport task (postTrack.take 1)).1.map ReportLine.text =
        ["no valid start in 1 fix(es)"] ∧
      PrintsEarliest task (postTrack.take 1)
        ((startReport task (postTrack.take 1)).1.map ReportLine.text)) ∧
    (∃ task, Milestone.stored.build = .ok task ∧
      ∀ track, TellsEarliest task track (startReport task track)) ∧
    ∃ task track report, Config.loadTask "task.json" taskText = .ok task ∧
      Config.load Config.track "track.json" trackText = .ok track ∧
      TellsEarliest task track report ∧ PrintsEarliest task track (report.1.map ReportLine.text) ∧
      startCheck "task.json" taskText "track.json" trackText =
        .finished (report.1.map ReportLine.text) [] report.2 := by
  refine ⟨?_, ?_, ⟨_, rfl, ?_⟩, ?_⟩
  · refine ⟨_, rfl, ?_, by decide +kernel, by decide +kernel, ?_⟩
    · exact OrderedTask.isNew_of_new rfl Milestone.unstarted_road
    · exact reports_earliest_matching.1 _
        (OrderedTask.isNew_of_new rfl Milestone.unstarted_road) roadTrack
  · have new := OrderedTask.isNew_of_new (show OrderedTask.new posts .none .none = .ok _ from rfl)
      unstarted_posts
    have law := (reports_earliest_matching (P := Post) (K := Float)).2.1 Post _ new
    exact ⟨_, rfl, new, by decide +kernel, (law postTrack).2, by decide +kernel, (law _).2⟩
  · exact (reports_earliest_matching (P := Position) (K := Float)).2.2.1 Milestone.stored _ rfl
  · have written : (Config.loadTask "task.json" taskText).isOk = true := by decide +kernel
    have flown : (Config.load Config.track "track.json" trackText).isOk = true := by
      decide +kernel
    cases loaded : Config.loadTask "task.json" taskText with
    | error error =>
      rw [loaded] at written
      exact nomatch written
    | ok task =>
      cases tracked : Config.load Config.track "track.json" trackText with
      | error error =>
        rw [tracked] at flown
        exact nomatch flown
      | ok track =>
        obtain ⟨report, tells, prints, printed⟩ :=
          (reports_earliest_matching (P := Position) (K := Float)).2.2.2 _ _ _ _ task track loaded
            tracked
        exact ⟨task, track, report, rfl, rfl, tells, prints, printed⟩

end Sailplane.Command
