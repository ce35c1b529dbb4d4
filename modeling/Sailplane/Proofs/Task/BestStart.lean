import Mathlib
import Sailplane.Proofs.Numeric.Order
import Sailplane.Proofs.Task.Border
import Sailplane.Proofs.Task.Starting

/-!
# The best start

A search for the best start goes through the listed places on the border of the start zone and keeps
the first of those by which the path is shortest. It remembers that place and leaves all else as it
is. Nothing but another search or a reset changes what is remembered, and nothing that is done with
a start point looks at it.
-/
namespace Sailplane

open Geodesy (distanceVia)

namespace StartPoint

/-! ## The first of the shortest -/

section

variable {P : Type}

/-- Whether a place stands at an index of a list as the first of those with the least length. -/
structure IsFirstShortest (length : P → Float) (places : List P) (index : Nat) (place : P) :
    Prop where
  /-- It stands there. -/
  listed : places[index]? = some place
  /-- No place has a lesser length. -/
  least : ∀ other ∈ places, length place ≤ length other
  /-- All places before it have a greater one. -/
  first : ∀ earlier other, earlier < index → places[earlier]? = some other →
    length place < length other

variable {length : P → Float} {places : List P} {index : Nat} {best : P}

/-- There is only one such index. -/
theorem IsFirstShortest.index_unique {other : Nat} {place : P}
    (one : IsFirstShortest length places index best)
    (two : IsFirstShortest length places other place) : index = other := by
  have apart {i j : Nat} {p q : P} (one : IsFirstShortest length places i p)
      (two : IsFirstShortest length places j q) : ¬ i < j := by
    intro earlier
    have less := two.first i p earlier one.listed
    have least := one.least q (List.mem_of_getElem? two.listed)
    exact Binary64.not_lt_of_le least less
  have above := apart one two
  have below := apart two one
  omega

/-- One place more at the end of a list is the first of the shortest if it is strictly shorter. -/
theorem IsFirstShortest.concat (first : IsFirstShortest length places index best) {next : P}
    (defined : (length next).isNaN = false) : ∃ later, IsFirstShortest length (places ++ [next])
      later (if length next < length best then next else best) := by
  have inside : index < places.length := (List.getElem?_eq_some_iff.mp first.listed).1
  have number : (length best).isNaN = false :=
    (Binary64.le_iff.mp (first.least best (List.mem_of_getElem? first.listed))).1
  have shorter {earlier : Nat} (within : earlier < places.length) :
      (places ++ [next])[earlier]? = places[earlier]? := List.getElem?_append_left within
  by_cases less : length next < length best
  · rw [if_pos less]
    have beats (other : P) (among : other ∈ places) : length next < length other :=
      Binary64.lt_of_lt_of_le less (first.least other among)
    refine ⟨places.length, List.getElem?_concat_length, fun other among => ?_,
      fun earlier other before listed => ?_⟩
    · rcases List.mem_append.mp among with among | among
      · exact Binary64.le_of_lt (beats other among)
      · rw [List.mem_singleton.mp among]
        exact Binary64.le_refl defined
    · rw [shorter before] at listed
      exact beats other (List.mem_of_getElem? listed)
  · rw [if_neg less]
    refine ⟨index, (shorter inside).trans first.listed, fun other among => ?_,
      fun earlier other before listed => ?_⟩
    · rcases List.mem_append.mp among with among | among
      · exact first.least other among
      · rw [List.mem_singleton.mp among]
        exact Binary64.le_of_not_lt number defined less
    · rw [shorter (before.trans inside)] at listed
      exact first.first earlier other before listed

/-- Going through more places keeps the first of the shortest. -/
theorem IsFirstShortest.firstShortest (first : IsFirstShortest length places index best)
    {rest : List P} (defined : ∀ place ∈ rest, (length place).isNaN = false) :
    ∃ later, IsFirstShortest length (places ++ rest) later
      (StartPoint.firstShortest length best rest) := by
  induction rest generalizing places index best with
  | nil => exact ⟨index, by rwa [List.append_nil]⟩
  | cons next rest ih =>
    have ⟨number, defined⟩ := List.forall_mem_cons.mp defined
    have ⟨_, longer⟩ := first.concat number
    have onward := ih longer defined
    rw [List.append_assoc] at onward
    exact onward

/-- What is found among the places of a list is the first of the shortest. -/
theorem isFirstShortest_firstShortest {head : P} {rest : List P}
    (defined : ∀ place ∈ head :: rest, (length place).isNaN = false) :
    ∃ index, IsFirstShortest length (head :: rest) index
      (StartPoint.firstShortest length head rest) := by
  have ⟨number, defined⟩ := List.forall_mem_cons.mp defined
  have alone : IsFirstShortest length [head] 0 head := by
    refine ⟨rfl, fun other among => ?_, fun earlier _ before => absurd before (Nat.not_lt_zero _)⟩
    rw [List.mem_singleton.mp among]
    exact Binary64.le_refl number
  exact alone.firstShortest defined

end

/-! ## What else is done with a start point -/

/-- What may be done with a start point between two searches, other than to reset it. -/
inductive Handling (P K : Type) [Scalar K] where
  /-- Feed a pair of samples. -/
  | feed (now last : Sample P K)
  /-- Put it under other preferences. -/
  | prefer (preferences : Preferences K)
  /-- Put it under other rules. -/
  | regulate (rules : StartRules K)
  /-- Turn it away from the first leg. -/
  | orient (next : Option P)

section

variable {P K : Type} [Scalar K] [Geodesy P K]

/-- The start point after it was handled, and what was answered to a pair of samples. -/
def handle (start : StartPoint P K) : Handling P K → Option Bool × StartPoint P K
  | .feed now last => (some (start.update now last).1, (start.update now last).2)
  | .prefer preferences => (none, { start with preferences })
  | .regulate rules => (none, { start with rules })
  | .orient next => (none, start.orient next)

/-- The answers while a start point is handled time after time, and the start point after it. -/
def handleAll (start : StartPoint P K) : List (Handling P K) → List Bool × StartPoint P K
  | [] => ([], start)
  | handling :: rest =>
    let (answer, next) := start.handle handling
    let (answers, final) := next.handleAll rest
    (answer.toList ++ answers, final)

/-- A start point that remembers something else as the best start. -/
def withBest (start : StartPoint P K) (best : Option P) : StartPoint P K :=
  { start with bestStart := best }

/-- Nothing looks at the best start that is remembered, and nothing but a search or a reset changes
it. -/
theorem handle_withBest (start : StartPoint P K) (best : Option P) (handling : Handling P K) :
    (start.withBest best).handle handling =
      ((start.handle handling).1, (start.handle handling).2.withBest best) := by
  cases handling with
  | feed now last =>
    have exit : (start.withBest best).isExit now last = start.isExit now last := rfl
    have started : (start.withBest best).isStarted = start.isStarted := rfl
    simp only [handle, update, exit, started]
    split <;> rfl
  | prefer preferences => rfl
  | regulate rules => rfl
  | orient next => rfl

/-- So whatever is done, the answers are the same, and the start point that remembers something else
goes on beside the other one. -/
theorem handleAll_withBest (start : StartPoint P K) (best : Option P)
    (handlings : List (Handling P K)) : (start.withBest best).handleAll handlings =
      ((start.handleAll handlings).1, (start.handleAll handlings).2.withBest best) := by
  induction handlings generalizing start with
  | nil => rfl
  | cons handling rest ih =>
    have first := start.handle_withBest best handling
    have onward := ih (start.handle handling).2
    rw [handleAll, first]
    simp only [handleAll, onward]

end

/-! ## Searches -/

/-- What a search for the best start finds and leaves. -/
structure FindsBest {P : Type} [Geodesy P Float] (start : StartPoint P Float)
    (sample : Sample P Float) (next : P) : Prop where
  /-- It finds the first of the listed places on the border by which the path is shortest. -/
  first : ∃! index, IsFirstShortest (fun via => distanceVia sample.place via next)
    start.anchor.zone.boundary index (start.findBestStart sample next).1
  /-- It remembers this place, and changes nothing else. -/
  remembered : (start.findBestStart sample next).2 =
    { start with bestStart := some (start.findBestStart sample next).1 }
  /-- Whatever is done later has the answers that it has without the search. -/
  unaffected : ∀ handlings, ((start.findBestStart sample next).2.handleAll handlings).1 =
    (start.handleAll handlings).1
  /-- It leads to the same start point, but for the place that is remembered until then. -/
  kept : ∀ handlings, ((start.findBestStart sample next).2.handleAll handlings).2 =
    { (start.handleAll handlings).2 with
      bestStart := some (start.findBestStart sample next).1 }

/-- **A search for the best start finds the first of the shortest ways** through the border of the
zone, wherever all of them have lengths, and leaves all else as it is. -/
theorem finds_best {P : Type} [Geodesy P Float] (start : StartPoint P Float)
    (sample : Sample P Float) (next : P)
    (defined : ∀ via ∈ start.anchor.zone.boundary,
      (distanceVia sample.place via next).isNaN = false) : FindsBest start sample next := by
  have leaves (handlings : List (Handling P Float)) :
      (start.findBestStart sample next).2.handleAll handlings =
        ((start.handleAll handlings).1, (start.handleAll handlings).2.withBest
          (some (start.findBestStart sample next).1)) := start.handleAll_withBest _ handlings
  have found : ∃ index, IsFirstShortest (fun via => distanceVia sample.place via next)
      start.anchor.zone.boundary index (start.bestStartFor sample next) := by
    rw [bestStartFor]
    cases border : start.anchor.zone.boundary with
    | nil => exact absurd border start.anchor.zone.boundary_ne_nil
    | cons first rest =>
      rw [border] at defined
      exact isFirstShortest_firstShortest defined
  have ⟨index, first⟩ := found
  constructor
  · exact ⟨index, first, fun other second => second.index_unique first⟩
  · rfl
  · intro handlings
    rw [leaves]
  · intro handlings
    rw [leaves]
    rfl

end StartPoint

/-! ## Two ways of one length -/

namespace Airstrip

/-- A line a thousand metres long across the head of the strip. On a strip every course but the one
north leads the other way, so all its places lie behind the head. -/
def startLine : StartPoint Airstrip Float :=
  .new (.line 1000) ⟨"Head", ⟨0⟩, 0⟩ ⟨0, ⟨0, 0⟩, true⟩ .none

/-- Between two places of the line the way by either of them is as long as that by the other, and
the first one is found. -/
theorem finds_best_between :
    let glider : Sample Airstrip Float := sample (-250) 0 30 0
    (∀ via ∈ startLine.anchor.zone.boundary,
        (distanceVia glider.place via ⟨-250⟩).isNaN = false) ∧
      StartPoint.FindsBest startLine glider ⟨-250⟩ ∧
      (startLine.findBestStart glider ⟨-250⟩).1.metres = -300 := by
  have defined : ∀ via ∈ startLine.anchor.zone.boundary,
      (distanceVia (sample (-250) 0 30 0).place via (⟨-250⟩ : Airstrip)).isNaN = false := by
    decide +kernel
  exact ⟨defined, StartPoint.finds_best startLine _ _ defined, by decide +kernel⟩

end Airstrip

end Sailplane
