import Mathlib.Data.List.DropRight
import Sailplane.Proofs.Download.Tracking

/-!
# Recollection

What a tracker knows of a name can be told from what it heard of that name since it last forgot
all. A download waits or runs if the last it heard was that it was queued; a failure stands until
the name is queued again, whether or not it completes in between.
-/
namespace Sailplane.Download

namespace Event

/-- Whether the event tells that a download stands in the queue. -/
def isAdded : Event → Bool
  | added _ _ => true
  | _ => false

/-- The failure that the event tells of, in words; without words if the download was cancelled. -/
def failed? : Event → Option (Option String)
  | error _ failure => some (failure.map Failure.message)
  | _ => none

end Event

namespace Tracker

/-! ## What a tracker is told -/

/-- What may be done with a tracker. -/
inductive Deed where
  /-- It hears an event. -/
  | hear (event : Event)
  /-- It forgets all. -/
  | clear
  deriving Repr, DecidableEq

/-- The event that is heard. -/
def Deed.heard? : Deed → Option Event
  | hear event => some event
  | clear => none

/-- What is known after a deed. -/
def perform (tracker : Tracker) : Deed → Tracker
  | .hear event => tracker.record event
  | .clear => empty

/-- What is known after deeds, nothing being known at first. -/
def reached (deeds : List Deed) : Tracker := deeds.foldl perform empty

/-- The events that were heard since all was last forgotten. -/
def sinceClear (deeds : List Deed) : List Event :=
  (deeds.rtakeWhile fun deed => deed.heard?.isSome).filterMap Deed.heard?

/-- The events of a name; none if it has no letter. -/
def own (name : String) (events : List Event) : List Event :=
  events.filter fun event => event.name = name ∧ name ≠ ""

/-- The last failure that events of one name tell of since the name was last queued, or at all if it
never was. -/
def lastFailed? (events : List Event) : Option (Option String) :=
  ((events.rtakeWhile fun event => !event.isAdded).filterMap Event.failed?).getLast?

/-- Only what was heard since all was last forgotten counts. -/
theorem reached_eq (deeds : List Deed) : reached deeds = after (sinceClear deeds) := by
  induction deeds using List.reverseRecOn with
  | nil => rfl
  | append_singleton deeds deed ih =>
    rw [reached, List.foldl_concat, ← reached, sinceClear]
    cases deed with
    | hear event =>
      rw [List.rtakeWhile_concat_pos _ _ _ rfl, List.filterMap_append, ← sinceClear, ih]
      exact (after_concat _ event).symm
    | clear =>
      rw [List.rtakeWhile_concat_neg _ _ _ Bool.false_ne_true]
      rfl

/-- Whether a deed is other than to hear an event without a letter in its name. -/
def Deed.counts (deed : Deed) : Bool := deed.heard?.all fun event => event.name ≠ ""

/-- Events without a letter in their names leave nothing behind. -/
theorem reached_counts (deeds : List Deed) :
    reached (deeds.filter Deed.counts) = reached deeds := by
  induction deeds using List.reverseRecOn with
  | nil => rfl
  | append_singleton deeds deed ih =>
    rw [List.filter_append, reached, reached, List.foldl_append, List.foldl_concat, ← reached,
      ← reached, ih]
    cases deed with
    | clear => rfl
    | hear event =>
      by_cases unnamed : event.name = ""
      · rw [List.filter_cons_of_neg (by simp [Deed.counts, Deed.heard?, unnamed])]
        exact (record_unnamed _ unnamed).symm
      · rw [List.filter_cons_of_pos (by simp [Deed.counts, Deed.heard?, unnamed])]
        rfl

/-! ## One name -/

/-- An event more is one of a name if it has that name. -/
theorem own_concat (name : String) (events : List Event) (event : Event) :
    own name (events ++ [event]) =
      if event.name = name ∧ name ≠ "" then own name events ++ [event] else own name events := by
  rw [own, List.filter_append, ← own]
  by_cases told : event.name = name ∧ name ≠ ""
  · rw [if_pos told, List.filter_cons_of_pos (by simpa using told), List.filter_nil]
  · rw [if_neg told, List.filter_cons_of_neg (by simpa using told), List.filter_nil,
      List.append_nil]

/-- How far a download is was told by the last event of its name. -/
theorem status?_after (events : List Event) (name : String) :
    (after events).status? name = (own name events).getLast?.bind Event.status? := by
  induction events using List.reverseRecOn with
  | nil => rfl
  | append_singleton events event ih =>
    rw [after_concat, status?_record, own_concat]
    split
    · rw [List.getLast?_concat, Option.bind_some]
    · exact ih

/-- When a name is queued, its failures are forgotten. -/
theorem lastFailed?_queued (events : List Event) {event : Event} (queued : event.isAdded = true) :
    lastFailed? (events ++ [event]) = none := by
  rw [lastFailed?, List.rtakeWhile_concat_neg _ _ _ (by simp [queued])]
  rfl

/-- A completion leaves the failures before it, and a new one takes their place. -/
theorem lastFailed?_ended (events : List Event) {event : Event} (ended : event.isAdded = false) :
    lastFailed? (events ++ [event]) = event.failed?.or (lastFailed? events) := by
  rw [lastFailed?, List.rtakeWhile_concat_pos _ _ _ (by simp [ended]), List.filterMap_append,
    List.getLast?_append, ← lastFailed?]
  cases event <;> rfl

/-- The failure of a name is the last of which was told since the name was last queued. -/
theorem failure?_after (events : List Event) (name : String) :
    (after events).failure? name = lastFailed? (own name events) := by
  induction events using List.reverseRecOn with
  | nil => rfl
  | append_singleton events event ih =>
    rw [after_concat, failure?_record, own_concat]
    split
    · cases event with
      | added other status => rw [lastFailed?_queued _ rfl]
      | complete other =>
        rw [lastFailed?_ended _ rfl]
        exact ih
      | error other failure =>
        rw [lastFailed?_ended _ rfl]
        rfl
    · exact ih

/-- No name is listed as both under way and failed. -/
theorem apart_after (events : List Event) {name : String}
    (downloading : (after events).isDownloading name = true) :
    (after events).hasFailed name = false := by
  rw [isDownloading, status?_after] at downloading
  obtain ⟨status, told⟩ := Option.isSome_iff_exists.mp downloading
  obtain ⟨last, ends, tells⟩ := Option.bind_eq_some_iff.mp told
  obtain ⟨before, whole⟩ := List.getLast?_eq_some_iff.mp ends
  -- the last event tells of a download in the queue, so that nothing is left since then
  have queued : last.isAdded = true := by
    cases last with
    | added => rfl
    | complete | error => cases tells
  rw [hasFailed, failure?_after, whole, lastFailed?_queued before queued]
  rfl

/-! ## All names -/

/-- What a tracker should know after deeds. -/
structure Remembers (deeds : List Deed) (tracker : Tracker) : Prop where
  /-- How far a download is was told by the last event of its name, unless that told of its end. -/
  status : ∀ name,
    tracker.status? name = (own name (sinceClear deeds)).getLast?.bind Event.status?
  /-- The failure of a name is the last of which was told since the name was last queued, or at all
  if it never was. -/
  failure : ∀ name, tracker.failure? name = lastFailed? (own name (sinceClear deeds))
  /-- The downloads stand in the order of the names. -/
  downloads_sorted : Named.Sorted tracker.downloads
  /-- Those are listed of which is known how far they are. -/
  mem_downloads : ∀ name status,
    (name, status) ∈ tracker.downloads ↔ tracker.status? name = some status
  /-- The failures stand in the order of the names. -/
  failures_sorted : Named.Sorted tracker.failures
  /-- Those are listed that are known. -/
  mem_failures : ∀ name words,
    (name, words) ∈ tracker.failures ↔ tracker.failure? name = some words
  /-- No name is in both lists. -/
  apart : (tracker.downloads.map (·.1)).Disjoint (tracker.failures.map (·.1))
  /-- Events without a letter in their names leave nothing behind. -/
  unnamed : tracker = reached (deeds.filter Deed.counts)

/-- Whatever a tracker hears, and whenever it forgets all, it knows what it should. -/
theorem remembers_reached (deeds : List Deed) : Remembers deeds (reached deeds) where
  status name := by rw [reached_eq, status?_after]
  failure name := by rw [reached_eq, failure?_after]
  downloads_sorted := reached_eq deeds ▸ (ordered_after _).downloads
  mem_downloads name status := by
    rw [reached_eq]
    exact Named.mem_iff_find? (ordered_after _).downloads
  failures_sorted := reached_eq deeds ▸ (ordered_after _).failures
  mem_failures name words := by
    rw [reached_eq]
    exact Named.mem_iff_find? (ordered_after _).failures
  apart := by
    intro name downloading failed
    rw [reached_eq] at downloading failed
    have free := apart_after _ (Named.isSome_find?.mpr downloading)
    exact Bool.false_ne_true (free.symm.trans (Named.isSome_find?.mpr failed))
  unnamed := (reached_counts deeds).symm

/-- A failure outlives a completion, but not the next time that the name is queued. -/
example :
    let failed := [Deed.hear (.error "a" none), .hear (.complete "a")]
    (reached failed).failures = [("a", none)] ∧
      (reached (failed ++ [.hear (.added "a" .queued)])).failures = [] := by
  decide

end Tracker

end Sailplane.Download
