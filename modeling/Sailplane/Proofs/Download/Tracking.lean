import Mathlib.Data.List.Induction
import Sailplane.Download.Tracker
import Sailplane.Proofs.Text.Named

/-!
# Tracking

What a tracker knows of the download of a name after some events is decided by the last event of
that name, whatever came before it and whatever the others were about. What it knows of the failure
of a name is decided by the last event of that name that does not tell of a result.
-/
namespace Sailplane.Download

namespace Event

/-- How far a download is after an event about it, unless it is over. -/
def status? : Event → Option Status
  | added _ status => some status
  | complete _ => none
  | error _ _ => none

end Event

namespace Tracker

/-! ## One event -/

/-- An event without a letter in its name is passed over. -/
theorem record_unnamed (tracker : Tracker) {event : Event} (unnamed : event.name = "") :
    tracker.record event = tracker := by
  rw [record.eq_def, if_pos (String.isEmpty_iff.mpr unnamed)]

/-- Any other is recorded. -/
theorem record_named (tracker : Tracker) {event : Event} (named : event.name ≠ "") :
    tracker.record event =
      match event with
      | .added name status =>
        ⟨Named.insert name status tracker.downloads, Named.erase name tracker.failures⟩
      | .complete name => { tracker with downloads := Named.erase name tracker.downloads }
      | .error name failure =>
        ⟨Named.erase name tracker.downloads,
          Named.insert name (failure.map Failure.message) tracker.failures⟩ := by
  rw [record.eq_def, if_neg (mt String.isEmpty_iff.mp named)]
  cases event with
  | added | complete | error => rfl

/-- An event tells how far the download of its name is, and nothing about others; one without a
letter in its name is passed over. -/
theorem status?_record (tracker : Tracker) (event : Event) (name : String) :
    (tracker.record event).status? name =
      if event.name = name ∧ name ≠ "" then event.status? else tracker.status? name := by
  by_cases unnamed : event.name = ""
  · rw [record_unnamed tracker unnamed, if_neg fun both => both.2 (both.1 ▸ unnamed)]
  · rw [record_named tracker unnamed]
    by_cases same : event.name = name
    · subst same
      rw [if_pos ⟨rfl, unnamed⟩]
      cases event with
      | added other status => exact Named.find?_insert other status tracker.downloads
      | complete other => exact Named.find?_erase other tracker.downloads
      | error other failure => exact Named.find?_erase other tracker.downloads
    · rw [if_neg fun both => same both.1]
      cases event with
      | added other status => exact Named.find?_insert_other same status tracker.downloads
      | complete other => exact Named.find?_erase_other same tracker.downloads
      | error other failure => exact Named.find?_erase_other same tracker.downloads

/-- An event that a download was queued forgets the failure of its name, one that a download failed
puts its failure there, and nothing is known of the failures of others. -/
theorem failure?_record (tracker : Tracker) (event : Event) (name : String) :
    (tracker.record event).failure? name =
      if event.name = name ∧ name ≠ "" then
        match event with
        | .added _ _ => none
        | .complete _ => tracker.failure? name
        | .error _ failure => some (failure.map Failure.message)
      else tracker.failure? name := by
  by_cases unnamed : event.name = ""
  · rw [record_unnamed tracker unnamed, if_neg fun both => both.2 (both.1 ▸ unnamed)]
  · rw [record_named tracker unnamed]
    by_cases same : event.name = name
    · subst same
      rw [if_pos ⟨rfl, unnamed⟩]
      cases event with
      | added other status => exact Named.find?_erase other tracker.failures
      | complete other => rfl
      | error other failure =>
        exact Named.find?_insert other (failure.map Failure.message) tracker.failures
    · rw [if_neg fun both => same both.1]
      cases event with
      | added other status => exact Named.find?_erase_other same tracker.failures
      | complete other => rfl
      | error other failure =>
        exact Named.find?_insert_other same (failure.map Failure.message) tracker.failures

/-- Whether what is known stands in the order of the names. -/
structure Ordered (tracker : Tracker) : Prop where
  /-- The downloads do. -/
  downloads : Named.Sorted tracker.downloads
  /-- The failures do. -/
  failures : Named.Sorted tracker.failures

/-- A record keeps the order of the names. -/
theorem ordered_record {tracker : Tracker} (ordered : tracker.Ordered) (event : Event) :
    (tracker.record event).Ordered := by
  by_cases unnamed : event.name = ""
  · rw [record_unnamed tracker unnamed]
    exact ordered
  · rw [record_named tracker unnamed]
    obtain ⟨downloads, failures⟩ := ordered
    cases event with
    | added other status =>
      exact ⟨Named.sorted_insert downloads other status, Named.sorted_erase failures other⟩
    | complete other => exact ⟨Named.sorted_erase downloads other, failures⟩
    | error other failure =>
      exact ⟨Named.sorted_erase downloads other, Named.sorted_insert failures other _⟩

/-! ## All events -/

/-- What is known after some events. -/
def after (events : List Event) : Tracker := events.foldl record empty

/-- What is known after one event more. -/
theorem after_concat (events : List Event) (event : Event) :
    after (events ++ [event]) = (after events).record event := by
  rw [after, List.foldl_append]
  rfl

/-- What is known after some events stands in the order of the names. -/
theorem ordered_after (events : List Event) : (after events).Ordered := by
  induction events using List.reverseRecOn with
  | nil => exact ⟨List.Pairwise.nil, List.Pairwise.nil⟩
  | append_singleton events event ih =>
    rw [after_concat]
    exact ordered_record ih event

/-- The downloads known after some events stand in the order of their names. -/
theorem sorted_after (events : List Event) : Named.Sorted (after events).downloads :=
  (ordered_after events).downloads

/-- After events that only tell that downloads were queued, those are listed that have a letter in
their names. -/
theorem isDownloading_after_added (entries : List (String × Status)) (name : String) :
    (after (entries.map fun entry => .added entry.1 entry.2)).isDownloading name = true ↔
      name ≠ "" ∧ ∃ entry ∈ entries, entry.1 = name := by
  induction entries using List.reverseRecOn with
  | nil => simp [after, empty, isDownloading, status?, Named.find?]
  | append_singleton entries last ih =>
    rw [List.map_append, List.map_singleton, after_concat, isDownloading, status?_record]
    by_cases told : last.1 = name ∧ name ≠ ""
    · rw [show Event.name (.added last.1 last.2) = last.1 from rfl, if_pos told]
      exact iff_of_true rfl ⟨told.2, last, by simp, told.1⟩
    · rw [show Event.name (.added last.1 last.2) = last.1 from rfl, if_neg told]
      refine ih.trans (and_congr_right fun letters => ?_)
      have another : last.1 ≠ name := fun same => told ⟨same, letters⟩
      simp [another]

end Tracker

end Sailplane.Download
