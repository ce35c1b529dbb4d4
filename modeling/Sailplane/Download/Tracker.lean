import Sailplane.Download.Event
import Sailplane.Text.Named

/-!
# Tracker

A view of a queue made from its events: the downloads that wait or run, and the names that failed
last. A name without a letter is passed over.
-/
namespace Sailplane.Download

/-- What is known of the downloads of a queue. -/
structure Tracker where
  /-- How far the downloads are that wait or run. -/
  downloads : List (String × Status)
  /-- The names that failed last, with the words of the failure; none if cancelled. -/
  failures : List (String × Option String)
  deriving Repr, DecidableEq

namespace Tracker

/-- Nothing is known. -/
def empty : Tracker := ⟨[], []⟩

/-- What is known after an event. -/
def record (tracker : Tracker) (event : Event) : Tracker :=
  if event.name.isEmpty then tracker
  else match event with
    | .added name status =>
      ⟨Named.insert name status tracker.downloads, Named.erase name tracker.failures⟩
    | .complete name => { tracker with downloads := Named.erase name tracker.downloads }
    | .error name failure =>
      ⟨Named.erase name tracker.downloads,
        Named.insert name (failure.map Failure.message) tracker.failures⟩

/-- How far the download of a name is. -/
def status? (tracker : Tracker) (name : String) : Option Status :=
  Named.find? name tracker.downloads

/-- Whether a download of that name waits or runs. -/
def isDownloading (tracker : Tracker) (name : String) : Bool := (tracker.status? name).isSome

/-- The failure of a name, if it failed last; an inner none if it was cancelled. -/
def failure? (tracker : Tracker) (name : String) : Option (Option String) :=
  Named.find? name tracker.failures

/-- Whether a name failed last. -/
def hasFailed (tracker : Tracker) (name : String) : Bool := (tracker.failure? name).isSome

end Tracker

end Sailplane.Download
