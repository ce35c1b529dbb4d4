import Sailplane.Download.Registry
import Sailplane.Rehearsal.EventKind

/-!
# Roster rehearsals

A registry whose listeners follow a written part: at an event of some kind they register a new
listener or take a registration away. Registrations go by labels, of which the latest counts.
-/
namespace Sailplane.Rehearsal

open Download (Event Registry)

/-- A change of the registrations. -/
inductive RosterChange where
  /-- Register a listener without a part. -/
  | add (label : String)
  /-- Take the latest registration of a label away. -/
  | remove (label : String)
  deriving Repr, DecidableEq

/-- A listener with its part: what it does at which kind of event. -/
structure Player where
  /-- The label. -/
  label : String
  /-- The part. -/
  part : List (EventKind × RosterChange)
  deriving Repr, DecidableEq

/-- What has happened: registrations by label, the latest first, and what the listeners heard. -/
structure Roster where
  /-- The latest registration of each label stands first. -/
  numbers : List (String × Nat)
  /-- What was heard, in order. -/
  heard : List (String × Event)
  deriving Repr

namespace Roster

/-- Register a listener under its label. -/
def add (player : Player) : Roster × Registry Player → Roster × Registry Player
  | (roster, registry) =>
    let (number, registry) := registry.add player
    ({ roster with numbers := (player.label, number) :: roster.numbers }, registry)

/-- Take the latest registration of a label away; none if there never was one. -/
def remove (label : String) :
    Roster × Registry Player → Option Bool × Roster × Registry Player
  | (roster, registry) =>
    match roster.numbers.find? fun entry => entry.1 == label with
    | some (_, number) =>
      let (present, registry) := registry.remove number
      (some present, roster, registry)
    | none => (none, roster, registry)

/-- Make a change. -/
def change (reached : Roster × Registry Player) : RosterChange → Roster × Registry Player
  | .add label => add ⟨label, []⟩ reached
  | .remove label => (remove label reached).2

/-- A listener hears an event and follows its part. -/
def hear (event : Event) (player : Player) : Roster × Registry Player → Roster × Registry Player
  | (roster, registry) =>
    let due := player.part.filterMap fun (kind, step) =>
      if kind = .of event then some step else none
    due.foldl change ({ roster with heard := roster.heard ++ [(player.label, event)] }, registry)

/-- All registered listeners hear an event. -/
def announce (event : Event) : Roster × Registry Player → Roster × Registry Player
  | (roster, registry) => registry.notify (hear event) roster

end Roster

end Sailplane.Rehearsal
