import Sailplane.Proofs.Download.Accounts

/-!
# Turnover

What a move does to the requests that are queued, and what it records for that, whichever move it
is: nothing, a request joins behind the others, the first request of its name leaves, or all are
taken away.
-/
namespace Sailplane.Download

namespace Session

variable {users : Users} {session next : Session users}

/-- What becomes of the requests that are queued in a move with a deed, and the notice recorded for
it. -/
inductive Turnover (session : Session users) (deed : Option (Deed users.Listener))
    (next : Session users) : Prop where
  /-- They stay. -/
  | same (unasked : deed.toList.filterMap Deed.queued? = []) (kept : dropped deed.toList = [])
    (recorded : next.recorded = session.recorded)
    (entries : next.queue.entries = session.queue.entries)
  /-- A request joins behind the others. -/
  | joined (request : Request) (asked : deed = some (.queued request))
    (recorded : next.recorded = session.recorded ++ [.added ⟨session.queue.issued, request⟩])
    (entries : next.queue.entries = session.queue.entries ++ [⟨session.queue.issued, request⟩])
  /-- The first request of its name leaves. -/
  | left (notice : Notice) (unasked : deed.toList.filterMap Deed.queued? = [])
    (kept : dropped deed.toList = []) (terminal : notice.isTerminal = true)
    (first : (session.queue.entries.find? fun other => other.name == notice.entry.name) =
      some notice.entry)
    (recorded : next.recorded = session.recorded ++ [notice])
    (entries : next.queue.entries = session.queue.entries.erase notice.entry)
  /-- All are taken away. -/
  | emptied (asked : deed = some (.emptied session.queue.entries))
    (recorded : next.recorded = session.recorded) (entries : next.queue.entries = [])

/-- Every effect turns the requests over in one of these ways. -/
theorem Effect.turnover {deeds : List (Deed users.Listener)}
    {deed : Option (Deed users.Listener)} (booked : Booked deeds session)
    (effect : Effect session deed next) : Turnover session deed next := by
  cases effect with
  | still neutral shift =>
    refine .same rfl rfl ?_ (congrArg Queue.entries shift.queue)
    rw [Shift.recorded shift, recorded_of_neutral neutral, List.append_nil]
  | woken _ _ shift | rested _ shift | announced _ shift | told shift | begun _ _ _ _ shift
  | passed _ _ shift | discarded _ _ _ _ shift | dropped _ _ _ _ shift
  | outlived _ _ _ _ shift =>
    refine .same rfl rfl ((Shift.recorded shift).trans (List.append_nil _)) ?_
    rw [shift.queue]
  | queued request changed =>
    have yields := yields_enqueue session.queue request
    refine .joined request rfl ?_ ?_
    · rw [Changed.recorded changed rfl, yields.recorded]
    · rw [changed.queue]
      exact yields.entries
  | @cancelled _ name entry _ _ first found neutral changed =>
    have yields := yields_cancel first found
    have called : entry.name = name := by simpa using List.find?_some first
    subst called
    refine .left (.error entry none) rfl rfl rfl first ?_ ?_
    · rw [Changed.recorded changed (recorded_of_neutral neutral), yields.recorded]
    · rw [changed.queue]
      exact yields.entries
  | emptied shift =>
    refine .emptied rfl ((Shift.recorded shift).trans (List.append_nil _)) ?_
    rw [shift.queue]
    rfl
  | @finished _ transfer failure _ listed fetching completed changed =>
    obtain ⟨entry, rest, queued, front, _⟩ :=
      (steady_complete completed listed fetching booked.orderly.steady).1
    have yields := yields_complete completed
    rw [queued] at yields
    have about := Ledger.ending_entry entry failure
    refine .left (.ending entry failure) rfl rfl (Ledger.ending_isTerminal entry failure) ?_ ?_ ?_
    · rw [about, queued]
      exact List.find?_cons_of_pos (beq_self_eq_true _)
    · rw [Changed.recorded changed rfl, yields.recorded]
      rfl
    · rw [about, changed.queue, queued, List.erase_cons_head]
      exact yields.entries

/-- What comes from outside turns nothing over. -/
theorem unturned_input (input : Input session next) :
    next.recorded = session.recorded ∧ next.queue = session.queue := by
  cases input with
  | begin quiet script => exact ⟨rfl, rfl⟩
  | arrive serial message =>
    rcases arrive_cases session serial message with same | ⟨_, _, _, posted⟩
    · rw [same]
      exact ⟨rfl, rfl⟩
    · have shift := shift_post session serial message
      rw [posted]
      exact ⟨(Shift.recorded shift).trans (List.append_nil _), shift.queue⟩

end Session

end Sailplane.Download
