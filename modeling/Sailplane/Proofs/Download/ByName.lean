import Sailplane.Proofs.Download.Turnover

/-!
# Requests of one name

Who is told of a notice learns the name of a request and not which one it was. As long as the queue
is not emptied that is enough: the requests of a name leave the queue in the order in which they
came, whether they were cancelled or have their results. Of those that a shutdown takes away nobody
is told; the others still leave in their order.
-/
namespace Sailplane.Download

/-- The requests of a name, in order. -/
def named (name : String) (entries : List Entry) : List Entry :=
  entries.filter fun entry => entry.name == name

/-- The requests of a name among some and then others. -/
theorem named_append (name : String) (entries more : List Entry) :
    named name (entries ++ more) = named name entries ++ named name more :=
  List.filter_append _ _

/-- A request is among those of its name. -/
theorem mem_named {name : String} {entries : List Entry} {entry : Entry} :
    entry ∈ named name entries ↔ entry ∈ entries ∧ entry.name = name := by
  rw [named, List.mem_filter, beq_iff_eq]

/-- The first request of its name may be put in front of the others without a change of the order
within any name. -/
theorem named_of_first {entries : List Entry} {entry : Entry}
    (first : (entries.find? fun other => other.name == entry.name) = some entry) (name : String) :
    named name entries = named name [entry] ++ named name (entries.erase entry) := by
  induction entries with
  | nil => exact absurd first (by simp)
  | cons head rest ih =>
    by_cases chosen : head.name = entry.name
    · have here : (head.name == entry.name) = true := beq_iff_eq.mpr chosen
      rw [List.find?_cons, here, Option.some.injEq] at first
      rw [first, List.erase_cons_head]
      exact named_append name [entry] rest
    · have elsewhere : (head.name == entry.name) = false := beq_eq_false_iff_ne.mpr chosen
      rw [List.find?_cons, elsewhere] at first
      have different : ¬(head == entry) = true := fun same => chosen (beq_iff_eq.mp same ▸ rfl)
      rw [List.erase_cons_tail different]
      by_cases asked : head.name = name
      · have other : named name [entry] = [] := by
          rw [named, List.filter_eq_nil_iff]
          intro only listed
          rw [List.mem_singleton.mp listed, beq_iff_eq, ← asked]
          exact fun same => chosen same.symm
        have after := ih first
        rw [other, List.nil_append] at after ⊢
        exact (named_append name [head] rest).trans
          ((congrArg _ after).trans (named_append name [head] _).symm)
      · have skipped (others : List Entry) : named name (head :: others) = named name others :=
          List.filter_cons_of_neg (by simpa using asked)
        rw [skipped, skipped]
        exact ih first

/-- The requests that were queued and that no shutdown has taken away, in order. -/
def retained {Listener : Type} (deeds : List (Deed Listener)) : List Entry :=
  (enqueued deeds).filter fun entry => decide (entry ∉ dropped deeds)

/-- What neither queues a request nor takes one away leaves those that were not taken away. -/
theorem retained_append {Listener : Type} (deeds more : List (Deed Listener))
    (nothing : more.filterMap Deed.queued? = []) (undropped : dropped more = []) :
    retained (deeds ++ more) = retained deeds := by
  have same : dropped (deeds ++ more) = dropped deeds := by
    rw [dropped, List.flatMap_append]
    exact (congrArg _ undropped).trans (List.append_nil _)
  rw [retained, retained, enqueued_append _ _ nothing, same]

namespace Session

variable {users : Users} {session after : Session users}

/-- Whether the requests of every name are those that have left the queue, in the order in which
they have, and then those that wait. -/
def InTurn (deeds : List (Deed users.Listener)) (session : Session users) : Prop :=
  dropped deeds = [] → ∀ name, named name (enqueued deeds) =
    named name (ended session.recorded) ++ named name session.queue.entries

/-- Whether the requests of every name that no shutdown has taken away are those that have left the
queue, in the order in which they have, and then those that wait. -/
def LinedUp (deeds : List (Deed users.Listener)) (session : Session users) : Prop :=
  ∀ name, named name (retained deeds) =
    named name (ended session.recorded) ++ named name session.queue.entries

/-- What neither queues nor ends nor takes away a request leaves all lined up. -/
theorem LinedUp.aside {deeds : List (Deed users.Listener)} {deed : Option (Deed users.Listener)}
    (linedUp : LinedUp deeds session) (nothing : deed.toList.filterMap Deed.queued? = [])
    (undropped : dropped deed.toList = []) (recorded : after.recorded = session.recorded)
    (entries : after.queue.entries = session.queue.entries) :
    LinedUp (deeds ++ deed.toList) after := by
  intro name
  rw [retained_append _ _ nothing undropped, recorded, entries]
  exact linedUp name

/-- When the first request of its name leaves the queue all stays lined up. -/
theorem LinedUp.settle {deeds : List (Deed users.Listener)} {deed : Option (Deed users.Listener)}
    (linedUp : LinedUp deeds session) (entry : Entry) (notice : Notice)
    (nothing : deed.toList.filterMap Deed.queued? = []) (undropped : dropped deed.toList = [])
    (first : (session.queue.entries.find? fun other => other.name == entry.name) = some entry)
    (about : notice.isTerminal = true ∧ notice.entry = entry)
    (recorded : after.recorded = session.recorded ++ [notice])
    (entries : after.queue.entries = session.queue.entries.erase entry) :
    LinedUp (deeds ++ deed.toList) after := by
  intro name
  rw [retained_append _ _ nothing undropped, recorded, entries, ended_append,
    ended_single about.1, about.2, named_append, List.append_assoc, ← named_of_first first]
  exact linedUp name

/-- When a request is queued all stays lined up: it is new. -/
theorem LinedUp.queued {deeds : List (Deed users.Listener)} (linedUp : LinedUp deeds session)
    (booked : Booked deeds session) (request : Request)
    (recorded : ended after.recorded = ended session.recorded)
    (entries : after.queue.entries = session.queue.entries ++ [⟨session.queue.issued, request⟩]) :
    LinedUp (deeds ++ [.queued request]) after := by
  intro name
  have new : (⟨(enqueued deeds).length, request⟩ : Entry) ∉ dropped deeds := by
    intro taken
    exact booked.balanced.fresh rfl (booked.balanced.gone _ taken).1
  have more : retained (deeds ++ [.queued request]) =
      retained deeds ++ [⟨(enqueued deeds).length, request⟩] := by
    have same : dropped (deeds ++ [.queued request]) = dropped deeds := by
      rw [dropped, List.flatMap_append]
      exact List.append_nil _
    rw [retained, same, enqueued_queued, List.filter_append]
    exact congrArg _ (List.filter_cons_of_pos (decide_eq_true new))
  rw [more, recorded, entries, booked.issued, named_append, named_append, ← List.append_assoc,
    linedUp name]

/-- When all requests are taken away all stays lined up: none that has ended is among them. -/
theorem LinedUp.emptied {deeds : List (Deed users.Listener)} (linedUp : LinedUp deeds session)
    (booked : Booked deeds session) (recorded : after.recorded = session.recorded)
    (entries : after.queue.entries = []) :
    LinedUp (deeds ++ [.emptied session.queue.entries]) after := by
  intro name
  have fewer : retained (deeds ++ [.emptied session.queue.entries]) =
      (retained deeds).filter fun entry => decide (entry ∉ session.queue.entries) := by
    have more : dropped (deeds ++ [.emptied session.queue.entries]) =
        dropped deeds ++ session.queue.entries := by
      rw [dropped, List.flatMap_append]
      exact congrArg _ (List.append_nil _)
    rw [retained, retained, more, enqueued_append _ _ rfl, List.filter_filter]
    refine List.filter_congr fun entry _ => ?_
    simp [List.mem_append, and_comm]
  have gone : (named name session.queue.entries).filter
      (fun entry => decide (entry ∉ session.queue.entries)) = [] := by
    rw [List.filter_eq_nil_iff]
    intro entry listed
    simpa using (mem_named.mp listed).1
  have stay : (named name (ended session.recorded)).filter
      (fun entry => decide (entry ∉ session.queue.entries)) =
        named name (ended session.recorded) := by
    rw [List.filter_eq_self]
    intro entry listed
    have gone := (mem_named.mp listed).1
    exact decide_eq_true fun waits => (booked.balanced.mem_queue.mp waits).2.2 gone
  have before := congrArg
    (List.filter fun entry => decide (entry ∉ session.queue.entries)) (linedUp name)
  rw [List.filter_append, gone, stay, List.append_nil] at before
  rw [fewer, recorded, entries, named, List.filter_comm]
  exact before.trans (List.append_nil _).symm

/-- Every effect leaves all lined up. -/
theorem LinedUp.next {deeds : List (Deed users.Listener)} {deed : Option (Deed users.Listener)}
    (linedUp : LinedUp deeds session) (booked : Booked deeds session)
    (effect : Effect session deed after) : LinedUp (deeds ++ deed.toList) after := by
  cases effect.turnover booked with
  | same unasked kept recorded entries => exact linedUp.aside unasked kept recorded entries
  | joined request asked recorded entries =>
    subst asked
    refine linedUp.queued booked request ?_ entries
    rw [recorded, ended_append]
    exact List.append_nil _
  | left notice unasked kept terminal first recorded entries =>
    exact linedUp.settle notice.entry notice unasked kept first ⟨terminal, rfl⟩ recorded entries
  | emptied asked recorded entries =>
    subst asked
    exact linedUp.emptied booked recorded entries

/-- In every run the requests of a name that no shutdown has taken away are lined up. -/
theorem Run.lined_up {state : users.State} {past : History users}
    (run : Run (.new state) past session) : LinedUp past.deeds session := by
  refine (Run.induct (fun deeds session => Booked deeds session ∧ LinedUp deeds session)
    ⟨booked_new state, fun _ => rfl⟩ ?_ run).2
  intro deeds session deed next _ both effect
  exact ⟨both.1.next effect, LinedUp.next both.2 both.1 effect⟩

/-- In every run without a shutdown the requests of a name are in turn. -/
theorem Run.in_turn {state : users.State} {past : History users}
    (run : Run (.new state) past session) : InTurn past.deeds session := by
  intro undropped name
  have all : retained past.deeds = enqueued past.deeds := by
    rw [retained, List.filter_eq_self]
    simp [undropped]
  exact all ▸ run.lined_up name

end Session

end Sailplane.Download
