import Sailplane.Proofs.Download.Grounded
import Sailplane.Proofs.Download.Sources
import Sailplane.Proofs.Download.Told

/-!
# Rounds

Listeners are told that requests are over by the handing out of notices, one round for each notice,
and by nothing else. So who listens once whenever such a notice is handed out can count the requests
of a name that are over: they are, in order, the first ones of those that no shutdown takes away.
-/
namespace Sailplane.Download

variable {users : Users}

/-- Whether an event is that a request is over. -/
def Event.isTerminal : Event → Bool
  | added _ _ => false
  | complete _ => true
  | error _ _ => true

/-- The event of a notice is that a request is over if the notice is. -/
theorem isTerminal_event (notice : Notice) : notice.event.isTerminal = notice.isTerminal := by
  cases notice with
  | _ => rfl

/-- The event of a notice is about the request by its name. -/
theorem name_event (notice : Notice) : notice.event.name = notice.entry.name := by
  cases notice with
  | _ => rfl

/-! ## Who tells -/

/-- Whether only what hands notices out tells listeners that requests are over. -/
def Prompted : List (Frame users) → Prop
  | [] => True
  | .tell calls :: below =>
    ((∃ lower, below = .drain :: lower) ∨ ∀ call ∈ calls, call.2.isTerminal = false) ∧
      Prompted below
  | _ :: below => Prompted below

namespace Prompted

variable {stack : List (Frame users)}

/-- Where nobody is told anything nobody is told that a request is over. -/
theorem of_bare (bare : ∀ frame ∈ stack, frame.isPlain = false) : Prompted stack := by
  induction stack with
  | nil => trivial
  | cons frame rest ih =>
    have first := bare frame List.mem_cons_self
    have others := ih fun other listed => bare other (List.mem_cons_of_mem _ listed)
    cases frame with
    | script | tell => exact Bool.noConfusion first
    | drain | transfer | «show» => exact others

end Prompted

namespace Session

variable {session next : Session users}

/-- A call tells nobody that a request is over by itself. -/
theorem prompted_perform (session : Session users) (operation : Operation users.Listener)
    {rest : List (Frame users)} (prompted : Prompted rest) :
    Prompted ((session.perform operation).2.1 ++ rest) := by
  rcases frames_perform session operation with none | drain | ⟨calls, tell⟩
  · rw [none]
    exact prompted
  · rw [drain]
    exact prompted
  · have listed : .tell calls ∈ (session.perform operation).2.1 := by simp [tell]
    obtain ⟨_, _, replayed⟩ := enumerated_of_perform listed
    rw [tell]
    refine ⟨.inr fun call among => ?_, prompted⟩
    obtain ⟨name, status, added⟩ := (replayed call among).2
    rw [added]
    rfl

/-- Every step leaves it to what hands notices out to tell that requests are over. -/
theorem prompted_step (taken : session.step? = some next) (framed : Framed session)
    (prompted : Prompted session.stack) : Prompted next.stack := by
  rcases step_cases taken with ⟨frame, rest, stack, rfl⟩ | ⟨job, ready, stack, _, rfl⟩
  · have nested := framed.nested
    rw [stack] at prompted nested
    generalize session.queue.delivering = delivering at nested
    cases nested with
    | script script below =>
      cases script with
      | done | get | set | note => exact prompted
      | call operation script =>
        have goes_on : Prompted (.script (script (session.perform operation).1) :: rest) := prompted
        exact prompted_perform session operation goes_on
    | @tell _ _ calls below =>
      cases calls with
      | nil => exact prompted.2
      | cons call calls =>
        exact ⟨prompted.1.imp_right fun quiet other listed =>
          quiet other (List.mem_cons_of_mem _ listed), prompted.2⟩
    | shown name found below => exact prompted
    | drain below =>
      cases outbox : session.queue.outbox with
      | nil =>
        rw [(shift_drain_nil rest outbox).2]
        exact prompted
      | cons notice others =>
        rw [advance_drain_cons outbox]
        exact ⟨.inl ⟨_, rfl⟩, prompted⟩
    | transfer found fetching message allowance =>
      exact .of_bare (bare_read session _ message allowance)
  · exact .of_bare (bare_run { session with ready } stack job)

/-- In every run only what hands notices out tells listeners that requests are over. -/
theorem Run.prompted {state : users.State} {past : History users}
    (run : Run (.new state) past session) : Prompted session.stack := by
  induction run with
  | refl => trivial
  | step before taken ih => exact prompted_step taken (before.framed (framed_new state)) ih
  | input before input ih =>
    cases input with
    | begin quiet script => exact ih
    | arrive serial message =>
      rw [stack_arrive]
      exact ih

/-- In every run a listener that is told that a request is over is told by what hands notices
out. -/
theorem Run.drain_of_told {state : users.State} {past : History users}
    (run : Run (.new state) past session) {listener : users.Listener} {event : Event}
    {calls : List (users.Listener × Event)} {rest : List (Frame users)}
    (stack : session.stack = .tell ((listener, event) :: calls) :: rest)
    (terminal : event.isTerminal = true) : ∃ below, rest = .drain :: below := by
  have prompted := run.prompted
  rw [stack] at prompted
  refine prompted.1.resolve_right fun quiet => ?_
  rw [quiet _ List.mem_cons_self] at terminal
  exact Bool.noConfusion terminal

end Session

/-! ## How often it is told -/

section Count

variable {Listener : Type}

/-- Whether it is told to certain listeners that a request of a name is over. -/
def tells (mine : Listener → Bool) (name : String) (call : Listener × Event) : Bool :=
  mine call.1 && call.2.isTerminal && call.2.name == name

/-- A notice is told to those who listen, if it says that a request of the name is over. -/
theorem countP_callsFor (mine : Listener → Bool) (name : String) (notice : Notice)
    (listeners : List Listener) : (callsFor (notice, listeners)).countP (tells mine name) =
      (named name (ended [notice])).length * listeners.countP mine := by
  have same : (callsFor (notice, listeners)).countP (tells mine name) =
      listeners.countP fun listener =>
        mine listener && notice.isTerminal && notice.entry.name == name := by
    rw [callsFor, List.countP_map]
    simp only [Function.comp_def, tells, isTerminal_event, name_event]
  rw [same]
  cases terminal : notice.isTerminal with
  | false =>
    have none : ended [notice] = [] := by simp [ended, terminal]
    simp [none, named]
  | true =>
    rw [ended_single terminal]
    by_cases about : notice.entry.name = name
    · simp [named, about]
    · simp [named, about]

/-- Whether certain listeners were one whenever a notice that a request of a name is over was handed
out. -/
def Listens (mine : Listener → Bool) (name : String) (deeds : List (Deed Listener)) : Prop :=
  ∀ sent ∈ handedOut deeds, sent.1.isTerminal = true → sent.1.entry.name = name →
    sent.2.countP mine = 1

/-- Who listens once whenever it is handed out that a request of a name is over is told of it once
each time. -/
theorem countP_rounds {mine : Listener → Bool} {name : String}
    (handed : List (Notice × List Listener)) (listens : ∀ sent ∈ handed,
      sent.1.isTerminal = true → sent.1.entry.name = name → sent.2.countP mine = 1) :
    (handed.flatMap callsFor).countP (tells mine name) =
      (named name (ended (handed.map (·.1)))).length := by
  induction handed with
  | nil => rfl
  | cons first rest ih =>
    obtain ⟨notice, listeners⟩ := first
    have others := ih fun sent listed => listens sent (List.mem_cons_of_mem _ listed)
    have here : (callsFor (notice, listeners)).countP (tells mine name) =
        (named name (ended [notice])).length := by
      rw [countP_callsFor]
      by_cases ends : notice.isTerminal = true ∧ notice.entry.name = name
      · rw [listens _ List.mem_cons_self ends.1 ends.2, Nat.mul_one]
      · have none : named name (ended [notice]) = [] := by
          rw [named, List.filter_eq_nil_iff]
          intro entry listed
          obtain ⟨other, among, terminal, same⟩ := mem_ended.mp listed
          obtain rfl := List.mem_singleton.mp among
          rw [beq_iff_eq, ← same]
          exact fun about => ends ⟨terminal, about⟩
        rw [none, List.length_nil, Nat.zero_mul]
    have all : ended (notice :: rest.map (·.1)) = ended [notice] ++ ended (rest.map (·.1)) :=
      ended_append [notice] _
    rw [List.flatMap_cons, List.countP_append, here, others, List.map_cons, all, named_append,
      List.length_append]

end Count

namespace Session

variable {session : Session users} {state : users.State} {past : History users}

/-- In every run in which certain listeners listen once whenever it is handed out that a request of
a name is over, they were told so and are still to be told so as often as that was handed out. -/
theorem Run.countP_told (run : Run (.new state) past session) {mine : users.Listener → Bool}
    {name : String} (listens : Listens mine name past.deeds) :
    (told past.deeds).countP (tells mine name) + session.due.countP (tells mine name) =
      (named name (ended ((handedOut past.deeds).map (·.1)))).length := by
  rw [← countP_rounds _ listens, ← run.settled, List.countP_append]

/-- In every run in which certain listeners listen once whenever it is handed out that a request of
a name is over, one of them that is told so is told of the first request of that name of which they
were not told, but for those that a shutdown has taken away. -/
theorem Run.over_in_turn (run : Run (.new state) past session) {mine : users.Listener → Bool}
    {name : String} (listens : Listens mine name past.deeds) {listener : users.Listener}
    {event : Event} {calls : List (users.Listener × Event)} {rest : List (Frame users)}
    (stack : session.stack = .tell ((listener, event) :: calls) :: rest)
    (hears : tells mine name (listener, event) = true) :
    ∃ notice, ((handedOut past.deeds).map (·.1)).getLast? = some notice ∧ notice.event = event ∧
      (named name (retained past.deeds))[(told past.deeds).countP (tells mine name)]? =
        some notice.entry := by
  simp only [tells, Bool.and_eq_true, beq_iff_eq] at hears
  obtain ⟨⟨own, terminal⟩, about⟩ := hears
  obtain ⟨below, rfl⟩ := run.drain_of_told stack terminal
  have due : session.due = (listener, event) :: calls := by rw [Session.due, stack, dueCalls]
  rcases run.due_last with nobody | ⟨before, notice, listeners, handed, last⟩
  · rw [due] at nobody
    exact absurd nobody (by simp)
  have same : notice.event = event := by
    have listed := last.subset (due ▸ List.mem_cons_self)
    obtain ⟨_, _, same⟩ := List.mem_map.mp listed
    exact (Prod.mk.inj same).2
  have ends : notice.isTerminal = true := by rw [← isTerminal_event, same, terminal]
  have called : notice.entry.name = name := by rw [← name_event, same, about]
  have single : named name (ended [notice]) = [notice.entry] := by
    simp [ended_single ends, named, called]
  -- Of this notice the one who is told now is the only one of them still to be told.
  have one : session.due.countP (tells mine name) = 1 := by
    have most := last.sublist.countP_le (p := tells mine name)
    have listed : (notice, listeners) ∈ handedOut past.deeds := by
      rw [handed]
      exact List.mem_append_right _ (List.mem_singleton_self _)
    rw [countP_callsFor, single, listens _ listed ends called] at most
    have least : 0 < session.due.countP (tells mine name) := by
      rw [List.countP_pos_iff]
      exact ⟨(listener, event), due ▸ List.mem_cons_self, by simp [tells, own, terminal, about]⟩
    exact Nat.le_antisymm most least
  have counted := run.countP_told listens
  rw [one, handed, List.map_append, List.map_singleton, ended_append, named_append, single,
    List.length_append, List.length_singleton] at counted
  refine ⟨notice, by rw [handed]; simp, same, ?_⟩
  have linedUp := run.lined_up name
  rw [run.pushed, handed, List.map_append, List.map_singleton, ended_append, ended_append,
    named_append, named_append, single] at linedUp
  rw [linedUp, Nat.add_right_cancel counted]
  simp

end Session

/-! ## Places -/

/-- Of requests in the order of their tickets the one in some place among the chosen ones is the one
in that place among all exactly if all that are not chosen come later. -/
theorem eq_of_place_iff {entries : List Entry}
    (sorted : entries.Pairwise fun first second => first.ticket < second.ticket)
    {chosen : Entry → Bool} {place : Nat} {finished made : Entry}
    (kept : (entries.filter chosen)[place]? = some finished) (all : entries[place]? = some made) :
    made = finished ↔ ∀ entry ∈ entries, chosen entry = false → finished.ticket ≤ entry.ticket := by
  have distinct : entries.Nodup := sorted.imp fun less same => by simp [same] at less
  obtain ⟨listed, right⟩ := List.mem_filter.mp (List.mem_of_getElem? kept)
  obtain ⟨before, after, rfl⟩ := List.append_of_mem listed
  obtain ⟨_, later, earlier⟩ := List.pairwise_append.mp sorted
  -- The chosen one stands behind those of the earlier ones that are chosen.
  have behind : place = (before.filter chosen).length := by
    have here : ((before ++ finished :: after).filter chosen)[(before.filter chosen).length]? =
        some finished := by
      rw [List.filter_append, List.filter_cons_of_pos right]
      simp
    exact (List.getElem?_inj (List.getElem?_eq_some_iff.mp kept).1 (distinct.filter chosen)).mp
      (kept.trans here.symm)
  have front : (before ++ finished :: after)[before.length]? = some finished := by simp
  calc made = finished ↔ place = before.length := by
        constructor
        · rintro rfl
          exact (List.getElem?_inj (List.getElem?_eq_some_iff.mp all).1 distinct).mp
            (all.trans front.symm)
        · rintro rfl
          exact Option.some.inj (all.symm.trans front)
    _ ↔ ∀ entry ∈ before, chosen entry = true := by
        rw [behind, List.length_filter_eq_length_iff]
    _ ↔ _ := by
        constructor
        · intro every entry among left
          rcases List.mem_append.mp among with first | last
          · rw [every entry first] at left
            exact Bool.noConfusion left
          · rcases List.mem_cons.mp last with rfl | rest
            · exact Nat.le_refl _
            · exact Nat.le_of_lt (List.rel_of_pairwise_cons later rest)
        · intro late entry among
          by_contra left
          have less := earlier entry among finished List.mem_cons_self
          have more := late entry (List.mem_append_left _ among) (Bool.not_eq_true _ ▸ left)
          exact Nat.not_lt.mpr more less

namespace Session

variable {session : Session users} {state : users.State} {past : History users}

/-- In every run requests are queued in the order of their tickets. -/
theorem Run.sorted (run : Run (.new state) past session) :
    (enqueued past.deeds).Pairwise fun first second => first.ticket < second.ticket := by
  have numbered := run.booked.balanced.numbered
  have tickets : ((enqueued past.deeds).map (·.ticket)).Pairwise (· < ·) := by
    change ((session.ledger past.deeds).requests.map (·.ticket)).Pairwise (· < ·)
    rw [numbered]
    exact List.pairwise_lt_range
  exact List.pairwise_map.mp tickets

/-- In every run the request in some place among those of a name that no shutdown has taken away is
the one in that place among all of that name exactly if none that was queued before it was taken
away. -/
theorem Run.place_iff (run : Run (.new state) past session) {name : String} {place : Nat}
    {finished made : Entry} (kept : (named name (retained past.deeds))[place]? = some finished)
    (all : (named name (enqueued past.deeds))[place]? = some made) :
    made = finished ↔
      ∀ entry ∈ dropped past.deeds, entry.name = name → finished.ticket ≤ entry.ticket := by
  have sorted := run.sorted.filter fun entry => entry.name == name
  rw [named, retained, List.filter_comm] at kept
  refine (eq_of_place_iff sorted kept all).trans ⟨fun late entry taken about => ?_, ?_⟩
  · have queued := (run.booked.balanced.gone entry taken).1
    exact late entry (mem_named.mpr ⟨queued, about⟩) (by simpa using taken)
  · intro late entry among taken
    exact late entry (by simpa using taken) (mem_named.mp among).2

end Session

end Sailplane.Download
