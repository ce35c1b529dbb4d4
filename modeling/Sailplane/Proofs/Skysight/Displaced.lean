import Sailplane.Proofs.Download.Rounds
import Sailplane.Proofs.Skysight.Foreign

/-!
# Requests that a shutdown takes away

Of requests that a shutdown takes away nobody is told, and a client keeps their slots. So when it is
told of later ones it takes those slots first. Under a name that only the client uses the request
that is over stands among those that no shutdown has taken away where the request of which the
client takes the slot stands among all: the slot is its own exactly if no earlier request of the
name was taken away.
-/
namespace Sailplane.Skysight

open Download (Slot Slots Content Event Entry Destination Request Session Frame History enqueued
  told dropped retained named tells Listens)

variable {Others Listener Note : Type} {handler : Handler Others Listener Note}
  {react : Listener → Event → Act Others Listener Note Unit} {reaches : Others → Bool}
  {past : History (users handler react reaches)} {session after : Service handler react reaches}
  {rest : List (Frame (users handler react reaches))} {name : String}
  {start : (users handler react reaches).State}

/-! ## Names of the client alone -/

/-- A request that the client makes is for a document, and goes to its slot. -/
theorem claimed_own (shared : Shared Others) (made : List (String × Slot)) (request : Request)
    (ticket : Nat) : ∃ own, claimed shared made request = made ++ own ∧
      ∀ name, ((slotsOf name own).map Destination.json).Sublist
        ((named name [⟨ticket, request⟩]).map (·.request.destination)) := by
  have nothing : ∃ own, made = made ++ own ∧ ∀ name,
      ((slotsOf name own).map Destination.json).Sublist
        ((named name [⟨ticket, request⟩]).map (·.request.destination)) :=
    ⟨[], (List.append_nil _).symm, fun name => List.nil_sublist _⟩
  rw [claimed]
  split
  · rename_i slot goes
    split
    · refine ⟨[(request.name, slot)], rfl, fun name => ?_⟩
      by_cases about : request.name = name
      · simp [slotsOf, named, Entry.name, about, goes]
      · simp [slotsOf, about]
    · exact nothing
  · exact nothing

/-- A step makes no request of the client that it does not put in the queue. -/
theorem owned_step (past : History (users handler react reaches))
    (session : Service handler react reaches) :
    ∃ (own : List (String × Slot)) (new : List Entry),
      owned (past ++ [session]) = owned past ++ own ∧
      enqueued (History.deeds (past ++ [session])) = enqueued past.deeds ++ new ∧
      ∀ name, ((slotsOf name own).map Destination.json).Sublist
        ((named name new).map (·.request.destination)) := by
  have folded : owned (past ++ [session]) = claim (owned past) session := by
    rw [owned, List.foldl_append]
    rfl
  rw [folded, Session.deeds_append, claim]
  split
  · rename_i request next rest stack
    have deed : session.deed? = some (.queued request) := by
      simp only [Session.deed?, stack, Session.asked?, Session.call?]
    rw [deed, Option.toList_some, Download.enqueued_queued]
    obtain ⟨own, grown, goes⟩ :=
      claimed_own session.state (owned past) request (enqueued past.deeds).length
    exact ⟨own, _, grown, rfl, goes⟩
  · obtain ⟨new, grown⟩ := Download.enqueued_mono past.deeds session.deed?.toList
    exact ⟨[], new, (List.append_nil _).symm, grown.symm, fun name => List.nil_sublist _⟩

/-- Every request of the client was put in the queue, and goes to its slot. -/
theorem owned_sublist (past : History (users handler react reaches)) (name : String) :
    ((slotsOf name (owned past)).map Destination.json).Sublist
      ((named name (enqueued past.deeds)).map (·.request.destination)) := by
  induction past using List.reverseRecOn with
  | nil => exact .slnil
  | append_singleton past session ih =>
    obtain ⟨own, new, grown, queued, goes⟩ := owned_step past session
    rw [grown, queued, slotsOf_append, Download.named_append, List.map_append, List.map_append]
    exact ih.append (goes name)

/-- Whether nobody but the client has made requests of a name: as many were put in the queue as the
client has made. -/
def Exclusive (name : String) (past : History (users handler react reaches)) : Prop :=
  (named name (enqueued past.deeds)).length = (slotsOf name (owned past)).length

/-- What is the client's alone always was. -/
theorem Exclusive.before (exclusive : Exclusive name (past ++ [session])) :
    Exclusive name past := by
  obtain ⟨own, new, grown, queued, goes⟩ := owned_step past session
  have fewer := (owned_sublist past name).length_le
  have more := (goes name).length_le
  rw [Exclusive, grown, queued, slotsOf_append, Download.named_append, List.length_append,
    List.length_append] at exclusive
  rw [List.length_map, List.length_map] at fewer more
  exact Nat.le_antisymm (by omega) fewer

/-- All requests of a name that is the client's alone go to its slots. -/
theorem Exclusive.destinations (exclusive : Exclusive name past) :
    (slotsOf name (owned past)).map Destination.json =
      (named name (enqueued past.deeds)).map (·.request.destination) := by
  refine (owned_sublist past name).eq_of_length ?_
  rw [List.length_map, List.length_map, exclusive]

/-! ## What the client is told -/

/-- Whether the client is there if it is told something of requests of a name. -/
def isThere (name : String) (session : Service handler react reaches) : Bool :=
  match session.stack with
  | .tell ((.client, event) :: _) :: _ =>
    event.name != name || (Shared.client session.state).isSome
  | _ => true

/-- Whether the client has listened, once, whenever it was handed out that a request of a name is
over, and was there whenever it was told of requests of that name. -/
structure Attends (name : String) (past : History (users handler react reaches)) : Prop where
  /-- It has listened. -/
  listens : Listens Member.isClient name past.deeds
  /-- It was there. -/
  there : ∀ earlier ∈ past, isThere name earlier = true

/-- Who attends always did. -/
theorem Attends.before (attends : Attends name (past ++ [session])) : Attends name past where
  listens sent listed := by
    refine attends.listens sent ?_
    rw [Session.deeds_append, Download.handedOut_append]
    exact List.mem_append_left _ listed
  there earlier listed := attends.there earlier (List.mem_append_left _ listed)

/-- How often the client was told after one step more. -/
theorem heardOf_step (name : String) (past : History (users handler react reaches))
    (session : Service handler react reaches) :
    heardOf name (past ++ [session]) = heardOf name past +
      ((report? session).toList.filter fun report => report.name == name).length := by
  have added : reports (past ++ [session]) = reports past ++ (report? session).toList := by
    rw [reports, List.filterMap_append, List.filterMap_cons, List.filterMap_nil]
    cases report? session with
    | _ => rfl
  rw [heardOf, added, List.filter_append, List.length_append]
  rfl

/-- A step that does not tell the client that a request is over reports nothing, and does not
count. -/
theorem untold_of_aside (name : String) (session : Service handler react reaches)
    (aside : ∀ event calls rest,
      session.stack = .tell ((.client, event) :: calls) :: rest → event.isTerminal = false) :
    report? session = none ∧
      (told session.deed?.toList).countP (tells Member.isClient name) = 0 := by
  constructor
  · rw [report?]
    split
    · rename_i event calls rest stack
      have open_ := aside event calls rest stack
      cases event with
      | added => rfl
      | complete | error => exact Bool.noConfusion open_
    · rfl
  · rw [Session.deed?]
    split
    · cases session.queue.outbox with
      | nil => rfl
      | cons notice others => rfl
    · rename_i listener event calls below stack
      cases listener with
      | client => simp [told, Download.Deed.told?, tells, aside event calls _ stack]
      | other listener => rfl
    · rw [(Session.told_asked session).1]
      rfl

/-- What the client is told of a request goes by its name. -/
theorem name_reportOf {shared : Shared Others} {slots : Slots Content} {event : Event}
    {report : Report} (about : reportOf shared slots event = some report) :
    report.name = event.name := by
  cases event with
  | added => exact absurd about (by simp [reportOf])
  | complete | error =>
    obtain ⟨_, _, rfl⟩ := Option.map_eq_some_iff.mp about
    rfl

/-- In every voyage a client that is told that a request is over reports it if it is the turn of one
of its own. -/
theorem Voyage.report_isSome (considerate : Considerate handler)
    (civil : ∀ listener event, Civil (react listener event)) (voyage : Voyage past session)
    {event : Event} {calls : List (Member Listener × Event)}
    (stack : session.stack = .tell ((.client, event) :: calls) :: rest)
    (terminal : event.isTerminal = true) (there : (Shared.client session.state).isSome = true)
    {slot : Slot} (turn : inTurn? event.name past = some slot) :
    (report? session).isSome = true := by
  obtain ⟨client, present⟩ := Option.isSome_iff_exists.mp there
  cases event with
  | added => exact Bool.noConfusion terminal
  | complete other =>
    have turn : inTurn? other past = some slot := turn
    rw [voyage.report_complete considerate civil stack present, turn]
    rfl
  | error other failure =>
    have turn : inTurn? other past = some slot := turn
    rw [voyage.report_error considerate civil stack present, turn]
    rfl

/-- While fewer requests are over than were made one is in turn. -/
theorem Exclusive.turn (exclusive : Exclusive name past) {entry : Entry}
    (place : (named name (retained past.deeds))[heardOf name past]? = some entry) :
    ∃ made slot, (named name (enqueued past.deeds))[heardOf name past]? = some made ∧
      made.request.destination = .json slot ∧ inTurn? name past = some slot := by
  have fewer : (named name (retained past.deeds)).length ≤
      (named name (enqueued past.deeds)).length := by
    have among : (retained past.deeds).Sublist (enqueued past.deeds) := List.filter_sublist
    exact (among.filter _).length_le
  have within := (List.getElem?_eq_some_iff.mp place).1
  have made := List.getElem?_eq_getElem (Nat.lt_of_lt_of_le within fewer)
  have goes := congrArg (·[heardOf name past]?) exclusive.destinations
  dsimp only at goes
  rw [List.getElem?_map, List.getElem?_map, made, Option.map_some, Option.map_eq_some_iff] at goes
  obtain ⟨slot, turn, same⟩ := goes
  exact ⟨_, slot, made, same.symm, turn⟩

/-- In every voyage in which the client has reported every request of a name that is its alone and
of which it was told that it is over, it reports the next one. -/
theorem Voyage.reports_next (considerate : Considerate handler)
    (civil : ∀ listener event, Civil (react listener event)) (voyage : Voyage past session)
    (exclusive : Exclusive name past) (attends : Attends name (past ++ [session]))
    (same : heardOf name past = (told past.deeds).countP (tells Member.isClient name))
    {event : Event} {calls : List (Member Listener × Event)}
    (stack : session.stack = .tell ((.client, event) :: calls) :: rest)
    (terminal : event.isTerminal = true) (about : event.name = name) :
    (report? session).isSome = true := by
  obtain ⟨_, run⟩ := voyage.run
  have hears : tells Member.isClient name ((.client : Member Listener), event) = true := by
    simp [tells, Member.isClient, terminal, about]
  -- A request of its own is in turn, so that the client has a slot to take.
  obtain ⟨notice, _, _, place⟩ := run.over_in_turn attends.before.listens stack hears
  rw [← same] at place
  obtain ⟨made, slot, _, _, turn⟩ := exclusive.turn place
  have there := attends.there session (List.mem_append_right _ (List.mem_singleton_self _))
  have present : (Shared.client session.state).isSome = true := by
    simpa [isThere, stack, about] using there
  exact voyage.report_isSome considerate civil stack terminal present (about ▸ turn)

/-- In every voyage in which the client has reported every request of a name that is its alone and
of which it was told that it is over, it does so with the next step. -/
theorem Voyage.hears (considerate : Considerate handler)
    (civil : ∀ listener event, Civil (react listener event)) (voyage : Voyage past session)
    (exclusive : Exclusive name past) (attends : Attends name (past ++ [session]))
    (same : heardOf name past = (told past.deeds).countP (tells Member.isClient name)) :
    ((report? session).toList.filter fun report => report.name == name).length =
      (told session.deed?.toList).countP (tells Member.isClient name) := by
  obtain ⟨_, run⟩ := voyage.run
  by_cases hearing : ∃ event calls rest, session.stack = .tell ((.client, event) :: calls) :: rest ∧
      event.isTerminal = true
  · obtain ⟨event, calls, rest, stack, terminal⟩ := hearing
    obtain ⟨below, rfl⟩ := run.drain_of_told stack terminal
    have deed : session.deed? = some (.told .client event) := by
      simp only [Session.deed?, stack]
    have once : told [(.told .client event : Download.Deed (Member Listener))] =
        [(.client, event)] := rfl
    have report : report? session = reportOf session.state session.slots event := by
      simp only [report?, stack]
    rw [deed, Option.toList_some, once]
    have reports := voyage.reports_next considerate civil exclusive attends same stack terminal
    cases is : report? session with
    | none =>
      rw [is] at reports
      have about : event.name ≠ name := fun about => Bool.noConfusion (reports about)
      simp [tells, about]
    | some reported =>
      have called : reported.name = event.name := name_reportOf (report.symm.trans is)
      by_cases about : event.name = name
      · simp [tells, Member.isClient, terminal, called, about]
      · simp [tells, called, about]
  · obtain ⟨unreported, uncounted⟩ := untold_of_aside name session
      fun event calls rest stack => by
        rw [← Bool.not_eq_true]
        exact fun terminal => hearing ⟨event, calls, rest, stack, terminal⟩
    rw [unreported, uncounted]
    rfl

/-- In every voyage in which a name is the client's alone and the client attends it has reported
every request of that name of which it was told that it is over. -/
theorem Voyage.heardOf_eq (considerate : Considerate handler)
    (civil : ∀ listener event, Civil (react listener event)) (voyage : Voyage past session)
    (exclusive : Exclusive name past) (attends : Attends name past) :
    heardOf name past = (told past.deeds).countP (tells Member.isClient name) := by
  induction voyage with
  | new absent => rfl
  | connect before quiet first account ih => exact ih exclusive attends
  | begin before quiet polite ih => exact ih exclusive attends
  | arrive before serial message ih => exact ih exclusive attends
  | step before taken ih =>
    have same := ih exclusive.before attends.before
    have hears := before.hears considerate civil exclusive.before attends same
    rw [heardOf_step, Session.deeds_append, Download.told_append, List.countP_append, hears, same]

/-! ## Whose slot is taken -/

/-- What it means that the client, when it is told that a request of a name is over, takes the slot
of the request that stands among all of that name where the other stands among those that no
shutdown has taken away. -/
structure TakesByPlace (name : String) (past : History (users handler react reaches))
    (session : Service handler react reaches) (event : Event) (finished made : Entry)
    (slot : Slot) : Prop where
  /-- The request that is over was not taken away, and as many before it as the client was told
  of. -/
  retained : (named name (retained past.deeds))[heardOf name past]? = some finished
  /-- The request whose slot is taken has as many before it, whether they were taken away or not. -/
  queued : (named name (enqueued past.deeds))[heardOf name past]? = some made
  /-- It is for a document. -/
  goes : made.request.destination = .json slot
  /-- The slot is its own exactly if no earlier request of the name was taken away. -/
  own : made = finished ↔
    ∀ entry ∈ dropped past.deeds, entry.name = name → finished.ticket ≤ entry.ticket
  /-- What is in the slot counts as what came in. -/
  completes : event = .complete name →
    report? session = some (.came name (documentIn session.slots slot) (Shared.now session.state))
  /-- A failure counts for it as well. -/
  fails : ∀ failure, event = .error name failure → report? session = some (.lost name)

/-- In every voyage in which a name is the client's alone and the client attends, when it is told
that a request of that name is over it takes a slot by the place of the request: its own exactly if
no earlier request of the name was taken away by a shutdown. -/
theorem Voyage.takes_by_place (considerate : Considerate handler)
    (civil : ∀ listener event, Civil (react listener event)) (voyage : Voyage past session)
    (exclusive : Exclusive name past) (attends : Attends name past) {event : Event}
    {calls : List (Member Listener × Event)}
    (stack : session.stack = .tell ((.client, event) :: calls) :: rest)
    (terminal : event.isTerminal = true) (about : event.name = name) {client : Client}
    (present : Shared.client session.state = some client) :
    ∃ notice made slot, (delivered past).getLast? = some notice ∧ notice.event = event ∧
      TakesByPlace name past session event notice.entry made slot := by
  obtain ⟨_, run⟩ := voyage.run
  have hears : tells Member.isClient name ((.client : Member Listener), event) = true := by
    simp [tells, Member.isClient, terminal, about]
  obtain ⟨notice, handed, same, place⟩ := run.over_in_turn attends.listens stack hears
  rw [← voyage.heardOf_eq considerate civil exclusive attends] at place
  obtain ⟨made, slot, all, goes, turn⟩ := exclusive.turn place
  refine ⟨notice, made, slot, handed, same, place, all, goes, run.place_iff place all, ?_, ?_⟩
  · rintro rfl
    rw [voyage.report_complete considerate civil stack present, turn]
    rfl
  · rintro failure rfl
    rw [voyage.report_error considerate civil stack present, turn]
    rfl

/-! ## A login that a shutdown takes away -/

namespace Emptied

open Download.Session (step? visited repeatedly)

/-- A shutdown. -/
def shutdown : Act Unit Unit Unit Unit := .call .shutdown fun _ => .done ()

/-- A shutdown is civil. -/
theorem civil_shutdown : Civil shutdown := .call trivial fun _ => .done ()

/-- The request for a key is taken away. -/
def emptying : Alone := (repeatedly step? 60 Alone.connecting).begin shutdown

/-- A minute later. -/
def resting : Alone := (repeatedly step? 60 emptying).begin (setClock (seconds 60))

/-- A caller has the client ask again. -/
def asking : Alone := (repeatedly step? 60 resting).begin askForKey

/-- The answer comes in. -/
def answered : Alone :=
  (repeatedly step? 60 asking).arrive 2 [.fill (.document Succeeding.answer), .finish none]

/-- The steps that were taken before that. -/
def steps : History (users unmoved (fun _ _ => .done ()) fun _ => false) :=
  visited 60 Alone.connecting ++ visited 60 emptying ++ visited 60 resting ++ visited 60 asking

/-- The answer is about to come in. -/
theorem voyage_answered : Voyage steps answered := by
  have emptied : Voyage _ (repeatedly step? 60 emptying) :=
    (Alone.connected.begin rfl civil_shutdown).repeatedly 60
  have rested : Voyage _ (repeatedly step? 60 resting) :=
    (emptied.begin rfl (civil_setClock (seconds 60))).repeatedly 60
  have asked : Voyage steps (repeatedly step? 60 asking) :=
    (rested.begin rfl civil_askForKey).repeatedly 60
  exact asked.arrive 2 [.fill (.document Succeeding.answer), .finish none]

end Emptied

open Emptied Download.Session in
/-- When the client is told that its second login is complete it takes the slot of the first one,
which a shutdown has taken away. -/
theorem takes_by_place_emptied :
    let past := steps ++ visited 5 answered
    let session := repeatedly step? 5 answered
    ∃ finished made slot,
      TakesByPlace authRequest past session (.complete authRequest) finished made slot ∧
      finished.ticket = 1 ∧ made.ticket = 0 := by
  have exclusive : Exclusive authRequest (steps ++ visited 5 answered) := by
    unfold Exclusive
    decide +kernel
  have listens : Listens Member.isClient authRequest
      (History.deeds (steps ++ visited 5 answered)) := by
    unfold Listens
    decide +kernel
  have attends : Attends authRequest (steps ++ visited 5 answered) :=
    ⟨listens, by decide +kernel⟩
  have there : (Shared.client (repeatedly step? 5 answered).state).isSome = true := by
    decide +kernel
  obtain ⟨client, present⟩ := Option.isSome_iff_exists.mp there
  have stack : (repeatedly step? 5 answered).stack =
      [.tell [(.client, .complete authRequest)], .drain] := rfl
  obtain ⟨notice, made, slot, _, _, takes⟩ := (voyage_answered.repeatedly 5).takes_by_place
    considerate_unmoved (fun _ _ => .done ()) exclusive attends stack rfl rfl present
  have second := congrArg (Option.map (·.ticket)) takes.retained
  have first := congrArg (Option.map (·.ticket)) takes.queued
  refine ⟨notice.entry, made, slot, takes, ?_, ?_⟩
  · exact (Option.some.inj second).symm
  · exact (Option.some.inj first).symm

open Emptied Download.Session in
/-- The second login was complete, and the answer was there and gives a valid key, but the client is
not logged in: it has looked into the slot of the first one. -/
theorem login_lost :
    let past := steps ++ visited 60 answered
    let session := repeatedly step? 60 answered
    Voyage past session ∧ session.stack = [] ∧
      (∃ entry, .complete entry ∈ delivered past ∧ entry.name = authRequest ∧
        session.brought entry = some Succeeding.answer) ∧
      (∃ reply, credentialReply.ofValue Succeeding.answer = .ok reply ∧
        reply.Grants (Shared.now session.state)) ∧
      ∃ client, Shared.client session.state = some client ∧
        client.isLoggedIn (Shared.now session.state) = false := by
  have there : (Shared.client (repeatedly step? 60 answered).state).isSome = true := by
    decide +kernel
  obtain ⟨client, present⟩ := Option.isSome_iff_exists.mp there
  refine ⟨voyage_answered.repeatedly 60, rfl, ?_, ⟨⟨"fresh", 2000, []⟩, rfl, by decide +kernel⟩,
    client, present, ?_⟩
  · refine ⟨⟨1, .json "/auth" authRequest ⟨1⟩
      (Client.loginData ⟨"pilot", "secret", "", "key", "agent"⟩)⟩, ?_, rfl, rfl⟩
    decide +kernel
  · have out : (Shared.client (repeatedly step? 60 answered).state).map
        (fun client => client.isLoggedIn (seconds 60)) = some false := by decide +kernel
    rw [present] at out
    exact Option.some.inj out

end Sailplane.Skysight
