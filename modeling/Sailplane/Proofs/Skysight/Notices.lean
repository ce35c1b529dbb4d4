import Sailplane.Proofs.Skysight.Onward

/-!
# Notices and transfers while a client is served

The handing out of notices goes on serving the client, and so do transfers and tasks. A notice that
a request for a document is over takes the first slot of its name from the client, and that is the
slot of the request.
-/
namespace Sailplane.Skysight

open Download (Script Operation Slot Slots Content Event Entry Notice Destination Request Failure
  Users Session Frame Job Observation Deed History Signal Transfer Launch enqueued handedOut told
  ended reached awaited completed)

variable {Others Listener Note : Type} {json : String → Bool}
  {handler : Handler Others Listener Note}
  {react : Listener → Event → Act Others Listener Note Unit}
  {reaches : Others → Bool} {past : History (users handler react reaches)}
  {session after : Service handler react reaches} {start : (users handler react reaches).State}

/-! ## Handing out -/

section Notices

variable {rest : List (Frame (users handler react reaches))}

/-- The end of the handing out goes on. -/
theorem onward_drained (run : Session.Run (.new start) past session)
    (serving : Serving json past.deeds session) (stack : session.stack = .drain :: rest)
    (taken : session.step? = some (session.advance .drain rest))
    (empty : session.queue.outbox = []) :
    Onward json past session (session.advance .drain rest) := by
  have manned := serving.manned
  rw [stack] at manned
  have mute : Mute session := mute_of_none (by simp only [Session.utterance?, stack])
  have deed : session.deed? = none := by
    simp only [Session.deed?, stack, empty, List.head?_nil, Option.map_none]
  have same : Untouched session (session.advance .drain rest) := by
    rw [Session.advance_drain_nil empty]
    dsimp only
    split
    · exact ⟨rfl, rfl, rfl⟩
    · exact ⟨rfl, rfl, rfl⟩
  refine onward_of_untouched run serving taken (deed ▸ silent_none) mute same manned.1 ?_
  rw [(Session.shift_drain_nil rest empty).2]
  exact manned.2

/-- A notice that is handed out goes on: the client will be told of it, if there is one. -/
theorem onward_announced {notice : Notice} {others : List Notice}
    (run : Session.Run (.new start) past session) (serving : Serving json past.deeds session)
    (stack : session.stack = .drain :: rest)
    (taken : session.step? = some (session.advance .drain rest))
    (first : session.queue.outbox = notice :: others) :
    Onward json past session (session.advance .drain rest) := by
  have manned := serving.manned
  rw [stack] at manned
  obtain ⟨level, fitting⟩ := manned
  have deed : session.deed? = some (.announced notice session.registry.listeners) := by
    simp only [Session.deed?, stack, first, List.head?_cons, Option.map_some]
  have mute : Mute session := mute_of_none (by simp only [Session.utterance?, stack])
  have framed := run.framed (Session.framed_new start)
  have before : session.due = [] := Session.due_of_announced framed deed
  have settled : known past.deeds session = (handedOut past.deeds).map (·.1) :=
    Download.reached_settled fun call listed => by
      rw [before] at listed
      exact absurd listed List.not_mem_nil
  have handed : handedOut (past.deeds ++ session.deed?.toList) =
      handedOut past.deeds ++ [(notice, session.registry.listeners)] := by
    rw [Download.handedOut_append, deed]
    rfl
  have unqueued : session.deed?.toList.filterMap Deed.queued? = [] := by
    rw [deed]
    rfl
  have moved : session.advance .drain rest = _ := Session.advance_drain_cons first
  have due : (session.advance .drain rest).due =
      Download.callsFor (notice, session.registry.listeners) := by
    rw [moved]
    rfl
  have hears : session.registry.listeners.filter Member.isClient = _ := level.hears
  -- A client is yet to be told, and knows no more than before; without one nothing is awaited.
  have kept : Kept json past session (session.advance .drain rest) := by
    cases present : (deskOf json past.deeds session).shared.client with
    | some client =>
      rw [present] at hears
      have listed : Member.client ∈ session.registry.listeners.filter Member.isClient := by
        rw [hears]
        exact List.mem_singleton_self _
      have told : (Member.client, notice.event) ∈ (session.advance .drain rest).due := by
        rw [due]
        exact List.mem_map_of_mem (List.mem_filter.mp listed).1
      have same : known (past.deeds ++ session.deed?.toList) (session.advance .drain rest) =
          known past.deeds session :=
        (Download.reached_last handed told rfl).trans settled.symm
      have requests := Download.enqueued_append past.deeds _ unqueued
      refine ⟨requests, ?_, congrArg (completed json) same⟩
      rw [waiting, waiting, same, requests]
    | none =>
      rw [present] at hears
      have knows : known (past.deeds ++ session.deed?.toList) (session.advance .drain rest) =
          known past.deeds session ++ [notice] := by
        rw [settled, known, Download.reached_settled, handed, List.map_append]
        · rfl
        · intro call listed
          rw [due] at listed
          obtain ⟨listener, among, rfl⟩ := List.mem_map.mp listed
          exact Bool.not_eq_true _ ▸ (List.filter_eq_nil_iff.mp hears listener among)
      refine kept_of_aside unqueued knows fun own => ?_
      have recorded : notice ∈ session.recorded := by
        rw [run.pushed, first]
        exact List.mem_append_right _ List.mem_cons_self
      have asked : notice.entry ∈ enqueued past.deeds :=
        run.booked.balanced.known notice recorded
      rw [level.vacant present _ asked] at own
      exact Bool.noConfusion own
  rw [moved] at kept taken ⊢
  refine onward_of_mute run taken kept mute serving.shelved (manned_of_level level ⟨?_, fitting⟩)
  exact fun covered => Bool.noConfusion covered

/-! ## Telling listeners -/

/-- What lies under a listener that is told something may go on. -/
theorem fitting_tell {call : Member Listener × Event} {calls : List (Member Listener × Event)}
    (fitting : Fitting json (.tell (call :: calls) :: rest)) :
    Fitting json (.tell calls :: rest) :=
  ⟨fun free other listed => fitting.1 free other (List.mem_cons_of_mem _ listed), fitting.2⟩

/-- When all were told something what lies under that goes on. -/
theorem onward_told_all (run : Session.Run (.new start) past session)
    (serving : Serving json past.deeds session) (stack : session.stack = .tell [] :: rest)
    (taken : session.step? = some (session.advance (.tell []) rest)) :
    Onward json past session (session.advance (.tell []) rest) := by
  have manned := serving.manned
  rw [stack] at manned
  have mute : Mute session := mute_of_none (by simp only [Session.utterance?, stack])
  have deed : session.deed? = none := by
    simp only [Session.deed?, Session.asked?, Session.call?, stack]
  exact onward_of_untouched run serving taken (deed ▸ silent_none) mute ⟨rfl, rfl, rfl⟩ manned.1
    manned.2.below

/-- What starts with handing out notices hands them out first. -/
theorem drain_of_starts (drains : startsDrain rest = true) : ∃ below, rest = .drain :: below := by
  cases rest with
  | nil => exact Bool.noConfusion drains
  | cons frame below =>
    cases frame with
    | drain => exact ⟨below, rfl⟩
    | _ => exact Bool.noConfusion drains

/-- To tell a listener something that is no notice does nothing for the queue. -/
theorem deed_of_aside {call : Member Listener × Event} {calls : List (Member Listener × Event)}
    (stack : session.stack = .tell (call :: calls) :: rest) (aside : startsDrain rest = false) :
    session.deed? = none := by
  cases rest with
  | nil => simp only [Session.deed?, Session.asked?, Session.call?, stack]
  | cons frame below =>
    cases frame with
    | drain => exact Bool.noConfusion aside
    | _ => simp only [Session.deed?, Session.asked?, Session.call?, stack]

/-- A listener other than the client that is told something goes on if it is polite. -/
theorem onward_told_other {listener : Listener} {event : Event}
    {calls : List (Member Listener × Event)} (own : json authRequest = true)
    (polite : ∀ listener event, Polite json (react listener event))
    (run : Session.Run (.new start) past session) (serving : Serving json past.deeds session)
    (stack : session.stack = .tell ((.other listener, event) :: calls) :: rest)
    (taken : session.step? =
      some (session.advance (.tell ((.other listener, event) :: calls)) rest)) :
    Onward json past session
      (session.advance (.tell ((.other listener, event) :: calls)) rest) := by
  have manned := serving.manned
  rw [stack] at manned
  have said : session.utterance? = some (.heard (.other listener) event) := by
    simp only [Session.utterance?, stack]
  have kept : Kept json past session
      (session.advance (.tell ((.other listener, event) :: calls)) rest) := by
    cases drains : startsDrain rest with
    | false => exact kept_of_silent run taken (deed_of_aside stack drains ▸ silent_none)
    | true =>
      obtain ⟨below, rfl⟩ := drain_of_starts drains
      have deed : session.deed? = some (.told (.other listener) event) := by
        simp only [Session.deed?, stack]
      have due : session.due = (.other listener, event) :: calls := by
        rw [Session.due, stack]
        rfl
      have requests := Download.enqueued_append past.deeds session.deed?.toList (by rw [deed]; rfl)
      have unsent : handedOut session.deed?.toList = [] := by
        rw [deed]
        rfl
      have same : known (past.deeds ++ session.deed?.toList)
          (session.advance (.tell ((.other listener, event) :: calls)) (.drain :: below)) =
            known past.deeds session := by
        rw [known, known, due, reached, reached, Download.handedOut_append, unsent,
          List.append_nil]
        rfl
      refine ⟨requests, ?_, congrArg (completed json) same⟩
      rw [waiting, waiting, same, requests]
  exact onward_of_mute run taken kept (mute_of_some said rfl fun _ => rfl) serving.shelved
    ⟨Desk.behaves_of_leads (Desk.leads_polite own (polite listener event) manned.1),
      fitting_tell manned.2⟩

/-- What the client is told is the notice that was handed out last; then it knows that, too. -/
theorem last_told {event : Event} {calls : List (Member Listener × Event)}
    {below : List (Frame (users handler react reaches))}
    (run : Session.Run (.new start) past session) (serving : Serving json past.deeds session)
    (stack : session.stack = .tell ((.client, event) :: calls) :: .drain :: below) :
    ∃ before notice listeners, handedOut past.deeds = before ++ [(notice, listeners)] ∧
      notice.event = event ∧ known past.deeds session = before.map (·.1) ∧
      known (past.deeds ++ session.deed?.toList)
          (session.advance (.tell ((.client, event) :: calls)) (.drain :: below)) =
        before.map (·.1) ++ [notice] := by
  have deed : session.deed? = some (.told .client event) := by
    simp only [Session.deed?, stack]
  have due : session.due = (.client, event) :: calls := by
    rw [Session.due, stack]
    rfl
  have unsent : handedOut session.deed?.toList = [] := by
    rw [deed]
    rfl
  rcases run.due_last with none | ⟨before, notice, listeners, handed, suffix⟩
  · rw [due] at none
    exact absurd none (List.cons_ne_nil _ _)
  · rw [due] at suffix
    obtain ⟨listener, _, same⟩ := List.mem_map.mp (suffix.subset List.mem_cons_self)
    refine ⟨before, notice, listeners, handed, (Prod.mk.inj same).2, ?_, ?_⟩
    · exact Download.reached_last handed (due ▸ List.mem_cons_self) rfl
    · -- The client is told once, so this was the last it was to be told of the notice.
      have single := serving.single
      rw [due, List.filter_cons_of_pos rfl, List.length_cons] at single
      have alone : calls.filter (fun call => Member.isClient call.1) = [] :=
        List.length_eq_zero_iff.mp (Nat.le_zero.mp (Nat.le_of_succ_le_succ single))
      rw [known, Download.reached_settled, Download.handedOut_append, unsent, List.append_nil,
        handed, List.map_append]
      · rfl
      · exact fun call listed => Bool.not_eq_true _ ▸ List.filter_eq_nil_iff.mp alone call listed

/-- What is told to the client of a request for a document that is over. -/
structure Ends (json : String → Bool) (past : History (users handler react reaches))
    (session after : Service handler react reaches) (notice : Notice) (slot : Slot) : Prop where
  /-- The request is the first one that is due under its name, and brings its document to a slot. -/
  first : ((deskOf json past.deeds session).due.find? fun request =>
    request.1 == notice.entry.name) = some (notice.entry.name, .json slot)
  /-- The slot holds what it has brought. -/
  filled : session.slots.get slot = (session.brought notice.entry).map .document
  /-- No request is queued. -/
  requests : enqueued (past.deeds ++ session.deed?.toList) = enqueued past.deeds
  /-- The request is not awaited any more. -/
  awaits : waiting json (past.deeds ++ session.deed?.toList) after =
    (waiting json past.deeds session).eraseP fun entry => entry.name == notice.entry.name
  /-- The desk is as it was but for it. -/
  desk : deskOf json (past.deeds ++ session.deed?.toList) after =
    { (deskOf json past.deeds session).told notice.entry.name with
      answered := (deskOf json past.deeds session).answered ++
        (notice.completed? json).toList.map fun entry => (entry.name, session.brought entry) }

/-- What the client is told of a request for a document that is over. -/
theorem ends_of_told {event : Event} {calls : List (Member Listener × Event)}
    {below : List (Frame (users handler react reaches))}
    {before : List (Notice × List (Member Listener))} {notice : Notice}
    {listeners : List (Member Listener)}
    (run : Session.Run (.new start) past session) (serving : Serving json past.deeds session)
    (stack : session.stack = .tell ((.client, event) :: calls) :: .drain :: below)
    (taken : session.step? =
      some (session.advance (.tell ((.client, event) :: calls)) (.drain :: below)))
    (handed : handedOut past.deeds = before ++ [(notice, listeners)])
    (knew : known past.deeds session = before.map (·.1))
    (knows : known (past.deeds ++ session.deed?.toList)
      (session.advance (.tell ((.client, event) :: calls)) (.drain :: below)) =
        before.map (·.1) ++ [notice])
    (own : json notice.entry.name = true) (terminal : notice.isTerminal = true) :
    ∃ slot, Ends json past session
      (session.advance (.tell ((.client, event) :: calls)) (.drain :: below)) notice slot := by
  have deed : session.deed? = some (.told .client event) := by
    simp only [Session.deed?, stack]
  have said : session.utterance? = some (.heard .client event) := by
    simp only [Session.utterance?, stack]
  have requests := Download.enqueued_append past.deeds session.deed?.toList (by rw [deed]; rfl)
  obtain ⟨found, erased⟩ := run.first_awaited serving.undropped handed terminal own
  rw [← knew] at found erased
  have waits : notice.entry ∈ waiting json past.deeds session := List.mem_of_find?_eq_some found
  obtain ⟨slot, place, _, filled⟩ := serving.shelved.slot waits
  have awaits : waiting json (past.deeds ++ session.deed?.toList)
      (session.advance (.tell ((.client, event) :: calls)) (.drain :: below)) =
        (waiting json past.deeds session).eraseP fun entry => entry.name == notice.entry.name := by
    rw [waiting, knows, requests, ← knew]
    exact erased
  refine ⟨slot, ?_, filled, requests, awaits, ?_⟩
  · change (List.map _ _).find? _ = _
    rw [List.find?_map]
    exact (congrArg (Option.map _) found).trans (by rw [Option.map_some, place])
  · obtain ⟨routes, brought⟩ :=
      same_of_mute run taken (mute_of_some said rfl fun _ => rfl)
    have due : ((waiting json past.deeds session).eraseP fun entry =>
        entry.name == notice.entry.name).map
          (fun entry => (entry.name, entry.request.destination)) =
        (deskOf json past.deeds session).due.eraseP fun request =>
          request.1 == notice.entry.name := by
      change _ = (List.map _ _).eraseP _
      rw [List.eraseP_map]
      rfl
    have tells : completed json (before.map (·.1) ++ [notice]) =
        completed json (known past.deeds session) ++ (notice.completed? json).toList := by
      rw [knew, completed, List.filterMap_append]
      rfl
    rw [deskOf, awaits, knows, requests, routes, brought, due, tells, List.map_append]
    rfl

/-- A request for a document of which the client is told that it is complete has brought one. -/
theorem brought_of_complete (run : Session.Run (.new start) past session)
    (serving : Serving json past.deeds session) {entry : Entry}
    (complete : .complete entry ∈ session.recorded) (own : json entry.name = true) :
    ∃ document, session.brought entry = some document := by
  have result := ((run.booked.balanced.reported entry none).mp complete).1
  exact Option.isSome_iff_exists.mp (serving.answerable entry result own)

/-- The client that is told something goes on: it takes the slot of a request for a document that is
over, and hands the document on if the request is complete. -/
theorem onward_told_client {event : Event} {calls : List (Member Listener × Event)}
    (own : json authRequest = true) (courteous : Desk.Courteous json handler)
    (run : Session.Run (.new start) past session) (serving : Serving json past.deeds session)
    (stack : session.stack = .tell ((.client, event) :: calls) :: rest)
    (taken : session.step? = some (session.advance (.tell ((.client, event) :: calls)) rest)) :
    Onward json past session (session.advance (.tell ((.client, event) :: calls)) rest) := by
  have manned := serving.manned
  rw [stack] at manned
  obtain ⟨level, fitting⟩ := manned
  have drains : startsDrain rest = true := by
    by_contra aside
    have other := fitting.1 (Bool.not_eq_true _ ▸ aside) _ List.mem_cons_self
    exact Bool.noConfusion other
  obtain ⟨below, rfl⟩ := drain_of_starts drains
  have deed : session.deed? = some (.told .client event) := by
    simp only [Session.deed?, stack]
  have said : session.utterance? = some (.heard .client event) := by
    simp only [Session.utterance?, stack]
  have mute : Mute session := mute_of_some said rfl fun _ => rfl
  obtain ⟨before, notice, listeners, handed, rfl, knew, knows⟩ := last_told run serving stack
  have recorded : notice ∈ session.recorded := by
    rw [run.pushed, handed, List.map_append]
    exact List.mem_append_left _ (List.mem_append_right _ (List.mem_singleton_self _))
  -- Only that one of its own requests is over makes the client take a slot.
  by_cases aside : json notice.entry.name = true → notice.isTerminal = false
  · refine onward_of_mute run taken
      (kept_of_aside (by rw [deed]; rfl) (knew ▸ knows) aside) mute serving.shelved
      ⟨Desk.behaves_of_leads (Desk.leads_hear_aside handler level fun named => ?_),
        fitting_tell fitting⟩
    cases notice with
    | added entry => exact ⟨_, _, rfl⟩
    | complete entry | error entry failure => exact Bool.noConfusion (aside named)
  · obtain ⟨named, open_⟩ := Classical.not_imp.mp aside
    have terminal : notice.isTerminal = true := Bool.not_eq_false _ ▸ open_
    obtain ⟨slot, ends⟩ :=
      ends_of_told run serving stack taken handed knew knows named terminal
    refine ⟨⟨?_, fitting_tell fitting⟩, ?_⟩
    · rw [ends.desk]
      cases notice with
      | added entry => exact Bool.noConfusion terminal
      | complete entry =>
        obtain ⟨document, brought⟩ := brought_of_complete run serving recorded named
        have tells : (Notice.complete entry).completed? json = some entry := if_pos named
        rw [tells, Option.toList_some, List.map_singleton, brought]
        have filled := ends.filled
        have brought : session.brought (Notice.complete entry).entry = some document := brought
        rw [brought] at filled
        have distinct : ((deskOf json past.deeds session).due.map (·.2)).Nodup := by
          have places := serving.shelved.distinct (run.booked.balanced.distinct.filter _)
          rwa [deskOf, List.map_map]
        exact ⟨some handler, fun other is => (Option.some.inj is).symm,
          Desk.leads_hear_complete courteous level ends.first distinct filled⟩
      | error entry failure =>
        have tells : (Notice.error entry failure).completed? json = none := rfl
        rw [tells, Option.toList_none, List.map_nil, List.append_nil]
        exact Desk.behaves_of_leads (Desk.leads_hear_error handler level own ends.first failure)
    · rw [ends.awaits, ends.requests, (same_of_mute run taken mute).2]
      exact serving.shelved.fewer fun entry listed => List.mem_of_mem_eraseP listed

end Notices

/-! ## Transfers and tasks -/

/-- A transfer does nothing for the queue but cancel a request. -/
theorem silent_read {serial allowance : Nat} {message : List Signal}
    {rest : List (Frame (users handler react reaches))}
    (stack : session.stack = .transfer serial message allowance :: rest) :
    Silent session.deed? := by
  have deed : session.deed? = session.asked? := by simp only [Session.deed?, stack]
  rw [deed]
  refine silent_asked fun request call => ?_
  rw [Session.call?, stack] at call
  split at call
  · rename_i script
    exact absurd script (by simp)
  · split at call
    · exact absurd call (by simp)
    · exact absurd call (by simp)
  · exact absurd call (by simp)

/-- A transfer that follows a signal goes on. -/
theorem onward_follow {serial allowance : Nat} {signal : Signal} {message : List Signal}
    {transfer : Transfer} (run : Session.Run (.new start) past session)
    (serving : Serving json past.deeds session)
    (stack : session.stack = [.transfer serial (signal :: message) allowance])
    (stored : session.transfer? serial = some transfer)
    (taken : session.step? =
      some (session.advance (.transfer serial (signal :: message) allowance) [])) :
    Onward json past session
      (session.advance (.transfer serial (signal :: message) allowance) []) := by
  have manned := serving.manned
  rw [stack] at manned
  have level : Desk.Level json (deskOf json past.deeds session) := manned.1
  have framed := run.framed (Session.framed_new start)
  have said : session.utterance? = some (Session.following transfer signal) := by
    simp only [Session.utterance?, stack, stored, Option.map_some]
  have fitting : Fitting json
      (session.advance (.transfer serial (signal :: message) allowance) []).stack :=
    fitting_of_bare (Session.bare_read session serial (signal :: message) allowance)
  have asked : transfer.entry ∈ enqueued past.deeds := by
    have nested := framed.nested
    rw [stack] at nested
    generalize session.queue.delivering = delivering at nested
    cases nested with
    | transfer found fetching =>
      rw [Session.taskAt_tasks, stored, Option.map_some, Option.some.injEq] at found
      subst found
      have listed : transfer.bare ∈ session.tasks :=
        List.mem_map_of_mem (List.mem_of_find?_eq_some stored)
      exact (run.incomplete_of_fetching listed fetching).1
  have same := Session.surroundings_follow session transfer signal
    (.transfer serial message allowance) []
  rw [← Session.advance_read_cons stored] at same
  have state : (session.advance (.transfer serial (signal :: message) allowance) []).state =
      session.state := congrArg Download.Surroundings.state same
  have slots : (session.advance (.transfer serial (signal :: message) allowance) []).slots =
      Session.fillWith session.slots (Session.filling? transfer signal) :=
    congrArg Download.Surroundings.slots same
  have registry : (session.advance (.transfer serial (signal :: message) allowance) []).registry =
      session.registry := congrArg Download.Surroundings.registry same
  have routes := routed_step run taken
  rw [said, Option.toList_some, List.filterMap_cons_none (unrouted_following transfer signal),
    List.filterMap_nil, List.append_nil] at routes
  refine onward_of_kept run taken (kept_of_silent run taken (silent_read stack)) ?_
    (manned_of_level ?_ fitting)
  · rw [slots]
    refine serving.shelved.follow asked (level.bounded _ asked) fun entry => ?_
    rw [Session.brought_step taken framed, said, Option.bind_some, Session.brings_following]
  · rw [state, slots, registry, routes]
    exact level.grow (Nat.le_of_eq (Session.length_fillWith _ _).symm)

/-- A transfer that reads goes on. -/
theorem onward_read {serial allowance : Nat} {message : List Signal}
    (run : Session.Run (.new start) past session) (serving : Serving json past.deeds session)
    (stack : session.stack = [.transfer serial message allowance])
    (taken : session.step? = some (session.advance (.transfer serial message allowance) [])) :
    Onward json past session (session.advance (.transfer serial message allowance) []) := by
  have manned := serving.manned
  rw [stack] at manned
  have fitting : Fitting json (session.advance (.transfer serial message allowance) []).stack :=
    fitting_of_bare (Session.bare_read session serial message allowance)
  cases stored : session.transfer? serial with
  | none =>
    have mute : Mute session := mute_of_none (by
      cases message <;> simp [Session.utterance?, stack, stored])
    have same : Untouched session
        (session.advance (.transfer serial message allowance) []) := by
      rw [Session.advance_read_missing stored]
      exact ⟨rfl, rfl, rfl⟩
    exact onward_of_untouched run serving taken (silent_read stack) mute same manned.1 fitting
  | some transfer =>
    cases message with
    | nil =>
      have mute : Mute session := mute_of_none (by simp only [Session.utterance?, stack])
      have same : Untouched session (session.advance (.transfer serial [] allowance) []) := by
        rw [Session.advance_read_nil stored]
        exact untouched_of_surroundings
          (Session.surroundings_readNext session transfer allowance [])
      exact onward_of_untouched run serving taken (silent_read stack) mute same manned.1 fitting
    | cons signal message => exact onward_follow run serving stack stored taken

/-- What is shown at the end goes on with what lies under it. -/
theorem onward_shown {observation : Observation (Member Listener) (Mark Note)}
    {rest : List (Frame (users handler react reaches))}
    (run : Session.Run (.new start) past session) (serving : Serving json past.deeds session)
    (stack : session.stack = .show observation :: rest)
    (taken : session.step? = some (session.advance (.show observation) rest)) :
    Onward json past session (session.advance (.show observation) rest) := by
  have manned := serving.manned
  rw [stack] at manned
  have mute : Mute session := mute_of_none (by simp only [Session.utterance?, stack])
  have deed : session.deed? = none := by
    simp only [Session.deed?, Session.asked?, Session.call?, stack]
  exact onward_of_untouched run serving taken (deed ▸ silent_none) mute ⟨rfl, rfl, rfl⟩ manned.1
    manned.2.below

/-- A task that runs goes on. -/
theorem onward_run {job : Job} {ready : List Job} (run : Session.Run (.new start) past session)
    (serving : Serving json past.deeds session) (stack : session.stack = [])
    (jobs : session.ready = job :: ready)
    (taken : session.step? =
      some (({ session with ready } : Service handler react reaches).run job)) :
    Onward json past session
      (({ session with ready } : Service handler react reaches).run job) := by
  have manned := serving.manned
  rw [stack] at manned
  have deed : session.deed? = none := by
    simp only [Session.deed?, Session.asked?, Session.call?, stack]
  have fitting : Fitting json
      (({ session with ready } : Service handler react reaches).run job).stack :=
    fitting_of_bare (Session.bare_run { session with ready } stack job)
  cases job with
  | transfer serial =>
    have mute : Mute session := mute_of_none (by simp only [Session.utterance?, stack, jobs])
    have same :=
      Session.surroundings_run ({ session with ready } : Service handler react reaches) serial
    exact onward_of_untouched run serving taken (deed ▸ silent_none) mute
      ⟨congrArg Download.Surroundings.state same, congrArg Download.Surroundings.slots same,
        congrArg Download.Surroundings.registry same⟩ manned.1 fitting
  | watcher label =>
    have mute : Mute session := by
      cases idle : session.queue.isIdle with
      | true =>
        have said : session.utterance? = some (.idle label) := by
          simp only [Session.utterance?, stack, jobs, idle, if_true]
        exact mute_of_some said rfl fun _ => rfl
      | false =>
        exact mute_of_none (by simp only [Session.utterance?, stack, jobs, idle,
          Bool.false_eq_true, if_false])
    have same : Untouched session
        (({ session with ready } : Service handler react reaches).run (.watcher label)) := by
      rw [Session.run]
      split
      · exact ⟨rfl, rfl, rfl⟩
      · exact ⟨rfl, rfl, rfl⟩
    exact onward_of_untouched run serving taken (deed ▸ silent_none) mute same manned.1 fitting

end Sailplane.Skysight
