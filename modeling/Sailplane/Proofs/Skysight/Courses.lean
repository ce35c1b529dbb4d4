import Sailplane.Proofs.Skysight.Notices

/-!
# Runs that serve a client

The runs of a queue with a client, a polite handler and other users who are polite, in which nobody
touches the client's slots and transfers bring what they were asked for. Every one of them serves
the client.
-/
namespace Sailplane.Skysight

open Download (Script Operation Slot Slots Content Event Entry Notice Destination Request Failure
  Users Session Frame Job Observation Deed History Signal Transfer Launch enqueued handedOut told
  ended reached awaited completed)

variable {Others Listener Note : Type} {json : String → Bool}
  {handler : Handler Others Listener Note}
  {react : Listener → Event → Act Others Listener Note Unit}
  {reaches : Others → Bool} {past : History (users handler react reaches)}
  {session after : Service handler react reaches} {start : (users handler react reaches).State}

/-! ## Every step -/

/-- Every step goes on serving the client. -/
theorem onward_step (own : json authRequest = true) (courteous : Desk.Courteous json handler)
    (polite : ∀ listener event, Polite json (react listener event))
    (run : Session.Run (.new start) past session) (serving : Serving json past.deeds session)
    (fair : Fair json session) (taken : session.step? = some after) :
    Onward json past session after := by
  rcases Session.step_cases taken with ⟨frame, rest, stack, rfl⟩ | ⟨job, ready, stack, jobs, rfl⟩
  · cases frame with
    | script script =>
      cases script with
      | call operation next =>
        cases operation with
        | enqueue request =>
          cases named : json request.name with
          | true => exact onward_enqueue_own run serving stack taken named
          | false => exact onward_enqueue_other run serving fair stack taken named
        | _ => exact onward_call run serving fair stack taken (by simp)
      | _ => exact onward_script run serving stack taken (by simp)
    | drain =>
      cases outbox : session.queue.outbox with
      | nil => exact onward_drained run serving stack taken outbox
      | cons notice others => exact onward_announced run serving stack taken outbox
    | tell calls =>
      rcases calls with _ | ⟨⟨listener, event⟩, calls⟩
      · exact onward_told_all run serving stack taken
      · cases listener with
        | client => exact onward_told_client own courteous run serving stack taken
        | other listener => exact onward_told_other own polite run serving stack taken
    | transfer serial message allowance =>
      have nested := (run.framed (Session.framed_new start)).nested
      rw [stack] at nested
      generalize session.queue.delivering = delivering at nested
      cases nested with
      | transfer => exact onward_read run serving stack taken
    | «show» observation => exact onward_shown run serving stack taken
  · exact onward_run run serving stack jobs taken

/-- The client is to be told of a notice once. -/
theorem single_step (run : Session.Run (.new start) past session)
    (serving : Serving json past.deeds session) (taken : session.step? = some after) :
    (after.due.filter fun call => Member.isClient call.1).length ≤ 1 := by
  have framed := run.framed (Session.framed_new start)
  have settles := Session.settles_step taken framed
  -- Only a notice that is handed out makes anybody due, and the client listens once.
  by_cases sent : handedOut session.deed?.toList = []
  · rw [Session.Settles, sent, List.flatMap_nil, List.append_nil] at settles
    have less : after.due <:+ session.due := ⟨_, settles⟩
    exact Nat.le_trans (less.sublist.filter _).length_le serving.single
  · obtain ⟨notice, deed⟩ := Session.announced_of_sent sent
    obtain ⟨rest, stack⟩ := Session.drain_of_announced deed
    have manned := serving.manned
    rw [stack] at manned
    have hears : session.registry.listeners.filter Member.isClient = _ := manned.1.hears
    have due : after.due = Download.callsFor (notice, session.registry.listeners) := by
      rw [Session.Settles, Session.due_of_announced framed deed, deed] at settles
      exact settles.trans (List.append_nil _)
    rw [due, Download.callsFor, List.filter_map, List.length_map]
    refine Nat.le_trans (Nat.le_of_eq (congrArg List.length hears)) ?_
    rw [List.length_map]
    exact Option.length_toList_le

/-- Nothing is taken away by a shutdown. -/
theorem undropped_step (serving : Serving json past.deeds session) :
    Download.dropped (past.deeds ++ session.deed?.toList) = [] := by
  have manned := serving.manned
  rw [Download.dropped, List.flatMap_append, List.append_eq_nil_iff]
  refine ⟨serving.undropped, ?_⟩
  have asked : session.asked?.toList.flatMap Deed.dropped = [] := by
    rw [Session.asked?]
    split
    · rfl
    · cases session.queue.entries.find? _ with
      | none => rfl
      | some entry => rfl
    · rename_i call
      obtain ⟨next, rest, stack⟩ := Session.script_of_call call (by simp)
      rw [stack] at manned
      obtain ⟨⟨_, _, leads⟩, _⟩ := manned
      exact absurd leads id
    · rfl
  rw [Session.deed?]
  split
  · cases session.queue.outbox with
    | nil => rfl
    | cons notice others => rfl
  · rfl
  · exact asked

/-- Every fair step goes on serving the client. -/
theorem Serving.step (serving : Serving json past.deeds session) (own : json authRequest = true)
    (courteous : Desk.Courteous json handler)
    (polite : ∀ listener event, Polite json (react listener event))
    (run : Session.Run (.new start) past session) (fair : Fair json session)
    (taken : session.step? = some after) :
    Serving json (History.deeds (past ++ [session])) after := by
  have onward := onward_step own courteous polite run serving fair taken
  rw [Session.deeds_append]
  exact ⟨onward.manned, onward.shelved, single_step run serving taken,
    answerable_step run taken fair serving.answerable, undropped_step serving⟩

/-! ## Every run -/

/-- Whether the client is about to take the slot of a document that came in. -/
def Collects (session : Service handler react reaches) : Prop :=
  ∃ slot name rest,
    session.stack = .script (.call (.takeSlot slot) (Client.handOn handler name)) :: rest

/-- What the client takes is not in a slot that it keeps. -/
theorem fair_of_collects {deeds : List (Deed (Member Listener))}
    (serving : Serving json deeds session) (collects : Collects session) : Fair json session := by
  obtain ⟨slot, name, rest, stack⟩ := collects
  have manned := serving.manned
  rw [stack] at manned
  obtain ⟨⟨receiver, _, leads⟩, _⟩ := manned
  rw [Fair, stack]
  intro keeps
  cases receiver with
  | some _ => exact absurd keeps (leads.2.1 rfl)
  | none =>
    -- Nobody else would hand a document on, so the slot cannot hold one.
    obtain ⟨entry, waits, uses⟩ := waiting_of_kept leads.1 serving.shelved keeps
    have filled := serving.shelved.filled entry waits slot uses
    cases brought : session.brought entry with
    | none => rw [filled, brought, Option.map_none]
    | some document =>
      rw [brought] at filled
      have taken : (session.slots.take slot).1 = some (.document document) := filled
      have hands : Desk.Leads json none
          (Client.handOn handler name (session.slots.take slot).1) _ _ := leads.2.2
      rw [taken] at hands
      obtain ⟨_, nobody, _⟩ := hands.1 name document rfl
      exact absurd nobody (by simp)

/-- The runs of a queue with a client and others who are polite: the client starts when nothing else
goes on, callers begin polite scripts, messages come in, and every step that is not the client's own
is fair. -/
inductive Course (json : String → Bool) :
    History (users handler react reaches) → Service handler react reaches → Prop where
  /-- Nothing has happened, and there is no client. -/
  | new {shared : Shared Others} (absent : shared.client = none) : Course json [] (.new shared)
  /-- A client starts if there is none. -/
  | connect {past : History (users handler react reaches)}
    {session : Service handler react reaches} (before : Course json past session)
    (quiet : session.stack = []) (absent : Shared.client session.state = none)
    (account : Config.Account) : Course json past (session.begin (Client.connect account))
  /-- A caller begins a script. -/
  | begin {past : History (users handler react reaches)}
    {session : Service handler react reaches} (before : Course json past session)
    (quiet : session.stack = []) {script : Act Others Listener Note Unit}
    (polite : Polite json script) : Course json past (session.begin script)
  /-- A message comes in for a transfer. -/
  | arrive {past : History (users handler react reaches)}
    {session : Service handler react reaches} (before : Course json past session) (serial : Nat)
    (message : List Signal) : Course json past (session.arrive serial message)
  /-- One step more. -/
  | step {past : History (users handler react reaches)}
    {session after : Service handler react reaches} (before : Course json past session)
    (fair : Collects session ∨ Fair json session) (taken : session.step? = some after) :
    Course json (past ++ [session]) after

/-- A course is a run. -/
theorem Course.run (course : Course json past session) :
    ∃ start, Session.Run (.new start) past session := by
  induction course with
  | @new shared absent => exact ⟨shared, .refl⟩
  | connect before quiet absent account ih =>
    exact ih.imp fun _ run => run.input (.begin quiet _)
  | begin before quiet polite ih => exact ih.imp fun _ run => run.input (.begin quiet _)
  | arrive before serial message ih =>
    exact ih.imp fun _ run => run.input (.arrive _ serial message)
  | step before fair taken ih => exact ih.imp fun _ run => run.step taken

/-- To take fair steps until there is none goes on with a course. -/
theorem Course.repeatedly (course : Course json past session) (fuel : Nat)
    (fair : ∀ earlier ∈ Session.visited fuel session, Fair json earlier) :
    Course json (past ++ Session.visited fuel session)
      (Session.repeatedly Session.step? fuel session) := by
  induction fuel generalizing past session with
  | zero =>
    rw [Session.visited, List.append_nil]
    exact course
  | succ fuel ih =>
    rw [Session.visited] at fair ⊢
    rw [Session.repeatedly]
    cases taken : session.step? with
    | none =>
      rw [List.append_nil]
      exact course
    | some next =>
      rw [taken] at fair
      have after := ih (course.step (.inr (fair _ List.mem_cons_self)) taken)
        fun earlier listed => fair earlier (List.mem_cons_of_mem _ listed)
      rwa [List.append_assoc] at after

/-- What comes from outside leaves what matters to the client. -/
theorem deskOf_input (input : Session.Input session after)
    (deeds : List (Deed (Member Listener))) :
    deskOf json deeds after = deskOf json deeds session := by
  have same := untouched_of_surroundings (Session.surroundings_input input)
  have knows : known deeds after = known deeds session := by
    rw [known, known, Session.due_input input]
  have routes : routed after = routed session := Session.said_input _ input
  have brought : after.brought = session.brought :=
    funext fun entry => congrArg List.getLast? (Session.said_input _ input)
  rw [deskOf, deskOf, waiting, waiting, same.state, same.slots, same.registry, knows, routes,
    brought]

/-- What comes from outside goes on serving the client if it goes on from its desk. -/
theorem Serving.input {deeds : List (Deed (Member Listener))}
    (serving : Serving json deeds session) (input : Session.Input session after)
    (manned : Manned json (deskOf json deeds session) after.stack) : Serving json deeds after := by
  have slots := (untouched_of_surroundings (Session.surroundings_input input)).slots
  have due := Session.due_input input
  have brought : after.brought = session.brought :=
    funext fun entry => congrArg List.getLast? (Session.said_input _ input)
  have results : after.results = session.results := Session.said_input _ input
  refine ⟨?_, ?_, due ▸ serving.single, ?_, serving.undropped⟩
  · rw [deskOf_input input]
    exact manned
  · rw [waiting, known, due, slots, brought]
    exact serving.shelved
  · rw [results, brought]
    exact serving.answerable

/-- When nothing has begun the desk is level. -/
theorem Serving.level {deeds : List (Deed (Member Listener))}
    (serving : Serving json deeds session) (quiet : session.stack = []) :
    Desk.Level json (deskOf json deeds session) := by
  have manned := serving.manned
  rw [quiet] at manned
  exact manned.1

/-- A script that is well-behaved goes on serving the client when it begins. -/
theorem Serving.begin {deeds : List (Deed (Member Listener))}
    (serving : Serving json deeds session) (quiet : session.stack = [])
    {script : Act Others Listener Note Unit}
    (leads : Desk.Leads json none script (fun _ => Desk.Level json) (deskOf json deeds session)) :
    Serving json deeds (session.begin script) := by
  refine serving.input (.begin quiet script) ⟨Desk.behaves_of_leads leads, ?_⟩
  rw [quiet]
  trivial

/-- Before anything has happened nobody is to be served. -/
theorem serving_new {shared : Shared Others} (absent : shared.client = none) :
    Serving json [] (.new shared : Service handler react reaches) where
  manned := by
    refine ⟨⟨⟨by simp [deskOf, enqueued], ?_, by simp [deskOf, waiting, awaited, enqueued], ?_,
      by simp [deskOf, enqueued]⟩, rfl⟩, trivial⟩
    · change shared.pending.map _ = []
      rw [Shared.pending, absent]
      rfl
    · change [] = shared.client.toList.map _
      rw [absent]
      rfl
  shelved := ⟨by simp [waiting, awaited, enqueued], by simp [enqueued],
    by simp [waiting, awaited, enqueued], by simp [waiting, awaited, enqueued]⟩
  single := Nat.zero_le 1
  answerable := by simp [Session.results, Session.new]
  undropped := rfl

/-- Where a handler is polite the client is well-behaved with it. -/
theorem Desk.courteous_of_polite (own : json authRequest = true)
    (update : ∀ topic document, Polite json (handler.update topic document))
    (flag : Polite json handler.flag) (newKey : Polite json handler.newKey) :
    Desk.Courteous json handler where
  update := fun topic document _ level => Desk.leads_polite own (update topic document) level
  flag := fun _ level => Desk.leads_polite own flag level
  newKey := fun _ level => Desk.leads_polite own newKey level

/-- Every course serves the client. -/
theorem Course.serving (own : json authRequest = true) (courteous : Desk.Courteous json handler)
    (polite : ∀ listener event, Polite json (react listener event))
    (course : Course json past session) : Serving json past.deeds session := by
  induction course with
  | new absent => exact serving_new absent
  | connect before quiet absent account ih =>
    exact ih.begin quiet (Desk.leads_connect (ih.level quiet) absent own account)
  | begin before quiet courtesy ih =>
    exact ih.begin quiet (Desk.leads_polite own courtesy (ih.level quiet))
  | arrive before serial message ih =>
    have manned := ih.manned
    rw [← Session.stack_arrive _ serial message] at manned
    exact ih.input (.arrive _ serial message) manned
  | step before fair taken ih =>
    obtain ⟨_, run⟩ := before.run
    exact ih.step own courteous polite run (fair.elim (fair_of_collects ih) id) taken

end Sailplane.Skysight
