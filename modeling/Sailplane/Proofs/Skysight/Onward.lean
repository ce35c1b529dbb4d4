import Sailplane.Proofs.Skysight.Serving

/-!
# Scripts and calls while a client is served

What it means that a step goes on serving the client, and that it does while a script runs: whatever
the script does with what is shared, and whichever call it makes.
-/
namespace Sailplane.Skysight

open Download (Script Operation Slot Slots Content Event Entry Notice Destination Request Failure
  Users Session Frame Job Observation Deed History Signal Transfer Launch enqueued handedOut told
  ended reached awaited completed)

variable {Others Listener Note : Type} {json : String → Bool}
  {handler : Handler Others Listener Note}
  {react : Listener → Event → Act Others Listener Note Unit}
  {reaches : Others → Bool} {past : History (users handler react reaches)}
  {session after : Service handler react reaches} {start : (users handler react reaches).State}

/-- Whether a step keeps the desk level, unless a script runs, and the documents awaited where the
client will look for them. -/
structure Onward (json : String → Bool) (past : History (users handler react reaches))
    (session after : Service handler react reaches) : Prop where
  /-- The desk is level, unless a script runs. -/
  manned : Manned json (deskOf json (past.deeds ++ session.deed?.toList) after) after.stack
  /-- The documents awaited are where the client will look for them. -/
  shelved : Shelved json (enqueued (past.deeds ++ session.deed?.toList))
    (waiting json (past.deeds ++ session.deed?.toList) after) after.slots after.brought

/-- Whether a deed neither queues a request nor hands out a notice nor tells of one. -/
structure Silent (deed : Option (Deed (Member Listener))) : Prop where
  /-- It queues nothing. -/
  unqueued : deed.toList.filterMap Deed.queued? = []
  /-- It tells nobody anything. -/
  untold : told deed.toList = []
  /-- It hands nothing out. -/
  unsent : handedOut deed.toList = []

/-- Where nothing is done all is silent. -/
theorem silent_none : Silent (none : Option (Deed (Member Listener))) := ⟨rfl, rfl, rfl⟩

/-- What is asked for is silent if it is not that a request be queued. -/
theorem silent_asked (unqueued : ∀ request, session.call? ≠ some (.enqueue request)) :
    Silent session.asked? := by
  refine ⟨?_, (Session.told_asked session).1, (Session.told_asked session).2⟩
  rw [Session.asked?]
  split
  · rename_i request call
    exact absurd call (unqueued request)
  · cases session.queue.entries.find? _ with
    | none => rfl
    | some entry => rfl
  · rfl
  · rfl

/-- Whether a step leaves the requests, what is awaited, and of which requests the client was told
that they are complete. -/
structure Kept (json : String → Bool) (past : History (users handler react reaches))
    (session after : Service handler react reaches) : Prop where
  /-- No request is queued. -/
  requests : enqueued (past.deeds ++ session.deed?.toList) = enqueued past.deeds
  /-- The same requests are awaited. -/
  awaits : waiting json (past.deeds ++ session.deed?.toList) after = waiting json past.deeds session
  /-- The same requests are known to be complete. -/
  tells : completed json (known (past.deeds ++ session.deed?.toList) after) =
    completed json (known past.deeds session)

/-- A silent step leaves all of it. -/
theorem kept_of_silent (run : Session.Run (.new start) past session)
    (taken : session.step? = some after) (silent : Silent session.deed?) :
    Kept json past session after := by
  have requests := Download.enqueued_append past.deeds _ silent.unqueued
  have same : known (past.deeds ++ session.deed?.toList) after = known past.deeds session :=
    known_of_due silent.unsent (due_of_silent run taken silent.untold silent.unsent)
  refine ⟨requests, ?_, congrArg (completed json) same⟩
  rw [waiting, waiting, same, requests]

/-- A notice that the client comes to know leaves all of it if it is not that a request for a
document is over. -/
theorem kept_of_aside {notice : Notice}
    (unqueued : session.deed?.toList.filterMap Deed.queued? = [])
    (knows : known (past.deeds ++ session.deed?.toList) after =
      known past.deeds session ++ [notice])
    (aside : json notice.entry.name = true → notice.isTerminal = false) :
    Kept json past session after := by
  have requests := Download.enqueued_append past.deeds _ unqueued
  refine ⟨requests, ?_, ?_⟩
  · rw [waiting, knows, requests]
    exact Download.awaited_aside aside
  · have untold : notice.completed? json = none := by
      cases notice with
      | complete entry =>
        exact if_neg fun own => Bool.noConfusion (aside own)
      | added entry | error entry failure => rfl
    rw [knows, completed, List.filterMap_append, List.filterMap_cons_none untold]
    exact List.append_nil _

/-- The desk after a step that leaves all of it. -/
theorem deskOf_of_kept (run : Session.Run (.new start) past session)
    (taken : session.step? = some after) (kept : Kept json past session after) :
    deskOf json (past.deeds ++ session.deed?.toList) after =
      { deskOf json past.deeds session with
        shared := after.state
        slots := after.slots
        registry := after.registry
        routed := routed after } := by
  have brought : ∀ entry ∈ completed json (known past.deeds session),
      (entry.name, after.brought entry) = (entry.name, session.brought entry) :=
    fun entry listed => congrArg (Prod.mk entry.name) (brought_of_completed run taken listed)
  simp only [deskOf, kept.requests, kept.awaits, kept.tells, List.map_congr_left brought]

/-- A step that leaves all of it goes on if its desk does and the slots of awaited documents go with
what was brought. -/
theorem onward_of_kept (run : Session.Run (.new start) past session)
    (taken : session.step? = some after) (kept : Kept json past session after)
    (shelved : Shelved json (enqueued past.deeds) (waiting json past.deeds session) after.slots
      after.brought)
    (manned : Manned json
      { deskOf json past.deeds session with
        shared := after.state
        slots := after.slots
        registry := after.registry
        routed := routed after } after.stack) : Onward json past session after := by
  refine ⟨?_, ?_⟩
  · rw [deskOf_of_kept run taken kept]
    exact manned
  · rw [kept.awaits, kept.requests]
    exact shelved

/-- Whether the next step says nothing of a document. -/
def Mute (session : Service handler react reaches) : Prop :=
  ∀ observation ∈ session.utterance?,
    routed? observation = none ∧ ∀ entry, observation.brings? entry = none

/-- A step that says nothing is mute. -/
theorem mute_of_none (said : session.utterance? = none) : Mute session := by
  intro observation listed
  rw [said] at listed
  exact absurd listed (by simp)

/-- A step that says something else is mute. -/
theorem mute_of_some {observation : Observation (Member Listener) (Mark Note)}
    (said : session.utterance? = some observation) (aside : routed? observation = none)
    (nothing : ∀ entry, observation.brings? entry = none) : Mute session := by
  intro other listed
  rw [said] at listed
  obtain rfl := Option.some.inj listed
  exact ⟨aside, nothing⟩

/-- A mute step hands nothing on and brings nothing. -/
theorem same_of_mute (run : Session.Run (.new start) past session)
    (taken : session.step? = some after) (mute : Mute session) :
    routed after = routed session ∧ after.brought = session.brought := by
  constructor
  · rw [routed_step run taken]
    cases said : session.utterance? with
    | none => exact List.append_nil _
    | some observation =>
      rw [Option.toList_some, List.filterMap_cons_none (mute observation said).1]
      exact List.append_nil _
  · refine brought_step_none run taken fun entry => ?_
    cases said : session.utterance? with
    | none => rfl
    | some observation => exact (mute observation said).2 entry

/-- A mute step goes on if its desk does and awaited documents stay where they are. -/
theorem onward_of_mute (run : Session.Run (.new start) past session)
    (taken : session.step? = some after) (kept : Kept json past session after)
    (mute : Mute session)
    (shelved : Shelved json (enqueued past.deeds) (waiting json past.deeds session) after.slots
      session.brought)
    (manned : Manned json
      { deskOf json past.deeds session with
        shared := after.state, slots := after.slots, registry := after.registry }
      after.stack) : Onward json past session after := by
  obtain ⟨routes, brought⟩ := same_of_mute run taken mute
  refine onward_of_kept run taken kept ?_ ?_
  · rw [brought]
    exact shelved
  · rw [routes]
    exact manned

/-- Whether a step leaves what is shared, the slots and the listeners. -/
structure Untouched (session after : Service handler react reaches) : Prop where
  /-- What is shared. -/
  state : after.state = session.state
  /-- The slots. -/
  slots : after.slots = session.slots
  /-- The listeners. -/
  registry : after.registry = session.registry

/-- A step that leaves the surroundings leaves all that. -/
theorem untouched_of_surroundings (same : after.surroundings = session.surroundings) :
    Untouched session after :=
  ⟨congrArg Download.Surroundings.state same, congrArg Download.Surroundings.slots same,
    congrArg Download.Surroundings.registry same⟩

/-- A mute step that leaves all that goes on from a level desk. -/
theorem onward_of_untouched (run : Session.Run (.new start) past session)
    (serving : Serving json past.deeds session) (taken : session.step? = some after)
    (silent : Silent session.deed?) (mute : Mute session) (same : Untouched session after)
    (level : Desk.Level json (deskOf json past.deeds session))
    (fitting : Fitting json after.stack) : Onward json past session after := by
  refine onward_of_mute run taken (kept_of_silent run taken silent) mute ?_
    (manned_of_level ?_ fitting)
  · rw [same.slots]
    exact serving.shelved
  · rw [same.state, same.slots, same.registry]
    exact level

/-! ## Scripts -/

section Scripts

variable {rest : List (Frame (users handler react reaches))}

/-- A script that ends, looks at what is shared or changes it goes on. -/
theorem onward_script {script : Act Others Listener Note Unit}
    (run : Session.Run (.new start) past session) (serving : Serving json past.deeds session)
    (stack : session.stack = .script script :: rest)
    (taken : session.step? = some (session.advance (.script script) rest))
    (uncalled : ∀ operation next, script ≠ .call operation next) :
    Onward json past session (session.advance (.script script) rest) := by
  have manned := serving.manned
  rw [stack] at manned
  obtain ⟨⟨receiver, receives, leads⟩, fitting⟩ := manned
  have kept : Kept json past session (session.advance (.script script) rest) := by
    have deed : session.deed? = none := by
      cases script with
      | call operation next => exact absurd rfl (uncalled operation next)
      | done | get | set | note =>
        simp only [Session.deed?, Session.asked?, Session.call?, stack]
    exact kept_of_silent run taken (deed ▸ silent_none)
  cases script with
  | call operation next => exact absurd rfl (uncalled operation next)
  | done result =>
    have mute : Mute session := mute_of_none (by simp only [Session.utterance?, stack])
    exact onward_of_mute run taken kept mute serving.shelved (manned_of_level leads fitting)
  | get next =>
    have mute : Mute session := mute_of_none (by simp only [Session.utterance?, stack])
    exact onward_of_mute run taken kept mute serving.shelved
      ⟨⟨receiver, receives, leads⟩, fitting⟩
  | set shared next =>
    have mute : Mute session := mute_of_none (by simp only [Session.utterance?, stack])
    exact onward_of_mute run taken kept mute serving.shelved
      ⟨⟨receiver, receives, leads⟩, fitting⟩
  | note written next =>
    have said : session.utterance? = some (.note written) := by
      simp only [Session.utterance?, stack]
    cases written with
    | routed name document =>
      have nothing (entry : Entry) :
          session.utterance?.bind (Observation.brings? entry) = none := by
        rw [said]
        rfl
      refine onward_of_kept run taken kept ?_ ⟨Desk.behaves_of_leads ?_, fitting⟩
      · rw [brought_step_none run taken nothing]
        exact serving.shelved
      · rw [routed_step run taken, said]
        exact leads.2
    | asked | renewed | renounced | note =>
      exact onward_of_mute run taken kept (mute_of_some said rfl fun _ => rfl) serving.shelved
        ⟨Desk.behaves_of_leads leads.2, fitting⟩

/-! ## Calls -/

/-- The step that makes a call. -/
abbrev called (session : Service handler react reaches)
    (operation : Operation (Member Listener))
    (next : operation.Reply → Act Others Listener Note Unit)
    (rest : List (Frame (users handler react reaches))) : Service handler react reaches :=
  session.advance (.script (.call operation next)) rest

/-- What a call sets off may go on. -/
theorem fitting_call {operation : Operation (Member Listener)}
    {next : operation.Reply → Act Others Listener Note Unit}
    (resumes : ∀ reply desk, Desk.Level json desk → Desk.Behaves json handler (next reply) desk)
    (fitting : Fitting json rest)
    (others : ∀ listener, operation = .enumerate listener → listener.isClient = false) :
    Fitting json (called session operation next rest).stack := by
  have under : Fitting json (.script (next (session.perform operation).1) :: rest) :=
    ⟨resumes _, fitting⟩
  change Fitting json ((session.perform operation).2.1 ++ _)
  rcases Session.frames_perform session operation with none | drain | ⟨calls, tell⟩
  · rw [none]
    exact under
  · rw [drain]
    exact under
  · have set_off : .tell calls ∈ (session.perform operation).2.1 := by
      rw [tell]
      exact List.mem_singleton_self _
    obtain ⟨listener, same, replayed⟩ := Session.enumerated_of_perform set_off
    rw [tell]
    refine ⟨fun _ call listed => ?_, under⟩
    rw [(replayed call listed).1]
    exact others listener same

/-- The slots of awaited documents are those that the client keeps. -/
theorem kept_of_waiting (even : Desk.Even json (deskOf json past.deeds session))
    (shelved : Shelved json (enqueued past.deeds) (waiting json past.deeds session) session.slots
      session.brought) {entry : Entry} (waits : entry ∈ waiting json past.deeds session)
    {slot : Slot} (uses : slot ∈ entry.request.slots) : slot ∈ keptSlots session.state := by
  obtain ⟨own, place, only, _⟩ := shelved.slot waits
  rw [only, List.mem_singleton] at uses
  have due : (entry.name, Destination.json slot) ∈ (deskOf json past.deeds session).due :=
    List.mem_map.mpr ⟨entry, waits, by rw [place, uses]⟩
  rw [← even.kept] at due
  obtain ⟨kept, listed, same⟩ := List.mem_map.mp due
  exact List.mem_map.mpr ⟨kept, listed, Destination.json.inj (Prod.mk.inj same).2⟩

/-- The slots that the client keeps are those of awaited documents. -/
theorem waiting_of_kept {deeds : List (Deed (Member Listener))}
    (even : Desk.Even json (deskOf json deeds session))
    (shelved : Shelved json (enqueued deeds) (waiting json deeds session) session.slots
      session.brought) {slot : Slot} (keeps : slot ∈ keptSlots session.state) :
    ∃ entry ∈ waiting json deeds session, slot ∈ entry.request.slots := by
  obtain ⟨kept, listed, rfl⟩ := List.mem_map.mp keeps
  have due : (kept.1, Destination.json kept.2) ∈ (deskOf json deeds session).due := by
    rw [← even.kept]
    exact List.mem_map_of_mem listed
  obtain ⟨entry, waits, same⟩ := List.mem_map.mp due
  obtain ⟨own, place, only, _⟩ := shelved.slot waits
  refine ⟨entry, waits, ?_⟩
  rw [only, List.mem_singleton]
  have there : entry.request.destination = .json kept.2 := (Prod.mk.inj same).2
  rw [place] at there
  exact (Destination.json.inj there).symm

variable {operation : Operation (Member Listener)}
  {next : operation.Reply → Act Others Listener Note Unit}

/-- What a call does to the requests is silent if it does not queue one. -/
theorem silent_call (stack : session.stack = .script (.call operation next) :: rest)
    (unqueued : ∀ request, operation ≠ .enqueue request) : Silent session.deed? := by
  have deed : session.deed? = session.asked? := by simp only [Session.deed?, stack]
  have call : session.call? = some operation := by simp only [Session.call?, stack]
  rw [deed]
  refine silent_asked fun request same => ?_
  rw [call] at same
  exact unqueued request (Option.some.inj same)

/-- A call after which others may do something goes on if the desk is level after it. -/
theorem onward_level (run : Session.Run (.new start) past session)
    (serving : Serving json past.deeds session)
    (stack : session.stack = .script (.call operation next) :: rest)
    (taken : session.step? = some (called session operation next rest))
    (unqueued : ∀ request, operation ≠ .enqueue request)
    (others : ∀ listener, operation = .enumerate listener → listener.isClient = false)
    (resumes : ∀ reply desk, Desk.Level json desk → Desk.Behaves json handler (next reply) desk)
    (state : (session.perform operation).2.2.state = session.state)
    (slots : (session.perform operation).2.2.slots = session.slots)
    (level : Desk.Level json { deskOf json past.deeds session with
      registry := (session.perform operation).2.2.registry }) :
    Onward json past session (called session operation next rest) := by
  have manned := serving.manned
  rw [stack] at manned
  have mute : Mute session := mute_of_none (by simp only [Session.utterance?, stack])
  have same : (called session operation next rest).slots = session.slots := slots
  have shared : (called session operation next rest).state = session.state := state
  refine onward_of_mute run taken (kept_of_silent run taken (silent_call stack unqueued)) mute ?_
    (manned_of_level ?_ (fitting_call resumes manned.2 others))
  · rw [same]
    exact serving.shelved
  · rw [same, shared]
    exact level

/-- A desk stays level when another registration than the client's is taken away. -/
theorem Desk.Level.unregister {desk : Desk Others Listener} (level : Desk.Level json desk)
    {number : Nat}
    (other : ∀ client ∈ desk.shared.client, client.registration ≠ number) :
    Desk.Level json { desk with registry := (desk.registry.remove number).2 } := by
  refine { level with listens := ?_ }
  change (desk.registry.registered.filter _).filter _ = _
  rw [List.filter_comm, level.listens, List.filter_eq_self]
  intro entry listed
  obtain ⟨client, present, rfl⟩ := List.mem_map.mp listed
  exact bne_iff_ne.mpr (other client (Option.mem_toList.mp present))

/-- A call goes on that does not queue a request. -/
theorem onward_call (run : Session.Run (.new start) past session)
    (serving : Serving json past.deeds session) (fair : Fair json session)
    (stack : session.stack = .script (.call operation next) :: rest)
    (taken : session.step? = some (called session operation next rest))
    (unqueued : ∀ request, operation ≠ .enqueue request) :
    Onward json past session (called session operation next rest) := by
  have manned := serving.manned
  have mute : Mute session := mute_of_none (by simp only [Session.utterance?, stack])
  rw [stack] at manned
  obtain ⟨⟨receiver, receives, leads⟩, fitting⟩ := manned
  have resumes (after : ∀ reply desk, Desk.Level json desk →
      Desk.Leads json receiver (next reply) (fun _ => Desk.Level json) desk) :
      ∀ reply desk, Desk.Level json desk → Desk.Behaves json handler (next reply) desk :=
    fun reply desk level => ⟨receiver, receives, after reply desk level⟩
  have untouched (others : ∀ listener, operation = .enumerate listener → listener.isClient = false)
      (after : ∀ reply desk, Desk.Level json desk →
        Desk.Leads json receiver (next reply) (fun _ => Desk.Level json) desk)
      (same : Untouched session (session.perform operation).2.2)
      (level : Desk.Level json (deskOf json past.deeds session)) :
      Onward json past session (called session operation next rest) := by
    refine onward_level run serving stack taken unqueued others (resumes after) same.state
      same.slots ?_
    rw [same.registry]
    exact level
  have kept : Kept json past session (called session operation next rest) :=
    kept_of_silent run taken (silent_call stack unqueued)
  cases operation with
  | enqueue request => exact absurd rfl (unqueued request)
  | shutdown => exact absurd leads id
  | newSlot =>
    exact onward_of_mute run taken kept mute
      (serving.shelved.same fun _ _ slot _ => Slots.get_fresh session.slots slot)
      ⟨⟨receiver, receives, leads⟩, fitting⟩
  | takeSlot slot =>
    rw [Fair, stack] at fair
    refine onward_of_mute run taken kept mute
      (serving.shelved.same fun entry waits used uses => ?_)
      ⟨⟨receiver, receives, leads.2.2⟩, fitting⟩
    -- A slot that the client keeps was empty, so that taking it changes nothing.
    by_cases same : used = slot
    · have keeps := kept_of_waiting leads.1 serving.shelved waits uses
      exact Slots.get_take_of_none session.slots (fair (same ▸ keeps)) used
    · exact Slots.get_take_of_ne session.slots same
  | register listener =>
    exact onward_of_mute run taken kept mute serving.shelved
      ⟨⟨receiver, receives, leads⟩, fitting⟩
  | unregister number =>
    rw [Fair, stack] at fair
    exact onward_level run serving stack taken unqueued (by simp) (resumes leads.2) rfl rfl
      (leads.1.unregister fair)
  | enumerate listener =>
    refine untouched (fun other same => ?_) (fun _ => leads.2.2) ⟨rfl, rfl, rfl⟩ leads.2.1
    rw [← Operation.enumerate.inj same]
    exact leads.1
  | cancel name =>
    exact untouched (by simp) leads.2
      (untouched_of_surroundings (Session.surroundings_cancel session name)) leads.1
  | signal message =>
    exact untouched (by simp) leads.2
      (untouched_of_surroundings (Session.surroundings_signal session message)) leads.1
  | isIdle | entries | watchIdle | readSlot =>
    exact untouched (by simp) leads.2 ⟨rfl, rfl, rfl⟩ leads.1

/-- What a request that is queued adds to the requests, to what is awaited and to the desk. -/
structure Joins (json : String → Bool) (past : History (users handler react reaches))
    (session after : Service handler react reaches) (entry : Entry) : Prop where
  /-- It is the last request. -/
  requests : enqueued (past.deeds ++ session.deed?.toList) = enqueued past.deeds ++ [entry]
  /-- It is awaited last if it is for a document. -/
  awaits : waiting json (past.deeds ++ session.deed?.toList) after =
    waiting json past.deeds session ++ if json entry.name = true then [entry] else []
  /-- The desk is as it was but for it. -/
  desk : deskOf json (past.deeds ++ session.deed?.toList) after =
    { deskOf json past.deeds session with
      requests := enqueued past.deeds ++ [entry]
      due := (deskOf json past.deeds session).due ++
        if json entry.name = true then [(entry.name, entry.request.destination)] else [] }
  /-- The slots are as they were. -/
  slots : after.slots = session.slots
  /-- The others have brought what they had brought. -/
  brought : after.brought = session.brought

/-- A call that queues a request adds it. -/
theorem joins_enqueue {request : Request} {next : Unit → Act Others Listener Note Unit}
    (run : Session.Run (.new start) past session)
    (stack : session.stack = .script (.call (.enqueue request) next) :: rest)
    (taken : session.step? = some (called session (.enqueue request) next rest)) :
    Joins json past session (called session (.enqueue request) next rest)
      ⟨(enqueued past.deeds).length, request⟩ := by
  have deed : session.deed? = some (.queued request) := by
    simp only [Session.deed?, Session.asked?, Session.call?, stack]
  have mute : Mute session := mute_of_none (by simp only [Session.utterance?, stack])
  obtain ⟨routes, brought⟩ := same_of_mute run taken mute
  have due := due_of_silent run taken (by rw [deed]; rfl) (by rw [deed]; rfl)
  have knows : known (past.deeds ++ session.deed?.toList)
      (called session (.enqueue request) next rest) = known past.deeds session :=
    known_of_due (by rw [deed]; rfl) due
  have requests : enqueued (past.deeds ++ session.deed?.toList) =
      enqueued past.deeds ++ [⟨(enqueued past.deeds).length, request⟩] := by
    rw [deed, Option.toList_some, Download.enqueued_queued]
  have fresh : ⟨(enqueued past.deeds).length, request⟩ ∉ enqueued past.deeds :=
    run.booked.balanced.fresh rfl
  have awaits : awaited json (enqueued past.deeds ++ [_]) (known past.deeds session) = _ :=
    Download.awaited_concat fun told => fresh (queued_of_known run told)
  rw [← requests, ← knows] at awaits
  have surroundings :=
    Session.surroundings_applyAndDeliver session (session.queue.enqueue request)
  have same : Untouched session (called session (.enqueue request) next rest) :=
    untouched_of_surroundings surroundings
  refine ⟨requests, awaits.trans ?_, ?_, same.slots, brought⟩
  · rw [knows]
    rfl
  · rw [deskOf, waiting, awaits, knows, requests, routes, brought, same.slots, same.registry,
      same.state, List.map_append, apply_ite (List.map _)]
    rfl

/-- A call that queues a request for a document goes on: the document is awaited from now on. -/
theorem onward_enqueue_own {request : Request} {next : Unit → Act Others Listener Note Unit}
    (run : Session.Run (.new start) past session) (serving : Serving json past.deeds session)
    (stack : session.stack = .script (.call (.enqueue request) next) :: rest)
    (taken : session.step? = some (called session (.enqueue request) next rest))
    (own : json request.name = true) :
    Onward json past session (called session (.enqueue request) next rest) := by
  have manned := serving.manned
  rw [stack] at manned
  obtain ⟨⟨receiver, receives, queues, resumes⟩, fitting⟩ := manned
  rw [Desk.Queues, if_pos own] at queues
  obtain ⟨slot, ready⟩ := queues
  have joins : Joins json past session _ _ := joins_enqueue run stack taken
  generalize new : (⟨(enqueued past.deeds).length, request⟩ : Entry) = entry at joins
  have named : json entry.name = true := new ▸ own
  have fresh : entry ∉ enqueued past.deeds := run.booked.balanced.fresh (new ▸ rfl)
  have place : entry.request.destination = .json slot := new ▸ ready.place
  have alone : entry.request.data.digest = none := new ▸ ready.alone
  have nothing : session.brought entry = none := by
    by_contra some_
    obtain ⟨document, brings⟩ := Option.ne_none_iff_exists'.mp some_
    exact fresh (run.brought_queued brings)
  have resumes : ∀ reply desk, Desk.Level json desk → Desk.Behaves json handler (next reply) desk :=
    fun _ desk level => ⟨receiver, receives, resumes desk level⟩
  refine ⟨manned_of_level ?_ (fitting_call resumes fitting (by simp)), ?_⟩
  · have level := ready.level
    rw [joins.desk, if_pos named, place]
    have name : entry.name = request.name := new ▸ rfl
    rw [name]
    refine { level with bounded := ?_, vacant := fun absent => absurd absent ready.present }
    intro other listed used uses
    rcases List.mem_append.mp listed with before | last
    · exact level.bounded other before used uses
    · rw [List.mem_singleton.mp last, Request.slots_of_json place alone,
        List.mem_singleton] at uses
      rw [uses]
      exact ready.handed
  · rw [joins.requests, joins.awaits, if_pos named, joins.slots, joins.brought]
    exact serving.shelved.queue named place alone ready.empty nothing ready.fresh

/-- A call that queues another request goes on. -/
theorem onward_enqueue_other {request : Request} {next : Unit → Act Others Listener Note Unit}
    (run : Session.Run (.new start) past session) (serving : Serving json past.deeds session)
    (fair : Fair json session)
    (stack : session.stack = .script (.call (.enqueue request) next) :: rest)
    (taken : session.step? = some (called session (.enqueue request) next rest))
    (other : json request.name = false) :
    Onward json past session (called session (.enqueue request) next rest) := by
  have manned := serving.manned
  rw [stack] at manned
  rw [Fair, stack] at fair
  obtain ⟨⟨receiver, receives, level, resumes⟩, fitting⟩ := manned
  rw [Desk.Queues, if_neg (ne_true_of_eq_false other)] at level
  have joins : Joins json past session _ _ := joins_enqueue run stack taken
  generalize new : (⟨(enqueued past.deeds).length, request⟩ : Entry) = entry at joins
  have named : json entry.name = false := new ▸ other
  have uses_ : entry.request.slots = request.slots := new ▸ rfl
  have resumes : ∀ reply desk, Desk.Level json desk → Desk.Behaves json handler (next reply) desk :=
    fun _ desk level => ⟨receiver, receives, resumes desk level⟩
  refine ⟨manned_of_level ?_ (fitting_call resumes fitting (by simp)), ?_⟩
  · rw [joins.desk, if_neg (ne_true_of_eq_false named), List.append_nil]
    refine { level with bounded := ?_, vacant := ?_ }
    · intro asked listed used uses
      rcases List.mem_append.mp listed with before | last
      · exact level.bounded asked before used uses
      · rw [List.mem_singleton.mp last, uses_] at uses
        exact (fair other used uses).1
    · intro absent asked listed
      rcases List.mem_append.mp listed with before | last
      · exact level.vacant absent asked before
      · rw [List.mem_singleton.mp last]
        exact named
  · rw [joins.requests, joins.awaits, if_neg (ne_true_of_eq_false named), joins.slots,
      joins.brought, List.append_nil]
    refine serving.shelved.queueOther named fun waits listed slot uses among => ?_
    rw [uses_] at among
    exact (fair other slot among).2 (kept_of_waiting level.toEven serving.shelved listed uses)

end Scripts

end Sailplane.Skysight
