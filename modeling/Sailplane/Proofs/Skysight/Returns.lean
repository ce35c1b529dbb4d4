import Mathlib.Logic.Relation
import Sailplane.Proofs.Skysight.Onward
import Sailplane.Proofs.Skysight.Verdicts

/-!
# What the calls of a client come to

A script that has a client ask for a key, for a document or for a file takes a few steps until it
goes on with the answer; what they come to is said as a whole. At most one request is put in the
queue, and nothing else that has begun goes on meanwhile.
-/
namespace Sailplane.Skysight

open Download (Script Request RequestData Session Frame Event)

variable {Others Listener Note α : Type} {handler : Handler Others Listener Note}
  {react : Listener → Event → Act Others Listener Note Unit} {reaches : Others → Bool}
  {session after : Service handler react reaches}
  {rest : List (Frame (users handler react reaches))} {client : Client}

/-- Whether steps lead from one session to another. -/
abbrev Later (session after : Service handler react reaches) : Prop :=
  Relation.ReflTransGen (fun before next => before.step? = some next) session after

/-- Whether steps lead to where a script goes on with an answer, with at most the notices to be
handed out before it. -/
structure Returns (session after : Service handler react reaches)
    (next : α → Act Others Listener Note Unit) (answer : α)
    (rest : List (Frame (users handler react reaches))) : Prop where
  /-- Steps lead there. -/
  later : Later session after
  /-- The script goes on with the answer. -/
  stack : ∃ frames, (frames = [] ∨ frames = [.drain]) ∧
    after.stack = frames ++ .script (next answer) :: rest

/-- A step of a script leads on. -/
theorem later_script {script : Act Others Listener Note Unit}
    (stack : session.stack = .script script :: rest)
    (later : Later (session.advance (.script script) rest) after) : Later session after :=
  .head (by simp only [Session.step?, stack]) later

/-! ## Requests for documents -/

/-- What it means that a client has put a request for a document in the queue, and noted something
down before. -/
structure Requests (session after : Service handler react reaches) (client : Client)
    (name url : String) (data : RequestData) (noted : List (Mark Note)) : Prop where
  /-- The request stands behind the others. -/
  entries : after.queue.entries = session.queue.entries ++
    [⟨session.queue.issued, .json url name session.slots.fresh.1 data⟩]
  /-- The client keeps its slot behind the others. -/
  client : Shared.client after.state =
    some { client with pending := client.pending ++ [(name, session.slots.fresh.1)] }
  /-- Nothing else is seen. -/
  log : after.log = session.log ++ noted.map .note ++
    [.recorded (.added ⟨session.queue.issued, .json url name session.slots.fresh.1 data⟩)]

/-- The queue and the log after a request was queued. -/
theorem applied_enqueue (session : Service handler react reaches) (request : Request) :
    (session.applyAndDeliver (session.queue.enqueue request)).2.queue.entries =
        session.queue.entries ++ [⟨session.queue.issued, request⟩] ∧
      (session.applyAndDeliver (session.queue.enqueue request)).2.log =
        session.log ++ [.recorded (.added ⟨session.queue.issued, request⟩)] := by
  have shift := Session.shift_applyAndDeliver session (session.queue.enqueue request)
  have yields := Download.yields_enqueue session.queue request
  refine ⟨?_, ?_⟩
  · rw [shift.queue]
    exact yields.entries
  · rw [shift.log, yields.recorded]
    rfl

/-- A client that queues a request for a document puts it in the queue. -/
theorem returns_enqueue {name url : String} {data : RequestData}
    {next : Unit → Act Others Listener Note Unit}
    (present : Shared.client session.state = some client)
    (stack : session.stack = .script ((Client.enqueue name url data).bind next) :: rest) :
    ∃ after, Returns session after next () rest ∧
      Requests session after client name url data [] := by
  obtain ⟨queue, transfers, slots, registry, ready, waiting, ⟨stored, now, others⟩, begun, log⟩ :=
    session
  obtain rfl : stored = some client := present
  obtain rfl : begun = _ := stack
  -- A new slot, two looks and a change later the client keeps the slot, and calls the queue.
  let keeping : Service handler react reaches :=
    ⟨queue, transfers, slots.fresh.2, registry, ready, waiting,
      ⟨some { client with pending := client.pending ++ [(name, slots.fresh.1)] }, now, others⟩,
      .script ((Script.enqueue (.json url name slots.fresh.1 data)).bind next) :: rest, log⟩
  let changed := keeping.applyAndDeliver (queue.enqueue (.json url name slots.fresh.1 data))
  refine ⟨{ changed.2 with stack := changed.1 ++ .script (next ()) :: rest }, ⟨?_, ?_⟩, ?_⟩
  · exact later_script rfl (later_script rfl (later_script rfl (later_script rfl
      (later_script rfl .refl))))
  · exact ⟨changed.1, Session.frames_applyAndDeliver keeping _, rfl⟩
  · obtain ⟨entries, seen⟩ := applied_enqueue keeping (.json url name slots.fresh.1 data)
    have same := untouched_of_surroundings (Session.surroundings_applyAndDeliver keeping
      (queue.enqueue (.json url name slots.fresh.1 data)))
    refine ⟨entries, congrArg Shared.client same.state, ?_⟩
    rw [List.map_nil, List.append_nil]
    exact seen

/-- What goes before a request for a document is said of it as well. -/
theorem Requests.since {noting : Service handler react reaches} {name url : String}
    {data : RequestData} {noted : List (Mark Note)}
    (requests : Requests noting after client name url data [])
    (queue : noting.queue = session.queue) (slots : noting.slots = session.slots)
    (log : noting.log = session.log ++ noted.map .note) :
    Requests session after client name url data noted := by
  have said := requests.log
  rw [List.map_nil, List.append_nil, log, queue, slots] at said
  exact ⟨queue ▸ slots ▸ requests.entries, slots ▸ requests.client, said⟩

/-- The session when something else goes on in place of a script. -/
abbrev goingOn (session : Service handler react reaches) (script : Act Others Listener Note Unit)
    (rest : List (Frame (users handler react reaches))) : Service handler react reaches :=
  { session with stack := .script script :: rest }

/-- What is done with a client that is there leads on with what is done with it. -/
theorem later_withClient {absent : α} {act : Client → Instant → Act Others Listener Note α}
    {next : α → Act Others Listener Note Unit}
    (present : Shared.client session.state = some client)
    (stack : session.stack = .script ((Client.withClient absent act).bind next) :: rest)
    (later : Later
      (goingOn session ((act client (Shared.now session.state)).bind next) rest) after) :
    Later session after := by
  rw [Client.withClient_eq] at stack
  refine later_script stack ?_
  change Later (goingOn session (Script.bind ((Shared.client session.state).elim (.done absent)
    fun client => act client (Shared.now session.state)) next) rest) after
  rw [present]
  exact later

/-- What is done with a client that is there and ends with an answer goes on with it. -/
theorem returns_withClient {absent answer : α} {act : Client → Instant → Act Others Listener Note α}
    {next : α → Act Others Listener Note Unit}
    (present : Shared.client session.state = some client)
    (stack : session.stack = .script ((Client.withClient absent act).bind next) :: rest)
    (ends : act client (Shared.now session.state) = .done answer) :
    Returns session (goingOn session (next answer) rest) next answer rest := by
  refine ⟨later_withClient present stack ?_, [], .inl rfl, rfl⟩
  rw [ends]
  exact .refl

/-- A client that is told to ask for a document puts a request for it in the queue. -/
theorem returns_requestJson {name part : String} {next : Unit → Act Others Listener Note Unit}
    (present : Shared.client session.state = some client)
    (stack : session.stack = .script ((Client.requestJson name part).bind next) :: rest) :
    ∃ after, Returns session after next () rest ∧
      Requests session after client name (client.account.url part)
        (client.requestData (Shared.now session.state)) [] := by
  let asking := goingOn session ((Client.enqueue name (client.account.url part)
    (client.requestData (Shared.now session.state))).bind next) rest
  have there : Shared.client asking.state = some client := present
  obtain ⟨after, returns, requests⟩ := returns_enqueue there rfl
  exact ⟨after, ⟨later_withClient present stack returns.later, returns.stack⟩,
    requests.since rfl rfl (List.append_nil _).symm⟩

/-! ## Requests for keys -/

/-- What it means that a client has answered when it was told to ask for a key. -/
structure Answers (session after : Service handler react reaches) (client : Client)
    (answer : Bool) : Prop where
  /-- It refuses exactly within a minute of when it asked last. -/
  refuses : answer = false ↔ ∃ last ∈ client.credential.requestedAt,
    Shared.now session.state < last + requestInterval
  /-- If it is to ask it records that, notes it down, and puts one request in the queue. -/
  asks : (client.credential.beginRequest (Shared.now session.state)).1 = .send →
    Requests session after
      { client with credential :=
        { client.credential with requestedAt := some (Shared.now session.state) } }
      authRequest client.account.authUrl (Client.loginData client.account)
      [.asked (Shared.now session.state)]
  /-- If not nothing changes. -/
  leaves : (client.credential.beginRequest (Shared.now session.state)).1 ≠ .send →
    after = { session with stack := after.stack }

/-- To ask for a key is what the client decides. -/
theorem requestKey_eq_withClient : (Client.requestKey : Act Others Listener Note Bool) =
    Client.withClient false Client.decide :=
  Client.requestKey_eq.trans Client.withClient_eq.symm

/-- A client that is to ask for a key records that, notes it down, and puts one request in the
queue. -/
theorem returns_send {next : Bool → Act Others Listener Note Unit}
    (present : Shared.client session.state = some client)
    (sends : (client.credential.beginRequest (Shared.now session.state)).1 = .send)
    (stack : session.stack = .script ((Client.withClient false Client.decide).bind next) :: rest) :
    ∃ after, Returns session after next true rest ∧ Requests session after
      { client with credential :=
        { client.credential with requestedAt := some (Shared.now session.state) } }
      authRequest client.account.authUrl (Client.loginData client.account)
      [.asked (Shared.now session.state)] := by
  let asking : Client := { client with credential :=
    { client.credential with requestedAt := some (Shared.now session.state) } }
  let shared : Shared Others := { (session.state : Shared Others) with client := some asking }
  -- A look, a change and a note later the client queues the request.
  let noting : Service handler react reaches :=
    { goingOn session (((Client.enqueue authRequest client.account.authUrl
        (Client.loginData client.account)).bind fun _ => .done true).bind next) rest with
      state := shared, log := session.log ++ [.note (.asked (Shared.now session.state))] }
  have stacked : noting.stack = .script ((Client.enqueue authRequest client.account.authUrl
      (Client.loginData client.account)).bind fun _ => next true) :: rest :=
    congrArg (fun script => .script script :: rest) (Script.bind_assoc _ _ _)
  have decides : (client.decide (Shared.now session.state) : Act Others Listener Note Bool) =
      client.send asking.credential (Shared.now session.state) := by
    rw [Client.decide, sends, Credential.beginRequest_of_send sends]
  have there : Shared.client noting.state = some asking := rfl
  obtain ⟨after, returns, requests⟩ := returns_enqueue there stacked
  have sent : Later session noting := by
    refine later_withClient present stack ?_
    rw [decides, Client.send, Script.bind_assoc]
    exact later_script rfl (later_script rfl (later_script rfl .refl))
  exact ⟨after, ⟨sent.trans returns.later, returns.stack⟩, requests.since rfl rfl rfl⟩

/-- A client that is told to ask for a key answers. -/
theorem returns_requestKey {next : Bool → Act Others Listener Note Unit}
    (present : Shared.client session.state = some client)
    (stack : session.stack = .script (Client.requestKey.bind next) :: rest) :
    ∃ after answer, Returns session after next answer rest ∧
      Answers session after client answer := by
  rw [requestKey_eq_withClient] at stack
  have throttled : (client.credential.beginRequest (Shared.now session.state)).1 = .throttled ↔
      ∃ last ∈ client.credential.requestedAt, Shared.now session.state < last + requestInterval :=
    Credential.throttled_iff
  cases decision : (client.credential.beginRequest (Shared.now session.state)).1 with
  | throttled =>
    rw [decision] at throttled
    have decides : (client.decide (Shared.now session.state) : Act Others Listener Note Bool) =
        .done false := by rw [Client.decide, decision]
    refine ⟨_, false, returns_withClient present stack decides, ?_, ?_, fun _ => rfl⟩
    · simpa using throttled
    · simp [decision]
  | reuse =>
    rw [decision] at throttled
    have decides : (client.decide (Shared.now session.state) : Act Others Listener Note Bool) =
        .done true := by rw [Client.decide, decision]
    refine ⟨_, true, returns_withClient present stack decides, ?_, ?_, fun _ => rfl⟩
    · simpa using throttled
    · simp [decision]
  | send =>
    rw [decision] at throttled
    obtain ⟨after, returns, requests⟩ := returns_send present decision stack
    refine ⟨after, true, returns, ?_, fun _ => requests, fun other => absurd decision other⟩
    simpa using throttled

/-! ## Requests for files -/

/-- What it means that a client has answered when it was told to ask for a file. -/
structure Fetches (session after : Service handler react reaches) (client : Client)
    (url path : String) (kind : FileKind) (answer : Except Refusal Unit) : Prop where
  /-- It refuses unless it is logged in. -/
  refuses : client.isLoggedIn (Shared.now session.state) = false → answer = .error .notLoggedIn
  /-- It does not refuse if it is logged in and the file has a name. -/
  asks : client.isLoggedIn (Shared.now session.state) = true →
    ∀ name, Path.fileName? path = some name → answer = .ok ()
  /-- If it does not refuse one request stands behind the others; nothing goes along with the one
  for a plain file, and with another what goes along with a request for a document. -/
  queues : answer = .ok () → ∃ name, after.queue.entries = session.queue.entries ++
    [⟨session.queue.issued, ⟨url, name, .file path,
      if kind = .normal then .none else client.requestData (Shared.now session.state)⟩⟩]
  /-- If it refuses nothing changes. -/
  leaves : answer ≠ .ok () → after = { session with stack := after.stack }

/-- A client that is told to ask for a file answers. -/
theorem returns_download {url path : String} {kind : FileKind}
    {next : Except Refusal Unit → Act Others Listener Note Unit}
    (present : Shared.client session.state = some client)
    (stack : session.stack = .script ((Client.download url path kind).bind next) :: rest) :
    ∃ after answer, Returns session after next answer rest ∧
      Fetches session after client url path kind answer := by
  have looks : (Client.download url path kind : Act Others Listener Note (Except Refusal Unit)) =
      Client.withClient (.error .notLoggedIn) fun client now => client.fetch now url path kind :=
    rfl
  rw [looks] at stack
  cases valid : client.credential.isValid (Shared.now session.state) with
  | false =>
    have fetches : (client.fetch (Shared.now session.state) url path kind :
        Act Others Listener Note (Except Refusal Unit)) = .done (.error .notLoggedIn) := by
      rw [Client.fetch, if_neg (ne_true_of_eq_false valid)]
    exact ⟨_, _, returns_withClient present stack fetches, fun _ => rfl,
      by simp [Client.isLoggedIn, valid], by simp, fun _ => rfl⟩
  | true =>
    let data := if kind = .normal then .none else client.requestData (Shared.now session.state)
    cases called : Path.fileName? path with
    | none =>
      have fetches : ∃ failure, (client.fetch (Shared.now session.state) url path kind :
          Act Others Listener Note (Except Refusal Unit)) = .done (.error (.download failure)) := by
        rw [Client.fetch, if_pos valid, Client.fileRequest, Request.file, called]
        exact ⟨_, rfl⟩
      obtain ⟨failure, fetches⟩ := fetches
      exact ⟨_, _, returns_withClient present stack fetches, by simp [Client.isLoggedIn, valid],
        by simp [called], by simp, fun _ => rfl⟩
    | some name =>
      have fetches : (client.fetch (Shared.now session.state) url path kind :
          Act Others Listener Note (Except Refusal Unit)) =
            .call (.enqueue ⟨url, name, .file path, data⟩) fun _ => .done (.ok ()) := by
        rw [Client.fetch, if_pos valid, Client.fileRequest, Request.file, called]
      let asking := goingOn session (.call (.enqueue ⟨url, name, .file path, data⟩) fun _ =>
        next (.ok ())) rest
      let changed := asking.applyAndDeliver
        (session.queue.enqueue ⟨url, name, .file path, data⟩)
      have later : Later session
          { changed.2 with stack := changed.1 ++ .script (next (.ok ())) :: rest } := by
        refine later_withClient present stack ?_
        rw [fetches]
        exact later_script rfl .refl
      refine ⟨_, .ok (), ⟨later, changed.1, Session.frames_applyAndDeliver asking _, rfl⟩, ?_⟩
      obtain ⟨entries, _⟩ := applied_enqueue asking ⟨url, name, .file path, data⟩
      exact ⟨by simp [Client.isLoggedIn, valid], fun _ _ _ => rfl, fun _ => ⟨name, entries⟩,
        by simp⟩

end Sailplane.Skysight
