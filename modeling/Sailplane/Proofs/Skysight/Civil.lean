import Sailplane.Proofs.Skysight.Desk

/-!
# Civil scripts

What the other users of a client's queue may do when nothing is reserved for the client: they call
the queue as they like, empty it, queue requests under any name, change what they share and set the
clock, and use the client by what it offers, until it is given up. They only leave its slots, its
key and its listener to it. A script of theirs is told from what the client does by itself.
-/
namespace Sailplane.Download.Script

variable {State Listener Note α β γ : Type}

/-- To go on and then go on again is to go on with both. -/
theorem bind_assoc (script : Script State Listener Note α) (next : α → Script State Listener Note β)
    (last : β → Script State Listener Note γ) :
    (script.bind next).bind last = script.bind fun result => (next result).bind last := by
  induction script with
  | done result => rfl
  | call operation rest ih => exact congrArg (call operation) (funext ih)
  | get rest ih => exact congrArg get (funext ih)
  | set changed rest ih => exact congrArg (set changed) ih
  | note written rest ih => exact congrArg (note written) ih

/-- What a script does first. -/
inductive Start where
  /-- It ends. -/
  | ends
  /-- It makes a call. -/
  | calls
  /-- It looks at what is shared. -/
  | looks
  /-- It changes what is shared. -/
  | changes
  /-- It writes a note. -/
  | notes
  deriving DecidableEq

/-- What a script does first. -/
def start : Script State Listener Note α → Start
  | done _ => .ends
  | call _ _ => .calls
  | get _ => .looks
  | set _ _ => .changes
  | note _ _ => .notes

end Sailplane.Download.Script

namespace Sailplane.Skysight

open Download (Script Operation Request Failure)

variable {Others Listener Note α β : Type}

/-! ## What the client does for others -/

namespace Client

/-- What is done with the client begins with a look at what is shared. -/
theorem withClient_eq {absent : α} {act : Client → Instant → Act Others Listener Note α} :
    withClient absent act = .get fun shared =>
      shared.client.elim (.done absent) fun client => act client shared.now := by
  refine congrArg Script.get (funext fun shared => ?_)
  cases stored : shared.client with
  | none => simp [Script.bind, stored, pure]
  | some client => simp [Script.bind, stored]

/-- How a client asks for a key that it has decided to ask for. -/
def send (client : Client) (credential : Credential) (now : Instant) :
    Act Others Listener Note Bool :=
  (store { client with credential }).bind fun _ => .note (.asked now)
    ((enqueue authRequest client.account.authUrl (loginData client.account)).bind fun _ =>
      .done true)

/-- What a client does when it is to ask for a key. -/
def decide (client : Client) (now : Instant) : Act Others Listener Note Bool :=
  match (client.credential.beginRequest now).1 with
  | .throttled => .done false
  | .reuse => .done true
  | .send => client.send (client.credential.beginRequest now).2 now

/-- To ask for a key is to look for the client, which decides. -/
theorem requestKey_eq : (requestKey : Act Others Listener Note Bool) = .get fun shared =>
    shared.client.elim (.done false) fun client => client.decide shared.now := by
  rw [requestKey, withClient_eq]
  refine congrArg Script.get (funext fun shared => ?_)
  cases shared.client with
  | none => rfl
  | some client =>
    simp only [Option.elim_some, decide]
    generalize client.credential.beginRequest shared.now = decided
    obtain ⟨decision, credential⟩ := decided
    cases decision with
    | _ => rfl

/-- The file that a client asks for, if its name is one. -/
def fileRequest (client : Client) (now : Instant) (url path : String) (kind : FileKind) :
    Except Failure Request :=
  Request.file url path (if kind = .normal then .none else client.requestData now)

/-- What a client does when it is to ask for a file. -/
def fetch (client : Client) (now : Instant) (url path : String) (kind : FileKind) :
    Act Others Listener Note (Except Refusal Unit) :=
  if client.credential.isValid now then
    match client.fileRequest now url path kind with
    | .ok request => .call (.enqueue request) fun _ => .done (.ok ())
    | .error failure => .done (.error (.download failure))
  else .done (.error .notLoggedIn)

/-- To ask for a file is to look for the client, which asks if it has a key. -/
theorem download_eq (url path : String) (kind : FileKind) :
    (download url path kind : Act Others Listener Note (Except Refusal Unit)) = .get fun shared =>
      shared.client.elim (.done (.error .notLoggedIn)) fun client =>
        client.fetch shared.now url path kind :=
  withClient_eq

/-- To ask for a document is to look for the client, which queues a request for it. -/
theorem requestJson_eq (name part : String) :
    (requestJson name part : Act Others Listener Note Unit) = .get fun shared =>
      shared.client.elim (.done ()) fun client =>
        enqueue name (client.account.url part) (client.requestData shared.now) :=
  withClient_eq

/-- To give the client up is to look for it, and to take its registration away. -/
theorem disconnect_eq : (disconnect : Act Others Listener Note Unit) = .get fun shared =>
    shared.client.elim (.done ()) fun client => .call (.unregister client.registration) fun _ =>
      .get fun shared => .set { shared with client := none } (.done ()) :=
  withClient_eq

end Client

/-! ## What others may do -/

/-- Whether other users may make a call: they do not have the client's listener. -/
def isCivil : Operation (Member Listener) → Prop
  | .enumerate listener | .register listener => listener.isClient = false
  | _ => True

/-- The scripts of other users. -/
inductive Civil : Act Others Listener Note α → Prop where
  /-- The end. -/
  | done (result : α) : Civil (.done result)
  /-- A call to the queue. -/
  | call {operation : Operation (Member Listener)}
    {next : operation.Reply → Act Others Listener Note α} (may : isCivil operation)
    (rest : ∀ reply, Civil (next reply)) : Civil (.call operation next)
  /-- A look at what is shared. -/
  | look {next : Shared Others → Act Others Listener Note α}
    (rest : ∀ shared, Civil (next shared)) : Civil (.get next)
  /-- A change of what is shared, and of the clock, that leaves the client alone. -/
  | change {update : Shared Others → Shared Others}
    {next : Shared Others → Act Others Listener Note α}
    (keeps : ∀ shared, (update shared).client = shared.client)
    (rest : ∀ shared, Civil (next shared)) :
    Civil (.get fun shared => .set (update shared) (next shared))
  /-- A note. -/
  | note (written : Note) {next : Act Others Listener Note α} (rest : Civil next) :
    Civil (.note (.note written) next)
  /-- The client is told to ask for a key. -/
  | requestKey {next : Bool → Act Others Listener Note α} (rest : ∀ answer, Civil (next answer)) :
    Civil (Client.requestKey.bind next)
  /-- The client is told to ask for a document. -/
  | requestJson (name part : String) {next : Unit → Act Others Listener Note α}
    (rest : Civil (next ())) : Civil ((Client.requestJson name part).bind next)
  /-- The client is told to ask for a file. -/
  | download (url path : String) (kind : FileKind)
    {next : Except Refusal Unit → Act Others Listener Note α}
    (rest : ∀ answer, Civil (next answer)) : Civil ((Client.download url path kind).bind next)
  /-- The client is given up. -/
  | disconnect {next : Unit → Act Others Listener Note α} (rest : Civil (next ())) :
    Civil (Client.disconnect.bind next)

/-- Whether a client asks for nothing at a moment: it has just asked for a key and has none. -/
structure Idle (client : Client) (now : Instant) : Prop where
  /-- It has just asked for a key. -/
  asked : client.credential.requestedAt = some now
  /-- It has none. -/
  keyless : client.credential.stored = none

/-- An idle client may not ask for a key. -/
theorem Idle.throttled {client : Client} {now : Instant} (idle : Idle client now) :
    (client.credential.beginRequest now).1 = .throttled := by
  have recent : now < now + requestInterval := Int.lt_add_of_pos_right now (by decide)
  simp [Credential.beginRequest, idle.asked, recent]

/-- An idle client is not logged in. -/
theorem Idle.invalid {client : Client} {now : Instant} (idle : Idle client now) :
    client.credential.isValid now = false := by
  simp [Credential.isValid, idle.keyless]

namespace Civil

variable {script : Act Others Listener Note α}

/-- What a civil script goes on with after a look: it is civil, or changes what is shared but for
the client, or it is what the client does, which an absent client does not and an idle one only with
a call. -/
theorem look_cases {next : Shared Others → Act Others Listener Note α} (civil : Civil (.get next)) :
    (∀ shared, Civil (next shared)) ∨
      (∃ (update : Shared Others → Shared Others)
        (rest : Shared Others → Act Others Listener Note α),
        (∀ shared, (update shared).client = shared.client) ∧
          next = fun shared => .set (update shared) (rest shared)) ∨
      (∀ shared : Shared Others, shared.client = none → Civil (next shared)) ∧
        ∀ shared : Shared Others, ∀ client ∈ shared.client,
          Idle client shared.now → Civil (next shared) ∨ (next shared).start = .calls := by
  generalize is : Script.get next = script at civil
  cases civil with
  | look rest =>
    obtain rfl := Script.get.inj is
    exact .inl rest
  | change keeps rest =>
    obtain rfl := Script.get.inj is
    exact .inr (.inl ⟨_, _, keeps, rfl⟩)
  | requestKey rest =>
    rw [Client.requestKey_eq] at is
    obtain rfl := Script.get.inj is
    refine .inr (.inr ⟨fun shared absent => ?_, fun shared client present idle => ?_⟩)
    · dsimp only
      rw [absent]
      exact rest false
    · dsimp only
      rw [present, Option.elim_some, Client.decide, idle.throttled]
      exact .inl (rest false)
  | requestJson name part rest =>
    rw [Client.requestJson_eq] at is
    obtain rfl := Script.get.inj is
    refine .inr (.inr ⟨fun shared absent => ?_, fun shared client present idle => ?_⟩)
    · dsimp only
      rw [absent]
      exact rest
    · dsimp only
      rw [present]
      exact .inr rfl
  | download url path kind rest =>
    rw [Client.download_eq] at is
    obtain rfl := Script.get.inj is
    refine .inr (.inr ⟨fun shared absent => ?_, fun shared client present idle => ?_⟩)
    · dsimp only
      rw [absent]
      exact rest _
    · dsimp only
      rw [present, Option.elim_some, Client.fetch, if_neg (ne_true_of_eq_false idle.invalid)]
      exact .inl (rest _)
  | disconnect rest =>
    rw [Client.disconnect_eq] at is
    obtain rfl := Script.get.inj is
    refine .inr (.inr ⟨fun shared absent => ?_, fun shared client present idle => ?_⟩)
    · dsimp only
      rw [absent]
      exact rest
    · dsimp only
      rw [present]
      exact .inr rfl
  | done | call | note => exact Script.Start.noConfusion (congrArg Script.start is)

/-- No civil script changes anything before it has looked. -/
theorem not_changes (civil : Civil script) : script.start ≠ .changes := by
  cases civil with
  | _ => exact Script.Start.noConfusion

/-- What a civil script notes down is another user's. -/
theorem note_cases (civil : Civil script) {written : Mark Note}
    {next : Act Others Listener Note α} (is : script = .note written next) :
    ∃ own, written = .note own := by
  cases civil with
  | note own rest => exact ⟨own, (Script.note.inj is).1.symm⟩
  | _ => exact Script.Start.noConfusion (congrArg Script.start is)

/-- What a civil script does after a call is civil. -/
theorem after_call (civil : Civil script) {operation : Operation (Member Listener)}
    {next : operation.Reply → Act Others Listener Note α} (is : script = .call operation next)
    (reply : operation.Reply) : Civil (next reply) := by
  cases civil with
  | call may rest =>
    cases is
    exact rest reply
  | _ => exact Script.Start.noConfusion (congrArg Script.start is)

/-- No civil script changes the client by itself. -/
theorem not_store (shared : Shared Others) (client : Client)
    (next : Unit → Act Others Listener Note α) :
    ¬ Civil ((Client.store client).bind next) := by
  intro civil
  rcases look_cases civil with always | ⟨update, rest, keeps, same⟩ | ⟨absent, _⟩
  · exact not_changes (always shared) rfl
  · -- An update that keeps a client away does not put one there.
    have there := congrFun same { shared with client := none }
    have client_kept := keeps { shared with client := none }
    rw [← (Script.set.inj there).1] at client_kept
    exact Option.some_ne_none client client_kept
  · exact not_changes (absent { shared with client := none } rfl) rfl

/-- No civil script changes an idle client after a look. -/
theorem not_look {next : Shared Others → Act Others Listener Note α} {shared : Shared Others}
    {client changed : Client} (present : shared.client = some client)
    (idle : Idle client shared.now) {last : Unit → Act Others Listener Note α}
    (stores : next shared = (Client.store changed).bind last) : ¬ Civil (.get next) := by
  intro civil
  have unkept := not_store shared changed last
  rw [← stores] at unkept
  have start : (next shared).start = .looks := by
    rw [stores]
    rfl
  rcases look_cases civil with always | ⟨update, rest, _, rfl⟩ | ⟨_, idles⟩
  · exact unkept (always shared)
  · exact Script.Start.noConfusion start
  · rcases idles shared client present idle with civil | calls
    · exact unkept civil
    · rw [start] at calls
      exact Script.Start.noConfusion calls

end Civil

end Sailplane.Skysight
