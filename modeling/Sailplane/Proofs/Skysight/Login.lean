import Sailplane.Proofs.Skysight.Throttle

/-!
# Whether a client is logged in

A client is logged in by the last that was said of its key, and by nothing else: an answer to a
login that gives a key that is still valid. That key goes along with what the client asks for while
it is logged in, and the program's own key otherwise; with a request for a key goes always the
program's own, and nothing with a plain file. The handler is told of every valid key once.
-/
namespace Sailplane.Skysight

open Download (Event RequestData Frame History)

variable {Others Listener Note : Type} {handler : Handler Others Listener Note}
  {react : Listener → Event → Act Others Listener Note Unit} {reaches : Others → Bool}
  {past : History (users handler react reaches)} {session after : Service handler react reaches}

/-- What was said of the key, in order. -/
def verdicts (past : History (users handler react reaches)) : List (Option CredentialReply) :=
  (reports past).filterMap Report.verdict?

/-- Whether the last that was said of the key is an answer to a login that gives a key valid at a
moment. -/
def Granted (past : History (users handler react reaches)) (reply : CredentialReply)
    (now : Instant) : Prop :=
  (verdicts past).getLast? = some (some reply) ∧ reply.Grants now

/-! ## Keys that go along -/

/-- The keys that go along with a request. -/
def apiKeys (data : RequestData) : List String :=
  (data.headers.filter fun header => header.1 == "X-API-Key").flatMap (·.2)

/-- One key goes along with a request of the client, its own or the program's. -/
theorem apiKeys_headers (account : Config.Account) (key : String) :
    apiKeys (Client.headers account key) = [key] := rfl

/-- The program's own key goes along with a request for a key. -/
theorem apiKeys_loginData (account : Config.Account) :
    apiKeys (Client.loginData account) = [account.appKey] := rfl

/-- What it means that exactly one key goes along with a request: the one that was given last if
that is valid, and the program's own otherwise. -/
structure Carries (past : History (users handler react reaches)) (client : Client) (now : Instant)
    (data : RequestData) : Prop where
  /-- A valid key. -/
  own : ∀ reply, Granted past reply now → apiKeys data = [reply.key]
  /-- The program's own. -/
  program : (∀ reply, ¬ Granted past reply now) → apiKeys data = [client.account.appKey]

/-! ## Runs -/

/-- In every voyage, whenever others may look, a client is logged in by the last that was said of
its key. -/
theorem Voyage.isLoggedIn_iff (considerate : Considerate handler)
    (civil : ∀ listener event, Civil (react listener event)) (voyage : Voyage past session)
    (opened : Open session) {client : Client} (present : Shared.client session.state = some client)
    (now : Instant) : client.isLoggedIn now = true ↔ ∃ reply, Granted past reply now := by
  have keyed := (voyage.current considerate civil opened).keyed client present
  have latest : (standing past session).latest = (verdicts past).getLast?.join := rfl
  rw [Client.isLoggedIn, keyed.isValid_iff, latest]
  simp only [Granted, Option.mem_def, Option.join_eq_some_iff]

/-- In every voyage, whenever others may look, exactly one key goes along with what the client asks
for. -/
theorem Voyage.carries (considerate : Considerate handler)
    (civil : ∀ listener event, Civil (react listener event)) (voyage : Voyage past session)
    (opened : Open session) {client : Client} (present : Shared.client session.state = some client)
    (now : Instant) : Carries past client now (client.requestData now) := by
  have keyed := (voyage.current considerate civil opened).keyed client present
  have loggedIn := voyage.isLoggedIn_iff considerate civil opened present now
  constructor
  · intro reply granted
    have latest : (standing past session).latest = some reply :=
      congrArg Option.join granted.1
    rw [latest] at keyed
    rw [Client.requestData, keyed.key?_eq granted.2, apiKeys_headers]
    rfl
  · intro refused
    have invalid : client.credential.isValid now = false := by
      rw [← Bool.not_eq_true]
      intro valid
      obtain ⟨reply, granted⟩ := loggedIn.mp valid
      exact refused reply granted
    rw [Client.requestData, Credential.key?_eq_none invalid, apiKeys_headers]
    rfl

/-- In every voyage a client that notes down that it has adopted a key tells its handler next. -/
theorem Voyage.renews (considerate : Considerate handler)
    (civil : ∀ listener event, Civil (react listener event)) (voyage : Voyage past session)
    {now : Instant} {next : Act Others Listener Note Unit}
    {rest : List (Frame (users handler react reaches))}
    (stack : session.stack = .script (.note (.renewed now) next) :: rest) :
    now = Shared.now session.state ∧ ∃ last, next = handler.newKey.bind last := by
  have afloat := voyage.afloat considerate civil
  rw [stack] at afloat
  have soon := afloat.1
  cases soon with
  | safe safe => exact absurd safe.1 id
  | note brings further => exact brings

/-- What it means that a client has answered when it was told to ask for a file, by what was said of
its key. -/
structure Delivers (past : History (users handler react reaches))
    (session after : Service handler react reaches) (client : Client) (url path : String)
    (kind : FileKind) (answer : Except Refusal Unit) : Prop where
  /-- It refuses without a valid key. -/
  refuses : (∀ reply, ¬ Granted past reply (Shared.now session.state)) →
    answer = .error .notLoggedIn
  /-- With one it asks for every file that has a name. -/
  asks : ∀ reply name, Granted past reply (Shared.now session.state) →
    Path.fileName? path = some name → answer = .ok ()
  /-- If it asks one request stands behind the others; no header goes along with the one for a plain
  file, and one key with any other. -/
  queues : answer = .ok () → ∃ name data, after.queue.entries = session.queue.entries ++
      [⟨session.queue.issued, ⟨url, name, .file path, data⟩⟩] ∧
    (kind = .normal → data.headers = []) ∧
    (kind ≠ .normal → Carries past client (Shared.now session.state) data)
  /-- If it refuses nothing changes. -/
  leaves : answer ≠ .ok () → after = { session with stack := after.stack }

/-- What it means that a client is logged in by what was said of its key, and that its requests go
by that. -/
structure KeyedByPast (past : History (users handler react reaches))
    (session : Service handler react reaches) : Prop where
  /-- Whenever others may look it is logged in at a moment exactly if the last that was said of its
  key is an answer to a login that gives a key valid at that moment. -/
  loggedIn : Open session → ∀ client, Shared.client session.state = some client →
    ∀ now, client.isLoggedIn now = true ↔ ∃ reply, Granted past reply now
  /-- Whenever others may look the keys that it has noted down as adopted are, in order, those of
  the answers to logins that gave a key valid when they came in. -/
  renewed : Open session →
    (marks past).filterMap Mark.renewed? = (reports past).filterMap Report.renewal?
  /-- Whenever it noted that down it told its handler next. -/
  calls : ∀ earlier ∈ past, ∀ now next rest,
    earlier.stack = .script (.note (.renewed now) next) :: rest →
      now = Shared.now earlier.state ∧ ∃ last, next = handler.newKey.bind last
  /-- When it is told to ask for a document it does, and one key goes along. -/
  documents : ∀ client name part next rest, Shared.client session.state = some client →
    session.stack = .script ((Client.requestJson name part).bind next) :: rest → Civil (next ()) →
      ∃ after data, Returns session after next () rest ∧
        Requests session after client name (client.account.url part) data [] ∧
        Carries past client (Shared.now session.state) data
  /-- When it is told to ask for a key and does, the program's own key goes along. -/
  logins : ∀ client next rest, Shared.client session.state = some client →
    session.stack = .script (Client.requestKey.bind next) :: rest →
      ∃ after answer, Returns session after next answer rest ∧
        (after.queue.entries = session.queue.entries ∨
          ∃ slot data, after.queue.entries = session.queue.entries ++
              [⟨session.queue.issued, .json client.account.authUrl authRequest slot data⟩] ∧
            apiKeys data = [client.account.appKey])
  /-- When it is told to ask for a file it does only if it is logged in. -/
  files : ∀ client url path kind next rest, Shared.client session.state = some client →
    session.stack = .script ((Client.download url path kind).bind next) :: rest →
    (∀ answer, Civil (next answer)) →
      ∃ after answer, Returns session after next answer rest ∧
        Delivers past session after client url path kind answer

/-- In every voyage of a client with a considerate handler and civil others what was said of its key
decides whether it is logged in, which keys its handler is told of, and which key goes along with
what it asks for. -/
theorem Voyage.keyed_by_past (considerate : Considerate handler)
    (civil : ∀ listener event, Civil (react listener event)) (voyage : Voyage past session) :
    KeyedByPast past session where
  loggedIn opened _ present := voyage.isLoggedIn_iff considerate civil opened present
  renewed opened := (voyage.current considerate civil opened).renewed
  calls earlier listed now next rest stack := by
    obtain ⟨_, before⟩ := voyage.earlier listed
    exact before.renews considerate civil stack
  documents client name part next rest present stack goesOn := by
    obtain ⟨after, returns, requests⟩ := returns_requestJson present stack
    have opened := open_of_civil stack (.requestJson name part goesOn)
    exact ⟨after, _, returns, requests, voyage.carries considerate civil opened present _⟩
  logins client next rest present stack := by
    obtain ⟨after, answer, returns, answers⟩ := returns_requestKey present stack
    refine ⟨after, answer, returns, ?_⟩
    by_cases sends : (client.credential.beginRequest (Shared.now session.state)).1 = .send
    · exact .inr ⟨_, _, (answers.asks sends).entries, apiKeys_loginData _⟩
    · rw [answers.leaves sends]
      exact .inl rfl
  files client url path kind next rest present stack goesOn := by
    obtain ⟨after, answer, returns, fetches⟩ := returns_download present stack
    have opened := open_of_civil stack (.download url path kind goesOn)
    have loggedIn := voyage.isLoggedIn_iff considerate civil opened present
      (Shared.now session.state)
    refine ⟨after, answer, returns, fun refused => fetches.refuses ?_,
      fun reply name granted => fetches.asks (loggedIn.mpr ⟨reply, granted⟩) name, fun asks => ?_,
      fetches.leaves⟩
    · rw [← Bool.not_eq_true, loggedIn]
      exact fun granted => granted.elim refused
    · obtain ⟨name, entries⟩ := fetches.queues asks
      refine ⟨name, _, entries, fun plain => by rw [if_pos plain]; rfl, fun other => ?_⟩
      rw [if_neg other]
      exact voyage.carries considerate civil opened present _

/-! ## A login that succeeds -/

namespace Succeeding

open Download.Session (step? visited repeatedly)

/-- An answer to a login. -/
def answer : Json := .object [("key", .text "fresh"), ("valid_until", .integer 2000)]

/-- The answer comes in. -/
def answered : Alone :=
  (repeatedly step? 60 Alone.connecting).arrive 1 [.fill (.document answer), .finish none]

/-- A caller asks for the regions. -/
def asking : Alone :=
  (repeatedly step? 60 answered).begin ((Client.requestJson "regions" "regions").bind .done)

/-- The steps that were taken. -/
def steps : History (users unmoved (fun _ _ => .done ()) fun _ => false) :=
  visited 60 Alone.connecting ++ visited 60 answered

end Succeeding

open Succeeding Download.Session in
/-- A client that was given a key has told its handler of it, and the key goes along with a request
for a document. -/
theorem keyed_by_answer :
    verdicts steps = [some ⟨"fresh", 2000, []⟩] ∧
      (marks steps).filterMap Mark.renewed? = [0] ∧ KeyedByPast steps asking ∧
      ∃ after data, Returns asking after .done () [] ∧
        after.queue.entries.map (·.request.data) = [data] ∧ apiKeys data = ["fresh"] := by
  have replied : Voyage steps (repeatedly step? 60 answered) :=
    (Alone.connected.arrive 1 [.fill (.document answer), .finish none]).repeatedly 60
  have civil : Civil
      ((Client.requestJson "regions" "regions").bind .done : Act Unit Unit Unit Unit) :=
    .requestJson "regions" "regions" (.done ())
  have voyage : Voyage steps asking := replied.begin rfl civil
  have keyed := voyage.keyed_by_past considerate_unmoved fun _ _ => .done ()
  have said : verdicts steps = [some ⟨"fresh", 2000, []⟩] := by decide +kernel
  have renewed : (marks steps).filterMap Mark.renewed? = [0] := by decide +kernel
  have there : (Shared.client asking.state).isSome = true := by decide +kernel
  have clock : Shared.now asking.state = 0 := by decide +kernel
  have idle : asking.queue.entries = [] := by decide +kernel
  obtain ⟨client, present⟩ := Option.isSome_iff_exists.mp there
  obtain ⟨after, data, returns, requests, carries⟩ :=
    keyed.documents client "regions" "regions" .done [] present rfl (.done ())
  refine ⟨said, renewed, keyed, after, data, returns, ?_, carries.own ⟨"fresh", 2000, []⟩ ?_⟩
  · rw [requests.entries, idle]
    rfl
  · rw [Granted, said, clock]
    decide

end Sailplane.Skysight
