import Sailplane.Download.Script
import Sailplane.Skysight.Credential

/-!
# Weather client

A client of the weather service keeps a key of its account fresh, sends the headers of the service
with its requests, and hands documents that come in to a handler, by the names of the requests. It
shares its queue with other users. A request for a key that fails takes the present key with it.
-/
namespace Sailplane.Skysight

open Download (Script Slot Content Event Request RequestData Failure Users)
open Config (Account)

/-- The name of requests for a key. -/
def authRequest : String := "authent"

/-- What a client keeps. -/
structure Client where
  /-- The account. -/
  account : Account
  /-- The key in use. -/
  credential : Credential
  /-- The slots of the queued requests for documents with their names, oldest first. -/
  pending : List (String × Slot)
  /-- The number under which it listens to the queue. -/
  registration : Nat
  deriving Repr

namespace Client

/-- Take the oldest slot of a name. -/
def takePending? (client : Client) (name : String) : Option (Slot × Client) :=
  (client.pending.find? fun entry => entry.1 == name).map fun entry =>
    (entry.2, { client with pending := client.pending.eraseP fun entry => entry.1 == name })

/-- The headers of the service with a key. -/
def headers (account : Account) (key : String) : RequestData :=
  RequestData.none
    |>.withHeader "X-API-Key" key
    |>.withHeader "User-Agent" account.userAgent
    |>.withHeader "Content-Type" "application/json"

/-- What goes along with a request at a moment: the key, or the program's own without one. -/
def requestData (client : Client) (now : Instant) : RequestData :=
  headers client.account ((client.credential.key? now).getD client.account.appKey)

/-- What goes along with a request for a key. -/
def loginData (account : Account) : RequestData :=
  (headers account account.appKey).withBody
    (Json.object [("password", .text account.password), ("username", .text account.username)]).write

end Client

/-- What a document is about. -/
inductive Topic where
  /-- The regions. -/
  | regions
  /-- The layers of a region. -/
  | layers
  /-- When layers were made. -/
  | lastUpdates
  /-- The files of a layer. -/
  | datafiles
  deriving Repr, DecidableEq

/-- Where a document goes. -/
inductive Route where
  /-- To the credential. -/
  | credential
  /-- To the handler, as a document about something. -/
  | topic (topic : Topic)
  /-- The handler is told that something came in. -/
  | flag
  deriving Repr, DecidableEq

/-- Where the document of a request goes, by the name of the request. -/
def Route.of (name : String) : Route :=
  if name == authRequest then credential
  else if name == "regions" then topic .regions
  else if "layers".isPrefixOf name then topic .layers
  else if "last_updated".isPrefixOf name then topic .lastUpdates
  else if "datafiles".isPrefixOf name then topic .datafiles
  else flag

/-- What a client shares with the other users of its queue. -/
structure Shared (Others : Type) where
  /-- The client, until it is given up. -/
  client : Option Client
  /-- What the clock shows. -/
  now : Instant
  /-- What the other users share. -/
  others : Others

/-- A listener of the queue. -/
inductive Member (Listener : Type) where
  /-- The client. -/
  | client
  /-- Another one. -/
  | other (listener : Listener)

/-- What the client and the other users of its queue note down. -/
inductive Mark (Note : Type) where
  /-- The client asked for a key. -/
  | asked (now : Instant)
  /-- The client handed a document on, under the name of its request. -/
  | routed (name : String) (document : Json)
  /-- The client adopted a valid key. -/
  | renewed (now : Instant)
  /-- The client gave its key up. -/
  | renounced
  /-- A note of another user. -/
  | note (note : Note)

/-- A script of the client or of another user of its queue. -/
abbrev Act (Others Listener Note Result : Type) : Type :=
  Script (Shared Others) (Member Listener) (Mark Note) Result

/-- Who receives the documents of a client. -/
structure Handler (Others Listener Note : Type) where
  /-- Take a document; whether it is of use. -/
  update : Topic → Json → Act Others Listener Note Bool
  /-- Something else came in. -/
  flag : Act Others Listener Note Unit
  /-- A new key is in use. -/
  newKey : Act Others Listener Note Unit

/-- What a file request is for. -/
inductive FileKind where
  /-- A plain file. -/
  | normal
  /-- Observed weather. -/
  | live
  /-- A forecast. -/
  | forecast
  deriving Repr, DecidableEq

/-- Why a file is not requested. -/
inductive Refusal where
  /-- There is no valid key. -/
  | notLoggedIn
  /-- The request is not possible. -/
  | download (failure : Failure)
  deriving Repr, DecidableEq

/-- The words of a refusal. -/
def Refusal.message : Refusal → String
  | notLoggedIn => "not logged in to SkySight"
  | download failure => failure.message

namespace Client

variable {Others Listener Note : Type}

/-- Do something with the client and the clock; nothing if the client was given up. -/
def withClient {α : Type} (absent : α) (act : Client → Instant → Act Others Listener Note α) :
    Act Others Listener Note α := do
  let shared ← Script.state
  match shared.client with
  | some client => act client shared.now
  | none => return absent

/-- Put the client in a new state. -/
def store (client : Client) : Act Others Listener Note Unit :=
  Script.modify fun shared => ((), { shared with client := some client })

/-- Queue a request for a document and keep its slot. -/
def enqueue (name url : String) (data : RequestData) : Act Others Listener Note Unit := do
  let slot ← Script.newSlot
  withClient () fun client _ => store { client with pending := client.pending ++ [(name, slot)] }
  Script.enqueue (.json url name slot data)

/-- Ask for a key, unless the last request is too recent or the key will do; false only if it is
too recent. -/
def requestKey : Act Others Listener Note Bool :=
  withClient false fun client now => do
    let (decision, credential) := client.credential.beginRequest now
    match decision with
    | .throttled => return false
    | .reuse => return true
    | .send =>
      store { client with credential }
      Script.write (.asked now)
      enqueue authRequest client.account.authUrl (loginData client.account)
      return true

/-- Ask for a document of the service under a name. -/
def requestJson (name part : String) : Act Others Listener Note Unit :=
  withClient () fun client now =>
    enqueue name (client.account.url part) (client.requestData now)

/-- Ask for a file, which takes a valid key. -/
def download (url path : String) (kind : FileKind) :
    Act Others Listener Note (Except Refusal Unit) :=
  withClient (.error .notLoggedIn) fun client now => do
    if client.credential.isValid now then
      let data := if kind = .normal then .none else client.requestData now
      match Request.file url path data with
      | .ok request =>
        Script.enqueue request
        return .ok ()
      | .error failure => return .error (.download failure)
    else return .error .notLoggedIn

/-- Adopt the answer to a login; whether it gives a valid key. -/
def adopt (handler : Handler Others Listener Note) (document : Json) :
    Act Others Listener Note Bool :=
  match credentialReply.ofValue document with
  | .error _ => return false
  | .ok reply => withClient false fun client now => do
    let credential := client.credential.apply reply
    store { client with credential }
    if credential.isValid now then
      Script.write (.renewed now)
      handler.newKey
      return true
    else return false

/-- A login failed: forget the key and ask for a new one. -/
def renounce : Act Others Listener Note Unit := do
  withClient () fun client _ => store { client with credential := client.credential.invalidate }
  Script.write .renounced
  let _ ← requestKey

/-- Hand a document on; whether it is of use. -/
def route (handler : Handler Others Listener Note) (name : String) (document : Json) :
    Act Others Listener Note Bool := do
  Script.write (.routed name document)
  match Route.of name with
  | .credential => adopt handler document
  | .topic topic => handler.update topic document
  | .flag => do
    handler.flag
    return true

/-- Take the oldest slot of a name and do something with it; nothing without one. -/
def withPending (name : String) (act : Slot → Act Others Listener Note Unit) :
    Act Others Listener Note Unit :=
  withClient () fun client _ =>
    match client.takePending? name with
    | some (slot, client) => do
      store client
      act slot
    | none => return ()

/-- What the client does at an event of its queue. -/
def hear (handler : Handler Others Listener Note) : Event → Act Others Listener Note Unit
  | .added .. => return ()
  | .complete name => withPending name fun slot => do
    match ← Script.takeSlot slot with
    | some (.document document) => do
      let _ ← route handler name document
    | _ => return ()
  | .error name _ => withPending name fun _ =>
    if name == authRequest then renounce else return ()

/-- A client of an account starts: it listens to the queue and asks for a key. -/
def connect (account : Account) : Act Others Listener Note Unit := do
  let registration ← Script.register .client
  store ⟨account, .empty, [], registration⟩
  let _ ← requestKey

/-- The client is given up. -/
def disconnect : Act Others Listener Note Unit :=
  withClient () fun client _ => do
    let _ ← Script.unregister client.registration
    Script.modify fun shared => ((), { shared with client := none })

/-- Whether there is a valid key. -/
def isLoggedIn (client : Client) (now : Instant) : Bool := client.credential.isValid now

end Client

/-- The users of a queue with a client among them. -/
abbrev users {Others Listener Note : Type} (handler : Handler Others Listener Note)
    (react : Listener → Event → Act Others Listener Note Unit) (reaches : Others → Bool) :
    Users where
  State := Shared Others
  Listener := Member Listener
  Note := Mark Note
  react
    | .client, event => Client.hear handler event
    | .other listener, event => react listener event
  reaches shared := reaches shared.others

end Sailplane.Skysight
