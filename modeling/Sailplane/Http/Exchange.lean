import Sailplane.Download.Request
import Sailplane.Http.Reference
import Sailplane.Text.Base64

/-!
# Exchanges

What is sent to a server and what comes back. A request becomes an exchange with its headers, its
login and its payload; an answer that points elsewhere is followed, up to ten times.
-/
namespace Sailplane.Http

open Download (Request RequestData)

/-- What is sent besides headers. -/
inductive Payload where
  /-- Nothing. -/
  | none
  /-- A text. -/
  | text (body : String)
  /-- Form fields. -/
  | form (fields : List (String × String))
  deriving Repr, DecidableEq

/-- What is sent to a server. -/
structure Exchange where
  /-- Whether something is sent, or only asked for. -/
  post : Bool
  /-- The address. -/
  url : Url
  /-- The headers in order. -/
  headers : List (String × String)
  /-- What is sent besides. -/
  payload : Payload
  deriving Repr, DecidableEq

/-- What a server sends back. -/
structure Reply where
  /-- The status. -/
  status : Nat
  /-- Where it points to. -/
  location : Option String
  /-- The length of the body, where it is given. -/
  length : Option UInt64
  /-- The body, in the chunks in which it comes in. -/
  chunks : List (List UInt8)
  /-- Why the body breaks off, none if it is complete. -/
  broken : Option String
  deriving Repr, DecidableEq

/-- How servers answer: the number of exchanges before, and what is sent. A text is the reason why
no answer comes. -/
abbrev Network := Nat → Exchange → Except String Reply

/-- A network without a server. -/
def Network.refusing : Network := fun _ exchange =>
  .error ("error sending request for url (" ++ exchange.url.text ++ ")")

/-! ## Headers -/

/-- Whether a character may stand in the name of a header. -/
def isTokenChar (c : Char) : Bool := c.isAlphanum || "!#$%&'*+-.^_`|~".toList.contains c

/-- Whether a text is the name of a header. -/
def isHeaderName (name : String) : Bool := !name.isEmpty && name.toList.all isTokenChar

/-- Whether a text is the value of a header. -/
def isHeaderValue (value : String) : Bool :=
  value.toList.all fun c => c == '\t' || (0x20 ≤ c.toNat && c.toNat != 0x7F)

/-- Whether headers name something, without regard to case. -/
def hasHeader (name : String) (headers : List (String × String)) : Bool :=
  headers.any fun header => header.1.toLower == name.toLower

/-- The headers without some, without regard to case. -/
def withoutHeaders (names : List String) (headers : List (String × String)) :
    List (String × String) :=
  headers.filter fun header => !names.contains header.1.toLower

/-- A login as the value of a header. -/
def basicLogin (login : Config.Login) : String :=
  "Basic " ++ Text.base64 (Text.toBytes (login.username ++ ":" ++ login.password))

/-- The login that an address names, if it names one. -/
def Url.login? (url : Url) : Option Config.Login :=
  match url.authority with
  | some authority => do
    let username ← percentDecoded? authority.user
    let password := (percentDecoded? authority.password).getD ""
    if username.isEmpty && password.isEmpty then none else some { username, password }
  | none => none

/-- The headers of a request: its own, its login, and the name of the program if it names no
other. A login in the address comes first. -/
def headersOf (userAgent : String) (asking : Option Config.Login) (data : RequestData) :
    List (String × String) :=
  let own := data.headers.flatMap fun (name, values) => values.map fun value => (name, value)
  let authorization (login : Config.Login) : String × String := ("Authorization", basicLogin login)
  let form := if data.form.isEmpty then [] else [("Content-Type", "multipart/form-data")]
  let named := asking.toList.map authorization ++ own ++ data.login.toList.map authorization ++ form
  if hasHeader "User-Agent" named then named else named ++ [("User-Agent", userAgent)]

/-- The words for a request that cannot be sent. -/
def malformedRequest : String := "builder error"

/-- The words for an address where nothing can be sent. -/
def unreachable (url : Url) : String := malformedRequest ++ " for url (" ++ url.text ++ ")"

/-- How long an address may be, in bytes. -/
def addressLimit : Nat := 65534

/-- The characters that a name of a host allows and a request does not. -/
def unsentChars : List Char := ['"', '\x60', '\x7b', '\x7d']

/-- Whether something can be sent to an address: it leads to the web, is not too long, and has no
such character in its host. -/
def Url.isReachable (url : Url) : Bool :=
  url.isWeb && url.text.utf8ByteSize ≤ addressLimit && !url.host.toList.any unsentChars.contains

/-- The exchange of a request, unless its address or one of its headers cannot be sent. -/
def Exchange.of (userAgent : String) (request : Request) : Except String Exchange :=
  match Url.read? none request.uri with
  | none => .error malformedRequest
  | some named =>
    if named.host.isEmpty then .error (unreachable named)
    else
      let login := named.login?
      let url := if login.isSome then named.withoutLogin else named
      let headers := headersOf userAgent login request.data
      if !headers.all fun (name, value) => isHeaderName name && isHeaderValue value then
        .error malformedRequest
      else if !url.isReachable then .error (unreachable url)
      else .ok {
        post := request.data.isPost, url, headers
        payload := if !request.data.form.isEmpty then .form request.data.form
          else match request.data.body with
            | some body => .text body
            | none => .none }

/-! ## Redirects -/

/-- Whether an answer points elsewhere. -/
def isRedirect (status : Nat) : Bool := [301, 302, 303, 307, 308].contains status

/-- The headers that another host must not see. -/
def privateHeaders : List String :=
  ["authorization", "cookie", "cookie2", "proxy-authorization", "www-authenticate"]

/-- The header that tells where one comes from; none from a safe address to an open one. -/
def refererOf (source target : Url) : List (String × String) :=
  if source.scheme == safeScheme && target.scheme == plainScheme then []
  else [("Referer", source.withoutLogin.withoutFragment)]

/-- Whether two addresses lead to one host. -/
def sameHost (url other : Url) : Bool :=
  url.host == other.host &&
    (url.authority.bind (·.service)).or (impliedService? url.scheme) ==
      (other.authority.bind (·.service)).or (impliedService? other.scheme)

/-- The exchange at another address that follows on an answer, if one does. A form cannot be sent
again. -/
def Exchange.redirect? (exchange : Exchange) (status : Nat) (url : Url) : Option Exchange :=
  let unwanted := if sameHost url exchange.url then [] else privateHeaders
  let headers := withoutHeaders ("referer" :: unwanted)
    exchange.headers ++ refererOf exchange.url url
  if status < 304 then
    some {
      post := false, url, payload := .none
      headers := withoutHeaders
        ["content-type", "content-length", "content-encoding", "transfer-encoding"] headers }
  else match exchange.payload with
    | .form _ => none
    | _ => some { exchange with url, headers }

/-- The exchange that an answer points to, if it points to one; a text says why it cannot be
sent. The place within the document stays. -/
def Exchange.next? (exchange : Exchange) (reply : Reply) : Option (Except String Exchange) :=
  if !isRedirect reply.status then none
  else
    (reply.location.bind fun location => Url.read? (some exchange.url) location).bind fun found =>
      let url := { found with fragment := exchange.url.fragment }
      (exchange.redirect? reply.status url).map fun next =>
        if url.isReachable then .ok next else .error (unreachable url)

/-- An answer and the address it comes from. -/
structure Answer where
  /-- The address. -/
  url : Url
  /-- What came back. -/
  reply : Reply
  deriving Repr, DecidableEq

/-- How many times an answer is followed elsewhere. -/
def redirectLimit : Nat := 10

/-- Send an exchange and follow the answers that point elsewhere; also how many exchanges there
were in all. -/
def follow (network : Network) : Nat → Nat → Exchange → Except String Answer × Nat
  | left, count, exchange =>
    match network count exchange with
    | .error reason => (.error reason, count + 1)
    | .ok reply =>
      match exchange.next? reply, left with
      | none, _ => (.ok ⟨exchange.url, reply⟩, count + 1)
      | some _, 0 => (.error ("error following redirect for url (" ++ exchange.url.text ++ ")"),
          count + 1)
      | some (.error reason), _ + 1 => (.error reason, count + 1)
      | some (.ok next), left + 1 => follow network left (count + 1) next

end Sailplane.Http
