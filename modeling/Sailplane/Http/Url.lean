import Sailplane.Http.Percent

/-!
# Addresses

An address in its one form: a scheme in lower case; for most schemes a host, who asks it, and the
number of its service unless the scheme implies it; a path; what is asked; and a place within the
document. A few schemes are special: their addresses have an authority and a path of segments. An
address of another scheme may be any text.
-/
namespace Sailplane.Http

/-! ## Schemes -/

/-- The open scheme of the web. -/
def plainScheme : String := "http"

/-- The scheme of the web that nobody overhears. -/
def safeScheme : String := "https"

/-- The scheme of files. -/
def fileScheme : String := "file"

/-- The number of the service that a scheme implies. -/
def impliedService? (scheme : String) : Option Nat :=
  [(plainScheme, 80), ("ws", 80), (safeScheme, 443), ("wss", 443), ("ftp", 21)].lookup scheme

/-- Whether a scheme is special. -/
def isSpecial (scheme : String) : Bool :=
  (impliedService? scheme).isSome || scheme == fileScheme

/-! ## Parts -/

/-- Whom an address leads to. -/
structure Authority where
  /-- The name of the one who asks; empty if there is none. -/
  user : String
  /-- The password; empty if there is none. -/
  password : String
  /-- The host; empty if there is none. -/
  host : String
  /-- The number of the service unless the scheme implies it. -/
  service : Option Nat
  deriving Repr, DecidableEq

/-- Who asks, with the sign at the end; empty if nobody is named. -/
def Authority.userinfo (authority : Authority) : String :=
  if authority.user.isEmpty && authority.password.isEmpty then ""
  else authority.user ++
    (if authority.password.isEmpty then "" else ":" ++ authority.password) ++ "@"

/-- An authority as a text. -/
def Authority.text (authority : Authority) : String :=
  authority.userinfo ++ authority.host ++
    (match authority.service with
      | some service => ":" ++ toString service
      | none => "")

/-- Where an address leads at a host. -/
inductive UrlPath where
  /-- Segments, each behind a slash. -/
  | segments (names : List String)
  /-- A text without segments. -/
  | whole (text : String)
  deriving Repr, DecidableEq

/-- The segments of a path. -/
def UrlPath.names : UrlPath → List String
  | segments names => names
  | whole _ => []

/-- A path as a text. -/
def UrlPath.text : UrlPath → String
  | segments names => String.join (names.map fun name => "/" ++ name)
  | whole text => text

/-! ## Addresses -/

/-- An address. -/
structure Url where
  /-- How it is reached. -/
  scheme : String
  /-- Whom it leads to; none where the scheme knows no such thing. -/
  authority : Option Authority
  /-- Where it leads there. -/
  path : UrlPath
  /-- What is asked, behind the path. -/
  query : Option String
  /-- The place within the document. -/
  fragment : Option String
  deriving Repr, DecidableEq

namespace Url

/-- The host; empty if there is none. -/
def host (url : Url) : String := (url.authority.map (·.host)).getD ""

/-- What stands between the scheme and the path. A path that starts with two slashes and has no
authority in front is kept apart from one by a dot. -/
def frontText (url : Url) : String :=
  match url.authority with
  | some authority => "//" ++ authority.text
  | none => if url.path.text.startsWith "//" then "/." else ""

/-- The address without a fragment. -/
def withoutFragment (url : Url) : String :=
  url.scheme ++ ":" ++ url.frontText ++ url.path.text ++
    (match url.query with
      | some query => "?" ++ query
      | none => "")

/-- The address as a text. -/
def text (url : Url) : String :=
  url.withoutFragment ++
    (match url.fragment with
      | some fragment => "#" ++ fragment
      | none => "")

/-- Whether an address leads to the web. -/
def isWeb (url : Url) : Bool := url.scheme == plainScheme || url.scheme == safeScheme

/-- The address without the one who asks. -/
def withoutLogin (url : Url) : Url :=
  { url with authority := url.authority.map fun authority =>
      { authority with user := "", password := "" } }

end Url

end Sailplane.Http
