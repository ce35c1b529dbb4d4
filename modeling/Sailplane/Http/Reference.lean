import Sailplane.Http.Host
import Sailplane.Http.Url
import Sailplane.Text.Split

/-!
# References

A text is read as an address, leniently, and seen from another address if there is one. Spaces
and controls at its ends mean nothing, nor do tabs and line ends within. For a special scheme any
number of slashes of either kind may stand before the host. Dots in a path are followed, and
characters that may not stand in a part are written by percent signs.
-/
namespace Sailplane.Http

/-! ## Parts of the text -/

/-- A text up to the first separator, and what stands behind it. -/
def cutAt (separates : Char → Bool) (text : List Char) : List Char × Option (List Char) :=
  match text.dropWhile (fun c => !separates c) with
  | [] => (text, none)
  | _ :: rest => (text.takeWhile (fun c => !separates c), some rest)

/-- A text up to the last separator, if there is one, and the rest. -/
def cutAtLast (separates : Char → Bool) (text : List Char) : Option (List Char) × List Char :=
  match cutAt separates text.reverse with
  | (rest, some before) => (some before.reverse, rest.reverse)
  | (_, none) => (none, text)

/-- The scheme of a text, in lower case, and what stands behind its colon. -/
def readScheme? (text : List Char) : Option (String × List Char) :=
  match cutAt (· == ':') text with
  | (first :: name, some rest) =>
    if first.isAlpha && name.all fun c => c.isAlphanum || c == '+' || c == '-' || c == '.' then
      some ((String.ofList (first :: name)).toLower, rest)
    else none
  | _ => none

/-- Whether a character separates the segments of a path of a special scheme. -/
def isSlash (c : Char) : Bool := c == '/' || c == '\\'

/-- Whether a character separates the segments of a path of a scheme. -/
def separates (scheme : String) (c : Char) : Bool :=
  c == '/' || (c == '\\' && isSpecial scheme)

/-- What may not stand in a path. -/
def pathSet : String := " \"<>`#?\x7b\x7d"

/-- What may not stand in a query. -/
def querySet (scheme : String) : String := if isSpecial scheme then " \"<>#'" else " \"<>#"

/-- What may not stand in a fragment. -/
def fragmentSet : String := " \"<>`"

/-- What may not stand in a name or a password. -/
def userSet : String := pathSet ++ "/:;=@[\\]^|"

/-! ## Paths -/

/-- Whether a segment is one dot. -/
def isDot (segment : String) : Bool := segment == "." || segment.toLower == "%2e"

/-- Whether a segment is two dots. -/
def isDoubleDot (segment : String) : Bool :=
  ["..", ".%2e", "%2e.", "%2e%2e"].contains segment.toLower

/-- The form of a segment that names a drive, as the first of a file's path: a letter and a
colon, or a letter and a bar. -/
def drive? (segment : String) : Option String :=
  match segment.toList with
  | [letter, mark] =>
    if letter.isAlpha && (mark == ':' || mark == '|') then some (String.ofList [letter, ':'])
    else none
  | _ => none

/-- A path, the last segment first, one segment up. A drive is not left. -/
def leave (reached : List String) : List String :=
  if (reached.head?.bind drive?).isSome then reached else reached.drop 1

/-- A segment behind those of a path, as it is written. -/
def enter (scheme : String) (reached : List String) (segment : String) : String :=
  match reached, drive? segment with
  | [], some drive => if scheme == fileScheme then drive else percentEncode pathSet segment
  | _, _ => percentEncode pathSet segment

/-- Segments behind those of a path, the last one first, with the dots followed. -/
def walk (scheme : String) (reached : List String) : List String → List String
  | [] => reached
  | segment :: rest =>
    if isDoubleDot segment then
      let before := leave reached
      walk scheme (if rest.isEmpty then "" :: before else before) rest
    else if isDot segment then walk scheme (if rest.isEmpty then "" :: reached else reached) rest
    else walk scheme (enter scheme reached segment :: reached) rest

/-- The segments of a path behind others that are in their form already. -/
def segmentsFrom (scheme : String) (base : List String) (text : List Char) : List String :=
  (walk scheme base.reverse ((Text.pieces (separates scheme) text).map String.ofList)).reverse

/-- The path of a file starts with a name. -/
def trimPath (scheme : String) (names : List String) : UrlPath :=
  .segments (if scheme == fileScheme && names.all (·.isEmpty) then [""]
    else if scheme == fileScheme then names.dropWhile (·.isEmpty)
    else names)

/-- A path behind segments that are in their form already. -/
def pathFrom (scheme : String) (base : List String) (text : List Char) : UrlPath :=
  trimPath scheme (segmentsFrom scheme base text)

/-- A text without the separator at its front, if it has one. -/
def behindSeparator (scheme : String) (text : List Char) : List Char :=
  if text.head?.any (separates scheme) then text.drop 1 else text

/-- The path behind an authority. For a special scheme it has a segment at least. -/
def pathBehind (scheme : String) (text : List Char) : UrlPath :=
  if text.isEmpty && !isSpecial scheme then .segments []
  else pathFrom scheme [] (behindSeparator scheme text)

/-! ## Authorities -/

/-- A host up to a colon outside brackets, and what stands behind the colon. -/
def cutAtService (inside : Bool) : List Char → List Char × Option (List Char)
  | [] => ([], none)
  | c :: rest =>
    if c == ':' && !inside then ([], some rest)
    else
      let (host, digits) := cutAtService (if c == '[' then true else inside && c != ']') rest
      (c :: host, digits)

/-- The number of a service that digits give, none where it is implied; nothing for a text that
is no such number. -/
def readService? (scheme : String) (digits : List Char) : Option (Option Nat) :=
  if digits.isEmpty then some none
  else if digits.all Char.isDigit then
    let number := digits.foldl (fun value digit => value * 10 + (digit.toNat - 48)) 0
    if 65535 < number then none
    else some (if impliedService? scheme == some number then none else some number)
  else none

/-- Who asks: the name and the password. -/
def readUser (text : List Char) : String × String :=
  let (name, password) := cutAt (· == ':') text
  (percentEncode userSet (String.ofList name),
    percentEncode userSet (String.ofList (password.getD [])))

/-- An authority, and what its text leaves to the path: the number of a service ends at a slash of
either kind. Only a scheme that is not special may leave the host out, and then nobody asks and no
service is named. -/
def readAuthority? (scheme : String) (text : List Char) : Option (Authority × List Char) := do
  let (asking, server) := cutAtLast (· == '@') text
  let (name, service) := cutAtService false server
  let digits := (service.getD []).takeWhile fun c => !isSlash c
  let (user, password) := readUser (asking.getD [])
  let host ← Host.read? (!isSpecial scheme) name
  let number ← readService? scheme digits
  let found : Authority := { user, password, host, service := number }
  if host.isEmpty && (service.isSome || !found.userinfo.isEmpty) then none
  else some (found, (service.getD []).drop digits.length)

/-- The address behind the two slashes of a scheme. A sign of one who asks has something in front
of it, or else a host behind it or the end of the whole text. -/
def readHosted? (scheme : String) (isWhole : Bool) (text : List Char) : Option Url := do
  let authority := text.takeWhile fun c => !separates scheme c
  let behind := text.drop authority.length
  let (found, left) ← readAuthority? scheme authority
  if authority == ['@'] && !(isWhole && behind.isEmpty) then none
  else some { scheme, authority := some found, path := pathBehind scheme (left ++ behind)
              query := none, fragment := none }

/-! ## Files -/

/-- The authority of a file at a host; it is the host alone. -/
def fileAuthority (host : String) : Authority :=
  { user := "", password := "", host, service := none }

/-- The authority of a file, where the own host is none. -/
def readFileHost? (name : List Char) : Option Authority :=
  if name.isEmpty then some (fileAuthority "")
  else (Host.read? false name).map fun host =>
    fileAuthority (if host == "localhost" then "" else host)

/-- The address of a file at a host, whose path follows. A host is dropped where the path starts
with a drive. -/
def fileAt (authority : Authority) (path : List Char) : Url :=
  let names := segmentsFrom fileScheme [] path
  let isDriven := (names.head?.bind drive?).isSome
  { scheme := fileScheme
    authority := some (if isDriven then { authority with host := "" } else authority)
    path := trimPath fileScheme names, query := none, fragment := none }

/-- The address of a file, behind the colon. What could be a host may be a drive. -/
def readFile? (text : List Char) : Option Url :=
  let own := fileAt (fileAuthority "")
  match text with
  | c :: d :: rest =>
    if isSlash c && isSlash d then
      let name := rest.takeWhile fun c => !isSlash c
      if (drive? (String.ofList name)).isSome then some (own rest)
      else (readFileHost? name).map
        (fileAt · (behindSeparator fileScheme (rest.drop name.length)))
    else some (own (behindSeparator fileScheme text))
  | text => some (own (behindSeparator fileScheme text))

/-! ## Whole references -/

/-- What a text leads to from a special address, without its query and fragment. Behind two plain
slashes the host follows at once; else any number of slashes may stand before it. -/
def readRelative? (base : Url) (text : List Char) : Option Url :=
  let bare := { base with query := none, fragment := none }
  let front := base.path.names.dropLast
  match text with
  | [] => some { base with fragment := none }
  | [c] => some { bare with
      path := if isSlash c then .segments [""] else pathFrom base.scheme front [c] }
  | c :: d :: rest =>
    if c == '/' && d == '/' then readHosted? base.scheme false rest
    else if isSlash c && isSlash d then readHosted? base.scheme false (rest.dropWhile isSlash)
    else if isSlash c then some { bare with path := pathFrom base.scheme [] (d :: rest) }
    else some { bare with path := pathFrom base.scheme front text }

/-- The address of a text behind a scheme that is not special; the text may be the whole rest. -/
def readForeign? (scheme : String) (isWhole : Bool) : List Char → Option Url
  | '/' :: '/' :: rest => readHosted? scheme isWhole rest
  | '/' :: rest =>
    some { scheme, authority := none, path := pathFrom scheme [] rest
           query := none, fragment := none }
  | text =>
    some { scheme, authority := none, path := .whole (percentEncode "" (String.ofList text))
           query := none, fragment := none }

/-- The address of a text without query and fragment, seen from a special address if there is
one. The text is whole if nothing was cut off. -/
def readBare? (base : Option Url) (isWhole : Bool) (text : List Char) : Option Url :=
  match readScheme? text with
  | some (scheme, rest) =>
    if scheme == fileScheme then readFile? rest
    else if isSpecial scheme then
      let slashes := rest.takeWhile isSlash
      match base with
      | some base =>
        if base.scheme == scheme && slashes.length < 2 then readRelative? base rest
        else readHosted? scheme isWhole (rest.drop slashes.length)
      | none => readHosted? scheme isWhole (rest.drop slashes.length)
    else readForeign? scheme isWhole rest
  | none => base.bind fun base => readRelative? base text

/-- Whether a character at an end of a text means nothing. -/
def isMargin (c : Char) : Bool := c.toNat ≤ 0x20

/-- The address of a text, seen from a special address if there is one. -/
def Url.read? (base : Option Url) (text : String) : Option Url :=
  let trimmed := ((text.toList.dropWhile isMargin).reverse.dropWhile isMargin).reverse
  let clean := trimmed.filter fun c => !(c == '\t' || c == '\n' || c == '\r')
  let (front, fragment) := cutAt (· == '#') clean
  let (bare, query) := cutAt (· == '?') front
  (readBare? base (query.isNone && fragment.isNone) bare).map fun url =>
    { url with
      query := match query with
        | some query => some (percentEncode (querySet url.scheme) (String.ofList query))
        | none => url.query
      fragment := fragment.map fun fragment =>
        percentEncode fragmentSet (String.ofList fragment) }

end Sailplane.Http
