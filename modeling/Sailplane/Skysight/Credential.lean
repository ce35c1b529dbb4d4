import Sailplane.Json.Record

/-!
# Credential

The key of an account. A key is asked for at most once a minute, and not while the present one
stays valid for two more minutes. Moments are counted in nanoseconds; a key's end is given in
seconds, and one outside the calendar is no end.
-/
namespace Sailplane.Skysight

open Json (Format Record)

/-- A moment, in nanoseconds since the epoch. -/
abbrev Instant := Int

/-- A number of seconds in nanoseconds. -/
def seconds (count : Int) : Int := count * 1000000000

/-- The least time between two requests for a key. -/
def requestInterval : Int := seconds 60

/-- How long a key has to stay valid to be used again. -/
def reuseMargin : Int := seconds 120

/-- The moment of a second of the calendar. -/
def calendarSecond? (second : Int64) : Option Instant :=
  if -8334601228800 ≤ second.toInt && second.toInt ≤ 8210266876799 then some (seconds second.toInt)
  else none

/-- What the service answers to a login. -/
structure CredentialReply where
  /-- The key. -/
  key : String
  /-- The second at which the key ends. -/
  validUntil : Int64
  /-- The regions the account may see. -/
  allowedRegions : List String
  deriving Repr, DecidableEq

/-- An answer to a login; the regions may be left out. -/
def credentialReply : Format CredentialReply :=
  ((Record.field "key" .text).pair (.pair (.field "valid_until" .signedWord)
      (.field "allowed_regions" (.list .text) (some [])))
    |>.map (fun (key, validUntil, allowedRegions) => ⟨key, validUntil, allowedRegions⟩)
      (fun reply => (reply.key, reply.validUntil, reply.allowedRegions))).format "CredentialReply"

/-- What to do when a key is wanted. -/
inductive KeyDecision where
  /-- The last request is too recent. -/
  | throttled
  /-- The present key will do. -/
  | reuse
  /-- Ask for a key. -/
  | send
  deriving Repr, DecidableEq

/-- The key in use and when one was asked for. -/
structure Credential where
  /-- The key. -/
  stored : Option String
  /-- When the key ends. -/
  validUntil : Option Instant
  /-- The regions the account may see. -/
  allowedRegions : List String
  /-- When a key was last asked for. -/
  requestedAt : Option Instant
  deriving Repr, DecidableEq

namespace Credential

/-- Nothing was asked for yet. -/
def empty : Credential := ⟨none, none, [], none⟩

/-- Whether there is a key that ends after a moment. -/
def isValid (credential : Credential) (now : Instant) : Bool :=
  credential.stored.isSome && credential.validUntil.any fun limit => decide (now < limit)

/-- The key, while it is valid. -/
def key? (credential : Credential) (now : Instant) : Option String :=
  if credential.isValid now then credential.stored else none

/-- Decide whether to ask for a key; asking is recorded. -/
def beginRequest (credential : Credential) (now : Instant) : KeyDecision × Credential :=
  if credential.requestedAt.any fun last => decide (now < last + requestInterval) then
    (.throttled, credential)
  else if credential.isValid (now + reuseMargin) then (.reuse, credential)
  else (.send, { credential with requestedAt := some now })

/-- Adopt an answer. An empty key is none. -/
def apply (credential : Credential) (reply : CredentialReply) : Credential :=
  { credential with
    stored := if reply.key.isEmpty then none else some reply.key
    validUntil := calendarSecond? reply.validUntil
    allowedRegions := reply.allowedRegions }

/-- Forget the key, but not when it was asked for. -/
def invalidate (credential : Credential) : Credential :=
  { credential with stored := none, validUntil := none }

end Credential

end Sailplane.Skysight
