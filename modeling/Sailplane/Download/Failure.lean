import Sailplane.Json.Document

/-!
# Why a download fails

The causes for which a request ends without a result, and their wording.
-/
namespace Sailplane.Download

/-- Why a request ends without a result. -/
inductive Failure where
  /-- No answer came, or it broke off. -/
  | network (reason : String)
  /-- A file could not be written. -/
  | disk (reason : String)
  /-- The server answered with another status than wanted. -/
  | httpStatus (url : String) (status : Nat)
  /-- The answer is no document. -/
  | document (fault : Json.Fault)
  /-- The transfer was given up. -/
  | cancelled
  /-- The request contradicts itself. -/
  | invalidRequest (reason : String)
  /-- The transfer failed in another way. -/
  | transport (reason : String)
  deriving Repr, DecidableEq

/-- The words of a failure. -/
def Failure.message : Failure → String
  | network reason => "network error: " ++ reason
  | disk reason => "disk error: " ++ reason
  | httpStatus url status => url ++ " returned HTTP " ++ toString status
  | document fault => "malformed JSON response: " ++ fault.message
  | cancelled => "download cancelled"
  | invalidRequest reason => "invalid request: " ++ reason
  | transport reason => "transport failure: " ++ reason

end Sailplane.Download
