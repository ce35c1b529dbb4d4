import Sailplane.Proofs.Skysight.Afloat
import Sailplane.Proofs.Skysight.Returns

/-!
# Keys are asked for at most once a minute

However often a client is told to ask for a key, and however often its logins fail, it puts at most
one request for a key in the queue in a minute. What is said of its key makes no difference to that,
and neither does a clock that goes back.
-/
namespace Sailplane.Skysight

open Download (Event Frame History)

variable {Others Listener Note : Type} {handler : Handler Others Listener Note}
  {react : Listener → Event → Act Others Listener Note Unit} {reaches : Others → Bool}
  {past : History (users handler react reaches)} {session after : Service handler react reaches}

/-- In every voyage a client that notes down that it asks for a key puts a request for one in the
queue next. -/
theorem Voyage.asks (considerate : Considerate handler)
    (civil : ∀ listener event, Civil (react listener event)) (voyage : Voyage past session)
    {now : Instant} {next : Act Others Listener Note Unit}
    {rest : List (Frame (users handler react reaches))}
    (stack : session.stack = .script (.note (.asked now) next) :: rest) :
    Standing.Asks now next session.state := by
  have afloat := voyage.afloat considerate civil
  rw [stack] at afloat
  have soon := afloat.1
  cases soon with
  | safe safe => exact safe.1
  | note brings further => exact absurd brings id

/-- What it means that a client asks for keys at most once a minute. -/
structure Throttled (past : History (users handler react reaches))
    (session : Service handler react reaches) : Prop where
  /-- When it asked for a key is at least a minute after it asked before. -/
  spaced : (asked past).IsChain fun earlier later => earlier + seconds 60 ≤ later
  /-- Whenever it noted down that it asked, the clock showed that, and a request for a key was put
  in the queue next. -/
  queues : ∀ earlier ∈ past, ∀ now next rest,
    earlier.stack = .script (.note (.asked now) next) :: rest →
      Standing.Asks now next earlier.state
  /-- When it is told to ask for a key it answers, and refuses exactly within a minute of when it
  asked last. -/
  answers : ∀ client next rest, Shared.client session.state = some client →
    session.stack = .script (Client.requestKey.bind next) :: rest →
    (∀ answer, Civil (next answer)) →
      ∃ after answer, Returns session after next answer rest ∧
        Answers session after client answer ∧
        (answer = false ↔
          ∃ last ∈ (asked past).getLast?, Shared.now session.state < last + seconds 60)

/-- What a client does with its key leaves when it may ask for one. -/
theorem throttle_stays (credential : Credential) (reply : CredentialReply) (now : Instant) :
    (((credential.apply reply).beginRequest now).1 = .throttled ↔
        (credential.beginRequest now).1 = .throttled) ∧
      ((credential.invalidate.beginRequest now).1 = .throttled ↔
        (credential.beginRequest now).1 = .throttled) := by
  simp only [Credential.throttled_iff, Credential.apply, Credential.invalidate, and_self]

/-- In every voyage of a client with a considerate handler and civil others it asks for keys at most
once a minute, and neither an answer to a login nor a login that fails makes that less. -/
theorem Voyage.asks_once_a_minute (considerate : Considerate handler)
    (civil : ∀ listener event, Civil (react listener event)) (voyage : Voyage past session) :
    Throttled past session ∧ ∀ (credential : Credential) (reply : CredentialReply) (now : Instant),
      (((credential.apply reply).beginRequest now).1 = .throttled ↔
          (credential.beginRequest now).1 = .throttled) ∧
        ((credential.invalidate.beginRequest now).1 = .throttled ↔
          (credential.beginRequest now).1 = .throttled) := by
  refine ⟨⟨?_, fun earlier listed now next rest stack => ?_, ?_⟩, throttle_stays⟩
  · exact Afloat.spaced (voyage.afloat considerate civil)
  · obtain ⟨_, before⟩ := voyage.earlier listed
    exact before.asks considerate civil stack
  · intro client next rest present stack goesOn
    obtain ⟨after, answer, returns, answers⟩ := returns_requestKey present stack
    have opened := open_of_civil stack (.requestKey goesOn)
    have last := (voyage.current considerate civil opened).asked client present
    refine ⟨after, answer, returns, answers, ?_⟩
    rw [answers.refuses, last]
    rfl

/-! ## A login that fails -/

namespace Failing

open Download.Session (step? visited repeatedly)

/-- The request fails; the client asks no second time. -/
def failing : Alone :=
  (repeatedly step? 60 Alone.connecting).arrive 1 [.finish (some (.network "lost"))]

/-- A minute later. -/
def resting : Alone := (repeatedly step? 60 failing).begin (setClock (seconds 61))

/-- A caller has it ask again. -/
def retrying : Alone := (repeatedly step? 60 resting).begin askForKey

/-- The clock goes back. -/
def goingBack : Alone := (repeatedly step? 60 retrying).begin (setClock (seconds 30))

/-- A caller has it ask once more. -/
def asking : Alone := (repeatedly step? 60 goingBack).begin askForKey

/-- The steps that were taken. -/
def steps : History (users unmoved (fun _ _ => .done ()) fun _ => false) :=
  visited 60 Alone.connecting ++ visited 60 failing ++ visited 60 resting ++ visited 60 retrying ++
    visited 60 goingBack

end Failing

open Failing Download.Session in
/-- A client whose login has failed asks again after a minute, and when the clock goes back it does
not ask at all. -/
theorem throttled_failing_login :
    asked steps = [0, seconds 61] ∧ Throttled steps asking ∧
      ∃ after, Returns asking after (fun _ => .done ()) false [] ∧
        after = { asking with stack := after.stack } := by
  have failed : Voyage _ (repeatedly step? 60 failing) :=
    (Alone.connected.arrive 1 [.finish (some (.network "lost"))]).repeatedly 60
  have waited : Voyage _ (repeatedly step? 60 resting) :=
    (failed.begin rfl (civil_setClock (seconds 61))).repeatedly 60
  have retried : Voyage _ (repeatedly step? 60 retrying) :=
    (waited.begin rfl civil_askForKey).repeatedly 60
  have back : Voyage steps (repeatedly step? 60 goingBack) :=
    (retried.begin rfl (civil_setClock (seconds 30))).repeatedly 60
  have voyage : Voyage steps asking := back.begin rfl civil_askForKey
  have throttled := (voyage.asks_once_a_minute considerate_unmoved fun _ _ => .done ()).1
  have times : asked steps = [0, seconds 61] := by decide +kernel
  have there : (Shared.client asking.state).isSome = true := by decide +kernel
  have clock : Shared.now asking.state = seconds 30 := by decide +kernel
  obtain ⟨client, present⟩ := Option.isSome_iff_exists.mp there
  refine ⟨times, throttled, ?_⟩
  obtain ⟨after, answer, returns, answers, refuses⟩ :=
    throttled.answers client (fun _ => .done ()) [] present rfl fun _ => .done ()
  obtain rfl : answer = false :=
    refuses.mpr ⟨seconds 61, by rw [times]; rfl, by rw [clock]; decide⟩
  have early := Credential.throttled_iff.mpr (answers.refuses.mp rfl)
  exact ⟨after, returns, answers.leaves (by rw [early]; decide)⟩

end Sailplane.Skysight
