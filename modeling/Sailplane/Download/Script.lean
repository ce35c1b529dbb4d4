import Sailplane.Download.Transfer

/-!
# Scripts

What callers and listeners do: a script makes calls to a queue one after the other, each with a
reply, keeps a state that all of them share, and writes notes.
-/
namespace Sailplane.Download

/-- A call to a queue. -/
inductive Operation (Listener : Type) where
  /-- Queue a request. -/
  | enqueue (request : Request)
  /-- Take the first request of a name away. -/
  | cancel (name : String)
  /-- Take all requests away. -/
  | shutdown
  /-- Ask for the requests and how far they are. -/
  | entries
  /-- Tell a listener of every request. -/
  | enumerate (listener : Listener)
  /-- Ask whether nothing is queued. -/
  | isIdle
  /-- Register a listener. -/
  | register (listener : Listener)
  /-- Take a registration away. -/
  | unregister (number : Nat)
  /-- Have a task wait until nothing is queued. -/
  | watchIdle (label : String)
  /-- Ask for a new slot. -/
  | newSlot
  /-- Look into a slot. -/
  | readSlot (slot : Slot)
  /-- Empty a slot. -/
  | takeSlot (slot : Slot)
  /-- Send a message of signals to the transfer that runs. -/
  | signal (message : List Signal)

/-- What a call is answered with. -/
def Operation.Reply {Listener : Type} : Operation Listener → Type
  | enqueue _ => Unit
  | cancel _ => Bool
  | shutdown => Unit
  | entries => List (String × Status)
  | enumerate _ => Unit
  | isIdle => Bool
  | register _ => Nat
  | unregister _ => Bool
  | watchIdle _ => Unit
  | newSlot => Slot
  | readSlot _ => Option Content
  | takeSlot _ => Option Content
  | signal _ => Unit

/-- A script with a result. -/
inductive Script (State Listener Note Result : Type) where
  /-- The end. -/
  | done (result : Result)
  /-- A call, and what is done with its reply. -/
  | call (operation : Operation Listener)
      (next : operation.Reply → Script State Listener Note Result)
  /-- A look at the shared state. -/
  | get (next : State → Script State Listener Note Result)
  /-- A new shared state. -/
  | set (state : State) (next : Script State Listener Note Result)
  /-- A note. -/
  | note (note : Note) (next : Script State Listener Note Result)

namespace Script

variable {State Listener Note α β : Type}

/-- One script and then another that depends on its result. -/
def bind : Script State Listener Note α → (α → Script State Listener Note β) →
    Script State Listener Note β
  | done result, next => next result
  | call operation rest, next => call operation fun reply => (rest reply).bind next
  | get rest, next => get fun state => (rest state).bind next
  | set changed rest, next => set changed (rest.bind next)
  | note written rest, next => note written (rest.bind next)

instance : Monad (Script State Listener Note) where
  pure := done
  bind := bind

/-- A call with its reply as the result. -/
def ask (operation : Operation Listener) : Script State Listener Note operation.Reply :=
  call operation done

/-- The shared state. -/
def state : Script State Listener Note State := get done

/-- Change the shared state, with a result. -/
def modify (change : State → α × State) : Script State Listener Note α :=
  get fun state => set (change state).2 (done (change state).1)

/-- Write a note. -/
def write (value : Note) : Script State Listener Note Unit := note value (done ())

/-! ## Calls with their replies -/

/-- Queue a request. -/
def enqueue (request : Request) : Script State Listener Note Unit := ask (.enqueue request)

/-- Take the first request of a name away, if there is one. -/
def cancel (name : String) : Script State Listener Note Bool := ask (.cancel name)

/-- Take all requests away. -/
def shutdown : Script State Listener Note Unit := ask .shutdown

/-- Register a listener. -/
def register (listener : Listener) : Script State Listener Note Nat := ask (.register listener)

/-- Take a registration away, if it is there. -/
def unregister (number : Nat) : Script State Listener Note Bool := ask (.unregister number)

/-- A new slot. -/
def newSlot : Script State Listener Note Slot := ask .newSlot

/-- What a slot holds. -/
def readSlot (slot : Slot) : Script State Listener Note (Option Content) := ask (.readSlot slot)

/-- What a slot held; now it is empty. -/
def takeSlot (slot : Slot) : Script State Listener Note (Option Content) := ask (.takeSlot slot)

/-- Do something for every item of a list. -/
def each (items : List α) (act : α → Script State Listener Note Unit) :
    Script State Listener Note Unit :=
  match items with
  | [] => done ()
  | item :: rest => (act item).bind fun _ => each rest act

end Script

/-- Who uses a queue: the state that callers and listeners share, the listeners, the notes, what a
listener does when it is told something, and whether transfers can reach the queue. -/
structure Users where
  /-- What callers and listeners share. -/
  State : Type
  /-- The listeners. -/
  Listener : Type
  /-- The notes. -/
  Note : Type
  /-- What a listener does at an event. -/
  react : Listener → Event → Script State Listener Note Unit
  /-- Whether a transfer can cancel requests of its queue. -/
  reaches : State → Bool

/-- A script of some users. -/
abbrev Users.Script (users : Users) (Result : Type) : Type :=
  Download.Script users.State users.Listener users.Note Result

end Sailplane.Download
