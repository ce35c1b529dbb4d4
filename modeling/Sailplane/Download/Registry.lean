/-!
# Registrations

Listeners in the order of their registration. A notification goes to those registered when it
begins; what they add and remove meanwhile counts from the next notification on. Numbers of
registrations are never used again.
-/
namespace Sailplane.Download

/-- The registered listeners. -/
structure Registry (α : Type) where
  /-- The registrations in order, each with its number. -/
  registered : List (Nat × α)
  /-- The number of the next registration. -/
  next : Nat
  deriving Repr

namespace Registry

variable {α σ : Type}

/-- Nobody is registered. -/
def empty : Registry α := ⟨[], 0⟩

/-- Register a listener, who may be registered already. -/
def add (registry : Registry α) (listener : α) : Nat × Registry α :=
  (registry.next, ⟨registry.registered ++ [(registry.next, listener)], registry.next + 1⟩)

/-- Take a registration away; the truth value tells whether it was there. -/
def remove (registry : Registry α) (number : Nat) : Bool × Registry α :=
  (registry.registered.any fun entry => entry.1 == number,
    { registry with registered := registry.registered.filter fun entry => entry.1 != number })

/-- The listeners that a notification goes to, in order. -/
def listeners (registry : Registry α) : List α := registry.registered.map (·.2)

/-- Call every listener in order; each may change a state and the registrations. -/
def notify (registry : Registry α) (call : α → σ × Registry α → σ × Registry α) (state : σ) :
    σ × Registry α :=
  registry.listeners.foldl (fun reached listener => call listener reached) (state, registry)

end Registry

end Sailplane.Download
