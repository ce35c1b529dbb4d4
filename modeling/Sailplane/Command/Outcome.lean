/-!
# Outcomes of commands

What a command prints and whether it succeeded.
-/
namespace Sailplane.Command

/-- What comes of a command. -/
structure Outcome where
  /-- The lines it prints. -/
  output : List String
  /-- The lines it prints as errors. -/
  errors : List String
  /-- The code it exits with, zero for success. -/
  code : Nat
  deriving Repr, DecidableEq

namespace Outcome

/-- A command that ran, with success or without. -/
def finished (output errors : List String) (succeeded : Bool) : Outcome :=
  ⟨output, errors, if succeeded then 0 else 1⟩

/-- A command that could not run. -/
def failed (reason : String) : Outcome := ⟨[], ["Error: " ++ reason], 1⟩

end Outcome

end Sailplane.Command
