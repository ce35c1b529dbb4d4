import Sailplane.Download.Run

/-!
# Counted steps

A session that takes its own steps and no others can be followed from one situation to the next,
and the steps in between add up. When they lead to rest, to let it run comes to that situation with
any patience that is large enough.
-/
namespace Sailplane.Download.Session

variable {users : Users} {first second third : Session users} {count more fuel : Nat}

/-- Whether a number of its own steps leads from one session to another. -/
inductive Strides : Nat → Session users → Session users → Prop where
  /-- No step is taken. -/
  | stay (session : Session users) : Strides 0 session session
  /-- A step is taken first. -/
  | onward {first second third : Session users} {count : Nat}
    (taken : first.step? = some second) (rest : Strides count second third) :
    Strides (count + 1) first third

namespace Strides

/-- One step. -/
theorem single (taken : first.step? = some second) : Strides 1 first second :=
  .onward taken (.stay second)

/-- Steps and then others add up. -/
theorem trans (begun : Strides count first second) (ended : Strides more second third) :
    Strides (count + more) first third := by
  induction begun with
  | stay => rwa [Nat.zero_add]
  | @onward first _ _ count taken _ ih =>
    have whole := Strides.onward taken (ih ended)
    rwa [show count + 1 + more = count + more + 1 by omega]

/-- With patience for the steps that lead to rest a session comes to rest there. -/
theorem repeatedly (strides : Strides count first second) (rests : second.AtRest)
    (enough : count ≤ fuel) : repeatedly step? fuel first = second := by
  induction strides generalizing fuel with
  | stay session =>
    cases fuel with
    | zero => rfl
    | succ fuel => rw [Session.repeatedly, show session.step? = none from rests]
  | onward taken _ ih =>
    cases fuel with
    | zero => exact absurd enough (by omega)
    | succ fuel =>
      rw [Session.repeatedly, taken]
      exact ih rests (by omega)

end Strides

end Sailplane.Download.Session
