import Sailplane.Proofs.Download.Effect.Move

/-!
# What lies on a transfer

A caller or a listener does something in the midst of a transfer only because a notice is handed
out. So while nothing is being handed out, whatever a script that runs lies on is scripts and what
they have set off.
-/
namespace Sailplane.Download

variable {users : Users}

/-- Whether a frame is a script or tells listeners something. -/
def Frame.isPlain : Frame users → Bool
  | script _ => true
  | tell _ => true
  | _ => false

/-- Whether scripts lie on nothing but scripts and what those have set off, unless a notice is being
handed out below. -/
def Grounded : List (Frame users) → Prop
  | [] => True
  | frame :: rest =>
    (frame.isPlain = true → .drain ∉ rest → ∀ other ∈ rest, other.isPlain = true) ∧ Grounded rest

namespace Grounded

variable {frame other : Frame users} {rest stack : List (Frame users)}

/-- A script may take the place of another. -/
theorem swap (grounded : Grounded (frame :: rest)) (plain : frame.isPlain = true)
    (other : Frame users) : Grounded (other :: rest) :=
  ⟨fun _ => grounded.1 plain, grounded.2⟩

/-- Anything may lie on a script. -/
theorem cover (grounded : Grounded (frame :: rest)) (plain : frame.isPlain = true)
    (other : Frame users) : Grounded (other :: frame :: rest) := by
  refine ⟨fun _ free below listed => ?_, grounded⟩
  rcases List.mem_cons.mp listed with rfl | deeper
  · exact plain
  · exact grounded.1 plain (fun drain => free (List.mem_cons_of_mem _ drain)) below deeper

/-- Anything may lie on the handing out of notices. -/
theorem cover_drain (grounded : Grounded (.drain :: rest)) (other : Frame users) :
    Grounded (other :: .drain :: rest) :=
  ⟨fun _ free => absurd List.mem_cons_self free, grounded⟩

/-- Where there is no script nothing lies wrong. -/
theorem of_bare (bare : ∀ frame ∈ stack, frame.isPlain = false) : Grounded stack := by
  induction stack with
  | nil => trivial
  | cons frame rest ih =>
    refine ⟨fun plain => ?_, ih fun other listed => bare other (List.mem_cons_of_mem _ listed)⟩
    rw [bare frame List.mem_cons_self] at plain
    exact Bool.noConfusion plain

end Grounded

namespace Session

variable {session next : Session users} {rest : List (Frame users)}

/-- A script that makes a call leaves what has begun grounded. -/
theorem grounded_call {operation : Operation users.Listener}
    {next : operation.Reply → users.Script Unit}
    (grounded : Grounded (.script (.call operation next) :: rest)) :
    Grounded (session.advance (.script (.call operation next)) rest).stack := by
  have goes_on := grounded.swap rfl (.script (next (session.perform operation).1))
  simp only [advance]
  rcases frames_perform session operation with none | drain | ⟨calls, tell⟩
  · rw [none]
    exact goes_on
  · rw [drain]
    exact goes_on.cover rfl .drain
  · rw [tell]
    exact goes_on.cover rfl (.tell calls)

/-- A transfer that reads begins no script and tells nobody anything by itself. -/
theorem bare_read (session : Session users) (serial : Nat) (message : List Signal)
    (allowance : Nat) :
    ∀ frame ∈ (session.advance (.transfer serial message allowance) []).stack,
      frame.isPlain = false := by
  intro frame listed
  cases stored : session.transfer? serial with
  | none =>
    rw [advance_read_missing stored] at listed
    exact absurd listed List.not_mem_nil
  | some transfer =>
    cases message with
    | nil =>
      rw [advance_read_nil stored] at listed
      rcases stack_readNext session transfer allowance with rests | ⟨message, left, reads, _⟩
      · rw [rests] at listed
        exact absurd listed List.not_mem_nil
      · rw [reads, List.mem_singleton] at listed
        rw [listed]
        rfl
    | cons signal message =>
      rw [advance_read_cons stored] at listed
      rcases stack_follow session transfer signal (.transfer serial message allowance) with
        ⟨again, _⟩ | ended | delivers | ⟨_, frames, name, found, cancels, sets_off⟩
      · rw [again, List.mem_singleton] at listed
        rw [listed]
        rfl
      · rw [ended] at listed
        exact absurd listed List.not_mem_nil
      · rw [delivers, List.mem_singleton] at listed
        rw [listed]
        rfl
      · rw [cancels] at listed
        rcases sets_off with rfl | rfl
        · simp only [List.nil_append, List.mem_cons, List.not_mem_nil, or_false] at listed
          rcases listed with rfl | rfl
          · rfl
          · rfl
        · simp only [List.cons_append, List.nil_append, List.mem_cons, List.not_mem_nil,
            or_false] at listed
          rcases listed with rfl | rfl | rfl
          · rfl
          · rfl
          · rfl

/-- A task that runs begins no script and tells nobody anything by itself. -/
theorem bare_run (session : Session users) (quiet : session.stack = []) (job : Job) :
    ∀ frame ∈ (session.run job).stack, frame.isPlain = false := by
  intro frame listed
  rcases stack_run quiet job with rests | ⟨serial, _, reads, _⟩
  · rw [rests] at listed
    exact absurd listed List.not_mem_nil
  · rw [reads, List.mem_singleton] at listed
    rw [listed]
    rfl

/-- Every step leaves what has begun grounded. -/
theorem grounded_step (taken : session.step? = some next) (framed : Framed session)
    (grounded : Grounded session.stack) : Grounded next.stack := by
  rcases step_cases taken with ⟨frame, rest, stack, rfl⟩ | ⟨job, ready, stack, _, rfl⟩
  · have nested := framed.nested
    rw [stack] at grounded nested
    generalize session.queue.delivering = delivering at nested
    cases nested with
    | script script below =>
      cases script with
      | done result => exact grounded.2
      | get look => exact grounded.swap rfl _
      | set state script => exact grounded.swap rfl _
      | note note script => exact grounded.swap rfl _
      | call operation script => exact grounded_call grounded
    | tell calls below =>
      cases calls with
      | nil => exact grounded.2
      | cons call calls => exact (grounded.swap rfl (.tell calls)).cover rfl _
    | shown name found below => exact grounded.2
    | drain below =>
      cases outbox : session.queue.outbox with
      | nil =>
        rw [(shift_drain_nil rest outbox).2]
        exact grounded.2
      | cons notice others =>
        rw [advance_drain_cons outbox]
        exact grounded.cover_drain _
    | transfer found fetching message allowance =>
      exact .of_bare (bare_read session _ message allowance)
  · exact .of_bare (bare_run { session with ready } stack job)

/-- What comes from outside leaves what has begun grounded. -/
theorem grounded_input (input : Input session next) (grounded : Grounded session.stack) :
    Grounded next.stack := by
  cases input with
  | begin quiet script =>
    refine ⟨fun _ _ other listed => ?_, grounded⟩
    rw [quiet] at listed
    exact absurd listed List.not_mem_nil
  | arrive serial message =>
    rw [stack_arrive]
    exact grounded

/-- In every run what has begun is grounded. -/
theorem Run.grounded {state : users.State} {past : History users}
    (run : Run (.new state) past session) : Grounded session.stack := by
  induction run with
  | refl => trivial
  | step before taken ih => exact grounded_step taken (before.framed (framed_new state)) ih
  | input before input ih => exact grounded_input input ih

end Session

end Sailplane.Download
