import Sailplane.Proofs.Skysight.Voyages

/-!
# How a client stands in a run

In every run with a considerate handler and civil others the standing of the client is sound
whenever no script runs, and whatever script runs is safe, or will be before others may look. Every
kind of step keeps this. So whenever others may look, all is as they may see it.
-/
namespace Sailplane.Skysight

open Download (Script Operation Slot Slots Event Session Frame Observation History Signal Job)

variable {Others Listener Note : Type} {handler : Handler Others Listener Note}
  {react : Listener → Event → Act Others Listener Note Unit} {reaches : Others → Bool}
  {past : History (users handler react reaches)} {session after : Service handler react reaches}
  {start : (users handler react reaches).State}
  {rest stack : List (Frame (users handler react reaches))}

/-- Whether the scripts that have begun may go on from any sound standing. -/
def Resumable (stack : List (Frame (users handler react reaches))) : Prop :=
  ∀ script, .script script ∈ stack → ∀ standing : Standing Others Note, standing.Sound →
    standing.Safe script fun _ => Standing.Sound

/-- Whether a standing is sound, unless a script runs, which is safe soon then. -/
def Afloat (standing : Standing Others Note) : List (Frame (users handler react reaches)) → Prop
  | .script script :: below => standing.Soon handler script ∧ Resumable below
  | stack => standing.Sound ∧ Resumable stack

/-- What lies under what has begun may go on if that may. -/
theorem Resumable.below {frame : Frame (users handler react reaches)}
    (resumable : Resumable (frame :: stack)) : Resumable stack :=
  fun script listed => resumable script (List.mem_cons_of_mem _ listed)

/-- What is no script may lie on anything. -/
theorem Resumable.cover {frame : Frame (users handler react reaches)} (resumable : Resumable stack)
    (other : ∀ script, frame ≠ .script script) : Resumable (frame :: stack) := by
  intro script listed
  rcases List.mem_cons.mp listed with same | deeper
  · exact absurd same.symm (other script)
  · exact resumable script deeper

/-- Where there are no scripts all may go on. -/
theorem resumable_of_bare (bare : ∀ frame ∈ stack, frame.isPlain = false) : Resumable stack := by
  intro script listed
  exact absurd (bare _ listed) (by simp [Frame.isPlain])

/-- From a sound standing whatever may go on does. -/
theorem afloat_of_sound {standing : Standing Others Note} (sound : standing.Sound)
    (resumable : Resumable stack) : Afloat standing stack := by
  cases stack with
  | nil => exact ⟨sound, resumable⟩
  | cons frame below =>
    cases frame with
    | script script =>
      exact ⟨.safe (resumable script List.mem_cons_self standing sound), resumable.below⟩
    | drain | tell | transfer | «show» => exact ⟨sound, resumable⟩

/-- Who is afloat has asked for keys at most once a minute. -/
theorem Afloat.spaced {standing : Standing Others Note} (afloat : Afloat standing stack) :
    standing.Spaced := by
  cases stack with
  | nil => exact afloat.1.toCurrent.spaced
  | cons frame below =>
    cases frame with
    | script script => exact afloat.1.spaced
    | drain | tell | transfer | «show» => exact afloat.1.toCurrent.spaced

/-! ## Scripts -/

/-- A call leaves what is shared, and takes no slot away. -/
theorem perform_leaves (session : Service handler react reaches)
    (operation : Operation (Member Listener)) :
    (session.perform operation).2.2.state = session.state ∧
      session.slots.contents.length ≤
        (session.perform operation).2.2.slots.contents.length := by
  have untouched {next : Service handler react reaches}
      (same : next.surroundings = session.surroundings) :
      next.state = session.state ∧
        session.slots.contents.length ≤ next.slots.contents.length := by
    obtain ⟨state, slots, _⟩ := untouched_of_surroundings same
    exact ⟨state, slots ▸ Nat.le_refl _⟩
  cases operation with
  | enqueue request => exact untouched (Session.surroundings_applyAndDeliver session _)
  | cancel name => exact untouched (Session.surroundings_cancel session name)
  | signal message => exact untouched (Session.surroundings_signal session message)
  | shutdown =>
    have emptied := untouched (Session.surroundings_empty session)
    exact emptied
  | newSlot => exact ⟨rfl, Nat.le_of_lt (by simp [Session.perform, Slots.fresh])⟩
  | takeSlot slot => exact ⟨rfl, Nat.le_of_eq List.length_set.symm⟩
  | entries | enumerate | isIdle | register | unregister | watchIdle | readSlot =>
    exact ⟨rfl, Nat.le_refl _⟩

/-- What a call sets off may lie on what may go on. -/
theorem resumable_call {operation : Operation (Member Listener)}
    (resumable : Resumable stack) : Resumable ((session.perform operation).2.1 ++ stack) := by
  rcases Session.frames_perform session operation with none | drain | ⟨calls, tell⟩
  · rw [none]
    exact resumable
  · rw [drain]
    exact resumable.cover (by simp)
  · rw [tell]
    exact resumable.cover (by simp)

/-- A call that queues nothing makes no request. -/
theorem claim_of_other {operation : Operation (Member Listener)}
    {next : operation.Reply → Act Others Listener Note Unit}
    (stack : session.stack = .script (.call operation next) :: rest)
    (unqueued : ∀ request, operation ≠ .enqueue request) (made : List (String × Slot)) :
    claim made session = made := by
  rw [claim]
  split
  · rename_i request _ _ begun
    rw [stack] at begun
    have same := Script.call.inj (Frame.script.inj (List.cons.inj begun).1)
    exact absurd same.1 (unqueued request)
  · rfl

/-- A call after which others may act goes on if the standing is sound after it. -/
theorem afloat_call {operation : Operation (Member Listener)}
    {next : operation.Reply → Act Others Listener Note Unit}
    (stack : session.stack = .script (.call operation next) :: rest)
    (resumable : Resumable rest)
    (sound : Standing.Sound { standing past session with owned := claim (owned past) session })
    (resumes : ∀ reply (standing : Standing Others Note), standing.Sound →
      standing.Safe (next reply) fun _ => Standing.Sound) :
    Afloat (standing (past ++ [session]) (called session operation next rest))
      (called session operation next rest).stack := by
  obtain ⟨state, slots⟩ := perform_leaves session operation
  rw [standing_call past stack]
  refine afloat_of_sound ?_ (resumable_call ?_)
  · have grown := sound.grow slots
    exact grown.share (congrArg Shared.client state)
  · intro script listed
    rcases List.mem_cons.mp listed with same | deeper
    · rw [Frame.script.inj same]
      exact resumes _
    · exact resumable script deeper

/-- A script that makes a call goes on. -/
theorem afloat_calls {operation : Operation (Member Listener)}
    {next : operation.Reply → Act Others Listener Note Unit}
    (stack : session.stack = .script (.call operation next) :: rest)
    (resumable : Resumable rest)
    (soon : (standing past session).Soon handler (.call operation next)) :
    Afloat (standing (past ++ [session]) (called session operation next rest))
      (called session operation next rest).stack := by
  have becomes := standing_call past stack (called session operation next rest)
  cases soon with
  | @take slot _ _ own further =>
    rw [claim_of_other stack (by simp)] at becomes
    rw [becomes]
    exact ⟨further, resumable⟩
  | safe safe =>
    have others (unqueued : ∀ request, operation ≠ .enqueue request)
        (sound : (standing past session).Sound)
        (resumes : ∀ reply (standing : Standing Others Note), standing.Sound →
          standing.Safe (next reply) fun _ => Standing.Sound) :
        Afloat (standing (past ++ [session]) (called session operation next rest))
          (called session operation next rest).stack := by
      refine afloat_call stack resumable ?_ resumes
      rw [claim_of_other stack unqueued]
      exact sound
    cases operation with
    | enqueue request =>
      refine afloat_call stack resumable ?_ fun _ => safe.2
      have made : claim (owned past) session = claimed session.state (owned past) request := by
        simp only [claim, stack]
      rw [made]
      exact safe.1
    | newSlot =>
      rw [claim_of_other stack (by simp)] at becomes
      rw [becomes]
      exact ⟨.safe safe.2, resumable⟩
    | register listener =>
      rw [claim_of_other stack (by simp)] at becomes
      rw [becomes]
      exact ⟨.safe (safe.2 _), resumable⟩
    | cancel | shutdown | entries | enumerate | isIdle | unregister | watchIdle | readSlot
    | takeSlot | signal => exact others (by simp) safe.1 safe.2

/-- A script that ends, looks at what is shared, changes it or notes something down goes on. -/
theorem afloat_script {script : Act Others Listener Note Unit}
    (stack : session.stack = .script script :: rest) (resumable : Resumable rest)
    (soon : (standing past session).Soon handler script)
    (uncalled : ∀ operation next, script ≠ .call operation next) :
    Afloat (standing (past ++ [session]) (session.advance (.script script) rest))
      (session.advance (.script script) rest).stack := by
  have untold : report? session = none := by simp only [report?, stack]
  have nowhere (operation : Operation (Member Listener))
      (next : operation.Reply → Act Others Listener Note Unit)
      (below : List (Frame (users handler react reaches))) :
      session.stack ≠ .script (.call operation next) :: below := by
    intro begun
    rw [stack] at begun
    exact uncalled operation next (Frame.script.inj (List.cons.inj begun).1)
  cases script with
  | call operation next => exact absurd rfl (uncalled operation next)
  | done result =>
    rw [standing_aside past ⟨by simp only [note?, stack], untold, nowhere⟩]
    cases soon with
    | safe safe => exact afloat_of_sound safe resumable
  | get next =>
    rw [standing_aside past ⟨by simp only [note?, stack], untold, nowhere⟩]
    cases soon with
    | safe safe => exact ⟨.safe safe.2, resumable⟩
    | look own further => exact ⟨further, resumable⟩
  | set shared next =>
    rw [standing_aside past ⟨by simp only [note?, stack], untold, nowhere⟩]
    cases soon with
    | safe safe => exact ⟨.safe safe, resumable⟩
    | change further => exact ⟨further, resumable⟩
  | note written next =>
    have noted : note? session = some written := by simp only [note?, stack]
    have becomes : standing (past ++ [session])
        (session.advance (.script (.note written next)) rest) =
          (standing past session).noted written := by
      rw [standing_step, noted, untold, claim_of_uncalled nowhere, Option.toList_none,
        List.append_nil]
      rfl
    rw [becomes]
    cases soon with
    | safe safe => exact ⟨.safe safe.2, resumable⟩
    | note brings further => exact ⟨further, resumable⟩

/-! ## Notices and transfers -/

/-- A step that is aside and leaves what is shared and how many slots there are goes on from a sound
standing. -/
theorem afloat_aside (aside : Aside session) (state : after.state = session.state)
    (slots : after.slots.contents.length = session.slots.contents.length)
    (sound : (standing past session).Sound) (resumable : Resumable after.stack) :
    Afloat (standing (past ++ [session]) after) after.stack := by
  rw [standing_aside past aside]
  refine afloat_of_sound ?_ resumable
  have grown := sound.grow (Nat.le_of_eq slots.symm)
  exact grown.share (congrArg Shared.client state)

/-- The handing out of notices goes on. -/
theorem afloat_drain (stack : session.stack = .drain :: rest)
    (sound : (standing past session).Sound) (resumable : Resumable rest) :
    Afloat (standing (past ++ [session]) (session.advance .drain rest))
      (session.advance .drain rest).stack := by
  have aside : Aside session :=
    ⟨by simp only [note?, stack], by simp only [report?, stack], by simp [stack]⟩
  cases outbox : session.queue.outbox with
  | nil =>
    have same : Untouched session (session.advance .drain rest) := by
      rw [Session.advance_drain_nil outbox]
      dsimp only
      split
      · exact ⟨rfl, rfl, rfl⟩
      · exact ⟨rfl, rfl, rfl⟩
    refine afloat_aside aside same.state (by rw [same.slots]) sound ?_
    rw [(Session.shift_drain_nil rest outbox).2]
    exact resumable
  | cons notice others =>
    rw [Session.advance_drain_cons outbox]
    exact afloat_aside aside rfl rfl sound ((resumable.cover (by simp)).cover (by simp))

/-- Listeners that are told something go on. -/
theorem afloat_tell {calls : List (Member Listener × Event)} (considerate : Considerate handler)
    (civil : ∀ listener event, Civil (react listener event))
    (stack : session.stack = .tell calls :: rest) (sound : (standing past session).Sound)
    (resumable : Resumable rest) :
    Afloat (standing (past ++ [session]) (session.advance (.tell calls) rest))
      (session.advance (.tell calls) rest).stack := by
  have unnoted : note? session = none := by simp only [note?, stack]
  have nowhere (operation : Operation (Member Listener))
      (next : operation.Reply → Act Others Listener Note Unit)
      (below : List (Frame (users handler react reaches))) :
      session.stack ≠ .script (.call operation next) :: below := by
    simp [stack]
  rcases calls with _ | ⟨⟨listener, event⟩, calls⟩
  · exact afloat_aside ⟨unnoted, by simp only [report?, stack], nowhere⟩ rfl rfl sound resumable
  · refine ⟨?_, resumable.cover (by simp)⟩
    rw [standing_step, unnoted, claim_of_uncalled nowhere, Option.toList_none, List.append_nil]
    cases listener with
    | client =>
      have told : report? session = reportOf session.state session.slots event := by
        simp only [report?, stack]
      rw [told]
      exact Standing.soon_hear considerate sound event
    | other listener =>
      have untold : report? session = none := by simp only [report?, stack]
      rw [untold, Option.toList_none, List.append_nil]
      exact .safe (Standing.safe_of_civil (civil listener event) sound)

/-- A transfer that reads goes on. -/
theorem afloat_read {serial allowance : Nat} {message : List Signal}
    (stack : session.stack = [.transfer serial message allowance])
    (sound : (standing past session).Sound) :
    Afloat (standing (past ++ [session]) (session.advance (.transfer serial message allowance) []))
      (session.advance (.transfer serial message allowance) []).stack := by
  have resumable : Resumable (session.advance (.transfer serial message allowance) []).stack :=
    resumable_of_bare (Session.bare_read session serial message allowance)
  have aside : Aside session :=
    ⟨by simp only [note?, stack], by simp only [report?, stack], by simp [stack]⟩
  cases stored : session.transfer? serial with
  | none =>
    rw [Session.advance_read_missing stored] at resumable ⊢
    exact afloat_aside aside rfl rfl sound resumable
  | some transfer =>
    cases message with
    | nil =>
      rw [Session.advance_read_nil stored] at resumable ⊢
      have same := untouched_of_surroundings
        (Session.surroundings_readNext session transfer allowance [])
      exact afloat_aside aside same.state (by rw [same.slots]) sound resumable
    | cons signal message =>
      have same := Session.surroundings_follow session transfer signal
        (.transfer serial message allowance) []
      rw [← Session.advance_read_cons stored] at same
      have slots := congrArg (fun left => left.slots.contents.length) same
      exact afloat_aside aside (congrArg Download.Surroundings.state same)
        (slots.trans (Session.length_fillWith _ _)) sound resumable

/-- What is shown at the end goes on with what lies under it. -/
theorem afloat_shown {observation : Observation (Member Listener) (Mark Note)}
    (stack : session.stack = .show observation :: rest) (sound : (standing past session).Sound)
    (resumable : Resumable rest) :
    Afloat (standing (past ++ [session]) (session.advance (.show observation) rest))
      (session.advance (.show observation) rest).stack :=
  afloat_aside ⟨by simp only [note?, stack], by simp only [report?, stack], by simp [stack]⟩ rfl rfl
    sound resumable

/-- A task that runs goes on. -/
theorem afloat_run {job : Job} {ready : List Job} (stack : session.stack = [])
    (sound : (standing past session).Sound) :
    Afloat (standing (past ++ [session])
        (({ session with ready } : Service handler react reaches).run job))
      (({ session with ready } : Service handler react reaches).run job).stack := by
  have resumable := resumable_of_bare (Session.bare_run { session with ready } stack job)
  have aside : Aside session :=
    ⟨by simp only [note?, stack], by simp only [report?, stack], by simp [stack]⟩
  cases job with
  | transfer serial =>
    have same : Untouched ({ session with ready } : Service handler react reaches)
        (({ session with ready } : Service handler react reaches).run (.transfer serial)) :=
      untouched_of_surroundings (Session.surroundings_run _ serial)
    exact afloat_aside aside same.state (by rw [same.slots]) sound resumable
  | watcher label =>
    have same : Untouched session
        (({ session with ready } : Service handler react reaches).run (.watcher label)) := by
      rw [Session.run]
      split
      · exact ⟨rfl, rfl, rfl⟩
      · exact ⟨rfl, rfl, rfl⟩
    exact afloat_aside aside same.state (by rw [same.slots]) sound resumable

/-! ## Every step -/

/-- Every step keeps the client afloat. -/
theorem afloat_step (considerate : Considerate handler)
    (civil : ∀ listener event, Civil (react listener event))
    (run : Session.Run (.new start) past session) (taken : session.step? = some after)
    (afloat : Afloat (standing past session) session.stack) :
    Afloat (standing (past ++ [session]) after) after.stack := by
  rcases Session.step_cases taken with ⟨frame, rest, stack, rfl⟩ | ⟨job, ready, stack, jobs, rfl⟩
  · rw [stack] at afloat
    cases frame with
    | script script =>
      cases script with
      | call operation next => exact afloat_calls stack afloat.2 afloat.1
      | _ => exact afloat_script stack afloat.2 afloat.1 (by simp)
    | drain => exact afloat_drain stack afloat.1 afloat.2.below
    | tell calls => exact afloat_tell considerate civil stack afloat.1 afloat.2.below
    | transfer serial message allowance =>
      have nested := (run.framed (Session.framed_new start)).nested
      rw [stack] at nested
      generalize session.queue.delivering = delivering at nested
      cases nested with
      | transfer => exact afloat_read stack afloat.1
    | «show» observation => exact afloat_shown stack afloat.1 afloat.2.below
  · rw [stack] at afloat
    exact afloat_run stack afloat.1

/-- Before anything has happened the standing is sound. -/
theorem sound_new {shared : Shared Others} (absent : shared.client = none) :
    (standing [] (.new shared : Service handler react reaches)).Sound where
  asked := by
    simp [standing, Session.new, absent]
  spaced := .nil
  keyed := by
    simp [standing, Session.new, absent]
  renewed := rfl
  routed := rfl
  kept := by
    simp [standing, Session.new, absent]
  covered := fun _ => Nat.le_refl _
  handed := fun _ listed => absurd listed List.not_mem_nil
  begun := fun made => absurd rfl made
  present := fun there => absurd absent there

/-- In every voyage the client is afloat. -/
theorem Voyage.afloat (considerate : Considerate handler)
    (civil : ∀ listener event, Civil (react listener event)) (voyage : Voyage past session) :
    Afloat (standing past session) session.stack := by
  have begins {past : History (users handler react reaches)}
      {session : Service handler react reaches} {script : Act Others Listener Note Unit}
      (quiet : session.stack = [])
      (safe : (standing past session).Safe script fun _ => Standing.Sound) :
      Afloat (standing past (session.begin script)) (session.begin script).stack := by
    refine ⟨.safe safe, ?_⟩
    rw [quiet]
    exact resumable_of_bare (by simp)
  induction voyage with
  | new absent => exact ⟨sound_new absent, resumable_of_bare (by simp [Session.new])⟩
  | connect before quiet first account ih =>
    rw [quiet] at ih
    exact begins quiet (Standing.safe_connect ih.1 first account)
  | begin before quiet polite ih =>
    rw [quiet] at ih
    exact begins quiet (Standing.safe_of_civil polite ih.1)
  | arrive before serial message ih =>
    rw [standing_input (.arrive _ serial message), Session.stack_arrive]
    exact ih
  | step before taken ih =>
    obtain ⟨_, run⟩ := before.run
    exact afloat_step considerate civil run taken ih

/-- Whether others may look: if a script runs, it is one of theirs that goes on. -/
def Open (session : Service handler react reaches) : Prop :=
  ∀ script rest, session.stack = .script script :: rest → Civil script

/-- When a civil script is about to go on others may look. -/
theorem open_of_civil {script : Act Others Listener Note Unit}
    {rest : List (Frame (users handler react reaches))}
    (stack : session.stack = .script script :: rest) (civil : Civil script) : Open session := by
  intro other below begun
  rw [stack] at begun
  rw [← Frame.script.inj (List.cons.inj begun).1]
  exact civil

/-- In every voyage all is as others may see it whenever they may look. -/
theorem Voyage.current (considerate : Considerate handler)
    (civil : ∀ listener event, Civil (react listener event)) (voyage : Voyage past session)
    (opened : Open session) : (standing past session).Current := by
  have afloat := voyage.afloat considerate civil
  cases stack : session.stack with
  | nil =>
    rw [stack] at afloat
    exact afloat.1.toCurrent
  | cons frame rest =>
    rw [stack] at afloat
    cases frame with
    | script script => exact afloat.1.current (opened script rest stack)
    | drain | tell | transfer | «show» => exact afloat.1.toCurrent

end Sailplane.Skysight
