import Sailplane.Proofs.Download.TwinSteps

/-!
# Runs of twins

What can happen to one of two twins can happen to the other, with the same calls, replies and
observations. Turns of transfers of the past are silent: they are steps of one twin only, of which
nothing is heard but that such a transfer was dropped.
-/
namespace Sailplane.Download

/-- What happens in a run. -/
inductive Happening (users : Users) where
  /-- A caller begins a script. -/
  | begun (script : users.Script Unit)
  /-- A message comes in for a transfer. -/
  | arrived (serial : Nat) (message : List Signal)
  /-- A call is answered. -/
  | answered (operation : Operation users.Listener) (reply : operation.Reply)
  /-- Something is seen. -/
  | seen (observation : Observation users.Listener users.Note)

namespace Happening

variable {users : Users} (lead : Lead)

/-- What happens, numbered after a lead. -/
def behind : Happening users → Happening users
  | begun script => begun script
  | arrived serial message => arrived (lead.shift serial) message
  | answered operation reply => answered operation reply
  | seen observation => seen (observation.behind lead)

/-- Whether something that happens does not come to or from a transfer that was there before a
lead. -/
def isSince : Happening users → Bool
  | begun _ => true
  | arrived serial _ => decide (lead.serials < serial)
  | answered _ _ => true
  | seen observation => observation.isSince lead

end Happening

namespace Session

variable {users : Users} {lead : Lead} {before : List (Observation users.Listener users.Note)}
  {source session old fresh reached : Session users} {serial : Nat}

/-- The answer that the next step gives. -/
def answer? (session : Session users) : Option (Happening users) :=
  session.call?.map fun operation => .answered operation (session.perform operation).1

/-- What happens in the next step, in which something is seen. -/
def happenings (session : Session users)
    (seen : List (Observation users.Listener users.Note)) : List (Happening users) :=
  session.answer?.toList ++ seen.map .seen

/-- Whether a sequence of happenings leads from one session to another. -/
inductive Trace (source : Session users) : List (Happening users) → Session users → Prop where
  /-- Nothing happens. -/
  | refl : Trace source [] source
  /-- A step is taken, in which a call may be answered and something seen. -/
  | step {trace : List (Happening users)} {session next : Session users}
    {seen : List (Observation users.Listener users.Note)} (before : Trace source trace session)
    (taken : session.step? = some next) (grown : next.log = session.log ++ seen) :
    Trace source (trace ++ session.happenings seen) next
  /-- A caller begins a script. -/
  | begin {trace : List (Happening users)} {session : Session users}
    (before : Trace source trace session) (quiet : session.stack = [])
    (script : users.Script Unit) : Trace source (trace ++ [.begun script]) (session.begin script)
  /-- A message comes in for a transfer. -/
  | arrive {trace : List (Happening users)} {session : Session users} {transfer : Transfer}
    (before : Trace source trace session) (serial : Nat)
    (stored : session.transfer? serial = some transfer) (message : List Signal) :
    Trace source (trace ++ [.arrived serial message]) (session.arrive serial message)

/-- One trace may go on with another. -/
theorem Trace.append {trace more : List (Happening users)} (first : Trace source trace session)
    (second : Trace session more reached) : Trace source (trace ++ more) reached := by
  induction second with
  | refl =>
    rw [List.append_nil]
    exact first
  | step _ taken grown ih =>
    rw [← List.append_assoc]
    exact ih.step taken grown
  | begin _ quiet script ih =>
    rw [← List.append_assoc]
    exact ih.begin quiet script
  | arrive _ serial stored message ih =>
    rw [← List.append_assoc]
    exact ih.arrive serial stored message

/-! ## Pairs of sessions that go on together -/

/-- Whether two sessions are twins that can go on. -/
structure Paired (lead : Lead) (before : List (Observation users.Listener users.Note))
    (old fresh : Session users) : Prop where
  /-- They are twins. -/
  twins : Twins lead before old fresh
  /-- What has begun in the one is nested. -/
  nested : Framed old
  /-- What has begun in the other is nested. -/
  framed : Framed fresh
  /-- The transfers of the other are in order. -/
  orderly : Orderly fresh

/-- Every effect adds to what was seen. -/
theorem Effect.grown {deed : Option (Deed users.Listener)} {next : Session users}
    (effect : Effect session deed next) : ∃ seen, next.log = session.log ++ seen := by
  cases effect with
  | still _ shift | woken _ _ shift | rested _ shift | announced _ shift | told shift
  | emptied shift | begun _ _ _ _ shift | passed _ _ shift | discarded _ _ _ _ shift
  | dropped _ _ _ _ shift | outlived _ _ _ _ shift => exact ⟨_, shift.log⟩
  | queued _ changed | cancelled _ _ _ changed | finished _ _ _ changed => exact ⟨_, changed.log⟩

/-- What twins see in a step is the same, but for what becomes of the past. -/
theorem Alike.seen_eq {next other : Session users}
    {seen more : List (Observation users.Listener users.Note)}
    (alike : Alike lead before old fresh) (after : Alike lead before next other)
    (grown : next.log = old.log ++ seen) (same : other.log = fresh.log ++ more) :
    seen.filter (Observation.isSince lead) = more.map (Observation.behind lead) := by
  obtain ⟨early, log, first⟩ := alike.log
  obtain ⟨late, whole, last⟩ := after.log
  rw [grown, log, List.append_assoc, List.append_cancel_left_eq] at whole
  rw [← whole, List.filter_append, first, same, List.map_append,
    List.append_cancel_left_eq] at last
  exact last

/-- The next call of twins is the same. -/
theorem Paired.call_eq (paired : Paired lead before old fresh) : old.call? = fresh.call? := by
  have alike := paired.twins.toAlike
  have stack := paired.twins.stack
  have nested := paired.framed.nested
  cases begun : fresh.stack with
  | nil =>
    rw [begun, List.map_nil] at stack
    simp only [call?, stack, begun]
  | cons frame rest =>
    rw [begun, List.map_cons] at stack
    rw [begun] at nested
    generalize fresh.queue.delivering = delivering at nested
    cases nested with
    | script script below =>
      cases script with
      | call operation next | done result | get next | set state next | note note next =>
        simp only [call?, stack, begun, Frame.behind]
    | tell calls below => simp only [call?, stack, begun, Frame.behind]
    | shown name found below => simp only [call?, stack, begun, Frame.behind]
    | drain below => simp only [call?, stack, begun, Frame.behind]
    | @transfer serial task found fetching message allowance =>
      obtain ⟨transfer, _, rfl, positive⟩ := paired.orderly.numbered.stored found
      have same := alike.transfer_eq positive
      cases message with
      | nil => simp only [call?, stack, begun, Frame.behind]
      | cons signal message =>
        cases signal with
        | cancel name =>
          simp only [call?, stack, begun, Frame.behind, same, alike.state, Option.isSome_map]
        | size | position | fill | finish => simp only [call?, stack, begun, Frame.behind]

/-- The next answer of twins is the same. -/
theorem Paired.answer_eq (paired : Paired lead before old fresh) :
    old.answer? = fresh.answer? := by
  rw [answer?, paired.call_eq, answer?]
  congr 1
  funext operation
  rw [(paired.twins.toAlike.perform paired.orderly.numbered operation).1]

/-- The next answer has no number. -/
theorem answer_numberless (session : Session users) :
    session.answer?.toList.filter (Happening.isSince lead) =
      session.answer?.toList.map (Happening.behind lead) := by
  rw [answer?]
  cases session.call? with
  | none => rfl
  | some operation => rfl

/-- What twins see happens to both. -/
theorem seen_since {seen more : List (Observation users.Listener users.Note)}
    (same : seen.filter (Observation.isSince lead) = more.map (Observation.behind lead)) :
    (seen.map .seen).filter (Happening.isSince lead) =
      (more.map .seen : List (Happening users)).map (Happening.behind lead) := by
  have filtered : (seen.map .seen : List (Happening users)).filter (Happening.isSince lead) =
      (seen.filter (Observation.isSince lead)).map .seen := List.filter_map
  rw [filtered, same, List.map_map, List.map_map]
  rfl

/-! ## Moves of pairs -/

namespace Paired

variable (paired : Paired lead before old fresh)
include paired

/-- A step of both that leaves twins leaves a pair. -/
theorem both {next other : Session users} (taken : old.step? = some next)
    (same : fresh.step? = some other) (twins : Twins lead before next other) :
    Paired lead before next other where
  twins := twins
  nested := Effect.framed paired.nested (sound_step taken paired.nested)
  framed := Effect.framed paired.framed (sound_step same paired.framed)
  orderly := paired.orderly.next (sound_step same paired.framed).1

/-- A step of the one is a step of both, or a turn of the past. -/
theorem step_cases {next : Session users} (taken : old.step? = some next) :
    (∃ other, fresh.step? = some other ∧ Twins lead before next other) ∨
      old.stack = [] ∧ Twins lead before next fresh ∧ next.ready.length < old.ready.length := by
  have alike := paired.twins.toAlike
  have stack := paired.twins.stack
  rcases Session.step_cases taken with ⟨frame, rest, begun, rfl⟩ | ⟨job, ready, quiet, jobs, rfl⟩
  · cases below : fresh.stack with
    | nil =>
      rw [below, begun] at stack
      exact absurd stack (List.cons_ne_nil _ _)
    | cons first others =>
      rw [below, begun, List.map_cons, List.cons.injEq] at stack
      obtain ⟨rfl, rfl⟩ := stack
      refine .inl ⟨fresh.advance first others, ?_, ?_⟩
      · simp only [step?, below]
      · exact paired.twins.advance paired.orderly.numbered paired.framed below
  · have still : fresh.stack = [] := by
      rw [quiet] at stack
      exact List.map_eq_nil_iff.mp stack.symm
    have filtered := alike.ready
    rw [jobs, List.filter_cons] at filtered
    -- A task of the past has no counterpart: its turn passes in the one alone.
    by_cases since : job.isSince lead = true
    · rw [if_pos since] at filtered
      cases turns : fresh.ready with
      | nil =>
        rw [turns] at filtered
        exact absurd filtered (List.cons_ne_nil _ _)
      | cons first others =>
        rw [turns, List.map_cons, List.cons.injEq] at filtered
        obtain ⟨rfl, rest⟩ := filtered
        have popped : Alike lead before { old with ready } { fresh with ready := others } :=
          { alike with ready := rest }
        refine .inl ⟨({ fresh with ready := others } : Session users).run first, ?_, ?_⟩
        · simp only [step?, still, turns]
        · exact popped.run quiet still since
    · rw [if_neg since] at filtered
      cases job with
      | watcher label => exact absurd rfl since
      | transfer serial =>
        have late : serial ≤ lead.serials :=
          Nat.not_lt.mp fun later => since (decide_eq_true later)
        have popped : Alike lead before { old with ready } fresh := { alike with ready := filtered }
        obtain ⟨after, rests, shorter⟩ := popped.run_gone paired.orderly.numbered quiet late
        refine .inr ⟨quiet, { after with stack := by rw [rests, still]; rfl }, ?_⟩
        rw [shorter, jobs]
        exact Nat.lt_succ_self ready.length

/-- A turn of the past leaves a pair. -/
theorem alone {next : Session users} (taken : old.step? = some next)
    (twins : Twins lead before next fresh) : Paired lead before next fresh where
  twins := twins
  nested := Effect.framed paired.nested (sound_step taken paired.nested)
  framed := paired.framed
  orderly := paired.orderly

/-- The one can take a step if the other can. -/
theorem step_of_step {other : Session users} (taken : fresh.step? = some other) :
    ∃ next, old.step? = some next := by
  have stack := paired.twins.stack
  have ready := paired.twins.ready
  rcases Session.step_cases taken with ⟨frame, rest, begun, _⟩ | ⟨job, jobs, quiet, turns, _⟩
  · rw [begun, List.map_cons] at stack
    exact ⟨_, by simp only [step?, stack]; rfl⟩
  · rw [quiet, List.map_nil] at stack
    rw [turns, List.map_cons] at ready
    cases listed : old.ready with
    | nil =>
      rw [listed] at ready
      exact absurd ready.symm (List.cons_ne_nil _ _)
    | cons first others => exact ⟨_, by simp only [step?, stack, listed]; rfl⟩

/-- A script that is begun in both leaves a pair. -/
theorem begin (quiet : fresh.stack = []) (script : users.Script Unit) :
    Paired lead before (old.begin script) (fresh.begin script) := by
  have still : old.stack = [] := by
    rw [paired.twins.stack, quiet]
    rfl
  have stack : (old.begin script).stack =
      (fresh.begin script).stack.map (Frame.behind lead) := by
    rw [Session.begin, Session.begin, still, quiet]
    rfl
  have ours := sound_input (.begin still script) paired.nested
  have theirs := sound_input (.begin quiet script) paired.framed
  exact ⟨{ paired.twins.toAlike with stack }, Effect.framed paired.nested ours,
    Effect.framed paired.framed theirs, paired.orderly.next theirs.1⟩

/-- A message that comes in for a transfer of both leaves a pair. -/
theorem arrive (positive : 0 < serial) (message : List Signal) :
    Paired lead before (old.arrive (lead.shift serial) message) (fresh.arrive serial message) := by
  have alike := paired.twins.toAlike
  have ours := sound_input (.arrive old (lead.shift serial) message) paired.nested
  have theirs := sound_input (.arrive fresh serial message) paired.framed
  refine ⟨?_, Effect.framed paired.nested ours, Effect.framed paired.framed theirs,
    paired.orderly.next theirs.1⟩
  have stack : (old.arrive (lead.shift serial) message).stack =
      (fresh.arrive serial message).stack.map (Frame.behind lead) := by
    rw [stack_arrive, stack_arrive]
    exact paired.twins.stack
  have same := alike.transfer_eq positive
  have posted : Alike lead before (old.arrive (lead.shift serial) message)
      (fresh.arrive serial message) := by
    cases stored : fresh.transfer? serial with
    | none =>
      rw [stored] at same
      simp only [Session.arrive, stored, same, Option.map_none]
      exact alike
    | some transfer =>
      rw [stored] at same
      have phase : (transfer.behind lead).phase = transfer.phase := rfl
      simp only [Session.arrive, stored, same, Option.map_some, phase]
      split
      · exact alike
      · exact alike.post positive message
  exact { posted with stack }

/-- A message that comes in for a transfer of the past leaves a pair. -/
theorem arrive_gone (late : serial ≤ lead.serials) (message : List Signal) :
    Paired lead before (old.arrive serial message) fresh := by
  have ours := sound_input (.arrive old serial message) paired.nested
  refine ⟨?_, Effect.framed paired.nested ours, paired.framed, paired.orderly⟩
  rcases arrive_cases old serial message with same | ⟨_, _, _, posted⟩
  · rw [same]
    exact paired.twins
  · have stack := paired.twins.stack
    rw [← stack_post old serial message] at stack
    rw [posted]
    exact { paired.twins.toAlike.post_gone paired.orderly.numbered.transfers late message with
      stack }

/-- What happens in a step of both is the same. -/
theorem happenings_eq {next other : Session users}
    {seen more : List (Observation users.Listener users.Note)}
    (twins : Twins lead before next other) (grown : next.log = old.log ++ seen)
    (same : other.log = fresh.log ++ more) :
    (old.happenings seen).filter (Happening.isSince lead) =
      (fresh.happenings more).map (Happening.behind lead) := by
  rw [happenings, happenings, List.filter_append, List.map_append, answer_numberless old,
    paired.answer_eq, seen_since (paired.twins.toAlike.seen_eq twins.toAlike grown same)]

/-- Nothing happens in a turn of the past. -/
theorem silent {next : Session users} {seen : List (Observation users.Listener users.Note)}
    (quiet : old.stack = []) (twins : Twins lead before next fresh)
    (grown : next.log = old.log ++ seen) :
    (old.happenings seen).filter (Happening.isSince lead) = [] := by
  have unasked : old.answer? = none := by simp only [answer?, call?, quiet, Option.map_none]
  have unseen := paired.twins.toAlike.seen_eq twins.toAlike grown (List.append_nil _).symm
  rw [happenings, unasked, Option.toList_none, List.nil_append, seen_since unseen]
  rfl

/-- What the other does in a step the one does, too, perhaps after some turns of the past. -/
theorem catch_up {other : Session users}
    {more : List (Observation users.Listener users.Note)} (taken : fresh.step? = some other)
    (same : other.log = fresh.log ++ more) :
    ∃ trace next, Trace old trace next ∧ Paired lead before next other ∧
      trace.filter (Happening.isSince lead) =
        (fresh.happenings more).map (Happening.behind lead) := by
  -- The turns of the past that come first get fewer.
  induction turns : old.ready.length using Nat.strongRecOn generalizing old with
  | ind count ih =>
    obtain ⟨next, moved⟩ := paired.step_of_step taken
    obtain ⟨seen, grown⟩ := (sound_step moved paired.nested).1.grown
    have stepped := Trace.refl.step moved grown
    rw [List.nil_append] at stepped
    rcases paired.step_cases moved with ⟨last, found, twins⟩ | ⟨quiet, twins, fewer⟩
    · obtain rfl := Option.some.inj (taken.symm.trans found)
      exact ⟨_, next, stepped, paired.both moved taken twins,
        paired.happenings_eq twins grown same⟩
    · rw [turns] at fewer
      obtain ⟨trace, reached, after, pair, answered⟩ :=
        ih next.ready.length fewer (paired.alone moved twins) rfl
      refine ⟨_, reached, stepped.append after, pair, ?_⟩
      rw [List.filter_append, paired.silent quiet twins grown, answered, List.nil_append]

/-! ## Whole traces -/

/-- Whatever can happen to the one can happen to the other. -/
theorem onward {trace : List (Happening users)} (happens : Trace old trace reached) :
    ∃ twin other, Trace fresh twin other ∧ Paired lead before reached other ∧
      trace.filter (Happening.isSince lead) = twin.map (Happening.behind lead) := by
  induction happens with
  | refl => exact ⟨[], fresh, .refl, paired, rfl⟩
  | @step trace session next seen _ taken grown ih =>
    obtain ⟨twin, other, happened, pair, same⟩ := ih
    rcases pair.step_cases taken with ⟨last, found, twins⟩ | ⟨quiet, twins, _⟩
    · obtain ⟨more, added⟩ := (sound_step found pair.framed).1.grown
      refine ⟨_, last, happened.step found added, pair.both taken found twins, ?_⟩
      rw [List.filter_append, List.map_append, same, pair.happenings_eq twins grown added]
    · refine ⟨twin, other, happened, pair.alone taken twins, ?_⟩
      rw [List.filter_append, same, pair.silent quiet twins grown, List.append_nil]
  | @begin trace session _ quiet script ih =>
    obtain ⟨twin, other, happened, pair, same⟩ := ih
    have still : other.stack = [] := by
      have stack := pair.twins.stack
      rw [quiet] at stack
      exact List.map_eq_nil_iff.mp stack.symm
    refine ⟨_, _, happened.begin still script, pair.begin still script, ?_⟩
    rw [List.filter_append, List.map_append, same]
    rfl
  | @arrive trace session transfer _ serial stored message ih =>
    obtain ⟨twin, other, happened, pair, same⟩ := ih
    -- What comes in for a transfer of the past leaves no trace in the other.
    by_cases since : lead.serials < serial
    · obtain ⟨given, rfl⟩ : ∃ given, serial = lead.shift given :=
        ⟨serial - lead.serials, by rw [Lead.shift]; omega⟩
      have positive : 0 < given := by
        rw [Lead.shift] at since
        omega
      have found := pair.twins.toAlike.transfer_eq positive
      rw [stored] at found
      obtain ⟨own, there, _⟩ := Option.map_eq_some_iff.mp found.symm
      have counts : (Happening.arrived (lead.shift given) message : Happening users).isSince lead =
          true := decide_eq_true since
      refine ⟨_, _, happened.arrive given there message, pair.arrive positive message, ?_⟩
      rw [List.filter_append, List.map_append, same, List.filter_cons, counts]
      rfl
    · have passes : (Happening.arrived serial message : Happening users).isSince lead = false :=
        decide_eq_false since
      refine ⟨twin, other, happened, pair.arrive_gone (Nat.not_lt.mp since) message, ?_⟩
      rw [List.filter_append, same, List.filter_cons, passes, if_neg Bool.false_ne_true,
        List.filter_nil, List.append_nil]

/-- Whatever can happen to the other can happen to the one. -/
theorem back {twin : List (Happening users)} (happens : Trace fresh twin reached) :
    ∃ trace ours, Trace old trace ours ∧ Paired lead before ours reached ∧
      trace.filter (Happening.isSince lead) = twin.map (Happening.behind lead) := by
  induction happens with
  | refl => exact ⟨[], old, .refl, paired, rfl⟩
  | @step twin session next seen _ taken grown ih =>
    obtain ⟨trace, ours, happened, pair, same⟩ := ih
    obtain ⟨more, last, caught, after, added⟩ := pair.catch_up taken grown
    refine ⟨_, last, happened.append caught, after, ?_⟩
    rw [List.filter_append, List.map_append, same, added]
  | @begin twin session _ quiet script ih =>
    obtain ⟨trace, ours, happened, pair, same⟩ := ih
    have still : ours.stack = [] := by
      rw [pair.twins.stack, quiet]
      rfl
    refine ⟨_, _, happened.begin still script, pair.begin quiet script, ?_⟩
    rw [List.filter_append, List.map_append, same]
    rfl
  | @arrive twin session transfer _ serial stored message ih =>
    obtain ⟨trace, ours, happened, pair, same⟩ := ih
    have positive : 0 < serial := by
      have numbered := pair.orderly.numbered.transfers transfer
        (List.mem_of_find?_eq_some stored)
      rwa [(taskAt_of_stored stored).2] at numbered
    have found := pair.twins.toAlike.transfer_eq positive
    rw [stored] at found
    have counts : (Happening.arrived (lead.shift serial) message : Happening users).isSince lead =
        true := decide_eq_true (lt_shift lead positive)
    refine ⟨_, _, happened.arrive (lead.shift serial) found message,
      pair.arrive positive message, ?_⟩
    rw [List.filter_append, List.map_append, same, List.filter_cons, counts]
    rfl

end Paired

/-! ## Equivalence -/

/-- Whether two sessions answer the same to whoever asks. -/
structure Agree (old fresh : Session users) : Prop where
  /-- The requests and how far they are. -/
  entries : old.entries = fresh.entries
  /-- Whether nothing is queued. -/
  idle : old.queue.isIdle = fresh.queue.isIdle
  /-- The listeners. -/
  registry : old.registry = fresh.registry
  /-- The slots. -/
  slots : old.slots = fresh.slots
  /-- What callers share. -/
  state : old.state = fresh.state

/-- Whether the same can happen to two sessions, when all that comes to or from a transfer that was
there before a lead is left out, and whatever happens they answer the same afterwards. -/
structure Equivalent (lead : Lead) (old fresh : Session users) : Prop where
  /-- What can happen to the one can happen to the other. -/
  onward : ∀ trace reached, Trace old trace reached → ∃ twin other, Trace fresh twin other ∧
    trace.filter (Happening.isSince lead) = twin.map (Happening.behind lead) ∧ Agree reached other
  /-- What can happen to the other can happen to the one. -/
  back : ∀ twin other, Trace fresh twin other → ∃ trace reached, Trace old trace reached ∧
    trace.filter (Happening.isSince lead) = twin.map (Happening.behind lead) ∧ Agree reached other

/-- Sessions of a pair answer the same. -/
theorem Paired.agree (paired : Paired lead before old fresh) : Agree old fresh where
  entries := paired.twins.toAlike.entries_eq paired.orderly.numbered
  idle := (congrArg Queue.isIdle paired.twins.queue).trans (fresh.queue.isIdle_behind lead)
  registry := paired.twins.registry
  slots := paired.twins.slots
  state := paired.twins.state

/-- Sessions of a pair are equivalent. -/
theorem Paired.equivalent (paired : Paired lead before old fresh) : Equivalent lead old fresh where
  onward := by
    intro trace reached happens
    obtain ⟨twin, other, happened, pair, same⟩ := paired.onward happens
    exact ⟨twin, other, happened, same, pair.agree⟩
  back := by
    intro twin other happens
    obtain ⟨trace, reached, happened, pair, same⟩ := paired.back happens
    exact ⟨trace, reached, happened, same, pair.agree⟩

end Session

end Sailplane.Download
