import Sailplane.Proofs.Download.Audible
import Sailplane.Proofs.Download.Delivery

/-!
# Where events come from

A listener is told of nothing but notices that were recorded, except that it may be told again how
far requests are that wait.
-/
namespace Sailplane.Download

namespace Session

variable {users : Users} {session next : Session users}

/-- Whether an event only tells how far a request is. -/
def Replayed (event : Event) : Prop := ∃ name status, event = .added name status

/-- Whether an event tells how far a request is or is that of a recorded notice. -/
def Known (session : Session users) (event : Event) : Prop :=
  Replayed event ∨ ∃ notice ∈ session.recorded, notice.event = event

/-- Whether listeners were and will be told of nothing but what is known. -/
structure Sourced (session : Session users) : Prop where
  /-- What they were told is known. -/
  heard : ∀ listener event, .heard listener event ∈ session.audible → session.Known event
  /-- What they are still to be told is known. -/
  told : ∀ calls, .tell calls ∈ session.stack → ∀ call ∈ calls, session.Known call.2

/-- What waits to be handed out was recorded. -/
theorem Pushed.recorded_of_outbox {deeds : List (Deed users.Listener)}
    (pushed : Pushed deeds session) {notice : Notice} (waits : notice ∈ session.queue.outbox) :
    notice ∈ session.recorded := by
  rw [pushed]
  exact List.mem_append_right _ waits

/-- Every effect records its notices behind the earlier ones. -/
theorem Effect.recorded_mono {deed : Option (Deed users.Listener)}
    (effect : Effect session deed next) : session.recorded <+: next.recorded := by
  cases effect with
  | still _ shift | woken _ _ shift | rested _ shift | announced _ shift | told shift
  | emptied shift | begun _ _ _ _ shift | passed _ _ shift | discarded _ _ _ _ shift
  | dropped _ _ _ _ shift | outlived _ _ _ _ shift =>
    exact ⟨_, (Shift.recorded shift).symm⟩
  | queued _ changed | cancelled _ _ _ changed | finished _ _ _ changed =>
    exact ⟨_, (Shift.recorded changed).symm⟩

/-- What is known stays known. -/
theorem Known.mono {event : Event} (known : session.Known event)
    (more : session.recorded <+: next.recorded) : next.Known event :=
  known.imp_right fun ⟨notice, listed, same⟩ => ⟨notice, more.subset listed, same⟩

/-- A call sets off that somebody is told something only if it asks for that, and then it is that
listener who is told only how far requests are. -/
theorem enumerated_of_perform {operation : Operation users.Listener}
    {calls : List (users.Listener × Event)}
    (set_off : .tell calls ∈ (session.perform operation).2.1) :
    ∃ listener, operation = .enumerate listener ∧
      ∀ call ∈ calls, call.1 = listener ∧ Replayed call.2 := by
  have delivery (change : Change) (reached : Session users) :
      .tell calls ∉ (reached.applyAndDeliver change).1 := by
    rcases frames_applyAndDeliver reached change with none | drain
    · rw [none]
      exact List.not_mem_nil
    · rw [drain]
      simp
  cases operation with
  | enqueue request => exact absurd set_off (delivery _ session)
  | cancel name =>
    cases found : session.queue.cancel? name with
    | none =>
      rw [perform_cancel_none found] at set_off
      exact absurd set_off List.not_mem_nil
    | some change =>
      rw [perform_cancel_some found] at set_off
      exact absurd set_off (delivery change session)
  | enumerate listener =>
    obtain rfl := Frame.tell.inj (List.mem_singleton.mp set_off)
    refine ⟨listener, rfl, fun call listed => ?_⟩
    obtain ⟨⟨name, status⟩, _, rfl⟩ := List.mem_map.mp listed
    exact ⟨rfl, name, status, rfl⟩
  | signal message =>
    rw [perform] at set_off
    split at set_off
    · exact absurd set_off List.not_mem_nil
    · exact absurd set_off List.not_mem_nil
  | shutdown | entries | isIdle | watchIdle label | newSlot => exact absurd set_off List.not_mem_nil
  | register listener | unregister number | readSlot slot | takeSlot slot =>
    exact absurd set_off List.not_mem_nil

/-- A transfer that follows a signal tells no listener anything at once. -/
theorem tell_follow (session : Session users) (transfer : Transfer) (signal : Signal)
    (serial : Nat) (message : List Signal) (allowance : Nat)
    (calls : List (users.Listener × Event)) :
    .tell calls ∉
      (session.follow transfer signal (.transfer serial message allowance) []).stack := by
  rcases stack_follow session transfer signal (.transfer serial message allowance) with
    ⟨again, _⟩ | ended | delivers | ⟨_, frames, name, found, set_off, none | drain⟩
  · rw [again]
    simp
  · rw [ended]
    simp
  · rw [delivers]
    simp
  · rw [set_off, none]
    simp
  · rw [set_off, drain]
    simp

/-- Whom a step of what has begun leaves to be told something: those who were, those who are told
how far requests are, and those to whom a notice begins to be handed out. -/
theorem tell_advance {frame : Frame users} {rest : List (Frame users)}
    (stack : session.stack = frame :: rest) (framed : Framed session)
    {calls : List (users.Listener × Event)}
    (listed : .tell calls ∈ (session.advance frame rest).stack) :
    (∃ earlier, .tell earlier ∈ session.stack ∧ ∀ call ∈ calls, call ∈ earlier) ∨
      (∀ call ∈ calls, Replayed call.2) ∨
      ∃ notice ∈ session.queue.outbox, ∀ call ∈ calls, call.2 = notice.event := by
  have below (among : .tell calls ∈ rest) : ∃ earlier,
      .tell earlier ∈ session.stack ∧ ∀ call ∈ calls, call ∈ earlier :=
    ⟨calls, stack ▸ List.mem_cons_of_mem _ among, fun _ told => told⟩
  have nested := framed.nested
  rw [stack] at nested
  generalize session.queue.delivering = delivering at nested
  cases nested with
  | script script under =>
    cases script with
    | done result => exact .inl (below listed)
    | get next => exact .inl (below (by simpa [advance] using listed))
    | set state next => exact .inl (below (by simpa [advance] using listed))
    | note note next => exact .inl (below (by simpa [advance] using listed))
    | call operation next =>
      rcases List.mem_append.mp listed with set_off | among
      · obtain ⟨_, _, replayed⟩ := enumerated_of_perform set_off
        exact .inr (.inl fun call told => (replayed call told).2)
      · exact .inl (below (by simpa using among))
  | tell others under =>
    cases others with
    | nil => exact .inl (below listed)
    | cons call others =>
      have among : calls = others ∨ .tell calls ∈ rest := by simpa [advance] using listed
      rcases among with rfl | among
      · refine .inl ⟨call :: calls, ?_, fun _ told => List.mem_cons_of_mem _ told⟩
        rw [stack]
        exact List.mem_cons_self
      · exact .inl (below among)
  | shown name found under => exact .inl (below listed)
  | drain under =>
    cases outbox : session.queue.outbox with
    | nil =>
      rw [(shift_drain_nil rest outbox).2] at listed
      exact .inl (below listed)
    | cons notice others =>
      rw [advance_drain_cons outbox] at listed
      have among : calls = callsFor (notice, session.registry.listeners) ∨ .tell calls ∈ rest := by
        simpa using listed
      rcases among with rfl | among
      · refine .inr (.inr ⟨notice, List.mem_cons_self, fun call told => ?_⟩)
        obtain ⟨listener, _, rfl⟩ := List.mem_map.mp told
        rfl
      · exact .inl (below among)
  | @transfer serial _ _ _ message allowance =>
    cases stored : session.transfer? serial with
    | none =>
      rw [advance_read_missing stored] at listed
      exact absurd listed List.not_mem_nil
    | some transfer =>
      cases message with
      | nil =>
        rw [advance_read_nil stored] at listed
        rcases stack_readNext session transfer allowance with rests | ⟨message, left, reads, _⟩
        · rw [rests] at listed
          exact absurd listed List.not_mem_nil
        · rw [reads] at listed
          simp at listed
      | cons signal message =>
        rw [advance_read_cons stored] at listed
        exact absurd listed (tell_follow session transfer signal serial message allowance calls)

/-- Every step tells listeners of nothing but what is known. -/
theorem Sourced.step {deeds : List (Deed users.Listener)} (sourced : Sourced session)
    (pushed : Pushed deeds session) (framed : Framed session)
    (taken : session.step? = some next) : Sourced next := by
  have more := (sound_step taken framed).1.recorded_mono
  refine ⟨?_, ?_⟩
  · intro listener event told
    rw [audible_step taken framed, List.mem_append, Option.mem_toList] at told
    rcases told with before | now
    · exact (sourced.heard listener event before).mono more
    · rw [utterance?] at now
      split at now
      · exact absurd now (by simp)
      · rename_i other told calls rest stack
        obtain ⟨rfl, rfl⟩ := Observation.heard.inj (Option.some.inj now)
        have first : .tell ((other, told) :: calls) ∈ session.stack := by
          rw [stack]
          exact List.mem_cons_self
        exact (sourced.told _ first _ List.mem_cons_self).mono more
      · rename_i signal _ _ _ _
        obtain ⟨_, _, other⟩ := Option.map_eq_some_iff.mp now
        cases signal <;> exact absurd other (by simp [following])
      · split at now
        · exact absurd now (by simp)
        · exact absurd now (by simp)
      · exact absurd now (by simp)
  · intro calls listed call among
    rcases step_cases taken with ⟨frame, rest, stack, rfl⟩ | ⟨job, ready, stack, jobs, rfl⟩
    · rcases tell_advance stack framed listed with ⟨earlier, there, kept⟩ | replayed | handed
      · exact (sourced.told earlier there call (kept call among)).mono more
      · exact .inl (replayed call among)
      · obtain ⟨notice, waits, events⟩ := handed
        exact .inr ⟨notice, more.subset (pushed.recorded_of_outbox waits), (events call among).symm⟩
    · have quiet : ({ session with ready } : Session users).stack = [] := stack
      rcases stack_run quiet job with rests | ⟨serial, _, reads, _⟩
      · rw [rests] at listed
        exact absurd listed List.not_mem_nil
      · rw [reads] at listed
        simp at listed

/-- In every run listeners are told of nothing but what is known. -/
theorem Run.sourced {state : users.State} {past : History users}
    (run : Run (.new state) past session) : Sourced session := by
  induction run with
  | refl => exact ⟨fun _ _ told => absurd told List.not_mem_nil,
      fun _ listed => absurd listed List.not_mem_nil⟩
  | step before taken ih => exact ih.step before.pushed (before.framed (framed_new state)) taken
  | @input past session next before input ih =>
    have more := (sound_input input (before.framed (framed_new state))).1.recorded_mono
    refine ⟨?_, ?_⟩
    · intro listener event told
      rw [audible_input input] at told
      exact (ih.heard listener event told).mono more
    · intro calls listed call among
      cases input with
      | begin quiet script =>
        have there : .tell calls ∈ session.stack := by simpa [Session.begin] using listed
        exact (ih.told calls there call among).mono more
      | arrive serial message =>
        rw [stack_arrive] at listed
        exact (ih.told calls listed call among).mono more

end Session

end Sailplane.Download
