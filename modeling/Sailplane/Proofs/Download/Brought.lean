import Sailplane.Proofs.Download.Audible
import Sailplane.Proofs.Download.Told

/-!
# What requests bring

The document that a request has brought is the last one that its transfer has put into a slot. Only
a request that waits, or was taken away, brings anything more, so what a complete request has
brought stays as it is.
-/
namespace Sailplane.Download

/-- The document that a signal brings. -/
def Signal.document? : Signal → Option Json
  | fill (.document document) => some document
  | _ => none

/-- The document that a transfer for a request is seen to bring. -/
def Observation.brings? {Listener Note : Type} (entry : Entry) :
    Observation Listener Note → Option Json
  | followed launch signal => if launch.entry = entry then signal.document? else none
  | _ => none

namespace Session

variable {users : Users} {session reached : Session users} {state : users.State}
  {past : History users}

/-- The document that a request has brought, if it has brought one. -/
def brought (session : Session users) (entry : Entry) : Option Json :=
  (session.log.filterMap (Observation.brings? entry)).getLast?

/-- What is not said brings no document. -/
theorem brings_unheard (entry : Entry) (observation : Observation users.Listener users.Note)
    (unheard : observation.isAudible = false) : observation.brings? entry = none := by
  cases observation with
  | followed launch signal => exact Bool.noConfusion unheard
  | _ => rfl

/-- A transfer that follows a signal brings what the signal does. -/
theorem brings_following (transfer : Transfer) (signal : Signal) (entry : Entry) :
    (following transfer signal : Observation users.Listener users.Note).brings? entry =
      if transfer.entry = entry then signal.document? else none := by
  cases signal with
  | finish failure => exact (ite_self none).symm
  | _ => rfl

/-- After a step a request has brought what the step brings, or else what it had brought before. -/
theorem brought_step (taken : session.step? = some reached) (framed : Framed session)
    (entry : Entry) : reached.brought entry =
      (session.utterance?.bind (Observation.brings? entry)).or (session.brought entry) := by
  rw [brought, said_step _ (brings_unheard entry) taken framed]
  cases session.utterance? with
  | none =>
    rw [Option.toList_none, List.filterMap_nil, List.append_nil]
    rfl
  | some observation =>
    rw [Option.toList_some, Option.bind_some]
    cases brings : observation.brings? entry with
    | none =>
      rw [List.filterMap_cons_none brings, List.filterMap_nil, List.append_nil]
      rfl
    | some document =>
      rw [List.filterMap_cons_some brings, List.filterMap_nil, List.getLast?_concat]
      rfl

/-- A transfer that is about to follow a signal runs. -/
theorem fetching_of_followed {launch : Launch} {signal : Signal}
    (said : session.utterance? = some (.followed launch signal)) (framed : Framed session) :
    ∃ transfer ∈ session.tasks, transfer.entry = launch.entry ∧ transfer.phase = .fetching := by
  rw [utterance?] at said
  split at said
  · exact absurd said (by simp)
  · exact absurd said (by simp)
  · rename_i _ first _ _ _ stack
    obtain ⟨transfer, stored, same⟩ := Option.map_eq_some_iff.mp said
    have for_ : transfer.entry = launch.entry := by
      cases first with
      | finish failure => exact absurd same (by simp [following])
      | _ => exact congrArg Launch.entry (Observation.followed.inj same).1
    have nested := framed.nested
    rw [stack] at nested
    generalize session.queue.delivering = delivering at nested
    cases nested with
    | transfer found fetching =>
      rw [taskAt_tasks, stored, Option.map_some, Option.some.injEq] at found
      subst found
      exact ⟨_, List.mem_map_of_mem (List.mem_of_find?_eq_some stored), for_, fetching⟩
  · split at said
    · exact absurd said (by simp)
    · exact absurd said (by simp)
  · exact absurd said (by simp)

/-- What a transfer is about to end with is the end it follows. -/
theorem ending_of_result {observation : Observation users.Listener users.Note} {entry : Entry}
    {failure : Option Failure} (said : session.utterance? = some observation)
    (result : observation.result? = some (entry, failure)) :
    ∃ serial message allowance rest transfer,
      session.stack = .transfer serial (.finish failure :: message) allowance :: rest ∧
        session.transfer? serial = some transfer ∧ transfer.entry = entry := by
  rw [utterance?] at said
  split at said
  · obtain rfl := Option.some.inj said
    exact absurd result (by simp [Observation.result?])
  · obtain rfl := Option.some.inj said
    exact absurd result (by simp [Observation.result?])
  · rename_i serial first message allowance rest stack
    obtain ⟨transfer, stored, rfl⟩ := Option.map_eq_some_iff.mp said
    cases first with
    | finish failure =>
      obtain ⟨rfl, rfl⟩ := Prod.mk.inj (Option.some.inj result)
      exact ⟨serial, message, allowance, rest, transfer, stack, stored, rfl⟩
    | _ => exact absurd result (by simp [following, Observation.result?])
  · split at said
    · obtain rfl := Option.some.inj said
      exact absurd result (by simp [Observation.result?])
    · exact absurd said (by simp)
  · exact absurd said (by simp)

/-- A request whose transfer runs was queued and is not complete. -/
theorem Run.incomplete_of_fetching (run : Run (.new state) past session) {transfer : Transfer}
    (listed : transfer ∈ session.tasks) (fetching : transfer.phase = .fetching) :
    transfer.entry ∈ enqueued past.deeds ∧ .complete transfer.entry ∉ session.recorded := by
  have balanced := run.booked.balanced
  have steady := run.booked.orderly.steady
  have told : .complete transfer.entry ∈ session.recorded →
      transfer.entry ∉ cancelled past.deeds ∧ transfer.entry ∉ dropped past.deeds :=
    fun complete => ((balanced.reported transfer.entry none).mp complete).2
  -- A stopped transfer's request was cancelled or taken away; that of any other still waits.
  cases stopped : transfer.stopped with
  | true =>
    rcases run.booked.excused transfer listed stopped with cancelled | dropped
    · have noted := (balanced.withdrawn transfer.entry).mpr cancelled
      exact ⟨balanced.known _ noted, fun complete => (told complete).1 cancelled⟩
    · exact ⟨(balanced.gone _ dropped).1, fun complete => (told complete).2 dropped⟩
  | false =>
    have pending : transfer.phase ≠ .closed := by
      rw [fetching]
      exact Phase.noConfusion
    have runs := steady.active_of_kept listed stopped pending
    have waits := List.mem_of_head? (steady.running listed runs).2.2.2
    refine ⟨(balanced.mem_queue.mp waits).1, fun complete => ?_⟩
    exact Bool.noConfusion (balanced.not_terminal waits complete rfl)

/-- A step that brings something does so for a request that was queued and is not complete. -/
theorem Run.brings (run : Run (.new state) past session) {entry : Entry} {document : Json}
    (brings : session.utterance?.bind (Observation.brings? entry) = some document) :
    entry ∈ enqueued past.deeds ∧ .complete entry ∉ session.recorded := by
  obtain ⟨observation, said, brings⟩ := Option.bind_eq_some_iff.mp brings
  unfold Observation.brings? at brings
  split at brings
  · split at brings
    · rename_i same
      obtain ⟨transfer, listed, for_, fetching⟩ :=
        fetching_of_followed said (run.framed (framed_new state))
      rw [← same, ← for_]
      exact run.incomplete_of_fetching listed fetching
    · exact absurd brings (by simp)
  · exact absurd brings (by simp)

/-- In every run only requests that were queued have brought anything. -/
theorem Run.brought_queued (run : Run (.new state) past session) {entry : Entry}
    {document : Json} (brought : session.brought entry = some document) :
    entry ∈ enqueued past.deeds := by
  induction run with
  | refl => exact absurd brought (by simp [Session.brought, new])
  | @step past session next before taken ih =>
    have earlier : entry ∈ enqueued past.deeds := by
      rw [brought_step taken (before.framed (framed_new state)), Option.or_eq_some_iff] at brought
      rcases brought with now | ⟨_, then_⟩
      · exact (before.brings now).1
      · exact ih then_
    rw [deeds_append]
    exact (enqueued_mono _ _).subset earlier
  | input before input ih =>
    rw [Session.brought, said_input _ input] at brought
    exact ih brought

/-- What a complete request has brought stays as it is. -/
theorem Run.brought_kept (run : Run (.new state) past session)
    (taken : session.step? = some reached) {entry : Entry}
    (complete : .complete entry ∈ session.recorded) :
    reached.brought entry = session.brought entry := by
  rw [brought_step taken (run.framed (framed_new state))]
  cases brings : session.utterance?.bind (Observation.brings? entry) with
  | none => rfl
  | some document => exact absurd complete (run.brings brings).2

end Session

end Sailplane.Download
