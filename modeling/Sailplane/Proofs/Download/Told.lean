import Sailplane.Proofs.Download.ByName

/-!
# What a listener knows

A listener has been told of all notices that were handed out but perhaps the last one. If it takes
the requests of some names to be its own, then whenever it is told that one of them is over, that is
the first request of its name of which it did not yet know.
-/
namespace Sailplane.Download

/-- The requests that were ever queued stay queued. -/
theorem enqueued_mono {Listener : Type} (deeds more : List (Deed Listener)) :
    enqueued deeds <+: enqueued (deeds ++ more) := by
  rw [enqueued, enqueued, List.filterMap_append, List.mapIdx_append]
  exact List.prefix_append _ _

section Known

variable {Listener : Type} {who : Listener → Bool}

/-- The notices of which certain listeners were told: those that were handed out, but not the last
one while one of them is still to be told of it. -/
def reached (who : Listener → Bool) (deeds : List (Deed Listener))
    (due : List (Listener × Event)) : List Notice :=
  if (due.any fun call => who call.1) = true then ((handedOut deeds).map (·.1)).dropLast
  else (handedOut deeds).map (·.1)

/-- The requests of some names of which it is not known that they are over, in order. -/
def awaited (mine : String → Bool) (requests : List Entry) (told : List Notice) : List Entry :=
  requests.filter fun entry => mine entry.name && decide (entry ∉ ended told)

/-- The request of some names that a notice tells to be complete. -/
def Notice.completed? (mine : String → Bool) : Notice → Option Entry
  | .complete entry => if mine entry.name = true then some entry else none
  | _ => none

/-- The requests of some names of which it is known that they are complete, in order. -/
def completed (mine : String → Bool) (told : List Notice) : List Entry :=
  told.filterMap (Notice.completed? mine)

/-- A request that is known to be complete was told to be. -/
theorem complete_of_completed {mine : String → Bool} {told : List Notice} {entry : Entry}
    (listed : entry ∈ completed mine told) : .complete entry ∈ told := by
  obtain ⟨notice, among, tells⟩ := List.mem_filterMap.mp listed
  cases notice with
  | complete other =>
    rw [Notice.completed?] at tells
    split at tells
    · exact Option.some.inj tells ▸ among
    · exact absurd tells (by simp)
  | _ => exact absurd tells (by simp [Notice.completed?])

/-- While nobody is to be told of a notice all know of those that were handed out. -/
theorem reached_settled {deeds : List (Deed Listener)} {due : List (Listener × Event)}
    (none : ∀ call ∈ due, who call.1 = false) :
    reached who deeds due = (handedOut deeds).map (·.1) := by
  rw [reached, if_neg]
  rw [List.any_eq_true]
  rintro ⟨call, listed, same⟩
  rw [none call listed] at same
  exact Bool.false_ne_true same

/-- While somebody is to be told of the last notice it is not known. -/
theorem reached_last {deeds : List (Deed Listener)} {due : List (Listener × Event)}
    {before : List (Notice × List Listener)} {last : Notice × List Listener}
    (handed : handedOut deeds = before ++ [last]) {call : Listener × Event} (listed : call ∈ due)
    (listens : who call.1 = true) : reached who deeds due = before.map (·.1) := by
  rw [reached, if_pos (List.any_eq_true.mpr ⟨call, listed, listens⟩), handed, List.map_append]
  exact List.dropLast_concat

/-! ## Requests that are awaited -/

variable {mine : String → Bool} {requests : List Entry} {told : List Notice}

/-- A request that is queued is awaited if it is one's own. -/
theorem awaited_concat {entry : Entry} (fresh : entry ∉ ended told) :
    awaited mine (requests ++ [entry]) told =
      awaited mine requests told ++ if mine entry.name = true then [entry] else [] := by
  rw [awaited, List.filter_append]
  congr 1
  cases own : mine entry.name with
  | true => simp [own, fresh]
  | false => simp [own]

/-- A notice about a request of another name, or that a request was queued, leaves what is
awaited. -/
theorem awaited_aside {notice : Notice}
    (aside : mine notice.entry.name = true → notice.isTerminal = false) :
    awaited mine requests (told ++ [notice]) = awaited mine requests told := by
  refine List.filter_congr fun entry listed => ?_
  rw [ended_append]
  cases own : mine entry.name with
  | false => rfl
  | true =>
    rw [Bool.true_and, Bool.true_and, decide_eq_decide, List.mem_append, not_or]
    refine ⟨And.left, fun away => ⟨away, fun last => ?_⟩⟩
    obtain ⟨other, among, terminal, same⟩ := mem_ended.mp last
    rw [List.mem_singleton.mp among] at terminal same
    rw [same, terminal] at aside
    exact Bool.noConfusion (aside own)

/-- When the requests of a name are those that are known to be over, then one, and then others, that
one is the first to be awaited under its name, and when it is known to be over, too, the others are
awaited still. -/
theorem awaited_first {notice : Notice} {after : List Entry} (distinct : requests.Nodup)
    (terminal : notice.isTerminal = true) (own : mine notice.entry.name = true)
    (split : named notice.entry.name requests =
      named notice.entry.name (ended told) ++ notice.entry :: after) :
    ((awaited mine requests told).find? fun entry => entry.name == notice.entry.name) =
        some notice.entry ∧
      awaited mine requests (told ++ [notice]) =
        (awaited mine requests told).eraseP fun entry => entry.name == notice.entry.name := by
  have apart : (named notice.entry.name (ended told) ++ notice.entry :: after).Nodup := by
    rw [← split]
    exact distinct.filter _
  have unknown : notice.entry ∉ ended told := fun known =>
    (List.nodup_middle.mp apart).notMem
      (List.mem_append_left _ (mem_named.mpr ⟨known, rfl⟩))
  have first : ((awaited mine requests told).find? fun entry =>
      entry.name == notice.entry.name) = some notice.entry := by
    have swapped : (awaited mine requests told).filter
        (fun entry => entry.name == notice.entry.name) =
          awaited mine (named notice.entry.name requests) told := by
      rw [awaited, awaited, named, List.filter_filter, List.filter_filter]
      exact List.filter_congr fun entry _ => Bool.and_comm _ _
    have known : awaited mine (named notice.entry.name (ended told)) told = [] := by
      rw [awaited, List.filter_eq_nil_iff]
      intro entry listed
      simp [(mem_named.mp listed).1]
    rw [← List.head?_filter, swapped, split, awaited, List.filter_append, ← awaited, known,
      List.nil_append, List.filter_cons_of_pos (by simp [own, unknown])]
    rfl
  refine ⟨first, ?_⟩
  have once : (awaited mine requests told).Nodup := distinct.filter _
  rw [eraseP_of_find? first, once.erase_eq_filter, awaited, awaited, List.filter_filter,
    ended_append, ended_single terminal]
  refine List.filter_congr fun entry _ => ?_
  by_cases same : entry = notice.entry
  · simp [same]
  · simp [same]

end Known

namespace Session

variable {users : Users} {session : Session users} {state : users.State} {past : History users}

/-- A call that is not to cancel a request is made by a script. -/
theorem script_of_call {operation : Operation users.Listener}
    (call : session.call? = some operation) (other : ∀ name, operation ≠ .cancel name) :
    ∃ next rest, session.stack = .script (.call operation next) :: rest := by
  rw [call?] at call
  split at call
  · rename_i next rest stack
    obtain rfl := Option.some.inj call
    exact ⟨next, rest, stack⟩
  · split at call
    · exact absurd (Option.some.inj call).symm (other _)
    · exact absurd call (by simp)
  · exact absurd call (by simp)

/-- What hands a notice out announces it to those who are registered. -/
theorem announced_of_sent (sent : handedOut session.deed?.toList ≠ []) :
    ∃ notice, session.deed? = some (.announced notice session.registry.listeners) := by
  rw [deed?] at sent ⊢
  split at sent
  · cases outbox : session.queue.outbox with
    | nil =>
      rw [outbox] at sent
      exact absurd rfl sent
    | cons notice others => exact ⟨notice, rfl⟩
  · exact absurd rfl sent
  · exact absurd (told_asked session).2 sent

/-- In every run those who are still to be told are to be told of the notice that was handed out
last. -/
theorem Run.due_last (run : Run (.new state) past session) :
    session.due = [] ∨ ∃ before notice listeners,
      handedOut past.deeds = before ++ [(notice, listeners)] ∧
        session.due <:+ callsFor (notice, listeners) := by
  induction run with
  | refl => exact .inl rfl
  | @step past session next before taken ih =>
    have framed := before.framed (framed_new state)
    have settles := settles_step taken framed
    rw [deeds_append, handedOut_append]
    -- What is done sets the next notice as the last one, or takes something off what is due.
    by_cases sent : handedOut session.deed?.toList = []
    · have less : next.due <:+ session.due := by
        rw [Settles, sent, List.flatMap_nil, List.append_nil] at settles
        exact ⟨_, settles⟩
      rw [sent, List.append_nil]
      rcases ih with none | ⟨earlier, notice, listeners, handed, some⟩
      · exact .inl (List.suffix_nil.mp (none ▸ less))
      · exact .inr ⟨earlier, notice, listeners, handed, less.trans some⟩
    · obtain ⟨notice, deed⟩ := announced_of_sent sent
      rw [Settles, due_of_announced framed deed, deed] at settles
      rw [deed]
      have due : next.due = callsFor (notice, session.registry.listeners) :=
        settles.trans (List.append_nil _)
      exact .inr ⟨_, notice, _, rfl, due ▸ List.suffix_rfl⟩
  | input before input ih =>
    rw [due_input input]
    exact ih

/-- In every run it is told at most once of every request that it is over. -/
theorem Run.ends_once (run : Run (.new state) past session) {first second : Notice}
    (one : first ∈ session.recorded) (two : second ∈ session.recorded)
    (ends : first.isTerminal = true) (ends' : second.isTerminal = true)
    (same : first.entry = second.entry) : first = second := by
  have balanced := run.booked.balanced
  obtain ⟨last, about, _⟩ := balanced.once _ (balanced.known first one)
  have known {notice : Notice} (listed : notice ∈ session.recorded)
      (terminal : notice.isTerminal = true) (here : notice.entry = first.entry) :
      notice ∈ last := by
    have among : notice ∈ (session.ledger past.deeds).about first.entry :=
      List.mem_filter.mpr ⟨listed, beq_iff_eq.mpr here⟩
    rw [about, List.mem_cons] at among
    rcases among with rfl | among
    · exact Bool.noConfusion terminal
    · exact Option.mem_toList.mp among
  exact Option.some.inj ((known one ends rfl).symm.trans (known two ends' same.symm))

/-- In every run without a shutdown in which certain listeners are told of all notices but the last,
which says that a request of theirs is over, it is the first one they await under its name. -/
theorem Run.first_awaited (run : Run (.new state) past session)
    (undropped : dropped past.deeds = []) {before : List (Notice × List users.Listener)}
    {notice : Notice} {listeners : List users.Listener}
    (handed : handedOut past.deeds = before ++ [(notice, listeners)])
    (terminal : notice.isTerminal = true) {mine : String → Bool}
    (own : mine notice.entry.name = true) :
    ((awaited mine (enqueued past.deeds) (before.map (·.1))).find? fun entry =>
        entry.name == notice.entry.name) = some notice.entry ∧
      awaited mine (enqueued past.deeds) (before.map (·.1) ++ [notice]) =
        (awaited mine (enqueued past.deeds) (before.map (·.1))).eraseP fun entry =>
          entry.name == notice.entry.name := by
  have recorded : session.recorded =
      before.map (·.1) ++ [notice] ++ session.queue.outbox := by
    rw [run.pushed, handed, List.map_append]
    rfl
  have inTurn := run.in_turn undropped notice.entry.name
  rw [recorded, ended_append, ended_append, ended_single terminal, named_append,
    named_append] at inTurn
  have here : named notice.entry.name [notice.entry] = [notice.entry] :=
    List.filter_cons_of_pos (beq_self_eq_true _)
  rw [here, List.append_assoc, List.append_assoc, List.singleton_append] at inTurn
  exact awaited_first run.booked.balanced.distinct terminal own inTurn

end Session

end Sailplane.Download
