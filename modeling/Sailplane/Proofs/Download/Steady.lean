import Mathlib.Data.List.Nodup
import Sailplane.Proofs.Download.Outline

/-!
# What runs

The invariant that ties the transfers and their turns to the queue. It speaks of the requests, the
serial of the transfer that runs, the serial given out last, the transfers and the turns; each
operation on these is shown to keep it. It also holds where a queue has taken its head away and not
yet started the next request.
-/
namespace Sailplane.Download

/-- What the transfers and their turns have to do with the queue. -/
structure Steady (entries : List Entry) (active : Option Nat) (serial : Nat)
    (tasks : List Transfer) (turns : List Nat) : Prop where
  /-- Transfers are numbered from one in the order they were started. -/
  numbered : tasks.map (·.serial) = List.range' 1 serial
  /-- The transfer that runs is the last one, was not stopped, and is for the first request. -/
  current : ∀ running, active = some running → running = serial ∧
    ∃ transfer, taskAt running tasks = some transfer ∧ transfer.stopped = false ∧
      transfer.phase ≠ .closed ∧ entries.head? = some transfer.entry
  /-- Every other transfer was stopped or is over. -/
  settled : ∀ transfer ∈ tasks, active ≠ some transfer.serial →
    transfer.stopped = true ∨ transfer.phase = .closed
  /-- A transfer begins only when all before it are over. -/
  begun : ∀ earlier ∈ tasks, ∀ later ∈ tasks, earlier.serial < later.serial →
    later.phase ≠ .waiting → earlier.phase = .closed
  /-- A transfer that has yet to begin, or to be dropped, has a turn. -/
  ready : ∀ transfer ∈ tasks, transfer.phase ≠ .closed →
    transfer.phase = .waiting ∨ transfer.stopped = true → transfer.serial ∈ turns
  /-- Turns come in the order of the serials. -/
  sorted : turns.Pairwise (· < ·)
  /-- There are no turns of transfers that were not started. -/
  bounded : ∀ turn ∈ turns, turn ≤ serial

/-- A member of a changed list of transfers comes from one that was changed or not. -/
theorem mem_changeAt {serial : Nat} {change : Transfer → Transfer} {tasks : List Transfer}
    {transfer : Transfer} :
    transfer ∈ changeAt serial change tasks ↔
      (∃ other ∈ tasks, other.serial = serial ∧ change other = transfer) ∨
        (transfer ∈ tasks ∧ transfer.serial ≠ serial) := by
  rw [changeAt, List.mem_map]
  constructor
  · rintro ⟨other, listed, rfl⟩
    by_cases same : other.serial = serial
    · rw [if_pos (beq_iff_eq.mpr same)]
      exact .inl ⟨other, listed, same, rfl⟩
    · rw [if_neg (fun equal => same (beq_iff_eq.mp equal))]
      exact .inr ⟨listed, same⟩
  · rintro (⟨other, listed, same, rfl⟩ | ⟨listed, different⟩)
    · exact ⟨other, listed, if_pos (beq_iff_eq.mpr same)⟩
    · exact ⟨transfer, listed, if_neg fun equal => different (beq_iff_eq.mp equal)⟩

/-- A change that keeps serials keeps the numbering. -/
theorem serials_changeAt (serial : Nat) (change : Transfer → Transfer) (tasks : List Transfer)
    (kept : ∀ transfer, (change transfer).serial = transfer.serial) :
    (changeAt serial change tasks).map (·.serial) = tasks.map (·.serial) := by
  rw [changeAt, List.map_map]
  apply List.map_congr_left
  intro transfer _
  rw [Function.comp_apply]
  split
  · exact kept transfer
  · rfl

/-- A serial that becomes ready has a turn, and the others keep theirs. -/
theorem mem_enlist {serial turn : Nat} {turns : List Nat} :
    turn ∈ enlist serial turns ↔ turn = serial ∨ turn ∈ turns := by
  rw [enlist]
  split
  · rename_i listed
    exact ⟨.inr, fun either => either.elim (fun same => same ▸ listed) id⟩
  · rw [List.mem_append, List.mem_singleton, or_comm]

namespace Steady

variable {entries others : List Entry} {active : Option Nat} {serial : Nat}
  {tasks : List Transfer} {turns : List Nat}

/-- In the beginning there are neither requests nor transfers. -/
theorem initial : Steady [] none 0 [] [] where
  numbered := rfl
  current := fun _ running => absurd running (by simp)
  settled := fun _ listed => absurd listed List.not_mem_nil
  begun := fun _ listed => absurd listed List.not_mem_nil
  ready := fun _ listed => absurd listed List.not_mem_nil
  sorted := .nil
  bounded := fun _ listed => absurd listed List.not_mem_nil

/-! ## What follows -/

/-- Every transfer is found by its serial. -/
theorem found (steady : Steady entries active serial tasks turns) {transfer : Transfer}
    (listed : transfer ∈ tasks) : taskAt transfer.serial tasks = some transfer := by
  have distinct : (tasks.map (·.serial)).Nodup := by
    rw [steady.numbered]
    exact List.nodup_range'
  have there : (taskAt transfer.serial tasks).isSome = true := by
    rw [taskAt, List.find?_isSome]
    exact ⟨transfer, listed, beq_self_eq_true _⟩
  obtain ⟨other, found⟩ := Option.isSome_iff_exists.mp there
  obtain ⟨among, same⟩ := mem_of_taskAt found
  rw [found, List.inj_on_of_nodup_map distinct among listed same]

/-- Transfers of one serial are the same. -/
theorem unique (steady : Steady entries active serial tasks turns) {first second : Transfer}
    (one : first ∈ tasks) (two : second ∈ tasks) (same : first.serial = second.serial) :
    first = second := by
  have found := steady.found one
  rw [same, steady.found two] at found
  exact (Option.some.inj found).symm

/-- No transfer has a serial beyond the last one. -/
theorem serial_le (steady : Steady entries active serial tasks turns) {transfer : Transfer}
    (listed : transfer ∈ tasks) : transfer.serial ≤ serial := by
  have numbered : transfer.serial ∈ tasks.map (·.serial) := List.mem_map_of_mem listed
  rw [steady.numbered, List.mem_range'_1] at numbered
  omega

/-- A transfer that runs for the queue was not stopped, is not over, and is for the first
request. -/
theorem running (steady : Steady entries active serial tasks turns) {transfer : Transfer}
    (listed : transfer ∈ tasks) (runs : active = some transfer.serial) :
    transfer.serial = serial ∧ transfer.stopped = false ∧ transfer.phase ≠ .closed ∧
      entries.head? = some transfer.entry := by
  obtain ⟨last, other, found, kept, pending, head⟩ := steady.current _ runs
  obtain rfl := Option.some.inj ((steady.found listed).symm.trans found)
  exact ⟨last, kept, pending, head⟩

/-- A transfer that was not stopped and is not over is the one that runs. -/
theorem active_of_kept (steady : Steady entries active serial tasks turns) {transfer : Transfer}
    (listed : transfer ∈ tasks) (kept : transfer.stopped = false)
    (pending : transfer.phase ≠ .closed) : active = some transfer.serial := by
  by_contra other
  rcases steady.settled transfer listed other with stopped | closed
  · rw [kept] at stopped
    exact Bool.noConfusion stopped
  · exact pending closed

/-- At most one transfer is under way. -/
theorem single (steady : Steady entries active serial tasks turns) {first second : Transfer}
    (one : first ∈ tasks) (two : second ∈ tasks) (firstRuns : first.phase = .fetching)
    (secondRuns : second.phase = .fetching) : first = second := by
  rcases Nat.lt_trichotomy first.serial second.serial with less | same | greater
  · have closed := steady.begun first one second two less (by rw [secondRuns]; decide)
    rw [firstRuns] at closed
    exact Phase.noConfusion closed
  · exact steady.unique one two same
  · have closed := steady.begun second two first one greater (by rw [firstRuns]; decide)
    rw [secondRuns] at closed
    exact Phase.noConfusion closed

/-- When a transfer's turn has come, all transfers before it are over. -/
theorem closed_before_turn (steady : Steady entries active serial tasks turns)
    {transfer earlier : Transfer} {rest : List Nat} (turn : turns = transfer.serial :: rest)
    (listed : transfer ∈ tasks) (before : earlier ∈ tasks)
    (less : earlier.serial < transfer.serial) : earlier.phase = .closed := by
  by_contra pending
  have inactive : active ≠ some earlier.serial := by
    intro runs
    have last := (steady.running before runs).1
    have bound := steady.serial_le listed
    omega
  have stopped : earlier.stopped = true :=
    (steady.settled earlier before inactive).resolve_right pending
  have waits := steady.ready earlier before pending (.inr stopped)
  have sorted := steady.sorted
  rw [turn, List.pairwise_cons] at sorted
  rw [turn, List.mem_cons] at waits
  rcases waits with same | later
  · omega
  · have greater := sorted.1 _ later
    omega

/-! ## Operations -/

/-- The requests behind the head may change while it runs. -/
theorem behind (steady : Steady entries active serial tasks turns)
    (head : active ≠ none → others.head? = entries.head?) :
    Steady others active serial tasks turns where
  numbered := steady.numbered
  current := by
    intro running runs
    rw [head (by rw [runs]; exact Option.some_ne_none _)]
    exact steady.current running runs
  settled := steady.settled
  begun := steady.begun
  ready := steady.ready
  sorted := steady.sorted
  bounded := steady.bounded

/-- A transfer that is not over may be given a turn. -/
theorem wake (steady : Steady entries active serial tasks turns) {transfer : Transfer}
    (listed : transfer ∈ tasks) (pending : transfer.phase ≠ .closed) :
    Steady entries active serial tasks (enlist transfer.serial turns) where
  numbered := steady.numbered
  current := steady.current
  settled := steady.settled
  begun := steady.begun
  ready := fun other among unclosed waits =>
    mem_enlist.mpr (.inr (steady.ready other among unclosed waits))
  sorted := by
    rw [enlist]
    split
    · exact steady.sorted
    · rename_i absent
      have kept : transfer.stopped = false := by
        by_contra stopped
        rw [Bool.not_eq_false] at stopped
        exact absent (steady.ready transfer listed pending (.inr stopped))
      have last := (steady.running listed (steady.active_of_kept listed kept pending)).1
      rw [List.pairwise_append]
      refine ⟨steady.sorted, List.pairwise_singleton _ _, ?_⟩
      intro turn early other single
      rw [List.mem_singleton.mp single]
      have bound := steady.bounded turn early
      have different : turn ≠ transfer.serial := fun same => absent (same ▸ early)
      omega
  bounded := by
    intro turn either
    rcases mem_enlist.mp either with rfl | early
    · exact steady.serial_le listed
    · exact steady.bounded turn early

/-- The transfer that runs may be stopped, whatever becomes of the requests. -/
theorem stop (steady : Steady entries (some serial) serial tasks turns) (others : List Entry) :
    Steady others none serial (changeAt serial .stop tasks) (enlist serial turns) := by
  obtain ⟨_, transfer, found, kept, pending, _⟩ := steady.current serial rfl
  obtain ⟨listed, same⟩ := mem_of_taskAt found
  have woken := steady.wake listed pending
  rw [same] at woken
  refine ⟨?_, fun _ runs => absurd runs (by simp), ?_, ?_, ?_, woken.sorted, woken.bounded⟩
  · rw [serials_changeAt serial .stop tasks fun _ => rfl]
    exact steady.numbered
  · intro other among _
    rcases mem_changeAt.mp among with ⟨_, _, _, rfl⟩ | ⟨there, different⟩
    · exact .inl rfl
    · exact steady.settled other there fun runs => different (Option.some.inj runs).symm
  · have phases : ∀ other ∈ changeAt serial .stop tasks, ∃ origin ∈ tasks,
        other.serial = origin.serial ∧ other.phase = origin.phase := by
      intro other among
      rcases mem_changeAt.mp among with ⟨origin, there, _, rfl⟩ | ⟨there, _⟩
      · exact ⟨origin, there, rfl, rfl⟩
      · exact ⟨other, there, rfl, rfl⟩
    intro earlier before later after less started
    obtain ⟨first, one, firstSerial, firstPhase⟩ := phases earlier before
    obtain ⟨second, two, secondSerial, secondPhase⟩ := phases later after
    rw [firstSerial, secondSerial] at less
    rw [secondPhase] at started
    rw [firstPhase]
    exact steady.begun first one second two less started
  · intro other among unclosed waits
    rcases mem_changeAt.mp among with ⟨origin, _, origin_serial, rfl⟩ | ⟨there, _⟩
    · exact mem_enlist.mpr (.inl origin_serial)
    · exact mem_enlist.mpr (.inr (steady.ready other there unclosed waits))

/-- A transfer may be over when all before it are, and then no longer runs for the queue. -/
theorem close (steady : Steady entries active serial tasks turns) {transfer : Transfer}
    {remaining : Option Nat}
    (before : ∀ earlier ∈ tasks, earlier.serial < transfer.serial → earlier.phase = .closed)
    (left : ∀ running, remaining = some running ↔
      active = some running ∧ running ≠ transfer.serial) :
    Steady entries remaining serial (changeAt transfer.serial .close tasks) turns where
  numbered := by
    rw [serials_changeAt transfer.serial .close tasks fun _ => rfl]
    exact steady.numbered
  current := by
    intro running runs
    obtain ⟨ran, different⟩ := (left running).mp runs
    obtain ⟨last, other, found, kept, pending, head⟩ := steady.current running ran
    have same := (mem_of_taskAt found).2
    refine ⟨last, other, ?_, kept, pending, head⟩
    rw [taskAt_changeAt transfer.serial running .close tasks fun _ => rfl, found, Option.map_some]
    rw [if_neg fun equal => different (same.symm.trans (beq_iff_eq.mp equal))]
  settled := by
    intro other among inactive
    rcases mem_changeAt.mp among with ⟨_, _, _, rfl⟩ | ⟨there, different⟩
    · exact .inr rfl
    · exact steady.settled other there fun runs => inactive ((left _).mpr ⟨runs, different⟩)
  begun := by
    intro earlier one later two less started
    rcases mem_changeAt.mp one with ⟨_, _, _, rfl⟩ | ⟨first, _⟩
    · rfl
    · rcases mem_changeAt.mp two with ⟨origin, _, same, rfl⟩ | ⟨second, _⟩
      · exact before earlier first (by rw [← same]; exact less)
      · exact steady.begun earlier first later second less started
  ready := by
    intro other among pending waits
    rcases mem_changeAt.mp among with ⟨_, _, _, rfl⟩ | ⟨there, _⟩
    · exact absurd rfl pending
    · exact steady.ready other there pending waits
  sorted := steady.sorted
  bounded := steady.bounded

/-- The turn of a transfer passes if that has neither to begin nor to be dropped. -/
theorem pass (steady : Steady entries active serial tasks turns) {turn : Nat} {rest : List Nat}
    (first : turns = turn :: rest)
    (idle : ∀ transfer ∈ tasks, transfer.serial = turn → transfer.phase ≠ .closed →
      transfer.phase ≠ .waiting ∧ transfer.stopped = false) :
    Steady entries active serial tasks rest where
  numbered := steady.numbered
  current := steady.current
  settled := steady.settled
  begun := steady.begun
  ready := by
    intro transfer listed pending waits
    have there := steady.ready transfer listed pending waits
    rw [first, List.mem_cons] at there
    refine there.resolve_left fun same => ?_
    obtain ⟨started, kept⟩ := idle transfer listed same pending
    rcases waits with waiting | stopped
    · exact started waiting
    · rw [kept] at stopped
      exact Bool.noConfusion stopped
  sorted := by
    have sorted := steady.sorted
    rw [first, List.pairwise_cons] at sorted
    exact sorted.2
  bounded := fun other later => steady.bounded other (by rw [first]; exact .tail _ later)

/-- A transfer that was not stopped may begin at its turn. -/
theorem enter (steady : Steady entries active serial tasks turns) {transfer : Transfer}
    {rest : List Nat} (listed : transfer ∈ tasks) (turn : turns = transfer.serial :: rest)
    (waiting : transfer.phase = .waiting) (kept : transfer.stopped = false) :
    Steady entries active serial (changeAt transfer.serial .enter tasks) rest := by
  have pending : transfer.phase ≠ .closed := by
    rw [waiting]
    decide
  have runs := steady.active_of_kept listed kept pending
  have last := (steady.running listed runs).1
  have entered : Steady entries active serial (changeAt transfer.serial .enter tasks) turns := by
    refine ⟨?_, ?_, ?_, ?_, ?_, steady.sorted, steady.bounded⟩
    · rw [serials_changeAt transfer.serial .enter tasks fun _ => rfl]
      exact steady.numbered
    · intro running ran
      obtain ⟨final, other, found, unstopped, unclosed, head⟩ := steady.current running ran
      refine ⟨final, if other.serial == transfer.serial then other.enter else other, ?_, ?_⟩
      · rw [taskAt_changeAt transfer.serial running .enter tasks fun _ => rfl, found,
          Option.map_some]
      · split
        · exact ⟨unstopped, fun closed => Phase.noConfusion closed, head⟩
        · exact ⟨unstopped, unclosed, head⟩
    · intro other among inactive
      rcases mem_changeAt.mp among with ⟨origin, _, same, rfl⟩ | ⟨there, _⟩
      · exact absurd (same ▸ runs) inactive
      · exact steady.settled other there inactive
    · intro earlier one later two less started
      rcases mem_changeAt.mp one with ⟨origin, _, same, rfl⟩ | ⟨first, _⟩
      · have bound : later.serial ≤ serial := by
          rcases mem_changeAt.mp two with ⟨other, second, _, rfl⟩ | ⟨second, _⟩
          · exact show other.serial ≤ serial from steady.serial_le second
          · exact steady.serial_le second
        have start : origin.enter.serial = transfer.serial := same
        omega
      · rcases mem_changeAt.mp two with ⟨origin, _, same, rfl⟩ | ⟨second, _⟩
        · exact steady.closed_before_turn turn listed first (by rw [← same]; exact less)
        · exact steady.begun earlier first later second less started
    · intro other among unclosed waits
      rcases mem_changeAt.mp among with ⟨origin, _, same, rfl⟩ | ⟨there, _⟩
      · rw [turn, show origin.enter.serial = transfer.serial from same]
        exact List.mem_cons_self
      · exact steady.ready other there unclosed waits
  refine entered.pass turn ?_
  intro other among same _
  rcases mem_changeAt.mp among with ⟨origin, there, originSerial, rfl⟩ | ⟨_, different⟩
  · rw [steady.unique there listed originSerial]
    exact ⟨fun waits => Phase.noConfusion waits, kept⟩
  · exact absurd same different

/-- When nothing runs, a transfer for the first request may be started. -/
theorem launch {entry : Entry} {rest : List Entry}
    (steady : Steady (entry :: rest) none serial tasks turns) :
    Steady (entry :: rest) (some (serial + 1)) (serial + 1)
      (tasks ++ [(Transfer.new ⟨serial + 1, entry⟩).bare]) (turns ++ [serial + 1]) := by
  have members : ∀ transfer ∈ tasks ++ [(Transfer.new ⟨serial + 1, entry⟩).bare],
      transfer ∈ tasks ∧ transfer.serial ≤ serial ∨
        transfer = (Transfer.new ⟨serial + 1, entry⟩).bare := by
    intro transfer listed
    rcases List.mem_append.mp listed with old | new
    · exact .inl ⟨old, steady.serial_le old⟩
    · exact .inr (List.mem_singleton.mp new)
  refine ⟨?_, ?_, ?_, ?_, ?_, ?_, ?_⟩
  · rw [List.map_append, steady.numbered, List.range'_concat]
    simp [Transfer.bare, Transfer.new, Nat.add_comm]
  · intro running runs
    obtain rfl := Option.some.inj runs
    refine ⟨rfl, (Transfer.new ⟨serial + 1, entry⟩).bare, ?_, rfl, ?_, rfl⟩
    · have absent : taskAt (serial + 1) tasks = none := by
        rw [taskAt, List.find?_eq_none]
        intro transfer listed
        have bound := steady.serial_le listed
        rw [beq_iff_eq]
        omega
      rw [taskAt] at absent ⊢
      rw [List.find?_append, absent, Option.none_or]
      simp [Transfer.bare, Transfer.new]
    · exact fun closed => Phase.noConfusion closed
  · intro transfer listed inactive
    rcases members transfer listed with ⟨old, _⟩ | rfl
    · exact steady.settled transfer old (by simp)
    · exact absurd rfl inactive
  · intro earlier before later after less started
    rcases members later after with ⟨second, bound⟩ | rfl
    · rcases members earlier before with ⟨first, _⟩ | rfl
      · exact steady.begun earlier first later second less started
      · have new : (Transfer.new ⟨serial + 1, entry⟩).bare.serial = serial + 1 := rfl
        omega
    · exact absurd rfl started
  · intro transfer listed pending waits
    rcases members transfer listed with ⟨old, _⟩ | rfl
    · exact List.mem_append_left _ (steady.ready transfer old pending waits)
    · exact List.mem_append_right _ (List.mem_singleton.mpr rfl)
  · rw [List.pairwise_append]
    refine ⟨steady.sorted, List.pairwise_singleton _ _, ?_⟩
    intro turn early other single
    have bound := steady.bounded turn early
    rw [List.mem_singleton.mp single]
    omega
  · intro turn either
    rcases List.mem_append.mp either with early | single
    · have bound := steady.bounded turn early
      omega
    · exact Nat.le_of_eq (List.mem_singleton.mp single)

end Steady

end Sailplane.Download
