import Mathlib.Data.List.Induction
import Mathlib.Data.List.Infix
import Sailplane.Download.Event
import Sailplane.Download.Registry

/-!
# Registrations

Listeners are registered, taken away and notified in any order, and whoever is called may register
and take away again, at will. What is done and answered is kept in a log, and from the log alone one
can tell who is called: a notification goes to the registrations that were made before it began and
not taken away since, to each once and in the order in which they were made, whatever is done
meanwhile.
-/
namespace Sailplane.Download.Registry

variable {α : Type}

/-! ## What is done with a registry -/

/-- Something that was done with a registry, with the answer. -/
inductive Mark (α : Type) where
  /-- A listener was registered under a number. -/
  | added (number : Nat) (listener : α)
  /-- A registration was to be taken away; whether it was there. -/
  | removed (number : Nat) (found : Bool)
  /-- A notification began. -/
  | announced (event : Event)
  /-- A listener was called. -/
  | heard (listener : α) (event : Event)

namespace Mark

/-- The registration that was made. -/
def added? : Mark α → Option (Nat × α)
  | added number listener => some (number, listener)
  | _ => none

/-- The call that was made. -/
def heard? : Mark α → Option (α × Event)
  | heard listener event => some (listener, event)
  | _ => none

end Mark

/-- Changes of a registry, one after the other; each may depend on the answers before it. -/
inductive Reaction (α : Type) where
  /-- No more changes. -/
  | done
  /-- Register a listener. -/
  | add (listener : α) (next : Nat → Reaction α)
  /-- Take a registration away. -/
  | remove (number : Nat) (next : Bool → Reaction α)

/-- What listeners do when they are called; it may depend on all that has happened. -/
abbrev Conduct (α : Type) : Type := α → Event → List (Mark α) → Reaction α

/-- What is done with a registry while no notification is under way. -/
inductive Act (α : Type) where
  /-- Make some changes. -/
  | change (reaction : Reaction α)
  /-- Notify all who are registered. -/
  | notify (event : Event)

/-- Make changes, and keep a log. -/
def Reaction.run : Reaction α → List (Mark α) × Registry α → List (Mark α) × Registry α
  | done, reached => reached
  | add listener next, (log, registry) =>
    let (number, registry) := registry.add listener
    (next number).run (log ++ [.added number listener], registry)
  | remove number next, (log, registry) =>
    let (found, registry) := registry.remove number
    (next found).run (log ++ [.removed number found], registry)

/-- Call a listener. -/
def call (conduct : Conduct α) (event : Event) (listener : α) :
    List (Mark α) × Registry α → List (Mark α) × Registry α
  | (log, registry) =>
    (conduct listener event log).run (log ++ [.heard listener event], registry)

/-- Do something with a registry. -/
def perform (conduct : Conduct α) (reached : List (Mark α) × Registry α) :
    Act α → List (Mark α) × Registry α
  | .change reaction => reaction.run reached
  | .notify event => reached.2.notify (call conduct event) (reached.1 ++ [.announced event])

/-- Do one thing after the other with a registry that is empty at first. -/
def chronicle (conduct : Conduct α) (acts : List (Act α)) : List (Mark α) × Registry α :=
  acts.foldl (perform conduct) ([], .empty)

/-! ## Registrations in force -/

/-- Whether a registration was made and not taken away since. -/
def Stands (log : List (Mark α)) (number : Nat) (listener : α) : Prop :=
  ∃ before since, log = before ++ .added number listener :: since ∧
    ∀ found, .removed number found ∉ since

/-- Whether these are the registrations that were made and not taken away since, in the order in
which they were made. -/
structure InForce (log : List (Mark α)) (entries : List (Nat × α)) : Prop where
  /-- They are in order. -/
  ordered : entries.Pairwise fun first second => first.1 < second.1
  /-- They are those. -/
  mem_iff : ∀ number listener, (number, listener) ∈ entries ↔ Stands log number listener

/-- A registration stands after one thing more if it is made by that, or stood and is not taken away
by it. -/
theorem stands_concat {log : List (Mark α)} {mark : Mark α} {number : Nat} {listener : α} :
    Stands (log ++ [mark]) number listener ↔ mark = .added number listener ∨
      (Stands log number listener ∧ ∀ found, mark ≠ .removed number found) := by
  constructor
  · rintro ⟨before, since, whole, kept⟩
    -- the last thing is the registration itself, or one of those that came since
    rcases List.eq_nil_or_concat since with rfl | ⟨since, last, rfl⟩
    · exact .inl (List.singleton_inj.mp (List.append_inj' whole rfl).2)
    · rw [List.concat_eq_append] at whole kept
      rw [← List.cons_append, ← List.append_assoc] at whole
      obtain ⟨rfl, same⟩ := List.append_inj' whole rfl
      obtain rfl := List.singleton_inj.mp same
      refine .inr ⟨⟨before, since, rfl, fun found listed => ?_⟩, ?_⟩
      · exact kept found (List.mem_append_left _ listed)
      · rintro found rfl
        exact kept found (List.mem_append_right _ List.mem_cons_self)
  · rintro (rfl | ⟨⟨before, since, rfl, kept⟩, other⟩)
    · exact ⟨log, [], rfl, fun _ => List.not_mem_nil⟩
    · refine ⟨before, since ++ [mark], by simp, fun found listed => ?_⟩
      rcases List.mem_append.mp listed with within | last
      · exact kept found within
      · exact other found (List.mem_singleton.mp last).symm

namespace InForce

variable {log : List (Mark α)} {entries : List (Nat × α)}

/-- What is in force is the same after something that neither makes nor takes away a
registration. -/
theorem aside (inForce : InForce log entries) {mark : Mark α} (unmade : mark.added? = none)
    (untaken : ∀ number found, mark ≠ .removed number found) : InForce (log ++ [mark]) entries := by
  refine ⟨inForce.ordered, fun number listener => ?_⟩
  rw [inForce.mem_iff, stands_concat]
  constructor
  · exact fun stands => .inr ⟨stands, untaken number⟩
  · rintro (rfl | ⟨stands, -⟩)
    · exact nomatch unmade
    · exact stands

/-- Who is registered under a higher number than all others comes last among those in force. -/
theorem added (inForce : InForce log entries) {next : Nat}
    (below : ∀ entry ∈ entries, entry.1 < next) (listener : α) :
    InForce (log ++ [.added next listener]) (entries ++ [(next, listener)]) := by
  refine ⟨List.pairwise_append.mpr ⟨inForce.ordered, List.pairwise_singleton _ _, ?_⟩,
    fun number other => ?_⟩
  · intro entry listed last same
    rw [List.mem_singleton.mp same]
    exact below entry listed
  · rw [List.mem_append, inForce.mem_iff, stands_concat, List.mem_singleton, Mark.added.injEq,
      Prod.mk.injEq, eq_comm (a := number), eq_comm (a := other), or_comm]
    -- a registration takes nothing away
    simp

/-- Who is taken away is no longer in force, and the others still are. -/
theorem removed (inForce : InForce log entries) (number : Nat) (found : Bool) :
    InForce (log ++ [.removed number found]) (entries.filter fun entry => entry.1 != number) := by
  refine ⟨inForce.ordered.filter _, fun other listener => ?_⟩
  rw [List.mem_filter, inForce.mem_iff, stands_concat, bne_iff_ne]
  -- a removal registers nobody
  simp [eq_comm]

end InForce

/-- Of registrations in order one at most has a number, so that to take the number away takes away
the first that has it. -/
theorem filter_eq_eraseP {entries : List (Nat × α)}
    (ordered : entries.Pairwise fun first second => first.1 < second.1) (number : Nat) :
    (entries.filter fun entry => entry.1 != number) =
      entries.eraseP fun entry => entry.1 == number := by
  induction entries with
  | nil => rfl
  | cons first rest ih =>
    obtain ⟨before, orderedRest⟩ := List.pairwise_cons.mp ordered
    by_cases same : first.1 = number
    · have others : ∀ entry ∈ rest, (entry.1 != number) = true := fun entry listed =>
        bne_iff_ne.mpr (same ▸ before entry listed).ne'
      rw [List.filter_cons_of_neg (by simp [same]), List.filter_eq_self.mpr others,
        List.eraseP_cons_of_pos (by simp [same])]
    · rw [List.filter_cons_of_pos (by simp [same]), List.eraseP_cons_of_neg (by simp [same]),
        ih orderedRest]

/-! ## One thing more -/

/-- Whether the answer to a removal is right after what has happened, and nothing but the
registration of that number goes. -/
structure Answers (log : List (Mark α)) (number : Nat) (found : Bool) : Prop where
  /-- The registration was there if it was made and not taken away since. -/
  found_iff : found = true ↔ ∃ listener, Stands log number listener
  /-- Of those in force it was taken away, and the others stay as they were. -/
  removes : ∃ registry : Registry α, InForce log registry.registered ∧
    registry.remove number = (found, { registry with
      registered := registry.registered.eraseP fun entry => entry.1 == number })

/-- Whether a log and a registry belong together. -/
structure Kept (log : List (Mark α)) (registry : Registry α) : Prop where
  /-- Registered is who was registered and not taken away since. -/
  inForce : InForce log registry.registered
  /-- Every registration has the number of those before it. -/
  numbered : (log.filterMap Mark.added?).map Prod.fst = List.range registry.next
  /-- All removals were answered rightly. -/
  answered : ∀ earlier number found, earlier ++ [.removed number found] <+: log →
    Answers earlier number found

namespace Kept

variable {log : List (Mark α)} {registry : Registry α}

/-- Nothing has happened, and nobody is registered. -/
theorem empty : Kept ([] : List (Mark α)) (Registry.empty : Registry α) where
  inForce := by
    refine ⟨List.Pairwise.nil, fun number listener => ?_⟩
    refine iff_of_false List.not_mem_nil ?_
    rintro ⟨before, since, whole, -⟩
    simp at whole
  numbered := rfl
  answered earlier number found listed := by simp at listed

/-- Who is registered has a number that was used. -/
theorem below (kept : Kept log registry) : ∀ entry ∈ registry.registered,
    entry.1 < registry.next := by
  rintro ⟨number, listener⟩ registered
  obtain ⟨before, since, rfl, -⟩ := (kept.inForce.mem_iff number listener).mp registered
  have used : number ∈
      ((before ++ .added number listener :: since).filterMap Mark.added?).map Prod.fst := by
    simp [List.filterMap_append, Mark.added?]
  exact List.mem_range.mp (kept.numbered ▸ used)

/-- The answers before stay right; one thing more may be a removal with a right answer. -/
theorem answered_concat (kept : Kept log registry) {mark : Mark α}
    (right : ∀ number found, mark = .removed number found → Answers log number found) :
    ∀ earlier number found, earlier ++ [.removed number found] <+: log ++ [mark] →
      Answers earlier number found := by
  intro earlier number found listed
  rcases List.prefix_concat_iff.mp listed with last | before
  · obtain ⟨rfl, same⟩ := List.append_inj' last rfl
    exact right number found (List.singleton_inj.mp same).symm
  · exact kept.answered earlier number found before

/-- The log and the registry belong together after something that neither makes nor takes away a
registration. -/
theorem aside (kept : Kept log registry) {mark : Mark α} (unmade : mark.added? = none)
    (untaken : ∀ number found, mark ≠ .removed number found) :
    Kept (log ++ [mark]) registry where
  inForce := kept.inForce.aside unmade untaken
  numbered := by simp [List.filterMap_append, unmade, kept.numbered]
  answered := kept.answered_concat fun number found same => absurd same (untaken number found)

/-- They do after a registration. -/
theorem add (kept : Kept log registry) (listener : α) :
    Kept (log ++ [.added registry.next listener]) (registry.add listener).2 where
  inForce := kept.inForce.added kept.below listener
  numbered := by simp [List.filterMap_append, Mark.added?, kept.numbered, Registry.add,
    List.range_succ]
  answered := kept.answered_concat fun _ _ same => nomatch same

/-- A removal is answered rightly. -/
theorem answers (kept : Kept log registry) (number : Nat) :
    Answers log number (registry.remove number).1 where
  found_iff := by
    rw [Registry.remove, List.any_eq_true]
    constructor
    · rintro ⟨⟨other, listener⟩, registered, same⟩
      obtain rfl := beq_iff_eq.mp same
      exact ⟨listener, (kept.inForce.mem_iff other listener).mp registered⟩
    · rintro ⟨listener, stands⟩
      exact ⟨(number, listener), (kept.inForce.mem_iff number listener).mpr stands,
        beq_iff_eq.mpr rfl⟩
  removes := by
    refine ⟨registry, kept.inForce, ?_⟩
    rw [← filter_eq_eraseP kept.inForce.ordered]
    rfl

/-- They belong together after a removal. -/
theorem remove (kept : Kept log registry) (number : Nat) :
    Kept (log ++ [.removed number (registry.remove number).1]) (registry.remove number).2 where
  inForce := kept.inForce.removed number _
  numbered := by simp [List.filterMap_append, Mark.added?, kept.numbered, Registry.remove]
  answered := by
    refine kept.answered_concat fun other found same => ?_
    obtain ⟨rfl, rfl⟩ := Mark.removed.inj same
    exact kept.answers number

end Kept

/-! ## Whole runs -/

/-- Changes keep a log and a registry together. -/
theorem kept_run (reaction : Reaction α) {log : List (Mark α)} {registry : Registry α}
    (kept : Kept log registry) :
    Kept (reaction.run (log, registry)).1 (reaction.run (log, registry)).2 := by
  induction reaction generalizing log registry with
  | done => exact kept
  | add listener next ih => exact ih _ (kept.add listener)
  | remove number next ih => exact ih _ (kept.remove number)

/-- Changes call nobody. -/
theorem unheard_run (reaction : Reaction α) (log : List (Mark α)) (registry : Registry α) :
    ∃ during, (reaction.run (log, registry)).1 = log ++ during ∧
      during.filterMap Mark.heard? = [] := by
  induction reaction generalizing log registry with
  | done => exact ⟨[], (List.append_nil log).symm, rfl⟩
  | add listener next ih =>
    obtain ⟨during, whole, unheard⟩ := ih registry.next _ (registry.add listener).2
    exact ⟨_ :: during, whole.trans (List.append_assoc ..), unheard⟩
  | remove number next ih =>
    obtain ⟨during, whole, unheard⟩ := ih (registry.remove number).1 _ (registry.remove number).2
    exact ⟨_ :: during, whole.trans (List.append_assoc ..), unheard⟩

section

variable (conduct : Conduct α) (event : Event)

/-- Calls keep a log and a registry together, whatever the listeners do. -/
theorem kept_calls (listeners : List α) {reached : List (Mark α) × Registry α}
    (kept : Kept reached.1 reached.2) :
    let after := listeners.foldl (fun state listener => call conduct event listener state) reached
    Kept after.1 after.2 := by
  induction listeners generalizing reached with
  | nil => exact kept
  | cons listener rest ih =>
    refine ih (kept_run _ (kept.aside rfl fun number found => ?_))
    exact nofun

/-- Calls are made to those that they were meant for, in order, whatever the listeners do. -/
theorem heard_calls (listeners : List α) (reached : List (Mark α) × Registry α) :
    ∃ during,
      (listeners.foldl (fun state listener => call conduct event listener state) reached).1 =
        reached.1 ++ during ∧
      during.filterMap Mark.heard? = listeners.map fun listener => (listener, event) := by
  induction listeners generalizing reached with
  | nil => exact ⟨[], (List.append_nil _).symm, rfl⟩
  | cons listener rest ih =>
    obtain ⟨meanwhile, called, unheard⟩ := unheard_run (conduct listener event reached.1)
      (reached.1 ++ [.heard listener event]) reached.2
    obtain ⟨after, whole, others⟩ := ih (call conduct event listener reached)
    refine ⟨.heard listener event :: (meanwhile ++ after), ?_, ?_⟩
    · -- what the first call left behind is where the others begin
      rw [List.foldl_cons, whole, call, called]
      simp
    · simp [Mark.heard?, List.filterMap_append, unheard, others]

end

/-- Whatever is done, the log and the registry belong together. -/
theorem kept_chronicle (conduct : Conduct α) (acts : List (Act α)) :
    Kept (chronicle conduct acts).1 (chronicle conduct acts).2 := by
  induction acts using List.reverseRecOn with
  | nil => exact Kept.empty
  | append_singleton acts act ih =>
    rw [chronicle, List.foldl_concat]
    cases act with
    | change reaction => exact kept_run reaction ih
    | notify event => exact kept_calls conduct event _ (ih.aside rfl fun _ _ => nofun)

/-- The calls that something done has to make: a notification calls all who are registered when it
begins, once for each registration and in order. -/
def Act.due (registry : Registry α) : Act α → List (α × Event)
  | change _ => []
  | notify event => registry.registered.map fun entry => (entry.2, event)

/-- Whatever is done with a registry, and whatever the listeners do when they are called: registered
is who was registered and not taken away since, in order, with a number that no other had; a removal
is answered by whether it took one away, and takes no other away; and what is done next calls those
who are registered before it, and nobody else. -/
theorem calls_those_in_force (conduct : Conduct α) (acts : List (Act α)) :
    Kept (chronicle conduct acts).1 (chronicle conduct acts).2 ∧
    ∀ act, ∃ during,
      (chronicle conduct (acts ++ [act])).1 = (chronicle conduct acts).1 ++ during ∧
      during.filterMap Mark.heard? = act.due (chronicle conduct acts).2 := by
  refine ⟨kept_chronicle conduct acts, fun act => ?_⟩
  rw [chronicle, List.foldl_concat, ← chronicle]
  generalize chronicle conduct acts = reached
  cases act with
  | change reaction => exact unheard_run reaction reached.1 reached.2
  | notify event =>
    obtain ⟨during, whole, heard⟩ := heard_calls conduct event reached.2.listeners
      (reached.1 ++ [.announced event], reached.2)
    refine ⟨.announced event :: during, whole.trans (List.append_assoc ..), ?_⟩
    exact heard.trans (List.map_map ..)

/-- Who takes itself away when called is called once. -/
example :
    let conduct : Conduct Bool := fun once _ _ => if once then .remove 0 fun _ => .done else .done
    let event := Event.complete "a"
    (chronicle conduct [.change (.add true fun _ => .add false fun _ => .done), .notify event,
      .notify event]).1.filterMap Mark.heard? = [(true, event), (false, event), (false, event)] :=
  rfl

end Sailplane.Download.Registry
