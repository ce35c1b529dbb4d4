import Sailplane.Proofs.Download.FirstCome
import Sailplane.Proofs.Download.Rounds
import Sailplane.Proofs.Download.Tracking

/-!
# The tracker as a mirror of the queue

A tracker that has listened from the start lists a name exactly if a request of that name is queued
and none of that name has ended since. So it lists the names of the queue as long as no name is
queued twice at a time. Once the first of two requests of a name is over the tracker has lost the
name, though the second one still waits; a tracker that is fed with all that is queued lists it.
-/
namespace Sailplane.Download

/-! ## Requests that are not hidden -/

/-- Whether a request was queued and no request of its name is told to have ended since. -/
def Unhidden (notices : List Notice) (entry : Entry) : Prop :=
  ∃ before later, notices = before ++ .added entry :: later ∧
    ∀ notice ∈ later, notice.entry.name = entry.name → notice.isTerminal = false

/-- A notice more hides the requests of its name if it tells that one is over, and no others. -/
theorem unhidden_concat {notices : List Notice} {notice : Notice} {entry : Entry} :
    Unhidden (notices ++ [notice]) entry ↔ notice = .added entry ∨
      Unhidden notices entry ∧ (notice.entry.name = entry.name → notice.isTerminal = false) := by
  constructor
  · rintro ⟨before, later, split, open_⟩
    rcases List.eq_nil_or_concat later with rfl | ⟨others, last, rfl⟩
    · exact .inl (List.singleton_inj.mp (List.append_inj' split rfl).2)
    · rw [List.concat_eq_append, ← List.cons_append, ← List.append_assoc] at split
      rw [List.concat_eq_append] at open_
      obtain ⟨same, ends⟩ := List.append_inj' split rfl
      obtain rfl := List.singleton_inj.mp ends
      have still : ∀ other ∈ others, other.entry.name = entry.name → other.isTerminal = false :=
        fun other listed => open_ other (List.mem_append_left _ listed)
      exact .inr ⟨⟨before, others, same, still⟩, open_ notice (by simp)⟩
  · rintro (rfl | ⟨⟨before, later, split, open_⟩, last⟩)
    · exact ⟨notices, [], rfl, fun _ listed => absurd listed List.not_mem_nil⟩
    · refine ⟨before, later ++ [notice], by simp [split], fun other listed => ?_⟩
      rcases List.mem_append.mp listed with old | new
      · exact open_ other old
      · rw [List.mem_singleton.mp new]
        exact last

/-- How far the request of a notice is after it: it waits unless it is over. -/
theorem status?_event (notice : Notice) :
    notice.event.status? = if notice.isTerminal = true then none else some .queued := by
  cases notice with
  | _ => rfl

/-- After the events of some notices a tracker lists a name exactly if a request of that name is
not hidden. -/
theorem isDownloading_after_notices (notices : List Notice) (name : String) :
    (Tracker.after (notices.map Notice.event)).isDownloading name = true ↔
      name ≠ "" ∧ ∃ entry, entry.name = name ∧ Unhidden notices entry := by
  induction notices using List.reverseRecOn with
  | nil =>
    refine iff_of_false Bool.false_ne_true ?_
    rintro ⟨_, entry, _, before, later, split, _⟩
    exact absurd split (by simp)
  | append_singleton notices notice ih =>
    rw [List.map_append, List.map_singleton, Tracker.after_concat, Tracker.isDownloading,
      Tracker.status?_record, name_event]
    by_cases about : notice.entry.name = name ∧ name ≠ ""
    · rw [if_pos about, status?_event]
      cases terminal : notice.isTerminal with
      | true =>
        refine iff_of_false Bool.false_ne_true ?_
        rintro ⟨_, entry, same, unhidden⟩
        rcases unhidden_concat.mp unhidden with rfl | ⟨_, hides⟩
        · exact Bool.noConfusion terminal
        · rw [hides (about.1.trans same.symm)] at terminal
          exact Bool.noConfusion terminal
      | false =>
        cases notice with
        | added entry =>
          exact iff_of_true rfl ⟨about.2, entry, about.1, unhidden_concat.mpr (.inl rfl)⟩
        | complete entry => exact Bool.noConfusion terminal
        | error entry failure => exact Bool.noConfusion terminal
    · rw [if_neg about]
      refine ih.trans (and_congr_right fun letters => exists_congr fun entry =>
        and_congr_right fun same => ?_)
      have other : notice.entry.name ≠ entry.name := fun equal =>
        about ⟨equal.trans same, letters⟩
      rw [unhidden_concat]
      constructor
      · exact fun unhidden => .inr ⟨unhidden, fun equal => absurd equal other⟩
      · rintro (rfl | ⟨unhidden, _⟩)
        · exact absurd rfl other
        · exact unhidden

namespace Session

variable {users : Users} {session : Session users} {state : users.State} {past : History users}

/-- In every run without a shutdown a request that is not hidden is queued. -/
theorem Run.queued_of_unhidden (run : Run (.new state) past session)
    (kept : ∀ entries, .emptied entries ∉ past.deeds) {entry : Entry}
    (unhidden : Unhidden session.recorded entry) : entry ∈ session.queue.entries := by
  let Held (deeds : List (Deed users.Listener)) (session : Session users) : Prop :=
    (∀ entries, .emptied entries ∉ deeds) →
      ∀ entry, Unhidden session.recorded entry → entry ∈ session.queue.entries
  refine (Run.induct (fun deeds session => Booked deeds session ∧ Held deeds session)
    ⟨booked_new state, ?_⟩ ?_ run).2 kept entry unhidden
  · rintro _ _ ⟨_, _, nothing, _⟩
    exact absurd nothing (by simp [recorded, Session.new])
  · rintro deeds session deed next _ ⟨booked, held⟩ effect
    refine ⟨booked.next effect, fun kept entry unhidden => ?_⟩
    have before := held fun entries listed => kept entries (List.mem_append_left _ listed)
    cases effect.turnover booked with
    | same _ _ recorded entries =>
      rw [recorded] at unhidden
      exact entries ▸ before entry unhidden
    | joined request _ recorded entries =>
      rw [recorded, unhidden_concat] at unhidden
      rw [entries, List.mem_append, List.mem_singleton]
      rcases unhidden with new | ⟨old, _⟩
      · exact .inr (Notice.added.inj new).symm
      · exact .inl (before entry old)
    | left notice _ _ terminal _ recorded entries =>
      rw [recorded, unhidden_concat] at unhidden
      rcases unhidden with rfl | ⟨old, hides⟩
      · exact Bool.noConfusion terminal
      · have different : entry ≠ notice.entry := by
          rintro rfl
          rw [hides rfl] at terminal
          exact Bool.noConfusion terminal
        rw [entries, List.mem_erase_of_ne different]
        exact before entry old
    | emptied asked _ _ =>
      refine absurd ?_ (kept session.queue.entries)
      rw [asked]
      exact List.mem_append_right _ List.mem_cons_self

/-- In every run in which a name was never queued twice at a time its requests are not hidden. -/
theorem Run.unhidden_of_queued (run : Run (.new state) past session) {name : String}
    (alone : ∀ earlier ∈ past, (named name earlier.queue.entries).length ≤ 1) :
    ∀ entry ∈ named name session.queue.entries, Unhidden session.recorded entry := by
  induction run with
  | refl => exact fun _ listed => absurd listed List.not_mem_nil
  | @step past session next before taken ih =>
    have kept := ih fun earlier listed => alone earlier (List.mem_append_left _ listed)
    have single : (named name session.queue.entries).length ≤ 1 := alone session (by simp)
    intro entry listed
    cases (sound_step taken (before.framed (framed_new state))).1.turnover before.booked with
    | same _ _ recorded entries =>
      rw [recorded]
      exact kept entry (entries ▸ listed)
    | joined request _ recorded entries =>
      rw [recorded, unhidden_concat]
      rw [entries, named_append] at listed
      rcases List.mem_append.mp listed with old | new
      · exact .inr ⟨kept entry old, fun _ => rfl⟩
      · exact .inl (by rw [List.mem_singleton.mp (mem_named.mp new).1])
    | left notice _ _ _ first recorded entries =>
      have split := named_of_first first name
      rw [← entries] at split
      have stayed : entry ∈ named name session.queue.entries := by
        rw [split]
        exact List.mem_append_right _ listed
      rw [recorded, unhidden_concat]
      refine .inr ⟨kept entry stayed, fun about => ?_⟩
      -- Two requests of the name would have been queued.
      have called : notice.entry.name = name := about.trans (mem_named.mp listed).2
      have leaver : named name [notice.entry] = [notice.entry] := by simp [named, called]
      have others := List.length_pos_of_mem listed
      rw [split, leaver, List.length_append, List.length_singleton] at single
      omega
    | emptied _ _ entries =>
      rw [entries] at listed
      exact absurd listed List.not_mem_nil
  | @input past session next before input ih =>
    have unturned := unturned_input input
    rw [unturned.1, unturned.2]
    exact ih alone

/-! ## What the tracker was told -/

/-- What certain listeners were told of notices, in order. -/
def toldTo (who : users.Listener → Bool) (deeds : List (Deed users.Listener)) : List Event :=
  ((told deeds).filter fun call => who call.1).map (·.2)

/-- Whether of certain listeners one was registered whenever a notice was handed out, and they have
been told of all notices. -/
structure Informed (who : users.Listener → Bool) (past : History users)
    (session : Session users) : Prop where
  /-- One of them was registered. -/
  registered : ∀ sent ∈ handedOut past.deeds, sent.2.countP who = 1
  /-- No notice waits. -/
  sent : session.queue.outbox = []
  /-- None of them is still to be told. -/
  reached : ∀ call ∈ session.due, who call.1 = false

/-- Of a notice that is handed out certain listeners are told as often as they are registered. -/
theorem events_callsFor (who : users.Listener → Bool) (handed : Notice × List users.Listener) :
    ((callsFor handed).filter fun call => who call.1).map (·.2) =
      List.replicate (handed.2.countP who) handed.1.event := by
  rw [callsFor, List.filter_map, List.map_map, List.countP_eq_length_filter]
  exact List.map_const'

/-- Who is informed was told of each notice once, in order. -/
theorem Run.toldTo_eq (run : Run (.new state) past session) {who : users.Listener → Bool}
    (informed : Informed who past session) :
    toldTo who past.deeds = session.recorded.map Notice.event := by
  have undue : session.due.filter (fun call => who call.1) = [] := by
    rw [List.filter_eq_nil_iff]
    intro call listed
    rw [informed.reached call listed]
    exact Bool.false_ne_true
  have pushed : session.recorded = (handedOut past.deeds).map (·.1) := by
    rw [run.pushed, informed.sent, List.append_nil]
  have settled := congrArg (fun calls => (calls.filter fun call => who call.1).map (·.2))
    run.settled
  rw [List.filter_append, undue, List.append_nil] at settled
  rw [toldTo, settled, pushed, List.map_map, List.filter_flatMap, List.map_flatMap]
  have single : ∀ sent ∈ handedOut past.deeds,
      ((callsFor sent).filter fun call => who call.1).map (·.2) = [sent.1.event] := by
    intro sent listed
    rw [events_callsFor, informed.registered sent listed]
    rfl
  rw [List.flatMap_congr single]
  exact List.map_eq_flatMap.symm

/-! ## What the tracker lists -/

/-- What a tracker knows that was fed with all that is queued. -/
def replay (session : Session users) : Tracker :=
  .after (session.entries.map fun entry => .added entry.1 entry.2)

/-- The names of the requests that are told of when all that is queued is told. -/
theorem names_entries (session : Session users) :
    session.entries.map (·.1) = session.queue.entries.map Entry.name := by
  rw [entries]
  split
  · rename_i empty
    rw [empty]
    rfl
  · rename_i first rest queued
    rw [queued, List.map_cons, List.map_cons, List.map_map]
    rfl

/-- What it means that a tracker mirrors a queue as far as names tell. -/
structure Mirrors (past : History users) (session : Session users) (tracker : Tracker) : Prop where
  /-- Each name is listed once, in the order of names. -/
  sorted : Named.Sorted tracker.downloads
  /-- A name is listed exactly if a request of that name is queued and none of that name has ended
  since it was. -/
  listed : ∀ name, tracker.isDownloading name = true ↔ name ≠ "" ∧
    ∃ entry ∈ session.queue.entries, entry.name = name ∧ Unhidden session.recorded entry
  /-- If a name was never queued twice at a time it is listed exactly if a request of that name is
  queued. -/
  exact : ∀ name, (∀ earlier ∈ past, (named name earlier.queue.entries).length ≤ 1) →
    (tracker.isDownloading name = true ↔
      name ≠ "" ∧ ∃ entry ∈ session.queue.entries, entry.name = name)
  /-- A tracker fed with all that is queued lists the names of all requests that are queued. -/
  replayed : ∀ name, session.replay.isDownloading name = true ↔
    name ≠ "" ∧ ∃ entry ∈ session.queue.entries, entry.name = name

/-- In every run without a shutdown a tracker that has listened from the start mirrors the queue as
far as names tell. -/
theorem tracker_mirrors (run : Run (.new state) past session)
    (kept : ∀ entries, .emptied entries ∉ past.deeds) {who : users.Listener → Bool}
    (informed : Informed who past session) :
    Mirrors past session (.after (toldTo who past.deeds)) := by
  have lists (name : String) :
      (Tracker.after (toldTo who past.deeds)).isDownloading name = true ↔ name ≠ "" ∧
        ∃ entry ∈ session.queue.entries, entry.name = name ∧ Unhidden session.recorded entry := by
    rw [run.toldTo_eq informed, isDownloading_after_notices]
    refine and_congr_right fun _ => exists_congr fun entry => ?_
    constructor
    · rintro ⟨same, unhidden⟩
      exact ⟨run.queued_of_unhidden kept unhidden, same, unhidden⟩
    · rintro ⟨_, same, unhidden⟩
      exact ⟨same, unhidden⟩
  refine ⟨Tracker.sorted_after _, lists, fun name alone => ?_, fun name => ?_⟩
  · rw [lists]
    refine and_congr_right fun _ => exists_congr fun entry => ?_
    constructor
    · rintro ⟨waits, same, _⟩
      exact ⟨waits, same⟩
    · rintro ⟨waits, same⟩
      exact ⟨waits, same, run.unhidden_of_queued alone entry (mem_named.mpr ⟨waits, same⟩)⟩
  · have names : (∃ entry ∈ session.entries, entry.1 = name) ↔
        ∃ entry ∈ session.queue.entries, entry.name = name := by
      rw [← List.mem_map, names_entries, List.mem_map]
    rw [replay, Tracker.isDownloading_after_added, names]

/-! ## Two requests of one name -/

/-- A listener is registered, and then requests for bytes under some names are queued. -/
def listenAndQueue (names : List String) : (callers true).Script Unit :=
  .call (.register ()) fun _ => queueAll true names

/-- The steps until two requests of one name are queued and the first of them is over. -/
def pastSameName : History (callers true) :=
  let begun : Session (callers true) := (Session.new ()).begin (listenAndQueue ["same", "same"])
  visited 40 begun ++ visited 40 ((repeatedly step? 40 begun).arrive 1 [.finish none])

/-- Two requests of one name are queued, and the first of them is over. -/
def sameName : Session (callers true) :=
  let begun : Session (callers true) := (Session.new ()).begin (listenAndQueue ["same", "same"])
  repeatedly step? 40 ((repeatedly step? 40 begun).arrive 1 [.finish none])

/-- That is a run. -/
theorem run_sameName : Run (.new ()) pastSameName sameName := by
  have start : Run (.new () : Session (callers true)) [] (.new ()) := .refl
  have queued := start.play rfl (listenAndQueue ["same", "same"]) 40
  exact (queued.input (.arrive _ 1 [.finish none])).repeatedly 40

/-- Nothing is taken away in it. -/
theorem kept_sameName : ∀ entries, .emptied entries ∉ pastSameName.deeds := kept_of_all rfl

/-- The listener is informed in it. -/
theorem informed_sameName : Informed (fun _ => true) pastSameName sameName := by
  have nobody : sameName.due = [] := rfl
  refine ⟨List.forall_iff_forall_mem.mp ⟨rfl, rfl, rfl⟩, rfl, fun call listed => ?_⟩
  rw [nobody] at listed
  exact absurd listed List.not_mem_nil

/-- The second request still waits, and the tracker does not list its name. -/
theorem tracker_mirrors_same_name :
    sameName.queue.entries = [⟨1, bytesOf "same"⟩] ∧
      (Tracker.after (toldTo (fun _ => true) pastSameName.deeds)).isDownloading "same" = false ∧
      Mirrors pastSameName sameName (.after (toldTo (fun _ => true) pastSameName.deeds)) :=
  ⟨rfl, rfl, tracker_mirrors run_sameName kept_sameName informed_sameName⟩

/-- A tracker that has listened from the start need not list the names of all requests that are
queued, though there was no shutdown and it was told of everything. -/
theorem waiting_unlisted :
    ¬∀ (users : Users) (state : users.State) (past : History users) (session : Session users)
      (who : users.Listener → Bool), Run (.new state) past session →
        (∀ entries, .emptied entries ∉ past.deeds) → Informed who past session →
          ∀ entry ∈ session.queue.entries, entry.name ≠ "" →
            (Tracker.after (toldTo who past.deeds)).isDownloading entry.name = true := by
  intro claim
  have listed := claim _ _ _ _ _ run_sameName kept_sameName informed_sameName
    ⟨1, bytesOf "same"⟩ (List.mem_singleton.mpr rfl) (by decide)
  exact absurd listed (by decide)

end Session

end Sailplane.Download
