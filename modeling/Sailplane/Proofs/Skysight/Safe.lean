import Mathlib.Data.List.Chain
import Sailplane.Proofs.Skysight.Standing

/-!
# Safe scripts

The scripts of a client that others may begin are safe, and so are civil scripts. Whether a client
asks for a key, for a document or for a file, and when it starts or is given up, its standing is
sound again when it has done so.
-/
namespace Sailplane.Skysight.Standing

open Download (Script Slot Slots Request RequestData)

variable {Others Listener Note : Type} {standing : Standing Others Note} {client : Client}

/-! ## Requests for documents -/

/-- A request for a document that is queued for a new slot that the client keeps is the client's. -/
theorem queued_of_kept {request : Request} {slot : Slot} (place : request.destination = .json slot)
    (kept : (request.name, slot) ∈ standing.shared.pending)
    (new : (request.name, slot) ∉ standing.owned) :
    standing.queued request =
      { standing with owned := standing.owned ++ [(request.name, slot)] } := by
  rw [queued, claimed, place]
  dsimp only
  rw [if_pos ⟨kept, new⟩]

/-- A standing is sound when a request was queued for a new slot that the client keeps. -/
theorem Sound.queue (sound : standing.Sound) (present : standing.shared.client = some client)
    (url name : String) (data : RequestData) :
    (({ standing with slots := standing.slots.fresh.2 }.withClient
      { client with pending := client.pending ++ [(name, standing.slots.fresh.1)] }).queued
        (.json url name standing.slots.fresh.1 data)).Sound := by
  have length : standing.slots.fresh.2.contents.length = standing.slots.contents.length + 1 :=
    List.length_append
  have new : (name, standing.slots.fresh.1) ∉ standing.owned := fun listed =>
    absurd (sound.handed _ listed) (Nat.lt_irrefl _)
  have asked : standing.asked ≠ [] := sound.present (by simp [present])
  rw [queued_of_kept rfl (List.mem_append_right _ (List.mem_singleton_self _)) new]
  have among (other : Client) : other ∈ some
      { client with pending := client.pending ++ [(name, standing.slots.fresh.1)] } ↔
        { client with pending := client.pending ++ [(name, standing.slots.fresh.1)] } = other :=
    Option.mem_some_iff
  exact {
    asked := fun other same => (among other).mp same ▸ sound.asked client present
    spaced := sound.spaced
    keyed := fun other same => (among other).mp same ▸ sound.keyed client present
    renewed := sound.renewed
    routed := sound.routed
    kept := fun other same name => by
      rw [← (among other).mp same, slotsOf_append, slotsOf_append, sound.kept client present]
      exact (List.drop_append_of_le_length (sound.covered name)).symm
    covered := fun name => by
      rw [slotsOf_append, List.length_append]
      exact Nat.le_add_right_of_le (sound.covered name)
    handed := fun request listed => by
      change _ < standing.slots.fresh.2.contents.length
      rw [length]
      rcases List.mem_append.mp listed with before | last
      · exact Nat.lt_succ_of_lt (sound.handed request before)
      · rw [List.mem_singleton.mp last]
        exact Nat.lt_succ_self _
    begun := fun _ => asked
    present := fun _ => asked }

/-- To queue a request for a document is safe. -/
theorem safe_enqueue (sound : standing.Sound) (present : standing.shared.client = some client)
    (name url : String) (data : RequestData) :
    Safe (Client.enqueue name url data : Act Others Listener Note Unit) (fun _ => Sound)
      standing := by
  have grown : { standing with slots := standing.slots.fresh.2 }.Sound :=
    sound.grow (Nat.le_of_lt (by simp [Slots.fresh]))
  refine ⟨sound.toCurrent, ?_⟩
  change Safe (Script.bind (Client.withClient () fun client _ => Client.store
    { client with pending := client.pending ++ [(name, standing.slots.fresh.1)] }) fun _ =>
      Script.enqueue (.json url name standing.slots.fresh.1 data)) _
    { standing with slots := standing.slots.fresh.2 }
  refine Safe.bind (safe_withClient grown.toCurrent (fun absent => ?_) fun other stored => ?_)
  · exact absurd (present.symm.trans absent) (Option.some_ne_none client)
  · obtain rfl := Option.some.inj (present.symm.trans stored)
    exact ⟨grown.toCurrent, sound.queue present url name data, fun _ after => after⟩

/-! ## Keys -/

/-- A standing is sound when a key was asked for that is not too early to ask for. -/
theorem Settled.ask (settled : standing.Settled) (present : standing.shared.client = some client)
    {now : Instant} (late : ∀ last ∈ client.credential.requestedAt, last + requestInterval ≤ now) :
    ((standing.withClient
      { client with credential := { client.credential with requestedAt := some now } }).noted
        (.asked now)).Sound := by
  have asked : ((standing.withClient
      { client with credential := { client.credential with requestedAt := some now } }).noted
        (.asked now)).asked = standing.asked ++ [now] := List.filterMap_append
  have some_ : standing.asked ++ [now] ≠ [] := List.append_ne_nil_of_right_ne_nil _ (by simp)
  have same {α : Type} {read : Mark Note → Option α} (nothing : read (Mark.asked now) = none) :
      (standing.marks ++ [Mark.asked now]).filterMap read = standing.marks.filterMap read := by
    rw [List.filterMap_append, List.filterMap_cons_none nothing]
    exact List.append_nil _
  exact {
    asked := fun other there => by
      rw [asked, ← Option.mem_some_iff.mp there, List.getLast?_concat]
    spaced := by
      rw [Spaced, asked, List.isChain_append]
      refine ⟨settled.spaced, List.isChain_singleton _, fun last listed other same => ?_⟩
      rw [← Option.mem_some_iff.mp same]
      exact late last (settled.asked client present ▸ listed)
    keyed := fun other there => by
      rw [← Option.mem_some_iff.mp there]
      exact (settled.keyed client present).requested _
    renewed := (same rfl).trans settled.renewed
    routed := (same rfl).trans settled.routed
    kept := fun other there => by
      rw [← Option.mem_some_iff.mp there]
      exact settled.kept client present
    covered := settled.covered
    handed := settled.handed
    begun := fun _ => asked ▸ some_
    present := fun _ => asked ▸ some_ }

/-- To ask for a key is safe. -/
theorem safe_requestKey (settled : standing.Settled) :
    Safe (Client.requestKey : Act Others Listener Note Bool) (fun _ => Sound) standing := by
  rw [Client.requestKey_eq]
  refine ⟨settled.toCurrent, ?_⟩
  dsimp only
  cases present : standing.shared.client with
  | none => exact ⟨settled, fun there => absurd present there⟩
  | some client =>
    rw [Option.elim_some, Client.decide]
    split
    · rename_i throttled
      obtain ⟨last, asked, _⟩ := Credential.throttled_iff.mp throttled
      rw [settled.asked client present] at asked
      refine ⟨settled, fun _ none => ?_⟩
      rw [none] at asked
      exact absurd asked (by simp)
    · rename_i reuse
      exact ⟨settled, fun _ => settled.asked_of_key present (Credential.valid_of_reuse reuse)⟩
    · rename_i sends
      rw [Credential.beginRequest_of_send sends]
      have sound := settled.ask present (Credential.late_of_send sends)
      refine safe_store settled.toCurrent ⟨⟨rfl, _, rfl, _, rfl⟩, ?_⟩
      exact Safe.bind (safe_enqueue sound rfl _ _ _)

/-! ## What others begin -/

/-- To ask for a document is safe. -/
theorem safe_requestJson (sound : standing.Sound) (name part : String) :
    Safe (Client.requestJson name part : Act Others Listener Note Unit) (fun _ => Sound)
      standing :=
  safe_withClient sound.toCurrent (fun _ => sound) fun _ present =>
    safe_enqueue sound present _ _ _

/-- To ask for a file is safe. -/
theorem safe_download (sound : standing.Sound) (url path : String) (kind : FileKind) :
    Safe (Client.download url path kind : Act Others Listener Note (Except Refusal Unit))
      (fun _ => Sound) standing := by
  rw [Client.download_eq]
  refine ⟨sound.toCurrent, ?_⟩
  dsimp only
  cases present : standing.shared.client with
  | none => exact sound
  | some client =>
    rw [Option.elim_some, Client.fetch]
    split
    · split
      · rename_i request _
        refine ⟨?_, fun _ after => after⟩
        rw [sound.toSettled.queued_eq]
        exact sound
      · exact sound
    · exact sound

/-- To give the client up is safe. -/
theorem safe_disconnect (sound : standing.Sound) :
    Safe (Client.disconnect : Act Others Listener Note Unit) (fun _ => Sound) standing := by
  rw [Client.disconnect_eq]
  refine ⟨sound.toCurrent, ?_⟩
  dsimp only
  cases standing.shared.client with
  | none => exact sound
  | some client => exact ⟨sound, fun _ after still => ⟨still.toCurrent, still.leave⟩⟩

/-- A client that starts is safe if there was none before. -/
theorem safe_connect (sound : standing.Sound) (first : standing.asked = [])
    (account : Config.Account) :
    Safe (Client.connect account : Act Others Listener Note Unit) (fun _ => Sound) standing := by
  have unmade : standing.owned = [] := by
    by_contra owned
    exact sound.begun owned first
  have untold : standing.reports = [] := by
    by_contra reports
    exact sound.toSettled.asked_of_reports reports first
  have started (registration : Nat) :
      (standing.withClient ⟨account, .empty, [], registration⟩).Settled :=
    { sound with
      asked := fun client there => by
        rw [← Option.mem_some_iff.mp there]
        exact (congrArg List.getLast? first).symm
      keyed := fun client there => by
        rw [← Option.mem_some_iff.mp there]
        change Credential.empty.Follows standing.latest
        rw [latest, untold]
        exact Credential.follows_empty
      kept := fun client there name => by
        rw [← Option.mem_some_iff.mp there]
        change [] = (slotsOf name standing.owned).drop _
        rw [unmade]
        exact List.drop_nil.symm }
  refine ⟨sound.toCurrent, fun registration => ?_⟩
  refine safe_store sound.toCurrent ?_
  exact Safe.bind (safe_requestKey (started registration))

/-- Civil scripts are safe. -/
theorem safe_of_civil {α : Type} {script : Act Others Listener Note α} (civil : Civil script)
    (sound : standing.Sound) : Safe script (fun _ => Sound) standing := by
  induction civil generalizing standing with
  | done result => exact sound
  | @call operation next may rest ih =>
    cases operation with
    | newSlot =>
      exact ⟨sound.toCurrent, ih _ (sound.grow (Nat.le_of_lt (by simp [Slots.fresh])))⟩
    | register listener => exact ⟨sound.toCurrent, fun reply => ih reply sound⟩
    | enqueue request =>
      refine ⟨?_, fun after still => ih () still⟩
      rw [sound.toSettled.queued_eq]
      exact sound
    | _ => exact ⟨sound, fun reply after still => ih reply still⟩
  | look rest ih => exact ⟨sound.toCurrent, ih _ sound⟩
  | change keeps rest ih => exact ⟨sound.toCurrent, ih _ (sound.share (keeps _))⟩
  | note written rest ih => exact ⟨sound.toCurrent, ih (sound.noted rfl rfl rfl)⟩
  | requestKey rest ih =>
    exact Safe.bind ((safe_requestKey sound.toSettled).imp fun answer _ still => ih answer still)
  | requestJson name part rest ih =>
    exact Safe.bind ((safe_requestJson sound name part).imp fun _ _ still => ih still)
  | download url path kind rest ih =>
    exact Safe.bind ((safe_download sound url path kind).imp fun answer _ still => ih answer still)
  | disconnect rest ih =>
    exact Safe.bind ((safe_disconnect sound).imp fun _ _ still => ih still)

/-- Whatever is noted down next, keys were asked for at most once a minute. -/
theorem spaced_of_noted {written : Mark Note} (spaced : (standing.noted written).Spaced) :
    standing.Spaced := by
  rw [Spaced, asked, noted, List.filterMap_append] at spaced
  exact spaced.left_of_append

/-- A safe script finds that keys were asked for at most once a minute. -/
theorem Safe.spaced {α : Type} {script : Act Others Listener Note α}
    (safe : Safe script (fun _ => Sound) standing) : standing.Spaced := by
  induction script generalizing standing with
  | done result => exact Current.spaced safe.toCurrent
  | call operation next =>
    cases operation with
    | newSlot | register => exact safe.1.spaced
    | enqueue request => exact safe.1.toCurrent.spaced
    | _ => exact safe.1.toCurrent.spaced
  | get next => exact safe.1.spaced
  | set shared next ih =>
    have later : Spaced { standing with shared } := ih safe
    exact later
  | note written next ih => exact spaced_of_noted (ih safe.2)

/-- Whenever a script of others goes on all is as they may see it. -/
theorem Safe.current {α : Type} {script : Act Others Listener Note α}
    (safe : Safe script (fun _ => Sound) standing) (civil : Civil script) : standing.Current := by
  cases script with
  | done result => exact safe.toCurrent
  | call operation next =>
    cases operation with
    | newSlot | register => exact safe.1
    | enqueue request => exact { safe.1.toCurrent with }
    | _ => exact safe.1.toCurrent
  | get next => exact safe.1
  | set shared next => exact absurd rfl civil.not_changes
  | note written next =>
    obtain ⟨own, rfl⟩ := civil.note_cases rfl
    exact safe.1

end Sailplane.Skysight.Standing
