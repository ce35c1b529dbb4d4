import Sailplane.Proofs.Skysight.Verdicts

/-!
# How a client stands

A client with its past: what it was told and what it noted down, and which requests for documents it
has made. Its key goes by what it was told, and so does what it has handed on; when it asks for a
key goes by when it asked last; and of every name it keeps the slots of its last requests, as many
as it has made and was not told of.

Nothing is assumed of what the other users do with the queue. A script is safe if all this holds
whenever others may look, and in the end. The scripts of the client that others may begin are safe,
and so is what others do.
-/
namespace Sailplane.Skysight

open Download (Script Operation Slot Slots Content Request)

variable {Others Listener Note : Type}

namespace Mark

/-- When the client asked for a key. -/
def asked? : Mark Note → Option Instant
  | asked now => some now
  | _ => none

/-- When the client adopted a valid key. -/
def renewed? : Mark Note → Option Instant
  | renewed now => some now
  | _ => none

/-- A document that the client handed on, with the name of its request. -/
def routed? : Mark Note → Option (String × Json)
  | routed name document => some (name, document)
  | _ => none

end Mark

/-- The slots under a name, in order. -/
def slotsOf (name : String) (kept : List (String × Slot)) : List Slot :=
  (kept.filter fun entry => entry.1 == name).map (·.2)

/-- The slots under a name among some and then others. -/
theorem slotsOf_append (name : String) (kept more : List (String × Slot)) :
    slotsOf name (kept ++ more) = slotsOf name kept ++ slotsOf name more := by
  rw [slotsOf, List.filter_append, List.map_append]
  rfl

/-- To take the first slot of a name away takes it off those of that name. -/
theorem slotsOf_eraseP (name other : String) (kept : List (String × Slot)) :
    slotsOf name (kept.eraseP fun entry => entry.1 == other) =
      (slotsOf name kept).drop (if other = name then 1 else 0) := by
  induction kept with
  | nil => simp [slotsOf]
  | cons first rest ih =>
    by_cases taken : first.1 = other
    · rw [List.eraseP_cons_of_pos (by simpa using taken)]
      by_cases same : other = name
      · simp [slotsOf, taken, same]
      · simp [slotsOf, taken, same]
    · rw [List.eraseP_cons_of_neg (by simpa using taken)]
      by_cases here : first.1 = name
      · have different : other ≠ name := fun same => taken (here.trans same.symm)
        rw [if_neg different] at ih ⊢
        simpa [slotsOf, here] using ih
      · simpa [slotsOf, here] using ih

/-- The requests for documents that a client has made when one more was queued. It is the client's
if it brings a document to a new slot that the client keeps. -/
def claimed (shared : Shared Others) (owned : List (String × Slot)) (request : Request) :
    List (String × Slot) :=
  match request.destination with
  | .json slot =>
    if (request.name, slot) ∈ shared.pending ∧ (request.name, slot) ∉ owned then
      owned ++ [(request.name, slot)]
    else owned
  | _ => owned

/-- A client with its past. -/
structure Standing (Others Note : Type) where
  /-- What the client shares with the other users of its queue. -/
  shared : Shared Others
  /-- The slots. -/
  slots : Slots Content
  /-- What was noted down. -/
  marks : List (Mark Note)
  /-- What the client was told of requests for which it kept a slot. -/
  reports : List Report
  /-- The requests for documents that the client has made: their names and their slots. -/
  owned : List (String × Slot)

namespace Standing

variable {standing : Standing Others Note}

/-- When the client asked for a key. -/
def asked (standing : Standing Others Note) : List Instant :=
  standing.marks.filterMap Mark.asked?

/-- The answer to a login by which the credential goes: the last thing that was said of the key. -/
def latest (standing : Standing Others Note) : Option CredentialReply :=
  (standing.reports.filterMap Report.verdict?).getLast?.join

/-- Of how many requests of a name the client was told. -/
def told (standing : Standing Others Note) (name : String) : Nat :=
  (standing.reports.filter fun report => report.name == name).length

/-- Whether the client has asked for a key at most once a minute. -/
def Spaced (standing : Standing Others Note) : Prop :=
  standing.asked.IsChain fun earlier later => earlier + requestInterval ≤ later

/-- What is so whenever others may look. -/
structure Current (standing : Standing Others Note) : Prop where
  /-- The client knows when it asked for a key last. -/
  asked : ∀ client ∈ standing.shared.client,
    client.credential.requestedAt = standing.asked.getLast?
  /-- It asks for a key at most once a minute. -/
  spaced : standing.Spaced
  /-- Its key goes by the last that was said of it. -/
  keyed : ∀ client ∈ standing.shared.client, client.credential.Follows standing.latest
  /-- It notes down every valid key that it was given. -/
  renewed : standing.marks.filterMap Mark.renewed? = standing.reports.filterMap Report.renewal?
  /-- It has handed on every document of which it was told. -/
  routed : standing.marks.filterMap Mark.routed? = standing.reports.filterMap Report.document?

/-- What is so once the client has asked for what it was about to ask for. -/
structure Settled (standing : Standing Others Note) : Prop extends Current standing where
  /-- Of every name the client keeps the slots of its requests but for the first ones, as many as it
  was told of. -/
  kept : ∀ client ∈ standing.shared.client, ∀ name,
    slotsOf name client.pending = (slotsOf name standing.owned).drop (standing.told name)
  /-- It was told of no more requests than it has made. -/
  covered : ∀ name, standing.told name ≤ (slotsOf name standing.owned).length
  /-- The slots of its requests were handed out. -/
  handed : ∀ request ∈ standing.owned, request.2.number < standing.slots.contents.length
  /-- Its first request is for a key. -/
  begun : standing.owned ≠ [] → standing.asked ≠ []

/-- What is so whenever others may act. -/
structure Sound (standing : Standing Others Note) : Prop extends Settled standing where
  /-- A client has asked for a key. -/
  present : standing.shared.client ≠ none → standing.asked ≠ []

/-- The standing after something was noted down. -/
def noted (standing : Standing Others Note) (written : Mark Note) : Standing Others Note :=
  { standing with marks := standing.marks ++ [written] }

/-- The standing after a request was queued. -/
def queued (standing : Standing Others Note) (request : Request) : Standing Others Note :=
  { standing with owned := claimed standing.shared standing.owned request }

/-- The standing with another client. -/
def withClient (standing : Standing Others Note) (client : Client) : Standing Others Note :=
  { standing with shared := { standing.shared with client := some client } }

/-! ## Safe scripts -/

/-- Whether a call may be made, and what is done after it is right. After a call that lets others
act the standing may be any that is sound. -/
def Calls : (operation : Operation (Member Listener)) →
    (operation.Reply → Standing Others Note → Prop) → Standing Others Note → Prop
  | .newSlot, next, standing => standing.Current ∧
    next standing.slots.fresh.1 { standing with slots := standing.slots.fresh.2 }
  | .register _, next, standing => standing.Current ∧ ∀ reply, next reply standing
  | .enqueue request, next, standing =>
    (standing.queued request).Sound ∧ ∀ after : Standing Others Note, after.Sound → next () after
  | .cancel _, next, standing | .shutdown, next, standing | .entries, next, standing
  | .enumerate _, next, standing | .isIdle, next, standing | .unregister _, next, standing
  | .watchIdle _, next, standing | .readSlot _, next, standing | .takeSlot _, next, standing
  | .signal _, next, standing =>
    standing.Sound ∧ ∀ reply (after : Standing Others Note), after.Sound → next reply after

/-- Whether a client puts a request for a key in the queue next. -/
def Asks {α : Type} (now : Instant) (next : Act Others Listener Note α) (shared : Shared Others) :
    Prop :=
  now = shared.now ∧ ∃ client ∈ shared.client, ∃ rest,
    next = (Client.enqueue authRequest client.account.authUrl
      (Client.loginData client.account)).bind rest

/-- Whether something may be noted down. Nobody but a client that is told something adopts a key or
hands a document on. -/
def Notes {α : Type} (next : Act Others Listener Note α) (standing : Standing Others Note) :
    Mark Note → Prop
  | .asked now => Asks now next standing.shared
  | .renounced => True
  | .note _ => standing.Current
  | .routed _ _ | .renewed _ => False

/-- Whether a script is safe and ends as wanted. -/
def Safe {α : Type} : Act Others Listener Note α → (α → Standing Others Note → Prop) →
    Standing Others Note → Prop
  | .done result, wanted, standing => wanted result standing
  | .call operation next, wanted, standing =>
    Calls operation (fun reply => Safe (next reply) wanted) standing
  | .get next, wanted, standing => standing.Current ∧ Safe (next standing.shared) wanted standing
  | .set shared next, wanted, standing => Safe next wanted { standing with shared }
  | .note written next, wanted, standing =>
    standing.Notes next written ∧ Safe next wanted (standing.noted written)

variable {α β : Type}

/-- A call may be made whatever comes after it as long as that is right. -/
theorem Calls.imp {operation : Operation (Member Listener)}
    {next other : operation.Reply → Standing Others Note → Prop}
    (implied : ∀ reply after, next reply after → other reply after)
    (calls : Calls operation next standing) : Calls operation other standing := by
  cases operation with
  | newSlot => exact ⟨calls.1, implied _ _ calls.2⟩
  | register listener => exact ⟨calls.1, fun reply => implied _ _ (calls.2 reply)⟩
  | enqueue request => exact ⟨calls.1, fun after sound => implied _ _ (calls.2 after sound)⟩
  | _ => exact ⟨calls.1, fun reply after sound => implied _ _ (calls.2 reply after sound)⟩

/-- A safe script and then another that is safe make one that is. -/
theorem Safe.bind {script : Act Others Listener Note α} {next : α → Act Others Listener Note β}
    {wanted : β → Standing Others Note → Prop}
    (safe : Safe script (fun result => Safe (next result) wanted) standing) :
    Safe (script.bind next) wanted standing := by
  induction script generalizing standing with
  | done result => exact safe
  | call operation rest ih => exact Calls.imp (fun reply after => ih reply) safe
  | get rest ih => exact ⟨safe.1, ih _ safe.2⟩
  | set shared rest ih => exact ih safe
  | note written rest ih =>
    refine ⟨?_, ih safe.2⟩
    have may := safe.1
    cases written with
    | asked now =>
      obtain ⟨clock, client, present, last, asks⟩ := may
      exact ⟨clock, client, present, _, by rw [asks, Script.bind_assoc]⟩
    | renounced => trivial
    | note own => exact may
    | routed | renewed => exact may

/-- A safe script may end as it does or better than wanted. -/
theorem Safe.imp {script : Act Others Listener Note α}
    {wanted other : α → Standing Others Note → Prop}
    (implied : ∀ result after, wanted result after → other result after)
    (safe : Safe script wanted standing) : Safe script other standing := by
  induction script generalizing standing with
  | done result => exact implied result standing safe
  | call operation rest ih => exact Calls.imp (fun reply after => ih reply) safe
  | get rest ih => exact ⟨safe.1, ih _ safe.2⟩
  | set shared rest ih => exact ih safe
  | note written rest ih => exact ⟨safe.1, ih safe.2⟩

/-- What is done with the client is safe if it is for every client. -/
theorem safe_withClient (current : standing.Current) {absent : α}
    {act : Client → Instant → Act Others Listener Note α}
    {wanted : α → Standing Others Note → Prop}
    (without : standing.shared.client = none → wanted absent standing)
    (present : ∀ client, standing.shared.client = some client →
      Safe (act client standing.shared.now) wanted standing) :
    Safe (Client.withClient absent act) wanted standing := by
  rw [Client.withClient_eq]
  refine ⟨current, ?_⟩
  dsimp only
  cases stored : standing.shared.client with
  | none => exact without stored
  | some client => exact present client stored

/-- To put the client in a new state is safe if what is done then is. -/
theorem safe_store (current : standing.Current) {client : Client}
    {next : Unit → Act Others Listener Note α} {wanted : α → Standing Others Note → Prop}
    (safe : Safe (next ()) wanted (standing.withClient client)) :
    Safe ((Client.store client).bind next) wanted standing :=
  ⟨current, safe⟩

/-! ## What keeps a standing sound -/

/-- What has nothing to do with the client keeps a standing settled. -/
theorem Settled.share (settled : standing.Settled) {shared : Shared Others}
    (same : shared.client = standing.shared.client) : { standing with shared }.Settled :=
  { settled with
    asked := fun client present => settled.asked client (same ▸ present)
    keyed := fun client present => settled.keyed client (same ▸ present)
    kept := fun client present => settled.kept client (same ▸ present) }

/-- What others share has nothing to do with whether a standing is sound. -/
theorem Sound.share (sound : standing.Sound) {shared : Shared Others}
    (same : shared.client = standing.shared.client) : { standing with shared }.Sound :=
  { sound.toSettled.share same with
    present := fun there => sound.present (same ▸ there) }

/-- More slots than before keep a standing settled. -/
theorem Settled.grow (settled : standing.Settled) {slots : Slots Content}
    (more : standing.slots.contents.length ≤ slots.contents.length) :
    { standing with slots }.Settled :=
  { settled with
    handed := fun request listed => Nat.lt_of_lt_of_le (settled.handed request listed) more }

/-- More slots than before keep a standing sound. -/
theorem Sound.grow (sound : standing.Sound) {slots : Slots Content}
    (more : standing.slots.contents.length ≤ slots.contents.length) :
    { standing with slots }.Sound :=
  { sound.toSettled.grow more with present := sound.present }

/-- A standing stays sound when the client is given up. -/
theorem Sound.leave (sound : standing.Sound) :
    { standing with shared := { standing.shared with client := none } }.Sound where
  asked := by simp
  spaced := sound.spaced
  keyed := by simp
  renewed := sound.renewed
  routed := sound.routed
  kept := by simp
  covered := sound.covered
  handed := sound.handed
  begun := sound.begun
  present := fun there => absurd rfl there

/-- A note that is neither that a key was asked for or adopted nor that a document was handed on
keeps a standing sound. -/
theorem Sound.noted (sound : standing.Sound) {written : Mark Note}
    (unasked : written.asked? = none) (unrenewed : written.renewed? = none)
    (unrouted : written.routed? = none) : (standing.noted written).Sound := by
  have same {α : Type} {read : Mark Note → Option α} (nothing : read written = none) :
      (standing.noted written).marks.filterMap read = standing.marks.filterMap read := by
    rw [Standing.noted, List.filterMap_append, List.filterMap_cons_none nothing]
    exact List.append_nil _
  have asked : (standing.noted written).asked = standing.asked := same unasked
  exact { sound with
    asked := asked ▸ sound.asked
    spaced := by
      rw [Spaced, asked]
      exact sound.spaced
    renewed := (same unrenewed).trans sound.renewed
    routed := (same unrouted).trans sound.routed
    begun := asked ▸ sound.begun
    present := asked ▸ sound.present }

/-- Who was told anything has asked for a key. -/
theorem Settled.asked_of_reports (settled : standing.Settled) (reports : standing.reports ≠ []) :
    standing.asked ≠ [] := by
  obtain ⟨report, listed⟩ := List.exists_mem_of_ne_nil _ reports
  refine settled.begun ?_
  rintro owned
  have covered := settled.covered report.name
  have some_ : 0 < standing.told report.name :=
    List.length_pos_of_mem (List.mem_filter.mpr ⟨listed, beq_self_eq_true _⟩)
  rw [owned] at covered
  exact absurd covered (Nat.not_le.mpr some_)

/-- Who has a key has asked for one. -/
theorem Settled.asked_of_key (settled : standing.Settled) {client : Client}
    (present : standing.shared.client = some client) {now : Instant}
    (valid : client.credential.isValid now = true) : standing.asked ≠ [] := by
  obtain ⟨reply, latest, _⟩ := (settled.keyed client present).isValid_iff.mp valid
  refine settled.asked_of_reports ?_
  rintro reports
  rw [Standing.latest, reports] at latest
  exact absurd latest (by simp)

/-- While all is settled every slot that the client keeps is that of a request it has made. -/
theorem Settled.owned_of_kept (settled : standing.Settled) {request : String × Slot}
    (kept : request ∈ standing.shared.pending) : request ∈ standing.owned := by
  obtain ⟨name, slot⟩ := request
  cases present : standing.shared.client with
  | none =>
    rw [Shared.pending, present] at kept
    exact absurd kept List.not_mem_nil
  | some client =>
    rw [Shared.pending, present] at kept
    have among : slot ∈ slotsOf name client.pending :=
      List.mem_map.mpr ⟨_, List.mem_filter.mpr ⟨kept, beq_self_eq_true _⟩, rfl⟩
    rw [settled.kept client present name] at among
    obtain ⟨entry, listed, rfl⟩ := List.mem_map.mp (List.mem_of_mem_drop among)
    obtain ⟨owned, same⟩ := List.mem_filter.mp listed
    rw [beq_iff_eq] at same
    exact same ▸ owned

/-- Requests that the client has not just decided on are not its own. -/
theorem Settled.queued_eq (settled : standing.Settled) (request : Request) :
    standing.queued request = standing := by
  rw [queued, claimed]
  split
  · rename_i slot place
    rw [if_neg fun both => both.2 (settled.owned_of_kept both.1)]
  · rfl

end Standing

end Sailplane.Skysight
