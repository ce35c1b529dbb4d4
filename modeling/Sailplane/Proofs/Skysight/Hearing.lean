import Sailplane.Proofs.Skysight.Safe

/-!
# What a client does when it is told something

A client that is told that a request is over takes the first slot it keeps for the name, hands on
what it finds there, adopts an answer to a login and asks for a key again when one was refused.
Until it has done so its standing need not be sound. It is by the time others may look: whatever the
client does before that is nothing that a civil script could do.
-/
namespace Sailplane.Skysight

open Download (Script Slot Slots Content Event Failure)

variable {Others Listener Note α β : Type}

/-- A handler that does nothing but what others may do. -/
structure Considerate (handler : Handler Others Listener Note) : Prop where
  /-- With documents. -/
  update : ∀ topic document, Civil (handler.update topic document)
  /-- When something else comes in. -/
  flag : Civil handler.flag
  /-- When a new key is in use. -/
  newKey : Civil handler.newKey

/-- What a client does with an answer to a login. -/
def Client.accept (handler : Handler Others Listener Note) (reply : CredentialReply)
    (client : Client) (now : Instant) : Act Others Listener Note Bool :=
  (Client.store { client with credential := client.credential.apply reply }).bind fun _ =>
    if (client.credential.apply reply).isValid now then
      .note (.renewed now) (handler.newKey.bind fun _ => .done true)
    else .done false

/-! ## What others do not do -/

/-- A client that has just asked for a key and waits for a request of a name. -/
def Client.waitingFor (client : Client) (name : String) (now : Instant) : Client :=
  { client with credential := { Credential.empty with requestedAt := some now },
                pending := [(name, ⟨0⟩)] }

/-- A client that has just asked for a key is idle. -/
theorem Client.idle_waitingFor (client : Client) (name : String) (now : Instant) :
    Idle (client.waitingFor name now) now := ⟨rfl, rfl⟩

namespace Civil

/-- No civil script lets an idle client change itself. -/
theorem not_withClient {absent : α} {act : Client → Instant → Act Others Listener Note α}
    {next : α → Act Others Listener Note β} (shared : Shared Others) {client changed : Client}
    (idle : Idle client shared.now) {last : Unit → Act Others Listener Note β}
    (stores : (act client shared.now).bind next = (Client.store changed).bind last) :
    ¬ Civil ((Client.withClient absent act).bind next) := by
  rw [Client.withClient_eq]
  have present : ({ shared with client := some client } : Shared Others).client = some client := rfl
  exact not_look present idle stores

/-- No civil script takes a slot from the client. -/
theorem not_withPending (shared : Shared Others) (client : Client) (name : String)
    (act : Slot → Act Others Listener Note Unit) : ¬ Civil (Client.withPending name act) := by
  let waiting := client.waitingFor name shared.now
  have taken : waiting.takePending? name = some (⟨0⟩, { waiting with pending := [] }) := by
    simp [waiting, Client.takePending?, Client.waitingFor]
  have present : ({ shared with client := some waiting } : Shared Others).client =
      some waiting := rfl
  rw [Client.withPending, Client.withClient_eq]
  refine not_look present (client.idle_waitingFor name shared.now)
    (?_ : _ = (Client.store { waiting with pending := [] }).bind fun _ => act ⟨0⟩)
  dsimp only [Option.elim_some]
  rw [taken]
  rfl

/-- No civil script takes what is in a slot and hands it on. -/
theorem not_handOn (handler : Handler Others Listener Note) (name : String) (slot : Slot) :
    ¬ Civil (.call (.takeSlot slot) (Client.handOn handler name)) := by
  intro civil
  obtain ⟨own, same⟩ := note_cases (civil.after_call rfl (some (.document .null))) rfl
  exact absurd same (by simp)

end Civil

namespace Standing

variable {handler : Handler Others Listener Note} {standing : Standing Others Note}
  {client : Client}

/-! ## Reports that come in -/

/-- The standing after the client was told something. -/
def heard (standing : Standing Others Note) (report : Report) : Standing Others Note :=
  { standing with reports := standing.reports ++ [report] }

/-- What says nothing of the key leaves the answer by which it goes. -/
theorem latest_heard_none {report : Report} (nothing : report.verdict? = none) :
    (standing.heard report).latest = standing.latest := by
  rw [latest, latest, heard, List.filterMap_append, List.filterMap_cons_none nothing]
  simp

/-- What says something of the key is what it goes by. -/
theorem latest_heard_some (standing : Standing Others Note) {report : Report}
    {verdict : Option CredentialReply}
    (about : report.verdict? = some verdict) : (standing.heard report).latest = verdict := by
  rw [latest, heard, List.filterMap_append, List.filterMap_cons_some about]
  simp

/-- Of a name the client was told once more. -/
theorem told_heard (report : Report) (name : String) :
    (standing.heard report).told name =
      standing.told name + if report.name = name then 1 else 0 := by
  rw [told, told, heard, List.filter_append, List.length_append, List.filter_cons, List.filter_nil]
  by_cases same : report.name = name
  · simp [same]
  · simp [same]

/-- The standing after the client has taken the first slot of a name, has come to a credential and
has noted something down. -/
def answered (standing : Standing Others Note) (report : Report) (client : Client)
    (credential : Credential) (slots : Slots Content) (more : List (Mark Note)) :
    Standing Others Note where
  shared := { standing.shared with
    client := some { client with
      credential, pending := client.pending.eraseP fun kept => kept.1 == report.name } }
  slots
  marks := standing.marks ++ more
  reports := standing.reports ++ [report]
  owned := standing.owned

/-- What is noted down when a client has answered is not that it has asked for a key. -/
theorem asked_answered {report : Report} {credential : Credential} {slots : Slots Content}
    {more : List (Mark Note)} (unasked : more.filterMap Mark.asked? = []) :
    (standing.answered report client credential slots more).asked = standing.asked := by
  rw [Standing.asked, answered, List.filterMap_append, unasked, List.append_nil]
  rfl

/-- What is noted down of each kind goes on with what is noted down of that kind. -/
theorem filterMap_marks {α : Type} {read : Mark Note → Option α} {made : List α}
    {more : List (Mark Note)} {new : Option α} (before : standing.marks.filterMap read = made)
    (added : more.filterMap read = new.toList) :
    (standing.marks ++ more).filterMap read = made ++ new.toList := by
  rw [List.filterMap_append, before, added]

/-- While a client keeps a slot for a name it was told of fewer requests than it has made. -/
theorem Settled.told_lt (settled : standing.Settled)
    (present : standing.shared.client = some client) {name : String} {slot : Slot}
    (first : (client.pending.find? fun kept => kept.1 == name) = some (name, slot)) :
    standing.told name < (slotsOf name standing.owned).length := by
  have among : slot ∈ slotsOf name client.pending :=
    List.mem_map.mpr ⟨_, List.mem_filter.mpr
      ⟨List.mem_of_find?_eq_some first, beq_self_eq_true _⟩, rfl⟩
  rw [settled.kept client present] at among
  have left := List.length_pos_of_mem among
  rw [List.length_drop] at left
  omega

/-- A standing is sound when the client has done what it was told to do: its key goes by what was
said of it, and it has noted down the document it has handed on and the key it has adopted. -/
theorem Sound.answer (sound : standing.Sound) (present : standing.shared.client = some client)
    (report : Report) {slot : Slot}
    (first : (client.pending.find? fun kept => kept.1 == report.name) = some (report.name, slot))
    (credential : Credential) (requested : credential.requestedAt = client.credential.requestedAt)
    (follows : credential.Follows (standing.heard report).latest) {slots : Slots Content}
    (length : slots.contents.length = standing.slots.contents.length) (more : List (Mark Note))
    (unasked : more.filterMap Mark.asked? = [])
    (renewed : more.filterMap Mark.renewed? = report.renewal?.toList)
    (routed : more.filterMap Mark.routed? = report.document?.toList) :
    (standing.answered report client credential slots more).Sound := by
  have asked : (standing.answered report client credential slots more).asked = standing.asked :=
    asked_answered unasked
  have some_ : standing.asked ≠ [] := sound.present (by simp [present])
  have added {α : Type} (read : Report → Option α) :
      (standing.reports ++ [report]).filterMap read =
        standing.reports.filterMap read ++ (read report).toList := by
    rw [List.filterMap_append, List.filterMap_cons, List.filterMap_nil]
    cases read report with
    | _ => rfl
  exact {
    asked := fun other there => by
      rw [asked, ← Option.mem_some_iff.mp there]
      exact requested.trans (sound.asked client present)
    spaced := by
      rw [Spaced, asked]
      exact sound.spaced
    keyed := fun other there => by
      rw [← Option.mem_some_iff.mp there]
      exact follows
    renewed := (filterMap_marks sound.renewed renewed).trans (added _).symm
    routed := (filterMap_marks sound.routed routed).trans (added _).symm
    kept := fun other there name => by
      rw [← Option.mem_some_iff.mp there]
      change slotsOf name (client.pending.eraseP _) =
        (slotsOf name standing.owned).drop ((standing.heard report).told name)
      rw [slotsOf_eraseP, sound.kept client present, List.drop_drop, told_heard]
    covered := fun name => by
      change (standing.heard report).told name ≤ (slotsOf name standing.owned).length
      rw [told_heard]
      split
      · rename_i same
        exact same ▸ sound.told_lt present first
      · exact sound.covered name
    handed := fun request listed => by
      change _ < slots.contents.length
      rw [length]
      exact sound.handed request listed
    begun := fun _ => asked ▸ some_
    present := fun _ => asked ▸ some_ }

/-- A standing is sound when the client has done what it was told to do, if that was not about its
key. -/
theorem Sound.answer_silent (sound : standing.Sound)
    (present : standing.shared.client = some client) (report : Report) {slot : Slot}
    (first : (client.pending.find? fun kept => kept.1 == report.name) = some (report.name, slot))
    (silent : report.verdict? = none) {slots : Slots Content}
    (length : slots.contents.length = standing.slots.contents.length) (more : List (Mark Note))
    (unasked : more.filterMap Mark.asked? = []) (unrenewed : more.filterMap Mark.renewed? = [])
    (routed : more.filterMap Mark.routed? = report.document?.toList) :
    (standing.answered report client client.credential slots more).Sound := by
  have follows : client.credential.Follows (standing.heard report).latest := by
    rw [latest_heard_none silent]
    exact sound.keyed client present
  have nothing : report.renewal? = none := by
    cases report with
    | lost name => rfl
    | came name document now => simp [Report.renewal?, silent]
  refine sound.answer present report first _ rfl follows length more unasked ?_ routed
  rw [unrenewed, nothing]
  rfl

/-! ## Scripts that are safe soon -/

/-- Whether a client that is told something may note something down: that it hands a document on, or
that it has adopted a key, of which it tells its handler next. -/
def Brings (handler : Handler Others Listener Note) (next : Act Others Listener Note Unit)
    (shared : Shared Others) : Mark Note → Prop
  | .routed _ _ => True
  | .renewed now => now = shared.now ∧ ∃ rest, next = handler.newKey.bind rest
  | _ => False

/-- Whether a script is safe, or will be when the client has done what others do not do. -/
inductive Soon (handler : Handler Others Listener Note) :
    Act Others Listener Note Unit → Standing Others Note → Prop where
  /-- It is safe. -/
  | safe {script : Act Others Listener Note Unit} {standing : Standing Others Note}
    (safe : Safe script (fun _ => Sound) standing) : Soon handler script standing
  /-- The client looks. -/
  | look {next : Shared Others → Act Others Listener Note Unit} {standing : Standing Others Note}
    (own : ¬ Civil (.get next)) (rest : Soon handler (next standing.shared) standing) :
    Soon handler (.get next) standing
  /-- The client changes itself. -/
  | change {shared : Shared Others} {next : Act Others Listener Note Unit}
    {standing : Standing Others Note} (rest : Soon handler next { standing with shared }) :
    Soon handler (.set shared next) standing
  /-- The client takes what is in a slot. -/
  | take {slot : Slot} {next : Option Content → Act Others Listener Note Unit}
    {standing : Standing Others Note} (own : ¬ Civil (.call (.takeSlot slot) next))
    (rest : Soon handler (next (standing.slots.take slot).1)
      { standing with slots := (standing.slots.take slot).2 }) :
    Soon handler (.call (.takeSlot slot) next) standing
  /-- The client notes something down. -/
  | note {written : Mark Note} {next : Act Others Listener Note Unit}
    {standing : Standing Others Note} (brings : Brings handler next standing.shared written)
    (rest : Soon handler next (standing.noted written)) :
    Soon handler (.note written next) standing

namespace Soon

/-- Whenever a script of others goes on all is as they may see it. -/
theorem current {script : Act Others Listener Note Unit} (soon : Soon handler script standing)
    (civil : Civil script) : standing.Current := by
  cases soon with
  | safe safe => exact safe.current civil
  | look own rest => exact absurd civil own
  | change rest => exact absurd rfl civil.not_changes
  | take own rest => exact absurd civil own
  | note brings rest =>
    obtain ⟨own, rfl⟩ := civil.note_cases rfl
    exact absurd brings id

/-- What is safe soon finds that keys were asked for at most once a minute. -/
theorem spaced {script : Act Others Listener Note Unit} (soon : Soon handler script standing) :
    standing.Spaced := by
  induction soon with
  | safe safe => exact safe.spaced
  | look own rest ih => exact ih
  | change rest ih => exact ih
  | take own rest ih => exact ih
  | note brings rest ih => exact spaced_of_noted ih

/-- A client that changes itself is safe soon if it is then. -/
theorem store {next : Unit → Act Others Listener Note Unit}
    (rest : Soon handler (next ()) (standing.withClient client)) :
    Soon handler ((Client.store client).bind next) standing :=
  .look (Civil.not_store standing.shared client next) (.change rest)

/-- What is done with the client is safe soon if it is for the client that is there. -/
theorem withClient (present : standing.shared.client = some client) {absent : α}
    {act : Client → Instant → Act Others Listener Note α}
    {next : α → Act Others Listener Note Unit}
    (own : ¬ Civil ((Client.withClient absent act).bind next))
    (rest : Soon handler ((act client standing.shared.now).bind next) standing) :
    Soon handler ((Client.withClient absent act).bind next) standing := by
  rw [Client.withClient_eq] at own ⊢
  refine .look own ?_
  dsimp only
  rw [present]
  exact rest

end Soon

/-! ## What the client does -/

/-- Nothing is done about a name for which the client keeps no slot. -/
theorem safe_withPending (sound : standing.Sound) {name : String}
    (unkept : (standing.shared.pending.find? fun kept => kept.1 == name) = none)
    (act : Slot → Act Others Listener Note Unit) :
    Safe (Client.withPending name act) (fun _ => Sound) standing := by
  refine safe_withClient sound.toCurrent (fun _ => sound) fun client present => ?_
  rw [Shared.pending, present] at unkept
  have nothing : (client.pending.find? fun kept => kept.1 == name) = none := unkept
  rw [Client.takePending?, nothing]
  exact sound

/-- A slot that is kept for a name is the first one that a client keeps for it. -/
theorem kept_of_find? {shared : Shared Others} {name : String} {kept : String × Slot}
    (found : (shared.pending.find? fun entry => entry.1 == name) = some kept) :
    ∃ client, shared.client = some client ∧
      (client.pending.find? fun entry => entry.1 == name) = some (name, kept.2) := by
  cases present : shared.client with
  | none =>
    rw [Shared.pending, present] at found
    exact absurd found (by simp)
  | some client =>
    rw [Shared.pending, present] at found
    have called : kept.1 = name := by simpa using List.find?_some found
    exact ⟨client, rfl, found.trans (by rw [← called])⟩

/-- What is done with the first slot of a name is safe soon if it is when the slot was taken off. -/
theorem soon_withPending (present : standing.shared.client = some client) {name : String}
    {slot : Slot}
    (first : (client.pending.find? fun kept => kept.1 == name) = some (name, slot))
    {act : Slot → Act Others Listener Note Unit}
    (rest : Soon handler (act slot) (standing.withClient
      { client with pending := client.pending.eraseP fun kept => kept.1 == name })) :
    Soon handler (Client.withPending name act) standing := by
  have own := Civil.not_withPending standing.shared client name act
  rw [Client.withPending, Client.withClient_eq] at own ⊢
  refine .look own ?_
  rw [present, Option.elim_some, Client.takePending?, first]
  exact Soon.store rest

/-- The standing of a client that was told something when it has noted nothing down. -/
theorem answered_nil (report : Report) (credential : Credential) :
    standing.answered report client credential standing.slots [] =
      (standing.heard report).withClient { client with
        credential, pending := client.pending.eraseP fun kept => kept.1 == report.name } := by
  rw [answered, List.append_nil]
  rfl

/-- The standing of a client that was told something when it notes one thing more down. -/
theorem noted_answered (report : Report) (credential : Credential) (slots : Slots Content)
    (more : List (Mark Note)) (written : Mark Note) :
    (standing.answered report client credential slots more).noted written =
      standing.answered report client credential slots (more ++ [written]) := by
  rw [noted, answered, answered, List.append_assoc]

/-- A client that is told that a request has failed or was cancelled is safe soon. -/
theorem soon_lost (sound : standing.Sound) (present : standing.shared.client = some client)
    {name : String} {slot : Slot}
    (first : (client.pending.find? fun kept => kept.1 == name) = some (name, slot))
    (failure : Option Failure) :
    Soon handler (Client.hear handler (.error name failure)) (standing.heard (.lost name)) := by
  have there : (standing.heard (.lost name)).shared.client = some client := present
  refine soon_withPending there first ?_
  by_cases login : name = authRequest
  · rw [if_pos (beq_iff_eq.mpr login)]
    have still := sound.answer present (.lost name) first client.credential.invalidate rfl
      (by
        rw [latest_heard_some _ (by rw [Report.verdict?, if_pos login])]
        exact Credential.follows_invalidate _) rfl [] rfl rfl rfl
    rw [answered_nil] at still
    change Soon handler ((Client.withClient () fun client _ => Client.store
      { client with credential := client.credential.invalidate }).bind fun _ =>
        .note .renounced (Client.requestKey.bind fun _ => .done ())) _
    refine Soon.withClient rfl ?_ (.store (.safe ⟨trivial, Safe.bind ?_⟩))
    · exact Civil.not_withClient standing.shared (client.idle_waitingFor name _) rfl
    · exact safe_requestKey (still.noted rfl rfl rfl).toSettled
  · rw [if_neg (by simpa using login)]
    have still := sound.answer_silent present (.lost name) first
      (by rw [Report.verdict?, if_neg login]) rfl [] rfl rfl rfl
    rw [answered_nil] at still
    exact .safe still

/-- Answers to logins go to the credential, and nothing else does. -/
theorem route_eq_credential_iff {name : String} :
    Route.of name = .credential ↔ name = authRequest := by
  rw [Route.of]
  by_cases login : name = authRequest
  · simp [login]
  · rw [if_neg (by simpa using login)]
    simp only [login, iff_false]
    split_ifs
    all_goals simp

/-- An answer to a login that is complete gives a valid key, or does not. -/
theorem renewal_of_reply {name : String} {document : Option Json} {now : Instant}
    {reply : CredentialReply}
    (about : (Report.came name document now).verdict? = some (some reply)) :
    (Report.came name document now).renewal? = if reply.Grants now then some now else none := by
  simp [Report.renewal?, about]

/-- A client that takes an answer to a login is safe soon if its standing is sound when it has. -/
theorem soon_accept (newKey : Civil handler.newKey)
    (present : standing.shared.client = some client) (reply : CredentialReply)
    (ends : ¬ reply.Grants standing.shared.now →
      (standing.withClient { client with credential := client.credential.apply reply }).Sound)
    (renews : reply.Grants standing.shared.now →
      ((standing.withClient { client with credential := client.credential.apply reply }).noted
        (.renewed standing.shared.now)).Sound) :
    Soon handler ((Client.withClient false (Client.accept handler reply)).bind fun _ => .done ())
      standing := by
  refine Soon.withClient present ?_ ?_
  · exact Civil.not_withClient standing.shared (client.idle_waitingFor "" _)
      (Script.bind_assoc _ _ _)
  · rw [Client.accept, Script.bind_assoc]
    refine Soon.store ?_
    have valid : (client.credential.apply reply).isValid standing.shared.now = true ↔
        ∃ given ∈ some reply, given.Grants standing.shared.now :=
      (Credential.follows_apply client.credential reply).isValid_iff
    by_cases grants : reply.Grants standing.shared.now
    · rw [if_pos (valid.mpr ⟨reply, rfl, grants⟩)]
      refine .note ⟨rfl, _, Script.bind_assoc _ _ _⟩ (.safe (Safe.bind (Safe.bind ?_)))
      exact (safe_of_civil newKey (renews grants)).imp fun _ _ still => still
    · rw [if_neg fun granted => grants (by simpa using valid.mp granted)]
      exact .safe (ends grants)

/-- A client that adopts an answer to a login is safe soon. -/
theorem soon_adopt (newKey : Civil handler.newKey) (sound : standing.Sound)
    (present : standing.shared.client = some client) {slot : Slot}
    (first : (client.pending.find? fun kept => kept.1 == authRequest) = some (authRequest, slot))
    (document : Json) {slots : Slots Content}
    (length : slots.contents.length = standing.slots.contents.length) :
    Soon handler ((Client.adopt handler document).bind fun _ => .done ())
      (standing.answered (.came authRequest (some document) standing.shared.now) client
        client.credential slots [.routed authRequest document]) := by
  rw [Client.adopt]
  split
  · rename_i failure undecoded
    have nothing :
        (Report.came authRequest (some document) standing.shared.now).verdict? = none := by
      rw [Report.verdict?, if_pos rfl, undecoded]
      rfl
    exact .safe (sound.answer_silent present (.came authRequest (some document) _) first nothing
      length [.routed authRequest document] rfl rfl rfl)
  · rename_i reply decoded
    have about : (Report.came authRequest (some document) standing.shared.now).verdict? =
        some (some reply) := by
      rw [Report.verdict?, if_pos rfl, decoded]
      rfl
    have follows := Credential.follows_apply client.credential reply
    rw [← latest_heard_some standing about] at follows
    refine soon_accept newKey rfl reply (fun expired => ?_) fun grants => ?_
    · have expired : ¬ reply.Grants standing.shared.now := expired
      refine sound.answer present (.came authRequest (some document) _) first
        (client.credential.apply reply) rfl follows length _ rfl ?_ rfl
      rw [renewal_of_reply about, if_neg expired]
      rfl
    · have grants : reply.Grants standing.shared.now := grants
      have still := sound.answer present (.came authRequest (some document) _) first
        (client.credential.apply reply) rfl follows length
        ([.routed authRequest document] ++ [.renewed standing.shared.now]) rfl
        (by rw [renewal_of_reply about, if_pos grants]; rfl) rfl
      rw [← noted_answered] at still
      exact still

/-- Where there is no document none is handed on. -/
theorem handOn_of_empty {name : String} {content : Option Content}
    (empty : ∀ document, content ≠ some (.document document)) :
    Client.handOn handler name content = .done () := by
  rw [Client.handOn.eq_def]
  split
  · rename_i document
    exact absurd rfl (empty document)
  · rfl

/-- A client that is told that a request is complete is safe soon. -/
theorem soon_came (considerate : Considerate handler) (sound : standing.Sound)
    (present : standing.shared.client = some client) {name : String} {slot : Slot}
    (first : (client.pending.find? fun kept => kept.1 == name) = some (name, slot)) :
    Soon handler (Client.hear handler (.complete name))
      (standing.heard (.came name (documentIn standing.slots slot) standing.shared.now)) := by
  rw [Client.hear_complete]
  have length : (standing.slots.take slot).2.contents.length = standing.slots.contents.length :=
    List.length_set
  have there : (standing.heard (.came name (documentIn standing.slots slot)
    standing.shared.now)).shared.client = some client := present
  refine soon_withPending there first
    (.take (Civil.not_handOn handler name slot) ?_)
  change Soon handler (Client.handOn handler name (standing.slots.get slot)) _
  rw [documentIn]
  split
  · rename_i document filled
    rw [filled]
    refine .note trivial ?_
    change Soon handler ((Client.dispatch handler name document).bind fun _ => .done ()) _
    -- Only an answer to a login has a word on the key.
    have other (aside : Route.of name ≠ .credential) :
        (standing.answered (.came name (some document) standing.shared.now) client
          client.credential (standing.slots.take slot).2 [.routed name document]).Sound := by
      have silent : (Report.came name (some document) standing.shared.now).verdict? = none := by
        rw [Report.verdict?, if_neg (mt route_eq_credential_iff.mpr aside)]
      exact sound.answer_silent present (.came name (some document) _) first silent length
        [.routed name document] rfl rfl rfl
    rw [Client.dispatch]
    split
    · rename_i route
      obtain rfl := route_eq_credential_iff.mp route
      exact soon_adopt considerate.newKey sound present first document length
    · rename_i topic route
      have still := other (by simp [route])
      exact .safe (Safe.bind ((safe_of_civil (considerate.update topic document) still).imp
        fun _ _ after => after))
    · rename_i route
      have still := other (by simp [route])
      exact .safe (Safe.bind (Safe.bind ((safe_of_civil considerate.flag still).imp
        fun _ _ after => after)))
  · rename_i empty
    rw [handOn_of_empty empty]
    have still := sound.answer_silent present (.came name none standing.shared.now) first rfl
      length [] rfl rfl rfl
    rw [answered, List.append_nil] at still
    exact .safe still

/-- A client that is told something is safe soon. -/
theorem soon_hear (considerate : Considerate handler) (sound : standing.Sound) (event : Event) :
    Soon handler (Client.hear handler event) { standing with
      reports := standing.reports ++ (reportOf standing.shared standing.slots event).toList } := by
  -- Without a slot for the name there is no report, and nothing is done.
  have unheard {script : Act Others Listener Note Unit} {report : Option Report}
      (none_ : report = none) (safe : Safe script (fun _ => Sound) standing) :
      Soon handler script
        { standing with reports := standing.reports ++ report.toList } := by
    rw [none_, Option.toList_none, List.append_nil]
    exact .safe safe
  cases event with
  | added name status => exact unheard rfl sound
  | complete name =>
    cases found : standing.shared.pending.find? fun kept => kept.1 == name with
    | none => exact unheard (by rw [reportOf, found]; rfl) (safe_withPending sound found _)
    | some kept =>
      obtain ⟨client, present, first⟩ := kept_of_find? found
      rw [reportOf, found]
      exact soon_came considerate sound present first
  | error name failure =>
    cases found : standing.shared.pending.find? fun kept => kept.1 == name with
    | none => exact unheard (by rw [reportOf, found]; rfl) (safe_withPending sound found _)
    | some kept =>
      obtain ⟨client, present, first⟩ := kept_of_find? found
      rw [reportOf, found]
      exact soon_lost sound present first failure

end Standing

end Sailplane.Skysight
