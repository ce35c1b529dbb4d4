import Mathlib.Data.List.Nodup
import Sailplane.Download.Registry
import Sailplane.Skysight.Client

/-!
# The client's desk

What a client and the other users of its queue do, seen from the client: the slots it keeps for its
requests, the requests of which it has not yet been told that they are over, and the documents it
has handed on. A script that is well-behaved may only be interrupted while the slots go with the
requests and the documents with the notices. The scripts of the client are shown to be well-behaved
one by one, and every script that uses the client by them alone is well-behaved, too.
-/
namespace Sailplane.Download

/-- The slots that a request brings something to. -/
def Request.slots (request : Request) : List Slot :=
  (match request.destination with
    | .json slot => [slot]
    | .buffer slot => [slot]
    | .file _ => []) ++ request.data.digest.toList

end Sailplane.Download

namespace Sailplane.Skysight

open Download (Script Operation Slot Slots Content Event Entry Destination Registry Request
  RequestData Failure Users)

variable {Others Listener Note : Type}

/-- Whether a listener is the client. -/
def Member.isClient : Member Listener → Bool
  | client => true
  | other _ => false

/-- The slots that the client keeps for its requests, with their names. -/
def Shared.pending (shared : Shared Others) : List (String × Slot) :=
  shared.client.elim [] Client.pending

/-- The slots that the client keeps. -/
def keptSlots (shared : Shared Others) : List Slot := shared.pending.map (·.2)

/-- What the client does with a document after noting it down. -/
def Client.dispatch (handler : Handler Others Listener Note) (name : String) (document : Json) :
    Act Others Listener Note Bool :=
  match Route.of name with
  | .credential => Client.adopt handler document
  | .topic topic => handler.update topic document
  | .flag => handler.flag.bind fun _ => .done true

/-- What the client does with what it finds in the slot of a complete request. -/
def Client.handOn (handler : Handler Others Listener Note) (name : String) :
    Option Content → Act Others Listener Note Unit
  | some (.document document) => (Client.route handler name document).bind fun _ => .done ()
  | _ => .done ()

/-- When a request is complete the client takes its slot and hands on what it finds there. -/
theorem Client.hear_complete (handler : Handler Others Listener Note) (name : String) :
    Client.hear handler (.complete name) = Client.withPending name fun slot =>
      .call (.takeSlot slot) (Client.handOn handler name) := rfl

/-! ## Desks -/

/-- What matters to a client. -/
structure Desk (Others Listener : Type) where
  /-- What it shares with the other users of its queue. -/
  shared : Shared Others
  /-- The slots. -/
  slots : Slots Content
  /-- The registered listeners. -/
  registry : Registry (Member Listener)
  /-- The requests ever queued. -/
  requests : List Entry
  /-- The requests for documents of which the client was not told that they are over, in order:
  their names and where their results go. -/
  due : List (String × Destination)
  /-- The documents that were handed on, with the names of the requests. -/
  routed : List (String × Json)
  /-- What the requests have brought of which the client was told that they are complete. -/
  answered : List (String × Option Json)

namespace Desk

/-- The desk after something was noted down. -/
def noted (desk : Desk Others Listener) : Mark Note → Desk Others Listener
  | .routed name document => { desk with routed := desk.routed ++ [(name, document)] }
  | _ => desk

/-- Whether the slots go with the requests. Some names are for the client's documents. -/
structure Even (json : String → Bool) (desk : Desk Others Listener) : Prop where
  /-- No request brings anything to a slot that was not handed out. -/
  bounded : ∀ entry ∈ desk.requests, ∀ slot ∈ entry.request.slots,
    slot.number < desk.slots.contents.length
  /-- The slots kept are those of the requests that are due, in order. -/
  kept : desk.shared.pending.map (fun kept => (kept.1, .json kept.2)) = desk.due
  /-- What is due is for documents. -/
  own : ∀ request ∈ desk.due, json request.1 = true
  /-- The client listens once, under the number it knows. -/
  listens : desk.registry.registered.filter (fun entry => entry.2.isClient) =
    desk.shared.client.toList.map fun client => (client.registration, .client)
  /-- Without a client no documents were requested. -/
  vacant : desk.shared.client = none → ∀ entry ∈ desk.requests, json entry.name = false

/-- Whether the slots go with the requests and the documents with the notices. -/
structure Level (json : String → Bool) (desk : Desk Others Listener) : Prop
    extends Even json desk where
  /-- What was handed on is what the complete requests have brought, in order. -/
  settled : desk.routed.map (fun routed => (routed.1, some routed.2)) = desk.answered

/-- Whether a request for a document may be queued: its slot is new and kept already. -/
structure Ready (json : String → Bool) (request : Request) (slot : Slot)
    (desk : Desk Others Listener) : Prop where
  /-- It is for a document. -/
  place : request.destination = .json slot
  /-- It brings nothing else. -/
  alone : request.data.digest = none
  /-- The slot was handed out. -/
  handed : slot.number < desk.slots.contents.length
  /-- The slot is empty. -/
  empty : desk.slots.get slot = none
  /-- No request brings anything to it. -/
  fresh : ∀ entry ∈ desk.requests, ∀ used ∈ entry.request.slots, used.number < slot.number
  /-- There is a client. -/
  present : desk.shared.client ≠ none
  /-- With the request all will be level. -/
  level : Level json { desk with due := desk.due ++ [(request.name, .json slot)] }

/-- Whether a request may be queued. -/
def Queues (json : String → Bool) (request : Request) (desk : Desk Others Listener) : Prop :=
  if json request.name = true then ∃ slot, Ready json request slot desk else Level json desk

/-! ## Well-behaved scripts -/

/-- Whether a call may be made, and what is done after it is right. After a call that lets others
do something the desk may be any that is level. The client itself takes no slot that it keeps. -/
def Calls (json : String → Bool) (client : Bool) : (operation : Operation (Member Listener)) →
    (operation.Reply → Desk Others Listener → Prop) → Desk Others Listener → Prop
  | .newSlot, next, desk => next desk.slots.fresh.1 { desk with slots := desk.slots.fresh.2 }
  | .takeSlot slot, next, desk =>
    Even json desk ∧ (client = true → slot ∉ keptSlots desk.shared) ∧
      next (desk.slots.take slot).1 { desk with slots := (desk.slots.take slot).2 }
  | .register listener, next, desk =>
    next (desk.registry.add listener).1 { desk with registry := (desk.registry.add listener).2 }
  | .enqueue request, next, desk =>
    Queues json request desk ∧ ∀ after, Level json after → next () after
  | .enumerate listener, next, desk =>
    listener.isClient = false ∧ Level json desk ∧ ∀ after, Level json after → next () after
  | .shutdown, _, _ => False
  | .cancel _, next, desk | .unregister _, next, desk | .isIdle, next, desk
  | .entries, next, desk | .watchIdle _, next, desk | .readSlot _, next, desk
  | .signal _, next, desk =>
    Level json desk ∧ ∀ reply after, Level json after → next reply after

/-- Whether a script makes only calls that may be made and ends as wanted. If it is the client's
own, and has a receiver for documents, it notes a document down only to hand it to that and do
nothing else; what it does from then on is what others may do. -/
def Leads (json : String → Bool) {α : Type} (receiver : Option (Handler Others Listener Note)) :
    Act Others Listener Note α → (α → Desk Others Listener → Prop) → Desk Others Listener → Prop
  | .done result, wanted, desk => wanted result desk
  | .call operation next, wanted, desk =>
    Calls json receiver.isSome operation (fun reply => Leads json receiver (next reply) wanted) desk
  | .get next, wanted, desk => Leads json receiver (next desk.shared) wanted desk
  | .set shared next, wanted, desk => Leads json receiver next wanted { desk with shared }
  | .note written next, wanted, desk =>
    (∀ name document, written = .routed name document → ∃ handler ∈ receiver, ∃ result,
      next = (Client.dispatch handler name document).bind fun _ => .done result) ∧
      Leads json none next wanted (desk.noted written)

/-- Whether a script leaves the desk level in the end, as another user's or as the client's own. -/
def Behaves (json : String → Bool) (handler : Handler Others Listener Note)
    (script : Act Others Listener Note Unit) (desk : Desk Others Listener) : Prop :=
  ∃ receiver, (∀ other ∈ receiver, other = handler) ∧
    Leads json receiver script (fun _ => Level json) desk

variable {json : String → Bool} {handler : Handler Others Listener Note}
  {receiver : Option (Handler Others Listener Note)} {desk : Desk Others Listener} {α β : Type}

/-- A call may be made whatever comes after it as long as that is right. -/
theorem Calls.imp {operation : Operation (Member Listener)} {client : Bool}
    {next other : operation.Reply → Desk Others Listener → Prop}
    (implied : ∀ reply after, next reply after → other reply after)
    (calls : Calls json client operation next desk) : Calls json client operation other desk := by
  cases operation with
  | newSlot => exact implied _ _ calls
  | register listener => exact implied _ _ calls
  | takeSlot slot => exact ⟨calls.1, calls.2.1, implied _ _ calls.2.2⟩
  | enqueue request => exact ⟨calls.1, fun after level => implied _ _ (calls.2 after level)⟩
  | enumerate listener =>
    exact ⟨calls.1, calls.2.1, fun after level => implied _ _ (calls.2.2 after level)⟩
  | shutdown => exact calls
  | cancel | unregister | isIdle | entries | watchIdle | readSlot | signal =>
    exact ⟨calls.1, fun reply after level => implied _ _ (calls.2 reply after level)⟩

/-- A script that is well-behaved as another user's leaves the desk level. -/
theorem behaves_of_leads {script : Act Others Listener Note Unit}
    (leads : Leads json none script (fun _ => Level json) desk) :
    Behaves json handler script desk :=
  ⟨none, by simp, leads⟩

namespace Leads

/-- A script that is well-behaved and then another that is make one that is. -/
theorem bind {script : Act Others Listener Note α} {next : α → Act Others Listener Note β}
    {wanted : β → Desk Others Listener → Prop}
    (leads : Leads json none script
      (fun result => Leads json none (next result) wanted) desk) :
    Leads json none (script.bind next) wanted desk := by
  induction script generalizing desk with
  | done result => exact leads
  | call operation rest ih => exact Calls.imp (fun reply after => ih reply) leads
  | get rest ih => exact ih _ leads
  | set shared rest ih => exact ih leads
  | note written rest ih =>
    refine ⟨fun name document routed => ?_, ih leads.2⟩
    -- Without a receiver no document is noted down, so nothing comes after one.
    obtain ⟨_, nobody, _⟩ := leads.1 name document routed
    exact absurd nobody (by simp)

/-- A well-behaved script may end as it does or better than wanted. -/
theorem imp {script : Act Others Listener Note α} {wanted other : α → Desk Others Listener → Prop}
    (implied : ∀ result after, wanted result after → other result after)
    (leads : Leads json none script wanted desk) : Leads json none script other desk := by
  induction script generalizing desk with
  | done result => exact implied result desk leads
  | call operation rest ih => exact Calls.imp (fun reply after => ih reply) leads
  | get rest ih => exact ih _ leads
  | set shared rest ih => exact ih leads
  | note written rest ih => exact ⟨leads.1, ih leads.2⟩

end Leads

/-! ## Desks that stay level -/

/-- More slots than before are slots for the requests. -/
theorem Even.grow (even : Even json desk) {slots : Slots Content}
    (more : desk.slots.contents.length ≤ slots.contents.length) :
    Even json { desk with slots } :=
  { even with
    bounded := fun entry listed slot used =>
      Nat.lt_of_lt_of_le (even.bounded entry listed slot used) more }

/-- A desk stays level with more slots than before. -/
theorem Level.grow (level : Level json desk) {slots : Slots Content}
    (more : desk.slots.contents.length ≤ slots.contents.length) :
    Level json { desk with slots } :=
  { level.toEven.grow more with settled := level.settled }

/-- The slots that a client keeps are those of the requests that are due. -/
theorem Even.kept_by (even : Even json desk) {client : Client}
    (present : desk.shared.client = some client) :
    client.pending.map (fun kept => (kept.1, Destination.json kept.2)) = desk.due := by
  have kept := even.kept
  rw [Shared.pending, present] at kept
  exact kept

/-- A desk stays level when the client changes its slots as the requests that are due, or its
key. -/
theorem Level.keep (level : Level json desk) {client : Client}
    (present : desk.shared.client = some client) (credential : Credential)
    {pending : List (String × Slot)} {due : List (String × Destination)}
    (kept : pending.map (fun kept => (kept.1, Destination.json kept.2)) = due)
    (own : ∀ request ∈ due, json request.1 = true) :
    Level json { desk with
      shared := { desk.shared with client := some { client with credential, pending } }, due } := by
  have listens := level.listens
  rw [present] at listens
  exact { level with
    kept := kept
    own := own
    listens := listens
    vacant := fun absent => absurd absent (Option.some_ne_none _) }

/-- A desk stays level when the client gets another key. -/
theorem Level.renew (level : Level json desk) {client : Client}
    (present : desk.shared.client = some client) (credential : Credential) :
    Level json
      { desk with shared := { desk.shared with client := some { client with credential } } } :=
  level.keep present credential (level.kept_by present) level.own

/-- A desk stays level when the other users share something else. -/
theorem Level.share (level : Level json desk) {shared : Shared Others}
    (same : shared.client = desk.shared.client) : Level json { desk with shared } := by
  have pending : shared.pending = desk.shared.pending := by
    rw [Shared.pending, same]
    rfl
  exact { level with
    kept := (congrArg _ pending).trans level.kept
    listens := level.listens.trans (congrArg (fun client : Option Client =>
      client.toList.map fun client => (client.registration, Member.client)) same.symm)
    vacant := fun absent => level.vacant (same.symm.trans absent) }

/-- A desk stays level when another listener is registered. -/
theorem Level.register (level : Level json desk) {listener : Member Listener}
    (other : listener.isClient = false) :
    Level json { desk with registry := (desk.registry.add listener).2 } := by
  refine { level with listens := ?_ }
  have unheard : [(desk.registry.next, listener)].filter (fun entry => entry.2.isClient) = [] :=
    List.filter_cons_of_neg (by simp [other])
  change (desk.registry.registered ++ [(desk.registry.next, listener)]).filter _ = _
  rw [List.filter_append, unheard, List.append_nil]
  exact level.listens

/-- The client is among the listeners once, if there is one. -/
theorem Even.hears (even : Even json desk) :
    desk.registry.listeners.filter Member.isClient =
      desk.shared.client.toList.map fun _ => Member.client := by
  have listens := congrArg (List.map Prod.snd) even.listens
  rw [List.map_map] at listens
  rw [Registry.listeners, List.filter_map]
  exact listens

/-- Nothing is kept under names that are not for documents. -/
theorem Even.unkept (even : Even json desk) {name : String} (other : json name = false) :
    ∀ kept ∈ desk.shared.pending, (kept.1 == name) = false := by
  intro kept listed
  refine beq_eq_false_iff_ne.mpr fun same => ?_
  have due : (kept.1, Destination.json kept.2) ∈ desk.due := by
    rw [← even.kept]
    exact List.mem_map_of_mem listed
  have own := even.own _ due
  rw [same, other] at own
  exact Bool.false_ne_true own

/-! ## Scripts of the client -/

/-- What is done with the client is well-behaved if it is for every client. -/
theorem leads_withClient {absent : α}
    {act : Client → Instant → Act Others Listener Note α}
    {wanted : α → Desk Others Listener → Prop}
    (without : desk.shared.client = none → wanted absent desk)
    (present : ∀ client, desk.shared.client = some client →
      Leads json receiver (act client desk.shared.now) wanted desk) :
    Leads json receiver (Client.withClient absent act) wanted desk := by
  obtain ⟨⟨client, now, others⟩, slots, registry, requests, due, routed, answered⟩ := desk
  cases client with
  | none => exact without rfl
  | some client => exact present client rfl

/-- A request for a document may be queued when a new slot is kept for it. -/
theorem Level.ready (level : Level json desk) {client : Client}
    (present : desk.shared.client = some client) {name : String} (own : json name = true)
    (url : String) {data : RequestData} (alone : data.digest = none) :
    Ready json (.json url name desk.slots.fresh.1 data) desk.slots.fresh.1
      { desk with
        slots := desk.slots.fresh.2
        shared := { desk.shared with
          client := some
            { client with pending := client.pending ++ [(name, desk.slots.fresh.1)] } } } := by
  have length : desk.slots.fresh.2.contents.length = desk.slots.contents.length + 1 :=
    List.length_append
  refine ⟨rfl, alone, ?_, ?_, level.bounded, Option.some_ne_none _, ?_⟩
  · exact length ▸ Nat.lt_succ_self _
  · simp [Slots.fresh, Slots.get]
  · have grown : Level json { desk with slots := desk.slots.fresh.2 } :=
      level.grow (length ▸ Nat.le_succ _)
    refine grown.keep present client.credential ?_ ?_
    · rw [List.map_append]
      exact congrArg (· ++ _) (level.kept_by present)
    · intro request listed
      rcases List.mem_append.mp listed with before | last
      · exact level.own request before
      · rw [List.mem_singleton.mp last]
        exact own

/-- To note down something else than a document is well-behaved. -/
theorem leads_note {written : Mark Note} {next : Act Others Listener Note α}
    {wanted : α → Desk Others Listener → Prop}
    (aside : ∀ name document, written ≠ .routed name document)
    (leads : Leads json none next wanted desk) :
    Leads json none (.note written next) wanted desk := by
  refine ⟨fun name document routed => absurd routed (aside name document), ?_⟩
  cases written with
  | routed name document => exact absurd rfl (aside name document)
  | asked | renewed | renounced | note => exact leads

/-- To queue a request for a document is well-behaved. -/
theorem leads_enqueue (level : Level json desk) (present : desk.shared.client ≠ none)
    {name : String} (own : json name = true) (url : String) {data : RequestData}
    (alone : data.digest = none) :
    Leads json none (Client.enqueue name url data : Act Others Listener Note Unit)
      (fun _ => Level json) desk := by
  change Leads json none (Script.bind (Client.withClient () fun client _ => Client.store
    { client with pending := client.pending ++ [(name, desk.slots.fresh.1)] }) fun _ =>
      Script.enqueue (.json url name desk.slots.fresh.1 data)) _
    { desk with slots := desk.slots.fresh.2 }
  refine Leads.bind (leads_withClient (fun absent => absurd absent present) ?_)
  intro client stored
  refine ⟨?_, fun _ after => after⟩
  have named : json (Request.json url name desk.slots.fresh.1 data).name = true := own
  rw [Queues, if_pos named]
  exact ⟨_, level.ready stored own url alone⟩

/-- To ask for a key is well-behaved. -/
theorem leads_requestKey (level : Level json desk) (own : json authRequest = true) :
    Leads json none (Client.requestKey : Act Others Listener Note Bool)
      (fun _ => Level json) desk := by
  refine leads_withClient (fun _ => level) fun client stored => ?_
  dsimp only
  generalize client.credential.beginRequest desk.shared.now = decided
  obtain ⟨decision, credential⟩ := decided
  cases decision with
  | throttled => exact level
  | reuse => exact level
  | send =>
    change Leads json none (.note (.asked desk.shared.now)
      ((Client.enqueue authRequest client.account.authUrl (Client.loginData client.account)).bind
        fun _ => .done true)) _ _
    exact leads_note (by simp) (Leads.bind
      (leads_enqueue (level.renew stored credential) (Option.some_ne_none _) own _ rfl))

/-- To ask for a document is well-behaved. -/
theorem leads_requestJson (level : Level json desk) {name : String} (own : json name = true)
    (part : String) :
    Leads json none (Client.requestJson name part : Act Others Listener Note Unit)
      (fun _ => Level json) desk :=
  leads_withClient (fun _ => level) fun _ stored =>
    leads_enqueue level (stored ▸ Option.some_ne_none _) own _ rfl

/-- To ask for a file is well-behaved if its name is not for documents. -/
theorem leads_download (level : Level json desk) {path : String}
    (other : ∀ name, Path.fileName? path = some name → json name = false) (url : String)
    (kind : FileKind) :
    Leads json none
      (Client.download url path kind : Act Others Listener Note (Except Refusal Unit))
      (fun _ => Level json) desk := by
  refine leads_withClient (fun _ => level) fun client stored => ?_
  dsimp only
  split
  · cases made : Request.file url path (if kind = .normal then .none else
        client.requestData desk.shared.now) with
    | error failure => exact level
    | ok request =>
      refine ⟨?_, fun _ after => after⟩
      rw [Request.file] at made
      cases called : Path.fileName? path with
      | none =>
        rw [called] at made
        exact absurd made (by simp)
      | some name =>
        rw [called, Except.ok.injEq] at made
        rw [Queues, if_neg (by rw [← made]; simp [other name called])]
        exact level
  · exact level

/-- To adopt an answer to a login is well-behaved if the handler is. -/
theorem leads_adopt (level : Level json desk)
    (polite : ∀ after, Level json after →
      Leads json none handler.newKey (fun _ => Level json) after)
    (document : Json) :
    Leads json none (Client.adopt handler document) (fun _ => Level json) desk := by
  rw [Client.adopt]
  split
  · exact level
  · refine leads_withClient (fun _ => level) fun client stored => ?_
    have renewed := level.renew stored (client.credential.apply ‹_›)
    refine Leads.bind ?_
    change Leads json none (if (client.credential.apply ‹_›).isValid _ then _ else _) _ _
    split
    · change Leads json none
        (.note (.renewed desk.shared.now) (handler.newKey.bind fun _ => .done true)) _ _
      exact leads_note (by simp) (Leads.bind (polite _ renewed))
    · exact renewed

/-- To give a key up is well-behaved. -/
theorem leads_renounce (level : Level json desk) (own : json authRequest = true) :
    Leads json none (Client.renounce : Act Others Listener Note Unit)
      (fun _ => Level json) desk := by
  have goesOn {after : Desk Others Listener} (still : Level json after) :
      Leads json none
        (.note .renounced (Client.requestKey.bind fun _ => .done ()) :
          Act Others Listener Note Unit) (fun _ => Level json) after :=
    leads_note (by simp) (Leads.bind (leads_requestKey still own))
  exact Leads.bind (leads_withClient (fun _ => goesOn level) fun client stored =>
    goesOn (level.renew stored client.credential.invalidate))

/-- The desk after the client was told that the first request of a name is over. -/
def told (desk : Desk Others Listener) (name : String) : Desk Others Listener :=
  { desk with due := desk.due.eraseP fun request => request.1 == name }

/-- The desk after the client was told that the first request of a name is complete. -/
def answer (desk : Desk Others Listener) (name : String) (document : Option Json) :
    Desk Others Listener :=
  { desk.told name with answered := desk.answered ++ [(name, document)] }

/-- The slot of the first request of a name is the first one kept for that name. -/
theorem Even.first_kept (even : Even json desk) {name : String} {slot : Slot}
    (first : (desk.due.find? fun request => request.1 == name) = some (name, .json slot)) :
    (desk.shared.pending.find? fun kept => kept.1 == name) = some (name, slot) := by
  rw [← even.kept, List.find?_map] at first
  obtain ⟨kept, found, same⟩ := Option.map_eq_some_iff.mp first
  obtain ⟨called, place⟩ := Prod.mk.inj same
  have whole : kept = (name, slot) := Prod.ext called (Destination.json.inj place)
  rw [← whole]
  exact found

/-- When the first request of a name is over and its slot is taken all is level again. -/
theorem Level.release (level : Level json desk) {client : Client}
    (present : desk.shared.client = some client) (name : String) :
    Level json { desk.told name with
      shared := { desk.shared with
        client := some { client with
          pending := client.pending.eraseP fun kept => kept.1 == name } } } := by
  refine level.keep present client.credential ?_ ?_
  · change _ = desk.due.eraseP _
    rw [← level.kept_by present, List.eraseP_map]
    rfl
  · exact fun request listed => level.own request (List.mem_of_mem_eraseP listed)

/-- What is done with the slot of the first request of a name is well-behaved if it is when the
slot was taken. -/
theorem leads_withPending (level : Level json desk) {name : String} {slot : Slot}
    (first : (desk.due.find? fun request => request.1 == name) = some (name, .json slot))
    {act : Slot → Act Others Listener Note Unit} {answered : List (String × Option Json)}
    (leads : ∀ shared, Level json { desk.told name with shared } →
      Leads json receiver (act slot) (fun _ => Level json)
        { desk.told name with shared, answered }) :
    Leads json receiver (Client.withPending name act) (fun _ => Level json)
      { desk.told name with answered } := by
  have found := level.first_kept first
  refine leads_withClient (fun absent => ?_) fun client stored => ?_
  · have absent : desk.shared.client = none := absent
    rw [Shared.pending, absent] at found
    exact absurd found (by simp)
  · have stored : desk.shared.client = some client := stored
    rw [Shared.pending, stored] at found
    have found : (client.pending.find? fun kept => kept.1 == name) = some (name, slot) := found
    dsimp only
    rw [Client.takePending?, found]
    exact leads _ (level.release stored name)

/-- Nothing is done about a name that is not for documents. -/
theorem leads_withPending_none (level : Level json desk) {name : String}
    (other : json name = false) (act : Slot → Act Others Listener Note Unit) :
    Leads json none (Client.withPending name act) (fun _ => Level json) desk := by
  refine leads_withClient (fun _ => level) fun client stored => ?_
  have unkept : (client.pending.find? fun kept => kept.1 == name) = none := by
    rw [List.find?_eq_none]
    intro kept listed
    refine ne_true_of_eq_false (level.unkept other kept ?_)
    rw [Shared.pending, stored]
    exact listed
  rw [Client.takePending?, unkept]
  exact level

/-- Whether a handler does nothing but what is well-behaved, and hands no documents on itself. -/
structure Courteous (json : String → Bool) (handler : Handler Others Listener Note) : Prop where
  /-- With documents. -/
  update : ∀ topic document desk, Level json desk →
    Leads json none (handler.update topic document) (fun _ => Level json) desk
  /-- When something else comes in. -/
  flag : ∀ desk, Level json desk → Leads json none handler.flag (fun _ => Level json) desk
  /-- When a new key is in use. -/
  newKey : ∀ desk, Level json desk →
    Leads json none handler.newKey (fun _ => Level json) desk

/-- To hand a document on is well-behaved if the handler is. -/
theorem leads_dispatch (courteous : Courteous json handler) (level : Level json desk)
    (name : String) (document : Json) :
    Leads json none (Client.dispatch handler name document) (fun _ => Level json) desk := by
  rw [Client.dispatch]
  split
  · exact leads_adopt level courteous.newKey document
  · exact courteous.update _ document desk level
  · exact Leads.bind (courteous.flag desk level)

/-- What the client does about a request that is queued, or whose name is not for documents, is
well-behaved. -/
theorem leads_hear_aside (handler : Handler Others Listener Note) (level : Level json desk)
    {event : Event} (aside : json event.name = true → ∃ name status, event = .added name status) :
    Leads json none (Client.hear handler event) (fun _ => Level json) desk := by
  cases event with
  | added name status => exact level
  | complete name | error name =>
    refine leads_withPending_none level ?_ _
    by_contra own
    obtain ⟨_, _, other⟩ := aside (Bool.not_eq_false _ ▸ own)
    exact Event.noConfusion other

/-- What the client does about a request that has failed or was cancelled is well-behaved. -/
theorem leads_hear_error (handler : Handler Others Listener Note) (level : Level json desk)
    (own : json authRequest = true) {name : String} {slot : Slot}
    (first : (desk.due.find? fun request => request.1 == name) = some (name, .json slot))
    (failure : Option Failure) :
    Leads json none (Client.hear handler (.error name failure)) (fun _ => Level json)
      (desk.told name) := by
  refine leads_withPending level first fun shared after => ?_
  dsimp only
  split
  · exact leads_renounce after own
  · exact after

/-- When its first slot of a name is taken off, the client does not keep that slot any more. -/
theorem Level.unkept_of_first {shared : Shared Others} {name : String} {slot : Slot}
    (after : Level json { desk.told name with shared })
    (first : (desk.due.find? fun request => request.1 == name) = some (name, .json slot))
    (distinct : (desk.due.map (·.2)).Nodup) : slot ∉ keptSlots shared := by
  intro keeps
  obtain ⟨kept, listed, same⟩ := List.mem_map.mp keeps
  have remains : (kept.1, Destination.json kept.2) ∈
      desk.due.eraseP fun request => request.1 == name := by
    have still := after.kept
    change _ = desk.due.eraseP _ at still
    rw [← still]
    exact List.mem_map_of_mem listed
  obtain ⟨called, before, later, split, passed⟩ := List.find?_eq_some_iff_append.mp first
  have erased : desk.due.eraseP (fun request => request.1 == name) = before ++ later := by
    rw [split, List.eraseP_append_right _ fun request among => by simpa using passed request among]
    exact congrArg (before ++ ·) (List.eraseP_cons_of_pos called)
  rw [erased] at remains
  rw [split, List.map_append, List.map_cons, List.nodup_middle, ← List.map_append,
    List.nodup_cons] at distinct
  exact distinct.1 (List.mem_map.mpr ⟨_, remains, congrArg Destination.json same⟩)

/-- What the client does about a request that is complete is well-behaved: it takes the document
that the request has brought and hands it on. -/
theorem leads_hear_complete (courteous : Courteous json handler) (level : Level json desk)
    {name : String} {slot : Slot} {document : Json}
    (first : (desk.due.find? fun request => request.1 == name) = some (name, .json slot))
    (distinct : (desk.due.map (·.2)).Nodup)
    (brought : desk.slots.get slot = some (.document document)) :
    Leads json (some handler) (Client.hear handler (.complete name)) (fun _ => Level json)
      (desk.answer name (some document)) := by
  rw [Client.hear_complete]
  refine leads_withPending level first fun shared after => ?_
  refine ⟨{ after.toEven with }, fun _ => after.unkept_of_first first distinct, ?_⟩
  have taken : (desk.slots.take slot).1 = some (.document document) := brought
  change Leads json (some handler) (Client.handOn handler name (desk.slots.take slot).1) _ _
  rw [taken]
  refine ⟨fun other found routed => ?_, ?_⟩
  · obtain ⟨rfl, rfl⟩ := Mark.routed.inj routed
    exact ⟨handler, rfl, (), rfl⟩
  · -- The document counts as handed on before the handler begins, which finds a level desk.
    refine Leads.bind (leads_dispatch courteous ?_ name document)
    have length : (desk.slots.take slot).2.contents.length = desk.slots.contents.length :=
      List.length_set
    have grown : Level json { desk.told name with shared, slots := (desk.slots.take slot).2 } :=
      after.grow (Nat.le_of_eq length.symm)
    refine { grown with settled := ?_ }
    change (desk.routed ++ [(name, document)]).map _ = desk.answered ++ [(name, some document)]
    rw [List.map_append, level.settled]
    rfl

/-- A client that starts is well-behaved if there is none yet. -/
theorem leads_connect (level : Level json desk) (absent : desk.shared.client = none)
    (own : json authRequest = true) (account : Config.Account) :
    Leads json none (Client.connect account : Act Others Listener Note Unit)
      (fun _ => Level json) desk := by
  have nothing := level.kept
  have nobody := level.listens
  rw [Shared.pending, absent] at nothing
  rw [absent] at nobody
  change Leads json none
    ((Client.store ⟨account, .empty, [], (desk.registry.add .client).1⟩).bind fun _ =>
      Client.requestKey.bind fun _ => .done ()) _
    { desk with registry := (desk.registry.add .client).2 }
  refine Leads.bind (Leads.bind (leads_requestKey ?_ own))
  refine { level with kept := nothing, listens := ?_, vacant := fun other => ?_ }
  · change (desk.registry.registered ++ [(desk.registry.next, Member.client)]).filter _ = _
    rw [List.filter_append, nobody]
    rfl
  · exact absurd other (Option.some_ne_none _)

end Desk

end Sailplane.Skysight
