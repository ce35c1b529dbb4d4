import Sailplane.Proofs.Skysight.Desk

/-!
# Polite scripts

What the other users of a client's queue may do: they call the queue, share what they like with each
other, and use the client by the requests it offers. They leave its slots and its key to it, and
neither empty the queue nor queue anything else under a name that is for the client's documents.
-/
namespace Sailplane.Skysight

open Download (Script Operation Users)

variable {Others Listener Note α : Type} {json : String → Bool}

/-- Whether other users may make a call. -/
def mayCall (json : String → Bool) : Operation (Member Listener) → Prop
  | .enqueue request => json request.name = false
  | .shutdown => False
  | .enumerate listener | .register listener => listener.isClient = false
  | _ => True

/-- The scripts of other users. Some names are for the client's documents. -/
inductive Polite (json : String → Bool) : Act Others Listener Note α → Prop where
  /-- The end. -/
  | done (result : α) : Polite json (.done result)
  /-- A call to the queue. -/
  | call {operation : Operation (Member Listener)}
    {next : operation.Reply → Act Others Listener Note α} (may : mayCall json operation)
    (rest : ∀ reply, Polite json (next reply)) : Polite json (.call operation next)
  /-- A look at what is shared. -/
  | look {next : Shared Others → Act Others Listener Note α}
    (rest : ∀ shared, Polite json (next shared)) : Polite json (.get next)
  /-- A change of what is shared that leaves the client alone. -/
  | change {update : Shared Others → Shared Others}
    {next : Shared Others → Act Others Listener Note α}
    (keeps : ∀ shared, (update shared).client = shared.client)
    (rest : ∀ shared, Polite json (next shared)) :
    Polite json (.get fun shared => .set (update shared) (next shared))
  /-- A note. -/
  | note (written : Note) {next : Act Others Listener Note α} (rest : Polite json next) :
    Polite json (.note (.note written) next)
  /-- The client is told to ask for a key. -/
  | requestKey {next : Bool → Act Others Listener Note α}
    (rest : ∀ sent, Polite json (next sent)) : Polite json (Client.requestKey.bind next)
  /-- The client is told to ask for a document. -/
  | requestJson {name : String} (own : json name = true) (part : String)
    {next : Unit → Act Others Listener Note α} (rest : Polite json (next ())) :
    Polite json ((Client.requestJson name part).bind next)
  /-- The client is told to ask for a file. -/
  | download (url : String) {path : String} (kind : FileKind)
    (other : ∀ name, Path.fileName? path = some name → json name = false)
    {next : Except Refusal Unit → Act Others Listener Note α}
    (rest : ∀ answer, Polite json (next answer)) :
    Polite json ((Client.download url path kind).bind next)

namespace Desk

variable {desk : Desk Others Listener}

/-- A call that other users may make is right if what is done after it is. -/
theorem calls_of_may {operation : Operation (Member Listener)} (may : mayCall json operation)
    {next : operation.Reply → Desk Others Listener → Prop}
    (rest : ∀ reply after, Level json after → next reply after) (level : Level json desk) :
    Calls json false operation next desk := by
  cases operation with
  | newSlot =>
    have length : desk.slots.fresh.2.contents.length = desk.slots.contents.length + 1 :=
      List.length_append
    exact rest _ _ (level.grow (length ▸ Nat.le_succ _))
  | takeSlot slot =>
    have length : (desk.slots.take slot).2.contents.length = desk.slots.contents.length :=
      List.length_set
    exact ⟨level.toEven, by simp, rest _ _ (level.grow (Nat.le_of_eq length.symm))⟩
  | register listener => exact rest _ _ (level.register may)
  | enqueue request =>
    refine ⟨?_, rest ()⟩
    rw [Queues, if_neg (ne_true_of_eq_false may)]
    exact level
  | enumerate listener => exact ⟨may, level, rest ()⟩
  | shutdown => exact may
  | cancel | unregister | isIdle | entries | watchIdle | readSlot | signal =>
    exact ⟨level, rest⟩

/-- Polite scripts are well-behaved. -/
theorem leads_polite (own : json authRequest = true) {script : Act Others Listener Note α}
    (polite : Polite json script) (level : Level json desk) :
    Leads json none script (fun _ => Level json) desk := by
  induction polite generalizing desk with
  | done result => exact level
  | call may rest ih => exact calls_of_may may (fun reply after still => ih reply still) level
  | look rest ih => exact ih _ level
  | change keeps rest ih => exact ih _ (level.share (keeps desk.shared))
  | note written rest ih => exact leads_note (by simp) (ih level)
  | requestKey rest ih =>
    exact Leads.bind ((leads_requestKey level own).imp fun sent after still => ih sent still)
  | requestJson named part rest ih =>
    exact Leads.bind ((leads_requestJson level named part).imp fun _ after still => ih still)
  | download url kind other rest ih =>
    exact Leads.bind ((leads_download level other url kind).imp fun answer after still =>
      ih answer still)

end Desk

end Sailplane.Skysight
