import Sailplane.Proofs.Skysight.Civil

/-!
# What is said of the key

A client is told of its requests that they are over. Some of what it is told says something of its
key: that a login has failed, or what the service has answered to one. The credential goes by the
last of these; all else leaves it alone. When a key may be asked for is another matter: that goes by
when one was asked for last, whatever was said of the key since then.
-/
namespace Sailplane.Skysight

open Download (Slot Slots Content Event)

variable {Others : Type}

/-! ## Answers to a login -/

/-- Whether an answer to a login gives a key that is valid at a moment. -/
def CredentialReply.Grants (reply : CredentialReply) (now : Instant) : Prop :=
  reply.key ≠ "" ∧ ∃ limit ∈ calendarSecond? reply.validUntil, now < limit

/-- Whether an answer gives a valid key can be decided. -/
instance (reply : CredentialReply) (now : Instant) : Decidable (reply.Grants now) := by
  unfold CredentialReply.Grants
  infer_instance

namespace Credential

variable {credential : Credential} {latest : Option CredentialReply} {now : Instant}

/-- Whether a credential goes by an answer to a login, or has no key if there is none. -/
structure Follows (credential : Credential) (latest : Option CredentialReply) : Prop where
  /-- It has the key of the answer. -/
  key : credential.stored = latest.bind fun reply =>
    if reply.key.isEmpty then none else some reply.key
  /-- The key ends when the answer says. -/
  ends : credential.validUntil = latest.bind fun reply => calendarSecond? reply.validUntil

/-- A credential that nothing was said of has no key. -/
theorem follows_empty : empty.Follows none := ⟨rfl, rfl⟩

/-- A credential goes by the answer that it adopts. -/
theorem follows_apply (credential : Credential) (reply : CredentialReply) :
    (credential.apply reply).Follows (some reply) := ⟨rfl, rfl⟩

/-- A credential that forgets its key has none. -/
theorem follows_invalidate (credential : Credential) : credential.invalidate.Follows none :=
  ⟨rfl, rfl⟩

/-- A credential goes on as it did when something is recorded about requests. -/
theorem Follows.requested (follows : credential.Follows latest) (requestedAt : Option Instant) :
    { credential with requestedAt }.Follows latest :=
  ⟨follows.key, follows.ends⟩

/-- A credential is valid exactly when the answer by which it goes gives a valid key. -/
theorem Follows.isValid_iff (follows : credential.Follows latest) :
    credential.isValid now = true ↔ ∃ reply ∈ latest, reply.Grants now := by
  rw [isValid, follows.key, follows.ends]
  cases latest with
  | none => simp
  | some reply =>
    by_cases empty : reply.key = ""
    · simp [CredentialReply.Grants, empty]
    · simp [CredentialReply.Grants, empty, Option.any_eq_true]

/-- The key in use is that of the answer by which a credential goes. -/
theorem Follows.key?_eq {reply : CredentialReply} (follows : credential.Follows (some reply))
    (grants : reply.Grants now) : credential.key? now = some reply.key := by
  have valid : credential.isValid now = true := follows.isValid_iff.mpr ⟨reply, rfl, grants⟩
  rw [key?, if_pos valid, follows.key]
  simp [grants.1]

/-- Without a valid key there is none in use. -/
theorem key?_eq_none (invalid : credential.isValid now = false) : credential.key? now = none := by
  rw [key?, if_neg (ne_true_of_eq_false invalid)]

/-! ## When a key is asked for -/

/-- It is too early to ask for a key exactly within a minute of when one was last asked for. -/
theorem throttled_iff : (credential.beginRequest now).1 = .throttled ↔
    ∃ last ∈ credential.requestedAt, now < last + requestInterval := by
  rw [beginRequest]
  split
  · rename_i early
    simpa [Option.any_eq_true] using early
  · rename_i late
    split
    · simpa [Option.any_eq_true] using late
    · simpa [Option.any_eq_true] using late

/-- A key that will do is one that is valid for a while. -/
theorem valid_of_reuse (reuse : (credential.beginRequest now).1 = .reuse) :
    credential.isValid (now + reuseMargin) = true := by
  rw [beginRequest] at reuse
  split at reuse
  · exact KeyDecision.noConfusion reuse
  · split at reuse
    · assumption
    · exact KeyDecision.noConfusion reuse

/-- When a key is to be asked for, only that is recorded. -/
theorem beginRequest_of_send (sends : (credential.beginRequest now).1 = .send) :
    (credential.beginRequest now).2 = { credential with requestedAt := some now } := by
  rw [beginRequest] at sends ⊢
  split at sends
  · exact KeyDecision.noConfusion sends
  · split at sends
    · exact KeyDecision.noConfusion sends
    · rename_i late unfit
      rw [if_neg late, if_neg unfit]

/-- A key is asked for at the earliest a minute after one was last asked for. -/
theorem late_of_send (sends : (credential.beginRequest now).1 = .send) :
    ∀ last ∈ credential.requestedAt, last + requestInterval ≤ now := by
  intro last asked
  by_contra early
  have throttled := throttled_iff.mpr ⟨last, asked, Int.not_le.mp early⟩
  rw [sends] at throttled
  exact KeyDecision.noConfusion throttled

end Credential

/-! ## Reports -/

/-- What a client is told of a request for which it keeps a slot. -/
inductive Report where
  /-- It has failed or was cancelled. -/
  | lost (name : String)
  /-- It is complete; the document in the slot, if there is one, and what the clock shows. -/
  | came (name : String) (document : Option Json) (now : Instant)
  deriving Repr

namespace Report

/-- The name of the request. -/
def name : Report → String
  | lost name => name
  | came name _ _ => name

/-- The document that is there to be handed on, under the name of its request. -/
def document? : Report → Option (String × Json)
  | came name (some document) _ => some (name, document)
  | _ => none

/-- What is said of the key: that there is none, or an answer to a login. A login that is complete
without an answer says nothing. -/
def verdict? : Report → Option (Option CredentialReply)
  | lost name => if name = authRequest then some none else none
  | came name (some document) _ =>
    if name = authRequest then (credentialReply.ofValue document).toOption.map some else none
  | came _ none _ => none

/-- What the clock shows when an answer to a login gives a key that is valid then. -/
def renewal? (report : Report) : Option Instant :=
  match report with
  | lost _ => none
  | came _ _ now =>
    if ∃ verdict ∈ report.verdict?, ∃ reply ∈ verdict, reply.Grants now then some now else none

end Report

/-- The document in a slot. -/
def documentIn (slots : Slots Content) (slot : Slot) : Option Json :=
  match slots.get slot with
  | some (.document document) => some document
  | _ => none

/-- What a client is told by an event, if it keeps a slot for the request. -/
def reportOf (shared : Shared Others) (slots : Slots Content) : Event → Option Report
  | .added _ _ => none
  | .complete name =>
    (shared.pending.find? fun kept => kept.1 == name).map fun kept =>
      .came name (documentIn slots kept.2) shared.now
  | .error name _ =>
    (shared.pending.find? fun kept => kept.1 == name).map fun _ => .lost name

end Sailplane.Skysight
