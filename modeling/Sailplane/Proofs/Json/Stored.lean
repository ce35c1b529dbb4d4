import Sailplane.Json.Format
import Sailplane.Proofs.Numeric.Finite

/-!
# Stored values

A stored value has the fields of its objects in the order of their names, and no number in it is
infinite or undefined. A format is faithful to some values of its type if it reads back the stored
form of each of them, and if whatever it reads from a value without such numbers is one of them.
Both are predicates of a format, and each combinator here keeps them: which values of a type can be
stored depends on the type.
-/
namespace Sailplane

namespace Named

variable {α : Type}

/-- The values under a name, in their order. -/
def under (name : String) (entries : List (String × α)) : List α :=
  (entries.filter fun entry => entry.1 == name).map (·.2)

theorem under_cons (name : String) (entry : String × α) (entries : List (String × α)) :
    under name (entry :: entries) =
      if entry.1 = name then entry.2 :: under name entries else under name entries := by
  unfold under
  rw [List.filter_cons]
  by_cases same : entry.1 = name <;> simp [same]

/-- A name that occurs once has one value. -/
theorem under_of_mem {entries : List (String × α)} (distinct : (entries.map (·.1)).Nodup)
    {entry : String × α} (mem : entry ∈ entries) : under entry.1 entries = [entry.2] := by
  induction entries with
  | nil => cases mem
  | cons first rest ih =>
    obtain ⟨absent, distinct⟩ := List.nodup_cons.mp distinct
    have alone : ∀ name, name ∉ rest.map (·.1) → under name rest = [] := by
      intro name missing
      refine List.map_eq_nil_iff.mpr (List.filter_eq_nil_iff.mpr fun other inRest same => ?_)
      exact missing (List.mem_map.mpr ⟨other, inRest, beq_iff_eq.mp same⟩)
    rw [under_cons]
    rcases List.mem_cons.mp mem with rfl | inRest
    · rw [if_pos rfl, alone _ absent]
    · have other : first.1 ≠ entry.1 := fun same =>
        absent (List.mem_map.mpr ⟨entry, inRest, same.symm⟩)
      rw [if_neg other, ih distinct inRest]

/-- The values under a name do not depend on entries of another. -/
theorem under_filter_other {name other : String} (differs : name ≠ other)
    (entries : List (String × α)) :
    under name (entries.filter fun entry => entry.1 != other) = under name entries := by
  unfold under
  rw [List.filter_filter]
  congr 1
  refine List.filter_congr fun entry _ => ?_
  by_cases same : entry.1 = name <;> simp [same, differs]

theorem insert_perm {name : String} (value : α) {entries : List (String × α)}
    (fresh : name ∉ entries.map (·.1)) :
    (insert name value entries).Perm ((name, value) :: entries) := by
  induction entries with
  | nil => exact .refl _
  | cons first rest ih =>
    obtain ⟨differs, fresh⟩ := not_or.mp (mt List.mem_cons.mpr fresh)
    unfold insert
    split
    · exact .refl _
    · rw [if_neg (by simpa using differs)]
      exact ((ih fresh).cons first).trans (.swap _ _ _)

/-- Sorting entries of different names loses none of them. -/
theorem ofList_perm {entries : List (String × α)} (distinct : (entries.map (·.1)).Nodup) :
    (ofList entries).Perm entries := by
  suffices ∀ sorted : List (String × α), ((sorted ++ entries).map (·.1)).Nodup →
      (entries.foldl (fun sorted entry => insert entry.1 entry.2 sorted) sorted).Perm
        (sorted ++ entries) from this [] distinct
  clear distinct
  induction entries with
  | nil => exact fun sorted _ => .of_eq (List.append_nil sorted).symm
  | cons first rest ih =>
    intro sorted distinct
    have moved : (sorted ++ first :: rest).Perm (first :: sorted ++ rest) := List.perm_middle
    have distinct := (moved.map (·.1)).nodup_iff.mp distinct
    have fresh : first.1 ∉ sorted.map (·.1) := by
      rw [List.cons_append, List.map_cons, List.map_append] at distinct
      exact fun mem => (List.nodup_cons.mp distinct).1 (List.mem_append_left _ mem)
    have inserted := (insert_perm first.2 fresh).append_right rest
    exact (ih _ ((inserted.map (·.1)).nodup_iff.mpr distinct)).trans (inserted.trans moved.symm)

/-- Sorting keeps the only value of a name. -/
theorem under_ofList {entries : List (String × α)} (distinct : (entries.map (·.1)).Nodup)
    {entry : String × α} (mem : entry ∈ entries) : under entry.1 (ofList entries) = [entry.2] := by
  have kept := ((ofList_perm distinct).filter fun other => other.1 == entry.1).map (·.2)
  exact List.perm_singleton.mp (under_of_mem distinct mem ▸ kept)

end Named

namespace Json

/-! ## Results -/

section Results

variable {ε α β : Type}

/-- What two steps give, each of them gave a part of. -/
theorem ok_of_bind {first : Except ε α} {second : α → Except ε β} {value : β}
    (done : first.bind second = .ok value) :
    ∃ middle, first = .ok middle ∧ second middle = .ok value := by
  cases first with
  | error error => cases done
  | ok middle => exact ⟨middle, rfl, done⟩

theorem ok_of_map {first : Except ε α} {change : α → β} {value : β}
    (done : first.map change = .ok value) : ∃ kept, first = .ok kept ∧ change kept = value := by
  cases first with
  | error error => cases done
  | ok kept => exact ⟨kept, rfl, Except.ok.inj done⟩

end Results

/-! ## Values without infinite numbers -/

mutual

/-- No number in the value is infinite or undefined. -/
def Finite : Json → Prop
  | real value => value.isFinite = true
  | list items => FiniteItems items
  | object fields => FiniteFields fields
  | _ => True

/-- Every item is finite. -/
def FiniteItems : List Json → Prop
  | [] => True
  | item :: rest => item.Finite ∧ FiniteItems rest

/-- The value of every field is finite. -/
def FiniteFields : List (String × Json) → Prop
  | [] => True
  | (_, value) :: rest => value.Finite ∧ FiniteFields rest

end

theorem finiteItems_iff (items : List Json) : FiniteItems items ↔ ∀ item ∈ items, item.Finite := by
  induction items with
  | nil => simp [FiniteItems]
  | cons item rest ih => simp [FiniteItems, ih]

theorem finiteFields_iff (fields : List (String × Json)) :
    FiniteFields fields ↔ ∀ field ∈ fields, field.2.Finite := by
  induction fields with
  | nil => simp [FiniteFields]
  | cons field rest ih => simp [FiniteFields, ih]

theorem sortedItems_eq_map (items : List Json) : sortedItems items = items.map sorted := by
  induction items with
  | nil => rfl
  | cons item rest ih => simp [sortedItems, ih]

theorem sortedFields_eq_map (fields : List (String × Json)) :
    sortedFields fields = fields.map fun field => (field.1, field.2.sorted) := by
  induction fields with
  | nil => rfl
  | cons field rest ih => simp [sortedFields, ih]

/-- The number of a value: of an integer the nearest double. -/
def number? : Json → Option Float
  | real value => some value
  | integer value => some (Format.nearest value)
  | _ => none

/-- A part of a value: a field of a name in an object, or the item at an index of a list. -/
inductive Part (name : String) (index : Nat) : Json → Json → Prop where
  /-- A field of the name. -/
  | field {fields : List (String × Json)} {part : Json} (mem : (name, part) ∈ fields) :
    Part name index (object fields) part
  /-- The item at the index. -/
  | item {items : List Json} {part : Json} (here : items[index]? = some part) :
    Part name index (list items) part

/-- Only no value is sorted to no value. -/
theorem sorted_eq_null {value : Json} : value.sorted = null ↔ value = null := by
  cases value <;> simp [sorted]

/-! ## Documents of stored values -/

namespace Document

mutual

/-- Nothing in a stored value makes it impossible to skip it. -/
theorem skip_ofValue : ∀ value : Json, (ofValue value).skip = none
  | .null => rfl
  | .bool _ => rfl
  | .integer _ => rfl
  | .real _ => rfl
  | .text _ => rfl
  | .list items => by
    simp [ofValue, skip, skipItems_ofItems items, Tail.listSkipFault, Tail.listFault]
  | .object fields => by
    simp [ofValue, skip, skipFields_ofFields fields, Tail.objectSkipFault, Tail.objectFault]

/-- Nothing in stored items makes it impossible to skip them. -/
theorem skipItems_ofItems : ∀ items : List Json, skipItems (ofItems items) = none
  | [] => rfl
  | item :: rest => by simp [ofItems, skipItems, skip_ofValue item, skipItems_ofItems rest]

/-- Nothing in stored fields makes it impossible to skip them. -/
theorem skipFields_ofFields : ∀ fields : List (String × Json), skipFields (ofFields fields) = none
  | [] => rfl
  | (_, value) :: rest => by
    simp [ofFields, skipFields, skip_ofValue value, skipFields_ofFields rest]

end

mutual

/-- Setting a stored value aside gives the value. -/
theorem capture_ofValue : ∀ value : Json, (ofValue value).capture none = .ok value
  | .null => rfl
  | .bool _ => rfl
  | .integer _ => rfl
  | .real _ => rfl
  | .text _ => rfl
  | .list items => by
    simp [ofValue, capture, captureItems_ofItems items, Tail.listFault, pure, Except.pure, bind,
      Except.bind]
  | .object fields => by
    simp [ofValue, capture, captureFields_ofFields fields, Tail.objectFault, pure, Except.pure,
      bind, Except.bind]

/-- Setting stored items aside gives the items. -/
theorem captureItems_ofItems : ∀ items : List Json, captureItems none (ofItems items) = .ok items
  | [] => rfl
  | item :: rest => by
    simp [ofItems, captureItems, capture_ofValue item, captureItems_ofItems rest, pure, Except.pure,
      bind, Except.bind]

/-- Setting stored fields aside gives the fields. -/
theorem captureFields_ofFields :
    ∀ fields : List (String × Json), captureFields none (ofFields fields) = .ok fields
  | [] => rfl
  | (_, value) :: rest => by
    simp [ofFields, captureFields, capture_ofValue value, captureFields_ofFields rest, pure,
      Except.pure, bind, Except.bind]

end

/-- Refusing a document gives no value. -/
theorem reject_ne_ok {α : Type} {document : Document} {expected : String} {value : α} :
    document.reject expected ≠ .ok value := by
  intro accepted
  unfold reject at accepted
  cases found : document.found <;> rw [found] at accepted <;> cases accepted

end Document

/-! ## Faithful formats -/

namespace Reading

/-- What is read is stored: it is no text on which a reader could stumble. -/
def IsStored (reading : Reading) : Prop := reading.source ≠ .text

/-- Reading one level deeper. -/
def deeper (reading : Reading) : Reading := { reading with depth := reading.depth + 1 }

theorem IsStored.deeper {reading : Reading} (isStored : reading.IsStored) :
    reading.deeper.IsStored := isStored

/-- The depth of what is stored is not limited. -/
theorem IsStored.enter {reading : Reading} (isStored : reading.IsStored) :
    reading.enter = .ok reading.deeper := by
  unfold Reading.enter
  rw [if_neg (by simp [show reading.source ≠ .text from isStored])]
  rfl

theorem IsStored.room {reading : Reading} (isStored : reading.IsStored) : reading.room = none :=
  if_neg isStored

end Reading

namespace Format

variable {α β : Type}

/-- The stored form of a value. -/
def stored (format : Format α) (value : α) : Json := (format.encode value).sorted

/-- A format reads back the stored form of the given values, and reads no others from values
without infinite numbers. -/
structure Faithful (format : Format α) (finite : α → Prop) : Prop where
  /-- Reading the stored form of a value returns the value. -/
  restores : ∀ {reading : Reading}, reading.IsStored → ∀ {value : α}, finite value →
    format.decode reading (.ofValue (format.stored value)) = .ok value
  /-- What is read from a finite value is finite. -/
  finite : ∀ {reading : Reading}, reading.IsStored → ∀ {json : Json} {value : α}, json.Finite →
    format.decode reading (.ofValue json) = .ok value → finite value

/-- The same values can be described in other words. -/
theorem Faithful.of_iff {format : Format α} {finite other : α → Prop}
    (faithful : format.Faithful finite) (same : ∀ value, finite value ↔ other value) :
    format.Faithful other :=
  ⟨fun isStored value fine => faithful.restores isStored ((same value).mpr fine),
    fun isStored _ value fine accepted => (same value).mp (faithful.finite isStored fine accepted)⟩

/-- A value can be read from a stored value. -/
def Reads (format : Format α) (json : Json) (value : α) : Prop :=
  ∃ reading : Reading, reading.IsStored ∧ format.decode reading (.ofValue json) = .ok value

/-! ## Simple values -/

theorem text_faithful : text.Faithful fun _ => True :=
  ⟨fun _ _ _ => rfl, fun _ _ _ _ _ => trivial⟩

theorem bool_faithful : bool.Faithful fun _ => True :=
  ⟨fun _ _ _ => rfl, fun _ _ _ _ _ => trivial⟩

/-- The double nearest to an integer is finite. -/
theorem isFinite_nearest (value : Int) : (nearest value).isFinite = true := by
  unfold nearest
  split
  · exact Binary64.isFinite_neg (Binary64.isFinite_toFloat _)
  · exact Binary64.isFinite_toFloat _

theorem real_stored {value : Float} (finite : value.isFinite = true) :
    real.stored value = .real value := by
  simp only [stored, real, if_pos finite, sorted]

/-- A double is read from a number, and from nothing else. -/
theorem real_decode {reading : Reading} {json : Json} {value : Float} :
    real.decode reading (.ofValue json) = .ok value ↔ number? json = some value := by
  cases json with
  | real other => exact ⟨fun same => congrArg some (Except.ok.inj same),
      fun same => congrArg Except.ok (Option.some.inj same)⟩
  | integer other => exact ⟨fun same => congrArg some (Except.ok.inj same),
      fun same => congrArg Except.ok (Option.some.inj same)⟩
  | null => exact ⟨fun accepted => absurd accepted Document.reject_ne_ok, fun none => by cases none⟩
  | bool other =>
    exact ⟨fun accepted => absurd accepted Document.reject_ne_ok, fun none => by cases none⟩
  | text other =>
    exact ⟨fun accepted => absurd accepted Document.reject_ne_ok, fun none => by cases none⟩
  | list items =>
    exact ⟨fun accepted => absurd accepted Document.reject_ne_ok, fun none => by cases none⟩
  | object fields =>
    exact ⟨fun accepted => absurd accepted Document.reject_ne_ok, fun none => by cases none⟩

theorem real_faithful : real.Faithful fun value => value.isFinite = true where
  restores _ _ finite := by rw [real_stored finite]; rfl
  finite _ json value finite accepted := by
    have read := real_decode.mp accepted
    cases json with
    | real other => exact Option.some.inj read ▸ finite
    | integer other => exact Option.some.inj read ▸ isFinite_nearest other
    | _ => cases read

theorem word_faithful : word.Faithful fun _ => True where
  restores _ value _ := by
    change (if (value.toNat : Int) < 0
      then .error (.data (.wrongValue (.integer value.toNat) "u64"))
      else Except.ok (UInt64.ofNat (value.toNat : Int).toNat)) = .ok value
    rw [if_neg (by omega), Int.toNat_natCast, UInt64.ofNat_toNat]
  finite _ _ _ _ _ := trivial

/-! ## Combinators -/

theorem option_decode {format : Format α} {reading : Reading} {json : Json}
    (notNull : json ≠ .null) : format.option.decode reading (.ofValue json) =
      (format.decode reading (.ofValue json)).map some := by
  cases json with
  | null => exact absurd rfl notNull
  | _ => rfl

/-- An optional value is stored as its value is, unless that would be taken for none. -/
theorem Faithful.option {format : Format α} {finite : α → Prop} (faithful : format.Faithful finite)
    (present : ∀ value, finite value → format.encode value ≠ .null) :
    format.option.Faithful fun value => ∀ inner ∈ value, finite inner where
  restores {reading} isStored value finite := by
    cases value with
    | none => rfl
    | some value =>
      have notNull : format.stored value ≠ .null := fun null =>
        present value (finite value rfl) (sorted_eq_null.mp null)
      have restored := faithful.restores isStored (finite value rfl)
      exact (option_decode notNull).trans (congrArg (Except.map some) restored)
  finite {reading} isStored {json value} finite accepted := by
    by_cases null : json = .null
    · cases null
      cases accepted
      intro _ none
      cases none
    · rw [option_decode null] at accepted
      obtain ⟨inner, read, rfl⟩ := ok_of_map accepted
      rintro _ ⟨⟩
      exact faithful.finite isStored finite read

/-- What a check lets through was read, and passes the check. -/
theorem checked_decode {format : Format α} {pack : α → Except String β} {unpack : β → α}
    {reading : Reading} {document : Document} {value : β} :
    (format.checked pack unpack).decode reading document = .ok value ↔
      ∃ raw, format.decode reading document = .ok raw ∧ pack raw = .ok value := by
  constructor
  · intro accepted
    obtain ⟨raw, read, admitted⟩ := ok_of_bind accepted
    cases packed : pack raw with
    | error reason => rw [packed] at admitted; cases admitted
    | ok made => rw [packed] at admitted; cases admitted; exact ⟨raw, read, packed⟩
  · rintro ⟨raw, read, packed⟩
    change (format.decode reading document).bind _ = _
    rw [read]
    simp only [Except.bind, packed]
    rfl

/-- A value that its type may refuse is stored as what it was made of. -/
theorem Faithful.checked {format : Format α} {finite : α → Prop} (faithful : format.Faithful finite)
    {pack : α → Except String β} {unpack : β → α} (kept : ∀ value, pack (unpack value) = .ok value)
    (unpacked : ∀ {raw value}, pack raw = .ok value → unpack value = raw) :
    (format.checked pack unpack).Faithful fun value => finite (unpack value) where
  restores {reading} isStored value finite := by
    exact checked_decode.mpr ⟨unpack value, faithful.restores isStored finite, kept value⟩
  finite {reading} isStored {json value} finite accepted := by
    obtain ⟨raw, read, packed⟩ := checked_decode.mp accepted
    exact unpacked packed ▸ faithful.finite isStored finite read

/-- Items are stored one by one. -/
theorem decodeItems_stored {format : Format α} {finite : α → Prop}
    (faithful : format.Faithful finite) {reading : Reading} (isStored : reading.IsStored)
    (values : List α) (fine : ∀ value ∈ values, finite value) :
    format.decodeItems reading (Document.ofItems (values.map format.stored)) = .ok values := by
  induction values with
  | nil => rfl
  | cons value rest ih =>
    obtain ⟨first, others⟩ := List.forall_mem_cons.mp fine
    change (format.decode reading (.ofValue (format.stored value))).bind _ = _
    rw [faithful.restores isStored first]
    change (format.decodeItems reading (Document.ofItems (rest.map format.stored))).bind _ = _
    rw [ih others]
    rfl

/-- What is read from finite items is finite. -/
theorem finite_of_decodeItems {format : Format α} {finite : α → Prop}
    (faithful : format.Faithful finite) {reading : Reading} (isStored : reading.IsStored)
    {items : List Json} {values : List α} (fine : ∀ item ∈ items, item.Finite)
    (accepted : format.decodeItems reading (Document.ofItems items) = .ok values) :
    ∀ value ∈ values, finite value := by
  induction items generalizing values with
  | nil => cases accepted; exact fun _ mem => by cases mem
  | cons item rest ih =>
    obtain ⟨first, others⟩ := List.forall_mem_cons.mp fine
    obtain ⟨value, read, accepted⟩ := ok_of_bind accepted
    obtain ⟨later, readRest, accepted⟩ := ok_of_bind accepted
    cases accepted
    exact List.forall_mem_cons.mpr ⟨faithful.finite isStored first read, ih others readRest⟩

theorem Faithful.list {format : Format α} {finite : α → Prop} (faithful : format.Faithful finite) :
    format.list.Faithful fun values => ∀ value ∈ values, finite value where
  restores {reading} isStored values finite := by
    have form : format.list.stored values = .list (values.map format.stored) := by
      change Json.list (sortedItems (values.map format.encode)) = _
      rw [sortedItems_eq_map, List.map_map]
      rfl
    rw [form]
    change (reading.enter.bind fun inside => (format.decodeItems inside _).bind _) = _
    rw [isStored.enter]
    simp only [Except.bind, decodeItems_stored faithful isStored.deeper values finite]
    rfl
  finite {reading} isStored {json values} finite accepted := by
    cases json with
    | list items =>
      obtain ⟨inside, entered, accepted⟩ := ok_of_bind accepted
      cases isStored.enter.symm.trans entered
      obtain ⟨later, read, accepted⟩ := ok_of_bind accepted
      cases accepted
      exact finite_of_decodeItems faithful isStored.deeper ((finiteItems_iff items).mp finite) read
    | _ => exact absurd accepted Document.reject_ne_ok

/-- A name is read back if it is known under its value. -/
theorem variant_faithful {known : List (String × α)} {nameOf : α → String}
    (listed : ∀ value, lookup known (nameOf value) = .ok value) :
    (variant known nameOf).Faithful fun _ => True where
  restores _ value _ := listed value
  finite _ _ _ _ _ := trivial

end Format

end Json

end Sailplane
