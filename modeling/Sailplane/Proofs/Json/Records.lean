import Sailplane.Json.Record
import Sailplane.Proofs.Json.Stored

/-!
# Records of stored values

What a record is read from is told for each of its parts alone: in an object, every part finds its
own field and passes over all others, in whatever order they stand; in a list, every part takes its
own item. From this follows that a record is faithful to the values whose parts are.
-/
namespace Sailplane.Json.Record

open Document (ofValue ofItems ofFields)
open Named (under)

variable {α β : Type}

/-! ## What is read -/

/-- What a record makes of one stored field: a field it does not know changes nothing. -/
def step (record : Record α) (reading : Reading) (draft : record.Draft)
    (field : String × Json) : Except DecodeError record.Draft :=
  (record.put reading field.1 (ofValue field.2) draft).getD (.ok draft)

/-- A value is read from stored fields. -/
def Collects (record : Record α) (reading : Reading) (fields : List (String × Json))
    (value : α) : Prop :=
  ∃ draft, record.putAll reading record.empty (ofFields fields) = .ok draft ∧
    record.finish draft = .ok value

/-- A value is read from the front of stored items. -/
def Takes (record : Record α) (reading : Reading) (items : List Json) (value : α) : Prop :=
  ∃ expected index rest, record.take reading expected index (ofItems items, .closed) =
    .ok (value, rest)

/-- A record reads the fields of its names and no others, writes one field of each name, and takes
one item for each. -/
structure Tidy (record : Record α) : Prop where
  /-- The fields it reads are those of its names. -/
  owns : ∀ reading name document draft,
    (record.put reading name document draft).isSome = true ↔ name ∈ record.names
  /-- It writes a field of each name, in order. -/
  named : ∀ value, (record.encode value).map (·.1) = record.names
  /-- Its names are different. -/
  distinct : record.names.Nodup
  /-- It takes an item for each name, as far as there are items. -/
  consumes : ∀ {reading expected index items value rest},
    record.take reading expected index (ofItems items, .closed) = .ok (value, rest) →
      rest = (ofItems (items.drop record.names.length), .closed)

/-- Fields are read one after the other. -/
theorem putAll_cons {record : Record α} {reading : Reading} {draft made : record.Draft}
    {field : String × Json} {rest : List (String × Json)} :
    record.putAll reading draft (ofFields (field :: rest)) = .ok made ↔
      ∃ middle, record.step reading draft field = .ok middle ∧
        record.putAll reading middle (ofFields rest) = .ok made := by
  obtain ⟨name, value⟩ := field
  simp only [ofFields, putAll, step]
  cases record.put reading name (ofValue value) draft with
  | none => simp [Document.skip_ofValue]
  | some result => cases result <;> simp

/-- A field of another name changes nothing. -/
theorem Tidy.step_of_not_mem {record : Record α} (tidy : record.Tidy) (reading : Reading)
    (draft : record.Draft) {field : String × Json} (foreign : field.1 ∉ record.names) :
    record.step reading draft field = .ok draft := by
  have none : record.put reading field.1 (ofValue field.2) draft = none :=
    Option.not_isSome_iff_eq_none.mp fun known => foreign ((tidy.owns _ _ _ _).mp known)
  unfold step
  rw [none]
  rfl

/-! ## Pairs -/

section Pair

variable {first : Record α} {second : Record β}

/-- A pair makes of a field what its parts make of it: at most one of them knows it. -/
theorem step_pair (left : first.Tidy) (right : second.Tidy)
    (apart : ∀ name ∈ first.names, name ∉ second.names) {reading : Reading}
    {draft₁ made₁ : first.Draft} {draft₂ made₂ : second.Draft} {field : String × Json} :
    (first.pair second).step reading (draft₁, draft₂) field = .ok (made₁, made₂) ↔
      first.step reading draft₁ field = .ok made₁ ∧
        second.step reading draft₂ field = .ok made₂ := by
  by_cases known : field.1 ∈ first.names
  · obtain ⟨result, put⟩ := Option.isSome_iff_exists.mp
      ((left.owns reading field.1 (ofValue field.2) draft₁).mpr known)
    have both : (first.pair second).step reading (draft₁, draft₂) field =
        (first.step reading draft₁ field).map fun kept => (kept, draft₂) := by
      simp only [step, pair, put]
      rfl
    rw [both, right.step_of_not_mem reading draft₂ (apart _ known)]
    constructor
    · intro done
      obtain ⟨kept, same, whole⟩ := ok_of_map done
      cases whole
      exact ⟨same, rfl⟩
    · rintro ⟨same, other⟩
      cases other
      rw [same]
      rfl
  · have both : (first.pair second).step reading (draft₁, draft₂) field =
        (second.step reading draft₂ field).map fun kept => (draft₁, kept) := by
      have none : first.put reading field.1 (ofValue field.2) draft₁ = none :=
        Option.not_isSome_iff_eq_none.mp fun found => known ((left.owns _ _ _ _).mp found)
      simp only [step, pair, none]
      cases second.put reading field.1 (ofValue field.2) draft₂ <;> rfl
    rw [both, left.step_of_not_mem reading draft₁ known]
    constructor
    · intro done
      obtain ⟨kept, same, whole⟩ := ok_of_map done
      cases whole
      exact ⟨rfl, same⟩
    · rintro ⟨other, same⟩
      cases other
      rw [same]
      rfl

theorem putAll_pair (left : first.Tidy) (right : second.Tidy)
    (apart : ∀ name ∈ first.names, name ∉ second.names) {reading : Reading}
    {fields : List (String × Json)} {draft₁ made₁ : first.Draft} {draft₂ made₂ : second.Draft} :
    (first.pair second).putAll reading (draft₁, draft₂) (ofFields fields) = .ok (made₁, made₂) ↔
      first.putAll reading draft₁ (ofFields fields) = .ok made₁ ∧
        second.putAll reading draft₂ (ofFields fields) = .ok made₂ := by
  induction fields generalizing draft₁ draft₂ with
  | nil =>
    constructor
    · intro done
      cases done
      exact ⟨rfl, rfl⟩
    · rintro ⟨once, twice⟩
      cases once
      cases twice
      rfl
  | cons field rest ih =>
    constructor
    · intro done
      obtain ⟨⟨middle₁, middle₂⟩, stepped, done⟩ := putAll_cons.mp done
      obtain ⟨stepped₁, stepped₂⟩ := (step_pair left right apart).mp stepped
      obtain ⟨once, twice⟩ := ih.mp done
      exact ⟨putAll_cons.mpr ⟨middle₁, stepped₁, once⟩, putAll_cons.mpr ⟨middle₂, stepped₂, twice⟩⟩
    · rintro ⟨once, twice⟩
      obtain ⟨middle₁, stepped₁, once⟩ := putAll_cons.mp once
      obtain ⟨middle₂, stepped₂, twice⟩ := putAll_cons.mp twice
      exact putAll_cons.mpr
        ⟨(middle₁, middle₂), (step_pair left right apart).mpr ⟨stepped₁, stepped₂⟩,
          ih.mpr ⟨once, twice⟩⟩

/-- A pair is read from fields if both of its parts are read from them. -/
theorem collects_pair (left : first.Tidy) (right : second.Tidy)
    (apart : ∀ name ∈ first.names, name ∉ second.names) {reading : Reading}
    {fields : List (String × Json)} {value : α × β} :
    (first.pair second).Collects reading fields value ↔
      first.Collects reading fields value.1 ∧ second.Collects reading fields value.2 := by
  constructor
  · rintro ⟨⟨draft₁, draft₂⟩, collected, finished⟩
    obtain ⟨collected₁, collected₂⟩ := (putAll_pair left right apart).mp collected
    obtain ⟨value₁, finished₁, finished⟩ := ok_of_bind finished
    obtain ⟨value₂, finished₂, finished⟩ := ok_of_bind finished
    cases finished
    exact ⟨⟨draft₁, collected₁, finished₁⟩, ⟨draft₂, collected₂, finished₂⟩⟩
  · rintro ⟨⟨draft₁, collected₁, finished₁⟩, ⟨draft₂, collected₂, finished₂⟩⟩
    refine ⟨(draft₁, draft₂), (putAll_pair left right apart).mpr ⟨collected₁, collected₂⟩, ?_⟩
    change (first.finish draft₁).bind (fun _ => (second.finish draft₂).bind _) = _
    rw [finished₁, finished₂]
    rfl

/-- A pair is taken from items if its first part is, and its second from the items behind. -/
theorem takes_of_pair (left : first.Tidy) {reading : Reading} {items : List Json} {value : α × β}
    (taken : (first.pair second).Takes reading items value) :
    first.Takes reading items value.1 ∧
      second.Takes reading (items.drop first.names.length) value.2 := by
  obtain ⟨expected, index, rest, taken⟩ := taken
  obtain ⟨⟨value₁, middle⟩, taken₁, taken⟩ := ok_of_bind taken
  obtain ⟨⟨value₂, last⟩, taken₂, taken⟩ := ok_of_bind taken
  cases taken
  cases left.consumes taken₁
  exact ⟨⟨_, _, _, taken₁⟩, ⟨_, _, _, taken₂⟩⟩

theorem Tidy.pair (left : first.Tidy) (right : second.Tidy)
    (apart : ∀ name ∈ first.names, name ∉ second.names) : (first.pair second).Tidy where
  owns reading name document draft := by
    change _ ↔ name ∈ first.names ++ second.names
    rw [List.mem_append, ← left.owns reading name document draft.1,
      ← right.owns reading name document draft.2]
    cases put : first.put reading name document draft.1 <;> simp [Record.pair, put]
  named value := by
    change (first.encode value.1 ++ second.encode value.2).map _ = _
    rw [List.map_append, left.named, right.named]
    rfl
  distinct := List.nodup_append.mpr ⟨left.distinct, right.distinct,
    fun name mem other mem' same => apart name mem (same ▸ mem')⟩
  consumes {reading expected index items value rest} taken := by
    obtain ⟨⟨value₁, middle⟩, taken₁, taken⟩ := ok_of_bind taken
    obtain ⟨⟨value₂, last⟩, taken₂, taken⟩ := ok_of_bind taken
    cases taken
    cases left.consumes taken₁
    rw [right.consumes taken₂, List.drop_drop]
    change _ = (ofItems (items.drop (first.names ++ second.names).length), _)
    rw [List.length_append]

end Pair

/-! ## Single parts -/

section Field

variable {name : String} {format : Format α} {absent : Option α}

/-- A field of another name is passed over. -/
theorem step_foreign {reading : Reading} {draft made : Option α} {field : String × Json}
    (foreign : field.1 ≠ name) :
    (Record.field name format absent).step reading draft field = .ok made ↔ draft = made := by
  unfold step Record.field
  simp [foreign]

/-- The field of the name is read, unless there was one before. -/
theorem step_own {reading : Reading} {draft made : Option α} {field : String × Json}
    (own : field.1 = name) :
    (Record.field name format absent).step reading draft field = .ok made ↔
      draft = none ∧ ∃ value, format.decode reading (ofValue field.2) = .ok value ∧
        made = some value := by
  unfold step Record.field
  cases draft with
  | some value => simp [own]
  | none =>
    cases read : format.decode reading (ofValue field.2) with
    | error error => simp [own, read, Except.map]
    | ok value => simp [own, read, Except.map, eq_comm]

/-- A part is read from the only field of its name. -/
theorem putAll_field {reading : Reading} {fields : List (String × Json)} {json : Json} {value : α}
    (alone : under name fields = [json]) (read : format.decode reading (ofValue json) = .ok value) :
    (Record.field name format absent).putAll reading none (ofFields fields) = .ok (some value) := by
  have passed : ∀ (fields : List (String × Json)) (draft : Option α), under name fields = [] →
      (Record.field name format absent).putAll reading draft (ofFields fields) = .ok draft := by
    intro fields
    induction fields with
    | nil => exact fun _ _ => rfl
    | cons field rest ih =>
      intro draft missing
      rw [Named.under_cons] at missing
      split at missing
      · cases missing
      · rename_i foreign
        exact putAll_cons.mpr ⟨draft, (step_foreign foreign).mpr rfl, ih draft missing⟩
  induction fields with
  | nil => cases alone
  | cons field rest ih =>
    rw [Named.under_cons] at alone
    split at alone
    · rename_i own
      obtain ⟨rfl, missing⟩ := List.cons.inj alone
      exact putAll_cons.mpr ⟨some value, (step_own own).mpr ⟨rfl, value, read, rfl⟩,
        passed rest _ missing⟩
    · rename_i foreign
      exact putAll_cons.mpr ⟨none, (step_foreign foreign).mpr rfl, ih alone⟩

/-- What has been read of a part stays: there is no other field of its name. -/
theorem of_putAll_some {reading : Reading} {fields : List (String × Json)} {value : α}
    {draft : Option α}
    (done : (Record.field name format absent).putAll reading (some value) (ofFields fields) =
      .ok draft) : under name fields = [] ∧ draft = some value := by
  induction fields with
  | nil => exact ⟨rfl, (Except.ok.inj done).symm⟩
  | cons field rest ih =>
    obtain ⟨middle, stepped, done⟩ := putAll_cons.mp done
    rw [Named.under_cons]
    split
    · rename_i own
      cases ((step_own own).mp stepped).1
    · rename_i foreign
      cases (step_foreign foreign).mp stepped
      exact ih done

theorem of_putAll_none {reading : Reading} {fields : List (String × Json)} {draft : Option α}
    (done : (Record.field name format absent).putAll reading none (ofFields fields) = .ok draft) :
    (under name fields = [] ∧ draft = none) ∨
      ∃ json value, under name fields = [json] ∧
        format.decode reading (ofValue json) = .ok value ∧ draft = some value := by
  induction fields with
  | nil => exact .inl ⟨rfl, (Except.ok.inj done).symm⟩
  | cons field rest ih =>
    obtain ⟨middle, stepped, done⟩ := putAll_cons.mp done
    rw [Named.under_cons]
    split
    · rename_i own
      obtain ⟨-, value, read, rfl⟩ := (step_own own).mp stepped
      obtain ⟨missing, rfl⟩ := of_putAll_some done
      exact .inr ⟨field.2, value, by rw [missing], read, rfl⟩
    · rename_i foreign
      cases (step_foreign foreign).mp stepped
      exact ih done

/-- A part has the value of its only field; without one it has the value of its absence. -/
theorem collects_field {reading : Reading} {fields : List (String × Json)} {value : α}
    (collected : (Record.field name format absent).Collects reading fields value) :
    (under name fields = [] ∧ absent = some value) ∨
      ∃ json, under name fields = [json] ∧ format.decode reading (ofValue json) = .ok value := by
  obtain ⟨draft, collected, finished⟩ := collected
  rcases of_putAll_none collected with ⟨missing, rfl⟩ | ⟨json, read, alone, decoded, rfl⟩
  · refine .inl ⟨missing, ?_⟩
    cases absent with
    | none => cases finished
    | some standard => cases finished; rfl
  · cases finished
    exact .inr ⟨json, alone, decoded⟩

/-- A part has the value of the first item; without one it has the value of its absence. -/
theorem takes_field {reading : Reading} {items : List Json} {value : α}
    (taken : (Record.field name format absent).Takes reading items value) :
    (items = [] ∧ absent = some value) ∨
      ∃ json rest, items = json :: rest ∧ format.decode reading (ofValue json) = .ok value := by
  obtain ⟨expected, index, rest, taken⟩ := taken
  cases items with
  | nil =>
    refine .inl ⟨rfl, ?_⟩
    cases absent with
    | none => cases taken
    | some standard => cases taken; rfl
  | cons json items =>
    obtain ⟨read, decoded, taken⟩ := ok_of_bind taken
    cases taken
    exact .inr ⟨json, items, rfl, decoded⟩

theorem tidy_field (name : String) (format : Format α) (absent : Option α) :
    (Record.field name format absent).Tidy where
  owns reading other document draft := by
    unfold Record.field
    by_cases same : other = name
    · simp only [same, if_true, Option.isSome_some, List.mem_singleton]
    · simp [same]
  named _ := rfl
  distinct := List.nodup_cons.mpr ⟨List.not_mem_nil, List.nodup_nil⟩
  consumes {reading expected index items value rest} taken := by
    cases items with
    | nil =>
      cases absent with
      | none => cases taken
      | some standard => cases taken; rfl
    | cons json items =>
      obtain ⟨read, decoded, taken⟩ := ok_of_bind taken
      cases taken
      rfl

end Field

/-! ## Change of representation -/

section Map

variable {record : Record α} {pack : α → β} {unpack : β → α} {reading : Reading}

theorem putAll_map {draft made : record.Draft} {fields : List (String × Json)} :
    (record.map pack unpack).putAll reading draft (ofFields fields) = .ok made ↔
      record.putAll reading draft (ofFields fields) = .ok made := by
  induction fields generalizing draft with
  | nil => exact .rfl
  | cons field rest ih =>
    constructor
    · intro done
      obtain ⟨middle, stepped, done⟩ := putAll_cons.mp done
      exact putAll_cons.mpr ⟨middle, stepped, ih.mp done⟩
    · intro done
      obtain ⟨middle, stepped, done⟩ := putAll_cons.mp done
      exact putAll_cons.mpr ⟨middle, stepped, ih.mpr done⟩

theorem collects_map {fields : List (String × Json)} {value : β} :
    (record.map pack unpack).Collects reading fields value ↔
      ∃ raw, record.Collects reading fields raw ∧ pack raw = value := by
  constructor
  · rintro ⟨draft, collected, finished⟩
    obtain ⟨raw, found, packed⟩ := ok_of_bind finished
    cases packed
    exact ⟨raw, ⟨draft, putAll_map.mp collected, found⟩, rfl⟩
  · rintro ⟨raw, ⟨draft, collected, finished⟩, rfl⟩
    refine ⟨draft, putAll_map.mpr collected, ?_⟩
    change (record.finish draft).bind _ = _
    rw [finished]
    rfl

theorem takes_of_map {items : List Json} {value : β}
    (taken : (record.map pack unpack).Takes reading items value) :
    ∃ raw, record.Takes reading items raw ∧ pack raw = value := by
  obtain ⟨expected, index, rest, taken⟩ := taken
  obtain ⟨⟨raw, left⟩, taken, packed⟩ := ok_of_bind taken
  cases packed
  exact ⟨raw, ⟨_, _, _, taken⟩, rfl⟩

end Map

theorem Tidy.map {record : Record α} (tidy : record.Tidy) (pack : α → β) (unpack : β → α) :
    (record.map pack unpack).Tidy where
  owns := tidy.owns
  named value := tidy.named (unpack value)
  distinct := tidy.distinct
  consumes {reading expected index items value rest} taken := by
    obtain ⟨⟨raw, left⟩, taken, packed⟩ := ok_of_bind taken
    cases packed
    exact tidy.consumes taken

/-! ## Faithful records -/

/-- A record reads back the stored fields of the given values, in whatever order they stand and
whatever stands between them, and reads no others from values without infinite numbers. -/
structure Faithful (record : Record α) (finite : α → Prop) : Prop extends record.Tidy where
  /-- Reading the stored fields of a value returns the value. -/
  restores : ∀ {reading : Reading}, reading.IsStored → ∀ {value : α}, finite value →
    ∀ {fields : List (String × Json)},
      (∀ entry ∈ record.encode value, under entry.1 fields = [entry.2.sorted]) →
        record.Collects reading fields value
  /-- What is read from finite fields is finite. -/
  finite_of_fields : ∀ {reading : Reading}, reading.IsStored →
    ∀ {fields : List (String × Json)} {value : α}, (∀ field ∈ fields, field.2.Finite) →
      record.Collects reading fields value → finite value
  /-- What is taken from finite items is finite. -/
  finite_of_items : ∀ {reading : Reading}, reading.IsStored →
    ∀ {items : List Json} {value : α}, (∀ item ∈ items, item.Finite) →
      record.Takes reading items value → finite value

/-- A part is as faithful as its format, if the value of its absence is finite. -/
theorem faithful_field (name : String) {format : Format α} {finite : α → Prop}
    (faithful : format.Faithful finite) (absent : Option α)
    (standard : ∀ value ∈ absent, finite value) :
    (Record.field name format absent).Faithful finite where
  toTidy := tidy_field name format absent
  restores {reading} isStored value finite fields written :=
    ⟨some value, putAll_field (written (name, format.encode value) (List.mem_singleton_self _))
      (faithful.restores isStored finite), rfl⟩
  finite_of_fields {reading} isStored fields value finite collected := by
    rcases collects_field collected with ⟨-, absence⟩ | ⟨json, alone, read⟩
    · exact standard value absence
    · have mem : json ∈ under name fields := alone ▸ List.mem_singleton_self json
      obtain ⟨field, kept, rfl⟩ := List.mem_map.mp mem
      exact faithful.finite isStored (finite field (List.mem_filter.mp kept).1) read
  finite_of_items {reading} isStored items value finite taken := by
    rcases takes_field taken with ⟨-, absence⟩ | ⟨json, rest, rfl, read⟩
    · exact standard value absence
    · exact faithful.finite isStored (finite json List.mem_cons_self) read

/-- A pair is as faithful as its parts, if they have different names. -/
theorem Faithful.pair {first : Record α} {second : Record β} {finite₁ : α → Prop}
    {finite₂ : β → Prop} (left : first.Faithful finite₁) (right : second.Faithful finite₂)
    (apart : ∀ name ∈ first.names, name ∉ second.names) :
    (first.pair second).Faithful fun value => finite₁ value.1 ∧ finite₂ value.2 where
  toTidy := left.toTidy.pair right.toTidy apart
  restores {reading} isStored value finite fields written :=
    (collects_pair left.toTidy right.toTidy apart).mpr
      ⟨left.restores isStored finite.1 fun entry mem => written entry (List.mem_append_left _ mem),
        right.restores isStored finite.2 fun entry mem =>
          written entry (List.mem_append_right _ mem)⟩
  finite_of_fields {reading} isStored fields value finite collected := by
    obtain ⟨collected₁, collected₂⟩ :=
      (collects_pair left.toTidy right.toTidy apart).mp collected
    exact ⟨left.finite_of_fields isStored finite collected₁,
      right.finite_of_fields isStored finite collected₂⟩
  finite_of_items {reading} isStored items value finite taken := by
    obtain ⟨taken₁, taken₂⟩ := takes_of_pair left.toTidy taken
    exact ⟨left.finite_of_items isStored finite taken₁,
      right.finite_of_items isStored
        (fun item mem => finite item (List.mem_of_mem_drop mem)) taken₂⟩

/-- A change of representation keeps a record faithful if it loses nothing. -/
theorem Faithful.map {record : Record α} {finite : α → Prop} (faithful : record.Faithful finite)
    {pack : α → β} {unpack : β → α} (packed : ∀ value, pack (unpack value) = value)
    (unpacked : ∀ raw, unpack (pack raw) = raw) :
    (record.map pack unpack).Faithful fun value => finite (unpack value) where
  toTidy := faithful.toTidy.map pack unpack
  restores {reading} isStored value finite fields written :=
    collects_map.mpr ⟨unpack value, faithful.restores isStored finite written, packed value⟩
  finite_of_fields {reading} isStored fields value finite collected := by
    obtain ⟨raw, read, rfl⟩ := collects_map.mp collected
    rw [unpacked]
    exact faithful.finite_of_fields isStored finite read
  finite_of_items {reading} isStored items value finite taken := by
    obtain ⟨raw, read, rfl⟩ := takes_of_map taken
    rw [unpacked]
    exact faithful.finite_of_items isStored finite read

/-! ## Formats of records -/

section Decode

variable {record : Record α} {title : String} {reading : Reading} {value : α}

theorem decode_object (isStored : reading.IsStored) {fields : List (String × Json)} :
    record.decode title reading (ofValue (.object fields)) = .ok value ↔
      record.Collects reading.deeper fields value := by
  constructor
  · intro accepted
    obtain ⟨inside, entered, accepted⟩ := ok_of_bind accepted
    cases isStored.enter.symm.trans entered
    obtain ⟨draft, collected, finished⟩ := ok_of_bind accepted
    exact ⟨draft, collected, finished⟩
  · rintro ⟨draft, collected, finished⟩
    change reading.enter.bind (fun inside => (record.putAll inside record.empty _).bind _) = _
    rw [isStored.enter]
    change (record.putAll reading.deeper record.empty _).bind _ = _
    rw [collected]
    exact finished

theorem takes_of_decode (isStored : reading.IsStored) {items : List Json}
    (accepted : record.decode title reading (ofValue (.list items)) = .ok value) :
    record.Takes reading.deeper items value := by
  obtain ⟨inside, entered, accepted⟩ := ok_of_bind accepted
  cases isStored.enter.symm.trans entered
  obtain ⟨⟨read, left, tail⟩, taken, accepted⟩ := ok_of_bind accepted
  obtain ⟨_, _, done⟩ := ok_of_bind accepted
  cases done
  exact ⟨_, _, _, taken⟩

/-- A record is read from an object or from a list. -/
theorem of_decode (isStored : reading.IsStored) {json : Json}
    (accepted : record.decode title reading (ofValue json) = .ok value) :
    (∃ fields, json = .object fields ∧ record.Collects reading.deeper fields value) ∨
      ∃ items, json = .list items ∧ record.Takes reading.deeper items value := by
  cases json with
  | object fields => exact .inl ⟨fields, rfl, (decode_object isStored).mp accepted⟩
  | list items => exact .inr ⟨items, rfl, takes_of_decode isStored accepted⟩
  | _ => exact absurd accepted Document.reject_ne_ok

/-- A value is read back from an object with its stored fields. -/
theorem Faithful.restores_sorted {finite : α → Prop} (faithful : record.Faithful finite)
    (isStored : reading.IsStored) (fine : finite value) :
    record.Collects reading (Named.ofList (sortedFields (record.encode value))) value := by
  refine faithful.restores isStored fine fun entry mem => ?_
  have distinct : ((sortedFields (record.encode value)).map (·.1)).Nodup := by
    rw [sortedFields_eq_map, List.map_map]
    exact (faithful.named value).symm ▸ faithful.distinct
  have mem : (entry.1, entry.2.sorted) ∈ sortedFields (record.encode value) := by
    rw [sortedFields_eq_map]
    exact List.mem_map.mpr ⟨entry, mem, rfl⟩
  exact Named.under_ofList distinct mem

/-- What is read from a finite value is finite. -/
theorem Faithful.finite_of_decode {finite : α → Prop} (faithful : record.Faithful finite)
    (isStored : reading.IsStored) {json : Json} (fine : json.Finite)
    (accepted : record.decode title reading (ofValue json) = .ok value) : finite value := by
  rcases of_decode isStored accepted with ⟨fields, rfl, collected⟩ | ⟨items, rfl, taken⟩
  · exact faithful.finite_of_fields isStored.deeper ((finiteFields_iff fields).mp fine) collected
  · exact faithful.finite_of_items isStored.deeper ((finiteItems_iff items).mp fine) taken

end Decode

/-- The format of a faithful record is faithful. -/
theorem Faithful.format {record : Record α} {finite : α → Prop} (faithful : record.Faithful finite)
    (title : String) : (record.format title).Faithful finite where
  restores {reading} isStored value finite := by
    change record.decode ("struct " ++ title) reading
      (ofValue (.object (Named.ofList (sortedFields (record.encode value))))) = _
    exact (decode_object isStored).mpr (faithful.restores_sorted isStored.deeper finite)
  finite isStored _ _ finite accepted := faithful.finite_of_decode isStored finite accepted

/-! ## Parts -/

/-- What each part of a value was read from: the field of its name, or the item at its index. -/
structure Shows (record : Record α) (name : String) (index : Nat) (origin : Json → α → Prop) :
    Prop where
  /-- Every field of the name is what the part was read from. -/
  field : ∀ {reading : Reading}, reading.IsStored → ∀ {fields : List (String × Json)} {value : α},
    record.Collects reading fields value →
      ∀ {part : Json}, (name, part) ∈ fields → origin part value
  /-- So is the item at the index. -/
  item : ∀ {reading : Reading}, reading.IsStored → ∀ {items : List Json} {value : α},
    record.Takes reading items value →
      ∀ {part : Json}, items[index]? = some part → origin part value

theorem shows_field (name : String) (format : Format α) (absent : Option α) :
    (Record.field name format absent).Shows name 0 format.Reads where
  field {reading} isStored fields value collected part mem := by
    have found : part ∈ under name fields :=
      List.mem_map.mpr ⟨(name, part), List.mem_filter.mpr ⟨mem, beq_self_eq_true name⟩, rfl⟩
    rcases collects_field collected with ⟨missing, -⟩ | ⟨json, alone, read⟩
    · rw [missing] at found; cases found
    · rw [alone] at found
      cases List.mem_singleton.mp found
      exact ⟨reading, isStored, read⟩
  item {reading} isStored items value taken part here := by
    rcases takes_field taken with ⟨rfl, -⟩ | ⟨json, rest, rfl, read⟩
    · cases here
    · cases here
      exact ⟨reading, isStored, read⟩

section Pair

variable {first : Record α} {second : Record β} {name : String} {index : Nat}

theorem Shows.pair_left (left : first.Tidy) (right : second.Tidy)
    (apart : ∀ name ∈ first.names, name ∉ second.names) {origin : Json → α → Prop}
    (shows : first.Shows name index origin) :
    (first.pair second).Shows name index fun part value => origin part value.1 where
  field isStored _ _ collected _ mem :=
    shows.field isStored ((collects_pair left right apart).mp collected).1 mem
  item isStored _ _ taken _ here := shows.item isStored (takes_of_pair left taken).1 here

theorem Shows.pair_right (left : first.Tidy) (right : second.Tidy)
    (apart : ∀ name ∈ first.names, name ∉ second.names) {origin : Json → β → Prop}
    (shows : second.Shows name index origin) :
    (first.pair second).Shows name (first.names.length + index)
      fun part value => origin part value.2 where
  field isStored _ _ collected _ mem :=
    shows.field isStored ((collects_pair left right apart).mp collected).2 mem
  item isStored _ _ taken _ here :=
    shows.item isStored (takes_of_pair left taken).2 (by rw [List.getElem?_drop]; exact here)

end Pair

theorem Shows.map {record : Record α} {name : String} {index : Nat} {origin : Json → α → Prop}
    (shows : record.Shows name index origin) {pack : α → β} {unpack : β → α} :
    (record.map pack unpack).Shows name index
      fun part value => ∃ raw, origin part raw ∧ pack raw = value where
  field isStored _ _ collected _ mem := by
    obtain ⟨raw, read, packed⟩ := collects_map.mp collected
    exact ⟨raw, shows.field isStored read mem, packed⟩
  item isStored _ _ taken _ here := by
    obtain ⟨raw, read, packed⟩ := takes_of_map taken
    exact ⟨raw, shows.item isStored read here, packed⟩

/-- A part of a value that was read is read from the part of what the value was read from. -/
theorem Shows.of_reads {record : Record α} {title name : String} {index : Nat}
    {origin : Json → α → Prop} (shows : record.Shows name index origin) {json part : Json}
    {value : α}
    (read : (record.format title).Reads json value) (inside : Part name index json part) :
    origin part value := by
  obtain ⟨reading, isStored, read⟩ := read
  rcases of_decode isStored read with ⟨fields, rfl, collected⟩ | ⟨items, rfl, taken⟩
  · cases inside with
    | field mem => exact shows.field isStored.deeper collected mem
  · cases inside with
    | item here => exact shows.item isStored.deeper taken here

end Sailplane.Json.Record
