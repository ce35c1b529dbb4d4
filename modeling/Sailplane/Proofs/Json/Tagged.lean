import Sailplane.Proofs.Json.Records

/-!
# Tagged choices of stored values

The tag of a stored choice is found wherever it stands, and what is left is read as the record that
the tag names. A choice is faithful if every alternative is, and no alternative has a part with the
name of the tag.
-/
namespace Sailplane.Json

open Document (ofValue ofItems ofFields)
open Named (under)

variable {α : Type}

/-- An alternative is known by its tag, if there is none before it of the same tag. -/
theorem lookup_alternatives {alternatives : List (Alternative α)} {title tag : String}
    {decode : Json → Except DecodeError α} :
    Format.lookup (alternatives.map fun alternative => (alternative.tag, alternative.decode title))
        tag = .ok decode ↔
      ∃ alternative, alternatives.find? (·.tag == tag) = some alternative ∧
        alternative.decode title = decode := by
  have byTag : ((fun entry : String × (Json → Except DecodeError α) => entry.1 == tag) ∘
      fun alternative : Alternative α => (alternative.tag, alternative.decode title)) =
        fun alternative => alternative.tag == tag := rfl
  unfold Format.lookup
  rw [List.find?_map, byTag]
  cases alternatives.find? (fun alternative => alternative.tag == tag) <;> simp

/-! ## Finding the tag -/

section Split

variable {field : String} {known : List (String × α)} {found : Option α}

theorem splitTag_foreign {name : String} (foreign : name ≠ field) (value : Json)
    (rest : List (String × Json)) :
    splitTag field known none found (ofFields ((name, value) :: rest)) =
      (splitTag field known none found (ofFields rest)).map fun split =>
        (split.1, (name, value) :: split.2) := by
  simp only [ofFields, splitTag, liftFault, bind, Except.bind, if_neg foreign,
    Document.capture_ofValue]
  cases splitTag field known none found (ofFields rest) <;> rfl

theorem splitTag_own (value : Json) (rest : List (String × Json)) :
    splitTag field known none found (ofFields ((field, value) :: rest)) =
      if found.isSome then .error (.data (.duplicateField field))
      else (Format.variantName (ofValue value)).bind fun name =>
        (Format.lookup known name).bind fun tag =>
          splitTag field known none (some tag) (ofFields rest) := by
  simp only [ofFields, splitTag, liftFault, bind, Except.bind, if_true]
  cases found <;> rfl

/-- The only tag is found wherever it stands, and everything else is kept. -/
theorem splitTag_restores {fields : List (String × Json)} {name : String} {tag : α}
    (alone : under field fields = [.text name]) (named : Format.lookup known name = .ok tag) :
    splitTag field known none none (ofFields fields) =
      .ok (some tag, fields.filter fun entry => entry.1 != field) := by
  have passed : ∀ (fields : List (String × Json)), under field fields = [] →
      splitTag field known none (some tag) (ofFields fields) =
        .ok (some tag, fields.filter fun entry => entry.1 != field) := by
    intro fields
    induction fields with
    | nil => exact fun _ => rfl
    | cons entry rest ih =>
      intro missing
      rw [Named.under_cons] at missing
      split at missing
      · cases missing
      · rename_i foreign
        rw [splitTag_foreign foreign, ih missing, List.filter_cons,
          if_pos (bne_iff_ne.mpr foreign)]
        rfl
  induction fields with
  | nil => cases alone
  | cons entry rest ih =>
    rw [Named.under_cons] at alone
    split at alone
    · rename_i own
      obtain ⟨isTag, missing⟩ := List.cons.inj alone
      obtain ⟨other, value⟩ := entry
      subst own isTag
      rw [splitTag_own, if_neg (by simp), List.filter_cons, if_neg (by simp)]
      change (Format.lookup known name).bind _ = _
      rw [named]
      exact passed rest missing
    · rename_i foreign
      rw [splitTag_foreign foreign, ih alone, List.filter_cons, if_pos (bne_iff_ne.mpr foreign)]
      rfl

/-- A tag that is found is a known one, and what is left was there. -/
theorem of_splitTag {fields content : List (String × Json)} {result : Option α}
    (split : splitTag field known none found (ofFields fields) = .ok (result, content)) :
    (∀ tag, result = some tag → found = some tag ∨ ∃ name, Format.lookup known name = .ok tag) ∧
      ∀ entry ∈ content, entry ∈ fields := by
  induction fields generalizing found content with
  | nil =>
    cases split
    exact ⟨fun _ same => .inl same, fun _ mem => mem⟩
  | cons entry rest ih =>
    obtain ⟨name, value⟩ := entry
    by_cases own : name = field
    · cases own
      rw [splitTag_own] at split
      split at split
      · cases split
      · obtain ⟨name, _, split⟩ := ok_of_bind split
        obtain ⟨tag, named, split⟩ := ok_of_bind split
        obtain ⟨known, kept⟩ := ih split
        refine ⟨fun other same => .inr ?_, fun entry mem => List.mem_cons_of_mem _ (kept entry mem)⟩
        rcases known other same with found | listed
        · exact Option.some.inj found ▸ ⟨name, named⟩
        · exact listed
    · rw [splitTag_foreign own] at split
      obtain ⟨⟨other, left⟩, inner, same⟩ := ok_of_map split
      cases same
      obtain ⟨known, kept⟩ := ih inner
      refine ⟨known, fun entry mem => ?_⟩
      rcases List.mem_cons.mp mem with rfl | mem
      · exact List.mem_cons_self
      · exact List.mem_cons_of_mem _ (kept entry mem)

end Split

/-! ## Faithful choices -/

/-- An alternative whose content is faithful, and has no part with the name of the tag. -/
structure Alternative.Faithful (alternative : Alternative α) (field : String)
    (finite : α → Prop) : Prop where
  /-- Its content is read back. -/
  content : alternative.record.Faithful fun content => finite (alternative.pack content)
  /-- The tag is none of its parts. -/
  apart : field ∉ alternative.record.names

/-- What an alternative reads from a finite value is finite. -/
theorem Alternative.Faithful.finite_of_decode {alternative : Alternative α} {field title : String}
    {finite : α → Prop} (faithful : alternative.Faithful field finite) {json : Json} {value : α}
    (fine : json.Finite) (accepted : alternative.decode title json = .ok value) : finite value := by
  obtain ⟨content, read, packed⟩ := ok_of_bind accepted
  cases packed
  have isStored : Reading.IsStored ⟨.content, 0⟩ := fun text => by cases text
  exact faithful.content.finite_of_decode isStored fine read

/-- A choice is faithful if its alternatives are, and every value is written as the content of one
that is known by its tag. -/
theorem Format.tagged_faithful {field title : String} {alternatives : List (Alternative α)}
    {encode : α → String × List (String × Json)} {finite : α → Prop}
    (faithful : ∀ alternative ∈ alternatives, alternative.Faithful field finite)
    (written : ∀ value, ∃ alternative content,
      alternatives.find? (·.tag == alternative.tag) = some alternative ∧
        alternative.pack content = value ∧
          encode value = (alternative.tag, alternative.record.encode content)) :
    (Format.tagged field title alternatives encode).Faithful finite where
  restores {reading} isStored value fine := by
    obtain ⟨alternative, content, first, rfl, written⟩ := written value
    have ⟨inner, apart⟩ := faithful alternative (List.mem_of_find?_eq_some first)
    let entries := (field, Json.text alternative.tag) :: alternative.record.encode content
    let fields := Named.ofList (sortedFields entries)
    have form : (Format.tagged field title alternatives encode).stored (alternative.pack content) =
        .object fields := by
      change (Json.object ((field, .text (encode (alternative.pack content)).1) ::
        (encode (alternative.pack content)).2)).sorted = _
      rw [written]
      rfl
    have distinct : ((sortedFields entries).map (·.1)).Nodup := by
      rw [sortedFields_eq_map, List.map_map]
      change (field :: (alternative.record.encode content).map (·.1)).Nodup
      rw [inner.named]
      exact List.nodup_cons.mpr ⟨apart, inner.distinct⟩
    have kept : ∀ entry ∈ entries, under entry.1 fields = [entry.2.sorted] := by
      intro entry mem
      have mem : (entry.1, entry.2.sorted) ∈ sortedFields entries := by
        rw [sortedFields_eq_map]
        exact List.mem_map.mpr ⟨entry, mem, rfl⟩
      exact Named.under_ofList distinct mem
    have found := splitTag_restores (kept _ List.mem_cons_self)
      (lookup_alternatives.mpr ⟨alternative, first, rfl⟩ : Format.lookup (alternatives.map
        fun alternative => (alternative.tag, alternative.decode title)) alternative.tag = _)
    have restored : alternative.record.Collects (Reading.deeper ⟨.content, 0⟩)
        (fields.filter fun entry => entry.1 != field) content := by
      refine inner.restores (fun text => by cases text) fine fun entry mem => ?_
      have foreign : entry.1 ≠ field := fun same => apart (by
        rw [← same, ← inner.named content]
        exact List.mem_map.mpr ⟨entry, mem, rfl⟩)
      rw [Named.under_filter_other foreign]
      exact kept entry (List.mem_cons_of_mem _ mem)
    rw [form]
    change reading.enter.bind (fun inside =>
      (splitTag field _ inside.room none (ofFields fields)).bind _) = _
    rw [isStored.enter]
    change (splitTag field _ reading.deeper.room none (ofFields fields)).bind _ = _
    rw [isStored.deeper.room, found]
    change (alternative.record.decode _ ⟨.content, 0⟩ _).bind _ = _
    rw [(Record.decode_object (fun text => by cases text)).mpr restored]
    rfl
  finite {reading} isStored json value fine accepted := by
    cases json with
    | object fields =>
      obtain ⟨inside, entered, accepted⟩ := ok_of_bind accepted
      cases isStored.enter.symm.trans entered
      obtain ⟨⟨result, content⟩, split, accepted⟩ := ok_of_bind accepted
      rw [isStored.deeper.room] at split
      obtain ⟨known, kept⟩ := of_splitTag split
      cases result with
      | none => cases accepted
      | some decode =>
        rcases known decode rfl with none | ⟨name, named⟩
        · cases none
        · obtain ⟨alternative, first, rfl⟩ := lookup_alternatives.mp named
          refine (faithful alternative
            (List.mem_of_find?_eq_some first)).finite_of_decode ?_ accepted
          exact (finiteFields_iff content).mpr fun entry mem =>
            (finiteFields_iff fields).mp fine entry (kept entry mem)
    | list items =>
      cases items with
      | nil => cases accepted
      | cons first rest =>
        obtain ⟨inside, entered, accepted⟩ := ok_of_bind accepted
        cases isStored.enter.symm.trans entered
        obtain ⟨name, _, accepted⟩ := ok_of_bind accepted
        obtain ⟨decode, named, accepted⟩ := ok_of_bind accepted
        rw [isStored.deeper.room, Document.captureItems_ofItems] at accepted
        obtain ⟨alternative, known, rfl⟩ := lookup_alternatives.mp named
        have left : (Json.list rest).Finite := fine.2
        exact (faithful alternative
          (List.mem_of_find?_eq_some known)).finite_of_decode left accepted
    | _ => exact absurd accepted Document.reject_ne_ok

end Sailplane.Json
