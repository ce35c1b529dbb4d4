import Sailplane.Text.Named

/-!
# Values under names

What is found under a name after a value was put there or taken away. None of this needs the values
to be in order; that they are is a property of its own, which both changes keep.
-/
namespace Sailplane.Named

variable {α : Type} {name other : String} {value : α} {entries : List (String × α)}

/-! ## What is found -/

/-- What is found among a first value and others is the first, if it has the name. -/
theorem find?_cons (name : String) (entry : String × α) (entries : List (String × α)) :
    find? name (entry :: entries) =
      if entry.1 = name then some entry.2 else find? name entries := by
  by_cases same : entry.1 = name
  · have chosen : (entry.1 == name) = true := beq_iff_eq.mpr same
    rw [if_pos same, find?, List.find?_cons, chosen, Option.map_some]
  · have skipped : (entry.1 == name) = false := beq_eq_false_iff_ne.mpr same
    rw [if_neg same, find?, List.find?_cons, skipped, find?]

/-- Something is found exactly under the names of the values. -/
theorem isSome_find? : (find? name entries).isSome = true ↔ name ∈ entries.map (·.1) := by
  induction entries with
  | nil => simp [find?]
  | cons entry rest ih =>
    rw [find?_cons, List.map_cons, List.mem_cons]
    by_cases same : entry.1 = name
    · rw [if_pos same, Option.isSome_some, same]
      exact iff_of_true rfl (.inl rfl)
    · rw [if_neg same, ih]
      exact ⟨.inr, fun listed => listed.resolve_left fun equal => same equal.symm⟩

/-- A value that was put under a name is found there. -/
theorem find?_insert (name : String) (value : α) (entries : List (String × α)) :
    find? name (insert name value entries) = some value := by
  induction entries with
  | nil => rw [insert, find?_cons, if_pos rfl]
  | cons entry rest ih =>
    rw [insert]
    split
    · rw [find?_cons, if_pos rfl]
    · split
      · rw [find?_cons, if_pos rfl]
      · rename_i differs
        have another : entry.1 ≠ name := fun same => differs (beq_iff_eq.mpr same.symm)
        rw [find?_cons, if_neg another, ih]

/-- What is under another name stays when a value is put under a name. -/
theorem find?_insert_other (differs : name ≠ other) (value : α)
    (entries : List (String × α)) :
    find? other (insert name value entries) = find? other entries := by
  induction entries with
  | nil => rw [insert, find?_cons, if_neg differs]
  | cons entry rest ih =>
    rw [insert]
    split
    · rw [find?_cons, if_neg differs]
    · split
      · rename_i same
        have replaced : entry.1 ≠ other := fun equal => differs ((beq_iff_eq.mp same).trans equal)
        rw [find?_cons, if_neg differs, find?_cons, if_neg replaced]
      · rw [find?_cons, find?_cons, ih]

/-- To take a name away from a first value and others may take the first. -/
theorem erase_cons (name : String) (entry : String × α) (entries : List (String × α)) :
    erase name (entry :: entries) =
      if entry.1 = name then erase name entries else entry :: erase name entries := by
  rw [erase, List.filter_cons]
  by_cases same : entry.1 = name
  · have away : (entry.1 != name) = false := by simp [same]
    rw [away, if_pos same, erase, if_neg Bool.false_ne_true]
  · have stays : (entry.1 != name) = true := bne_iff_ne.mpr same
    rw [stays, if_neg same, erase, if_pos rfl]

/-- Nothing is found under a name that was taken away. -/
theorem find?_erase (name : String) (entries : List (String × α)) :
    find? name (erase name entries) = none := by
  rw [← Option.not_isSome_iff_eq_none, isSome_find?, List.mem_map]
  rintro ⟨entry, listed, same⟩
  have kept := (List.mem_filter.mp listed).2
  exact absurd same (bne_iff_ne.mp kept)

/-- What is under another name stays when a name is taken away. -/
theorem find?_erase_other (differs : name ≠ other) (entries : List (String × α)) :
    find? other (erase name entries) = find? other entries := by
  induction entries with
  | nil => rfl
  | cons entry rest ih =>
    by_cases same : entry.1 = name
    · have another : entry.1 ≠ other := fun equal => differs (same.symm.trans equal)
      rw [erase_cons, if_pos same, ih, find?_cons, if_neg another]
    · rw [erase_cons, if_neg same, find?_cons, find?_cons, ih]

/-! ## Order -/

/-- Whether values stand in the order of their names, of which each occurs once. -/
def Sorted (entries : List (String × α)) : Prop :=
  entries.Pairwise fun first second => first.1 < second.1

/-- A value is put among the others. -/
theorem mem_insert {entry : String × α} (listed : entry ∈ insert name value entries) :
    entry = (name, value) ∨ entry ∈ entries := by
  induction entries with
  | nil => exact .inl (List.mem_singleton.mp listed)
  | cons first rest ih =>
    rw [insert] at listed
    split at listed
    · exact List.mem_cons.mp listed
    · split at listed
      · exact (List.mem_cons.mp listed).imp_right (List.mem_cons_of_mem _)
      · rcases List.mem_cons.mp listed with here | behind
        · exact .inr (here ▸ List.mem_cons_self)
        · exact (ih behind).imp_right (List.mem_cons_of_mem _)

/-- Values in order stay in order when one is put among them. -/
theorem sorted_insert (sorted : Sorted entries) (name : String) (value : α) :
    Sorted (insert name value entries) := by
  induction entries with
  | nil => exact List.pairwise_singleton _ _
  | cons first rest ih =>
    obtain ⟨least, rising⟩ := List.pairwise_cons.mp sorted
    rw [insert]
    split
    · rename_i before
      refine List.pairwise_cons.mpr ⟨fun entry listed => ?_, sorted⟩
      rcases List.mem_cons.mp listed with rfl | behind
      · exact before
      · exact String.lt_trans before (least entry behind)
    · rename_i notBefore
      split
      · rename_i same
        refine List.pairwise_cons.mpr ⟨fun entry listed => ?_, rising⟩
        rw [beq_iff_eq.mp same]
        exact least entry listed
      · rename_i differs
        have after : first.1 < name := by
          refine Decidable.byContradiction fun notAfter => differs (beq_iff_eq.mpr ?_)
          exact String.le_antisymm (String.not_lt.mp notAfter) (String.not_lt.mp notBefore)
        refine List.pairwise_cons.mpr ⟨fun entry listed => ?_, ih rising⟩
        rcases mem_insert listed with rfl | behind
        · exact after
        · exact least entry behind

/-- Values in order stay in order when one is taken away. -/
theorem sorted_erase (sorted : Sorted entries) (name : String) : Sorted (erase name entries) :=
  sorted.filter _

/-- Of values in order the one under a name is found there. -/
theorem mem_iff_find? (sorted : Sorted entries) :
    (name, value) ∈ entries ↔ find? name entries = some value := by
  induction entries with
  | nil => exact iff_of_false List.not_mem_nil (by simp [find?])
  | cons first rest ih =>
    obtain ⟨least, rising⟩ := List.pairwise_cons.mp sorted
    rw [find?_cons, List.mem_cons]
    by_cases same : first.1 = name
    · have once : (name, value) ∉ rest := fun behind =>
        String.lt_irrefl name (same ▸ least (name, value) behind : name < name)
      rw [if_pos same, or_iff_left once, Option.some.injEq]
      exact ⟨fun equal => equal ▸ rfl, fun equal => Prod.ext same.symm equal.symm⟩
    · rw [if_neg same, or_iff_right fun equal => same (congrArg Prod.fst equal).symm, ih rising]

end Sailplane.Named
