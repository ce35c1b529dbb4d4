import Sailplane.Proofs.Files.Paths

/-!
# What lies in a directory

A name that is joined to a directory names something in it, and so does a name that is put beside
what lies there. A single dot that is joined to a directory names the directory itself, and what is
put beside that is put beside the directory.
-/
namespace Sailplane.Path

/-- The components of a path: its first segment, which tells where it begins, and behind that all
segments that mean something. -/
def components (path : String) : List String :=
  (segments path).take 1 ++
    ((segments path).drop 1).filter fun segment => segment != "" && segment != "."

/-- Whether a path names something of a name directly in a directory. -/
structure IsIn (directory path name : String) : Prop where
  /-- The path ends in the name. -/
  named : fileName? path = some name
  /-- What is above it has the components of the directory. -/
  above : ∃ up, parent? path = some up ∧ components up = components directory

/-- Blanks at the end are no components. -/
theorem components_eq_of_segments {path other last : String} {before blanks : List String}
    (whole : segments path = before ++ last :: blanks)
    (blank : ∀ segment ∈ blanks, IsBlank segment) (ends : segments other = before ++ [last]) :
    components other = components path := by
  have nothing : blanks.filter (fun segment => segment != "" && segment != ".") = [] := by
    rw [List.filter_eq_nil_iff]
    intro segment listed
    rcases blank segment listed with rfl | rfl <;> decide
  rw [components, components, whole, ends]
  cases before with
  | nil => simp [nothing]
  | cons first rest => simp [List.filter_cons, nothing]

variable {directory seat name : String}

/-! ## Names -/

section Names

variable (seated : fileName? directory = some seat)
include seated

/-- A name that is joined to a directory is its own name, and what is above it ends where the
directory does. -/
theorem above_join (isName : IsName name) (plain : '/' ∉ name.toList) :
    fileName? (join directory name) = some name ∧
      ∃ up, parent? (join directory name) = some up ∧ fileName? up = some seat ∧
        components up = components directory := by
  have ⟨before, blanks, whole, blank, joined⟩ := segments_join plain directory
  have ⟨front, found, seatName⟩ := lastSegment?_of_fileName? seated
  have ⟨behind, cut, nothing, _⟩ := lastSegment?_spec found
  have last := lastSegment?_of_segments joined isName
  have kept : trim before = front ++ [seat] := by
    rw [← lastSegment?_eq_some_iff.mp found, whole]
    exact (trim_append_blanks before fun segment listed => .inl (blank segment listed)).symm
  have own : ∀ segment ∈ before, '/' ∉ segment.toList := fun segment listed =>
    plain_of_mem_segments (whole ▸ List.mem_append_left _ listed)
  have ends : segments (ofSegments (join directory name) before) = front ++ [seat] := by
    rw [segments_ofSegments _ own (by rw [kept]; simp), kept]
  have up : parent? (join directory name) = some (ofSegments (join directory name) before) := by
    rw [parent?, last]
    rfl
  exact ⟨fileName?_of_segments joined isName, _, up, fileName?_of_segments ends seatName,
    components_eq_of_segments cut nothing ends⟩

/-- A name that is joined to a directory names something in it. -/
theorem isIn_join (isName : IsName name) (plain : '/' ∉ name.toList) :
    IsIn directory (join directory name) name := by
  have ⟨named, up, above, _, same⟩ := above_join seated isName plain
  exact ⟨named, up, above, same⟩

/-- So does a name that is put beside what was joined. -/
theorem isIn_sibling {other : String} (isName : IsName name) (plain : '/' ∉ name.toList)
    (isName' : IsName other) (plain' : '/' ∉ other.toList) :
    IsIn directory (sibling (join directory name) other) other := by
  obtain ⟨named, up, above, ends, same⟩ := above_join seated isName plain
  have beside : sibling (join directory name) other = join up other := by
    rw [sibling, named, above]
  obtain ⟨named', higher, above', same'⟩ := isIn_join ends isName' plain'
  rw [beside]
  exact ⟨named', higher, above', same'.trans same⟩

end Names

/-- Two dots that are joined to a directory are no name of a file. -/
theorem fileName?_join_up (directory : String) : fileName? (join directory "..") = none := by
  have plain : '/' ∉ "..".toList := by decide
  have ⟨before, _, _, _, joined⟩ := segments_join plain directory
  have kept : trim (before ++ [".."]) = before ++ [".."] := by
    simp [trim]
  have last : lastSegment? (join directory "..") = some (before, "..") := by
    rw [lastSegment?_eq_some_iff, joined, kept]
  rw [fileName?, last]
  rfl

/-! ## A single dot -/

/-- A path that goes on begins where it began. -/
theorem isAbsolute_append {path : String} (letters : path ≠ "") (more : String) :
    isAbsolute (path ++ more) = isAbsolute path := by
  rw [isAbsolute, isAbsolute, String.toList_append]
  cases text : path.toList with
  | nil => exact absurd (String.toList_eq_nil_iff.mp text) letters
  | cons first rest => rfl

/-- What is joined to a path begins where the path does. -/
theorem isAbsolute_join (letters : directory ≠ "") (relative : isAbsolute name = false) :
    isAbsolute (join directory name) = isAbsolute directory := by
  unfold join
  rw [relative]
  split
  · rename_i nowhere
    exact absurd (by simpa using nowhere) letters
  · split
    · exact isAbsolute_append letters name
    · rw [String.append_assoc]
      exact isAbsolute_append letters _

/-- Of the path that segments were cut from their text only keeps where it begins. -/
theorem ofSegments_congr {path other : String} (absolute : isAbsolute path = isAbsolute other)
    (dotted : (segments path).head? = some "." ∧ 2 ≤ (segments path).length ↔
      (segments other).head? = some "." ∧ 2 ≤ (segments other).length) (names : List String) :
    ofSegments path names = ofSegments other names := by
  have same : ((segments path).head? == some "." && decide (2 ≤ (segments path).length)) =
      ((segments other).head? == some "." && decide (2 ≤ (segments other).length)) := by
    rw [Bool.eq_iff_iff, Bool.and_eq_true, Bool.and_eq_true, beq_iff_eq, beq_iff_eq,
      decide_eq_true_iff, decide_eq_true_iff]
    exact dotted
  unfold ofSegments
  cases trim names with
  | nil =>
    change (if isAbsolute path then "/"
      else if (segments path).head? == some "." && decide (2 ≤ (segments path).length) then "."
      else "") = _
    rw [absolute, same]
    rfl
  | cons first rest => rfl

/-- A single dot that is joined to a directory names the directory, and what is above it is above
the directory. -/
theorem join_dot (seated : fileName? directory = some seat) :
    fileName? (join directory ".") = some seat ∧
      parent? (join directory ".") = parent? directory ∧
      place (join directory ".") = place directory := by
  have plain : '/' ∉ ".".toList := by decide
  have ⟨before, blanks, whole, empty, joined⟩ := segments_join plain directory
  have ⟨front, found, seatName⟩ := lastSegment?_of_fileName? seated
  have blank : ∀ segment ∈ blanks, IsBlank segment :=
    fun segment listed => .inl (empty segment listed)
  have dot : ∀ segment ∈ ["."], IsBlank segment :=
    fun _ listed => .inr (List.mem_singleton.mp listed)
  have kept : trim before = front ++ [seat] := by
    rw [← lastSegment?_eq_some_iff.mp found, whole]
    exact (trim_append_blanks before blank).symm
  have last : lastSegment? (join directory ".") = some (front, seat) := by
    rw [lastSegment?_eq_some_iff, joined, trim_append_blanks before dot, kept]
  have letters : directory ≠ "" := by
    rintro rfl
    exact nomatch seated
  have dotted : (segments (join directory ".")).head? = some "." ∧
        2 ≤ (segments (join directory ".")).length ↔
      (segments directory).head? = some "." ∧ 2 ≤ (segments directory).length := by
    rw [joined, whole]
    -- The name of the directory is among the segments that both have in front.
    cases before with
    | nil => exact absurd kept (by simp [trim])
    | cons first rest =>
      cases rest with
      | nil =>
        have alone : first ≠ "." := by
          rintro rfl
          exact absurd kept (by simp [trim])
        simp [alone]
      | cons second rest => simp
  refine ⟨?_, ?_, ?_⟩
  · simp [fileName?, last, seatName.2.2]
  · rw [parent?, parent?, last, found]
    exact congrArg some (ofSegments_congr (isAbsolute_join letters rfl) dotted front)
  · rw [place, place, joined, whole, List.foldl_append, List.foldl_append, foldl_blanks dot,
      foldl_blanks blank]

end Sailplane.Path
