import Sailplane.Files.Path

/-!
# Where paths lead

Joining a name, or writing something behind the last one, changes where a path leads in its last
name only. What is passed on the way along a path is made of its own segments.
-/
namespace Sailplane

namespace Text

variable {separates : Char → Bool}

/-- A text has at least one piece. -/
theorem pieces_ne_nil (text : List Char) : pieces separates text ≠ [] := by
  cases text with
  | nil => exact List.cons_ne_nil _ _
  | cons first rest =>
    rw [pieces]
    split
    · exact List.cons_ne_nil _ _
    · split <;> exact List.cons_ne_nil _ _

/-- Cutting a text at a separator cuts what stands before it and what stands behind it. -/
theorem pieces_append_separator (before : List Char) {c : Char} (cut : separates c = true)
    (behind : List Char) :
    pieces separates (before ++ c :: behind) =
      pieces separates before ++ pieces separates behind := by
  induction before with
  | nil => simp [pieces, cut]
  | cons first rest ih =>
    rw [List.cons_append, pieces, pieces]
    split
    · rw [ih, List.cons_append]
    · rw [ih]
      cases found : pieces separates rest with
      | nil => exact absurd found (pieces_ne_nil rest)
      | cons head others => rfl

/-- What holds no separator belongs to the last piece. -/
theorem pieces_append_plain (separates : Char → Bool) (before : List Char) : ∃ others last,
    pieces separates before = others ++ [last] ∧
      ∀ behind : List Char, (∀ c ∈ behind, separates c = false) →
        pieces separates (before ++ behind) = others ++ [last ++ behind] := by
  induction before with
  | nil =>
    refine ⟨[], [], rfl, fun behind plain => ?_⟩
    simp only [List.nil_append]
    induction behind with
    | nil => rfl
    | cons first rest ih =>
      obtain ⟨alone, plain⟩ := List.forall_mem_cons.mp plain
      rw [pieces, alone, ih plain]
      rfl
  | cons first rest ih =>
    obtain ⟨others, last, whole, grows⟩ := ih
    by_cases cut : separates first = true
    · refine ⟨[] :: others, last, by rw [pieces, if_pos cut, whole]; rfl, fun behind plain => ?_⟩
      rw [List.cons_append, pieces, if_pos cut, grows behind plain]
      rfl
    · cases others with
      | nil =>
        refine ⟨[], first :: last, by rw [pieces, if_neg cut, whole]; rfl, fun behind plain => ?_⟩
        rw [List.cons_append, pieces, if_neg cut, grows behind plain]
        rfl
      | cons other others =>
        refine ⟨(first :: other) :: others, last, by rw [pieces, if_neg cut, whole]; rfl,
          fun behind plain => ?_⟩
        rw [List.cons_append, pieces, if_neg cut, grows behind plain]
        rfl

/-- No piece holds a separator. -/
theorem not_separates_of_mem {text piece : List Char} (mem : piece ∈ pieces separates text)
    {c : Char} (inside : c ∈ piece) : separates c = false := by
  induction text generalizing piece with
  | nil =>
    cases List.mem_singleton.mp mem
    cases inside
  | cons first rest ih =>
    rw [pieces] at mem
    split at mem
    · rcases List.mem_cons.mp mem with rfl | mem
      · cases inside
      · exact ih mem inside
    · rename_i plain
      cases found : pieces separates rest with
      | nil => exact absurd found (pieces_ne_nil rest)
      | cons head others =>
        rw [found] at mem ih
        rcases List.mem_cons.mp mem with rfl | mem
        · rcases List.mem_cons.mp inside with rfl | inside
          · exact Bool.eq_false_iff.mpr plain
          · exact ih List.mem_cons_self inside
        · exact ih (List.mem_cons_of_mem _ mem) inside

end Text

namespace Path

/-! ## Segments -/

/-- Without a slash a text is one segment. -/
theorem segments_of_plain {name : String} (plain : '/' ∉ name.toList) : segments name = [name] := by
  obtain ⟨others, last, whole, grows⟩ := Text.pieces_append_plain (· == '/') []
  cases others with
  | cons other others => cases others <;> cases whole
  | nil =>
    cases whole
    have cut := grows name.toList fun c mem =>
      beq_eq_false_iff_ne.mpr fun same => plain (same ▸ mem)
    simp only [List.nil_append] at cut
    simp [segments, Text.split, Text.piecesAt, cut]

/-- A slash stands between the segments before it and those behind it. -/
theorem segments_slash (before behind : String) :
    segments (before ++ "/" ++ behind) = segments before ++ segments behind := by
  have whole : (before ++ "/" ++ behind).toList = before.toList ++ '/' :: behind.toList := by
    simp [String.toList_append]
  simp only [segments, Text.split, Text.piecesAt, whole]
  rw [Text.pieces_append_separator _ (by rfl), List.map_append]

/-- What has no slash is written behind the last segment. -/
theorem segments_append_plain (path : String) : ∃ before last, segments path = before ++ [last] ∧
    ∀ behind : String, '/' ∉ behind.toList →
      segments (path ++ behind) = before ++ [last ++ behind] := by
  obtain ⟨others, last, whole, grows⟩ :=
    Text.pieces_append_plain (· == '/') path.toList
  refine ⟨others.map String.ofList, String.ofList last, ?_, fun behind plain => ?_⟩
  · simp [segments, Text.split, Text.piecesAt, whole]
  · have cut := grows behind.toList fun c mem =>
      beq_eq_false_iff_ne.mpr fun same => plain (same ▸ mem)
    simp [segments, Text.split, Text.piecesAt, String.toList_append, cut, String.ofList_append]

/-- No segment holds a slash. -/
theorem plain_of_mem_segments {path name : String} (mem : name ∈ segments path) :
    '/' ∉ name.toList := by
  obtain ⟨piece, cut, rfl⟩ := List.mem_map.mp mem
  intro inside
  rw [String.toList_ofList] at inside
  exact absurd (Text.not_separates_of_mem cut inside) (by decide)

/-- Segments put between slashes are the segments of the text. -/
theorem segments_intercalate {names : List String} (some : names ≠ [])
    (plain : ∀ name ∈ names, '/' ∉ name.toList) :
    segments (String.intercalate "/" names) = names := by
  induction names with
  | nil => exact absurd rfl some
  | cons first rest ih =>
    obtain ⟨alone, plain⟩ := List.forall_mem_cons.mp plain
    cases rest with
    | nil =>
      have text : String.intercalate "/" [first] = first := by simp
      rw [text, segments_of_plain alone]
    | cons second rest =>
      have text : String.intercalate "/" (first :: second :: rest) =
          first ++ "/" ++ String.intercalate "/" (second :: rest) := by simp
      rw [text, segments_slash, segments_of_plain alone, ih (List.cons_ne_nil _ _) plain]
      rfl

/-! ## Places -/

/-- What a place is made of are segments on the way to it. -/
theorem mem_of_mem_foldl {names base : List String} {name : String}
    (mem : name ∈ names.foldl enter base) : name ∈ base ∨ name ∈ names := by
  induction names generalizing base with
  | nil => exact .inl mem
  | cons first rest ih =>
    rcases ih mem with mem | mem
    · unfold enter at mem
      split at mem
      · exact .inl mem
      · split at mem
        · exact .inl ((List.dropLast_sublist _).subset mem)
        · rcases List.mem_append.mp mem with mem | mem
          · exact .inl mem
          · exact .inr (List.mem_singleton.mp mem ▸ List.mem_cons_self)
    · exact .inr (List.mem_cons_of_mem _ mem)

theorem mem_segments_of_mem_place {path name : String} (mem : name ∈ place path) :
    name ∈ segments path := (mem_of_mem_foldl mem).resolve_left List.not_mem_nil

/-- A segment that is the name of something: it does not mean the directory itself or the one
above. -/
def IsName (segment : String) : Prop := segment ≠ "" ∧ segment ≠ "." ∧ segment ≠ ".."

theorem enter_name {segment : String} (isName : IsName segment) (names : List String) :
    enter names segment = names ++ [segment] := by
  obtain ⟨notEmpty, notDot, notUp⟩ := isName
  simp [enter, notEmpty, notDot, notUp]

/-- What is joined to a path is its last segment, behind those of the path but for empty ones at
their end. -/
theorem segments_join {name : String} (plain : '/' ∉ name.toList) (directory : String) :
    ∃ before blanks, segments directory = before ++ blanks ∧ (∀ segment ∈ blanks, segment = "") ∧
      segments (join directory name) = before ++ [name] := by
  have relative : isAbsolute name = false := by
    unfold isAbsolute
    cases text : name.toList with
    | nil => rfl
    | cons c rest =>
      refine beq_eq_false_iff_ne.mpr fun same => plain ?_
      rw [text, Option.some.inj same]
      exact List.mem_cons_self
  have empty : ∀ segment ∈ [""], segment = "" := fun _ => List.mem_singleton.mp
  unfold join
  rw [relative]
  split
  · rename_i nowhere
    have nowhere : directory = "" := by simpa using nowhere
    exact ⟨[], [""], by rw [nowhere]; rfl, empty, segments_of_plain plain⟩
  · split
    · rename_i ends
      have ⟨before, whole⟩ := List.getLast?_eq_some_iff.mp (beq_iff_eq.mp ends)
      have text : directory = String.ofList before ++ "/" ++ "" := by
        simp [← String.toList_inj, whole]
      have longer : directory ++ name = String.ofList before ++ "/" ++ name := by
        rw [text, String.append_empty]
      refine ⟨segments (String.ofList before), [""], ?_, empty, ?_⟩
      · rw [text, segments_slash]
        rfl
      · rw [longer, segments_slash, segments_of_plain plain]
    · refine ⟨segments directory, [], (List.append_nil _).symm, by simp, ?_⟩
      rw [segments_slash, segments_of_plain plain]

/-! ## Parents -/

/-- What comes at the end of a path and means nothing. -/
def IsBlank (segment : String) : Prop := segment = "" ∨ segment = "."

theorem foldl_blanks {blanks : List String} (blank : ∀ segment ∈ blanks, IsBlank segment)
    (names : List String) : blanks.foldl enter names = names := by
  induction blanks with
  | nil => rfl
  | cons first rest ih =>
    obtain ⟨isBlank, blank⟩ := List.forall_mem_cons.mp blank
    have same : enter names first = names := by
      rcases isBlank with rfl | rfl <;> rfl
    rw [List.foldl_cons, same, ih blank]

/-- A name joined to a path leads to something in what the path leads to. -/
theorem place_join {name : String} (isName : IsName name) (plain : '/' ∉ name.toList)
    (directory : String) : place (join directory name) = place directory ++ [name] := by
  have ⟨before, blanks, whole, blank, joined⟩ := segments_join plain directory
  rw [place, place, joined, whole, List.foldl_append, List.foldl_append,
    foldl_blanks fun segment listed => .inl (blank segment listed)]
  exact enter_name isName _

/-- Blanks at the end are trimmed away. -/
theorem trim_append_blanks (names : List String) {blanks : List String}
    (blank : ∀ segment ∈ blanks, IsBlank segment) : trim (names ++ blanks) = trim names := by
  have empty : ∀ segment ∈ blanks.reverse, (segment == "" || segment == ".") = true := by
    intro segment listed
    simpa [IsBlank] using blank segment (List.mem_reverse.mp listed)
  rw [trim, trim, List.reverse_append, List.dropWhile_append_of_pos empty]

/-- A name at the end is not trimmed away. -/
theorem trim_append_name (names : List String) {name : String} (isName : IsName name) :
    trim (names ++ [name]) = names ++ [name] := by
  have ⟨notEmpty, notDot, _⟩ := isName
  rw [trim, List.reverse_append, List.reverse_singleton, List.singleton_append,
    List.dropWhile_cons_of_neg (by simp [notEmpty, notDot]), List.reverse_cons,
    List.reverse_reverse]

/-- Trimming leaves out what means nothing, and ends in something that does. -/
theorem trim_spec (names : List String) : ∃ blanks, names = trim names ++ blanks ∧
    (∀ segment ∈ blanks, IsBlank segment) ∧
      ∀ before last, trim names = before ++ [last] → last ≠ "" ∧ last ≠ "." := by
  let means (segment : String) : Bool := segment == "" || segment == "."
  refine ⟨(names.reverse.takeWhile means).reverse, ?_, fun segment mem => ?_, ?_⟩
  · unfold trim
    rw [← List.reverse_append, List.takeWhile_append_dropWhile, List.reverse_reverse]
  · have blank := List.all_eq_true.mp List.all_takeWhile segment (List.mem_reverse.mp mem)
    simpa [means, IsBlank] using blank
  · intro before last whole
    have first : names.reverse.dropWhile means = last :: before.reverse := by
      rw [← List.reverse_reverse (names.reverse.dropWhile means)]
      change (trim names).reverse = _
      rw [whole, List.reverse_append]
      rfl
    have stops := List.head?_dropWhile_not means names.reverse
    rw [first] at stops
    simpa [means] using stops

/-- The last segment that means something is the one at which trimming stops. -/
theorem lastSegment?_eq_some_iff {path last : String} {before : List String} :
    lastSegment? path = some (before, last) ↔ trim (segments path) = before ++ [last] := by
  rw [← List.reverse_inj, List.reverse_append, List.reverse_singleton, List.singleton_append]
  unfold lastSegment? segments
  cases (trim (Text.split '/' path)).reverse with
  | nil => simp
  | cons head tail =>
    rw [Option.some.injEq, Prod.mk.injEq, List.cons.injEq, List.reverse_eq_iff]
    exact And.comm

theorem lastSegment?_spec {path last : String} {before : List String}
    (found : lastSegment? path = some (before, last)) : ∃ blanks,
      segments path = before ++ last :: blanks ∧ (∀ segment ∈ blanks, IsBlank segment) ∧
        last ≠ "" ∧ last ≠ "." := by
  obtain ⟨blanks, whole, blank, means⟩ := trim_spec (segments path)
  have cut := lastSegment?_eq_some_iff.mp found
  refine ⟨blanks, ?_, blank, means before last cut⟩
  rw [whole, cut, List.append_assoc]
  rfl

/-- The text of segments has those that are left when they are trimmed. -/
theorem segments_ofSegments (path : String) {names : List String}
    (plain : ∀ name ∈ names, '/' ∉ name.toList) (some : trim names ≠ []) :
    segments (ofSegments path names) = trim names := by
  have ⟨blanks, whole, _⟩ := trim_spec names
  have text : ofSegments path names = String.intercalate "/" (trim names) := by
    unfold ofSegments
    split
    · rename_i none
      exact absurd none some
    · rfl
  rw [text]
  refine segments_intercalate some fun name listed => plain name ?_
  rw [whole]
  exact List.mem_append_left _ listed

/-- The text of segments leads where they lead, and has no others of any meaning. -/
theorem place_ofSegments (path : String) {names : List String}
    (plain : ∀ name ∈ names, '/' ∉ name.toList) :
    place (ofSegments path names) = names.foldl enter [] ∧
      ∀ name ∈ segments (ofSegments path names), name ∈ names ∨ IsBlank name := by
  obtain ⟨blanks, whole, blank, -⟩ := trim_spec names
  have along : names.foldl enter [] = (trim names).foldl enter [] := by
    rw [whole, List.foldl_append, foldl_blanks blank, ← whole]
  rw [along]
  by_cases kept : trim names = []
  · have root : segments "/" = ["", ""] := by decide
    unfold ofSegments
    rw [kept]
    simp only
    split
    · refine ⟨by decide, fun name mem => .inr (.inl ?_)⟩
      rw [root] at mem
      simpa using mem
    · split
      · exact ⟨by decide, fun name mem => .inr (.inr (List.mem_singleton.mp mem))⟩
      · exact ⟨by decide, fun name mem => .inr (.inl (List.mem_singleton.mp mem))⟩
  · have cut := segments_ofSegments path plain kept
    refine ⟨by rw [place, cut], fun name mem => .inl ?_⟩
    rw [cut] at mem
    rw [whole]
    exact List.mem_append_left _ mem

/-- The parent of a path leads where the segments before the last one lead. -/
theorem parent?_of_lastSegment? {path last : String} {before : List String}
    (found : lastSegment? path = some (before, last)) : ∃ directory,
      parent? path = some directory ∧ place directory = before.foldl enter [] ∧
        ∀ name ∈ segments directory, name ∈ before ∨ IsBlank name := by
  obtain ⟨blanks, whole, -⟩ := lastSegment?_spec found
  have plain : ∀ name ∈ before, '/' ∉ name.toList := fun name mem =>
    plain_of_mem_segments (whole ▸ List.mem_append_left _ mem)
  obtain ⟨along, names⟩ := place_ofSegments path plain
  exact ⟨ofSegments path before, by rw [parent?, found]; rfl, along, names⟩

/-- A path that has a parent has a last segment. -/
theorem lastSegment?_of_parent? {path directory : String} (up : parent? path = some directory) :
    ∃ before last, lastSegment? path = some (before, last) ∧
      place directory = before.foldl enter [] ∧
        ∀ name ∈ segments directory, name ∈ before ∨ IsBlank name := by
  cases found : lastSegment? path with
  | none =>
    rw [parent?, found] at up
    cases up
  | some parts =>
    obtain ⟨before, last⟩ := parts
    obtain ⟨above, leads, along, names⟩ := parent?_of_lastSegment? found
    cases leads.symm.trans up
    exact ⟨before, last, rfl, along, names⟩

/-- The name of a file is the last segment that means something, and names something. -/
theorem lastSegment?_of_fileName? {path name : String} (named : fileName? path = some name) :
    ∃ before, lastSegment? path = some (before, name) ∧ IsName name := by
  unfold fileName? at named
  split at named
  · rename_i before last found
    split at named
    · cases named
    · rename_i level
      cases named
      have ⟨_, _, _, notEmpty, notDot⟩ := lastSegment?_spec found
      exact ⟨before, found, notEmpty, notDot, by simpa using level⟩
  · cases named

/-- The name of a file is not empty. -/
theorem ne_empty_of_fileName? {path name : String} (named : fileName? path = some name) :
    name ≠ "" := by
  have ⟨_, _, isName⟩ := lastSegment?_of_fileName? named
  exact isName.1

/-- The name of a file holds no slash. -/
theorem plain_of_fileName? {path name : String} (named : fileName? path = some name) :
    '/' ∉ name.toList := by
  have ⟨_, found, _⟩ := lastSegment?_of_fileName? named
  have ⟨_, whole, _⟩ := lastSegment?_spec found
  exact plain_of_mem_segments (whole ▸ List.mem_append_right _ List.mem_cons_self)

/-- A sibling lies in what the parent leads to. -/
theorem place_sibling_of_parent? {path own directory name : String} (isName : IsName name)
    (plain : '/' ∉ name.toList) (named : fileName? path = some own)
    (up : parent? path = some directory) :
    place (sibling path name) = place directory ++ [name] := by
  rw [sibling, named, up]
  exact place_join isName plain directory

/-- A sibling lies in something that is reached along segments of the path. -/
theorem place_sibling {name : String} (isName : IsName name) (plain : '/' ∉ name.toList)
    (path : String) : ∃ seat, place (sibling path name) = seat ++ [name] ∧
      ∀ other ∈ seat, other ∈ segments path := by
  have below : place (join path name) = place path ++ [name] := place_join isName plain path
  have inside : ∀ other ∈ place path, other ∈ segments path :=
    fun _ => mem_segments_of_mem_place
  cases named : fileName? path with
  | none => exact ⟨place path, by rw [sibling, named]; exact below, inside⟩
  | some own =>
    cases up : parent? path with
    | none => exact ⟨place path, by rw [sibling, named, up]; exact below, inside⟩
    | some directory =>
      refine ⟨place directory, place_sibling_of_parent? isName plain named up, fun other mem => ?_⟩
      obtain ⟨before, last, found, along, -⟩ := lastSegment?_of_parent? up
      obtain ⟨blanks, whole, -⟩ := lastSegment?_spec found
      rw [along] at mem
      rw [whole]
      exact List.mem_append_left _ ((mem_of_mem_foldl mem).resolve_left List.not_mem_nil)

/-! ## The way along a path -/

/-- The places that are passed on the way along segments. -/
def way (base : List String) : List String → List (List String)
  | [] => []
  | segment :: rest => enter base segment :: way (enter base segment) rest

theorem mem_of_mem_way {names base place : List String} {name : String}
    (passed : place ∈ way base names) (mem : name ∈ place) : name ∈ base ∨ name ∈ names := by
  induction names generalizing base with
  | nil => cases passed
  | cons first rest ih =>
    have entered (mem : name ∈ [first].foldl enter base) : name ∈ base ∨ name ∈ first :: rest := by
      rcases mem_of_mem_foldl mem with mem | mem
      · exact .inl mem
      · exact .inr (List.mem_singleton.mp mem ▸ List.mem_cons_self)
    rcases List.mem_cons.mp passed with rfl | passed
    · exact entered mem
    · rcases ih passed with mem | mem
      · exact entered mem
      · exact .inr (List.mem_cons_of_mem _ mem)

theorem prefix_enter {segment : String} (level : segment ≠ "..") (base : List String) :
    base <+: enter base segment := by
  unfold enter
  split
  · exact List.prefix_rfl
  · rw [if_neg (by simpa using level)]
    exact List.prefix_append base [segment]

theorem prefix_foldl_enter {names : List String} (level : ".." ∉ names) (base : List String) :
    base <+: names.foldl enter base := by
  induction names generalizing base with
  | nil => exact List.prefix_rfl
  | cons first rest ih =>
    obtain ⟨alone, level⟩ := not_or.mp (level ∘ List.mem_cons.mpr)
    exact (prefix_enter (Ne.symm alone) base).trans (ih level _)

/-- Without two dots the way leads downwards only. -/
theorem prefix_of_mem_way {names base place : List String} (level : ".." ∉ names)
    (passed : place ∈ way base names) : place <+: names.foldl enter base := by
  induction names generalizing base with
  | nil => cases passed
  | cons first rest ih =>
    obtain ⟨-, level⟩ := not_or.mp (level ∘ List.mem_cons.mpr)
    rcases List.mem_cons.mp passed with rfl | passed
    · exact prefix_foldl_enter level _
    · exact ih level passed

/-- Without two dots no more names lead to a place on the way than to where it ends. -/
theorem length_le_of_mem_way {path directory : String} {place : List String}
    (level : ".." ∉ segments path) (up : parent? path = some directory)
    (passed : place ∈ way [] (segments directory)) :
    place.length ≤ (Path.place directory).length := by
  obtain ⟨before, last, found, -, names⟩ := lastSegment?_of_parent? up
  obtain ⟨blanks, whole, -⟩ := lastSegment?_spec found
  refine (prefix_of_mem_way (fun mem => ?_) passed).length_le
  rcases names _ mem with mem | blank
  · exact level (whole ▸ List.mem_append_left _ mem)
  · rcases blank with blank | blank <;> exact absurd blank (by decide)

/-- Without two dots a path does not lead to anything on the way to its parent. -/
theorem place_not_mem_way {path directory : String} (level : ".." ∉ segments path)
    (up : parent? path = some directory) : place path ∉ way [] (segments directory) := by
  intro passed
  have short := length_le_of_mem_way level up passed
  obtain ⟨before, last, found, along, -⟩ := lastSegment?_of_parent? up
  obtain ⟨blanks, whole, blank, notEmpty, notDot⟩ := lastSegment?_spec found
  have notUp : last ≠ ".." := by
    rintro rfl
    exact level (whole ▸ List.mem_append_right _ List.mem_cons_self)
  have leads : place path = place directory ++ [last] := by
    rw [place, whole, List.foldl_append, List.foldl_cons, foldl_blanks blank, ← along]
    exact enter_name ⟨notEmpty, notDot, notUp⟩ _
  rw [leads, List.length_append] at short
  exact absurd short (by simp)

/-! ## What is written behind a path -/

/-- What ends in more than two characters is a name. -/
theorem isName_append {ending : String} (long : 2 < ending.length) (name : String) :
    IsName (name ++ ending) := by
  have lengths : (name ++ ending).length = name.length + ending.length := String.length_append ..
  have differs (short : String) (limit : short.length ≤ 2) : name ++ ending ≠ short := by
    intro same
    rw [same] at lengths
    omega
  exact ⟨differs "" (by decide), differs "." (by decide), differs ".." (by decide)⟩

variable {ending : String} (long : 2 < ending.length) (plain : '/' ∉ ending.toList)
include long plain

/-- What is written behind a path belongs to the last name. -/
theorem place_append (path : String) : ∃ before last, segments path = before ++ [last] ∧
    segments (path ++ ending) = before ++ [last ++ ending] ∧
      place (path ++ ending) = before.foldl enter [] ++ [last ++ ending] := by
  obtain ⟨before, last, whole, grows⟩ := segments_append_plain path
  refine ⟨before, last, whole, grows ending plain, ?_⟩
  rw [place, grows ending plain, List.foldl_append]
  exact enter_name (isName_append long last) _

theorem place_append_ne (path : String) : place (path ++ ending) ≠ place path := by
  obtain ⟨before, last, whole, -, longer⟩ := place_append long plain path
  rw [longer, place, whole, List.foldl_append, List.foldl_cons, List.foldl_nil]
  generalize before.foldl enter [] = seat
  intro same
  unfold enter at same
  split at same
  · exact absurd (congrArg List.length same) (by simp)
  · split at same
    · exact absurd (congrArg List.length same) (by simp; omega)
    · have names := List.singleton_inj.mp (List.append_cancel_left same)
      have lengths := congrArg String.length names
      rw [String.length_append] at lengths
      omega

/-- Without two dots what is written behind a path leads away from the way to its parent. -/
theorem place_append_not_mem_way {path directory : String} (level : ".." ∉ segments path)
    (up : parent? path = some directory) :
    place (path ++ ending) ∉ way [] (segments directory) := by
  intro passed
  have short := length_le_of_mem_way level up passed
  obtain ⟨front, tail, cut, -, longer⟩ := place_append long plain path
  obtain ⟨before, last, found, along, -⟩ := lastSegment?_of_parent? up
  obtain ⟨blanks, whole, -⟩ := lastSegment?_spec found
  have above : before <+: front := by
    have shorter : before.length ≤ front.length := by
      have lengths := congrArg List.length (cut.symm.trans whole)
      simp only [List.length_append, List.length_cons, List.length_nil] at lengths
      omega
    have starts : before <+: segments path := whole ▸ List.prefix_append before _
    have alsoStarts : front <+: segments path := cut ▸ List.prefix_append front _
    exact List.prefix_of_prefix_length_le starts alsoStarts shorter
  obtain ⟨between, rfl⟩ := above
  have deeper : place directory <+: (before ++ between).foldl enter [] := by
    rw [List.foldl_append, ← along]
    refine prefix_foldl_enter (fun mem => level ?_) _
    exact cut ▸ List.mem_append_left _ (List.mem_append_right _ mem)
  have lower := deeper.length_le
  rw [longer, List.length_append, List.length_singleton] at short
  omega

omit long plain

/-! ## Paths that end in a name -/

variable {path last : String} {before : List String} (whole : segments path = before ++ [last])
include whole

theorem leaf?_of_segments (notEmpty : last ≠ "") : leaf? path = some (before, last, false) := by
  have stops : (last :: before.reverse).dropWhile (· == "") = last :: before.reverse :=
    List.dropWhile_cons_of_neg (by simpa using notEmpty)
  simp [leaf?, stops, whole]

theorem lastSegment?_of_segments (isName : IsName last) :
    lastSegment? path = some (before, last) := by
  rw [lastSegment?_eq_some_iff, whole]
  exact trim_append_name before isName

theorem fileName?_of_segments (isName : IsName last) : fileName? path = some last := by
  rw [fileName?, lastSegment?_of_segments whole isName]
  simp [isName.2.2]

end Path

end Sailplane
