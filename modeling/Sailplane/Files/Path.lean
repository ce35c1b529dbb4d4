import Sailplane.Text.Split

/-!
# Paths

A path is a text of segments between slashes. Empty segments and single dots at its end mean
nothing; two dots lead upwards and are no name. Joining and replacing the last name work on the
text, so a path is shown as it was given.
-/
namespace Sailplane.Path

/-- Segments without those at the end that mean nothing. -/
def trim (segments : List String) : List String :=
  (segments.reverse.dropWhile fun segment => segment == "" || segment == ".").reverse

/-- The last segment that means something, and all before it. -/
def lastSegment? (path : String) : Option (List String × String) :=
  match (trim (Text.split '/' path)).reverse with
  | [] => none
  | last :: before => some (before.reverse, last)

/-- The name of a file at a path; none where the path ends in two dots or has no segment. -/
def fileName? (path : String) : Option String :=
  match lastSegment? path with
  | some (_, last) => if last == ".." then none else some last
  | none => none

/-- Whether a path starts at the root. -/
def isAbsolute (path : String) : Bool := path.toList.head? == some '/'

/-- The text of segments, which starts at the root if the path they were cut from does. -/
def ofSegments (path : String) (segments : List String) : String :=
  match trim segments with
  | [] =>
    if isAbsolute path then "/"
    else if (Text.split '/' path).head? == some "." && 2 ≤ (Text.split '/' path).length then "."
    else ""
  | kept => String.intercalate "/" kept

/-- The directory that holds a path; a path without segments is in none. -/
def parent? (path : String) : Option String :=
  (lastSegment? path).map fun (before, _) => ofSegments path before

/-- A name below a directory; a name that starts at the root stands for itself. -/
def join (directory name : String) : String :=
  if isAbsolute name || directory.isEmpty then name
  else if directory.toList.getLast? == some '/' then directory ++ name
  else directory ++ "/" ++ name

/-- The path with its last name replaced. -/
def sibling (path name : String) : String :=
  match fileName? path, parent? path with
  | some _, some directory => join directory name
  | _, _ => join path name

/-- The segments of a path. -/
def segments (path : String) : List String := Text.split '/' path

/-- The names that lead from the root to one segment more; two dots take a name back. -/
def enter (names : List String) (segment : String) : List String :=
  if segment == "" || segment == "." then names
  else if segment == ".." then names.dropLast
  else names ++ [segment]

/-- The names that lead from the root to a path. -/
def place (path : String) : List String := (segments path).foldl enter []

/-- The last segment of a path that is not empty, those before it, and whether there is a slash
behind it. -/
def leaf? (path : String) : Option (List String × String × Bool) :=
  match (segments path).reverse.dropWhile (· == "") with
  | [] => none
  | last :: before => some (before.reverse, last, before.length + 1 < (segments path).length)

end Sailplane.Path
