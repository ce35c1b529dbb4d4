/-!
# Cutting texts

A text cut at every occurrence of a separator; between two separators stands a piece, which may
be empty. A text has one piece more than it has separators.
-/
namespace Sailplane.Text

/-- The pieces of characters between separators. -/
def pieces (separates : Char → Bool) : List Char → List (List Char)
  | [] => [[]]
  | c :: rest =>
    if separates c then [] :: pieces separates rest
    else match pieces separates rest with
      | [] => [[c]]
      | first :: others => (c :: first) :: others

/-- The pieces of characters between occurrences of one. -/
def piecesAt (separator : Char) (text : List Char) : List (List Char) :=
  pieces (· == separator) text

/-- The pieces of a text between occurrences of a character. -/
def split (separator : Char) (text : String) : List String :=
  (piecesAt separator text.toList).map String.ofList

end Sailplane.Text
