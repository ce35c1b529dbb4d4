/-!
# Similarity of texts

How alike two texts are, between zero and one: the mean of the share of either text that has a
counterpart in the other and of the share of those characters that come in the same order. A
counterpart is an equal character that is not much further on in its text, and no character has
two.
-/
namespace Sailplane.Text

/-- Take the first character that is equal to a given one and not taken yet, at a position between
two bounds. The characters are marked when they are taken. -/
def takeCounterpart? (c : Char) (first last : Nat) :
    Nat → List (Char × Bool) → Option (List (Char × Bool))
  | _, [] => none
  | position, (other, taken) :: rest =>
    if first ≤ position && position ≤ last && other == c && !taken then some ((other, true) :: rest)
    else (takeCounterpart? c first last (position + 1) rest).map ((other, taken) :: ·)

/-- The characters of a text that have a counterpart, from a position on, and the other text with
the counterparts marked. -/
def counterparts (reach : Nat) : Nat → List Char → List (Char × Bool) →
    List Char × List (Char × Bool)
  | _, [], others => ([], others)
  | position, c :: rest, others =>
    match takeCounterpart? c (position - reach) (position + reach) 0 others with
    | some others =>
      let (found, others) := counterparts reach (position + 1) rest others
      (c :: found, others)
    | none => counterparts reach (position + 1) rest others

/-- How alike two texts are. -/
def similarity (left right : String) : Float :=
  let (left, right) := (left.toList, right.toList)
  if left.isEmpty && right.isEmpty then 1
  else
    let reach := max left.length right.length / 2 - 1
    let (found, marked) := counterparts reach 0 left (right.map fun c => (c, false))
    if found.isEmpty then 0
    else
      let partners := (marked.filter (·.2)).map (·.1)
      let crossed := ((found.zip partners).filter fun (a, b) => a != b).length / 2
      let matched := Float.ofNat found.length
      (matched / Float.ofNat left.length + matched / Float.ofNat right.length +
        Float.ofNat (found.length - crossed) / matched) / 3

/-- The text most like a given one, if any is alike enough; of equally similar ones the last. -/
def mostSimilar? (word : String) (known : List String) : Option String :=
  let close := known.filterMap fun name =>
    let likeness := similarity word name
    if 0.7 < likeness then some (likeness, name) else none
  (close.foldl (fun (best : Option (Float × String)) candidate =>
    match best with
    | some (likeness, _) => if candidate.1 < likeness then best else some candidate
    | none => some candidate) none).map (·.2)

end Sailplane.Text
