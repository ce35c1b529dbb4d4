import Sailplane.Text.Label.Folding
import Sailplane.Text.Label.Joining
import Sailplane.Text.Punycode
import Sailplane.Text.Split

/-!
# Domains

A name of labels with dots between them, in ASCII. However a name is written, its characters are
folded and composed first. A label with characters beyond ASCII is then written by digits behind a
mark; one that carries the mark already has to tell a label that would be written like this.
-/
namespace Sailplane.Http.Domain

open Text

/-- What a label in ASCII starts with that tells another label. -/
def codedMark : List Char := "xn--".toList

/-- How many characters a label that is written by digits may have. -/
def longestLabel : Nat := 1000

/-- How many characters may tell a label. -/
def longestCoded : Nat := 2000

/-- Whether characters are all of ASCII. -/
def isPlain (label : List Char) : Bool := label.all (·.toNat < 0x80)

/-- What stands behind the mark of a label, if it carries the mark. -/
def coded? (label : List Char) : Option (List Char) :=
  if codedMark.isPrefixOf label then some (label.drop codedMark.length) else none

/-- The label that a folded label tells. -/
def meaning? (label : List Char) : Option (List Char) :=
  match coded? label with
  | some digits =>
    if longestCoded < digits.length then none
    else (Punycode.decode? digits).filter fun meant =>
      !isPlain meant && meant.all Label.isFolded && Label.compose meant == meant
  | none => some label

/-- Whether a label can be part of a name. One in ASCII always can. -/
def isPart (label : List Char) : Bool := isPlain label || Label.isLabel label

/-- Whether the labels of a name run in directions that go together. -/
def runTogether (labels : List (List Char)) : Bool :=
  !labels.any Label.hasRight || labels.all Label.runsOneWay

/-- A label in ASCII. -/
def writeLabel? (label : List Char) : Option (List Char) :=
  if isPlain label then some label
  else if longestLabel < label.length then none
  else some (codedMark ++ Punycode.encode label)

/-- A name in ASCII, if it can be written so. -/
def read? (name : List Char) : Option (List Char) := do
  let folded ← name.mapM Label.fold?
  let labels := piecesAt '.' (Label.compose folded.flatten)
  let meant ← labels.mapM meaning?
  if meant.all isPart && runTogether meant then
    ['.'].intercalate <$> labels.mapM writeLabel?
  else none

end Sailplane.Http.Domain
