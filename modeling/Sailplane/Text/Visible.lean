/-!
# What a terminal shows

A text may hold sequences that steer a terminal: an escape character and what belongs to it. The
visible part of a text is what is left without them, and without controls other than white space.
White space within a sequence is visible, and so is what follows it up to the next control.
-/
namespace Sailplane.Text

/-- Where a reader of a text is with regard to sequences. -/
inductive Sequence where
  /-- Outside. -/
  | outside
  /-- Behind an escape character. -/
  | escape
  /-- Behind an escape character and signs that leave the end open. -/
  | qualified
  /-- Inside a sequence with parameters, which a letter or a sign like it ends. -/
  | control
  /-- Inside a text for the terminal, which only the next sequence ends. -/
  | string
  /-- Inside a command for the terminal, which a bell can end. -/
  | command
  deriving Repr, DecidableEq

namespace Sequence

/-- Whether a character is a control that leaves white. -/
def isBlankControl (c : Char) : Bool := c == '\t' || c == '\n' || c == '\x0C' || c == '\r'

/-- Whether a character of ASCII is visible outside of sequences. -/
def isShown (c : Char) : Bool := (0x20 ≤ c.toNat && c.toNat < 0x7F) || isBlankControl c

/-- Where a reader is behind a character of ASCII. -/
def next (sequence : Sequence) (c : Char) : Sequence :=
  let code := c.toNat
  if code == 0x1B then escape
  else if code == 0x18 || code == 0x1A then outside
  else match sequence with
    | outside => outside
    | escape =>
      if code < 0x20 || code == 0x7F then escape
      else if code < 0x30 then qualified
      else if c == '[' then control
      else if c == ']' then command
      else if c == 'P' || c == 'X' || c == '^' || c == '_' then string
      else outside
    | qualified => if code < 0x30 || code == 0x7F then qualified else outside
    | control => if code < 0x40 || code == 0x7F then control else outside
    | string => string
    | command => if code == 0x07 then outside else command

/-- Whether white space is visible. -/
def showsBlanks : Sequence → Bool
  | string | command => false
  | _ => true

end Sequence

/-- The visible characters of a text, read from somewhere. What is being shown goes on up to the
next control. -/
def visibleFrom (sequence : Sequence) (showing : Bool) : List Char → List Char
  | [] => []
  | c :: rest =>
    if 0x80 ≤ c.toNat then
      if showing || sequence == .outside then c :: visibleFrom .outside true rest
      else visibleFrom sequence false rest
    else if showing then
      if Sequence.isShown c then c :: visibleFrom sequence true rest
      else visibleFrom (sequence.next c) false rest
    else if sequence == .outside && Sequence.isShown c then c :: visibleFrom .outside true rest
    else if Sequence.isBlankControl c && sequence.showsBlanks then
      c :: visibleFrom sequence true rest
    else visibleFrom (sequence.next c) false rest

/-- The visible part of a text. -/
def visible (text : String) : String := String.ofList (visibleFrom .outside false text.toList)

end Sailplane.Text
