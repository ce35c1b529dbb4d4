import Sailplane.Text.Visible

/-!
# How commands are used

The options and plain words that a command takes, and the texts that tell of them: the forms of a
command, its help, and the lines for arguments that cannot be read. Words that were given are shown
without what would steer a terminal.
-/
namespace Sailplane.Command

/-- What the value of an option has to be. -/
inductive ValueKind where
  /-- Any text. -/
  | text
  /-- A path, which is not empty. -/
  | path
  /-- An unsigned machine word. -/
  | word
  deriving Repr, DecidableEq

/-- An option that takes a value. -/
structure OptionSpec where
  /-- Its long name. -/
  long : String
  /-- Its letter, if it has one. -/
  letter : Option Char
  /-- What its value is called. -/
  value : String
  /-- What its value has to be. -/
  kind : ValueKind
  /-- What it is for. -/
  about : String
  /-- The variable of the environment that can stand for it, if one can. -/
  variableName : Option String := none
  deriving Repr, DecidableEq

/-- An option with its value, as usage texts show it. -/
def OptionSpec.shown (option : OptionSpec) : String :=
  "--" ++ option.long ++ " <" ++ option.value ++ ">"

/-- The plain words of a command, of which at least one has to be given. -/
structure WordsSpec where
  /-- What they are called. -/
  name : String
  /-- What they are for. -/
  about : String
  deriving Repr, DecidableEq

/-- Plain words as usage texts show them. -/
def WordsSpec.shown (words : WordsSpec) : String := "<" ++ words.name ++ ">..."

/-- How a command is used. -/
structure CommandSpec where
  /-- Its name. -/
  name : String
  /-- What it does. -/
  about : String
  /-- Its options. -/
  options : List OptionSpec
  /-- The options that have to be given. -/
  required : List OptionSpec
  /-- Its plain words, if it takes any. -/
  words : Option WordsSpec
  deriving Repr, DecidableEq

/-- Why arguments are not read to their end. -/
inductive ArgumentError where
  /-- The help is asked for. -/
  | help
  /-- A word looks like a long option and is none. It may be like one that is known; some options
  and words were used. -/
  | unknownOption (word : String) (similar : Option String) (used : List String)
  /-- A word looks like a letter option and is none, or is a plain word too many. -/
  | unexpected (word : String)
  /-- A word names the help and holds a value; other arguments were given before, or none. -/
  | surplus (value : String) (others : Bool)
  /-- An option lacks its value. -/
  | noValue (option : OptionSpec)
  /-- An option is given twice. -/
  | repeated (option : OptionSpec)
  /-- The value of an option is not of its kind. -/
  | invalid (option : OptionSpec) (value reason : String)
  /-- Something that has to be given is not; some options were used. -/
  | missing (wanted used : List String)
  deriving Repr, DecidableEq

namespace CommandSpec

/-- The plain words of a command, as usage texts show them. -/
def shownWords (command : CommandSpec) : List String := command.words.toList.map WordsSpec.shown

/-- The usual form of a command. -/
def usage (command : CommandSpec) : String :=
  String.intercalate " " (["Usage: soar", command.name] ++
    (if command.required.length < command.options.length then ["[OPTIONS]"] else []) ++
    command.required.map OptionSpec.shown ++ command.shownWords)

/-- The form of a command with some options; with none the usual form. -/
def usageWith (command : CommandSpec) (used : List String) : String :=
  let required := command.required.map OptionSpec.shown
  let others := used.filter fun option =>
    !required.contains option && !command.shownWords.contains option
  if used.isEmpty then command.usage
  else String.intercalate " " (["Usage: soar", command.name] ++ required ++ others ++
    command.shownWords)

/-- The form of a command that asks for help. When other arguments were given, one of all is shown
in their place. -/
def usageForHelp (command : CommandSpec) (others : Bool) : String :=
  let arguments := command.words.toList.map (·.name) ++ command.options.map OptionSpec.shown
  if others then
    String.intercalate " " ["Usage: soar", command.name, "--help",
      "<" ++ String.intercalate "|" arguments ++ ">"]
  else command.usageWith ["--help"]

/-- The advice to mark a word as a plain one, if the command takes plain words. -/
def markAdvice (command : CommandSpec) (word : String) : List String :=
  if command.words.isSome then
    let word := Text.visible word
    ["  tip: to pass '" ++ word ++ "' as a value, use '-- " ++ word ++ "'", ""]
  else []

/-! ## Help -/

/-- Two columns, the right one behind the longest entry of the left one. -/
def columns (rows : List (String × String)) : List String :=
  let width := (rows.map fun row => row.1.length).foldl max 0
  rows.map fun (left, right) => left.pushn ' ' (width + 2 - left.length) ++ right

/-- An option in the left column. -/
def optionEntry (letter : Option Char) (shown : String) : String :=
  (match letter with
    | some letter => "  -" ++ String.singleton letter ++ ", "
    | none => "      ") ++ shown

/-- What an option is for, with the value that the environment gives to it. -/
def optionAbout (environment : Option String) (option : OptionSpec) : String :=
  option.about ++ (match option.variableName with
    | some name => " [env: " ++ name ++ "=" ++ environment.getD "" ++ "]"
    | none => "")

/-- The help of a command. -/
def help (command : CommandSpec) (environment : Option String) : List String :=
  [command.about, "", command.usage, ""] ++
    (match command.words with
      | some words => "Arguments:" :: columns [("  " ++ words.shown, words.about)] ++ [""]
      | none => []) ++
    "Options:" :: columns ((command.options.map fun option =>
      (optionEntry option.letter option.shown, optionAbout environment option)) ++
        [(optionEntry (some 'h') "--help", "Print help")])

/-! ## Errors -/

/-- The lines that tell of an error. -/
def explain (command : CommandSpec) (error : ArgumentError) : List String :=
  (match error with
    | .help => []
    | .unknownOption word similar used =>
      ["error: unexpected argument '" ++ Text.visible word ++ "' found", ""] ++
        (match similar with
          | some similar => ["  tip: a similar argument exists: '" ++ similar ++ "'", ""]
          | none => command.markAdvice word) ++
        [command.usageWith used]
    | .unexpected word =>
      ["error: unexpected argument '" ++ Text.visible word ++ "' found", ""] ++
        command.markAdvice word ++ [command.usage]
    | .surplus value others =>
      ["error: unexpected value '" ++ Text.visible value ++
        "' for '--help' found; no more were expected", "", command.usageForHelp others]
    | .noValue option =>
      ["error: a value is required for '" ++ option.shown ++ "' but none was supplied"]
    | .repeated option =>
      ["error: the argument '" ++ option.shown ++ "' cannot be used multiple times", "",
        command.usage]
    | .invalid option value reason =>
      ["error: invalid value '" ++ Text.visible value ++ "' for '" ++ option.shown ++ "': " ++
        reason]
    | .missing wanted used =>
      ["error: the following required arguments were not provided:"] ++
        (wanted.map fun name => "  " ++ name) ++ ["", command.usageWith (used ++ wanted)]) ++
    ["", "For more information, try '--help'."]

end CommandSpec

end Sailplane.Command
