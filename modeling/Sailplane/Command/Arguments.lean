import Sailplane.Command.Download
import Sailplane.Command.Usage
import Sailplane.Text.Similarity

/-!
# Arguments

The words of a command line, read as options with values and as plain words. An option without a
value waits for the next word, and is taken in only after the word behind its value was looked at.
What cannot be read is told together with how the command is used.
-/
namespace Sailplane.Command

/-- Options with their values, and plain words. -/
structure Arguments where
  /-- The options in the order given. -/
  options : List (OptionSpec × String)
  /-- The plain words in the order given. -/
  words : List String
  deriving Repr, DecidableEq

/-- The value of an option, if it is given. -/
def Arguments.value? (arguments : Arguments) (option : OptionSpec) : Option String :=
  (arguments.options.find? fun given => given.1 == option).map (·.2)

/-- The machine word that digits continue, or why they do not: the first thing in the way counts. -/
def readDigits (value : Nat) : List Char → Except String UInt64
  | [] => .ok (UInt64.ofNat value)
  | c :: rest =>
    if !c.isDigit then .error "invalid digit found in string"
    else
      let value := value * 10 + (c.toNat - 48)
      if Nat.pow 2 64 ≤ value then .error "number too large to fit in target type"
      else readDigits value rest

/-- An unsigned machine word, or why a text is none. -/
def readWord (text : String) : Except String UInt64 :=
  match text.toList with
  | [] => .error "cannot parse integer from empty string"
  | '+' :: c :: rest => readDigits 0 (c :: rest)
  | digits => readDigits 0 digits

/-- An option with its value, which may not have been met yet. -/
abbrev Pending := Option (OptionSpec × Option String)

/-- A word that is no plain word. -/
inductive Marked where
  /-- The help is asked for, perhaps with a value. -/
  | help (value : Option String)
  /-- An option, perhaps with its value. -/
  | option (option : OptionSpec) (value : Option String)
  /-- A long name that is not known. -/
  | unknownName (name : String)
  /-- A letter that is not known. -/
  | unknownLetter (letter : Char)

namespace CommandSpec

/-- Whether a word looks like an option. -/
def looksLikeOption (word : String) : Bool := word.startsWith "-" && word != "-"

/-- What a word that looks like an option says. -/
def marked (command : CommandSpec) (word : String) : Marked :=
  match word.toList with
  | '-' :: '-' :: chars =>
    let long := chars.takeWhile (· != '=')
    let value := if long.length < chars.length then
      some (String.ofList (chars.drop (long.length + 1))) else none
    let name := String.ofList long
    if name = "help" then .help value
    else match command.options.find? fun option => option.long == name with
      | some option => .option option value
      | none => .unknownName name
  | _ :: letter :: chars =>
    if letter = 'h' then .help none
    else match command.options.find? fun option => option.letter == some letter with
      | some option => .option option (match chars with
        | [] => none
        | '=' :: value => some (String.ofList value)
        | value => some (String.ofList value))
      | none => .unknownLetter letter
  | _ => .unknownName ""

/-- Take an option in, whose value may be lacking. -/
def accept (read : Arguments) (option : OptionSpec) (value : Option String) :
    Except ArgumentError Arguments := do
  match value with
  | none => throw (.noValue option)
  | some value =>
    if read.options.any fun given => given.1 == option then throw (.repeated option)
    if option.kind = .path && value.isEmpty then throw (.noValue option)
    if option.kind = .word then
      match readWord value with
      | .ok _ => pure ()
      | .error reason => throw (.invalid option value reason)
    return { read with options := read.options ++ [(option, value)] }

/-- Take the option in that was met last, unless that has been done. -/
def settlePending (read : Arguments) (pending : Pending) : Except ArgumentError Arguments :=
  match pending with
  | none => .ok read
  | some (option, value) => accept read option value

/-- What was used so far, as usage texts show it. -/
def used (command : CommandSpec) (read : Arguments) : List String :=
  (read.options.map fun given => given.1.shown) ++
    (if read.words.isEmpty then [] else command.shownWords)

/-- What was used so far with the option that was met last: if it was given before, it counts as
not given at all, and without a value it does not count. -/
def usedWith (command : CommandSpec) (read : Arguments) : Pending → List String
  | some (option, some value) =>
    if read.options.any fun given => given.1 == option then
      command.used { read with options := read.options.filter fun given => given.1 != option }
    else command.used { read with options := read.options ++ [(option, value)] }
  | _ => command.used read

/-- The names that a long name can be taken for, with what they stand for in usage texts. -/
def longNames (command : CommandSpec) : List (String × String) :=
  (command.options.map fun option => (option.long, option.shown)) ++ [("help", "--help")]

/-- The error for a long name that is not known. -/
def unknownOption (command : CommandSpec) (name : String) (used : List String) : ArgumentError :=
  match Text.mostSimilar? name (command.longNames.map (·.1)) with
  | some similar =>
    let shown := (command.longNames.filter fun entry => entry.1 == similar).map (·.2)
    .unknownOption ("--" ++ name) (some ("--" ++ similar))
      (used ++ shown.filter fun option => !used.contains option)
  | none => .unknownOption ("--" ++ name) none used

/-- Read the words behind a command. -/
def readWords (command : CommandSpec) (read : Arguments) (pending : Pending) :
    List String → Except ArgumentError Arguments
  | [] => settlePending read pending
  | word :: rest => do
    if word == "--" then
      let read ← settlePending read pending
      match rest, command.words with
      | first :: _, none => throw (.unexpected first)
      | rest, _ => return { read with words := read.words ++ rest }
    else if looksLikeOption word then
      match command.marked word with
      | .unknownName name => throw (command.unknownOption name (command.usedWith read pending))
      | .unknownLetter letter => throw (.unexpected ("-" ++ String.singleton letter))
      | .help (some value) => throw (.surplus value (!(command.used read).isEmpty))
      | .help none =>
        let _ ← settlePending read pending
        throw .help
      | .option option value =>
        let read ← settlePending read pending
        match value with
        | some value => readWords command (← accept read option (some value)) none rest
        | none => readWords command read (some (option, none)) rest
    else match pending with
      | some (option, none) => readWords command read (some (option, some word)) rest
      | pending =>
        let read ← settlePending read pending
        if command.words.isSome then
          readWords command { read with words := read.words ++ [word] } none rest
        else throw (.unexpected word)

/-- Read the words behind a command; all that has to be given is there. -/
def read (command : CommandSpec) (words : List String) : Except ArgumentError Arguments := do
  let arguments ← command.readWords ⟨[], []⟩ none words
  let given := arguments.options.map (·.1)
  let absent := command.required.filter fun option => !given.contains option
  let lacking := absent.map OptionSpec.shown ++
    (if arguments.words.isEmpty then command.shownWords else [])
  if lacking.isEmpty then return arguments
  else throw (.missing lacking (command.used arguments))

/-- The outcome of a command whose arguments are not read to their end. -/
def refuse (command : CommandSpec) (environment : Option String) (error : ArgumentError) :
    Outcome :=
  match error with
  | .help => ⟨command.help environment, [], 0⟩
  | error => ⟨[], command.explain error, 2⟩

end CommandSpec

/-! ## The commands -/

/-- The directory that files are written to. -/
def outputDirectory : OptionSpec :=
  ⟨"output-dir", some 'o', "OUTPUT_DIR", .path, "Directory the files are written to [default: .]",
    none⟩

/-- The name sent with every request. -/
def userAgentOption : OptionSpec :=
  ⟨"user-agent", none, "USER_AGENT", .text, "User agent sent with every request",
    some "SOAR_USER_AGENT"⟩

/-- How many seconds a connection may take. -/
def connectTimeout : OptionSpec :=
  ⟨"connect-timeout", none, "CONNECT_TIMEOUT", .word, "Connect timeout in seconds", none⟩

/-- The command that downloads files. -/
def downloadCommand : CommandSpec :=
  ⟨"download", "Download files one after another through the download queue",
    [outputDirectory, userAgentOption, connectTimeout], [],
    some ⟨"URLS", "URLs to download, in order"⟩⟩

/-- The file of a task. -/
def taskOption : OptionSpec := ⟨"task", some 't', "TASK", .path, "Task definition (JSON)", none⟩

/-- The file of a track. -/
def trackOption : OptionSpec :=
  ⟨"track", some 'r', "TRACK", .path,
    "Fix track (JSON array of aircraft states, oldest first)", none⟩

/-- The command that checks a track against a task. -/
def startCheckCommand : CommandSpec :=
  ⟨"start-check",
    "Replay a recorded track through a task and report start, turn points and finish",
    [taskOption, trackOption], [taskOption, trackOption], none⟩

/-- The plan of a download; the name sent may also come from the environment. -/
def downloadPlan (environment : Option String) (words : List String) :
    Except ArgumentError DownloadPlan := do
  let arguments ← downloadCommand.read words
  let timeout := (arguments.value? connectTimeout).bind fun text => (readWord text).toOption
  let named := (arguments.value? userAgentOption).or environment
  return ⟨arguments.words, (arguments.value? outputDirectory).getD ".",
    ⟨named.getD Config.userAgent, timeout⟩⟩

/-- Download what the words behind the command say. -/
def runDownload (network : Http.Network) (environment : Option String) (words : List String)
    (disk : Disk) : Outcome × Disk :=
  match downloadPlan environment words with
  | .ok plan => download network plan disk
  | .error error => (downloadCommand.refuse environment error, disk)

/-- The paths of a task and a track. -/
def startCheckPaths (words : List String) : Except ArgumentError (String × String) := do
  let arguments ← startCheckCommand.read words
  return ((arguments.value? taskOption).getD "", (arguments.value? trackOption).getD "")

/-! ## All commands -/

/-- What the program does. -/
def overview : List String :=
  ["Glide computer task and download tools", "", "Usage: soar <COMMAND>", "", "Commands:"] ++
    CommandSpec.columns ([downloadCommand, startCheckCommand].map fun command =>
      ("  " ++ command.name, command.about))

/-- The outcome without a command that is known. -/
def unknownCommand (words : List String) : Outcome :=
  match words with
  | [] => ⟨[], overview, 2⟩
  | word :: _ =>
    if ["help", "-h", "--help"].contains word then ⟨overview, [], 0⟩
    else
      let complaint := if CommandSpec.looksLikeOption word then
        "error: unexpected argument '" ++ Text.visible word ++ "' found"
      else "error: unrecognized subcommand '" ++ Text.visible word ++ "'"
      ⟨[], [complaint, "", "Usage: soar <COMMAND>", "", "For more information, try '--help'."], 2⟩

end Sailplane.Command
