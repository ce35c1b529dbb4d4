import Sailplane.Files.Path

/-!
# Disk

Files and directories by the names that lead to them, and the troubles that lie ahead: every
operation first meets the next trouble, if there is one. It may fail, and then changes nothing, or
whoever asked for it is gone: then it was handed over all the same, so that it is given up, or done
just before, or done later. Apart from that an operation fails for what stands on the disk, and says
so in the words of the system.
-/
namespace Sailplane

/-- What stands at a place of a disk. -/
inductive Node where
  /-- A directory. -/
  | directory
  /-- A file with its bytes. -/
  | file (bytes : List UInt8)
  deriving Repr, DecidableEq

/-- What becomes of an operation that nobody waits for any more. -/
inductive Fate where
  /-- It is given up before it begins. -/
  | undone
  /-- It is done before whoever asked for it goes on to clear up. -/
  | done
  /-- It is done at some time after that. -/
  | late
  deriving Repr, DecidableEq

/-- What stops an operation. -/
inductive Trouble where
  /-- It fails for a reason. -/
  | fails (reason : String)
  /-- Whoever asked for it is gone. -/
  | interrupts (fate : Fate)
  deriving Repr, DecidableEq

/-- The names that lead from the root to a node. -/
abbrev Place := List String

/-- What a disk is asked to do. -/
inductive Disk.Operation where
  /-- Make a directory and all that lead to it, along the segments of its path. -/
  | makeDirectories (names : List String)
  /-- Make an empty file, or empty one that is there. -/
  | create (place : Place)
  /-- Write bytes behind those of a file. -/
  | append (place : Place) (bytes : List UInt8)
  /-- See to it that all is written. -/
  | sync
  /-- Put a file at a path, where it replaces a file. -/
  | rename (source : Place) (path : String)
  deriving Repr, DecidableEq

/-- A disk. -/
structure Disk where
  /-- What stands where. -/
  nodes : List (Place × Node)
  /-- What the next operations meet, none for no trouble. -/
  troubles : List (Option Trouble)
  /-- The operations that nobody waits for any more, and what becomes of each. -/
  left : List (Disk.Operation × Fate)
  deriving Repr, DecidableEq

namespace Disk

/-- The words for a place where nothing stands. -/
def noSuchFile : String := "No such file or directory (os error 2)"

/-- The words for a place that is taken. -/
def fileExists : String := "File exists (os error 17)"

/-- The words for a file where a directory is wanted. -/
def notDirectory : String := "Not a directory (os error 20)"

/-- The words for a directory where a file is wanted. -/
def isDirectory : String := "Is a directory (os error 21)"

/-- The words for a directory that cannot be replaced. -/
def busy : String := "Device or resource busy (os error 16)"

/-- A disk with nothing on it and no trouble ahead. -/
def empty : Disk := ⟨[], [], []⟩

/-- What stands at a place; the root is a directory. -/
def node? (disk : Disk) (place : Place) : Option Node :=
  if place.isEmpty then some .directory
  else (disk.nodes.find? fun entry => entry.1 == place).map (·.2)

/-- Put something at a place instead of what stood there. -/
def put (disk : Disk) (place : Place) (node : Node) : Disk :=
  { disk with nodes := (disk.nodes.filter fun entry => entry.1 != place) ++ [(place, node)] }

/-- Take away what stands at a place. -/
def remove (disk : Disk) (place : Place) : Disk :=
  { disk with nodes := disk.nodes.filter fun entry => entry.1 != place }

/-- The disk with what the next operation meets behind it. -/
def onward (disk : Disk) : Disk := { disk with troubles := disk.troubles.drop 1 }

/-- Whether something may be put into a directory: it has to be there. -/
def checkDirectory (disk : Disk) (place : Place) : Except String Unit :=
  match disk.node? place with
  | some .directory => .ok ()
  | some (.file _) => .error notDirectory
  | none => .error noSuchFile

/-- Go along segments from a place on, and make every directory on the way that is missing; why that
fails, none for success. What was made stays, even if a later one cannot be made. Each that is made
may fail, but nobody stops the whole half-way by going away. -/
def makeFrom (base : Place) : List String → Disk → Option String × Disk
  | [], disk => match disk.node? base with
    | some (.file _) => (some fileExists, disk)
    | _ => (none, disk)
  | segment :: rest, disk =>
    if segment == "" || segment == "." then makeFrom base rest disk
    else match disk.node? base with
    | some (.file _) => (some notDirectory, disk)
    | _ =>
      let next := Path.enter base segment
      if segment == ".." || (disk.node? next).isSome then makeFrom next rest disk
      else match disk.troubles.head?.join with
        | some (.fails reason) => (some reason, disk.onward)
        | _ => makeFrom next rest (disk.onward.put next .directory)

/-- A disk with an empty file at a place. -/
def withFile (disk : Disk) (place : Place) : Except String Disk := do
  disk.checkDirectory place.dropLast
  if disk.node? place = some .directory then .error isDirectory
  else .ok (disk.put place (.file []))

/-- A disk with bytes behind those of a file. -/
def withBytes (disk : Disk) (place : Place) (bytes : List UInt8) : Except String Disk :=
  match disk.node? place with
  | some (.file written) => .ok (disk.put place (.file (written ++ bytes)))
  | some .directory => .error isDirectory
  | none => .error noSuchFile

/-- A disk with a file at a path instead of where it was. A path that ends in a slash or in dots
leads to a directory, which no file replaces. -/
def withMoved (disk : Disk) (source : Place) (path : String) : Except String Disk :=
  match Path.leaf? path with
  | none => .error (if Path.isAbsolute path then busy else noSuchFile)
  | some (before, last, isOpen) => do
    disk.checkDirectory (before.foldl Path.enter [])
    if last == "." || last == ".." then .error busy
    else match disk.node? source with
      | none => .error noSuchFile
      | some node =>
        if isOpen then .error notDirectory
        else if disk.node? (Path.place path) = some .directory then .error isDirectory
        else .ok ((disk.remove source).put (Path.place path) node)

/-- What comes of some work: the disk after it, or the same disk and why it failed. -/
def outcome (disk : Disk) : Except String Disk → Option String × Disk
  | .ok changed => (none, changed)
  | .error reason => (some reason, disk)

/-- Do an operation, or fail for a reason. -/
def perform (disk : Disk) : Operation → Option String × Disk
  | .makeDirectories names => makeFrom [] names disk
  | .create place => disk.outcome (disk.withFile place)
  | .append place bytes => disk.outcome (disk.withBytes place bytes)
  | .sync => (none, disk)
  | .rename source path => disk.outcome (disk.withMoved source path)

/-- Leave an operation that nobody waits for any more. -/
def leave (disk : Disk) (operation : Operation) (fate : Fate) : Disk :=
  let disk := { disk with left := disk.left ++ [(operation, fate)] }
  match fate with
  | .done => (disk.perform operation).2
  | _ => disk

/-- Ask for an operation: it meets the next trouble, or else is done or fails for a reason. -/
def operate (disk : Disk) (operation : Operation) : Option Trouble × Disk :=
  match disk.troubles.head?.join with
  | some (.fails reason) => (some (.fails reason), disk.onward)
  | some (.interrupts fate) => (some (.interrupts fate), disk.onward.leave operation fate)
  | none =>
    let (reason, after) := disk.onward.perform operation
    (reason.map .fails, after)

/-- The disk when all is done that is done late. -/
def settled (disk : Disk) : Disk :=
  disk.left.foldl (fun disk own => match own.2 with
    | .late => (disk.perform own.1).2
    | _ => disk) disk

/-- Make a directory and all that lead to it, along the segments of its path. -/
def makeDirectories (disk : Disk) (segments : List String) : Option Trouble × Disk :=
  disk.operate (.makeDirectories segments)

/-- Make an empty file, or empty one that is there. -/
def create (disk : Disk) (place : Place) : Option Trouble × Disk := disk.operate (.create place)

/-- Write bytes behind those of a file. -/
def append (disk : Disk) (place : Place) (bytes : List UInt8) : Option Trouble × Disk :=
  disk.operate (.append place bytes)

/-- See to it that all is written. -/
def sync (disk : Disk) : Option Trouble × Disk := disk.operate .sync

/-- Put a file at a path, where it replaces a file. -/
def rename (disk : Disk) (source : Place) (path : String) : Option Trouble × Disk :=
  disk.operate (.rename source path)

end Disk

end Sailplane
