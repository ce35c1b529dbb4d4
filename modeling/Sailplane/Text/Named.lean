/-!
# Named values

Values under names, kept in the order of the names: texts are compared by code points, which is
the order of their encoded bytes. Every name occurs at most once.
-/
namespace Sailplane.Named

variable {α : Type}

/-- Put a value under a name; a value of the same name is replaced. -/
def insert (name : String) (value : α) : List (String × α) → List (String × α)
  | [] => [(name, value)]
  | (other, kept) :: rest =>
    if name < other then (name, value) :: (other, kept) :: rest
    else if name == other then (name, value) :: rest
    else (other, kept) :: insert name value rest

/-- Take away the value of a name. -/
def erase (name : String) (entries : List (String × α)) : List (String × α) :=
  entries.filter fun entry => entry.1 != name

/-- The value under a name. -/
def find? (name : String) (entries : List (String × α)) : Option α :=
  (entries.find? fun entry => entry.1 == name).map (·.2)

/-- Named values from a list in any order; of several of one name the last stays. -/
def ofList (entries : List (String × α)) : List (String × α) :=
  entries.foldl (fun sorted entry => insert entry.1 entry.2 sorted) []

end Sailplane.Named
