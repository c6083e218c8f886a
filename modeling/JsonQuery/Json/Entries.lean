/-
# JsonQuery.Json.Entries — named entries in order.

The members of an object are a list of names with what they stand for, in the order in which answers
show them.  A look-up finds the first entry of a name.  Writing a name that is present keeps its
place, a new name goes to the end, and removing an entry moves the last entry into its place.
-/

namespace JsonQuery

/-- Names with what they stand for, in order. -/
abbrev Entries (α : Type) := List (String × α)

namespace Entries

variable {α : Type}

/-- What the first entry of a name stands for. -/
def get? (entries : Entries α) (name : String) : Option α :=
  match entries with
  | [] => none
  | (key, value) :: rest => if key = name then some value else get? rest name

/-- Whether a name has an entry. -/
def has (entries : Entries α) (name : String) : Bool := (entries.get? name).isSome

/-- Writes an entry: in place if the name is present, at the end if not. -/
def put (entries : Entries α) (name : String) (value : α) : Entries α :=
  match entries with
  | [] => [(name, value)]
  | (key, old) :: rest =>
    if key = name then (key, value) :: rest else (key, old) :: put rest name value

/-- Removes the first entry of a name; the last entry takes its place. -/
def swapRemove (entries : Entries α) (name : String) : Entries α :=
  match entries.findIdx? (·.1 == name), entries.getLast? with
  | some i, some last => (entries.set i last).dropLast
  | _, _ => entries

/-- The names in order. -/
def names (entries : Entries α) : List String := entries.map (·.1)

end Entries

end JsonQuery
