/-!
Values by key, in the order in which the keys were first given one.
-/
namespace NotebookSim.Entries

variable {κ α : Type} [DecidableEq κ]

/-- Replaces or appends the entry of a key. -/
def assign (key : κ) (value : α) : List (κ × α) → List (κ × α)
  | [] => [(key, value)]
  | (k, v) :: entries =>
    if k = key then (k, value) :: entries else (k, v) :: assign key value entries

/-- Leaves out the entry of a key. -/
def erase (key : κ) (entries : List (κ × α)) : List (κ × α) :=
  entries.filter fun entry => entry.1 ≠ key

end NotebookSim.Entries
