import NotebookSim.Toml
/-!
Tables as a document builds them. A key is given once; a header opens a table once; dotted keys
add only to tables that no header has opened, and no header opens those afterwards.
-/
namespace NotebookSim.Toml.Table

/-- Replaces the value of a key in its place. -/
def replace (key : String) (value : Value) : Entries → Entries
  | [] => []
  | (k, v) :: entries =>
    if k = key then (k, value) :: entries else (k, v) :: replace key value entries

/-- Changes the entries of the table that was opened last. -/
def inLast (f : Entries → Option Entries) : List Value → Option (List Value)
  | [] => none
  | [.table form entries] => (f entries).map fun es => [.table form es]
  | [_] => none
  | v :: vs => (inLast f vs).map (v :: ·)

/-- Gives a value to a dotted key. `takesKeys` tells whether the table at hand may take a value
under a key without dots: the table of the header at work may, and so may tables that no header
has opened. The tables on the way belong to dotted keys from then on. -/
def set (takesKeys : Bool) : List String → Value → Entries → Option Entries
  | [], _, _ => none
  | [key], value, entries =>
    if takesKeys && (entries.lookup key).isNone then some (entries ++ [(key, value)]) else none
  | key :: path, value, entries =>
    match entries.lookup key with
    | none => (set true path value []).map fun es => entries ++ [(key, .table .dotted es)]
    | some (.table form es) =>
      if form = .header ∨ form = .inline then none
      else (set true path value es).map fun es => replace key (.table .dotted es) entries
    | some (.array true items) =>
      (inLast (set false path value) items).map fun items =>
        replace key (.array true items) entries
    | some _ => none

/-- Opens the table of a header. -/
def openTable : List String → Entries → Option Entries
  | [], _ => none
  | [key], entries =>
    match entries.lookup key with
    | none => some (entries ++ [(key, .table .header [])])
    | some (.table .implied es) => some (replace key (.table .header es) entries)
    | some _ => none
  | key :: path, entries =>
    match entries.lookup key with
    | none => (openTable path []).map fun es => entries ++ [(key, .table .implied es)]
    | some (.table form es) =>
      if form = .inline then none
      else (openTable path es).map fun es => replace key (.table form es) entries
    | some (.array true items) =>
      (inLast (openTable path) items).map fun items => replace key (.array true items) entries
    | some _ => none

/-- Opens a further table of an array of tables. -/
def openItem : List String → Entries → Option Entries
  | [], _ => none
  | [key], entries =>
    match entries.lookup key with
    | none => some (entries ++ [(key, .array true [.table .header []])])
    | some (.array true items) =>
      some (replace key (.array true (items ++ [.table .header []])) entries)
    | some _ => none
  | key :: path, entries =>
    match entries.lookup key with
    | none => (openItem path []).map fun es => entries ++ [(key, .table .implied es)]
    | some (.table form es) =>
      if form = .inline then none
      else (openItem path es).map fun es => replace key (.table form es) entries
    | some (.array true items) =>
      (inLast (openItem path) items).map fun items => replace key (.array true items) entries
    | some _ => none

/-- Changes the entries of the table that a header opened. -/
def within (f : Entries → Option Entries) : List String → Entries → Option Entries
  | [], entries => f entries
  | key :: path, entries =>
    match entries.lookup key with
    | some (.table form es) =>
      (within f path es).map fun es => replace key (.table form es) entries
    | some (.array true items) =>
      (inLast (within f path) items).map fun items => replace key (.array true items) entries
    | _ => none

/-- The table of an inline table's keys and values. -/
def ofPairs? (pairs : List (List String × Value)) : Option Entries :=
  pairs.foldlM (fun entries (path, value) => set true path value entries) []

end NotebookSim.Toml.Table
