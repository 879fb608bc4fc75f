/-!
TOML values. A table remembers how it came about, because that decides whether later lines of
the document may add to it; the same holds for an array that headers have opened.
-/
namespace NotebookSim.Toml

/-- How a table came about. -/
inductive TableForm where
  /-- Written in braces; nothing can be added to it. -/
  | inline
  /-- Named by a header of its own. -/
  | header
  /-- Named only on the way to the table of some header. -/
  | implied
  /-- Named by dotted keys, and never by a header of its own. -/
  | dotted
  deriving DecidableEq, Repr

inductive Value where
  | string (s : String)
  | integer (i : Int)
  | float (literal : String)
  | boolean (b : Bool)
  | moment (literal : String)
  /-- An array in brackets, or one of tables that headers have opened. -/
  | array (opened : Bool) (items : List Value)
  | table (form : TableForm) (entries : List (String × Value))
  deriving Repr

/-- Named values in the order of the document. -/
abbrev Entries := List (String × Value)

end NotebookSim.Toml
