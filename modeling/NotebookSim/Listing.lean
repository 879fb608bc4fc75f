import NotebookSim.Page
import NotebookSim.Store
import NotebookSim.Text
/-!
Listings: the records that match, sorted, then reversed for a descending order, then cut into
pages. Sorting by creation time keeps the insertion order.
-/
namespace NotebookSim

inductive SortOrder where
  | ascending
  | descending
  deriving DecidableEq, Repr

/-- A descending listing is the whole ascending one backwards, ties included. -/
def SortOrder.apply {α : Type} (order : SortOrder) (items : List α) : List α :=
  match order with
  | ascending => items
  | descending => items.reverse

/-- Instants strictly between two bounds, either of which may be absent. -/
structure TimeRange where
  before : Option Timestamp
  after : Option Timestamp
  deriving DecidableEq, Repr

namespace TimeRange

def all : TimeRange := ⟨none, none⟩

def contains (range : TimeRange) (t : Timestamp) : Bool :=
  range.before.all (fun b => decide (t < b)) && range.after.all (fun a => decide (a < t))

end TimeRange

/-- The keys by which records of every kind can be sorted. -/
inductive SortKey where
  | name
  | creationTime
  | lastModifiedTime
  deriving DecidableEq, Repr

/-- Names compare by code points. -/
def nameLe (a b : String) : Bool := decide (a ≤ b)

/-- A stable sort by the key; insertion order stands for the order of creation. -/
def SortKey.sort {R : Type} [Record R] (key : SortKey) (records : List R) : List R :=
  match key with
  | creationTime => records
  | name => records.mergeSort fun a b => nameLe (Record.name a) (Record.name b)
  | lastModifiedTime =>
    records.mergeSort fun a b => decide (Record.lastModifiedTime a ≤ Record.lastModifiedTime b)

/-- The part of a list request that is common to all kinds. -/
structure Query where
  nameContains : Option String
  created : TimeRange
  modified : TimeRange
  sortOrder : SortOrder
  pageSize : Nat
  nextToken : Option String
  deriving DecidableEq, Repr

namespace Query

variable {R : Type} [Record R]

def selects (query : Query) (r : R) : Bool :=
  query.nameContains.all (fun needle => Text.contains (Record.name r) needle) &&
    query.created.contains (Record.creationTime r) &&
    query.modified.contains (Record.lastModifiedTime r)

/-- All matching records in the order of the listing. -/
def listing (query : Query) (filter : R → Bool) (sort : List R → List R) (records : List R) :
    List R :=
  query.sortOrder.apply (sort (records.filter fun r => query.selects r && filter r))

/-- The page that the query asks for. -/
def run (query : Query) (filter : R → Bool) (sort : List R → List R) (records : List R) :
    Except PageError (Page R) :=
  Page.cut (query.listing filter sort records) query.pageSize query.nextToken

end Query
end NotebookSim
