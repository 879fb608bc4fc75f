import NotebookSim.Listing
import NotebookSim.Shape.Record
/-!
The members that the list operations share. Each kind adds its own sort keys and filters.
-/
namespace NotebookSim

def SortOrder.reader : Reader SortOrder :=
  Reader.choice [("Ascending", .ascending), ("Descending", .descending)]

/-- A list request with sort keys of type `Key`. -/
structure ListRequest (Key : Type) where
  nextToken : Option String
  maxResults : Option Nat
  sortBy : Option Key
  sortOrder : Option SortOrder
  nameContains : Option String
  created : TimeRange
  modified : TimeRange
  deriving DecidableEq, Repr

namespace ListRequest

variable {Key : Type}

/-- The listing that is asked for, in pages of a size already resolved. -/
def query (request : ListRequest Key) (pageSize : Nat) : Query where
  nameContains := request.nameContains
  created := request.created
  modified := request.modified
  sortOrder := request.sortOrder.getD .ascending
  pageSize := pageSize
  nextToken := request.nextToken

/-- A request by its members, without bounds on the time of modification. -/
def ofMembers (nextToken : Option String) (maxResults : Option Nat) (sortBy : Option Key)
    (sortOrder : Option SortOrder) (nameContains : Option String)
    (createdBefore createdAfter : Option Timestamp) : ListRequest Key :=
  ⟨nextToken, maxResults, sortBy, sortOrder, nameContains, ⟨createdBefore, createdAfter⟩, .all⟩

def withModified (request : ListRequest Key) (before after : Option Timestamp) :
    ListRequest Key := { request with modified := ⟨before, after⟩ }

/-- The members of every list request but the bounds on times; all of them may be left out. -/
def leadingFields {β : Type} (key : Reader Key)
    (next : Option String → Option Nat → Option Key → Option SortOrder → Option String → β) :
    Fields β :=
  Fields.pure next
    |>.and (.omittable "NextToken" Reader.text)
    |>.and (.omittable "MaxResults" Reader.size)
    |>.and (.omittable "SortBy" key)
    |>.and (.omittable "SortOrder" SortOrder.reader)
    |>.and (.omittable "NameContains" Reader.text)

/-- The members of every list request. -/
def fields (key : Reader Key) : Fields (ListRequest Key) :=
  leadingFields key ofMembers
    |>.and (.omittable "CreationTimeBefore" Reader.timestamp)
    |>.and (.omittable "CreationTimeAfter" Reader.timestamp)

/-- The same with bounds on the time of modification, and a further step of assembly. -/
def fieldsWithModified {β : Type} (key : Reader Key) (next : ListRequest Key → β) : Fields β :=
  leadingFields key (fun token size sortBy order name cb ca mb ma =>
      next ((ofMembers token size sortBy order name cb ca).withModified mb ma))
    |>.and (.omittable "CreationTimeBefore" Reader.timestamp)
    |>.and (.omittable "CreationTimeAfter" Reader.timestamp)
    |>.and (.omittable "LastModifiedTimeBefore" Reader.timestamp)
    |>.and (.omittable "LastModifiedTimeAfter" Reader.timestamp)

end ListRequest
end NotebookSim
