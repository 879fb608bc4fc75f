import NotebookSim.Entries
import NotebookSim.Tag
/-!
The tags of every ARN. Keys are unique per ARN and keep the order in which they were first
added; the index does not ask whether the resource exists.
-/
namespace NotebookSim

/-- Writes one tag into a list: a known key keeps its place, a new one goes last. -/
def Tag.upsert (tag : Tag) : List Tag → List Tag
  | [] => [tag]
  | t :: tags => if t.key = tag.key then { t with value := tag.value } :: tags
    else t :: tag.upsert tags

/-- Writes tags one after the other. -/
def Tag.upsertAll (stored added : List Tag) : List Tag :=
  added.foldl (fun tags tag => tag.upsert tags) stored

/-- Tag lists by ARN, at most one list per ARN. -/
structure TagIndex where
  entries : List (String × List Tag)
  deriving DecidableEq, Repr

namespace TagIndex

def empty : TagIndex := ⟨[]⟩

/-- The tags of an ARN. -/
def list (index : TagIndex) (arn : String) : List Tag := (index.entries.lookup arn).getD []

/-- Drops the entry of an ARN. -/
def removeResource (index : TagIndex) (arn : String) : TagIndex :=
  ⟨Entries.erase arn index.entries⟩

/-- Adds or overwrites tags. The ARN has an entry afterwards, even when no tag was given. -/
def add (index : TagIndex) (arn : String) (tags : List Tag) : TagIndex :=
  ⟨Entries.assign arn (Tag.upsertAll (index.list arn) tags) index.entries⟩

/-- Removes the tags with these keys; an ARN that had tags and has none left loses its entry. -/
def delete (index : TagIndex) (arn : String) (keys : List String) : TagIndex :=
  match index.entries.lookup arn with
  | none => index
  | some tags =>
    let kept := tags.filter fun tag => !keys.contains tag.key
    if kept.isEmpty then index.removeResource arn else ⟨Entries.assign arn kept index.entries⟩

/-- How many ARNs have an entry. -/
def taggedResourceCount (index : TagIndex) : Nat := index.entries.length

end TagIndex
end NotebookSim
