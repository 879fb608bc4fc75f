import NotebookSim.Tag
/-!
The requests about tags. They name an ARN and do not ask whether it is the ARN of a resource.
-/
namespace NotebookSim

structure AddTags where
  resourceArn : String
  tags : List Tag
  deriving DecidableEq, Repr

namespace AddTags

def fields : Fields AddTags :=
  Fields.pure AddTags.mk
    |>.and (.required "ResourceArn" Reader.text)
    |>.and (.required "Tags" (Reader.list Tag.reader))

def reader : Reader AddTags := fields.reader "AddTagsParams"

end AddTags

structure ListTags where
  resourceArn : String
  maxResults : Option Nat
  nextToken : Option String
  deriving DecidableEq, Repr

namespace ListTags

def fields : Fields ListTags :=
  Fields.pure ListTags.mk
    |>.and (.required "ResourceArn" Reader.text)
    |>.and (.optional "MaxResults" Reader.size)
    |>.and (.optional "NextToken" Reader.text)

def reader : Reader ListTags := fields.reader "ListTagsParams"

end ListTags

structure DeleteTags where
  resourceArn : String
  tagKeys : List String
  deriving DecidableEq, Repr

namespace DeleteTags

def fields : Fields DeleteTags :=
  Fields.pure DeleteTags.mk
    |>.and (.required "ResourceArn" Reader.text)
    |>.and (.required "TagKeys" (Reader.list Reader.text))

def reader : Reader DeleteTags := fields.reader "DeleteTagsParams"

end DeleteTags

end NotebookSim
