import NotebookSim.Json.Lexis
import NotebookSim.Text.Base64
/-!
Pages of a listing. The token of the next page is the offset where it starts, as a small JSON
object in URL-safe base64; clients treat it as opaque.
-/
namespace NotebookSim

inductive PageError where
  | invalidToken
  | sizeOutOfRange (requested upper : Nat)
  deriving DecidableEq, Repr

/-- The wording for clients of the service. -/
def PageError.message : PageError → String
  | invalidToken => "Invalid pagination token"
  | sizeOutOfRange requested upper =>
    "Value '" ++ Text.natural requested ++ "' at 'maxResults' failed to satisfy constraint: " ++
      if requested = 0 then "Member must have value greater than or equal to 1"
      else "Member must have value less than or equal to " ++ Text.natural upper

/-- The short wording, without the member's name. -/
def PageError.summary : PageError → String
  | invalidToken => "invalid pagination token"
  | sizeOutOfRange requested upper =>
    "max results " ++ Text.natural requested ++ " out of range 1-" ++ Text.natural upper

namespace Cursor

/-- The one member of a cursor. -/
def offsetName : List Char := ['o', 'f', 'f', 's', 'e', 't']

/-- The JSON text of a cursor. -/
def text (offset : Nat) : List Char :=
  '\x7b' :: '"' :: offsetName ++ '"' :: ':' :: Text.digits offset ++ ['\x7d']

def encode (offset : Nat) : String :=
  String.ofList (Text.Base64.encode ((text offset).map fun c => UInt8.ofNat c.toNat))

/-- The offset at the front of the text: a JSON integer of at most 64 bits. -/
def readOffset (cs : List Char) : Option (Nat × List Char) :=
  match Json.integerPart? (Json.skipBlank cs) with
  | none => none
  | some (ds, rest) =>
    let fractional := match rest with
      | c :: _ => c == '.' || c == 'e' || c == 'E'
      | [] => false
    let n := Text.digitsValue ds
    if !fractional && n ≤ Json.greatestWord then some (n, rest) else none

/-- The rest of a string whose value does not matter: any escape of the right length will do. -/
def skipString : List Char → Option (List Char)
  | [] => none
  | '"' :: rest => some rest
  | '\\' :: 'u' :: a :: b :: c :: d :: rest =>
    if (Json.codeUnit? a b c d).isSome then skipString rest else none
  | '\\' :: e :: rest => if (Json.escape? e).isSome then skipString rest else none
  | c :: rest => if c.toNat < 0x20 then none else skipString rest

/-- A word of JSON other than a string or a container. -/
def skipScalar (cs : List Char) : Option (List Char) :=
  if ['n', 'u', 'l', 'l'].isPrefixOf cs then some (cs.drop 4)
  else if ['t', 'r', 'u', 'e'].isPrefixOf cs then some (cs.drop 4)
  else if ['f', 'a', 'l', 's', 'e'].isPrefixOf cs then some (cs.drop 5)
  else (Json.numeral? cs).map (·.2)

mutual

/-- The rest of the text after a value of any kind and depth. -/
def skipValue (fuel : Nat) (cs : List Char) : Option (List Char) :=
  match fuel with
  | 0 => none
  | fuel + 1 =>
    match Json.skipBlank cs with
    | '"' :: cs => skipString cs
    | '[' :: cs =>
      match Json.skipBlank cs with
      | ']' :: rest => some rest
      | cs => skipItems fuel cs
    | '\x7b' :: cs =>
      match Json.skipBlank cs with
      | '\x7d' :: rest => some rest
      | cs => skipMembers fuel cs
    | cs => skipScalar cs

def skipItems (fuel : Nat) (cs : List Char) : Option (List Char) :=
  match fuel with
  | 0 => none
  | fuel + 1 =>
    match skipValue fuel cs with
    | none => none
    | some cs =>
      match Json.skipBlank cs with
      | ',' :: cs => skipItems fuel cs
      | ']' :: rest => some rest
      | _ => none

def skipMembers (fuel : Nat) (cs : List Char) : Option (List Char) :=
  match fuel with
  | 0 => none
  | fuel + 1 =>
    match Json.skipBlank cs with
    | '"' :: cs =>
      match (skipString cs).map Json.skipBlank with
      | some (':' :: cs) =>
        match skipValue fuel cs with
        | none => none
        | some cs =>
          match Json.skipBlank cs with
          | ',' :: cs => skipMembers fuel cs
          | '\x7d' :: rest => some rest
          | _ => none
      | _ => none
    | _ => none

end

/-- Whether characters that stand for single bytes are valid UTF-8. -/
def isUtf8 (cs : List Char) : Bool :=
  (String.fromUTF8? ⟨(cs.map fun c => UInt8.ofNat c.toNat).toArray⟩).isSome

/-- A member name and the text after its colon. -/
def readName (cs : List Char) : Option (List Char × List Char) :=
  match Json.skipBlank cs with
  | '"' :: cs =>
    match Json.stringBody? cs with
    | none => none
    | some (name, rest) =>
      if isUtf8 (cs.take (cs.length - rest.length)) then
        match Json.skipBlank rest with
        | ':' :: rest => some (name, rest)
        | _ => none
      else none
  | _ => none

/-- One or more members and the closing brace; the offset is given exactly once, and members of
other names are skipped. -/
def readMembers (fuel : Nat) (found : Option Nat) (cs : List Char) :
    Option (Nat × List Char) :=
  match fuel with
  | 0 => none
  | fuel + 1 =>
    match readName cs with
    | none => none
    | some (name, cs) =>
      let step : Option (Option Nat × List Char) :=
        if name = offsetName then
          match found with
          | some _ => none
          | none => (readOffset cs).map fun (n, rest) => (some n, rest)
        else (skipValue (2 * cs.length + 2) cs).map fun rest => (found, rest)
      match step with
      | none => none
      | some (found, cs) =>
        match Json.skipBlank cs with
        | ',' :: cs => readMembers fuel found cs
        | '\x7d' :: rest => found.map fun n => (n, rest)
        | _ => none

/-- The offset of a cursor's JSON text: an object with an offset, or an array of just that. -/
def readText (cs : List Char) : Option Nat :=
  let whole := match Json.skipBlank cs with
    | '\x7b' :: cs => readMembers (cs.length + 1) none cs
    | '[' :: cs =>
      match readOffset cs with
      | none => none
      | some (n, cs) =>
        match Json.skipBlank cs with
        | ']' :: rest => some (n, rest)
        | _ => none
    | _ => none
  match whole with
  | some (n, rest) => if (Json.skipBlank rest).isEmpty then some n else none
  | none => none

def decode? (token : String) : Option Nat :=
  match Text.Base64.decode? token.toList with
  | some bytes => readText (bytes.map fun b => Char.ofNat b.toNat)
  | none => none

end Cursor

/-- Part of a listing, with the token of the next page when items remain. -/
structure Page (α : Type) where
  items : List α
  nextToken : Option String
  deriving DecidableEq, Repr

namespace Page

def map {α β : Type} (f : α → β) (page : Page α) : Page β := ⟨page.items.map f, page.nextToken⟩

/-- The sizes that a page may have. -/
abbrev Size (upper : Nat) := { n : Nat // 1 ≤ n ∧ n ≤ upper }

/-- Whether a page size can be settled at all: a requested one is taken or refused, but without
a request some size must exist. -/
def IsResolvable (requested : Option Nat) (upper : Nat) : Prop := requested = none → 1 ≤ upper

instance (requested : Option Nat) (upper : Nat) : Decidable (IsResolvable requested upper) :=
  inferInstanceAs (Decidable (requested = none → 1 ≤ upper))

/-- The page size to use. Without a request the configured size is brought into the range; a
requested one must lie in it. -/
def resolveSize (requested : Option Nat) (configured upper : Nat)
    (resolvable : IsResolvable requested upper) : Except PageError (Size upper) :=
  match requested, resolvable with
  | none, resolvable =>
    .ok ⟨max 1 (min configured upper), by have := resolvable rfl; omega⟩
  | some n, _ =>
    if h : n = 0 ∨ upper < n then .error (.sizeOutOfRange n upper) else .ok ⟨n, by omega⟩

/-- The offset a token stands for; no token is the start. -/
def start (token : Option String) : Except PageError Nat :=
  match token with
  | none => .ok 0
  | some t =>
    match Cursor.decode? t with
    | some n => .ok n
    | none => .error .invalidToken

/-- Where a page ends. Offsets have 64 bits, and a sum past the last of them stays there. -/
def ending (offset size total : Nat) : Nat := min (min (offset + size) Json.greatestWord) total

/-- The page of `size` items from the offset of `token`; an offset past the end gives an empty
page. -/
def cut {α : Type} (items : List α) (size : Nat) (token : Option String) :
    Except PageError (Page α) := do
  let offset ← start token
  let stop := ending offset size items.length
  return ⟨(items.drop offset).take size,
    if stop < items.length then some (Cursor.encode stop) else none⟩

end Page
end NotebookSim
