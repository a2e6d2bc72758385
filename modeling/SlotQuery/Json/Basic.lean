import SlotQuery.Number.FloatText
/-!
# JSON values and their text

Integers and doubles are different values here: `1` and `1.0` are written and read apart.  An object
keeps its members in the order in which they were read, repeated keys included; `Json.sorted` is the
form with members in the order of their keys, the last of a repeated key.  `Json.render` writes the
compact text.
-/

namespace SlotQuery

open Number (Binary64)

/-- A JSON value. -/
inductive Json
  | null
  | bool (b : Bool)
  | int (i : Int)
  | float (x : Binary64)
  | str (s : String)
  | arr (items : List Json)
  | obj (members : List (String × Json))
  /-- Well-formed text that stands for no value: a number too large for a double, or half of a
  surrogate pair.  It does no harm where nobody reads it. -/
  | unreadable
deriving Inhabited

namespace Json

/-- Puts a member in its place among members sorted by key, over an earlier one of that key. -/
def insertMember {β : Type} (key : String) (value : β) : List (String × β) → List (String × β)
  | [] => [(key, value)]
  | (k, v) :: rest =>
    if key < k then (key, value) :: (k, v) :: rest
    else if key = k then (key, value) :: rest
    else (k, v) :: insertMember key value rest

/-- Members sorted by key, the last of each. -/
def sortMembers {β : Type} (members : List (String × β)) : List (String × β) :=
  members.foldl (fun sorted (k, v) => insertMember k v sorted) []

mutual
/-- The same value with the members of every object sorted. -/
def sorted : Json → Json
  | arr items => arr (sortedItems items)
  | obj members => obj (sortMembers (sortedMembers members))
  | v => v

/-- Every item sorted. -/
def sortedItems : List Json → List Json
  | [] => []
  | v :: vs => v.sorted :: sortedItems vs

/-- Every member's value sorted. -/
def sortedMembers : List (String × Json) → List (String × Json)
  | [] => []
  | (k, v) :: ms => (k, v.sorted) :: sortedMembers ms
end

/-- The escape of a control character: two hexadecimal digits after `00`. -/
def controlEscape (n : Nat) : List Char :=
  ['\\', 'u', '0', '0', Nat.digitChar (n / 16), Nat.digitChar (n % 16)]

/-- How a character is written inside a JSON string. -/
def escapedChar (c : Char) : List Char :=
  if c = '"' then ['\\', '"']
  else if c = '\\' then ['\\', '\\']
  else if c = '\x08' then ['\\', 'b']
  else if c = '\t' then ['\\', 't']
  else if c = '\n' then ['\\', 'n']
  else if c = '\x0c' then ['\\', 'f']
  else if c = '\r' then ['\\', 'r']
  else if c.toNat < 32 then controlEscape c.toNat
  else [c]

/-- A string in its JSON form. -/
def renderString (s : String) : String :=
  String.ofList ('"' :: s.toList.flatMap escapedChar ++ ['"'])

/-- Texts with commas between them. -/
def commaSeparated (parts : List String) : String :=
  ",".intercalate parts

mutual
/-- The compact text of a value. -/
def render : Json → String
  | null => "null"
  | bool true => "true"
  | bool false => "false"
  | int i => toString i
  | float x => Number.FloatFormat.json.render x
  | str s => renderString s
  | arr items => "[" ++ commaSeparated (renderItems items) ++ "]"
  | obj members => "\x7b" ++ commaSeparated (renderMembers members) ++ "\x7d"
  | unreadable => "null"

/-- The texts of the items of an array. -/
def renderItems : List Json → List String
  | [] => []
  | v :: vs => v.render :: renderItems vs

/-- The texts of the members of an object. -/
def renderMembers : List (String × Json) → List String
  | [] => []
  | (k, v) :: ms => (renderString k ++ ":" ++ v.render) :: renderMembers ms
end

/-- The last member with the given key. -/
def field? (key : String) : Json → Option Json
  | obj members => (members.reverse.find? fun (k, _) => k = key).map Prod.snd
  | _ => none

end Json

end SlotQuery
