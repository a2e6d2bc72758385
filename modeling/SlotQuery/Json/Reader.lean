import SlotQuery.Json.Numeral
/-!
# Reading JSON

`Json.read?` reads one value with blanks around it and nothing else.  A string's escapes are
undone; a surrogate pair is one character, and half a pair makes the string unreadable without
making the text ill-formed.  The fuel of the three readers is the length of the text, which every
call shortens.
-/

namespace SlotQuery.Json

/-- Drops the four blanks that JSON allows between tokens. -/
def skipBlanks (cs : List Char) : List Char :=
  cs.dropWhile fun c => c = ' ' || c = '\t' || c = '\n' || c = '\r'

/-- The value of a hexadecimal digit. -/
def hexDigit? (c : Char) : Option Nat :=
  if c.isDigit then some (c.toNat - '0'.toNat)
  else if 'a' ≤ c ∧ c ≤ 'f' then some (c.toNat - 'a'.toNat + 10)
  else if 'A' ≤ c ∧ c ≤ 'F' then some (c.toNat - 'A'.toNat + 10)
  else none

/-- Reads four hexadecimal digits. -/
def unit? : List Char → Option (Nat × List Char)
  | a :: b :: c :: d :: rest => do
    let a ← hexDigit? a
    let b ← hexDigit? b
    let c ← hexDigit? c
    let d ← hexDigit? d
    return (((a * 16 + b) * 16 + c) * 16 + d, rest)
  | _ => none

/-- The character of a one-letter escape. -/
def shortEscape? : Char → Option Char
  | '"' => some '"'
  | '\\' => some '\\'
  | '/' => some '/'
  | 'b' => some '\x08'
  | 'f' => some '\x0c'
  | 'n' => some '\n'
  | 'r' => some '\r'
  | 't' => some '\t'
  | _ => none

/-- What one step of a string holds: a character, or half of a surrogate pair. -/
abbrev Piece := Option Char

/-- Reads the code unit after a backslash and `u`, and the second half of a pair with it. -/
def escapedUnit? (cs : List Char) : Option (Piece × List Char) :=
  (unit? cs).map fun (high, rest) =>
    if 0xDC00 ≤ high ∧ high ≤ 0xDFFF then (none, rest)
    else if 0xD800 ≤ high ∧ high ≤ 0xDBFF then
      match rest with
      | '\\' :: 'u' :: more =>
        match unit? more with
        | some (low, rest') =>
          if 0xDC00 ≤ low ∧ low ≤ 0xDFFF then
            (some (Char.ofNat (0x10000 + (high - 0xD800) * 0x400 + (low - 0xDC00))), rest')
          else (none, rest)
        | none => (none, rest)
      | _ => (none, rest)
    else (some (Char.ofNat high), rest)

/-- Reads one character of a string, escaped or not. -/
def piece? : List Char → Option (Piece × List Char)
  | '\\' :: 'u' :: cs => escapedUnit? cs
  | '\\' :: c :: cs => (shortEscape? c).map fun e => (some e, cs)
  | '\\' :: [] => none
  | c :: cs => if c.toNat < 32 then none else some (some c, cs)
  | [] => none

/-- Reads the rest of a string up to its closing quote; the string is `none` if it is unreadable. -/
def stringTail? : Nat → List Char → Option (Option (List Char) × List Char)
  | _, '"' :: cs => some (some [], cs)
  | 0, _ => none
  | fuel + 1, cs => do
    let (piece, rest) ← piece? cs
    let (tail, rest) ← stringTail? fuel rest
    return ((do return (← piece) :: (← tail)), rest)

/-- Reads a string from its opening quote on. -/
def string? : List Char → Option (Option String × List Char)
  | '"' :: cs => (stringTail? cs.length cs).map fun (s, rest) => (s.map String.ofList, rest)
  | _ => none

/-- Reads a given word. -/
def word? (word : String) (value : Json) (cs : List Char) : Option (Json × List Char) :=
  if word.toList.isPrefixOf cs then some (value, cs.drop word.length) else none

/-- An object's members as a value: unreadable if one of the keys is. -/
def ofMembers (members : List (Option String × Json)) : Json :=
  let named? (m : Option String × Json) : Option (String × Json) := m.1.map fun k => (k, m.2)
  ((members.mapM named?).map Json.obj).getD .unreadable

mutual
/-- Reads a value from the front of a text. -/
def value? : Nat → List Char → Option (Json × List Char)
  | 0, _ => none
  | fuel + 1, cs =>
    match skipBlanks cs with
    | '"' :: rest =>
      (string? ('"' :: rest)).map fun (s, rest) => (s.elim .unreadable .str, rest)
    | '[' :: rest =>
      match skipBlanks rest with
      | ']' :: rest => some (.arr [], rest)
      | rest => (items? fuel rest).map fun (vs, rest) => (.arr vs, rest)
    | '\x7b' :: rest =>
      match skipBlanks rest with
      | '\x7d' :: rest => some (.obj [], rest)
      | rest => (members? fuel rest).map fun (ms, rest) => (ofMembers ms, rest)
    | 'n' :: rest => word? "null" .null ('n' :: rest)
    | 't' :: rest => word? "true" (.bool true) ('t' :: rest)
    | 'f' :: rest => word? "false" (.bool false) ('f' :: rest)
    | rest => (Numeral.read? rest).map fun (n, rest) => (n.value, rest)

/-- Reads the items of an array up to its closing bracket. -/
def items? : Nat → List Char → Option (List Json × List Char)
  | 0, _ => none
  | fuel + 1, cs => do
    let (v, rest) ← value? fuel cs
    match skipBlanks rest with
    | ',' :: rest => (items? fuel rest).map fun (vs, rest) => (v :: vs, rest)
    | ']' :: rest => some ([v], rest)
    | _ => none

/-- Reads the members of an object up to its closing brace. -/
def members? : Nat → List Char → Option (List (Option String × Json) × List Char)
  | 0, _ => none
  | fuel + 1, cs => do
    let (k, rest) ← string? (skipBlanks cs)
    match skipBlanks rest with
    | ':' :: rest =>
      let (v, rest) ← value? fuel rest
      match skipBlanks rest with
      | ',' :: rest => (members? fuel rest).map fun (ms, rest) => ((k, v) :: ms, rest)
      | '\x7d' :: rest => some ([(k, v)], rest)
      | _ => none
    | _ => none
end

/-- Reads a text that holds one value. -/
def read? (s : String) : Option Json := do
  let cs := s.toList
  let (v, rest) ← value? (2 * cs.length + 1) cs
  if (skipBlanks rest).isEmpty then some v else none

end SlotQuery.Json
