import SlotQuery.Text.Utf8
/-!
# The lexemes of a statement

A statement of the engine is read as lexemes: words, quoted names, literals, parameters and single
symbols, each with the byte offset where it starts.  Blanks and comments separate lexemes and are
dropped, and the character NUL ends the text.  What can be no token is a lexeme too, so that a
reader fails where it stands.
-/

namespace SlotQuery.Engine

/-- What a lexeme is. -/
inductive Token
  /-- A keyword or a bare name. -/
  | word (text : String)
  /-- A name between backticks or double quotes. -/
  | name (text : String)
  /-- A text between single quotes. -/
  | text (s : String)
  /-- Bytes in hexadecimal digits. -/
  | blob (bytes : List UInt8)
  /-- Digits, with a point among them or not. -/
  | number (digits : String)
  /-- A place for a parameter. -/
  | param
  | symbol (c : Char)
  /-- What can be no token: an unfinished quote, digits that are no blob, a number that runs into a
  name, a character without a meaning. -/
  | unknown
deriving DecidableEq, Inhabited

/-- A token, its spelling, and the byte offset where it starts. -/
structure Lexeme where
  token : Token
  spelling : List Char
  offset : Nat
deriving DecidableEq, Inhabited

/-- The byte offset where the lexeme ends. -/
def Lexeme.stop (l : Lexeme) : Nat :=
  l.offset + Text.width l.spelling

namespace Lexeme

/-- The character can start a stretch of blanks: one of the five ASCII blanks, or a byte order
mark. -/
def startsSpace (c : Char) : Bool :=
  c = ' ' || c = '\t' || c = '\n' || c = '\x0c' || c = '\r' || c = '\uFEFF'

/-- The character is blank, and continues a stretch of blanks. -/
def isSpace (c : Char) : Bool :=
  c = ' ' || ('\t' ≤ c && c ≤ '\r')

/-- The character has no meaning outside quotes. -/
def isMeaningless (c : Char) : Bool :=
  c.toNat < 32 || c = '\x7f' || [']', '^', '\\', '\x7b', '\x7d'].contains c

/-- The character can start a bare name. -/
def startsName (c : Char) : Bool :=
  c.isAlpha || c = '_' || 128 ≤ c.toNat

/-- The character can continue a bare name. -/
def continuesName (c : Char) : Bool :=
  startsName c || c.isDigit || c = '$'

/-- Splits off a quoted stretch after its opening quote: what it stands for, its spelling with the
closing quote, and what follows.  A quote inside is written twice. -/
def quotedFrom (quote : Char) : List Char → Option (List Char × List Char × List Char)
  | [] => none
  | [c] => if c = quote then some ([], [c], []) else none
  | c :: d :: rest =>
    if c = quote then
      if d = quote then
        (quotedFrom quote rest).map fun (inner, spelling, after) =>
          (quote :: inner, c :: d :: spelling, after)
      else some ([], [c], d :: rest)
    else
      (quotedFrom quote (d :: rest)).map fun (inner, spelling, after) =>
        (c :: inner, c :: spelling, after)

/-- The character is a hexadecimal digit. -/
def isHexDigit (c : Char) : Bool :=
  c.isDigit || ('a' ≤ c.toLower && c.toLower ≤ 'f')

/-- The value of a hexadecimal digit. -/
def hexValue (c : Char) : Nat :=
  if c.isDigit then c.toNat - '0'.toNat else c.toLower.toNat - 'a'.toNat + 10

/-- Bytes from pairs of hexadecimal digits. -/
def bytesOfHex : List Char → List UInt8
  | a :: b :: rest => UInt8.ofNat (hexValue a * 16 + hexValue b) :: bytesOfHex rest
  | _ => []

/-- Splits off a blob after its opening quote: the token, its spelling with the closing quote, and
what follows.  Anything but pairs of hexadecimal digits is no blob. -/
def blobFrom (cs : List Char) : Token × List Char × List Char :=
  let isInside (c : Char) : Bool := c ≠ '\''
  let digits := cs.takeWhile isInside
  match cs.dropWhile isInside with
  | [] => (.unknown, digits, [])
  | quote :: after =>
    let isBlob := digits.all isHexDigit && digits.length % 2 = 0
    (if isBlob then .blob (bytesOfHex digits) else .unknown, digits ++ [quote], after)

/-- Splits off the exponent of a number, if there is one. -/
def exponentFrom (cs : List Char) : List Char × List Char :=
  let digitsAfter (mark : List Char) (ds : List Char) : List Char × List Char :=
    let digits := ds.takeWhile Char.isDigit
    if digits = [] then ([], cs) else (mark ++ digits, ds.dropWhile Char.isDigit)
  match cs with
  | e :: sign :: ds =>
    if e ≠ 'e' ∧ e ≠ 'E' then ([], cs)
    else if sign = '+' ∨ sign = '-' then digitsAfter [e, sign] ds
    else digitsAfter [e] (sign :: ds)
  | _ => ([], cs)

/-- Splits off a number: the token, its spelling, and what follows.  It has digits, then perhaps a
fraction and an exponent; a number that runs into a name is none. -/
def numberFrom (cs : List Char) : Token × List Char × List Char :=
  let whole := cs.takeWhile Char.isDigit
  let (fraction, rest) :=
    match cs.dropWhile Char.isDigit with
    | '.' :: ds => ('.' :: ds.takeWhile Char.isDigit, ds.dropWhile Char.isDigit)
    | ds => ([], ds)
  let (exponent, rest) := exponentFrom rest
  let digits := whole ++ fraction ++ exponent
  let name := rest.takeWhile continuesName
  (if name = [] then .number (String.ofList digits) else .unknown, digits ++ name,
    rest.dropWhile continuesName)

/-- What follows the line. -/
def afterLineComment (cs : List Char) : List Char :=
  cs.dropWhile (· ≠ '\n')

/-- What follows a block comment, which does not nest here. -/
def afterBlockComment : List Char → List Char
  | '*' :: '/' :: rest => rest
  | _ :: rest => afterBlockComment rest
  | [] => []

/-- The token at the front of a text that does not start with a blank, its spelling, and what
follows; a comment is no token. -/
def next : List Char → Option (Token × List Char) × List Char
  | [] => (none, [])
  | '-' :: '-' :: rest => (none, afterLineComment rest)
  | '/' :: '*' :: c :: rest => (none, afterBlockComment (c :: rest))
  | c :: rest =>
    let quoted (token : String → Token) :=
      match quotedFrom c rest with
      | some (inner, spelling, after) => (some (token (String.ofList inner), c :: spelling), after)
      | none => (some (Token.unknown, c :: rest), [])
    if c = '\'' then quoted .text
    else if c = '"' ∨ c = '\x60' then quoted .name
    else if c = '?' then (some (.param, [c]), rest)
    else if (c = 'x' ∨ c = 'X') ∧ rest.head? = some '\'' then
      let (token, spelling, after) := blobFrom (rest.drop 1)
      (some (token, c :: '\'' :: spelling), after)
    else if startsName c then
      let word := c :: rest.takeWhile continuesName
      (some (.word (String.ofList word), word), rest.dropWhile continuesName)
    else if c.isDigit then
      let (token, spelling, after) := numberFrom (c :: rest)
      (some (token, spelling), after)
    else (some (if isMeaningless c then .unknown else .symbol c, [c]), rest)

/-- The lexemes of a text that starts at a byte offset, reading at most `fuel` times. -/
def readFrom : Nat → Nat → List Char → List Lexeme
  | 0, _, _ => []
  | _, _, [] => []
  | fuel + 1, offset, c :: rest =>
    if startsSpace c then
      let blanks := c :: rest.takeWhile isSpace
      readFrom fuel (offset + Text.width blanks) (rest.dropWhile isSpace)
    else
      match next (c :: rest) with
      | (some (token, spelling), after) =>
        ⟨token, spelling, offset⟩ :: readFrom fuel (offset + Text.width spelling) after
      | (none, after) =>
        readFrom fuel (offset + (Text.width (c :: rest) - Text.width after)) after

/-- The lexemes of a statement. -/
def ofText (sql : List Char) : List Lexeme :=
  readFrom sql.length 0 sql

end Lexeme

end SlotQuery.Engine
