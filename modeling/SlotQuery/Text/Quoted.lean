import SlotQuery.Text.Hidden
/-!
# Quoted texts in messages

A message that quotes a text has to show it unmistakably.  Quotes and backslashes are escaped,
the common controls have short names, and every other character that does not show is written
with its code point in hexadecimal digits between braces.
-/

namespace SlotQuery.Text

/-- The code point of a character in hexadecimal digits, between braces. -/
def codePointEscape (c : Char) : List Char :=
  ['\\', 'u', '\x7b'] ++ Nat.toDigits 16 c.toNat ++ ['\x7d']

/-- How a character is written inside a quoted text. -/
def quotedChar (c : Char) : List Char :=
  if c = '\x00' then ['\\', '0']
  else if c = '\t' then ['\\', 't']
  else if c = '\r' then ['\\', 'r']
  else if c = '\n' then ['\\', 'n']
  else if c = '"' then ['\\', '"']
  else if c = '\\' then ['\\', '\\']
  else if isHidden c then codePointEscape c
  else [c]

/-- The text between double quotes, with everything doubtful spelled out. -/
def quoted (s : String) : String :=
  String.ofList ('"' :: s.toList.flatMap quotedChar ++ ['"'])

end SlotQuery.Text
