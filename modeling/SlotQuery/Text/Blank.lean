import SlotQuery.Text.CodeRange
/-!
# Blank characters

Two notions of blank are in use.  Around statements and in setting names every character with the
Unicode property `White_Space` counts (`isBlank`).  Inside a statement only the five ASCII blanks
separate words (`isAsciiBlank`, on bytes), and the vertical tab is not one of them.
-/

namespace SlotQuery.Text

/-- The code points with the property `White_Space`. -/
def blankRanges : List (Nat × Nat) :=
  [(0x9, 0xd), (0x20, 0x20), (0x85, 0x85), (0xa0, 0xa0), (0x1680, 0x1680), (0x2000, 0x200a),
   (0x2028, 0x2029), (0x202f, 0x202f), (0x205f, 0x205f), (0x3000, 0x3000)]

/-- The character has the property `White_Space`. -/
def isBlank (c : Char) : Bool :=
  inRanges blankRanges c

/-- Space, tab, line feed, form feed and carriage return. -/
def isAsciiBlank (b : UInt8) : Bool :=
  b = 32 || b = 9 || b = 10 || b = 12 || b = 13

end SlotQuery.Text
