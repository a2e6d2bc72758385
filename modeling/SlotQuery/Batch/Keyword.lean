import SlotQuery.Text.Blank
import SlotQuery.Text.Word
/-!
# Statements that insert

A statement inserts rows, and so generates ids, if its first word is `insert` or `replace` in any
letter case.  Blanks may come before the word, and no word character may follow it.
-/

namespace SlotQuery.Batch

open Text

/-- The character is the given small letter in either case; the long s is a small s here. -/
def isLetter (letter c : Char) : Bool :=
  c.toLower = letter || (letter = 's' && c = '\u017f')

/-- What follows a word in small letters at the front of a text, whatever its case there. -/
def afterWord? : List Char → List Char → Option (List Char)
  | [], cs => some cs
  | _ :: _, [] => none
  | w :: ws, c :: cs => if isLetter w c then afterWord? ws cs else none

/-- The text starts with the word, and the word ends there. -/
def startsWithWord (word : String) (cs : List Char) : Bool :=
  match afterWord? word.toList cs with
  | none => false
  | some [] => true
  | some (c :: _) => !isWordChar c

/-- The statement inserts or replaces rows. -/
def isInsert (sql : String) : Bool :=
  let cs := sql.toList.dropWhile isBlank
  startsWithWord "insert" cs || startsWithWord "replace" cs

end SlotQuery.Batch
