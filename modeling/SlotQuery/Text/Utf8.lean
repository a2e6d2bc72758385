/-!
# Texts as bytes

A text is a list of characters to whoever reads it and a list of bytes to whoever counts offsets.
This file goes between the two.

* `encode` and `decode?` convert a whole text; `decode` also takes bytes that spell no text.
* `width` is the number of bytes of a text, the unit in which every offset of this library counts.
* `splitAt?` cuts a text at a byte offset, and refuses an offset that falls inside a character.
-/

namespace SlotQuery.Text

/-- The bytes of a text, each character in its shortest form. -/
def encode (cs : List Char) : List UInt8 :=
  cs.flatMap String.utf8EncodeChar

/-- The bytes of a string. -/
def bytes (s : String) : List UInt8 :=
  encode s.toList

/-- Reads bytes as a text, if they spell one. -/
def decode? (bs : List UInt8) : Option String :=
  String.fromUTF8? bs.toByteArray

/-- Stands for a byte that belongs to no character. -/
def replacement : Char := '\uFFFD'

/-- Reads bytes as a text; where they spell none, every byte above ASCII becomes `replacement`. -/
def decode (bs : List UInt8) : String :=
  match decode? bs with
  | some s => s
  | none => String.ofList (bs.map fun b => if b < 128 then Char.ofNat b.toNat else replacement)

/-- The number of bytes of a text. -/
def width : List Char → Nat
  | [] => 0
  | c :: cs => c.utf8Size + width cs

@[simp] theorem width_nil : width [] = 0 := rfl

@[simp] theorem width_cons (c : Char) (cs : List Char) :
    width (c :: cs) = c.utf8Size + width cs := rfl

@[simp] theorem width_append (cs ds : List Char) : width (cs ++ ds) = width cs + width ds := by
  induction cs with
  | nil => simp
  | cons c cs ih => simp [ih, Nat.add_assoc]

@[simp] theorem encode_nil : encode [] = [] := rfl

@[simp] theorem encode_append (cs ds : List Char) : encode (cs ++ ds) = encode cs ++ encode ds := by
  simp [encode]

/-- Cuts a text after `n` bytes; `none` past the end and inside a character. -/
def splitAt? : Nat → List Char → Option (List Char × List Char)
  | 0, cs => some ([], cs)
  | _ + 1, [] => none
  | n + 1, c :: cs =>
    if c.utf8Size ≤ n + 1 then
      (splitAt? (n + 1 - c.utf8Size) cs).map fun (before, after) => (c :: before, after)
    else none

end SlotQuery.Text
