import SlotQuery.Markers
import SlotQuery.Text.Blank
import SlotQuery.Text.Utf8
/-!
# The pieces of a statement

A statement is cut, byte by byte, into pieces: template spans between markers, quoted runs, gaps
(blanks and comments alike), and single bytes.  Spans and runs are opaque: nothing inside them is
looked at.  `condense` writes the pieces again with gaps reduced to single spaces between them and
none at the ends, so statements that differ only in blanks and comments become the same text.

All marks that matter here but the markers are ASCII, and a token of whole characters can match only
where a character starts; so cutting bytes never cuts a character that is kept.
-/

namespace SlotQuery.Template

open Text

/-- A byte of the ASCII character. -/
def byte (c : Char) : UInt8 :=
  UInt8.ofNat c.toNat

/-- The byte opens a quoted run: a single quote, a double quote or a backtick. -/
def isQuote (b : UInt8) : Bool :=
  b = 39 || b = 34 || b = 96

/-- Splits off a quoted run after its opening quote.  A backslash takes the next byte into the run,
except between backticks; two quotes in a row stay inside the run; a run without an end goes to the
end of the text. -/
def splitQuoted (quote : UInt8) : List UInt8 → List UInt8 × List UInt8
  | [] => ([], [])
  | [b] => ([b], [])
  | b :: c :: rest =>
    if b = 92 ∧ quote ≠ 96 then
      let (run, after) := splitQuoted quote rest
      (b :: c :: run, after)
    else if b = quote then
      if c = quote then
        let (run, after) := splitQuoted quote rest
        (b :: c :: run, after)
      else ([b], c :: rest)
    else
      let (run, after) := splitQuoted quote (c :: rest)
      (b :: run, after)

theorem splitQuoted_append (quote : UInt8) (bs : List UInt8) :
    (splitQuoted quote bs).1 ++ (splitQuoted quote bs).2 = bs := by
  fun_induction splitQuoted quote bs <;> simp_all

/-- Splits off a template span after its opening marker: up to the closing marker, or to the end of
the text where there is none. -/
def splitSpan (closing : List UInt8) (bs : List UInt8) : List UInt8 × List UInt8 :=
  if closing = [] then (bs, [])
  else
    match cut? closing bs with
    | some (inner, after) => (inner ++ closing, after)
    | none => (bs, [])

theorem splitSpan_append (closing bs : List UInt8) :
    (splitSpan closing bs).1 ++ (splitSpan closing bs).2 = bs := by
  unfold splitSpan
  split
  · simp
  · split
    · next h => simpa using (eq_of_cut? h).symm
    · simp

/-- What follows the line. -/
def afterLine : List UInt8 → List UInt8
  | [] => []
  | b :: bs => if b = 10 then bs else afterLine bs

theorem length_afterLine_le (bs : List UInt8) : (afterLine bs).length ≤ bs.length := by
  fun_induction afterLine bs with
  | case1 => simp
  | case2 bs => simp
  | case3 b bs hb ih => exact Nat.le_succ_of_le ih

/-- What follows a block comment that is open `depth` times more; block comments nest. -/
def afterBlock : Nat → List UInt8 → List UInt8
  | depth, 47 :: 42 :: bs => afterBlock (depth + 1) bs
  | 0, 42 :: 47 :: bs => bs
  | depth + 1, 42 :: 47 :: bs => afterBlock depth bs
  | depth, _ :: bs => afterBlock depth bs
  | _, [] => []

theorem length_afterBlock_le (depth : Nat) (bs : List UInt8) :
    (afterBlock depth bs).length ≤ bs.length := by
  fun_induction afterBlock depth bs <;> simp_all <;> omega

/-- A piece of a statement. -/
inductive Piece
  /-- A template span with its markers. -/
  | span (bs : List UInt8)
  /-- A quoted run with its quotes. -/
  | quoted (bs : List UInt8)
  /-- A blank or a comment. -/
  | gap
  /-- Any other byte. -/
  | plain (b : UInt8)
deriving DecidableEq, Inhabited

namespace Piece

/-- What a piece contributes to the text. -/
def bytes : Piece → List UInt8
  | span bs => bs
  | quoted bs => bs
  | gap => []
  | plain b => [b]

/-- The piece is a template span or a quoted run. -/
def isOpaque : Piece → Bool
  | span _ => true
  | quoted _ => true
  | _ => false

/-- The first piece of a text and what follows it.  An opening marker wins over a quote, and a quote
over a comment. -/
def first (opening closing : List UInt8) (b : UInt8) (rest : List UInt8) : Piece × List UInt8 :=
  match if opening = [] then none else afterPrefix? opening (b :: rest) with
  | some after =>
    let (inner, after) := splitSpan closing after
    (span (opening ++ inner), after)
  | none =>
    if isQuote b then
      let (run, after) := splitQuoted b rest
      (quoted (b :: run), after)
    else if b = 35 ∨ (b = 45 ∧ rest.head? = some 45) then (gap, afterLine rest)
    else if b = 47 ∧ rest.head? = some 42 then (gap, afterBlock 0 (rest.drop 1))
    else if isAsciiBlank b then (gap, rest)
    else (plain b, rest)

theorem length_first_lt (opening closing : List UInt8) (b : UInt8) (rest : List UInt8) :
    (first opening closing b rest).2.length < rest.length + 1 := by
  unfold first
  split
  · next after h =>
    split at h
    · simp at h
    · next hne =>
      have hlen := length_of_afterPrefix? h
      have hpos : 0 < opening.length := List.length_pos_iff.2 hne
      have happ := congrArg List.length (splitSpan_append closing after)
      simp only [List.length_append] at happ
      simp only [List.length_cons] at hlen
      show (splitSpan closing after).2.length < _
      omega
  · split
    · have happ := congrArg List.length (splitQuoted_append b rest)
      simp only [List.length_append] at happ
      show (splitQuoted b rest).2.length < _
      omega
    · split
      · exact Nat.lt_succ_of_le (length_afterLine_le rest)
      · split
        · have h := length_afterBlock_le 0 (rest.drop 1)
          simp only [List.length_drop] at h
          show (afterBlock 0 (rest.drop 1)).length < _
          omega
        · split <;> simp

/-- The pieces of a text. -/
def ofBytes (opening closing : List UInt8) : List UInt8 → List Piece
  | [] => []
  | b :: rest =>
    (first opening closing b rest).1 :: ofBytes opening closing (first opening closing b rest).2
termination_by bs => bs.length
decreasing_by exact length_first_lt opening closing b rest

/-- Writes pieces, with one space for the gaps between two of them; `owed` says that a gap came
before. -/
def write : Bool → List Piece → List UInt8
  | _, [] => []
  | _, gap :: ps => write true ps
  | owed, p :: ps => (if owed then [32] else []) ++ p.bytes ++ write false ps

/-- The piece is a gap. -/
def isGap : Piece → Bool
  | gap => true
  | _ => false

end Piece

/-- The bytes of a statement with every gap reduced to one space, and none at the ends. -/
def condenseBytes (opening closing bs : List UInt8) : List UInt8 :=
  Piece.write false ((Piece.ofBytes opening closing bs).dropWhile Piece.isGap)

/-- The statement without comments and with single spaces; quoted runs and template spans keep
their text. -/
def condense (m : Markers) (sql : String) : String :=
  decode (condenseBytes (bytes m.opening) (bytes m.closing) (bytes sql))

end SlotQuery.Template
