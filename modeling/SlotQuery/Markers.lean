import SlotQuery.Text.Search
/-!
# Pairs of markers

A stretch of text is marked by an opening and a closing token.  A pair is usable for scanning when
both tokens hold something and the two differ.
-/

namespace SlotQuery

open Text

/-- An opening and a closing token. -/
structure Markers where
  opening : String
  closing : String
deriving DecidableEq, Inhabited

namespace Markers

/-- Puts the tokens around a text. -/
def wrap (m : Markers) (inner : String) : String :=
  m.opening ++ inner ++ m.closing

/-- The text between the tokens, if the whole text stands between them. -/
def enclosed? (m : Markers) (s : String) : Option String :=
  (between? m.opening.toList m.closing.toList s.toList).map String.ofList

/-- Both tokens hold something, and they differ. -/
def Usable (m : Markers) : Prop :=
  m.opening ≠ "" ∧ m.closing ≠ "" ∧ m.opening ≠ m.closing

instance (m : Markers) : Decidable m.Usable :=
  inferInstanceAs (Decidable (_ ∧ _))

/-- One of the tokens stands somewhere in the text. -/
def tokenIn (m : Markers) (s : String) : Bool :=
  occursIn m.opening.toList s.toList || occursIn m.closing.toList s.toList

/-- The pair as messages show it. -/
def shown (m : Markers) : String :=
  m.opening ++ "…" ++ m.closing

end Markers

end SlotQuery
