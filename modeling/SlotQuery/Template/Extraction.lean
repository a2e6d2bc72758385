import SlotQuery.Error
import SlotQuery.Text.Utf8
/-!
# Lifting literals out of a template

The leftmost opening marker and the leftmost closing marker are found in the text as it stands.  If
they enclose a literal, the literal is lifted out, its markers go with it, a placeholder takes its
place, and the search starts again from the front of the text as it is now.  It ends when no marker
is left, when enough literals have been lifted, or at a marker without a partner.

Every literal is kept with the byte offset at which its opening marker stood.  What follows the
newest placeholder is always an end of the given text and gets shorter with each literal, so
there are no more literals than characters; that bound is the fuel of `Run.of`.
-/

namespace SlotQuery.Template

open Text

/-- A literal lifted out of a template, and the byte offset of its opening marker. -/
structure Lifted where
  offset : Nat
  literal : String
deriving DecidableEq, Inhabited

/-- The text with its placeholders, and the literals lifted out of it in their order. -/
structure Extraction where
  sql : String
  lifted : List Lifted
deriving DecidableEq, Inhabited

/-- What the markers of a text show next. -/
inductive Sight
  | nothing
  /-- A literal between two markers. -/
  | pair (before literal after : List Char)
  /-- A marker without a partner, at a byte offset. -/
  | unmatched (side : Side) (offset : Nat)
deriving DecidableEq, Inhabited

/-- Looks for the leftmost marker of either kind. -/
def Sight.of (opening closing text : List Char) : Sight :=
  match cut? opening text, cut? closing text with
  | none, none => .nothing
  | some (before, _), some (beforeClosing, after) =>
    if before.length + opening.length ≤ beforeClosing.length then
      .pair before (beforeClosing.drop (before.length + opening.length)) after
    else if beforeClosing.length < before.length then .unmatched .closing (width beforeClosing)
    else .unmatched .opening (width before)
  | some (before, _), none => .unmatched .opening (width before)
  | none, some (beforeClosing, _) => .unmatched .closing (width beforeClosing)

/-- Why lifting ended. -/
inductive Stop
  /-- No marker was left. -/
  | done
  /-- Enough literals had been lifted. -/
  | limit
  | unmatched (side : Side) (offset : Nat)
  /-- The bound on the number of literals was too small. -/
  | outOfFuel
deriving DecidableEq, Inhabited

/-- A run of lifting: the text it ended with, the literals in their order, and why it ended. -/
structure Run where
  text : List Char
  lifted : List Lifted
  stop : Stop
deriving DecidableEq, Inhabited

/-- Lifts literals until something stops it. -/
def Run.of (opening closing placeholder : List Char) : Nat → Option Nat → List Char → Run
  | _, some 0, text => ⟨text, [], .limit⟩
  | fuel, limit, text =>
    match Sight.of opening closing text with
    | .nothing => ⟨text, [], .done⟩
    | .unmatched side offset => ⟨text, [], .unmatched side offset⟩
    | .pair before literal after =>
      match fuel with
      | 0 => ⟨text, [], .outOfFuel⟩
      | fuel + 1 =>
        let rest := Run.of opening closing placeholder fuel (limit.map (· - 1))
          (before ++ placeholder ++ after)
        { rest with lifted := ⟨width before, String.ofList literal⟩ :: rest.lifted }

/-- Puts a placeholder for every literal between the markers.  A marker without a partner fails the
whole extraction if it is `strict` and ends it otherwise; at most `limit` literals are lifted. -/
def extract (m : Markers) (placeholder : String) (strict : Bool) (limit : Option Nat)
    (text : String) : Except Error Extraction :=
  if ¬ m.Usable then .error (.config (.unusableMarkers m))
  else if m.tokenIn placeholder then .error (.config (.tokenInPlaceholder placeholder m))
  else
    let run := Run.of m.opening.toList m.closing.toList placeholder.toList text.length limit
      text.toList
    match strict, run.stop with
    | true, .unmatched side offset => .error (.unmatched side offset)
    | _, _ => .ok ⟨String.ofList run.text, run.lifted⟩

end SlotQuery.Template
