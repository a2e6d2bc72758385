/-!
# Searching a sequence for a token

Tokens are found the same way in characters and in bytes, so these functions take lists over any
alphabet.  `afterPrefix?` looks at the front, `cut?` finds the first occurrence, and the rest are
built from them: `occursIn`, `replaceAll`, `between?`.  The small lemmas say where the parts come
from: what `cut?` finds really stands there (`eq_of_cut?`), and putting the token back gives the
sequence.
-/

namespace SlotQuery.Text

variable {α : Type} [DecidableEq α]

/-- What follows `token` at the front of a sequence, if it stands there. -/
def afterPrefix? : List α → List α → Option (List α)
  | [], xs => some xs
  | _ :: _, [] => none
  | t :: ts, x :: xs => if t = x then afterPrefix? ts xs else none

theorem afterPrefix?_eq_some {token xs rest : List α} :
    afterPrefix? token xs = some rest ↔ xs = token ++ rest := by
  induction token generalizing xs with
  | nil => simp [afterPrefix?]
  | cons t ts ih =>
    cases xs with
    | nil => simp [afterPrefix?]
    | cons x xs =>
      by_cases h : t = x
      · simp [afterPrefix?, h, ih]
      · simp [afterPrefix?, h, Ne.symm h]

theorem length_of_afterPrefix? {token xs rest : List α} (h : afterPrefix? token xs = some rest) :
    xs.length = token.length + rest.length := by
  rw [afterPrefix?_eq_some.1 h, List.length_append]

/-- The first occurrence of `token`: what stands before it and what follows it. -/
def cut? (token : List α) : List α → Option (List α × List α)
  | [] => (afterPrefix? token []).map fun rest => ([], rest)
  | x :: xs =>
    match afterPrefix? token (x :: xs) with
    | some rest => some ([], rest)
    | none => (cut? token xs).map fun (before, rest) => (x :: before, rest)

theorem eq_of_cut? {token xs before rest : List α} (h : cut? token xs = some (before, rest)) :
    xs = before ++ token ++ rest := by
  induction xs generalizing before with
  | nil =>
    obtain ⟨r, hr, heq⟩ := Option.map_eq_some_iff.1 h
    cases heq
    simpa using afterPrefix?_eq_some.1 hr
  | cons x xs ih =>
    unfold cut? at h
    split at h
    · next r hr =>
      cases h
      simpa using afterPrefix?_eq_some.1 hr
    · obtain ⟨⟨b, r⟩, hcut, heq⟩ := Option.map_eq_some_iff.1 h
      cases heq
      simpa using ih hcut

/-- `token` stands somewhere in the sequence. -/
def occursIn (token xs : List α) : Bool :=
  (cut? token xs).isSome

/-- The sequence between an opening and a closing token, if it is enclosed by the two. -/
def between? (opening closing xs : List α) : Option (List α) :=
  (afterPrefix? opening xs).bind fun rest =>
    (afterPrefix? closing.reverse rest.reverse).map List.reverse

/-- Writes every `x` of a sequence as `image`. -/
def replaceAll (x : α) (image : List α) (xs : List α) : List α :=
  xs.flatMap fun y => if y = x then image else [y]

end SlotQuery.Text
