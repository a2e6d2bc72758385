import Mathlib.Tactic.SplitIfs
import SlotQuery.Json.Reader

/-!
# JSON strings read back

A character is written as a short escape, as the escape of a control character, or as it is
(`Written`).  Each of these is one step of the reader, which leaves what follows (`Written.piece?`),
and none has a quote in front (`Written.eq_cons`), so the reader takes no other quote for the end of
the string than the one at its end (`stringTail?_escaped`).  The reader may take as many steps as
there are characters left, and no character is written as nothing.

`string?_renderString` is what comes of it: the text of a string is read as that string, whatever
follows.
-/

namespace SlotQuery.Json

/-- The ways in which a character can be written. -/
inductive Written (c : Char) : List Char → Prop
  | short {letter : Char} (hletter : letter ≠ 'u') (h : shortEscape? letter = some c) :
      Written c ['\\', letter]
  | control (h : c.toNat < 32) : Written c (controlEscape c.toNat)
  | plain (hquote : c ≠ '"') (hbackslash : c ≠ '\\') (h : ¬ c.toNat < 32) : Written c [c]

/-- A character is written by one of the forms that are read as that character. -/
theorem written_escapedChar (c : Char) : Written c (escapedChar c) := by
  unfold escapedChar
  split_ifs with hquote hbackslash hbackspace htab hnewline hfeed hreturn hcontrol
  · exact .short (by decide) (congrArg some hquote.symm)
  · exact .short (by decide) (congrArg some hbackslash.symm)
  · exact .short (by decide) (congrArg some hbackspace.symm)
  · exact .short (by decide) (congrArg some htab.symm)
  · exact .short (by decide) (congrArg some hnewline.symm)
  · exact .short (by decide) (congrArg some hfeed.symm)
  · exact .short (by decide) (congrArg some hreturn.symm)
  · exact .control hcontrol
  · exact .plain hquote hbackslash hcontrol

/-- The digit that a number less than sixteen is written with is read as that number. -/
theorem hexDigit?_digitChar : ∀ n < 16, hexDigit? (Nat.digitChar n) = some n := by
  decide

/-- The escape of a control character is read as that character. -/
theorem escapedUnit?_control {c : Char} (hc : c.toNat < 32) (rest : List Char) :
    escapedUnit? ('0' :: '0' :: Nat.digitChar (c.toNat / 16) :: Nat.digitChar (c.toNat % 16) ::
      rest) = some (some c, rest) := by
  have hhigh := hexDigit?_digitChar (c.toNat / 16) (by omega)
  have hlow := hexDigit?_digitChar (c.toNat % 16) (by omega)
  have hzero : hexDigit? '0' = some 0 := rfl
  have hcode : ((0 * 16 + 0) * 16 + c.toNat / 16) * 16 + c.toNat % 16 = c.toNat := by omega
  have hunit : unit? ('0' :: '0' :: Nat.digitChar (c.toNat / 16) ::
      Nat.digitChar (c.toNat % 16) :: rest) = some (c.toNat, rest) := by
    simp only [unit?, hzero, hhigh, hlow, Option.bind_eq_bind, Option.bind_some, hcode]
    rfl
  -- A code below 32 is no half of a surrogate pair.
  have hnotLow : ¬ (0xDC00 ≤ c.toNat ∧ c.toNat ≤ 0xDFFF) := by omega
  have hnotHigh : ¬ (0xD800 ≤ c.toNat ∧ c.toNat ≤ 0xDBFF) := by omega
  rw [escapedUnit?, hunit, Option.map_some]
  dsimp only
  rw [if_neg hnotLow, if_neg hnotHigh, Char.ofNat_toNat]

/-- One step of the reader takes a character as it is written. -/
theorem Written.piece? {c : Char} {cs : List Char} (h : Written c cs) (rest : List Char) :
    piece? (cs ++ rest) = some (some c, rest) := by
  cases h with
  | short hletter h =>
      rw [List.cons_append, List.cons_append, List.nil_append, Json.piece?, h]
      · rfl
      · exact hletter
  | control h => exact escapedUnit?_control h rest
  | plain hquote hbackslash h =>
      rw [List.singleton_append, Json.piece?, if_neg h]
      · exact fun _ h => absurd h hbackslash
      · exact fun _ _ h => absurd h hbackslash
      · exact fun h => absurd h hbackslash

/-- No character is written with a quote in front, or as nothing. -/
theorem Written.eq_cons {c : Char} {cs : List Char} (h : Written c cs) :
    ∃ first more, cs = first :: more ∧ first ≠ '"' := by
  cases h with
  | short hletter h => exact ⟨'\\', _, rfl, by decide⟩
  | control h => exact ⟨'\\', _, rfl, by decide⟩
  | plain hquote hbackslash h => exact ⟨c, [], rfl, hquote⟩

/-- Characters and the quote behind them are read as those characters. -/
theorem stringTail?_escaped {cs : List Char} {fuel : Nat} (hfuel : cs.length ≤ fuel)
    (rest : List Char) :
    stringTail? fuel (cs.flatMap escapedChar ++ '"' :: rest) = some (some cs, rest) := by
  induction cs generalizing fuel with
  | nil => rw [List.flatMap_nil, List.nil_append, stringTail?]
  | cons c cs ih =>
      obtain ⟨fuel, rfl⟩ := Nat.exists_eq_add_of_lt hfuel
      obtain ⟨first, more, hwritten, hfirst⟩ := (written_escapedChar c).eq_cons
      have hpiece := (written_escapedChar c).piece? (cs.flatMap escapedChar ++ '"' :: rest)
      rw [List.flatMap_cons, List.append_assoc]
      rw [hwritten, List.cons_append] at hpiece ⊢
      rw [stringTail?, hpiece, Option.bind_eq_bind, Option.bind_some]
      · dsimp only
        rw [ih (Nat.le_add_right ..)]
        rfl
      · exact fun _ h => absurd (List.cons.inj h).1 hfirst

/-- No character is written by nothing. -/
theorem length_le_flatMap_escapedChar (cs : List Char) :
    cs.length ≤ (cs.flatMap escapedChar).length := by
  induction cs with
  | nil => exact Nat.le_refl 0
  | cons c cs ih =>
      obtain ⟨first, more, hwritten, -⟩ := (written_escapedChar c).eq_cons
      rw [List.flatMap_cons, List.length_append, hwritten, List.length_cons, List.length_cons]
      omega

/-- A text is written between two quotes. -/
theorem toList_renderString (s : String) :
    (renderString s).toList = '"' :: (s.toList.flatMap escapedChar ++ ['"']) := by
  rw [renderString, String.toList_ofList]
  rfl

/-- The text of a string is read as that string. -/
theorem string?_renderString (s : String) (rest : List Char) :
    string? ((renderString s).toList ++ rest) = some (some s, rest) := by
  have hlength := length_le_flatMap_escapedChar s.toList
  rw [toList_renderString, List.cons_append, List.append_assoc, List.singleton_append, string?,
    stringTail?_escaped (by rw [List.length_append]; omega), Option.map_some]
  dsimp only
  rw [Option.map_some, String.ofList_toList]

end SlotQuery.Json
