import Mathlib.Data.List.TakeWhile
import SlotQuery.Batch.Keyword

/-!
# The first word of a text

A text that is taken for an insert starts behind blanks with the letters of its word
(`exists_of_isInsert`).  So the first letters tell that a text is none (`isInsert_of_front`).
-/

namespace SlotQuery.Batch

open Text (isBlank)

/-- Among letters other than the long s, the ASCII rule decides. -/
theorem toLower_of_isLetter {letter c : Char} (hletter : letter ≠ 's')
    (h : isLetter letter c = true) : c.toLower = letter := by
  simpa [isLetter, hletter] using h

/-- A text that starts with a word has its characters. -/
theorem afterWord?_of_startsWithWord {word : String} {cs : List Char}
    (h : startsWithWord word cs = true) : ∃ rest, afterWord? word.toList cs = some rest := by
  unfold startsWithWord at h
  cases hafter : afterWord? word.toList cs with
  | none =>
      rw [hafter] at h
      cases h
  | some rest => exact ⟨rest, rfl⟩

/-- A word stands in front exactly letter by letter. -/
theorem exists_of_afterWord? {letter : Char} {letters cs rest : List Char}
    (h : afterWord? (letter :: letters) cs = some rest) :
    ∃ c more, cs = c :: more ∧ isLetter letter c = true ∧ afterWord? letters more = some rest := by
  cases cs with
  | nil => cases h
  | cons c more =>
      rw [afterWord?] at h
      split at h
      · next hc => exact ⟨c, more, rfl, hc, h⟩
      · cases h

/-- A text that is taken for an insert starts behind blanks with an `i`, or with an `r` and an
`e`. -/
theorem exists_of_isInsert {sql : String} (h : isInsert sql = true) :
    ∃ blanks c more, sql.toList = blanks ++ c :: more ∧ (∀ b ∈ blanks, isBlank b = true) ∧
      (c.toLower = 'i' ∨ c.toLower = 'r' ∧ ∃ e rest, more = e :: rest ∧ e.toLower = 'e') := by
  have hsplit := (List.takeWhile_append_dropWhile (p := isBlank) (l := sql.toList)).symm
  have hblanks : ∀ b ∈ sql.toList.takeWhile isBlank, isBlank b = true :=
    fun b hb => List.mem_takeWhile_imp hb
  unfold isInsert at h
  dsimp only at h
  rw [Bool.or_eq_true] at h
  rcases h with hinsert | hreplace
  · obtain ⟨rest, hafter⟩ := afterWord?_of_startsWithWord hinsert
    obtain ⟨c, more, hcs, hc, -⟩ := exists_of_afterWord? hafter
    rw [hcs] at hsplit
    exact ⟨_, c, more, hsplit, hblanks, .inl (toLower_of_isLetter (by decide) hc)⟩
  · obtain ⟨rest, hafter⟩ := afterWord?_of_startsWithWord hreplace
    obtain ⟨c, more, hcs, hc, hafter⟩ := exists_of_afterWord? hafter
    obtain ⟨e, rest, hmore, he, -⟩ := exists_of_afterWord? hafter
    rw [hcs] at hsplit
    exact ⟨_, c, more, hsplit, hblanks, .inr ⟨toLower_of_isLetter (by decide) hc, e, rest, hmore,
      toLower_of_isLetter (by decide) he⟩⟩

/-- What starts with other letters is not taken for an insert. -/
theorem isInsert_of_front {sql : String} {a b : Char} {rest : List Char}
    (hsql : sql.toList = a :: b :: rest) (hblank : isBlank a = false) (ha : a.toLower ≠ 'i')
    (hb : a.toLower = 'r' → b.toLower ≠ 'e') : isInsert sql = false := by
  by_contra hinsert
  obtain ⟨blanks, c, more, hfront, hblanks, hletters⟩ :=
    exists_of_isInsert (Bool.not_eq_false _ ▸ hinsert)
  rw [hsql] at hfront
  cases blanks with
  | nil =>
      obtain ⟨rfl, rfl⟩ := List.cons.inj hfront
      rcases hletters with hi | ⟨hr, e, after, hmore, he⟩
      · exact ha hi
      · obtain ⟨rfl, -⟩ := List.cons.inj hmore
        exact hb hr he
  | cons d blanks =>
      obtain ⟨rfl, -⟩ := List.cons.inj hfront
      rw [hblanks a List.mem_cons_self] at hblank
      cases hblank

/-- A text that begins with another word is not taken for an insert. -/
theorem isInsert_of_word {word : String} {a b : Char} {more : List Char}
    (hword : word.toList = a :: b :: more) (hblank : isBlank a = false) (ha : a.toLower ≠ 'i')
    (hb : a.toLower = 'r' → b.toLower ≠ 'e') (rest : String) : isInsert (word ++ rest) = false := by
  have hfront : (word ++ rest).toList = a :: b :: (more ++ rest.toList) := by
    rw [String.toList_append, hword, List.cons_append, List.cons_append]
  exact isInsert_of_front hfront hblank ha hb

end SlotQuery.Batch
