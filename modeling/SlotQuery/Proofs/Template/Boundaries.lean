import SlotQuery.Proofs.Template.Stretches

/-!
# Stretches end between characters

Condensing steps through bytes, by two behind a backslash or inside a comment mark, so it may well
look at the middle of a character.  It never cuts there: a stretch that is not a single byte starts
and ends between two characters of the statement (`whole_around_stretch`), whether it is dropped or
kept, finished or cut off by the end of the text.  `condense_keeps_characters` adds what that comes
to for the statement that is written: it is read back from its bytes as it is, and apart from
spaces it has no character that the given one has not, in particular none that stands for bytes
which could not be read.
-/

namespace SlotQuery.Template

open Text

variable {opening closing rest : List UInt8}

/-- The bytes of a character above ASCII are stretches of their own, unless a marker starts with
it. -/
theorem stretches_char (hopening : Whole opening) {c : Char} (hc : 128 ≤ c.toNat)
    (hm : ¬ Marked opening (String.utf8EncodeChar c ++ rest)) :
    stretches opening closing (String.utf8EncodeChar c ++ rest) =
      (String.utf8EncodeChar c).map (fun b => ⟨.plain b, [b]⟩) ++
        stretches opening closing rest := by
  have hback : ∀ back front, String.utf8EncodeChar c = front ++ back →
      stretches opening closing (back ++ rest) =
        back.map (fun b => ⟨.plain b, [b]⟩) ++ stretches opening closing rest := by
    intro back
    induction back with
    | nil => exact fun _ _ => rfl
    | cons b back ih =>
        intro front hfront
        have hcut : Cut opening closing b ([] ++ (back ++ rest)) (.plain b, back ++ rest) :=
          cut_char hopening hc hm hfront
        have hfirst := stretches_of_cut hcut
        have hnext := ih (front ++ [b]) (by rw [hfront, List.append_assoc]; rfl)
        rw [List.nil_append, hnext] at hfirst
        exact hfirst
  exact hback _ [] rfl

/-- A stretch that is not a single byte is of whole characters, and stands between whole
characters. -/
theorem whole_around_stretch (hopening : Whole opening) (hclosing : Whole closing) (cs : List Char)
    {before behind : List Stretch} {s : Stretch}
    (hs : stretches opening closing (encode cs) = before ++ s :: behind)
    (hplain : ∀ b, s.piece ≠ .plain b) :
    Whole (before.flatMap Stretch.text) ∧ Whole s.text ∧ Whole (behind.flatMap Stretch.text) := by
  induction cs using char_induction hopening hclosing generalizing before with
  | nil =>
      rw [encode_nil, stretches_nil] at hs
      simp at hs
  | @piece b taken p front cs hcut hfront hbytes ih =>
      rw [encode_append, ← hfront, List.cons_append, stretches_of_cut hcut] at hs
      cases before with
      | nil =>
          obtain ⟨rfl, rfl⟩ := List.cons.inj hs
          rw [flatMap_text_stretches]
          exact ⟨.nil, ⟨front, hfront⟩, ⟨cs, rfl⟩⟩
      | cons first before =>
          obtain ⟨rfl, hrest⟩ := List.cons.inj hs
          obtain ⟨hbefore, hstretch⟩ := ih hrest
          have hfirst : Whole (b :: taken) := ⟨front, hfront⟩
          exact ⟨hfirst.append hbefore, hstretch⟩
  | @char c cs hc hm ih =>
      rw [encode_cons, stretches_char hopening hc hm] at hs
      have hchar : Whole (String.utf8EncodeChar c) := ⟨[c], by simp [encode]⟩
      have htext : ((String.utf8EncodeChar c).map fun b => (⟨.plain b, [b]⟩ : Stretch)).flatMap
          Stretch.text = String.utf8EncodeChar c := by
        simp [List.flatMap_map]
      rcases List.append_eq_append_iff.mp hs with ⟨more, rfl, hrest⟩ | ⟨more, hmap, hrest⟩
      · obtain ⟨hbefore, hstretch⟩ := ih hrest
        rw [List.flatMap_append, htext]
        exact ⟨hchar.append hbefore, hstretch⟩
      · -- The stretch comes behind the bytes of the character, since it is none of them.
        cases more with
        | nil =>
            have hnext : stretches opening closing (encode cs) = [] ++ s :: behind := hrest.symm
            obtain ⟨-, hstretch⟩ := ih hnext
            rw [List.append_nil] at hmap
            rw [← hmap, htext]
            exact ⟨hchar, hstretch⟩
        | cons first more =>
            obtain ⟨rfl, -⟩ := List.cons.inj hrest
            have hmem : s ∈ (String.utf8EncodeChar c).map fun b => (⟨.plain b, [b]⟩ : Stretch) := by
              rw [hmap]
              exact List.mem_append_right before List.mem_cons_self
            obtain ⟨b, -, rfl⟩ := List.mem_map.mp hmem
            exact absurd rfl (hplain b)

/-- The condensed bytes of a statement spell a text, and that text is the condensed statement.  Its
characters are those of the statement in their order, with some left out and with spaces between
them.  So none is put in that stands for bytes without a meaning, and none is damaged: every stretch
that is not a single byte, blanks, comments, quoted runs and template spans alike, starts and ends
between characters. -/
theorem condense_keeps_characters (m : Markers) (sql : String) :
    decode? (condenseBytes (bytes m.opening) (bytes m.closing) (bytes sql)) =
        some (condense m sql) ∧
      (unspaced (condense m sql).toList).Sublist (unspaced sql.toList) ∧
      (condense m sql).toList.count replacement ≤ sql.toList.count replacement ∧
      ∀ before s behind,
        stretches (bytes m.opening) (bytes m.closing) (bytes sql) = before ++ s :: behind →
          (∃ b, s.piece = .plain b) ∨
            Whole (before.flatMap Stretch.text) ∧ Whole s.text ∧
              Whole (behind.flatMap Stretch.text) := by
  have hopening := whole_bytes m.opening
  have hclosing := whole_bytes m.closing
  have hsub : (unspaced (condense m sql).toList).Sublist (unspaced sql.toList) := by
    obtain ⟨ds, hds, hsub⟩ := exists_condensed hopening hclosing sql.toList
    have hbytes : encode (condense m sql).toList = encode ds := (bytes_condense m sql).trans hds
    rwa [encode_inj hbytes]
  refine ⟨?_, hsub, ?_, ?_⟩
  · rw [← bytes_condense, decode?_bytes]
  · have hcount : ∀ cs : List Char, (unspaced cs).count replacement = cs.count replacement :=
      fun cs => List.count_filter (by decide)
    rw [← hcount, ← hcount sql.toList]
    exact hsub.count_le replacement
  · intro before s behind hs
    by_cases hplain : ∃ b, s.piece = .plain b
    · exact .inl hplain
    · rw [not_exists] at hplain
      exact .inr (whole_around_stretch hopening hclosing sql.toList hs hplain)

/-- The markers are no ASCII, a backslash takes a byte of a longer character, a comment holds such
characters, and the last run has no end. -/
theorem condense_keeps_characters_of_cut_off_run :
    let m : Markers := ⟨"«", "»"⟩
    let sql := "é /* € */ 'a\\ü  b' -- ñ\n«  ö»  \"\\€"
    condense m sql = "é 'a\\ü  b' «  ö» \"\\€" ∧
      decode? (condenseBytes (bytes m.opening) (bytes m.closing) (bytes sql)) =
        some (condense m sql) ∧
      (stretches (bytes m.opening) (bytes m.closing) (bytes sql))[3]? =
        some ⟨.gap, bytes "/* € */"⟩ ∧
      Whole (bytes "/* € */") := by
  intro m sql
  obtain ⟨hdecode, -, -, haround⟩ := condense_keeps_characters m sql
  have hcomment : (stretches (bytes m.opening) (bytes m.closing) (bytes sql))[3]? =
      some ⟨.gap, bytes "/* € */"⟩ := by decide +kernel
  refine ⟨by decide +kernel, hdecode, hcomment, ?_⟩
  obtain ⟨hlt, hget⟩ := List.getElem?_eq_some_iff.mp hcomment
  have hsplit := List.take_append_drop 3 (stretches (bytes m.opening) (bytes m.closing) (bytes sql))
  rw [List.drop_eq_getElem_cons hlt, hget] at hsplit
  obtain ⟨b, hb⟩ | ⟨-, hwhole, -⟩ := haround _ _ _ hsplit.symm
  · cases hb
  · exact hwhole

end SlotQuery.Template
