import SlotQuery.Proofs.Template.Cutting
import SlotQuery.Proofs.Text.Whole

/-!
# Condensing damages no character

A statement is condensed byte by byte, and a piece may even be a single byte inside a character.
What is dropped is always a stretch of whole characters: the marks between pieces are ASCII, and a
marker of whole characters matches only where a character starts.  So each piece of whole
characters leaves whole characters (`Cut.whole`), and the bytes of a character above ASCII stay
together (`cut_char`).  A statement can thus be followed character by character
(`char_induction`), and what is written are characters of it in their order, with spaces between
them (`exists_written`).  The condensed bytes are therefore those of a text
(`whole_condenseBytes`), and reading them back loses nothing (`bytes_condense`).
-/

namespace SlotQuery.Template

open Text

variable {opening closing rest after : List UInt8} {b : UInt8} {p : Piece}

/-- A span of whole characters ends between two characters. -/
theorem whole_splitSpan (hclosing : Whole closing) {bs : List UInt8} (h : Whole bs) :
    Whole (splitSpan closing bs).1 ∧ Whole (splitSpan closing bs).2 := by
  unfold splitSpan
  split
  · exact ⟨h, .nil⟩
  · next hne =>
      split
      · next inner after hcut =>
          rw [eq_of_cut? hcut, List.append_assoc] at h
          obtain ⟨hinner, hafter⟩ := h.around hclosing hne
          exact ⟨hinner.append hclosing, hafter⟩
      · exact ⟨h, .nil⟩

/-- A quoted run ends with its quote, or with the text. -/
theorem splitQuoted_ends (q : UInt8) (bs : List UInt8) :
    (splitQuoted q bs).2 = [] ∨ ∃ run, (splitQuoted q bs).1 = run ++ [q] := by
  fun_induction splitQuoted q bs with
  | case1 => exact .inl rfl
  | case2 b => exact .inl rfl
  | case3 b c rest hescape run after hrest ih =>
      rw [hrest] at ih
      refine ih.imp_right ?_
      rintro ⟨run', hrun⟩
      exact ⟨b :: c :: run', congrArg (b :: c :: ·) hrun⟩
  | case4 rest run after hrest hescape ih =>
      rw [hrest] at ih
      refine ih.imp_right ?_
      rintro ⟨run', hrun⟩
      exact ⟨q :: q :: run', congrArg (q :: q :: ·) hrun⟩
  | case5 c rest hc hescape => exact .inr ⟨[], rfl⟩
  | case6 b c rest hescape hb run after hrest ih =>
      rw [hrest] at ih
      refine ih.imp_right ?_
      rintro ⟨run', hrun⟩
      exact ⟨b :: run', congrArg (b :: ·) hrun⟩

/-- A piece of whole characters leaves whole characters, if it starts with an ASCII byte or a
marker. -/
theorem Cut.whole (hopening : Whole opening) (hclosing : Whole closing)
    (hcut : Cut opening closing b rest (p, after)) (h : Whole (b :: rest))
    (hb : b.toNat < 128 ∨ Marked opening (b :: rest)) : Whole p.bytes ∧ Whole after := by
  have hrest : ¬ Marked opening (b :: rest) → Whole [b] ∧ Whole rest := by
    intro hm
    have hlow := hb.resolve_right hm
    exact ⟨.ascii hlow, h.of_append (.ascii hlow)⟩
  cases hcut with
  | span hne hmark =>
      rw [hmark] at h
      obtain ⟨hinner, hafter⟩ := whole_splitSpan hclosing (h.of_append hopening)
      exact ⟨hopening.append hinner, hafter⟩
  | quoted hm hquote =>
      obtain ⟨hb, hrest⟩ := hrest hm
      rcases splitQuoted_ends b rest with hend | ⟨run, hrun⟩
      · have hall := splitQuoted_append b rest
        rw [hend, List.append_nil] at hall
        rw [hend]
        refine ⟨?_, .nil⟩
        show Whole ([b] ++ (splitQuoted b rest).1)
        rw [hall]
        exact hb.append hrest
      · rw [← splitQuoted_append b rest, hrun, List.append_assoc] at hrest
        obtain ⟨hinner, hafter⟩ := hrest.around hb (List.cons_ne_nil b [])
        refine ⟨?_, hafter⟩
        have hbytes : (Piece.quoted (b :: (splitQuoted b rest).1)).bytes = [b] ++ (run ++ [b]) := by
          rw [hrun]
          rfl
        rw [hbytes]
        exact hb.append (hinner.append hb)
  | line hm hline =>
      refine ⟨.nil, ?_⟩
      rcases afterLine_ends rest with hend | ⟨line, hline⟩
      · rw [hend]
        exact .nil
      · have hrest := (hrest hm).2
        rw [hline] at hrest
        exact (hrest.around_ascii (by decide)).2
  | @block inner hm hslash hinner =>
      refine ⟨.nil, ?_⟩
      rcases afterBlock_ends 0 inner with hend | ⟨block, hblock⟩
      · rw [hend]
        exact .nil
      · have hrest := (hrest hm).2
        rw [hinner, hblock, ← List.cons_append] at hrest
        exact (hrest.around_ascii (by decide)).2
  | blank hm hblank => exact ⟨.nil, (hrest hm).2⟩
  | plain hm hquote hline hblock hblank => exact hrest hm

/-- A byte above ASCII that starts no marker is a piece of its own. -/
theorem cut_of_high (hm : ¬ Marked opening (b :: rest)) (hb : 128 ≤ b.toNat) :
    Cut opening closing b rest (.plain b, rest) := by
  have hne : ∀ {c : UInt8}, c.toNat < 128 → b ≠ c := by
    rintro c hc rfl
    omega
  refine .plain hm ?_ ?_ ?_ ?_
  · rw [← Bool.not_eq_true, isQuote_iff, not_or, not_or]
    exact ⟨hne (by decide), hne (by decide), hne (by decide)⟩
  · rintro (rfl | ⟨rfl, -⟩)
    · exact hne (by decide) rfl
    · exact hne (by decide) rfl
  · rintro ⟨rfl, -⟩
    exact hne (by decide) rfl
  · rw [← Bool.not_eq_true, isAsciiBlank_iff]
    simp only [not_or]
    exact ⟨hne (by decide), hne (by decide), hne (by decide), hne (by decide), hne (by decide)⟩

/-- Each byte of a character above ASCII is a piece of its own, unless a marker starts with it. -/
theorem cut_char (hopening : Whole opening) {c : Char} (hc : 128 ≤ c.toNat)
    (hm : ¬ Marked opening (String.utf8EncodeChar c ++ rest)) {front back : List UInt8}
    (hchar : String.utf8EncodeChar c = front ++ b :: back) :
    Cut opening closing b (back ++ rest) (.plain b, back ++ rest) := by
  have hmem : b ∈ String.utf8EncodeChar c := by
    rw [hchar]
    exact List.mem_append_right front List.mem_cons_self
  refine cut_of_high ?_ (le_of_mem_utf8EncodeChar hc hmem)
  by_cases hfront : front = []
  · rw [hfront, List.nil_append] at hchar
    rwa [hchar] at hm
  · -- A marker starts with the first byte of a character.
    rintro ⟨hne, hprefix⟩
    obtain ⟨d, tail, rfl⟩ := List.exists_cons_of_ne_nil hne
    obtain ⟨rfl, -⟩ := List.cons_prefix_cons.mp hprefix
    exact not_first_of_mem_utf8EncodeChar hchar hfront (hopening.head d rfl)

/-- The bytes of a character above ASCII stay together, unless a marker starts with it. -/
theorem ofBytes_char (hopening : Whole opening) {c : Char} (hc : 128 ≤ c.toNat)
    (hm : ¬ Marked opening (String.utf8EncodeChar c ++ rest)) :
    Piece.ofBytes opening closing (String.utf8EncodeChar c ++ rest) =
      (String.utf8EncodeChar c).map .plain ++ Piece.ofBytes opening closing rest := by
  have hback : ∀ back front, String.utf8EncodeChar c = front ++ back →
      Piece.ofBytes opening closing (back ++ rest) =
        back.map .plain ++ Piece.ofBytes opening closing rest := by
    intro back
    induction back with
    | nil => exact fun _ _ => rfl
    | cons b back ih =>
        intro front hfront
        have hnext := ih (front ++ [b]) (by rw [hfront, List.append_assoc]; rfl)
        rw [List.cons_append, ofBytes_of_cut (cut_char hopening hc hm hfront), hnext]
        rfl
  exact hback _ [] rfl

/-- The first piece of a text that starts with an ASCII character or a marker is of whole
characters. -/
theorem exists_whole_piece (hopening : Whole opening) (hclosing : Whole closing) {c : Char}
    {cs : List Char} (hstart : c.toNat < 128 ∨ Marked opening (encode (c :: cs))) :
    ∃ b taken p front cs', c :: cs = front ++ cs' ∧ b :: taken = encode front ∧
      Cut opening closing b (taken ++ encode cs') (p, encode cs') ∧
      (p.isGap = false → p.bytes = encode front) := by
  obtain ⟨b, rest, hbytes⟩ : ∃ b rest, encode (c :: cs) = b :: rest := by
    refine List.exists_cons_of_ne_nil ?_
    rw [encode_cons]
    exact List.append_ne_nil_of_left_ne_nil String.utf8EncodeChar_ne_nil _
  have hfirst : b.toNat < 128 ∨ Marked opening (b :: rest) := by
    rw [← hbytes]
    refine hstart.imp_left fun hc => ?_
    rw [encode_cons, utf8EncodeChar_of_ascii hc] at hbytes
    rw [← (List.cons.inj hbytes).1, UInt8.toNat_ofNat', Nat.mod_eq_of_lt (by omega)]
    exact hc
  have hcut := cut_first opening closing b rest
  generalize Piece.first opening closing b rest = r at hcut
  obtain ⟨p, after⟩ := r
  have hwhole : Whole (b :: rest) := ⟨c :: cs, hbytes.symm⟩
  obtain ⟨-, cs', rfl⟩ := hcut.whole hopening hclosing hwhole hfirst
  obtain ⟨taken, rfl, hshown⟩ := hcut.exists_taken
  -- What the piece leaves starts with a character, so the piece ends before one.
  have hparts : Whole ((b :: taken) ++ encode cs') := hwhole
  obtain ⟨⟨front, hfront⟩, -⟩ := hparts.split (Whole.head ⟨cs', rfl⟩)
  rw [← List.cons_append, hfront, ← encode_append] at hbytes
  exact ⟨b, taken, p, front, cs', encode_inj hbytes, hfront, hcut,
    fun hgap => (hshown hgap).trans hfront⟩

/-- What holds of no text at all, and of a text if it holds of what is left of it without its first
piece, or without its first character where that is above ASCII, holds of every text.  The first
piece is of whole characters. -/
@[elab_as_elim]
theorem char_induction (hopening : Whole opening) (hclosing : Whole closing)
    {motive : List Char → Prop} (nil : motive [])
    (piece : ∀ {b taken p front cs}, Cut opening closing b (taken ++ encode cs) (p, encode cs) →
      b :: taken = encode front → (p.isGap = false → p.bytes = encode front) → motive cs →
        motive (front ++ cs))
    (char : ∀ {c cs}, 128 ≤ c.toNat → ¬ Marked opening (String.utf8EncodeChar c ++ encode cs) →
      motive cs → motive (c :: cs))
    (cs : List Char) : motive cs := by
  induction hn : cs.length using Nat.strong_induction_on generalizing cs with
  | _ n ih =>
      cases cs with
      | nil => exact nil
      | cons c cs =>
          by_cases hstart : c.toNat < 128 ∨ Marked opening (encode (c :: cs))
          · obtain ⟨b, taken, p, front, cs', heq, hfront, hcut, hshown⟩ :=
              exists_whole_piece hopening hclosing hstart
            have hpos : front ≠ [] := by
              rintro rfl
              cases hfront
            have hlt := List.length_pos_iff.mpr hpos
            rw [heq, List.length_append] at hn
            rw [heq]
            exact piece hcut hfront hshown (ih cs'.length (by omega) cs' rfl)
          · rw [not_or, Nat.not_lt, encode_cons] at hstart
            exact char hstart.1 hstart.2 (ih cs.length (hn ▸ Nat.lt_succ_self _) cs rfl)

/-- Single bytes are written side by side. -/
theorem write_plain {bs : List UInt8} (hbs : bs ≠ []) (owed : Bool) (ps : List Piece) :
    Piece.write owed (bs.map .plain ++ ps) = gapBefore owed ++ bs ++ Piece.write false ps := by
  induction bs generalizing owed with
  | nil => exact absurd rfl hbs
  | cons b bs ih =>
      rw [List.map_cons, List.cons_append, write_piece rfl]
      cases bs with
      | nil => rfl
      | cons c bs =>
          rw [ih (List.cons_ne_nil c bs), gapBefore_false]
          simp only [Piece.bytes, List.append_assoc, List.nil_append, List.singleton_append]
          rfl

/-- The characters that are no spaces. -/
def unspaced (cs : List Char) : List Char :=
  cs.filter (· ≠ ' ')

theorem unspaced_append (cs ds : List Char) : unspaced (cs ++ ds) = unspaced cs ++ unspaced ds :=
  List.filter_append ..

/-- The space for a gap is a text of its own. -/
theorem exists_gapBefore (owed : Bool) :
    ∃ gap : String, (gap = "" ∨ gap = " ") ∧ bytes gap = gapBefore owed := by
  cases owed with
  | false => exact ⟨"", .inl rfl, rfl⟩
  | true => exact ⟨" ", .inr rfl, by decide +kernel⟩

/-- A front that is written as it is may have a space before it. -/
theorem exists_shown (front : List Char) {cs ds : List Char} (owed : Bool)
    (h : (unspaced ds).Sublist (unspaced cs)) :
    ∃ ds', gapBefore owed ++ encode front ++ encode ds = encode ds' ∧
      (unspaced ds').Sublist (unspaced (front ++ cs)) := by
  obtain ⟨gap, hgap, hbytes⟩ := exists_gapBefore owed
  have hspaces : unspaced gap.toList = [] := by
    rcases hgap with rfl | rfl
    · decide
    · decide
  refine ⟨gap.toList ++ front ++ ds, by rw [← hbytes, bytes, encode_append, encode_append], ?_⟩
  rw [unspaced_append, unspaced_append, unspaced_append, hspaces, List.nil_append]
  exact h.append_left _

/-- What is written are characters of the text, in their order and with spaces between them. -/
theorem exists_written (hopening : Whole opening) (hclosing : Whole closing) (cs : List Char)
    (owed : Bool) :
    ∃ ds, Piece.write owed (Piece.ofBytes opening closing (encode cs)) = encode ds ∧
      (unspaced ds).Sublist (unspaced cs) := by
  induction cs using char_induction hopening hclosing generalizing owed with
  | nil => exact ⟨[], by rw [encode_nil, Piece.ofBytes, Piece.write], List.Sublist.refl _⟩
  | @piece b taken p front cs hcut hfront hbytes ih =>
      rw [encode_append, ← hfront, List.cons_append, ofBytes_of_cut hcut]
      cases hp : p.isGap with
      | true =>
          obtain ⟨ds, hds, hsub⟩ := ih true
          rw [isGap_iff.mp hp, unspaced_append]
          exact ⟨ds, hds, hsub.trans (List.sublist_append_right _ _)⟩
      | false =>
          obtain ⟨ds, hds, hsub⟩ := ih false
          rw [write_piece hp, hbytes hp, hds]
          exact exists_shown front owed hsub
  | @char c cs hc hm ih =>
      obtain ⟨ds, hds, hsub⟩ := ih false
      rw [encode_cons, ofBytes_char hopening hc hm, write_plain String.utf8EncodeChar_ne_nil, hds]
      have hchar : String.utf8EncodeChar c = encode [c] := (List.flatMap_singleton ..).symm
      rw [hchar]
      exact exists_shown [c] owed hsub

/-- After a gap there is a space, or nothing. -/
theorem write_owed (ps : List Piece) :
    Piece.write true ps = [] ∨ ∃ bs, Piece.write true ps = 32 :: bs := by
  induction ps with
  | nil => exact .inl rfl
  | cons p ps ih =>
      cases hp : p.isGap with
      | true =>
          rw [isGap_iff.mp hp]
          exact ih
      | false =>
          rw [write_piece hp]
          exact .inr ⟨_, rfl⟩

/-- Leaving out the gaps at the front is leaving out their space. -/
theorem write_dropWhile (ps : List Piece) :
    Piece.write false (ps.dropWhile Piece.isGap) = (Piece.write true ps).tail := by
  induction ps with
  | nil => rfl
  | cons p ps ih =>
      cases hp : p.isGap with
      | true =>
          rw [List.dropWhile_cons_of_pos hp, isGap_iff.mp hp]
          exact ih
      | false =>
          rw [List.dropWhile_cons_of_neg (Bool.eq_false_iff.mp hp), write_piece hp, write_piece hp]
          rfl

/-- The condensed bytes are characters of the text, in their order and with spaces between them. -/
theorem exists_condensed (hopening : Whole opening) (hclosing : Whole closing) (cs : List Char) :
    ∃ ds, condenseBytes opening closing (encode cs) = encode ds ∧
      (unspaced ds).Sublist (unspaced cs) := by
  obtain ⟨ds, hds, hsub⟩ := exists_written hopening hclosing cs true
  rw [condenseBytes, write_dropWhile, hds]
  rcases write_owed (Piece.ofBytes opening closing (encode cs)) with hnil | ⟨tail, htail⟩
  · rw [hds] at hnil
    exact ⟨[], by rw [hnil]; rfl, List.nil_sublist _⟩
  · -- The space in front is a character of its own.
    rw [hds] at htail
    have hspace : (encode ds).head? = some 32 := by
      rw [htail]
      rfl
    have hhead : ds.head? = some ' ' := (head?_encode (a := ' ') (by decide)).mp hspace
    obtain ⟨ds, rfl⟩ := List.head?_eq_some_iff.mp hhead
    exact ⟨ds, rfl, hsub⟩

/-- The condensed bytes of a text are those of a text. -/
theorem whole_condenseBytes (hopening : Whole opening) (hclosing : Whole closing)
    {bs : List UInt8} (h : Whole bs) : Whole (condenseBytes opening closing bs) := by
  obtain ⟨cs, rfl⟩ := h
  obtain ⟨ds, hds, -⟩ := exists_condensed hopening hclosing cs
  exact ⟨ds, hds⟩

/-- Reading the condensed bytes loses nothing. -/
theorem bytes_condense (m : Markers) (sql : String) :
    bytes (condense m sql) =
      condenseBytes (bytes m.opening) (bytes m.closing) (bytes sql) :=
  (whole_condenseBytes (whole_bytes _) (whole_bytes _) (whole_bytes _)).bytes_decode

end SlotQuery.Template
