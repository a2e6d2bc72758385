import SlotQuery.Proofs.Template.Comments
import SlotQuery.Proofs.Template.Content
import SlotQuery.Proofs.Template.Stretches

/-!
# Quoted names

A name is written between backticks, with its own backticks doubled, and read back as it is.  The
writer and the reader know nothing of each other: `splitQuoted_nameRun_iff` says that the run of a
quoted name ends where the name does unless one more backtick follows, also for names that end in
backticks or are made of them.

In a statement a quoted name is one piece wherever no opening marker takes its first backtick, and
what stands around it is cut as if it stood alone (`pieces_quoteName`).  So condensing does not look
into the name: it condenses what stands before and behind, with a space between at most
(`quoteName_opaque`).
-/

namespace SlotQuery.Template

open Text

variable {opening closing front back : List UInt8} {p : Piece}

theorem contentOf?_nameRun (name : String) : contentOf? 96 (nameRun name) = some (bytes name) :=
  contentOf?_replaceAll (by decide) (.inl rfl)

/-- The name can be told from its run. -/
theorem quoteName_inj {name other : String} (h : quoteName other = quoteName name) :
    other = name := by
  have hbytes := congrArg bytes h
  rw [bytes_quoteName, bytes_quoteName] at hbytes
  have hcontent := contentOf?_nameRun other
  rw [(List.cons.inj hbytes).2, contentOf?_nameRun] at hcontent
  exact bytes_inj (Option.some.inj hcontent).symm

/-- The run ends where the name does, unless one more backtick follows. -/
theorem splitQuoted_nameRun_iff (name rest : String) :
    splitQuoted 96 (nameRun name ++ bytes rest) = (nameRun name, bytes rest) ↔
      rest.toList.head? ≠ some backtick := by
  have hhead : (bytes rest).head? = some 96 ↔ rest.toList.head? = some backtick :=
    head?_encode (a := backtick) (by decide)
  constructor
  · intro hsplit hback
    have hnot := head?_splitQuoted 96 (nameRun name ++ bytes rest)
    rw [hsplit] at hnot
    exact hnot (hhead.mpr hback)
  · intro hback
    exact splitQuoted_replaceAll (bytes name) (mt hhead.mp hback)

/-- A text that is cut where `back` starts is cut there as if it ended. -/
theorem ofBytes_front (hne : back ≠ []) (hreach : Reaches opening closing (front ++ back) back) :
    Piece.ofBytes opening closing (front ++ back) =
      Piece.ofBytes opening closing front ++ Piece.ofBytes opening closing back := by
  have hmarks : ∀ bs, ¬ Marked opening (bs ++ back) → ¬ Marked opening (bs ++ []) := by
    intro bs hm hmarked
    rw [List.append_nil] at hmarked
    exact hm ⟨hmarked.1, hmarked.2.trans (List.prefix_append bs back)⟩
  obtain ⟨ps, hback, hend⟩ := ofBytes_swap hne hreach (by simp) hmarks
  rw [List.append_nil, Piece.ofBytes, List.append_nil] at hend
  rw [hback, hend]

/-- A quoted name is one piece, if no further backtick and no marker takes part in it. -/
theorem pieces_quoteName_append {m : Markers} {name rest : String}
    (hback : rest.toList.head? ≠ some backtick)
    (hm : ¬ Marked (bytes m.opening) (bytes (quoteName name ++ rest))) :
    pieces m (quoteName name ++ rest) = .quoted (bytes (quoteName name)) :: pieces m rest := by
  rw [bytes_append, bytes_quoteName, List.cons_append] at hm
  have hcut : Cut (bytes m.opening) (bytes m.closing) 96 (nameRun name ++ bytes rest) _ :=
    .quoted hm rfl
  rw [(splitQuoted_nameRun_iff name rest).mpr hback] at hcut
  rw [pieces, bytes_append, bytes_quoteName, List.cons_append]
  exact ofBytes_of_cut hcut

/-- A quoted name is a piece, between those of what stands before it and those of what stands behind
it. -/
theorem pieces_quoteName {m : Markers} {front name rest : String}
    (hback : rest.toList.head? ≠ some backtick)
    (hreach : Reaches (bytes m.opening) (bytes m.closing) (bytes (front ++ quoteName name ++ rest))
      (bytes (quoteName name ++ rest)))
    (hm : ¬ Marked (bytes m.opening) (bytes (quoteName name ++ rest))) :
    pieces m (front ++ quoteName name ++ rest) =
      pieces m front ++ .quoted (bytes (quoteName name)) :: pieces m rest := by
  have hne : bytes (quoteName name ++ rest) ≠ [] := by
    rw [bytes_append, bytes_quoteName]
    exact List.cons_ne_nil _ _
  rw [String.append_assoc, bytes_append] at hreach
  have hfront := ofBytes_front hne hreach
  have hname := pieces_quoteName_append hback hm
  rw [pieces] at hname
  rw [pieces, String.append_assoc, bytes_append, hfront, hname]
  rfl

/-- Pieces on both sides of one that shows are written on their own, with a space at most before
it. -/
theorem write_append (hp : p.isGap = false) (owed : Bool) (ps qs : List Piece) :
    ∃ owed', Piece.write owed (ps ++ p :: qs) =
      Piece.write owed ps ++ gapBefore owed' ++ p.bytes ++ Piece.write false qs := by
  induction ps generalizing owed with
  | nil =>
      refine ⟨owed, ?_⟩
      rw [List.nil_append, write_piece hp, Piece.write, List.nil_append]
  | cons first ps ih =>
      cases hfirst : first.isGap with
      | true =>
          obtain ⟨owed', h⟩ := ih true
          obtain rfl := isGap_iff.mp hfirst
          exact ⟨owed', h⟩
      | false =>
          obtain ⟨owed', h⟩ := ih false
          refine ⟨owed', ?_⟩
          rw [List.cons_append, write_piece hfirst, write_piece hfirst, h]
          simp only [List.append_assoc]

/-- Gaps at the front come to a space at most. -/
theorem exists_gapBefore_write (ps : List Piece) :
    ∃ owed, Piece.write false ps =
      gapBefore owed ++ Piece.write false (ps.dropWhile Piece.isGap) := by
  cases ps with
  | nil => exact ⟨false, rfl⟩
  | cons first ps =>
      cases hfirst : first.isGap with
      | true =>
          obtain rfl := isGap_iff.mp hfirst
          rw [write_dropWhile]
          rcases write_owed ps with h | ⟨bs, h⟩
          · exact ⟨false, by simp [Piece.write, h, gapBefore]⟩
          · exact ⟨true, by simp [Piece.write, h, gapBefore]⟩
      | false =>
          refine ⟨false, ?_⟩
          rw [List.dropWhile_cons_of_neg (Bool.eq_false_iff.mp hfirst), gapBefore_false,
            List.nil_append]

/-- What stands around a quoted run is condensed on its own. -/
theorem condense_around {m : Markers} {front text rest : String}
    (hpieces : pieces m (front ++ text ++ rest) =
      pieces m front ++ .quoted (bytes text) :: pieces m rest) :
    ∃ before behind : String, (before = "" ∨ before = " ") ∧ (behind = "" ∨ behind = " ") ∧
      condense m (front ++ text ++ rest) =
        condense m front ++ before ++ text ++ behind ++ condense m rest := by
  have hp : (Piece.quoted (bytes text)).isGap = false := rfl
  have hdrop : (pieces m front ++ .quoted (bytes text) :: pieces m rest).dropWhile Piece.isGap =
      (pieces m front).dropWhile Piece.isGap ++ .quoted (bytes text) :: pieces m rest := by
    have hshown := List.dropWhile_cons_of_neg (l := pieces m rest) (Bool.eq_false_iff.mp hp)
    rw [List.dropWhile_append, hshown]
    split
    · next hnil => rw [List.isEmpty_iff.mp hnil, List.nil_append]
    · rfl
  obtain ⟨owed, hfront⟩ :=
    write_append hp false ((pieces m front).dropWhile Piece.isGap) (pieces m rest)
  obtain ⟨owed', hrest⟩ := exists_gapBefore_write (pieces m rest)
  obtain ⟨before, hbefore, hbefore'⟩ := exists_gapBefore owed
  obtain ⟨behind, hbehind, hbehind'⟩ := exists_gapBefore owed'
  have hwhole : ∀ sql : String, bytes (condense m sql) =
      Piece.write false ((pieces m sql).dropWhile Piece.isGap) := bytes_condense m
  refine ⟨before, behind, hbefore, hbehind, bytes_inj ?_⟩
  rw [hwhole, hpieces, hdrop, hfront, hrest]
  simp only [bytes_append, hwhole, hbefore', hbehind', Piece.bytes, List.append_assoc]

/-- A quoted name is read back as the name, it ends where the name does, and no other name is quoted
alike.  Where the text before it is cut into pieces and no opening marker takes the backtick at its
front, condensing keeps it as it is, whatever the name is made of. -/
theorem quoteName_opaque (name : String) :
    bytes (quoteName name) = 96 :: nameRun name ∧
      contentOf? 96 (nameRun name) = some (bytes name) ∧
      (∀ rest : String, splitQuoted 96 (nameRun name ++ bytes rest) = (nameRun name, bytes rest) ↔
        rest.toList.head? ≠ some backtick) ∧
      (∀ other, quoteName other = quoteName name → other = name) ∧
      ∀ (m : Markers) (front rest : String), rest.toList.head? ≠ some backtick →
        Reaches (bytes m.opening) (bytes m.closing) (bytes (front ++ quoteName name ++ rest))
          (bytes (quoteName name ++ rest)) →
        ¬ Marked (bytes m.opening) (bytes (quoteName name ++ rest)) →
        pieces m (front ++ quoteName name ++ rest) =
            pieces m front ++ .quoted (bytes (quoteName name)) :: pieces m rest ∧
          ∃ before behind : String, (before = "" ∨ before = " ") ∧ (behind = "" ∨ behind = " ") ∧
            condense m (front ++ quoteName name ++ rest) =
              condense m front ++ before ++ quoteName name ++ behind ++ condense m rest := by
  refine ⟨bytes_quoteName name, contentOf?_nameRun name, splitQuoted_nameRun_iff name,
    fun other => quoteName_inj, ?_⟩
  intro m front rest hback hreach hm
  have hpieces := pieces_quoteName hback hreach hm
  exact ⟨hpieces, condense_around hpieces⟩

/-- The name has in it what would otherwise be a comment, a literal, a span and blanks, and it ends
in backticks. -/
theorem quoteName_opaque_of_marks :
    let m := Settings.builtin.delimiters
    let name := "/* it's\\  \"<%1%> -- \x60\x60"
    let front := "SELECT /* \x60 */ 'a' AS "
    let rest := "  FROM t"
    Reaches (bytes m.opening) (bytes m.closing) (bytes (front ++ quoteName name ++ rest))
        (bytes (quoteName name ++ rest)) ∧
      ¬ Marked (bytes m.opening) (bytes (quoteName name ++ rest)) ∧
      quoteName name = "\x60/* it's\\  \"<%1%> -- \x60\x60\x60\x60\x60" ∧
      ∃ before behind : String, (before = "" ∨ before = " ") ∧ (behind = "" ∨ behind = " ") ∧
        condense m (front ++ quoteName name ++ rest) =
          condense m front ++ before ++ quoteName name ++ behind ++ condense m rest := by
  intro m name front rest
  have hreach : Reaches (bytes m.opening) (bytes m.closing)
      (bytes (front ++ quoteName name ++ rest)) (bytes (quoteName name ++ rest)) :=
    ⟨14, by decide +kernel⟩
  have hm : ¬ Marked (bytes m.opening) (bytes (quoteName name ++ rest)) := by decide +kernel
  obtain ⟨-, -, -, -, hkept⟩ := quoteName_opaque name
  obtain ⟨-, haround⟩ := hkept m front rest (by decide +kernel) hreach hm
  exact ⟨hreach, hm, by decide +kernel, haround⟩

/-- An opening marker may start with a backtick.  It is looked for first, so it takes the backtick
of a name, and what is behind the closing marker is no longer between quotes. -/
theorem condense_quoteName_of_marked :
    let m : Markers := ⟨"\x60[", "]"⟩
    m.Usable ∧ quoteName "[a]  b" = "\x60[a]  b\x60" ∧
      splitQuoted 96 (nameRun "[a]  b") = (nameRun "[a]  b", []) ∧
      condense m (quoteName "[a]  b") = "\x60[a] b\x60" ∧
      condense m (quoteName "[a]  b") ≠ quoteName "[a]  b" := by
  decide +kernel

end SlotQuery.Template
