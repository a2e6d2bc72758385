import SlotQuery.Proofs.Template.Condensed

/-!
# How the first piece is cut off

`Piece.first` decides by cases what stands at the front of a text.  `Cut` says the same as a
relation, with one constructor for each kind of piece, and `cut_first` and `first_of_cut` tie the
two: whatever is to be known of a piece is read off a constructor.

The decision looks ahead, at an opening marker that may be long, at a quote that may be doubled, at
the second byte of a comment mark.  It never looks past a blank if there is none in the opening
marker.  So what follows a piece can be replaced by anything that is the same up to a blank
(`Tracks`), and the same piece is cut off (`Cut.swap`).
-/

namespace SlotQuery.Template

open Text

/-- There is no blank among the bytes. -/
def Blankless (bs : List UInt8) : Prop :=
  ∀ b ∈ bs, isAsciiBlank b = false

instance (bs : List UInt8) : Decidable (Blankless bs) :=
  List.decidableBAll (fun b => isAsciiBlank b = false) bs

/-- An opening marker stands at the front. -/
def Marked (opening bs : List UInt8) : Prop :=
  opening ≠ [] ∧ opening <+: bs

instance (opening bs : List UInt8) : Decidable (Marked opening bs) :=
  inferInstanceAs (Decidable (_ ∧ _))

/-- The byte opens a line comment, in front of `rest`. -/
def OpensLine (b : UInt8) (rest : List UInt8) : Prop :=
  b = 35 ∨ (b = 45 ∧ rest.head? = some 45)

instance (b : UInt8) (rest : List UInt8) : Decidable (OpensLine b rest) :=
  inferInstanceAs (Decidable (_ ∨ _))

/-- The byte opens a block comment, in front of `rest`. -/
def OpensBlock (b : UInt8) (rest : List UInt8) : Prop :=
  b = 47 ∧ rest.head? = some 42

instance (b : UInt8) (rest : List UInt8) : Decidable (OpensBlock b rest) :=
  inferInstanceAs (Decidable (_ ∧ _))

/-- What may be cut off a text that starts with `b`, and what is left. -/
inductive Cut (opening closing : List UInt8) (b : UInt8) (rest : List UInt8) :
    Piece × List UInt8 → Prop
  | span {after : List UInt8} (hne : opening ≠ []) (h : b :: rest = opening ++ after) :
      Cut opening closing b rest
        (.span (opening ++ (splitSpan closing after).1), (splitSpan closing after).2)
  | quoted (hm : ¬ Marked opening (b :: rest)) (hb : isQuote b = true) :
      Cut opening closing b rest
        (.quoted (b :: (splitQuoted b rest).1), (splitQuoted b rest).2)
  | line (hm : ¬ Marked opening (b :: rest)) (hb : OpensLine b rest) :
      Cut opening closing b rest (.gap, afterLine rest)
  | block {after : List UInt8} (hm : ¬ Marked opening (b :: rest)) (hb : b = 47)
      (h : rest = 42 :: after) : Cut opening closing b rest (.gap, afterBlock 0 after)
  | blank (hm : ¬ Marked opening (b :: rest)) (hb : isAsciiBlank b = true) :
      Cut opening closing b rest (.gap, rest)
  | plain (hm : ¬ Marked opening (b :: rest)) (hquote : isQuote b = false)
      (hline : ¬ OpensLine b rest) (hblock : ¬ OpensBlock b rest)
      (hblank : isAsciiBlank b = false) : Cut opening closing b rest (.plain b, rest)

theorem isGap_iff {p : Piece} : p.isGap = true ↔ p = .gap := by
  cases p <;> simp [Piece.isGap]

theorem isQuote_iff {b : UInt8} : isQuote b = true ↔ b = 39 ∨ b = 34 ∨ b = 96 := by
  simp [isQuote, or_assoc]

theorem isAsciiBlank_iff {b : UInt8} :
    isAsciiBlank b = true ↔ b = 32 ∨ b = 9 ∨ b = 10 ∨ b = 12 ∨ b = 13 := by
  simp [isAsciiBlank, or_assoc]

/-- What opens a line comment is no quote. -/
theorem OpensLine.not_quote {b : UInt8} {rest : List UInt8} (h : OpensLine b rest) :
    isQuote b = false := by
  rcases h with rfl | ⟨rfl, -⟩
  · rfl
  · rfl

/-- A blank opens no line comment. -/
theorem not_opensLine_of_blank {b : UInt8} (hb : isAsciiBlank b = true) (rest : List UInt8) :
    ¬ OpensLine b rest := by
  rintro (rfl | ⟨rfl, -⟩)
  · cases hb
  · cases hb

/-- A blank opens no block comment. -/
theorem not_opensBlock_of_blank {b : UInt8} (hb : isAsciiBlank b = true) (rest : List UInt8) :
    ¬ OpensBlock b rest := by
  rintro ⟨rfl, -⟩
  cases hb

theorem not_quote_of_blank {b : UInt8} (hb : isAsciiBlank b = true) : isQuote b = false := by
  rcases isAsciiBlank_iff.mp hb with rfl | rfl | rfl | rfl | rfl <;> rfl

variable {opening closing : List UInt8} {b : UInt8} {rest after after' : List UInt8} {p : Piece}

/-- Where no opening marker stands, the other cases are tried in their order. -/
theorem first_of_not_marked (hm : ¬ Marked opening (b :: rest)) :
    Piece.first opening closing b rest =
      if isQuote b then (.quoted (b :: (splitQuoted b rest).1), (splitQuoted b rest).2)
      else if OpensLine b rest then (.gap, afterLine rest)
      else if OpensBlock b rest then (.gap, afterBlock 0 (rest.drop 1))
      else if isAsciiBlank b then (.gap, rest)
      else (.plain b, rest) := by
  have hnone : (if opening = [] then none else afterPrefix? opening (b :: rest)) = none := by
    split
    · rfl
    · next hne =>
        cases hafter : afterPrefix? opening (b :: rest) with
        | none => rfl
        | some after => exact absurd ⟨hne, ⟨after, (afterPrefix?_eq_some.mp hafter).symm⟩⟩ hm
  unfold Piece.first
  rw [hnone]
  rfl

/-- What the relation cuts off is what the function cuts off. -/
theorem first_of_cut {r : Piece × List UInt8} (h : Cut opening closing b rest r) :
    Piece.first opening closing b rest = r := by
  cases h with
  | @span after hne h =>
      unfold Piece.first
      rw [if_neg hne, afterPrefix?_eq_some.mpr h]
  | quoted hm hb => rw [first_of_not_marked hm, if_pos hb]
  | line hm hb =>
      rw [first_of_not_marked hm, hb.not_quote, if_neg Bool.false_ne_true, if_pos hb]
  | @block after hm hb h =>
      subst hb h
      have hline : ¬ OpensLine 47 (42 :: after) := by simp [OpensLine]
      rw [first_of_not_marked hm, if_neg (by decide), if_neg hline, if_pos ⟨rfl, rfl⟩]
      rfl
  | blank hm hb =>
      rw [first_of_not_marked hm, not_quote_of_blank hb, if_neg Bool.false_ne_true,
        if_neg (not_opensLine_of_blank hb rest), if_neg (not_opensBlock_of_blank hb rest),
        if_pos hb]
  | plain hm hquote hline hblock hblank =>
      rw [first_of_not_marked hm, hquote, if_neg Bool.false_ne_true, if_neg hline, if_neg hblock,
        hblank, if_neg Bool.false_ne_true]

/-- The piece that the function cuts off is one of those that the relation knows. -/
theorem cut_first (opening closing : List UInt8) (b : UInt8) (rest : List UInt8) :
    Cut opening closing b rest (Piece.first opening closing b rest) := by
  by_cases hm : Marked opening (b :: rest)
  · obtain ⟨hne, after, hafter⟩ := hm
    have hspan : Cut opening closing b rest _ := .span hne hafter.symm
    rwa [← first_of_cut hspan] at hspan
  · rw [first_of_not_marked hm]
    split
    · next hb => exact .quoted hm hb
    · next hquote =>
        split
        · next hb => exact .line hm hb
        · next hline =>
            split
            · next hblock =>
                obtain ⟨rfl, hhead⟩ := hblock
                obtain ⟨after, rfl⟩ := List.head?_eq_some_iff.mp hhead
                exact .block hm rfl rfl
            · next hblock =>
                split
                · next hb => exact .blank hm hb
                · next hblank =>
                    exact .plain hm (Bool.not_eq_true _ ▸ hquote) hline hblock
                      (Bool.not_eq_true _ ▸ hblank)

/-- A line ends with its line feed, or with the text. -/
theorem afterLine_ends (bs : List UInt8) :
    afterLine bs = [] ∨ ∃ line, bs = line ++ 10 :: afterLine bs := by
  fun_induction afterLine bs with
  | case1 => exact .inl rfl
  | case2 bs => exact .inr ⟨[], rfl⟩
  | case3 b bs hb ih =>
      refine ih.imp_right ?_
      rintro ⟨line, hline⟩
      exact ⟨b :: line, congrArg (b :: ·) hline⟩

/-- A block comment ends with the slash of its closing mark, or with the text. -/
theorem afterBlock_ends (depth : Nat) (bs : List UInt8) :
    afterBlock depth bs = [] ∨ ∃ block, bs = block ++ 47 :: afterBlock depth bs := by
  fun_induction afterBlock depth bs with
  | case1 depth bs ih =>
      refine ih.imp_right ?_
      rintro ⟨block, h⟩
      exact ⟨47 :: 42 :: block, congrArg (47 :: 42 :: ·) h⟩
  | case2 bs => exact .inr ⟨[42], rfl⟩
  | case3 depth bs ih =>
      refine ih.imp_right ?_
      rintro ⟨block, h⟩
      exact ⟨42 :: 47 :: block, congrArg (42 :: 47 :: ·) h⟩
  | case4 depth c bs hopens hcloses hcloses' ih =>
      refine ih.imp_right ?_
      rintro ⟨block, h⟩
      exact ⟨c :: block, congrArg (c :: ·) h⟩
  | case5 => exact .inl rfl

/-- A piece is cut off the front.  It has its bytes, if it is no gap. -/
theorem Cut.exists_taken (hcut : Cut opening closing b rest (p, after)) :
    ∃ taken, rest = taken ++ after ∧ (p.isGap = false → p.bytes = b :: taken) := by
  cases hcut with
  | @span a hne hmark =>
      obtain ⟨c, tail, rfl⟩ := List.exists_cons_of_ne_nil hne
      obtain ⟨rfl, htail⟩ := List.cons.inj hmark
      refine ⟨tail ++ (splitSpan closing a).1, ?_, fun _ => rfl⟩
      rw [List.append_assoc, splitSpan_append]
      exact htail
  | quoted hm hb =>
      exact ⟨(splitQuoted b rest).1, (splitQuoted_append b rest).symm, fun _ => rfl⟩
  | line hm hb =>
      rcases afterLine_ends rest with hend | ⟨line, hline⟩
      · exact ⟨rest, by rw [hend, List.append_nil], nofun⟩
      · exact ⟨line ++ [10], by rw [List.append_assoc]; exact hline, nofun⟩
  | @block a hm hb hrest =>
      rcases afterBlock_ends 0 a with hend | ⟨block, hblock⟩
      · exact ⟨rest, by rw [hend, List.append_nil], nofun⟩
      · refine ⟨42 :: (block ++ [47]), ?_, nofun⟩
        rw [hrest, List.cons_append, List.append_assoc]
        exact congrArg _ hblock
  | blank hm hb => exact ⟨[], rfl, nofun⟩
  | plain hm hquote hline hblock hblank => exact ⟨[], rfl, fun _ => rfl⟩

/-- What holds of no text at all, and of a text if it holds of what its first piece leaves, holds of
every text. -/
@[elab_as_elim]
theorem cut_induction (opening closing : List UInt8) {motive : List UInt8 → Prop}
    (nil : motive [])
    (cut : ∀ {b taken after p}, Cut opening closing b (taken ++ after) (p, after) →
      (p.isGap = false → p.bytes = b :: taken) → motive after → motive (b :: (taken ++ after)))
    (bs : List UInt8) : motive bs := by
  induction hn : bs.length using Nat.strong_induction_on generalizing bs with
  | _ n ih =>
      cases bs with
      | nil => exact nil
      | cons b rest =>
          have hcut := cut_first opening closing b rest
          have hlt := Piece.length_first_lt opening closing b rest
          generalize Piece.first opening closing b rest = r at hcut hlt
          obtain ⟨taken, rfl, hbytes⟩ := hcut.exists_taken
          exact cut hcut hbytes (ih _ (hn ▸ hlt) r.2 rfl)

theorem ofBytes_of_cut (hcut : Cut opening closing b rest (p, after)) :
    Piece.ofBytes opening closing (b :: rest) = p :: Piece.ofBytes opening closing after := by
  rw [ofBytes_cons, first_of_cut hcut]

/-- The second text is the first one as far as it goes up to a blank, and it ends where the first
one ends. -/
def Tracks (after after' : List UInt8) : Prop :=
  ∃ front back back', after = front ++ back ∧ after' = front ++ back' ∧
    (∀ b ∈ back'.head?, isAsciiBlank b = true) ∧ (back = [] → back' = [])

/-- Only nothing takes the place of nothing. -/
theorem Tracks.nil (h : Tracks after after') (hafter : after = []) : after' = [] := by
  obtain ⟨front, back, back', rfl, rfl, -, hends⟩ := h
  obtain ⟨rfl, rfl⟩ := List.append_eq_nil_iff.mp hafter
  exact hends rfl

/-- The same bytes in front of either text keep the one in the place of the other. -/
theorem Tracks.append (h : Tracks after after') (bs : List UInt8) :
    Tracks (bs ++ after) (bs ++ after') := by
  obtain ⟨front, back, back', rfl, rfl, hblank, hends⟩ := h
  exact ⟨bs ++ front, back, back', (List.append_assoc ..).symm, (List.append_assoc ..).symm,
    hblank, hends⟩

/-- The next byte is the same one, or a blank. -/
theorem Tracks.head? (h : Tracks after after') {c : UInt8} (hc : isAsciiBlank c = false)
    (hnext : after'.head? = some c) : after.head? = some c := by
  obtain ⟨front, back, back', rfl, rfl, hblank, -⟩ := h
  cases front with
  | nil =>
      have := hblank c hnext
      rw [hc] at this
      cases this
  | cons d front => exact hnext

/-- No opening marker comes up where there was none. -/
theorem Tracks.not_marked (h : Tracks after after') (hopening : Blankless opening)
    (bs : List UInt8) (hm : ¬ Marked opening (bs ++ after)) : ¬ Marked opening (bs ++ after') := by
  rintro ⟨hne, hprefix⟩
  obtain ⟨front, back, back', rfl, rfl, hblank, -⟩ := h
  rw [← List.append_assoc] at hprefix hm
  rcases List.prefix_or_prefix_of_prefix hprefix (List.prefix_append _ _) with hle | ⟨more, rfl⟩
  · exact hm ⟨hne, hle.trans (List.prefix_append _ _)⟩
  · cases more with
    | nil =>
        rw [List.append_nil] at hne hm
        exact hm ⟨hne, List.prefix_append _ _⟩
    | cons c more =>
        -- The marker would have to go on with the blank.
        obtain ⟨tail, htail⟩ := (List.prefix_append_right_inj _).mp hprefix
        have hhead : back'.head? = some c := by
          rw [← htail]
          rfl
        have := hopening c (List.mem_append_right _ List.mem_cons_self)
        rw [hblank c hhead] at this
        cases this

/-- No opening marker starts with a blank. -/
theorem not_marked_of_blank (hopening : Blankless opening) (hb : isAsciiBlank b = true) :
    ¬ Marked opening (b :: rest) := by
  rintro ⟨hne, hprefix⟩
  obtain ⟨c, tail, rfl⟩ := List.exists_cons_of_ne_nil hne
  obtain ⟨rfl, -⟩ := List.cons_prefix_cons.mp hprefix
  have := hopening c List.mem_cons_self
  rw [hb] at this
  cases this

/-- A span ends at its own closing marker, whatever stands behind it. -/
theorem splitSpan_swap {bs inner : List UInt8} (h : splitSpan closing bs = (inner, after))
    (hends : after = [] → after' = []) :
    splitSpan closing (inner ++ after') = (inner, after') := by
  unfold splitSpan at h ⊢
  split at h
  · next hclosing =>
      obtain ⟨rfl, rfl⟩ := Prod.mk.inj h
      rw [if_pos hclosing, hends rfl, List.append_nil]
  · next hclosing =>
      rw [if_neg hclosing]
      split at h
      · next before after hcut =>
          obtain ⟨rfl, rfl⟩ := Prod.mk.inj h
          obtain ⟨rfl, hfirst⟩ := cut?_eq_some_iff.mp hcut
          -- A place before this one would be there whatever follows.
          have hcut' : cut? closing (before ++ closing ++ after') = some (before, after') := by
            rw [cut?_eq_some_iff]
            refine ⟨rfl, fun b r hb => ?_⟩
            by_contra hlt
            have hle : (b ++ closing).length ≤ (before ++ closing).length := by
              simp only [List.length_append]
              omega
            obtain ⟨more, hmore⟩ := List.prefix_of_prefix_length_le
              (List.prefix_append (b ++ closing) r) (hb ▸ List.prefix_append _ after') hle
            refine hlt (hfirst b (more ++ after) ?_)
            rw [← hmore, List.append_assoc _ more]
          rw [hcut']
      · next hcut =>
          obtain ⟨rfl, rfl⟩ := Prod.mk.inj h
          rw [hends rfl, List.append_nil, hcut]

/-- A run only ends where its quote is not written twice. -/
theorem head?_splitQuoted (q : UInt8) (bs : List UInt8) : (splitQuoted q bs).2.head? ≠ some q := by
  fun_induction splitQuoted q bs with
  | case1 => simp
  | case2 b => simp
  | case3 b c rest hescape run' after'' hrest ih => rwa [hrest] at ih
  | case4 rest run' after'' hrest hescape ih => rwa [hrest] at ih
  | case5 c rest hc hescape => simpa using hc
  | case6 b c rest hescape hb run' after'' hrest ih => rwa [hrest] at ih

/-- A quoted run ends at its own quote, whatever other byte stands behind it. -/
theorem splitQuoted_swap {q : UInt8} {bs run : List UInt8}
    (h : splitQuoted q bs = (run, after)) (hends : after = [] → after' = [])
    (hnext : after'.head? ≠ some q) : splitQuoted q (run ++ after') = (run, after') := by
  fun_induction splitQuoted q bs generalizing run with
  | case1 =>
      obtain ⟨rfl, rfl⟩ := Prod.mk.inj h
      rw [hends rfl]
      rfl
  | case2 b =>
      obtain ⟨rfl, rfl⟩ := Prod.mk.inj h
      rw [hends rfl]
      rfl
  | case3 b c rest hescape run' after'' hrest ih =>
      obtain ⟨rfl, rfl⟩ := Prod.mk.inj h
      rw [List.cons_append, List.cons_append, splitQuoted, if_pos hescape, ih hrest]
  | case4 rest run' after'' hrest hescape ih =>
      obtain ⟨rfl, rfl⟩ := Prod.mk.inj h
      rw [List.cons_append, List.cons_append, splitQuoted, if_neg hescape, if_pos rfl, if_pos rfl,
        ih hrest]
  | case5 c rest hc hescape =>
      obtain ⟨rfl, rfl⟩ := Prod.mk.inj h
      have hq : q ≠ 92 := by
        rintro rfl
        exact hescape ⟨rfl, by decide⟩
      exact splitQuoted_end hq hnext
  | case6 b c rest hescape hb run' after'' hrest ih =>
      obtain ⟨rfl, rfl⟩ := Prod.mk.inj h
      have hslash : q = 96 ∨ b ≠ 92 := (not_and_or.mp hescape).symm.imp_left not_not.mp
      rw [List.cons_append, splitQuoted_cons hb hslash, ih hrest]

/-- A line comment that something follows ends before it. -/
theorem afterLine_swap {bs : List UInt8} (h : afterLine bs = after) (hne : after ≠ []) :
    ∃ taken, taken ≠ [] ∧ bs = taken ++ after ∧ afterLine (taken ++ after') = after' := by
  fun_induction afterLine bs with
  | case1 => exact absurd h.symm hne
  | case2 bs => exact ⟨[10], List.cons_ne_nil _ _, congrArg _ h, by simp [afterLine]⟩
  | case3 b bs hb ih =>
      obtain ⟨taken, -, hbs, htaken⟩ := ih h
      refine ⟨b :: taken, List.cons_ne_nil _ _, congrArg _ hbs, ?_⟩
      rw [List.cons_append, afterLine, if_neg hb, htaken]

/-- Inside a block comment other bytes are passed over. -/
theorem afterBlock_cons {depth : Nat} {bs : List UInt8} (hopens : ¬ OpensBlock b bs)
    (hcloses : ¬ (b = 42 ∧ bs.head? = some 47)) :
    afterBlock depth (b :: bs) = afterBlock depth bs := by
  cases bs with
  | nil => cases depth <;> simp [afterBlock]
  | cons c bs =>
      simp only [OpensBlock, List.head?_cons, Option.some.injEq] at hopens hcloses
      cases depth <;> simp_all [afterBlock]

/-- A block comment that something follows ends before it. -/
theorem afterBlock_swap {depth : Nat} {bs : List UInt8} (h : afterBlock depth bs = after)
    (hne : after ≠ []) :
    ∃ taken, taken ≠ [] ∧ bs = taken ++ after ∧ afterBlock depth (taken ++ after') = after' := by
  fun_induction afterBlock depth bs with
  | case1 depth bs ih =>
      obtain ⟨taken, -, hbs, htaken⟩ := ih h
      refine ⟨47 :: 42 :: taken, List.cons_ne_nil _ _, by rw [hbs]; rfl, ?_⟩
      rw [List.cons_append, List.cons_append, afterBlock, htaken]
  | case2 bs => exact ⟨[42, 47], List.cons_ne_nil _ _, by rw [h]; rfl, by simp [afterBlock]⟩
  | case3 depth bs ih =>
      obtain ⟨taken, -, hbs, htaken⟩ := ih h
      refine ⟨42 :: 47 :: taken, List.cons_ne_nil _ _, by rw [hbs]; rfl, ?_⟩
      rw [List.cons_append, List.cons_append, afterBlock, htaken]
  | case4 depth c bs hopens hcloses hcloses' ih =>
      obtain ⟨taken, htaken, hbs, hafter⟩ := ih h
      -- What follows the byte in the comment is the same, so it is no part of a mark here either.
      have hhead : (taken ++ after').head? = bs.head? := by
        rw [hbs, List.head?_append_of_ne_nil _ htaken, List.head?_append_of_ne_nil _ htaken]
      have hno : ¬ OpensBlock c (taken ++ after') := by
        rintro ⟨rfl, hnext⟩
        obtain ⟨tail, rfl⟩ := List.head?_eq_some_iff.mp (hhead ▸ hnext)
        exact hopens tail rfl rfl
      have hno' : ¬ (c = 42 ∧ (taken ++ after').head? = some 47) := by
        rintro ⟨rfl, hnext⟩
        obtain ⟨tail, rfl⟩ := List.head?_eq_some_iff.mp (hhead ▸ hnext)
        cases depth with
        | zero => exact hcloses tail rfl rfl rfl
        | succ depth => exact hcloses' depth tail rfl rfl rfl
      refine ⟨c :: taken, List.cons_ne_nil _ _, congrArg _ hbs, ?_⟩
      rw [List.cons_append, afterBlock_cons hno hno', hafter]
  | case5 => exact absurd h.symm hne

/-- A text is cut at the same place if what follows is replaced by something that is the same up to
a blank and brings up no opening marker.  A gap has to be followed by something, since a comment may
lack its end. -/
theorem Cut.swap (hcut : Cut opening closing b rest (p, after)) {taken : List UInt8}
    (hrest : rest = taken ++ after) (hp : p.isGap = true → after ≠ []) (h : Tracks after after')
    (hmarks : ∀ bs, ¬ Marked opening (bs ++ after) → ¬ Marked opening (bs ++ after')) :
    Cut opening closing b (taken ++ after') (p, after') := by
  have hends : after = [] → after' = [] := h.nil
  have hmark : ¬ Marked opening (b :: rest) → ¬ Marked opening (b :: (taken ++ after')) := by
    rw [hrest]
    exact hmarks (b :: taken)
  have htaken : ∀ {front : List UInt8}, rest = front ++ after → front = taken :=
    fun hfront => List.append_cancel_right (hfront.symm.trans hrest)
  cases hcut with
  | @span a hne hstart =>
      obtain ⟨c, tail, rfl⟩ := List.exists_cons_of_ne_nil hne
      obtain ⟨rfl, htail⟩ := List.cons.inj hstart
      have hsplit : splitSpan closing ((splitSpan closing a).1 ++ after') =
          ((splitSpan closing a).1, after') := splitSpan_swap rfl hends
      have hspan : Cut (b :: tail) closing b (tail ++ (splitSpan closing a).1 ++ after') _ :=
        .span hne (List.append_assoc (b :: tail) (splitSpan closing a).1 after')
      have hfront : tail ++ (splitSpan closing a).1 = taken := by
        refine htaken ?_
        rw [List.append_assoc, splitSpan_append]
        exact htail
      rwa [hsplit, hfront] at hspan
  | quoted hm hb =>
      have hrun := htaken (splitQuoted_append b rest).symm
      have hnext : after'.head? ≠ some b := by
        intro hhead
        refine head?_splitQuoted b rest (h.head? ?_ hhead)
        rcases isQuote_iff.mp hb with rfl | rfl | rfl <;> rfl
      have hsplit : splitQuoted b ((splitQuoted b rest).1 ++ after') =
          ((splitQuoted b rest).1, after') := splitQuoted_swap rfl hends hnext
      have hquoted : Cut opening closing b (taken ++ after') _ := .quoted (hmark hm) hb
      rw [← hrun] at hquoted ⊢
      rwa [hsplit] at hquoted
  | line hm hb =>
      obtain ⟨front, hne, hfront, hafter⟩ :
          ∃ front, front ≠ [] ∧ rest = front ++ afterLine rest ∧
            afterLine (front ++ after') = after' := afterLine_swap rfl (hp rfl)
      obtain rfl := htaken hfront
      have hhead : (front ++ after').head? = rest.head? := by
        rw [hfront, List.head?_append_of_ne_nil _ hne, List.head?_append_of_ne_nil _ hne]
      have hline : Cut opening closing b (front ++ after') _ :=
        .line (hmark hm) (hb.imp_right fun hdash => ⟨hdash.1, hhead.trans hdash.2⟩)
      rwa [hafter] at hline
  | @block a hm hb hstar =>
      obtain ⟨front, -, hfront, hafter⟩ :
          ∃ front, front ≠ [] ∧ a = front ++ afterBlock 0 a ∧
            afterBlock 0 (front ++ after') = after' := afterBlock_swap rfl (hp rfl)
      have hall : rest = (42 :: front) ++ afterBlock 0 a := by
        rw [hstar]
        exact congrArg _ hfront
      obtain rfl := htaken hall
      have hblock : Cut opening closing b (42 :: front ++ after')
          (.gap, afterBlock 0 (front ++ after')) := .block (hmark hm) hb rfl
      rwa [hafter] at hblock
  | blank hm hb =>
      obtain rfl := htaken (List.nil_append rest).symm
      exact .blank (hmark hm) hb
  | plain hm hquote hline hblock hblank =>
      obtain rfl := htaken (List.nil_append rest).symm
      have hline' : ¬ OpensLine b after' :=
        fun hopens => hline (hopens.imp_right fun hdash => ⟨hdash.1, h.head? (by decide) hdash.2⟩)
      have hblock' : ¬ OpensBlock b after' :=
        fun hopens => hblock ⟨hopens.1, h.head? (by decide) hopens.2⟩
      exact .plain (hmark hm) hquote hline' hblock' hblank

end SlotQuery.Template
