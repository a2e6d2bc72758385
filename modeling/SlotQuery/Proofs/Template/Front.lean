import SlotQuery.Proofs.Template.Condensed
import SlotQuery.Proofs.Template.Parts
import SlotQuery.Proofs.Template.Wrapped

/-!
# What is left of the front of a template

A statement is prepared under any markers, even ones that stand in its keywords.  What its front
can become is limited all the same: condensing keeps letters at the front (`prefix_condense`),
and lifting and typing only ever put a mark in the place of something (`Begins.replace`), where a
mark is the placeholder or the start of what may be written for it.  So the prepared statement
starts with the front of the template, or with a part of it and then a mark (`begins_prepare`).
-/

namespace SlotQuery.Template

open Text

/-- The placeholder, or the start of what typing may write in its place. -/
def IsMark (c : Char) : Prop :=
  c = '?' ∨ c = '\'' ∨ c = 'N'

/-- The text starts with the front, or with a part of it and then a mark. -/
def Begins (front text : List Char) : Prop :=
  front <+: text ∨ ∃ part c rest, part <+: front ∧ IsMark c ∧ text = part ++ c :: rest

/-- What begins with a front goes on to do so if a marker or a quote behind it is replaced. -/
theorem Begins.replace {front text before : List Char} {c : Char} (h : Begins front text)
    (hbefore : before <+: text) (hc : IsMark c) (rest : List Char) :
    Begins front (before ++ c :: rest) := by
  rcases h with hfront | ⟨part, d, rest', hpart, hd, rfl⟩
  · rcases List.prefix_or_prefix_of_prefix hfront hbefore with hle | hle
    · exact .inl (hle.trans (List.prefix_append _ _))
    · exact .inr ⟨before, c, rest, hle, hc, rfl⟩
  · -- The older mark stays, unless the replaced part starts before it.
    rcases List.prefix_or_prefix_of_prefix hbefore (List.prefix_append part (d :: rest')) with
      hle | ⟨more, rfl⟩
    · exact .inr ⟨before, c, rest, hle.trans hpart, hc, rfl⟩
    · cases more with
      | nil => exact .inr ⟨part, c, rest, hpart, hc, by rw [List.append_nil]⟩
      | cons d' more =>
          obtain ⟨rfl, -⟩ := List.cons_prefix_cons.mp (List.prefix_append_right_inj _ |>.mp hbefore)
          refine .inr ⟨part, d', more ++ c :: rest, hpart, hd, ?_⟩
          rw [List.append_assoc, List.cons_append]

/-- The byte is part of a span or a piece of its own. -/
def IsSolid (b : UInt8) : Prop :=
  isQuote b = false ∧ b ≠ 35 ∧ b ≠ 45 ∧ b ≠ 47 ∧ isAsciiBlank b = false

instance (b : UInt8) : Decidable (IsSolid b) :=
  inferInstanceAs (Decidable (_ ∧ _))

/-- Each of the characters is a single byte, and solid. -/
def IsFront (cs : List Char) : Prop :=
  (cs.all fun c => c.toNat < 128) ∧ (encode cs).all fun b => IsSolid b

instance (cs : List Char) : Decidable (IsFront cs) :=
  inferInstanceAs (Decidable (_ ∧ _))

theorem IsFront.ascii {cs : List Char} (h : IsFront cs) : ∀ c ∈ cs, c.toNat < 128 :=
  fun c hc => of_decide_eq_true (List.all_eq_true.mp h.1 c hc)

theorem IsFront.solid {cs : List Char} (h : IsFront cs) : ∀ b ∈ encode cs, IsSolid b :=
  fun b hb => of_decide_eq_true (List.all_eq_true.mp h.2 b hb)

/-- The first piece of a text that starts with a solid byte is kept as it is. -/
theorem first_solid {b : UInt8} (hb : IsSolid b) (opening closing rest : List UInt8) :
    Piece.isGap (Piece.first opening closing b rest).1 = false ∧
      (Piece.first opening closing b rest).1.bytes ≠ [] ∧
      (Piece.first opening closing b rest).1.bytes ++ (Piece.first opening closing b rest).2 =
        b :: rest := by
  obtain ⟨hquote, hhash, hdash, hslash, hblank⟩ := hb
  unfold Piece.first
  cases hspan : if opening = [] then none else afterPrefix? opening (b :: rest) with
  | some after =>
      have hopening : opening ≠ [] := by
        rintro rfl
        cases hspan
      rw [if_neg hopening] at hspan
      refine ⟨rfl, List.append_ne_nil_of_left_ne_nil hopening _, ?_⟩
      show opening ++ (splitSpan closing after).1 ++ (splitSpan closing after).2 = b :: rest
      rw [List.append_assoc, splitSpan_append, afterPrefix?_eq_some.mp hspan]
  | none =>
      simp only [hquote, hhash, hdash, hslash, hblank, false_and, or_false, if_false,
        Bool.false_eq_true]
      exact ⟨rfl, List.cons_ne_nil _ _, rfl⟩

/-- Solid bytes at the front stay there, whatever the markers are. -/
theorem prefix_write (opening closing : List UInt8) {ws bs : List UInt8}
    (hws : ∀ b ∈ ws, IsSolid b) (h : ws <+: bs) :
    ws <+: Piece.write false (Piece.ofBytes opening closing bs) := by
  -- The first piece may be a span that covers some of the front or all of it.
  induction hn : ws.length using Nat.strong_induction_on generalizing ws bs with
  | _ n ih =>
      cases ws with
      | nil => exact List.nil_prefix
      | cons w ws =>
          obtain ⟨rest, rfl⟩ := h
          rw [List.cons_append]
          obtain ⟨hgap, hne, hbytes⟩ :=
            first_solid (hws w List.mem_cons_self) opening closing (ws ++ rest)
          have hfront : w :: ws <+: (Piece.first opening closing w (ws ++ rest)).1.bytes ++
              (Piece.first opening closing w (ws ++ rest)).2 := by
            rw [hbytes]
            exact List.prefix_append (w :: ws) rest
          rw [ofBytes_cons, write_piece hgap, gapBefore_false, List.nil_append]
          rcases List.prefix_or_prefix_of_prefix hfront (List.prefix_append _ _) with
            hle | ⟨more, hmore⟩
          · exact hle.trans (List.prefix_append _ _)
          · rw [← hmore] at hfront hws hn ⊢
            have hshorter : more.length < n := by
              have hpos := List.length_pos_iff.mpr hne
              rw [List.length_append] at hn
              omega
            have hrest := ih more.length hshorter
              (fun b hb => hws b (List.mem_append_right _ hb))
              ((List.prefix_append_right_inj _).mp hfront) rfl
            exact (List.prefix_append_right_inj _).mpr hrest

/-- A statement that starts with a solid byte is condensed from there. -/
theorem condenseBytes_of_solid {b : UInt8} (hb : IsSolid b) (opening closing rest : List UInt8) :
    condenseBytes opening closing (b :: rest) =
      Piece.write false (Piece.ofBytes opening closing (b :: rest)) := by
  rw [condenseBytes, ofBytes_cons, List.dropWhile_cons, (first_solid hb opening closing rest).1]
  rfl

/-- Letters at the front of a statement stay there when it is condensed. -/
theorem prefix_condense (m : Markers) {c : Char} {front : List Char}
    (hfront : IsFront (c :: front)) {sql : String} (h : c :: front <+: sql.toList) :
    c :: front <+: (condense m sql).toList := by
  refine prefix_decode hfront.ascii ?_
  obtain ⟨rest, hrest⟩ := h
  have hbytes : bytes sql = encode (c :: front) ++ encode rest := by
    rw [bytes, ← hrest, encode_append]
  have hhead : encode (c :: front) = UInt8.ofNat c.toNat :: encode front := by
    rw [encode_cons, utf8EncodeChar_of_ascii (hfront.ascii c List.mem_cons_self),
      List.singleton_append]
  have hfirst : IsSolid (UInt8.ofNat c.toNat) :=
    hfront.solid _ (by rw [hhead]; exact List.mem_cons_self)
  have hwritten := prefix_write (bytes m.opening) (bytes m.closing) hfront.solid
    (List.prefix_append (encode (c :: front)) (encode rest))
  rw [hbytes]
  rw [hhead, List.cons_append] at hwritten ⊢
  rw [condenseBytes_of_solid hfirst]
  exact hwritten

/-- What stands before a literal is the front of the text. -/
theorem prefix_of_sight {opening closing text before literal after : List Char}
    (h : Sight.of opening closing text = .pair before literal after) : before <+: text := by
  unfold Sight.of at h
  split at h
  · cases h
  · next hopening _ =>
      split at h
      · cases h
        rw [eq_of_cut? hopening, List.append_assoc]
        exact List.prefix_append _ _
      · split at h
        · cases h
        · cases h
  · cases h
  · cases h

/-- Lifting keeps the front, but for placeholders. -/
theorem begins_run {front text : List Char} (opening closing : List Char) (fuel : Nat)
    (h : Begins front text) : Begins front (Run.of opening closing ['?'] fuel none text).text := by
  induction fuel generalizing text with
  | zero =>
      have hsame : (Run.of opening closing ['?'] 0 none text).text = text := by
        rw [Run.of]
        · split
          · rfl
          · rfl
          · rfl
        · intro h
          cases h
      rw [hsame]
      exact h
  | succ fuel ih =>
      rw [Run.of_succ]
      cases hsight : Sight.of opening closing text with
      | nothing => exact h
      | unmatched side offset => exact h
      | pair before literal after =>
          have hnext := h.replace (prefix_of_sight hsight) (.inl rfl) after
          dsimp only
          rw [List.append_assoc]
          exact ih hnext

/-- What is written in the place of a literal starts with a mark. -/
theorem isMark_of_inline {s text : String} (h : Literal.ofText s = .inline text) :
    ∃ c rest, text.toList = c :: rest ∧ IsMark c := by
  unfold Literal.ofText at h
  split at h
  · cases h
  · cases h
  · split at h
    · cases h
      exact ⟨'\'', ['\''], rfl, .inr (.inl rfl)⟩
    · split at h
      · cases h
        exact ⟨'N', ['U', 'L', 'L'], rfl, .inr (.inr rfl)⟩
      · cases h

/-- Typing keeps the front, but for what it writes into it. -/
theorem begins_typeFrom {front text text' : List Char} {mark : List Char} {shift : Int}
    {vs : List Lifted} {ps : List Param} (h : Begins front text)
    (htyped : typeFrom mark shift text vs = .ok (text', ps)) : Begins front text' := by
  induction vs generalizing shift text ps with
  | nil =>
      cases htyped
      exact h
  | cons v vs ih =>
      rw [typeFrom] at htyped
      cases hliteral : Literal.ofText v.literal with
      | bound p =>
          rw [hliteral] at htyped
          dsimp only at htyped
          cases hrest : typeFrom mark shift text vs with
          | error e =>
              rw [hrest] at htyped
              cases htyped
          | ok typed =>
              rw [hrest] at htyped
              cases htyped
              exact ih h hrest
      | inline s =>
          rw [hliteral] at htyped
          dsimp only at htyped
          cases haround : around? mark (v.offset + shift) text with
          | none =>
              rw [haround] at htyped
              cases htyped
          | some parts =>
              rw [haround] at htyped
              obtain ⟨c, rest, hs, hc⟩ := isMark_of_inline hliteral
              have hbefore : parts.1 <+: text :=
                ⟨mark ++ parts.2, (around?_eq_some_iff.mp haround).1.symm⟩
              have hnext := h.replace hbefore hc (rest ++ parts.2)
              refine ih ?_ htyped
              rw [hs, List.append_assoc]
              exact hnext

/-- What is extracted is the text that lifting ended with. -/
theorem text_of_extract {m : Markers} {mark text : String} {e : Extraction}
    (h : extract m mark true none text = .ok e) :
    e.sql.toList =
      (Run.of m.opening.toList m.closing.toList mark.toList text.length none text.toList).text := by
  unfold extract at h
  split at h
  · cases h
  · split at h
    · cases h
    · dsimp only at h
      split at h
      · cases h
      · cases h
        exact String.toList_ofList

/-- A prepared statement starts with the front of its template, or with a part of it and then a
mark. -/
theorem begins_prepare {s : Settings} {sql : String} {p : Prepared} {c : Char} {front : List Char}
    (hfront : IsFront (c :: front)) (h : c :: front <+: sql.toList) (hp : prepare s sql = .ok p) :
    Begins (c :: front) p.sql.toList := by
  have hcondensed := prefix_condense s.delimiters hfront h
  unfold prepare at hp
  cases hextract : extract s.delimiters placeholder true none (condense s.delimiters sql) with
  | error e =>
      rw [hextract] at hp
      cases hp
  | ok e =>
      rw [hextract] at hp
      have hlifted : Begins (c :: front) e.sql.toList := by
        rw [text_of_extract hextract]
        exact begins_run _ _ _ (.inl hcondensed)
      have htyped : e.typed placeholder = .ok p := hp
      unfold Extraction.typed at htyped
      cases hrest : typeFrom placeholder.toList 0 e.sql.toList e.lifted with
      | error error =>
          rw [hrest] at htyped
          cases htyped
      | ok typed =>
          rw [hrest] at htyped
          cases htyped
          rw [String.toList_ofList]
          exact begins_typeFrom hlifted hrest

end SlotQuery.Template
