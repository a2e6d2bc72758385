import SlotQuery.Proofs.Template.Undamaged
import SlotQuery.Settings.Basic

/-!
# Texts written between single quotes

In a standard literal a single quote is written twice and a backslash is a character like any other.
Inside a run between single quotes, however, a backslash takes the next byte with it, so the run may
end elsewhere than the literal does.  `sparesQuotes` singles out the texts where it does not: the
literals of any number of them are condensed to themselves.  In the bytes below, 39 is the single
quote, 92 the backslash, and 34 and 96 are the quotes of other runs.

No other text is safe.  If a backslash does take a quote, every later quote is taken for the wrong
thing, and what follows the literal is no longer protected: it is the inside of a run that ends too
late, or it is no part of a run at all.  `Telltale` says of a text that it loses bytes if it is
taken for the inside of a run of any kind, and `Telltale.literal` that bytes are then lost behind
such a literal, whatever else it holds.
-/

namespace SlotQuery.Template

open Text

/-- A text between single quotes, with its single quotes doubled. -/
def quoteText (text : String) : String :=
  "'" ++ String.ofList (replaceAll '\'' ['\'', '\''] text.toList) ++ "'"

/-- A statement that selects the texts. -/
def selectTexts (texts : List String) : String :=
  "SELECT " ++ ", ".intercalate (texts.map quoteText)

/-- Every backslash, from the left, takes the byte behind it with it.  None takes a single quote,
and none is the last byte. -/
def sparesQuotes : List UInt8 → Bool
  | [] => true
  | [92] => false
  | 92 :: c :: bs => c != 39 && sparesQuotes bs
  | _ :: bs => sparesQuotes bs

/-- Bytes with the single quotes doubled. -/
def doubled (bs : List UInt8) : List UInt8 :=
  replaceAll 39 [39, 39] bs

variable {bs rest : List UInt8} {b q : UInt8}

@[simp] theorem doubled_nil : doubled [] = [] := rfl

@[simp] theorem doubled_quote (bs : List UInt8) : doubled (39 :: bs) = 39 :: 39 :: doubled bs := rfl

theorem doubled_cons (hb : b ≠ 39) (bs : List UInt8) : doubled (b :: bs) = b :: doubled bs := by
  rw [doubled, replaceAll_cons, if_neg hb]
  rfl

/-- Doubling loses no bytes. -/
theorem doubled_ne_nil (b : UInt8) (bs : List UInt8) : doubled (b :: bs) ≠ [] := by
  by_cases hb : b = 39
  · rw [hb]
    exact List.cons_ne_nil _ _
  · rw [doubled_cons hb]
    exact List.cons_ne_nil _ _

/-- Any byte but a single quote comes next if it comes next in the text. -/
theorem head?_doubled_append (hb : b ≠ 39) :
    (doubled bs ++ 39 :: rest).head? = some b ↔ bs.head? = some b := by
  cases bs with
  | nil => simp [hb.symm]
  | cons c bs => rw [List.head?_append_of_ne_nil _ (doubled_ne_nil c bs), doubled, head?_double hb]

/-- Doubling quotes makes no opening marker. -/
theorem not_marked_doubled (htoken : ¬ openingBytes <:+: b :: bs) (rest : List UInt8) :
    ¬ Marked openingBytes (b :: (doubled bs ++ 39 :: rest)) := by
  rintro ⟨-, hprefix⟩
  obtain ⟨rfl, after, hafter⟩ := List.cons_prefix_cons.mp hprefix
  have hnext : (doubled bs ++ 39 :: rest).head? = some 37 := by
    rw [← hafter]
    rfl
  obtain ⟨tail, rfl⟩ := List.head?_eq_some_iff.mp ((head?_doubled_append (by decide)).mp hnext)
  exact htoken ⟨[], tail, rfl⟩

/-- The single quote is the same in characters and in bytes. -/
theorem encode_doubled (cs : List Char) :
    encode (replaceAll '\'' ['\'', '\''] cs) = doubled (encode cs) :=
  encode_double (a := '\'') (by decide) cs

/-- A quoted text stands doubled between two quotes. -/
theorem bytes_quoteText (text : String) :
    bytes (quoteText text) = 39 :: (doubled (bytes text) ++ [39]) := by
  have hinner : bytes (String.ofList (replaceAll '\'' ['\'', '\''] text.toList)) =
      doubled (bytes text) := by
    rw [bytes, String.toList_ofList, encode_doubled, bytes]
  rw [quoteText, bytes_append, bytes_append, hinner]
  rfl

/-- The query for some texts has each in quotes, with commas between them. -/
theorem bytes_selectTexts (texts : List String) :
    bytes (selectTexts texts) =
      [83, 69, 76, 69, 67, 84] ++
        32 :: [44, 32].intercalate (texts.map fun text => bytes (quoteText text)) := by
  have hselect : bytes "SELECT " = [83, 69, 76, 69, 67, 84, 32] := by decide +kernel
  have hcomma : bytes ", " = [44, 32] := by decide +kernel
  rw [selectTexts, bytes_append, bytes_intercalate, List.map_map, Function.comp_def, hselect,
    hcomma]
  rfl

/-- A backslash takes the next byte with it, except between backticks. -/
theorem splitQuoted_escape (hq : q ≠ 96) (c : UInt8) (rest : List UInt8) :
    splitQuoted q (92 :: c :: rest) =
      (92 :: c :: (splitQuoted q rest).1, (splitQuoted q rest).2) := by
  rw [splitQuoted, if_pos ⟨rfl, hq⟩]

/-- The bytes that `sparesQuotes` skips alone are no backslashes. -/
theorem ne_backslash (hlast : b = 92 → bs = [] → False)
    (hescape : ∀ c cs, b = 92 → bs = c :: cs → False) : b ≠ 92 := by
  rintro rfl
  cases bs with
  | nil => exact hlast rfl rfl
  | cons c bs => exact hescape c bs rfl rfl

/-- The run is the literal. -/
theorem splitQuoted_doubled (h : sparesQuotes bs = true) (hrest : rest.head? ≠ some 39) :
    splitQuoted 39 (doubled bs ++ [39] ++ rest) = (doubled bs ++ [39], rest) := by
  fun_induction sparesQuotes bs with
  | case1 => exact splitQuoted_end (by decide) hrest
  | case2 => cases h
  | case3 c bs ih =>
      rw [Bool.and_eq_true, bne_iff_ne] at h
      rw [doubled_cons (by decide), doubled_cons h.1]
      simp only [List.cons_append]
      rw [splitQuoted_escape (by decide), ih h.2]
  | case4 b bs hlast hescape ih =>
      by_cases hb : b = 39
      · subst hb
        rw [doubled_quote]
        simp only [List.cons_append]
        rw [splitQuoted_double (by decide), ih h]
      · have hslash := ne_backslash hlast hescape
        rw [doubled_cons hb]
        simp only [List.cons_append]
        rw [splitQuoted_cons hb (.inr hslash), ih h]

/-- A quoted text that spares its quotes is copied. -/
theorem copied_quoteText {text : String} (h : sparesQuotes (bytes text) = true) :
    Copied (bytes (quoteText text)) := by
  rw [bytes_quoteText]
  exact Copied.quoted rfl fun rest hrest => splitQuoted_doubled h hrest

/-- The text is written again with fewer bytes, whatever came before it. -/
def Loses (bs : List UInt8) : Prop :=
  ∀ owed, (rewritten owed bs).length < bs.length + owed.toNat

/-- The text loses bytes if it is taken for the inside of a quoted run, whatever its quote. -/
def Telltale (rest : List UInt8) : Prop :=
  ∀ q, isQuote q = true → Loses (splitQuoted q rest).2

theorem length_gapBefore (owed : Bool) : (gapBefore owed).length = owed.toNat := by
  cases owed <;> rfl

/-- A gap is not written; a space is owed instead. -/
theorem rewritten_of_gap {after : List UInt8}
    (hcut : Cut openingBytes closingBytes b rest (.gap, after)) (owed : Bool) :
    rewritten owed (b :: rest) = rewritten true after := by
  rw [rewritten, ofBytes_of_cut hcut]
  rfl

/-- A piece is written with its own bytes and the space for the gaps before it, if at all. -/
theorem length_rewritten_of_cut {p : Piece} {after : List UInt8}
    (hcut : Cut openingBytes closingBytes b rest (p, after)) (owed : Bool) :
    ∃ owed', (rewritten owed (b :: rest)).length + (after.length + owed'.toNat) ≤
      (rewritten owed' after).length + ((b :: rest).length + owed.toNat) := by
  obtain ⟨taken, rfl, hbytes⟩ := hcut.exists_taken
  cases hp : p.isGap with
  | true =>
      obtain rfl := isGap_iff.mp hp
      refine ⟨true, ?_⟩
      rw [rewritten_of_gap hcut]
      simp only [List.length_cons, List.length_append, Bool.toNat_true]
      omega
  | false =>
      refine ⟨false, ?_⟩
      rw [rewritten_of_first (first_of_cut hcut) hp, hbytes hp]
      simp only [List.length_cons, List.length_append, length_gapBefore, Bool.toNat_false]
      omega

/-- No text grows. -/
theorem length_rewritten_le (bs : List UInt8) (owed : Bool) :
    (rewritten owed bs).length ≤ bs.length + owed.toNat := by
  induction bs using cut_induction openingBytes closingBytes generalizing owed with
  | nil => simp [rewritten_nil]
  | cut hcut _ ih =>
      obtain ⟨owed', hpiece⟩ := length_rewritten_of_cut hcut owed
      have hafter := ih owed'
      omega

/-- What is lost behind a piece is lost. -/
theorem Loses.cut {p : Piece} {after : List UInt8}
    (hcut : Cut openingBytes closingBytes b rest (p, after)) (h : Loses after) :
    Loses (b :: rest) := by
  intro owed
  obtain ⟨owed', hpiece⟩ := length_rewritten_of_cut hcut owed
  have hafter := h owed'
  omega

/-- A quoted run whose rest loses bytes is part of a text that does. -/
theorem Loses.run (hq : isQuote q = true) (h : Loses (splitQuoted q rest).2) :
    Loses (q :: rest) := by
  have hcut := cut_first openingBytes closingBytes q rest
  rw [first_quote hq rfl] at hcut
  exact h.cut hcut

theorem Loses.space (h : Loses bs) : Loses (32 :: bs) :=
  h.cut (.blank (not_marked_of_blank (by decide) rfl) rfl)

/-- What is lost behind a stretch that is copied is lost. -/
theorem Loses.copied {front : List UInt8} (hfront : Copied front) (hmeets : Meets front bs)
    (h : Loses bs) : Loses (front ++ bs) := by
  intro owed
  have := h false
  rw [hfront owed bs hmeets]
  simp only [List.length_append, length_gapBefore, Bool.toNat_false] at this ⊢
  omega

/-- A gap of two bytes or more is itself a loss. -/
theorem loses_of_gap {after : List UInt8}
    (hcut : Cut openingBytes closingBytes b rest (.gap, after))
    (hlt : after.length < rest.length) : Loses (b :: rest) := by
  intro owed
  have := length_rewritten_le after true
  rw [rewritten_of_gap hcut]
  simp only [List.length_cons, Bool.toNat_true] at this ⊢
  omega

/-- A line comment takes at least one byte. -/
theorem length_afterLine_lt (h : bs ≠ []) : (afterLine bs).length < bs.length := by
  cases bs with
  | nil => exact absurd rfl h
  | cons b bs =>
      have := length_afterLine_le bs
      rw [afterLine, List.length_cons]
      split <;> omega

/-- A single quote inside a run ends it, or it is the first of two.  Either way what follows is lost
if it is lost in plain text. -/
theorem Telltale.pending (hrest : Telltale rest)
    (hplain : ∀ cs, cs <:+ bs → Loses (doubled cs ++ 39 :: rest)) :
    Loses (splitQuoted 39 (39 :: (doubled bs ++ 39 :: rest))).2 := by
  induction bs with
  | nil =>
      rw [doubled_nil, List.nil_append, splitQuoted_double (by decide)]
      exact hrest 39 rfl
  | cons b bs ih =>
      by_cases hb : b = 39
      · rw [hb, doubled_quote, List.cons_append, List.cons_append, splitQuoted_double (by decide)]
        exact ih fun cs hcs => hplain cs (hcs.trans (List.suffix_cons b bs))
      · have hall := hplain (b :: bs) List.suffix_rfl
        rw [doubled_cons hb, List.cons_append] at hall ⊢
        have hend : (b :: (doubled bs ++ 39 :: rest)).head? ≠ some 39 :=
          fun h => hb (Option.some.inj h)
        rw [splitQuoted_end (by decide) hend]
        exact hall

/-- A run between other quotes ends in the literal or goes on behind it. -/
theorem Telltale.inside (hrest : Telltale rest) (hq : isQuote q = true) (hne : q ≠ 39)
    (hplain : ∀ cs, cs <:+ bs → Loses (doubled cs ++ 39 :: rest)) :
    Loses (splitQuoted q (doubled bs ++ 39 :: rest)).2 := by
  have hslash : q ≠ 92 := by
    rintro rfl
    cases hq
  -- A single quote is an ordinary byte of such a run.
  have hskip : ∀ after, splitQuoted q (39 :: after) =
      (39 :: (splitQuoted q after).1, (splitQuoted q after).2) :=
    splitQuoted_cons hne.symm (.inr (by decide))
  induction hn : bs.length using Nat.strong_induction_on generalizing bs with
  | _ n ih =>
      cases bs with
      | nil =>
          rw [doubled_nil, List.nil_append, hskip]
          exact hrest q hq
      | cons b bs =>
          have hshorter : ∀ cs, cs <:+ bs →
              Loses (splitQuoted q (doubled cs ++ 39 :: rest)).2 := by
            intro cs hcs
            have hlt := Nat.lt_succ_of_le hcs.length_le
            exact ih cs.length (hn ▸ hlt)
              (fun ds hds => hplain ds ((hds.trans hcs).trans (List.suffix_cons b bs))) rfl
          by_cases hb : b = 39
          · rw [hb, doubled_quote, List.cons_append, List.cons_append, hskip, hskip]
            exact hshorter bs List.suffix_rfl
          rw [doubled_cons hb, List.cons_append]
          by_cases hescape : b = 92 ∧ q ≠ 96
          · -- The backslash takes the next byte, be it the quote that ends the literal.
            obtain ⟨rfl, hback⟩ := hescape
            cases bs with
            | nil =>
                rw [doubled_nil, List.nil_append, splitQuoted_escape hback]
                exact hrest q hq
            | cons c bs =>
                have htail := hshorter bs (List.suffix_cons c bs)
                by_cases hc : c = 39
                · rw [hc, doubled_quote, List.cons_append, List.cons_append,
                    splitQuoted_escape hback, hskip]
                  exact htail
                · rw [doubled_cons hc, List.cons_append, splitQuoted_escape hback]
                  exact htail
          by_cases hbq : b = q
          · subst hbq
            by_cases hnext : bs.head? = some b
            · obtain ⟨tail, rfl⟩ := List.head?_eq_some_iff.mp hnext
              rw [doubled_cons hb, List.cons_append, splitQuoted_double hslash]
              exact hshorter tail (List.suffix_cons b tail)
            · rw [splitQuoted_end hslash (mt (head?_doubled_append hb).mp hnext)]
              exact hplain bs (List.suffix_cons b bs)
          · rw [splitQuoted_cons hbq ((not_and_or.mp hescape).symm.imp_left not_not.mp)]
            exact hshorter bs List.suffix_rfl

/-- Taken for plain text, the rest of a literal loses bytes or leads into a run that does. -/
theorem Telltale.plain (hrest : Telltale rest) (htoken : ¬ openingBytes <:+: bs) :
    Loses (doubled bs ++ 39 :: rest) := by
  induction hn : bs.length using Nat.strong_induction_on generalizing bs with
  | _ n ih =>
      cases bs with
      | nil => exact .run rfl (hrest 39 rfl)
      | cons b bs =>
          have hplain : ∀ cs, cs <:+ bs → Loses (doubled cs ++ 39 :: rest) := by
            intro cs hcs
            have hlt := Nat.lt_succ_of_le hcs.length_le
            have hinfix := hcs.isInfix.trans (List.suffix_cons b bs).isInfix
            exact ih cs.length (hn ▸ hlt) (fun h => htoken (h.trans hinfix)) rfl
          by_cases hb : b = 39
          · rw [hb, doubled_quote, List.cons_append, List.cons_append]
            exact .run rfl (hrest.pending hplain)
          rw [doubled_cons hb, List.cons_append]
          have hcut := cut_first openingBytes closingBytes b (doubled bs ++ 39 :: rest)
          have hne : doubled bs ++ 39 :: rest ≠ [] := by simp
          generalize Piece.first openingBytes closingBytes b (doubled bs ++ 39 :: rest) = r at hcut
          cases hcut with
          | @span after hopening hmark =>
              exact absurd ⟨hopening, after, hmark.symm⟩ (not_marked_doubled htoken rest)
          | quoted hm hquote => exact .run hquote (hrest.inside hquote hb hplain)
          | line hm hline => exact loses_of_gap (.line hm hline) (length_afterLine_lt hne)
          | @block after hm hslash hstar =>
              refine loses_of_gap (.block hm hslash hstar) ?_
              rw [hstar]
              exact Nat.lt_succ_of_le (length_afterBlock_le 0 after)
          | blank hm hblank => exact .cut (.blank hm hblank) (hplain bs List.suffix_rfl)
          | plain hm hquote hline hblock hblank =>
              exact .cut (.plain hm hquote hline hblock hblank) (hplain bs List.suffix_rfl)

/-- Behind a literal in which a backslash takes a quote or the end, bytes are lost. -/
theorem Telltale.literal (hrest : Telltale rest) (htoken : ¬ openingBytes <:+: bs)
    (h : sparesQuotes bs = false) :
    Loses (splitQuoted 39 (doubled bs ++ 39 :: rest)).2 := by
  fun_induction sparesQuotes bs with
  | case1 => cases h
  | case2 =>
      rw [doubled_cons (by decide), doubled_nil, List.singleton_append,
        splitQuoted_escape (by decide)]
      exact hrest 39 rfl
  | case3 c bs ih =>
      have htail : ¬ openingBytes <:+: bs := fun h => htoken (h.trans ⟨[92, c], [], by simp⟩)
      rw [doubled_cons (by decide)]
      by_cases hc : c = 39
      · rw [hc, doubled_quote, List.cons_append, List.cons_append, List.cons_append,
          splitQuoted_escape (by decide)]
        exact hrest.pending fun cs hcs => hrest.plain fun h => htail (h.trans hcs.isInfix)
      · rw [doubled_cons hc, List.cons_append, List.cons_append, splitQuoted_escape (by decide)]
        rw [bne_iff_ne.mpr hc, Bool.true_and] at h
        exact ih htail h
  | case4 b bs hlast hescape ih =>
      have htail : ¬ openingBytes <:+: bs := fun h => htoken (h.trans ⟨[b], [], by simp⟩)
      by_cases hb : b = 39
      · rw [hb, doubled_quote, List.cons_append, List.cons_append, splitQuoted_double (by decide)]
        exact ih htail h
      · have hslash := ne_backslash hlast hescape
        rw [doubled_cons hb, List.cons_append, splitQuoted_cons hb (.inr hslash)]
        exact ih htail h

/-- A text that shows wherever the inside and the outside of a run are exchanged. -/
def canary : String := "a  b\"a  b`a  b"

/-- Two blanks behind a letter lose one. -/
theorem loses_of_blanks (bs : List UInt8) : Loses (97 :: 32 :: 32 :: bs) := by
  have hblanks : Loses (32 :: 32 :: bs) := by
    intro owed
    have := length_rewritten_le bs true
    rw [rewritten_space, rewritten_space]
    simp only [List.length_cons, Bool.toNat_true] at this ⊢
    omega
  exact .copied (.plain (by decide)) (meets_letter rfl _) hblanks

/-- Behind a comma, the canary shows what is going on. -/
theorem telltale_canary : Telltale ([44, 32] ++ bytes (quoteText canary)) := by
  intro q hq
  rcases isQuote_iff.mp hq with rfl | rfl | rfl
  · exact loses_of_blanks _
  · exact loses_of_blanks _
  · exact loses_of_blanks _

/-- A text that loses bytes becomes shorter. -/
theorem Loses.length_condenseBytes_lt (h : Loses bs) :
    (condenseBytes openingBytes closingBytes bs).length < bs.length := by
  have hgap := h true
  have hplain := h false
  rw [condenseBytes, write_dropWhile, List.length_tail]
  rw [rewritten] at hgap
  simp only [Bool.toNat_true, Bool.toNat_false] at hgap hplain
  omega

/-- With the markers that nobody has changed, a text is condensed as its bytes are. -/
theorem bytes_condense_builtin (sql : String) :
    bytes (condense Settings.builtin.delimiters sql) =
      condenseBytes openingBytes closingBytes (bytes sql) :=
  bytes_condense Settings.builtin.delimiters sql

theorem copied_select : Copied [83, 69, 76, 69, 67, 84] :=
  .of_plain (List.cons_ne_nil _ _) (by decide)

/-- Texts that spare their quotes reach the database as they were. -/
theorem condense_selectTexts_of_sparesQuotes {texts : List String} (hne : texts ≠ [])
    (htexts : ∀ t ∈ texts, sparesQuotes (bytes t) = true) :
    condense Settings.builtin.delimiters (selectTexts texts) = selectTexts texts := by
  have hjoined : Copied ([44, 32].intercalate (texts.map fun text => bytes (quoteText text))) := by
    refine .joined (by simpa using hne) fun x hx => ?_
    obtain ⟨text, hmem, rfl⟩ := List.mem_map.mp hx
    exact copied_quoteText (htexts text hmem)
  have hcopied := copied_select.spaced hjoined
  rw [← bytes_selectTexts] at hcopied
  have hhead : (bytes (selectTexts texts)).head? = some 83 := by
    rw [bytes_selectTexts]
    rfl
  have hkept := condenseBytes_of_copied hcopied hhead (by decide) (meets_nil _)
  rw [rewritten_nil, List.append_nil] at hkept
  show decode (condenseBytes openingBytes closingBytes (bytes (selectTexts texts))) = _
  rw [hkept, decode_bytes]

/-- A text that does not spare its quotes loses bytes in front of the canary. -/
theorem loses_selectTexts {text : String} (htoken : ¬ openingBytes <:+: bytes text)
    (h : sparesQuotes (bytes text) = false) : Loses (bytes (selectTexts [text, canary])) := by
  have hbytes : bytes (selectTexts [text, canary]) = [83, 69, 76, 69, 67, 84] ++
      32 :: 39 :: (doubled (bytes text) ++ 39 :: ([44, 32] ++ bytes (quoteText canary))) := by
    rw [bytes_selectTexts, List.map_cons, List.map_cons, List.map_nil, List.intercalate_cons_cons,
      List.intercalate_singleton, bytes_quoteText text]
    simp
  have hrun := telltale_canary.literal htoken h
  rw [hbytes]
  exact .copied copied_select (meets_cons rfl _ _) (.space (.run rfl hrun))

/-- The literals of texts in which no backslash takes a single quote or the end are kept, any number
of them.  Each other text has a literal that some statement does not keep. -/
theorem condense_selectTexts :
    (∀ texts : List String, texts ≠ [] → (∀ t ∈ texts, sparesQuotes (bytes t) = true) →
      condense Settings.builtin.delimiters (selectTexts texts) = selectTexts texts) ∧
    (∀ t : String, Settings.builtin.delimiters.tokenIn t = false → sparesQuotes (bytes t) = false →
      ∃ u, sparesQuotes (bytes u) = true ∧ Settings.builtin.delimiters.tokenIn u = false ∧
        condense Settings.builtin.delimiters (selectTexts [t, u]) ≠ selectTexts [t, u]) := by
  refine ⟨fun texts => condense_selectTexts_of_sparesQuotes, fun t htoken ht => ?_⟩
  have hopening : ¬ openingBytes <:+: bytes t := by
    rw [Markers.tokenIn, Bool.or_eq_false_iff] at htoken
    exact fun h => occursIn_eq_false_iff.mp htoken.1
      ((pair_infix_encode (a := '<') (b := '%') (by decide) (by decide)).mp h)
  have hlt := (loses_selectTexts hopening ht).length_condenseBytes_lt
  refine ⟨canary, by decide +kernel, by decide +kernel, fun heq => ?_⟩
  rw [← bytes_condense_builtin, heq] at hlt
  exact Nat.lt_irrefl _ hlt

/-- Three texts with quotes, backslashes and blanks that spare their quotes. -/
theorem condense_selectTexts_of_escapes :
    (∀ t ∈ ["it's", "a\\\\  'b", "\\n  --"], sparesQuotes (bytes t) = true) ∧
      condense Settings.builtin.delimiters (selectTexts ["it's", "a\\\\  'b", "\\n  --"]) =
        selectTexts ["it's", "a\\\\  'b", "\\n  --"] ∧
      Settings.builtin.delimiters.tokenIn "a\\'" = false ∧ sparesQuotes (bytes "a\\'") = false ∧
      ∃ u, sparesQuotes (bytes u) = true ∧ Settings.builtin.delimiters.tokenIn u = false ∧
        condense Settings.builtin.delimiters (selectTexts ["a\\'", u]) ≠
          selectTexts ["a\\'", u] := by
  have hspares : ∀ t ∈ ["it's", "a\\\\  'b", "\\n  --"], sparesQuotes (bytes t) = true := by
    decide +kernel
  have htoken : Settings.builtin.delimiters.tokenIn "a\\'" = false := by decide +kernel
  have hescapes : sparesQuotes (bytes "a\\'") = false := by decide +kernel
  exact ⟨hspares, condense_selectTexts.1 _ (List.cons_ne_nil _ _) hspares, htoken, hescapes,
    condense_selectTexts.2 _ htoken hescapes⟩

/-- A backslash at the end of a literal is taken to escape the quote behind it, and the spaces in
the next literal are then outside of any run. -/
theorem condense_selectTexts_of_last_backslash :
    let texts := ["a\\", "b  c"]
    (∀ t ∈ texts, Settings.builtin.delimiters.tokenIn t = false) ∧
      selectTexts texts = "SELECT 'a\\', 'b  c'" ∧
      condense Settings.builtin.delimiters (selectTexts texts) = "SELECT 'a\\', 'b c'" ∧
      condense Settings.builtin.delimiters (selectTexts texts) ≠ selectTexts texts := by
  decide +kernel

end SlotQuery.Template
