import SlotQuery.Proofs.Text.Utf8
import SlotQuery.Identifier
import SlotQuery.Template.Piece

/-!
# Statements that condensing leaves alone

Condensing a statement copies some stretches of it byte by byte: plain text, names between
backticks, texts between single quotes, and literals between the markers nobody has changed.
`Copied` says so of a stretch in whatever stands around it.  Stretches that are copied may stand
side by side (`Copied.append`) or with one space between them (`Copied.spaced`), so a statement
that is put together from such stretches is its own condensed form (`condenseBytes_of_copied`).

A quoted run only ends where its quote is not written twice, so what follows a stretch must not
begin with the quote that the stretch ends with; `Meets` keeps track of that.
-/

namespace SlotQuery.Template

open Text

/-- The bytes of the markers nobody has changed. -/
abbrev openingBytes : List UInt8 := [60, 37]

@[inherit_doc openingBytes]
abbrev closingBytes : List UInt8 := [37, 62]

/-- The pieces of a text, written again; `owed` says that a gap came before. -/
def rewritten (owed : Bool) (bs : List UInt8) : List UInt8 :=
  Piece.write owed (Piece.ofBytes openingBytes closingBytes bs)

/-- The space for a gap that came before. -/
def gapBefore (owed : Bool) : List UInt8 :=
  if owed then [32] else []

/-- The byte is a piece of its own wherever it stands. -/
def IsPlain (b : UInt8) : Prop :=
  b ≠ 60 ∧ isQuote b = false ∧ b ≠ 35 ∧ b ≠ 45 ∧ b ≠ 47 ∧ isAsciiBlank b = false

instance (b : UInt8) : Decidable (IsPlain b) :=
  inferInstanceAs (Decidable (_ ∧ _))

/-- What follows does not begin with the quote that the stretch ends with. -/
def Meets (bs rest : List UInt8) : Prop :=
  ∀ q, isQuote q → bs.getLast? = some q → rest.head? ≠ some q

/-- The stretch is written again as it is, whatever stands around it. -/
def Copied (bs : List UInt8) : Prop :=
  ∀ owed rest, Meets bs rest →
    rewritten owed (bs ++ rest) = gapBefore owed ++ bs ++ rewritten false rest

theorem meets_nil (bs : List UInt8) : Meets bs [] :=
  fun _ _ _ h => nomatch h

/-- Text does not run on into a byte that is no quote. -/
theorem meets_cons {b : UInt8} (hb : isQuote b = false) (bs rest : List UInt8) :
    Meets bs (b :: rest) := by
  rintro q hq - h
  rw [Option.some.inj h, hq] at hb
  cases hb

/-- A letter does not run on into what follows it. -/
theorem meets_letter {b : UInt8} (hb : isQuote b = false) (rest : List UInt8) : Meets [b] rest := by
  intro q hq hlast
  rw [List.getLast?_singleton] at hlast
  rw [Option.some.inj hlast, hq] at hb
  cases hb

/-- A text is cut into its first piece and the pieces of the rest. -/
theorem ofBytes_cons (opening closing : List UInt8) (b : UInt8) (rest : List UInt8) :
    Piece.ofBytes opening closing (b :: rest) =
      (Piece.first opening closing b rest).1 ::
        Piece.ofBytes opening closing (Piece.first opening closing b rest).2 := by
  rw [Piece.ofBytes]

/-- A piece that is no gap is written with a space for the gaps before it. -/
theorem write_piece {p : Piece} (hp : p.isGap = false) (owed : Bool) (ps : List Piece) :
    Piece.write owed (p :: ps) = gapBefore owed ++ p.bytes ++ Piece.write false ps := by
  cases p with
  | gap => cases hp
  | span bs => rfl
  | quoted bs => rfl
  | plain b => rfl

/-- A text whose first piece shows is written as that piece and the rest. -/
theorem rewritten_of_first {b : UInt8} {rest after : List UInt8} {p : Piece}
    (h : Piece.first openingBytes closingBytes b rest = (p, after)) (hp : p.isGap = false)
    (owed : Bool) :
    rewritten owed (b :: rest) = gapBefore owed ++ p.bytes ++ rewritten false after := by
  rw [rewritten, ofBytes_cons, h]
  exact write_piece hp owed _

theorem afterOpening?_of_ne {b : UInt8} (hb : b ≠ 60) (rest : List UInt8) :
    afterPrefix? openingBytes (b :: rest) = none := by
  rw [afterPrefix?, if_neg hb.symm]

/-- A plain byte is a piece of its own. -/
theorem first_plain {b : UInt8} (hb : IsPlain b) (rest : List UInt8) :
    Piece.first openingBytes closingBytes b rest = (.plain b, rest) := by
  obtain ⟨hopening, hquote, hhash, hdash, hslash, hblank⟩ := hb
  unfold Piece.first
  rw [if_neg (by decide), afterOpening?_of_ne hopening]
  simp only [hquote, hhash, hdash, hslash, hblank, false_and, or_false, if_false,
    Bool.false_eq_true]

/-- A space is a gap. -/
theorem first_space (rest : List UInt8) :
    Piece.first openingBytes closingBytes 32 rest = (.gap, rest) := by
  unfold Piece.first
  rw [if_neg (by decide), afterOpening?_of_ne (by decide)]
  rfl

/-- A quote opens a piece that goes up to where the quoted run ends. -/
theorem first_quote {q : UInt8} (hq : isQuote q) {rest run after : List UInt8}
    (h : splitQuoted q rest = (run, after)) :
    Piece.first openingBytes closingBytes q rest = (.quoted (q :: run), after) := by
  have hne : q ≠ 60 := by
    rintro rfl
    cases hq
  unfold Piece.first
  rw [if_neg (by decide), afterOpening?_of_ne hne]
  simp only [hq, if_true, h]

/-- A span goes from its opening marker to the closing one. -/
theorem first_span {l : List UInt8} (hl : ¬ closingBytes <:+: l) (rest : List UInt8) :
    Piece.first openingBytes closingBytes 60 (37 :: (l ++ closingBytes ++ rest)) =
      (.span (openingBytes ++ (l ++ closingBytes)), rest) := by
  have hafter : afterPrefix? openingBytes (60 :: 37 :: (l ++ closingBytes ++ rest)) =
      some (l ++ closingBytes ++ rest) := afterPrefix?_eq_some.mpr rfl
  have hsplit : l ++ closingBytes ++ rest = l ++ 37 :: 62 :: rest := by simp
  have hcut : cut? closingBytes (l ++ closingBytes ++ rest) = some (l, rest) := by
    rw [hsplit, cut?_pair_append (by decide) hl]
  unfold Piece.first
  rw [if_neg (by decide), hafter]
  simp only [splitSpan, hcut]
  rfl

/-- A space is not written; it is owed. -/
theorem rewritten_space (owed : Bool) (rest : List UInt8) :
    rewritten owed (32 :: rest) = rewritten true rest := by
  rw [rewritten, ofBytes_cons, first_space, rewritten]
  rfl

/-- A byte that is neither the quote nor an escape is part of the quoted run. -/
theorem splitQuoted_cons {q b : UInt8} (hb : b ≠ q) (hslash : q = 96 ∨ b ≠ 92) (rest : List UInt8) :
    splitQuoted q (b :: rest) = (b :: (splitQuoted q rest).1, (splitQuoted q rest).2) := by
  have hescape : ¬ (b = 92 ∧ q ≠ 96) := by
    rintro ⟨rfl, hq⟩
    rcases hslash with h | h
    · exact hq h
    · exact h rfl
  cases rest with
  | nil => rfl
  | cons c rest => rw [splitQuoted, if_neg hescape, if_neg hb]

/-- Up to the quote everything belongs to the run. -/
theorem splitQuoted_append_of_not_mem {q : UInt8} {bs : List UInt8} (hq : q ∉ bs)
    (hslash : q = 96 ∨ (92 : UInt8) ∉ bs) (rest : List UInt8) :
    splitQuoted q (bs ++ rest) = (bs ++ (splitQuoted q rest).1, (splitQuoted q rest).2) := by
  induction bs with
  | nil => rfl
  | cons b bs ih =>
      rw [List.mem_cons, not_or] at hq
      rw [List.mem_cons, not_or] at hslash
      have hrest : q = 96 ∨ (92 : UInt8) ∉ bs := hslash.imp_right And.right
      have hb : q = 96 ∨ b ≠ 92 := hslash.imp_right fun h => Ne.symm h.1
      rw [List.cons_append, splitQuoted_cons (Ne.symm hq.1) hb, ih hq.2 hrest, List.cons_append]

/-- A quote that is written once ends the run. -/
theorem splitQuoted_end {q : UInt8} (hq : q ≠ 92) {rest : List UInt8}
    (hrest : rest.head? ≠ some q) :
    splitQuoted q (q :: rest) = ([q], rest) := by
  have hescape : ¬ (q = 92 ∧ q ≠ 96) := fun h => hq h.1
  cases rest with
  | nil => rfl
  | cons c rest =>
      have hc : c ≠ q := fun h => hrest (congrArg some h)
      rw [splitQuoted, if_neg hescape, if_pos rfl, if_neg hc]

/-- Two quotes in a row stay inside. -/
theorem splitQuoted_double {q : UInt8} (hq : q ≠ 92) (rest : List UInt8) :
    splitQuoted q (q :: q :: rest) =
      (q :: q :: (splitQuoted q rest).1, (splitQuoted q rest).2) := by
  have hescape : ¬ (q = 92 ∧ q ≠ 96) := fun h => hq h.1
  rw [splitQuoted, if_neg hescape, if_pos rfl, if_pos rfl]

theorem gapBefore_false : gapBefore false = [] := rfl

namespace Copied

variable {bs cs : List UInt8}

/-- What is copied is not empty. -/
theorem ne_nil (h : Copied bs) : bs ≠ [] := by
  rintro rfl
  have hempty := h true [] (meets_nil [])
  simp [rewritten, Piece.ofBytes, Piece.write, gapBefore] at hempty

/-- What is copied in two parts is copied as a whole, if the first does not run on into the second.
-/
theorem append (hbs : Copied bs) (hcs : Copied cs) (hmeets : Meets bs cs) : Copied (bs ++ cs) := by
  intro owed rest hrest
  have hfirst : Meets bs (cs ++ rest) := by
    intro q hq hlast
    rw [List.head?_append_of_ne_nil _ hcs.ne_nil]
    exact hmeets q hq hlast
  have hsecond : Meets cs rest := by
    intro q hq hlast
    refine hrest q hq ?_
    rw [List.getLast?_append_of_ne_nil _ hcs.ne_nil]
    exact hlast
  rw [List.append_assoc, hbs owed _ hfirst, hcs false rest hsecond, gapBefore_false]
  simp only [List.nil_append, List.append_assoc]

/-- A space between two parts that are copied is copied too. -/
theorem spaced (hbs : Copied bs) (hcs : Copied cs) : Copied (bs ++ 32 :: cs) := by
  intro owed rest hrest
  have hsecond : Meets cs rest := by
    intro q hq hlast
    refine hrest q hq ?_
    rw [List.getLast?_append_of_ne_nil _ (List.cons_ne_nil 32 cs),
      ← List.singleton_append, List.getLast?_append_of_ne_nil _ hcs.ne_nil]
    exact hlast
  rw [List.append_assoc, List.cons_append, hbs owed _ (meets_cons rfl bs _), rewritten_space,
    hcs true rest hsecond]
  simp only [gapBefore, if_true, List.append_assoc, List.cons_append, List.nil_append]

theorem plain {b : UInt8} (hb : IsPlain b) : Copied [b] := by
  intro owed rest _
  exact rewritten_of_first (first_plain hb rest) rfl owed

/-- Plain text is copied. -/
theorem of_plain (hne : bs ≠ []) (hbs : bs.all fun b => IsPlain b) : Copied bs := by
  induction bs with
  | nil => exact absurd rfl hne
  | cons b bs ih =>
      rw [List.all_cons, Bool.and_eq_true, decide_eq_true_eq] at hbs
      obtain ⟨hb, hrest⟩ := hbs
      cases bs with
      | nil => exact plain hb
      | cons c bs =>
          have hc : IsPlain c := of_decide_eq_true (List.all_eq_true.mp hrest c List.mem_cons_self)
          exact (plain hb).append (ih (List.cons_ne_nil c bs) hrest) (meets_cons hc.2.1 [b] bs)

/-- A run between quotes is copied if it ends with its quote. -/
theorem quoted {q : UInt8} (hq : isQuote q) {run : List UInt8}
    (hrun : ∀ rest : List UInt8, rest.head? ≠ some q →
      splitQuoted q (run ++ [q] ++ rest) = (run ++ [q], rest)) : Copied (q :: (run ++ [q])) := by
  intro owed rest hrest
  have hlast : (q :: (run ++ [q])).getLast? = some q := by
    rw [← List.cons_append, List.getLast?_concat]
  have hsplit := hrun rest (hrest q hq hlast)
  have hfirst := first_quote hq hsplit
  rw [List.cons_append, rewritten_of_first hfirst rfl owed]
  rfl

/-- A literal between the markers is copied, whatever it holds. -/
theorem span {l : List UInt8} (hl : ¬ closingBytes <:+: l) :
    Copied (openingBytes ++ (l ++ closingBytes)) := by
  intro owed rest _
  exact rewritten_of_first (first_span hl rest) rfl owed

/-- Stretches with a comma and a space between them. -/
theorem joined {xs : List (List UInt8)} (hne : xs ≠ []) (hxs : ∀ x ∈ xs, Copied x) :
    Copied ([44, 32].intercalate xs) := by
  induction xs with
  | nil => exact absurd rfl hne
  | cons x xs ih =>
      obtain ⟨hx, hrest⟩ := List.forall_mem_cons.mp hxs
      cases xs with
      | nil => rwa [List.intercalate_singleton]
      | cons y ys =>
          have hcomma : Copied (x ++ [44]) := hx.append (plain (by decide)) (meets_cons rfl x [])
          have htail := ih (List.cons_ne_nil y ys) hrest
          have hsplit : [44, 32].intercalate (x :: y :: ys) =
              (x ++ [44]) ++ 32 :: [44, 32].intercalate (y :: ys) := by simp
          rw [hsplit]
          exact hcomma.spaced htail

/-- Any number of stretches with commas between them, in parentheses. -/
theorem group {xs : List (List UInt8)} (hxs : ∀ x ∈ xs, Copied x) :
    Copied ([40] ++ [44, 32].intercalate xs ++ [41]) := by
  have hopen : Copied [40] := plain (by decide)
  have hclose : Copied [41] := plain (by decide)
  cases xs with
  | nil => exact hopen.append hclose (meets_cons rfl _ _)
  | cons x xs =>
      have hjoined := joined (List.cons_ne_nil x xs) hxs
      exact (hopen.append hjoined (meets_letter rfl _)).append hclose (meets_cons rfl _ _)

end Copied

theorem rewritten_nil (owed : Bool) : rewritten owed [] = [] := by
  rw [rewritten, Piece.ofBytes, Piece.write]

/-- A statement that is copied and starts with a plain byte is its own condensed form, but for what
follows it. -/
theorem condenseBytes_of_copied {bs rest : List UInt8} (h : Copied bs) {b : UInt8}
    (hb : bs.head? = some b) (hplain : IsPlain b) (hrest : Meets bs rest) :
    condenseBytes openingBytes closingBytes (bs ++ rest) = bs ++ rewritten false rest := by
  obtain ⟨tail, rfl⟩ := List.head?_eq_some_iff.mp hb
  have hkept : (Piece.ofBytes openingBytes closingBytes (b :: tail ++ rest)).dropWhile Piece.isGap =
      Piece.ofBytes openingBytes closingBytes (b :: tail ++ rest) := by
    rw [List.cons_append, ofBytes_cons, first_plain hplain]
    rfl
  have hwritten := h false rest hrest
  rw [gapBefore_false, List.nil_append] at hwritten
  rw [condenseBytes, hkept]
  exact hwritten

/-- A quoted name, behind its opening backtick. -/
def nameRun (name : String) : List UInt8 :=
  replaceAll 96 [96, 96] (bytes name) ++ [96]

/-- A quoted name is a backtick and the run behind it. -/
theorem bytes_quoteName (name : String) : bytes (quoteName name) = 96 :: nameRun name := by
  have hdouble := encode_double (a := backtick) (by decide) name.toList
  rw [bytes, quoteName, String.toList_ofList, List.cons_append, encode_cons, encode_append, hdouble]
  rfl

/-- Backticks that are doubled stay inside the run, and a single one ends it. -/
theorem splitQuoted_replaceAll (bs : List UInt8) {rest : List UInt8}
    (hrest : rest.head? ≠ some 96) :
    splitQuoted 96 (replaceAll 96 [96, 96] bs ++ [96] ++ rest) =
      (replaceAll 96 [96, 96] bs ++ [96], rest) := by
  induction bs with
  | nil => exact splitQuoted_end (by decide) hrest
  | cons b bs ih =>
      rw [replaceAll_cons]
      simp only [List.append_assoc] at ih ⊢
      by_cases hb : b = 96
      · rw [if_pos hb, List.cons_append, List.singleton_append,
          splitQuoted_double (by decide), ih]
        rfl
      · rw [if_neg hb, List.singleton_append, splitQuoted_cons hb (.inl rfl), ih]
        rfl

/-- A name between backticks is copied, whatever it is. -/
theorem copied_quoteName (name : String) : Copied (bytes (quoteName name)) := by
  rw [bytes_quoteName]
  exact Copied.quoted rfl fun rest hrest => splitQuoted_replaceAll (bytes name) hrest

/-- Names between backticks, with commas between them and in parentheses. -/
theorem copied_quoteNames (names : List String) :
    Copied (bytes ("(" ++ quoteNames names ++ ")")) := by
  have hbytes : bytes ("(" ++ quoteNames names ++ ")") =
      [40] ++ [44, 32].intercalate (names.map fun name => bytes (quoteName name)) ++ [41] := by
    have hopen : bytes "(" = [40] := by decide +kernel
    have hcomma : bytes ", " = [44, 32] := by decide +kernel
    have hclose : bytes ")" = [41] := by decide +kernel
    rw [bytes_append, bytes_append, quoteNames, bytes_intercalate, List.map_map,
      Function.comp_def, hopen, hcomma, hclose]
  rw [hbytes]
  refine Copied.group fun x hx => ?_
  obtain ⟨name, -, rfl⟩ := List.mem_map.mp hx
  exact copied_quoteName name

/-- A literal between the markers is copied if the closing one does not stand in it. -/
theorem copied_literal {l : List Char} (hl : ¬ ['%', '>'] <:+: l) :
    Copied (encode (['<', '%'] ++ l ++ ['%', '>'])) := by
  have hbytes : ¬ closingBytes <:+: encode l := fun h =>
    hl ((pair_infix_encode (a := '%') (b := '>') (by decide) (by decide)).mp h)
  rw [encode_append, encode_append, List.append_assoc]
  exact Copied.span hbytes

end SlotQuery.Template
