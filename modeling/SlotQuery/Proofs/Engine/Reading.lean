import Mathlib.Data.List.TakeWhile
import SlotQuery.Engine.Effect
import SlotQuery.Proofs.Engine.Laws
import SlotQuery.Proofs.Engine.Lexing
import SlotQuery.Proofs.Text.Letters

/-!
# How the statements of the small engine begin

The first lexeme of a text tells what is read: it is the first word of the statement
(`leading?_of_read`), and a statement that takes a step with a transaction begins with one of four
words.  So a text in which nothing may stand in front of the first word reads as such a statement
only if it begins with one of these (`leadingWord_of_step`).

A name with a NUL in it cannot be read: the text ends there, inside the name (`exists_torn`).
-/

namespace SlotQuery.Engine

open Lexeme (StartsWord startsSpace startsName continuesName)

namespace Statement

/-- The word that the statement begins with. -/
def firstWord : Statement → String
  | create .. => "create"
  | insert .. => "insert"
  | update .. => "update"
  | delete .. => "delete"
  | select .. | values _ => "select"
  | begin => "begin"
  | commit => "commit"
  | savepoint _ => "savepoint"
  | rollback | rollbackTo _ => "rollback"

/-- A step with a transaction begins with one of the control words. -/
theorem firstWord_of_step {s : Statement} (h : s.step? ≠ none) : s.firstWord ∈ controlWords := by
  cases s with
  | begin | commit | rollback | savepoint | rollbackTo => exact of_decide_eq_true rfl
  | _ => exact absurd rfl h

section

variable {α β : Type} {P : β → Prop}

/-- Whatever the reader reads has the property. -/
def Yields (P : α → Prop) (r : Reader α) : Prop :=
  ∀ c a c', r.run c = .ok (a, c') → P a

/-- A value with the property is yielded. -/
theorem Yields.pure {b : β} (hb : P b) : Yields P (Pure.pure b) := by
  intro c a c' h
  cases h
  exact hb

/-- What two readers in a row have read, each of them has read its part of. -/
theorem run_bind_eq_ok {r : Reader α} {f : α → Reader β} {c c' : Cursor} {b : β}
    (h : (r >>= f).run c = .ok (b, c')) :
    ∃ a c₁, r.run c = .ok (a, c₁) ∧ (f a).run c₁ = .ok (b, c') := by
  rw [StateT.run_bind] at h
  cases hr : r.run c with
  | error e =>
      rw [hr] at h
      cases h
  | ok v =>
      rw [hr] at h
      exact ⟨v.1, v.2, rfl, h⟩

/-- What the last reader yields is what both yield. -/
theorem Yields.bind {r : Reader α} {f : α → Reader β} (hf : ∀ a, Yields P (f a)) :
    Yields P (r >>= f) := by
  intro c b c' h
  obtain ⟨a, c₁, -, hrest⟩ := run_bind_eq_ok h
  exact hf a c₁ b c' hrest

/-- Both ways yield the property. -/
theorem Yields.ite {found : Prop} [Decidable found] {r r' : Reader β} (hr : Yields P r)
    (hr' : Yields P r') : Yields P (if found then r else r') := by
  by_cases h : found
  · rw [if_pos h]
    exact hr
  · rw [if_neg h]
    exact hr'

/-- What becomes of the question for a keyword. -/
theorem run_keyword? (k : String) (c : Cursor) :
    (keyword? k).run c =
      if isKeyword k c.ahead.head? then .ok (true, { c with ahead := c.ahead.tail })
      else .ok (false, c) := by
  show ((if isKeyword k c.ahead.head? then advance >>= fun _ => Pure.pure true
    else Pure.pure false : Reader Bool)).run c = _
  by_cases hk : isKeyword k c.ahead.head?
  · rw [if_pos hk, if_pos hk]
    rfl
  · rw [if_neg hk, if_neg hk]
    rfl

/-- A keyword that may be next decides how reading goes on. -/
theorem run_keyword?_bind (k : String) (r r' : Reader α) (c : Cursor) :
    (keyword? k >>= fun found => if found then r else r').run c =
      if isKeyword k c.ahead.head? then r.run { c with ahead := c.ahead.tail } else r'.run c := by
  rw [StateT.run_bind, run_keyword?]
  by_cases hk : isKeyword k c.ahead.head?
  · rw [if_pos hk, if_pos hk]
    rfl
  · rw [if_neg hk, if_neg hk]
    rfl

/-- Without its keyword a reader fails. -/
theorem run_keyword_bind_of_not {k : String} {c : Cursor} (hk : ¬ isKeyword k c.ahead.head?)
    (f : Unit → Reader α) : (keyword k >>= f).run c = .error c.ahead.head? := by
  have hnone : (keyword k).run c = .error c.ahead.head? := by
    show (keyword? k >>= fun found => if ¬ found then unexpected else Pure.pure ()).run c = _
    rw [StateT.run_bind, run_keyword?, if_neg hk]
    rfl
  rw [StateT.run_bind, hnone]
  rfl

end

/-- The reader reads a statement only where the statement's first word is next. -/
def Led (r : Reader Statement) : Prop :=
  ∀ c s c', r.run c = .ok (s, c') → isKeyword s.firstWord c.ahead.head? = true

/-- A keyword leads to its own statements, and the rest to theirs. -/
theorem Led.keyword? {k : String} {r r' : Reader Statement}
    (hr : Yields (fun s => s.firstWord = k) r) (hr' : Led r') :
    Led (Statement.keyword? k >>= fun found => if found then r else r') := by
  intro c s c' h
  rw [run_keyword?_bind] at h
  by_cases hnext : isKeyword k c.ahead.head?
  · rw [if_pos hnext] at h
    rw [hr _ _ _ h]
    exact hnext
  · rw [if_neg hnext] at h
    exact hr' _ _ _ h

/-- A keyword that is asked for leads to its statements. -/
theorem Led.keyword {k : String} {f : Unit → Reader Statement}
    (hf : ∀ u, Yields (fun s => s.firstWord = k) (f u)) : Led (Statement.keyword k >>= f) := by
  intro c s c' h
  by_cases hnext : isKeyword k c.ahead.head?
  · rw [Yields.bind hf _ _ _ h]
    exact hnext
  · rw [run_keyword_bind_of_not hnext] at h
    cases h

/-- A statement is read only where its first word is next. -/
theorem led_statement (sql : List Char) : Led (statement sql) := by
  unfold statement
  refine .keyword? ?create <| .keyword? ?insert <| .keyword? ?update <| .keyword? ?delete <|
    .keyword? ?select <| .keyword? (.pure rfl) <| .keyword? (.pure rfl) <|
    .keyword? ?savepoint <| .keyword ?rollback
  case create => exact .bind fun _ => .bind fun _ => .bind fun _ => .pure rfl
  case insert =>
    refine .bind fun _ => .bind fun _ => .bind fun _ => .bind fun _ => .bind fun _ =>
      .bind fun _ => .ite ?_ ?_
    · exact .bind fun _ => .pure rfl
    · exact .bind fun _ => .pure rfl
  case update => exact .bind fun _ => .bind fun _ => .bind fun _ => .bind fun _ => .pure rfl
  case delete => exact .bind fun _ => .bind fun _ => .bind fun _ => .pure rfl
  case select =>
    refine .bind fun _ => .ite (.bind fun _ => .pure rfl) ?_
    exact .bind fun _ => .bind fun _ => .bind fun _ => .bind fun _ => .bind fun _ => .pure rfl
  case savepoint => exact .bind fun _ => .pure rfl
  case rollback =>
    refine fun _ => .bind fun _ => .ite ?_ (.pure rfl)
    exact .bind fun _ => .bind fun _ => .pure rfl

/-- The lexeme that the first statement of a text starts with. -/
def leading? (text : List Char) : Option Lexeme :=
  ((Lexeme.ofText (text.takeWhile (· ≠ '\x00'))).dropWhile fun l => l.token = .symbol ';').head?

/-- What a text reads as was read from its first lexeme on. -/
theorem run_of_read {text rest : List Char} {s : Statement} {params : Nat}
    (h : read text = .ok (some (s, params), rest)) :
    ∃ c c', (statement (text.takeWhile (· ≠ '\x00'))).run c = .ok (s, c') ∧
      c.ahead.head? = leading? text := by
  unfold read at h
  unfold leading?
  dsimp only at h
  cases hls : (Lexeme.ofText (text.takeWhile (· ≠ '\x00'))).dropWhile
      fun l => l.token = .symbol ';' with
  | nil =>
      rw [hls] at h
      cases h
  | cons l ls =>
      rw [hls] at h
      dsimp only at h
      split at h
      · next s' stop c hrun =>
          cases h
          obtain ⟨s₁, c₁, hstatement, hrest⟩ := run_bind_eq_ok hrun
          obtain ⟨stop', c₂, -, hpure⟩ := run_bind_eq_ok hrest
          cases hpure
          exact ⟨_, c₁, hstatement, rfl⟩
      · cases h
      · cases h

/-- A text that reads as a statement starts with the statement's first word. -/
theorem leading?_of_read {text rest : List Char} {s : Statement} {params : Nat}
    (h : read text = .ok (some (s, params), rest)) :
    isKeyword s.firstWord (leading? text) = true := by
  obtain ⟨c, c', hrun, hleads⟩ := run_of_read h
  rw [← hleads]
  exact led_statement _ _ _ _ hrun

/-- What the first character of a text is part of, the text starts with. -/
theorem leading?_cons {c : Char} {rest : List Char} (hc : c ≠ '\x00')
    (hspace : Lexeme.startsSpace c = false) {token : Token} {spelling after : List Char}
    (hnext : Lexeme.next (c :: rest.takeWhile (· ≠ '\x00')) = (some (token, spelling), after))
    (htoken : token ≠ .symbol ';') : leading? (c :: rest) = some ⟨token, spelling, 0⟩ := by
  have hread : Lexeme.ofText (c :: rest.takeWhile (· ≠ '\x00')) =
      ⟨token, spelling, 0⟩ ::
        Lexeme.readFrom (rest.takeWhile (· ≠ '\x00')).length (0 + Text.width spelling) after := by
    rw [Lexeme.ofText, List.length_cons, Lexeme.readFrom, hspace, hnext]
    rfl
  have hkeep : decide (c ≠ '\x00') = true := decide_eq_true hc
  rw [leading?, List.takeWhile_cons, if_pos hkeep, hread, List.dropWhile_cons]
  rw [if_neg (by rw [decide_eq_true_eq]; exact htoken)]
  rfl

/-- Blanks at the front are passed over. -/
theorem leading?_spaced {b c : Char} {blanks rest : List Char} (hb : Lexeme.startsSpace b = true)
    (hblanks : ∀ d ∈ blanks, Lexeme.isSpace d = true) (hc : c ≠ '\x00')
    (hspace : Lexeme.startsSpace c = false) (hstop : Lexeme.isSpace c = false) {token : Token}
    {spelling after : List Char}
    (hnext : Lexeme.next (c :: rest.takeWhile (· ≠ '\x00')) = (some (token, spelling), after))
    (htoken : token ≠ .symbol ';') :
    ∃ offset, leading? (b :: blanks ++ c :: rest) = some ⟨token, spelling, offset⟩ := by
  have hkept : (b :: blanks ++ c :: rest).takeWhile (· ≠ '\x00') =
      b :: blanks ++ c :: rest.takeWhile (· ≠ '\x00') := by
    rw [List.takeWhile_append_of_pos, List.takeWhile_cons, if_pos (decide_eq_true hc)]
    intro d hd
    rw [decide_eq_true_eq]
    rintro rfl
    rcases List.mem_cons.mp hd with rfl | hmem
    · cases hb
    · cases hblanks _ hmem
  have hread : Lexeme.ofText (b :: blanks ++ c :: rest.takeWhile (· ≠ '\x00')) =
      Lexeme.readFrom ((blanks ++ c :: rest.takeWhile (· ≠ '\x00')).length)
        (0 + Text.width (b :: blanks)) (c :: rest.takeWhile (· ≠ '\x00')) := by
    rw [Lexeme.ofText, List.cons_append, List.length_cons, Lexeme.readFrom, if_pos hb,
      List.takeWhile_append_of_pos hblanks, List.dropWhile_append_of_pos hblanks,
      List.takeWhile_cons, List.dropWhile_cons, hstop, if_neg Bool.false_ne_true,
      if_neg Bool.false_ne_true, List.append_nil]
  rw [leading?, hkept, hread, List.length_append, List.length_cons, ← Nat.add_assoc,
    Lexeme.readFrom, hspace, if_neg Bool.false_ne_true, hnext]
  refine ⟨0 + Text.width (b :: blanks), ?_⟩
  dsimp only
  rw [List.dropWhile_cons, if_neg (by rw [decide_eq_true_eq]; exact htoken)]
  rfl

/-- What starts with a digit is a number or nothing. -/
theorem token_numberFrom (cs : List Char) :
    (Lexeme.numberFrom cs).1 = .unknown ∨ ∃ digits, (Lexeme.numberFrom cs).1 = .number digits := by
  unfold Lexeme.numberFrom
  dsimp only
  split
  · split
    · exact .inr ⟨_, rfl⟩
    · exact .inl rfl
  · split
    · exact .inr ⟨_, rfl⟩
    · exact .inl rfl

/-- What does not begin a comment begins a token.  It is a word only if all that a name may be made
of belongs to it. -/
theorem exists_next {c : Char} (hdash : c ≠ '-') (hslash : c ≠ '/') (rest : List Char) :
    ∃ token spelling after, Lexeme.next (c :: rest) = (some (token, spelling), after) ∧
      (token = .symbol ';' → c = ';') ∧
      ∀ w, token = .word w → w = String.ofList (c :: rest.takeWhile continuesName) := by
  unfold Lexeme.next
  split
  · next h => cases h
  · next h => exact absurd (List.cons.inj h).1 hdash
  · next h => exact absurd (List.cons.inj h).1 hslash
  · next c' rest' _ _ h =>
      obtain ⟨rfl, rfl⟩ := List.cons.inj h
      dsimp only
      split
      · cases Lexeme.quotedFrom c rest with
        | none => exact ⟨_, _, _, rfl, by simp, by simp⟩
        | some parts => exact ⟨_, _, _, rfl, by simp, by simp⟩
      split
      · cases Lexeme.quotedFrom c rest with
        | none => exact ⟨_, _, _, rfl, by simp, by simp⟩
        | some parts => exact ⟨_, _, _, rfl, by simp, by simp⟩
      split
      · exact ⟨_, _, _, rfl, by simp, by simp⟩
      split
      · unfold Lexeme.blobFrom
        dsimp only
        cases (rest.drop 1).dropWhile fun c => decide (c ≠ '\'') with
        | nil => exact ⟨_, _, _, rfl, by simp, by simp⟩
        | cons quote after =>
            dsimp only
            split
            · exact ⟨_, _, _, rfl, by simp, by simp⟩
            · exact ⟨_, _, _, rfl, by simp, by simp⟩
      split
      · exact ⟨_, _, _, rfl, by simp, fun w h => (Token.word.inj h).symm⟩
      split
      · refine ⟨_, _, _, rfl, fun h => ?_, fun w h => ?_⟩
        · rcases token_numberFrom (c :: rest) with hnone | ⟨digits, hdigits⟩
          · cases hnone.symm.trans h
          · cases hdigits.symm.trans h
        · rcases token_numberFrom (c :: rest) with hnone | ⟨digits, hdigits⟩
          · cases hnone.symm.trans h
          · cases hdigits.symm.trans h
      split
      · exact ⟨_, _, _, rfl, by simp, by simp⟩
      · exact ⟨_, _, _, rfl, fun h => Token.symbol.inj h, by simp⟩

/-- The letters at the start of a text are all of a word that has letters only. -/
theorem takeWhile_isAlpha {q : Char → Bool} {cs : List Char}
    (hq : ∀ c, c.isAlpha = true → q c = true)
    (hletters : ∀ c ∈ cs.takeWhile q, c.isAlpha = true) :
    cs.takeWhile Char.isAlpha = cs.takeWhile q := by
  induction cs with
  | nil => rfl
  | cons c cs ih =>
      rw [List.takeWhile_cons] at hletters ⊢
      rw [List.takeWhile_cons]
      cases hc : q c with
      | true =>
          rw [hc, if_pos rfl] at hletters
          obtain ⟨hletter, hmore⟩ := List.forall_mem_cons.mp hletters
          rw [if_pos hletter, if_pos rfl, ih hmore]
      | false =>
          rw [if_neg, if_neg Bool.false_ne_true]
          intro halpha
          rw [hq c halpha] at hc
          cases hc

/-- The words that control a transaction consist of small letters. -/
theorem small_of_mem_controlWords {k : String} (h : k ∈ controlWords) :
    k.toList.map Char.toLower = k.toList ∧ ∀ c ∈ k.toList, c.isAlpha = true := by
  have hall : ∀ k ∈ controlWords, k.toList.map Char.toLower = k.toList ∧
      k.toList.all Char.isAlpha = true := by decide
  obtain ⟨hlower, hletters⟩ := hall k h
  exact ⟨hlower, List.all_eq_true.mp hletters⟩

/-- A text that reads as a step begins with one of a few words, if nothing stands in front of it. -/
theorem leadingWord_of_step {sql : String} {s : Statement} {params : Nat} {after : List Char}
    (h : read sql.toList = .ok (some (s, params), after)) (hs : s.step? ≠ none)
    (hfirst : ∀ c ∈ sql.toList.head?, c ∉ mayPrecede) : leadingWord sql ∈ controlWords := by
  have hkey := leading?_of_read h
  have hword := firstWord_of_step hs
  rcases hsql : sql.toList with _ | ⟨c, rest⟩
  · rw [hsql] at hkey
    cases hkey
  rw [hsql] at hkey hfirst
  have hc : c ∉ mayPrecede := hfirst c rfl
  simp only [mayPrecede, List.mem_cons, List.not_mem_nil, or_false, not_or] at hc
  obtain ⟨h₁, h₂, h₃, h₄, h₅, h₆, hdash, hslash, hsemicolon⟩ := hc
  have hspace : startsSpace c = false := by
    simp [startsSpace, h₁, h₂, h₃, h₄, h₅, h₆]
  have hnul : c ≠ '\x00' := by
    rintro rfl
    cases hkey
  obtain ⟨token, spelling, behind, hnext, hsymbol, hname⟩ :=
    exists_next hdash hslash (rest.takeWhile (· ≠ '\x00'))
  rw [leading?_cons hnul hspace hnext fun h => hsemicolon (hsymbol h)] at hkey
  cases token with
  | word w =>
      obtain rfl := hname w rfl
      have hsame := sameName_iff.mp hkey
      obtain ⟨hlower, hletters⟩ := small_of_mem_controlWords hword
      rw [hlower, String.toList_ofList, List.takeWhile_takeWhile] at hsame
      -- The word has letters only, and ends where the letters end.
      have hsmall : ∀ d ∈ c :: rest.takeWhile _, d.isAlpha = true := fun d hd =>
        Text.isAlpha_of_toLower (hletters _ (hsame ▸ List.mem_map_of_mem hd))
      obtain ⟨hc, hmore⟩ := List.forall_mem_cons.mp hsmall
      have hkept : ∀ d : Char, d.isAlpha = true →
          decide (continuesName d = true ∧ decide (d ≠ '\x00') = true) = true := by
        intro d hd
        have hnul : d ≠ '\x00' := by
          rintro rfl
          cases hd
        simp [continuesName, startsName, hd, hnul]
      rw [leadingWord, hsql, List.takeWhile_cons, if_pos hc, takeWhile_isAlpha hkept hmore, hsame,
        String.ofList_toList]
      exact hword
  | _ => cases hkey

/-- A quoted name has a NUL only where the name has one. -/
theorem nul_not_mem_quoteName {name : String} (hname : Holdable name) :
    '\x00' ∉ (quoteName name).toList := by
  intro h
  rw [toList_quoteName, List.mem_cons, List.mem_append] at h
  rcases h with h | h | h
  · cases h
  · obtain ⟨c, hc, himage⟩ := List.mem_flatMap.mp h
    by_cases hquote : c = backtick
    · rw [if_pos hquote] at himage
      revert himage
      decide
    · rw [if_neg hquote, List.mem_singleton] at himage
      exact hname (himage ▸ hc)
  · revert h
    decide

/-- What a text holds in front of a NUL is read. -/
theorem takeWhile_of_not_mem {front : List Char} (hfront : '\x00' ∉ front) (rest : List Char) :
    (front ++ rest).takeWhile (· ≠ '\x00') = front ++ rest.takeWhile (· ≠ '\x00') :=
  List.takeWhile_append_of_pos fun _ hc => decide_eq_true fun h => hfront (h ▸ hc)

/-- A text ends inside a name that cannot be held. -/
theorem exists_torn {name : String} (hname : ¬ Holdable name) :
    ∃ cs : List Char, ∀ rest : List Char,
      ((quoteName name).toList ++ rest).takeWhile (· ≠ '\x00') =
        backtick :: Text.replaceAll backtick [backtick, backtick] cs := by
  obtain ⟨cs, more, hsplit, hcs⟩ := List.eq_append_cons_of_mem (not_not.mp hname)
  have hheld : Holdable (String.ofList cs) := by
    unfold Holdable
    rwa [String.toList_ofList]
  have hquoted := nul_not_mem_quoteName hheld
  rw [toList_quoteName, String.toList_ofList, ← List.cons_append] at hquoted
  have hfront := fun h => hquoted (List.mem_append_left _ h)
  refine ⟨cs, fun rest => ?_⟩
  have htext : (quoteName name).toList ++ rest =
      (backtick :: Text.replaceAll backtick [backtick, backtick] cs) ++
        '\x00' :: (Text.replaceAll backtick [backtick, backtick] more ++ [backtick] ++ rest) := by
    rw [toList_quoteName, hsplit, Text.replaceAll, List.flatMap_append, List.flatMap_cons,
      if_neg (by decide)]
    simp only [Text.replaceAll, List.append_assoc, List.cons_append, List.nil_append]
  rw [htext, takeWhile_of_not_mem hfront, List.takeWhile_cons, if_neg (by decide),
    List.append_nil]

end Statement

end SlotQuery.Engine
