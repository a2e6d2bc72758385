import SlotQuery.Engine.Lexeme
import SlotQuery.Identifier

/-!
# Texts and their tokens

A stretch of text is a `Chunk` if it is read as the same tokens wherever it stands, as long as a
blank, a comma, a parenthesis or the end follows it.  Words, names between backticks, empty texts,
blobs and parameters are chunks.  Chunks may stand side by side with a blank between them
(`Chunk.spaced`), in a list with commas (`Chunk.joined`) and between parentheses (`Chunk.group`),
and so the statements that are put together from them are read as the tokens of their parts
(`Chunk.tokens_ofText`).

A name whose closing backtick is missing is no token, and takes all that follows it along
(`reads_torn`).
-/

namespace SlotQuery

/-- A quoted name is the name with its backticks doubled, between two backticks. -/
theorem toList_quoteName (name : String) :
    (quoteName name).toList =
      backtick :: (Text.replaceAll backtick [backtick, backtick] name.toList ++ [backtick]) := by
  rw [quoteName, String.toList_ofList]
  rfl

namespace Engine.Lexeme

/-- The letter starts a word, whatever follows it; an `x` may also start a blob. -/
def StartsWord (c : Char) : Prop :=
  c.isAlpha = true ∧ c ≠ 'x' ∧ c ≠ 'X'

instance (c : Char) : Decidable (StartsWord c) :=
  inferInstanceAs (Decidable (_ ∧ _))

/-- What starts a word is no character but a letter. -/
theorem StartsWord.ne {c d : Char} (hc : StartsWord c) (hd : d.isAlpha = false) : c ≠ d := by
  rintro rfl
  rw [hc.1] at hd
  cases hd

theorem StartsWord.startsSpace {c : Char} (hc : StartsWord c) : Lexeme.startsSpace c = false := by
  have hne : ∀ d : Char, d.isAlpha = false → c ≠ d := fun _ => hc.ne
  simp (disch := decide) [Lexeme.startsSpace, hne]

/-- What starts a word is no blank inside a text. -/
theorem StartsWord.isSpace {c : Char} (hc : StartsWord c) : Lexeme.isSpace c = false := by
  have halpha : (decide ('A'.val ≤ c.val ∧ c.val ≤ 'Z'.val) ||
      decide ('a'.val ≤ c.val) && decide (c.val ≤ 'z'.val)) = true := hc.1
  simp only [Bool.or_eq_true, Bool.and_eq_true, decide_eq_true_eq,
    UInt32.le_iff_toNat_le] at halpha
  rw [Lexeme.isSpace, Bool.or_eq_false_iff, Bool.and_eq_false_iff, decide_eq_false_iff_not,
    decide_eq_false_iff_not, decide_eq_false_iff_not]
  refine ⟨hc.ne (by decide), .inr fun hle => ?_⟩
  have hreturn : c.val.toNat ≤ 13 := UInt32.le_iff_toNat_le.mp hle
  have hcapital : 'A'.val.toNat = 65 := rfl
  have hsmall : 'a'.val.toNat = 97 := rfl
  omega

/-- A word is read from its first character on. -/
theorem next_of_startsName {c : Char} (hc : startsName c = true) (hx : c ≠ 'x' ∧ c ≠ 'X')
    (rest : List Char) :
    next (c :: rest) =
      (some (.word (String.ofList (c :: rest.takeWhile continuesName)),
        c :: rest.takeWhile continuesName), rest.dropWhile continuesName) := by
  have hne : ∀ d : Char, startsName d = false → c ≠ d := by
    rintro d hd rfl
    rw [hc] at hd
    cases hd
  unfold next
  split
  · next h => cases h
  · next h =>
      cases h
      exact absurd rfl (hne '-' (by decide))
  · next h =>
      cases h
      exact absurd rfl (hne '/' (by decide))
  · next c' rest' _ _ h =>
      cases h
      have hquotes : ¬ (c = '"' ∨ c = '\x60') := by
        rintro (h | h)
        · exact hne '"' (by decide) h
        · exact hne '\x60' (by decide) h
      have hblob : ¬ ((c = 'x' ∨ c = 'X') ∧ rest.head? = some '\'') := by
        rintro ⟨h | h, -⟩
        · exact hx.1 h
        · exact hx.2 h
      dsimp only
      rw [if_neg (hne '\'' (by decide)), if_neg hquotes, if_neg (hne '?' (by decide)),
        if_neg hblob, if_pos hc]

/-- A word goes up to the first character that no name has. -/
theorem StartsWord.next {c : Char} (hc : StartsWord c) (rest : List Char) :
    Lexeme.next (c :: rest) =
      (some (.word (String.ofList (c :: rest.takeWhile continuesName)),
        c :: rest.takeWhile continuesName), rest.dropWhile continuesName) :=
  next_of_startsName (by simp [startsName, hc.1]) hc.2 rest

/-- A quoted name stands for the name, whatever it is. -/
theorem quotedFrom_name (cs : List Char) {rest : List Char} (hrest : rest.head? ≠ some backtick) :
    quotedFrom backtick (Text.replaceAll backtick [backtick, backtick] cs ++ backtick :: rest) =
      some (cs, Text.replaceAll backtick [backtick, backtick] cs ++ [backtick], rest) := by
  induction cs with
  | nil =>
      cases rest with
      | nil => rfl
      | cons d rest =>
          have hd : d ≠ backtick := fun h => hrest (congrArg some h)
          show quotedFrom backtick (backtick :: d :: rest) = _
          rw [quotedFrom, if_pos rfl, if_neg hd]
          rfl
  | cons c cs ih =>
      rw [Text.replaceAll, List.flatMap_cons, ← Text.replaceAll]
      by_cases hc : c = backtick
      · rw [if_pos hc, hc, List.cons_append, List.cons_append, List.cons_append, List.cons_append,
          List.nil_append, quotedFrom, if_pos rfl, if_pos rfl, ih]
        rfl
      · rw [if_neg hc, List.cons_append, List.nil_append, List.cons_append]
        -- The reader looks one character ahead, and there is one: at least the closing quote.
        obtain ⟨d, more, hmore⟩ := List.exists_cons_of_ne_nil
          (List.append_ne_nil_of_right_ne_nil
            (Text.replaceAll backtick [backtick, backtick] cs) (List.cons_ne_nil backtick rest))
        rw [hmore] at ih ⊢
        rw [quotedFrom, if_neg hc, ih]
        rfl

/-- Without its closing quote, a quoted name does not end. -/
theorem quotedFrom_torn (cs : List Char) :
    quotedFrom backtick (Text.replaceAll backtick [backtick, backtick] cs) = none := by
  induction cs with
  | nil => rfl
  | cons c cs ih =>
      rw [Text.replaceAll, List.flatMap_cons, ← Text.replaceAll]
      by_cases hc : c = backtick
      · rw [if_pos hc, List.cons_append, List.cons_append, List.nil_append, quotedFrom,
          if_pos rfl, if_pos rfl, ih]
        rfl
      · rw [if_neg hc, List.cons_append, List.nil_append]
        cases hmore : Text.replaceAll backtick [backtick, backtick] cs with
        | nil => rw [quotedFrom, if_neg hc]
        | cons d more =>
            rw [hmore] at ih
            rw [quotedFrom, if_neg hc, ih]
            rfl

/-- In front of the rest, the characters are read as the tokens. -/
def Reads (cs : List Char) (tokens : List Token) (rest : List Char) : Prop :=
  ∀ fuel offset, (cs ++ rest).length ≤ fuel → ∃ fuel' offset', rest.length ≤ fuel' ∧
    (readFrom fuel offset (cs ++ rest)).map token =
      tokens ++ (readFrom fuel' offset' rest).map token

variable {cs ds rest : List Char} {ts us : List Token}

theorem Reads.nil (rest : List Char) : Reads [] [] rest :=
  fun fuel offset hfuel => ⟨fuel, offset, hfuel, rfl⟩

/-- What is read in two parts is read as a whole. -/
theorem Reads.append (h : Reads cs ts (ds ++ rest)) (h' : Reads ds us rest) :
    Reads (cs ++ ds) (ts ++ us) rest := by
  intro fuel offset hfuel
  rw [List.append_assoc] at hfuel ⊢
  obtain ⟨fuel₁, offset₁, hfuel₁, hread⟩ := h fuel offset hfuel
  obtain ⟨fuel₂, offset₂, hfuel₂, hread'⟩ := h' fuel₁ offset₁ hfuel₁
  refine ⟨fuel₂, offset₂, hfuel₂, ?_⟩
  rw [hread, hread', List.append_assoc]

/-- The first character decides what is read, up to where it says. -/
theorem Reads.of_next (spelling : List Char) {c : Char} {token : Token}
    (hspace : startsSpace c = false)
    (hnext : next (c :: (cs ++ rest)) = (some (token, spelling), rest)) :
    Reads (c :: cs) [token] rest := by
  intro fuel offset hfuel
  cases fuel with
  | zero => exact absurd hfuel (by simp)
  | succ fuel =>
      refine ⟨fuel, offset + Text.width spelling, ?_, ?_⟩
      · simp only [List.cons_append, List.length_cons, List.length_append] at hfuel
        omega
      · rw [List.cons_append, readFrom, hspace, if_neg Bool.false_ne_true, hnext]
        rfl

/-- A blank is passed over, if no other blank follows. -/
theorem Reads.space (hrest : ∀ d ∈ rest.head?, isSpace d = false) : Reads [' '] [] rest := by
  intro fuel offset hfuel
  cases fuel with
  | zero => exact absurd hfuel (by simp)
  | succ fuel =>
      have hkept : rest.dropWhile isSpace = rest := by
        cases rest with
        | nil => rfl
        | cons d rest => rw [List.dropWhile_cons, hrest d rfl, if_neg Bool.false_ne_true]
      refine ⟨fuel, offset + Text.width (' ' :: rest.takeWhile isSpace), ?_, ?_⟩
      · simp only [List.cons_append, List.nil_append, List.length_cons] at hfuel
        omega
      · rw [List.cons_append, List.nil_append, readFrom, if_pos (by decide), hkept]
        rfl

/-- A comma or a parenthesis is read as itself, whatever follows. -/
theorem Reads.symbol {c : Char} (hc : c ∈ [',', '(', ')']) (rest : List Char) :
    Reads [c] [.symbol c] rest := by
  simp only [List.mem_cons, List.not_mem_nil, or_false] at hc
  rcases hc with rfl | rfl | rfl
  · exact .of_next _ rfl rfl
  · exact .of_next _ rfl rfl
  · exact .of_next _ rfl rfl

/-- The tokens of a text that begins so. -/
theorem Reads.exists_tokens (h : Reads cs ts rest) :
    ∃ us, (ofText (cs ++ rest)).map token = ts ++ us := by
  obtain ⟨fuel, offset, -, hread⟩ := h (cs ++ rest).length 0 (Nat.le_refl _)
  exact ⟨_, hread⟩

/-- The tokens of a text that is read as such. -/
theorem Reads.tokens_ofText (h : Reads cs ts []) : (ofText cs).map token = ts := by
  obtain ⟨fuel, offset, -, hread⟩ := h cs.length 0 (by simp)
  rw [List.append_nil] at hread
  have hend : readFrom fuel offset [] = [] := by cases fuel <;> rfl
  rw [ofText, hread, hend, List.map_nil, List.append_nil]

/-- A token that could be longer is over: a blank, a comma, a parenthesis or the end comes next. -/
def Breaks (rest : List Char) : Prop :=
  ∀ d ∈ rest.head?, d ∈ [' ', ',', '(', ')']

theorem breaks_nil : Breaks [] :=
  fun _ h => nomatch h

/-- A blank, a comma and a bracket break a word. -/
theorem breaks_cons {c : Char} (hc : c ∈ [' ', ',', '(', ')']) (rest : List Char) :
    Breaks (c :: rest) := by
  intro d hd
  rwa [← Option.some.inj hd]

/-- The stretch begins without a blank, and is read as the tokens wherever it stands. -/
structure Chunk (cs : List Char) (ts : List Token) : Prop where
  starts : ∃ c more, cs = c :: more ∧ isSpace c = false
  reads : ∀ rest, Breaks rest → Reads cs ts rest

namespace Chunk

/-- A chunk is read from its first character on, so no blank stands in front. -/
theorem head (h : Chunk cs ts) (rest : List Char) :
    ∀ d ∈ (cs ++ rest).head?, isSpace d = false := by
  obtain ⟨c, more, rfl, hc⟩ := h.starts
  intro d hd
  rwa [← Option.some.inj hd]

/-- A chunk may follow at once if it begins with what ends a token. -/
theorem append (h : Chunk cs ts) (h' : Chunk ds us) (hds : Breaks ds) :
    Chunk (cs ++ ds) (ts ++ us) where
  starts := by
    obtain ⟨c, more, rfl, hc⟩ := h.starts
    exact ⟨c, more ++ ds, rfl, hc⟩
  reads rest hrest := by
    refine (h.reads (ds ++ rest) ?_).append (h'.reads rest hrest)
    obtain ⟨d, more, rfl, -⟩ := h'.starts
    exact breaks_cons (hds d rfl) (more ++ rest)

/-- A blank between two chunks is passed over. -/
theorem spaced (h : Chunk cs ts) (h' : Chunk ds us) : Chunk (cs ++ ' ' :: ds) (ts ++ us) where
  starts := by
    obtain ⟨c, more, rfl, hc⟩ := h.starts
    exact ⟨c, more ++ ' ' :: ds, rfl, hc⟩
  reads rest hrest := by
    refine (h.reads (' ' :: ds ++ rest) (breaks_cons (by decide) _)).append ?_
    exact (Reads.space (h'.head rest)).append (h'.reads rest hrest)

theorem tokens_ofText (h : Chunk cs ts) : (ofText cs).map token = ts :=
  (h.reads [] breaks_nil).tokens_ofText

/-- A comma or a bracket is a token. -/
theorem symbol {c : Char} (hc : c ∈ [',', '(', ')']) : Chunk [c] [.symbol c] where
  starts := by
    refine ⟨c, [], rfl, ?_⟩
    simp only [List.mem_cons, List.not_mem_nil, or_false] at hc
    obtain rfl | rfl | rfl := hc <;> rfl
  reads rest _ := .symbol hc rest

theorem param : Chunk ['?'] [.param] where
  starts := ⟨'?', [], rfl, rfl⟩
  reads _ _ := .of_next _ rfl rfl

/-- A word is a token. -/
theorem word (c : Char) (cs : List Char) (hc : StartsWord c)
    (hcs : cs.all continuesName = true) :
    Chunk (c :: cs) [.word (String.ofList (c :: cs))] where
  starts := ⟨c, cs, rfl, hc.isSpace⟩
  reads rest hrest := by
    have hname : ∀ d ∈ cs, continuesName d = true := List.all_eq_true.mp hcs
    have hstop : rest.takeWhile continuesName = [] ∧ rest.dropWhile continuesName = rest := by
      cases rest with
      | nil => exact ⟨rfl, rfl⟩
      | cons d rest =>
          have hd : continuesName d = false := by
            have hbreak := hrest d rfl
            simp only [List.mem_cons, List.not_mem_nil, or_false] at hbreak
            obtain rfl | rfl | rfl | rfl := hbreak <;> rfl
          rw [List.takeWhile_cons, List.dropWhile_cons, hd]
          exact ⟨rfl, rfl⟩
    refine .of_next (c :: cs) hc.startsSpace ?_
    rw [hc.next, List.takeWhile_append_of_pos hname, List.dropWhile_append_of_pos hname, hstop.1,
      hstop.2, List.append_nil]

/-- A quoted name is a token. -/
theorem name (n : String) : Chunk (quoteName n).toList [.name n] where
  starts := ⟨_, _, toList_quoteName n, rfl⟩
  reads rest hrest := by
    have hhead : rest.head? ≠ some backtick := by
      intro h
      exact absurd (hrest backtick h) (by decide)
    have hquoted : quotedFrom '\x60' _ = some _ := quotedFrom_name n.toList hhead
    rw [toList_quoteName]
    refine .of_next ((quoteName n).toList) rfl ?_
    rw [List.append_assoc, List.singleton_append]
    show Lexeme.next ('\x60' :: _) = _
    rw [Lexeme.next]
    · show (if '\x60' = '\'' then _ else _) = _
      rw [if_neg (by decide), if_pos (.inr rfl), hquoted]
      dsimp only
      rw [String.ofList_toList, toList_quoteName]
      rfl
    · simp
    · simp

/-- Two quotes are an empty text, unless a third one follows. -/
theorem emptyText : Chunk ['\'', '\''] [.text ""] where
  starts := ⟨'\'', ['\''], rfl, rfl⟩
  reads rest hrest := by
    refine .of_next ['\'', '\''] rfl ?_
    cases rest with
    | nil => rfl
    | cons d rest =>
        have hd : d ≠ '\'' := by
          rintro rfl
          exact absurd (hrest _ rfl) (by decide)
        show Lexeme.next ('\'' :: '\'' :: d :: rest) = _
        have hquoted : quotedFrom '\'' ('\'' :: d :: rest) = some ([], ['\''], d :: rest) := by
          rw [quotedFrom, if_pos rfl, if_neg hd]
        rw [Lexeme.next]
        · show (if '\'' = '\'' then _ else _) = _
          rw [if_pos rfl, hquoted]
        · simp
        · simp

/-- Pairs of hexadecimal digits between quotes are bytes. -/
theorem blob {digits : List Char} (hdigits : digits.all isHexDigit = true)
    (heven : digits.length % 2 = 0) :
    Chunk ('X' :: '\'' :: (digits ++ ['\''])) [.blob (bytesOfHex digits)] where
  starts := ⟨'X', _, rfl, rfl⟩
  reads rest _ := by
    have hinside : ∀ d ∈ digits, decide (d ≠ '\'') = true := by
      intro d hd
      rw [decide_eq_true_eq]
      rintro rfl
      exact absurd (List.all_eq_true.mp hdigits _ hd) (by decide)
    have hblob : blobFrom (digits ++ '\'' :: rest) =
        (.blob (bytesOfHex digits), digits ++ ['\''], rest) := by
      unfold blobFrom
      dsimp only
      rw [List.takeWhile_append_of_pos hinside, List.dropWhile_append_of_pos hinside]
      simp [hdigits, heven]
    refine .of_next ('X' :: '\'' :: (digits ++ ['\''])) rfl ?_
    show Lexeme.next ('X' :: '\'' :: (digits ++ ['\''] ++ rest)) = _
    rw [List.append_assoc, List.singleton_append, Lexeme.next]
    · show (if 'X' = '\'' then _ else _) = _
      rw [if_neg (by decide), if_neg (by decide), if_neg (by decide),
        if_pos ⟨.inr rfl, rfl⟩]
      rw [List.drop_one, List.tail_cons, hblob]
    · simp
    · simp

/-- Chunks with commas between them have their tokens with commas between them. -/
theorem joined {xs : List α} {f : α → List Char} {g : α → List Token} (hne : xs ≠ [])
    (hxs : ∀ x ∈ xs, Chunk (f x) (g x)) :
    Chunk ([',', ' '].intercalate (xs.map f)) ([Token.symbol ','].intercalate (xs.map g)) := by
  induction xs with
  | nil => exact absurd rfl hne
  | cons x xs ih =>
      obtain ⟨hx, hmore⟩ := List.forall_mem_cons.mp hxs
      cases xs with
      | nil => simpa using hx
      | cons y ys =>
          have hcomma := hx.append (symbol (c := ',') (by decide)) (breaks_cons (by decide) [])
          have hlist := hcomma.spaced (ih (List.cons_ne_nil y ys) hmore)
          simpa using hlist

/-- A chunk in brackets has its tokens in brackets. -/
theorem group (h : Chunk cs ts) :
    Chunk ('(' :: (cs ++ [')'])) (.symbol '(' :: (ts ++ [.symbol ')'])) where
  starts := ⟨'(', _, rfl, rfl⟩
  reads rest hrest := by
    have hclosed := h.append (symbol (c := ')') (by decide)) (breaks_cons (by decide) [])
    exact (Reads.symbol (by decide) _).append (hclosed.reads rest hrest)

end Chunk

/-- A name that is not closed is no token, and nothing follows it. -/
theorem reads_torn (cs : List Char) :
    Reads (backtick :: Text.replaceAll backtick [backtick, backtick] cs) [.unknown] [] := by
  have hquoted : quotedFrom '\x60' _ = none := quotedFrom_torn cs
  refine .of_next (backtick :: Text.replaceAll backtick [backtick, backtick] cs) rfl ?_
  rw [List.append_nil]
  show Lexeme.next ('\x60' :: _) = _
  rw [Lexeme.next]
  · show (if '\x60' = '\'' then _ else _) = _
    rw [if_neg (by decide), if_pos (.inr rfl), hquoted]
    rfl
  · simp
  · simp

end Engine.Lexeme

end SlotQuery
