import Mathlib.Algebra.GroupWithZero.Nat
import SlotQuery.Proofs.Engine.Lexing
import SlotQuery.Proofs.Engine.Reading

/-!
# What a reader makes of tokens

What the engine reads depends on the tokens of a text; where they stand and how they are spelled
only goes along.  So a reader is described by the tokens that it finds ahead: `Gives r v Q` says
that whatever `r` comes to from the view `v`, be it a value with the view behind it or a failure,
has the property `Q`.  The rules for readers in a row (`Gives.bind`, `Gives.then`) and for lists
(`gives_several`, `gives_parenthesized`) then follow the way in which statements are put together.

An insert that names at least one column is read as such (`gives_insert`), and one whose columns are
not ended is not (`gives_insert_columns_none`).  The statements with which a
session marks and takes back its units and the query for the largest id are read as what they are
(`read_savepoint`, `read_rollbackTo`, `gives_selectMax`).
-/

namespace SlotQuery.Engine

namespace Statement

variable {α β : Type}

/-- What a reader can see ahead: the tokens, and how many parameters have been met. -/
structure View where
  tokens : List Token
  params : Nat

def Cursor.view (c : Cursor) : View :=
  ⟨c.ahead.map Lexeme.token, c.params⟩

/-- What a reader comes to: a value and the view behind it, or a failure. -/
def outcome (r : Reader α) (c : Cursor) : Option (α × View) :=
  match r.run c with
  | .ok (a, c') => some (a, c'.view)
  | .error _ => none

/-- What the reader comes to from the view has the property. -/
def Gives (r : Reader α) (v : View) (Q : Option (α × View) → Prop) : Prop :=
  ∀ c : Cursor, c.view = v → Q (outcome r c)

/-- A value with the property was read, up to the view. -/
def Took (R : α → Prop) (v : View) (o : Option (α × View)) : Prop :=
  ∃ a, R a ∧ o = some (a, v)

variable {r : Reader α} {f : α → Reader β} {v v₁ : View} {a : α} {R : α → Prop}
variable {Q : Option (β × View) → Prop} {ts : List Token} {n : Nat}

namespace Gives

theorem pure {b : β} (h : Q (some (b, v))) : Gives (Pure.pure b) v Q := by
  rintro c rfl
  exact h

theorem mono {Q' : Option (β × View) → Prop} {r : Reader β} (h : Gives r v Q')
    (hQ : ∀ o, Q' o → Q o) : Gives r v Q :=
  fun c hc => hQ _ (h c hc)

/-- Two readers in a row: what the second one gives depends on what the first has found. -/
theorem bind {Q₁ : Option (α × View) → Prop} (h : Gives r v Q₁)
    (hsome : ∀ a v₁, Q₁ (some (a, v₁)) → Gives (f a) v₁ Q) (hnone : Q₁ none → Q none) :
    Gives (r >>= f) v Q := by
  intro c hc
  have hfirst := h c hc
  unfold outcome at hfirst ⊢
  rw [StateT.run_bind]
  cases hrun : r.run c with
  | error l =>
      rw [hrun] at hfirst
      exact hnone hfirst
  | ok p =>
      rw [hrun] at hfirst
      exact hsome p.1 p.2.view hfirst p.2 rfl

/-- What follows a reader may rely on what that has read. -/
theorem took (h : Gives r v (Took R v₁)) (hf : ∀ a, R a → Gives (f a) v₁ Q) :
    Gives (r >>= f) v Q := by
  refine h.bind ?_ fun ⟨_, _, hnone⟩ => nomatch hnone
  rintro a v' ⟨a', ha, hsome⟩
  obtain ⟨rfl, rfl⟩ := Prod.mk.inj (Option.some.inj hsome)
  exact hf a ha

theorem «then» (h : Gives r v (· = some (a, v₁))) (hf : Gives (f a) v₁ Q) :
    Gives (r >>= f) v Q :=
  took (R := (· = a)) (h.mono fun _ ho => ⟨a, rfl, ho⟩) fun _ ha => ha ▸ hf

/-- A reader in front that fails. -/
theorem fail (h : Gives r v (· = none)) (hQ : Q none) : Gives (r >>= f) v Q :=
  h.bind (fun _ _ hsome => nomatch hsome) fun _ => hQ

end Gives

/-- A cursor in front of a token. -/
theorem exists_of_view {c : Cursor} {t : Token} (h : c.view = ⟨t :: ts, n⟩) :
    ∃ spelling offset ls, c = ⟨⟨t, spelling, offset⟩ :: ls, n⟩ ∧ ls.map Lexeme.token = ts := by
  obtain ⟨ahead, params⟩ := c
  obtain ⟨htokens, rfl⟩ := View.mk.inj h
  obtain ⟨l, ls, rfl, rfl, hls⟩ := List.map_eq_cons_iff.mp htokens
  exact ⟨l.spelling, l.offset, ls, rfl, hls⟩

/-- The next token is the keyword. -/
def wordIs (k : String) : List Token → Bool
  | .word w :: _ => sameName w k
  | _ => false

/-- The next token is the symbol. -/
def symbolIs (c : Char) : List Token → Bool
  | .symbol d :: _ => c = d
  | _ => false

/-- Whether a keyword stands ahead can be seen from the tokens. -/
theorem isKeyword_head? (k : String) (ls : List Lexeme) :
    isKeyword k ls.head? = wordIs k (ls.map Lexeme.token) := by
  rcases ls with _ | ⟨⟨token, spelling, offset⟩, ls⟩
  · rfl
  · cases token <;> rfl

/-- Whether a symbol stands ahead can be seen from the tokens. -/
theorem isSymbol_head? (c : Char) (ls : List Lexeme) :
    isSymbol c ls.head? = symbolIs c (ls.map Lexeme.token) := by
  rcases ls with _ | ⟨⟨token, spelling, offset⟩, ls⟩
  · rfl
  · cases token <;> rfl

/-- A keyword is taken if it stands ahead, and nothing is taken if it does not. -/
theorem gives_keyword? (k : String) (v : View) :
    Gives (keyword? k) v (· =
      if wordIs k v.tokens then some (true, ⟨v.tokens.tail, v.params⟩) else some (false, v)) := by
  rintro c rfl
  unfold outcome
  rw [run_keyword?, isKeyword_head?]
  show _ = if wordIs k (c.ahead.map Lexeme.token) then some (true, View.mk _ _) else _
  by_cases hk : wordIs k (c.ahead.map Lexeme.token)
  · rw [if_pos hk, if_pos hk]
    show some (true, View.mk (c.ahead.tail.map Lexeme.token) c.params) = _
    rw [List.map_tail]
    rfl
  · rw [if_neg hk, if_neg hk]

/-- A symbol is taken if it stands ahead, and nothing is taken if it does not. -/
theorem gives_symbol? (d : Char) (v : View) :
    Gives (symbol? d) v (· =
      if symbolIs d v.tokens then some (true, ⟨v.tokens.tail, v.params⟩) else some (false, v)) := by
  rintro c rfl
  have hrun : (symbol? d).run c =
      if isSymbol d c.ahead.head? then .ok (true, { c with ahead := c.ahead.tail })
      else .ok (false, c) := by
    show ((if isSymbol d c.ahead.head? then advance >>= fun _ => Pure.pure true
      else Pure.pure false : Reader Bool)).run c = _
    split <;> rfl
  unfold outcome
  rw [hrun, isSymbol_head?]
  show _ = if symbolIs d (c.ahead.map Lexeme.token) then some (true, View.mk _ _) else _
  by_cases hd : symbolIs d (c.ahead.map Lexeme.token)
  · rw [if_pos hd, if_pos hd]
    show some (true, View.mk (c.ahead.tail.map Lexeme.token) c.params) = _
    rw [List.map_tail]
    rfl
  · rw [if_neg hd, if_neg hd]

theorem gives_present {k w : String} (hw : sameName w k = true) :
    Gives (keyword? k) ⟨.word w :: ts, n⟩ (· = some (true, ⟨ts, n⟩)) :=
  (gives_keyword? k _).mono fun _ ho => ho.trans (if_pos hw)

theorem gives_absent {k : String} (hk : wordIs k v.tokens = false) :
    Gives (keyword? k) v (· = some (false, v)) :=
  (gives_keyword? k _).mono fun _ ho => ho.trans (by rw [hk, if_neg Bool.false_ne_true])

theorem gives_present_symbol (c : Char) :
    Gives (symbol? c) ⟨.symbol c :: ts, n⟩ (· = some (true, ⟨ts, n⟩)) :=
  (gives_symbol? c _).mono fun _ ho => ho.trans (if_pos (decide_eq_true rfl))

theorem gives_absent_symbol {c : Char} (hc : symbolIs c v.tokens = false) :
    Gives (symbol? c) v (· = some (false, v)) :=
  (gives_symbol? c _).mono fun _ ho => ho.trans (by rw [hc, if_neg Bool.false_ne_true])

section

variable {r r' : Reader β}

/-- A keyword that is next decides how reading goes on. -/
theorem Gives.on_keyword {k w : String} (hw : sameName w k = true) (h : Gives r ⟨ts, n⟩ Q) :
    Gives (keyword? k >>= fun found => if found then r else r') ⟨.word w :: ts, n⟩ Q :=
  (gives_present hw).then h

theorem Gives.unless_keyword {k : String} (hk : wordIs k v.tokens = false) (h : Gives r' v Q) :
    Gives (keyword? k >>= fun found => if found then r else r') v Q :=
  (gives_absent hk).then h

theorem Gives.on_symbol {c : Char} (h : Gives r ⟨ts, n⟩ Q) :
    Gives (symbol? c >>= fun found => if found then r else r') ⟨.symbol c :: ts, n⟩ Q :=
  (gives_present_symbol c).then h

theorem Gives.unless_symbol {c : Char} (hc : symbolIs c v.tokens = false) (h : Gives r' v Q) :
    Gives (symbol? c >>= fun found => if found then r else r') v Q :=
  (gives_absent_symbol hc).then h

end

theorem gives_keyword {k w : String} (hw : sameName w k = true) :
    Gives (keyword k) ⟨.word w :: ts, n⟩ (· = some ((), ⟨ts, n⟩)) :=
  (gives_present hw).then (Gives.pure rfl)

theorem gives_no_keyword {k : String} (hk : wordIs k v.tokens = false) :
    Gives (keyword k) v (· = none) :=
  (gives_absent hk).then fun _ _ => rfl

theorem gives_symbol (c : Char) :
    Gives (symbol c) ⟨.symbol c :: ts, n⟩ (· = some ((), ⟨ts, n⟩)) :=
  (gives_present_symbol c).then (Gives.pure rfl)

/-- A name that is asked for is taken, with its text. -/
theorem gives_name (w : String) :
    Gives name ⟨.name w :: ts, n⟩ (Took (fun m => m.text = w) ⟨ts, n⟩) := by
  intro c hc
  obtain ⟨spelling, offset, ls, rfl, rfl⟩ := exists_of_view hc
  exact ⟨⟨w, String.ofList spelling, offset⟩, rfl, rfl⟩

/-- A token that can be no name. -/
def NoName : Token → Prop
  | .unknown | .symbol _ => True
  | _ => False

/-- Without a name where one is asked for, reading fails. -/
theorem gives_no_name {t : Token} (ht : NoName t) : Gives name ⟨t :: ts, n⟩ (· = none) := by
  intro c hc
  obtain ⟨spelling, offset, ls, rfl, rfl⟩ := exists_of_view hc
  cases t with
  | unknown | symbol => rfl
  | _ => exact ht.elim

end Statement

/-- The value that a token stands for in a row, after so many parameters. -/
def Token.item? (n : Nat) : Token → Option Item
  | .param => some (.param n)
  | .text s => some (.cell (.text s))
  | .blob bytes => some (.cell (.blob bytes))
  | .word w => if sameName w "null" then some (.cell .null) else none
  | _ => none

/-- The number of parameters that a token takes. -/
def Token.params : Token → Nat
  | .param => 1
  | _ => 0

namespace Statement

/-- A token that stands for an item is read as that item. -/
theorem gives_item {t : Token} {i : Item} (h : t.item? n = some i) :
    Gives item ⟨t :: ts, n⟩ (· = some (i, ⟨ts, n + t.params⟩)) := by
  intro c hc
  obtain ⟨spelling, offset, ls, rfl, rfl⟩ := exists_of_view hc
  cases t with
  | param | text | blob =>
      cases h
      rfl
  | word w =>
      rw [Token.item?] at h
      split at h
      · next hnull =>
          cases h
          have hkeyword : isKeyword "null" (some ⟨.word w, spelling, offset⟩) = true := hnull
          obtain ⟨r, hrun⟩ : ∃ r : Reader Item, item.run ⟨⟨.word w, spelling, offset⟩ :: ls, n⟩ =
              (if isKeyword "null" (some ⟨.word w, spelling, offset⟩) then
                (do advance; return .cell .null : Reader Item) else r).run
                  ⟨⟨.word w, spelling, offset⟩ :: ls, n⟩ := ⟨_, rfl⟩
          rw [outcome, hrun, if_pos hkeyword]
          rfl
      · cases h
  | name | number | symbol | unknown => cases h

section

variable {X : Type} {p : Reader α} {tokens : X → List Token} {count : X → Nat}
variable {R : Nat → X → α → Prop}

/-- What was read for each of some elements, the first of them after so many parameters. -/
inductive Listed (R : Nat → X → α → Prop) (count : X → Nat) : Nat → List X → List α → Prop
  | nil (n : Nat) : Listed R count n [] []
  | cons {n : Nat} {x : X} {a : α} {xs : List X} {as : List α} (h : R n x a)
      (hmore : Listed R count (n + count x) xs as) : Listed R count n (x :: xs) (a :: as)

/-- Of each element, the reader takes the tokens and reads what it should. -/
def Each (p : Reader α) (tokens : X → List Token) (count : X → Nat) (R : Nat → X → α → Prop)
    (xs : List X) : Prop :=
  ∀ x ∈ xs, ∀ ts n, Gives p ⟨tokens x ++ ts, n⟩ (Took (R n x) ⟨ts, n + count x⟩)

/-- A list goes from comma to comma and ends where no comma follows. -/
theorem gives_commaSeparated {xs : List X} (hp : Each p tokens count R xs) (hne : xs ≠ [])
    {ts : List Token} (hend : symbolIs ',' ts = false) {fuel : Nat} (hfuel : xs.length ≤ fuel)
    (n : Nat) :
    Gives (commaSeparated p fuel) ⟨[Token.symbol ','].intercalate (xs.map tokens) ++ ts, n⟩
      (Took (Listed R count n xs) ⟨ts, n + (xs.map count).sum⟩) := by
  induction xs generalizing fuel n with
  | nil => exact absurd rfl hne
  | cons x xs ih =>
      obtain ⟨hx, hmore⟩ := List.forall_mem_cons.mp hp
      cases fuel with
      | zero => exact absurd hfuel (by simp)
      | succ fuel =>
          rw [List.length_cons, Nat.add_le_add_iff_right] at hfuel
          unfold commaSeparated
          cases xs with
          | nil =>
              rw [List.map_cons, List.map_nil, List.intercalate_singleton]
              refine (hx ts n).took fun a ha => ?_
              refine Gives.unless_symbol hend (Gives.pure ⟨[a], .cons ha (.nil _), ?_⟩)
              simp
          | cons y ys =>
              rw [List.map_cons, List.map_cons, List.intercalate_cons_cons, List.append_assoc,
                List.append_assoc]
              refine (hx _ n).took fun a ha => Gives.on_symbol ?_
              have hlist := ih hmore (List.cons_ne_nil y ys) hfuel (n + count x)
              refine hlist.took fun as has => Gives.pure ⟨a :: as, .cons ha has, ?_⟩
              simp [Nat.add_assoc]

/-- There are no more parts than tokens. -/
theorem length_intercalate_comma (ls : List (List Token)) :
    ls.length ≤ ([Token.symbol ','].intercalate ls).length + 1 := by
  induction ls with
  | nil => exact Nat.zero_le _
  | cons l ls ih =>
      cases ls with
      | nil => rw [List.length_singleton]; omega
      | cons l' ls =>
          rw [List.intercalate_cons_cons, List.length_append, List.length_append,
            List.length_singleton, List.length_cons]
          omega

/-- A list is read as long as the tokens reach. -/
theorem gives_several {xs : List X} (hp : Each p tokens count R xs) (hne : xs ≠ [])
    {ts : List Token} (hend : symbolIs ',' ts = false) (n : Nat) :
    Gives (several p) ⟨[Token.symbol ','].intercalate (xs.map tokens) ++ ts, n⟩
      (Took (Listed R count n xs) ⟨ts, n + (xs.map count).sum⟩) := by
  intro c hc
  refine gives_commaSeparated hp hne hend ?_ n c hc
  have htokens : c.ahead.length = _ :=
    (List.length_map _).symm.trans (congrArg _ (View.mk.inj hc).1)
  have hcommas := length_intercalate_comma (xs.map tokens)
  rw [List.length_append] at htokens
  rw [List.length_map] at hcommas
  omega

/-- A list in brackets is read up to the bracket that closes it. -/
theorem gives_parenthesized {xs : List X} (hp : Each p tokens count R xs) (hne : xs ≠ [])
    (ts : List Token) (n : Nat) :
    Gives (parenthesized p)
      ⟨.symbol '(' :: ([Token.symbol ','].intercalate (xs.map tokens) ++ .symbol ')' :: ts), n⟩
      (Took (Listed R count n xs) ⟨ts, n + (xs.map count).sum⟩) := by
  unfold parenthesized
  refine (gives_symbol '(').then ?_
  exact (gives_several hp hne rfl n).took fun as has =>
    (gives_symbol ')').then (Gives.pure ⟨as, has, rfl⟩)

end

/-- At the end of a statement nothing is left to read. -/
theorem gives_finish (n : Nat) : Gives finish ⟨[], n⟩ (· = some (none, ⟨[], n⟩)) := by
  rintro ⟨ahead, params⟩ hc
  obtain ⟨htokens, rfl⟩ := View.mk.inj hc
  obtain rfl := List.map_eq_nil_iff.mp htokens
  rfl

/-- A statement that takes all tokens of a text is what the text is read as. -/
theorem read_of_gives {text : List Char} {t : Token} {P : Statement → Prop}
    (hnul : '\x00' ∉ text) (htokens : (Lexeme.ofText text).map Lexeme.token = t :: ts)
    (ht : t ≠ .symbol ';')
    (h : Gives (statement text) ⟨t :: ts, 0⟩ (Took P ⟨[], n⟩)) :
    ∃ s, P s ∧ read text = .ok (some (s, n), []) := by
  have htext : text.takeWhile (· ≠ '\x00') = text :=
    List.takeWhile_eq_self_iff.mpr fun c hc => decide_eq_true fun h => hnul (h ▸ hc)
  obtain ⟨l, ls, hls, rfl, -⟩ := List.map_eq_cons_iff.mp htokens
  have hwhole : Gives (do let s ← statement text; return (s, ← finish))
      ⟨l.token :: ts, 0⟩ fun o => ∃ s, P s ∧ o = some ((s, none), ⟨[], n⟩) := by
    exact h.took fun s hs => (gives_finish n).then (Gives.pure ⟨s, hs, rfl⟩)
  obtain ⟨s, hs, hrun⟩ := hwhole ⟨l :: ls, 0⟩ (by rw [Cursor.view, ← hls, htokens])
  refine ⟨s, hs, ?_⟩
  unfold read
  dsimp only
  rw [htext, hls, List.dropWhile_cons, if_neg (by rwa [decide_eq_true_eq])]
  unfold outcome at hrun
  split at hrun
  · next a c' hok =>
      obtain ⟨rfl, hview⟩ := Prod.mk.inj (Option.some.inj hrun)
      dsimp only
      rw [hok]
      obtain rfl : c'.params = n := (View.mk.inj hview).2
      rfl
  · cases hrun

/-- A text is not read if the tokens up to the first NUL are no statement. -/
theorem read_of_gives_none {text : List Char} {t : Token}
    (htokens : (Lexeme.ofText (text.takeWhile (· ≠ '\x00'))).map Lexeme.token = t :: ts)
    (ht : t ≠ .symbol ';')
    (h : Gives (statement (text.takeWhile (· ≠ '\x00'))) ⟨t :: ts, 0⟩ (· = none)) :
    ∃ m, read text = .error m := by
  obtain ⟨l, ls, hls, rfl, -⟩ := List.map_eq_cons_iff.mp htokens
  have hwhole : Gives (do let s ← statement (text.takeWhile (· ≠ '\x00')); return (s, ← finish))
      ⟨l.token :: ts, 0⟩ (· = none) := h.fail rfl
  have hrun := hwhole ⟨l :: ls, 0⟩ (by rw [Cursor.view, ← hls, htokens])
  unfold read
  dsimp only
  rw [hls, List.dropWhile_cons, if_neg (by rwa [decide_eq_true_eq])]
  unfold outcome at hrun
  split at hrun
  · cases hrun
  · next l' herror =>
      dsimp only
      rw [herror]
      cases l' with
      | none => exact ⟨_, rfl⟩
      | some l' => exact ⟨_, rfl⟩

/-- The words that statements begin with. -/
def statementWords : List String :=
  ["create", "insert", "update", "delete", "select", "begin", "commit", "savepoint", "rollback"]

/-- No statement begins with any other word. -/
theorem gives_statement_none {sql : List Char} {w : String}
    (hw : ∀ k ∈ statementWords, sameName w k = false) :
    Gives (statement sql) ⟨.word w :: ts, n⟩ (· = none) := by
  have hword : ∀ k ∈ statementWords, wordIs k (.word w :: ts) = false := hw
  unfold statement
  refine Gives.unless_keyword (hword _ (by decide)) <| Gives.unless_keyword (hword _ (by decide)) <|
    Gives.unless_keyword (hword _ (by decide)) <| Gives.unless_keyword (hword _ (by decide)) <|
    Gives.unless_keyword (hword _ (by decide)) <| Gives.unless_keyword (hword _ (by decide)) <|
    Gives.unless_keyword (hword _ (by decide)) <| Gives.unless_keyword (hword _ (by decide)) ?_
  exact (gives_no_keyword (hword _ (by decide))).fail rfl

/-- The tokens that set a savepoint are read as that step. -/
theorem gives_savepoint {sql : List Char} (w : String) :
    Gives (statement sql) ⟨[.word "SAVEPOINT", .name w], 0⟩ (Took (· = .savepoint w) ⟨[], 0⟩) := by
  unfold statement
  refine Gives.unless_keyword rfl <| Gives.unless_keyword rfl <| Gives.unless_keyword rfl <|
    Gives.unless_keyword rfl <| Gives.unless_keyword rfl <| Gives.unless_keyword rfl <|
    Gives.unless_keyword rfl <| Gives.on_keyword rfl ?_
  exact (gives_name w).took fun m hm => Gives.pure ⟨_, congrArg savepoint hm, rfl⟩

/-- The tokens that go back to a savepoint are read as that step. -/
theorem gives_rollbackTo {sql : List Char} (w : String) :
    Gives (statement sql) ⟨[.word "ROLLBACK", .word "TO", .word "SAVEPOINT", .name w], 0⟩
      (Took (· = .rollbackTo w) ⟨[], 0⟩) := by
  unfold statement
  refine Gives.unless_keyword rfl <| Gives.unless_keyword rfl <| Gives.unless_keyword rfl <|
    Gives.unless_keyword rfl <| Gives.unless_keyword rfl <| Gives.unless_keyword rfl <|
    Gives.unless_keyword rfl <| Gives.unless_keyword rfl ?_
  refine (gives_keyword rfl).then (Gives.on_keyword rfl ?_)
  refine (gives_present rfl).then ?_
  exact (gives_name w).took fun m hm => Gives.pure ⟨_, congrArg rollbackTo hm, rfl⟩

theorem chunk_savepoint (w : String) :
    Lexeme.Chunk ("SAVEPOINT ".toList ++ (quoteName w).toList) [.word "SAVEPOINT", .name w] :=
  (Lexeme.Chunk.word 'S' "AVEPOINT".toList (by decide) (by decide)).spaced (.name w)

/-- The statement that sets a savepoint is read as that step. -/
theorem read_savepoint {name : String} (hname : Holdable name) :
    read ("SAVEPOINT " ++ quoteName name).toList = .ok (some (.savepoint name, 0), []) := by
  have hnul : '\x00' ∉ "SAVEPOINT ".toList ++ (quoteName name).toList :=
    List.not_mem_append (by decide) (nul_not_mem_quoteName hname)
  rw [String.toList_append]
  obtain ⟨s, rfl, hread⟩ := read_of_gives hnul (chunk_savepoint name).tokens_ofText nofun
    (gives_savepoint name)
  exact hread

/-- The statement that goes back to a savepoint is read as that step. -/
theorem read_rollbackTo {name : String} (hname : Holdable name) :
    read ("ROLLBACK TO SAVEPOINT " ++ quoteName name).toList =
      .ok (some (.rollbackTo name, 0), []) := by
  have hto := (Lexeme.Chunk.word 'T' ['O'] (by decide) (by decide)).spaced
    (chunk_savepoint name)
  have hback := (Lexeme.Chunk.word 'R' "OLLBACK".toList (by decide)
    (by decide)).spaced hto
  have hnul : '\x00' ∉ "ROLLBACK TO SAVEPOINT ".toList ++ (quoteName name).toList :=
    List.not_mem_append (by decide) (nul_not_mem_quoteName hname)
  rw [String.toList_append]
  obtain ⟨s, rfl, hread⟩ := read_of_gives hnul hback.tokens_ofText nofun (gives_rollbackTo name)
  exact hread

/-- The tokens of names between parentheses. -/
def nameTokens (columns : List String) : List Token :=
  .symbol '(' :: ([Token.symbol ','].intercalate (columns.map fun c => [.name c]) ++ [.symbol ')'])

/-- The tokens of a row between parentheses. -/
def rowTokens (row : List Token) : List Token :=
  .symbol '(' :: ([Token.symbol ','].intercalate (row.map fun t => [t]) ++ [.symbol ')'])

/-- The items of a row of tokens, after so many parameters. -/
def RowOf (n : Nat) (row : List Token) (items : List Item) : Prop :=
  Listed (fun n t i => t.item? n = some i) Token.params n row items

/-- The statement inserts rows of values that the tokens stand for. -/
def Inserts (table : String) (columns : List String) (rows : List (List Token))
    (s : Statement) : Prop :=
  ∃ (m : Name) (names : List Name) (items : List (List Item)),
    s = .insert m names items [] ∧ m.text = table ∧ names.map Name.text = columns ∧
      Listed RowOf (fun row => (row.map Token.params).sum) 0 rows items

/-- Columns are read under their own names. -/
theorem texts_of_listed {columns : List String} {names : List Name} {n : Nat}
    (h : Listed (fun _ c m => m.text = c) (fun _ => 0) n columns names) :
    names.map Name.text = columns := by
  induction h with
  | nil => rfl
  | cons hname _ ih => rw [List.map_cons, hname, ih]

variable {table : String} {columns : List String}

theorem each_name (columns : List String) :
    Each name (fun c => [.name c]) (fun _ => 0) (fun _ c m => m.text = c) columns :=
  fun c _ _ _ => gives_name c

/-- A token that stands for an item is read as one of a list. -/
theorem each_item {row : List Token} (h : ∀ t ∈ row, ∀ n, ∃ i, t.item? n = some i) :
    Each item (fun t => [t]) Token.params (fun n t i => t.item? n = some i) row := by
  intro t ht ts n
  obtain ⟨i, hi⟩ := h t ht n
  exact (gives_item hi).mono fun _ ho => ⟨i, hi, ho⟩

/-- A row of tokens is read as one of a list of rows. -/
theorem each_row {rows : List (List Token)} (hne : ∀ row ∈ rows, row ≠ [])
    (h : ∀ row ∈ rows, ∀ t ∈ row, ∀ n, ∃ i, t.item? n = some i) :
    Each (parenthesized item) rowTokens (fun row => (row.map Token.params).sum) RowOf rows := by
  intro row hrow ts n
  have hrowtokens := gives_parenthesized (each_item (h row hrow)) (hne row hrow) ts n
  rw [rowTokens, List.cons_append, List.append_assoc, List.singleton_append]
  exact hrowtokens

/-- An insert is read up to the rows of its values. -/
theorem gives_insert {sql : List Char} (hcolumns : columns ≠ []) {rows : List (List Token)}
    (hrows : rows ≠ []) (hne : ∀ row ∈ rows, row ≠ [])
    (h : ∀ row ∈ rows, ∀ t ∈ row, ∀ n, ∃ i, t.item? n = some i) :
    Gives (statement sql)
      ⟨.word "INSERT" :: .word "INTO" :: .name table :: (nameTokens columns ++
        .word "VALUES" :: [Token.symbol ','].intercalate (rows.map rowTokens)), 0⟩
      (Took (Inserts table columns rows)
        ⟨[], (rows.map fun row => (row.map Token.params).sum).sum⟩) := by
  unfold statement
  refine Gives.unless_keyword rfl (Gives.on_keyword rfl ?_)
  refine (gives_keyword rfl).then ?_
  refine (gives_name table).took fun m hm => ?_
  have hnames := gives_parenthesized (each_name columns) hcolumns
    (.word "VALUES" :: [Token.symbol ','].intercalate (rows.map rowTokens)) 0
  rw [nameTokens, List.cons_append, List.append_assoc, List.singleton_append]
  refine hnames.took fun names hlisted => (gives_keyword rfl).then ?_
  have hend : symbolIs ',' [] = false := rfl
  have hvalues := gives_several (each_row hne h) hrows hend (0 + (columns.map fun _ => 0).sum)
  rw [List.append_nil] at hvalues
  refine hvalues.took fun items hitems => ?_
  refine Gives.unless_keyword rfl ((Gives.pure (Q := (· = some ([], _))) rfl).then (Gives.pure ?_))
  have hzero : 0 + (columns.map fun _ => 0).sum = 0 := by
    rw [List.map_const', List.sum_replicate_nat, Nat.mul_zero]
  rw [hzero] at hitems ⊢
  rw [Nat.zero_add]
  exact ⟨_, ⟨m, names, items, rfl, hm, texts_of_listed hlisted, hitems⟩, rfl⟩

/-- A name that does not end, or none at all, is where reading a list of columns ends. -/
theorem gives_commaSeparated_none {t : Token} (ht : NoName t) (columns : List String)
    (fuel : Nat) :
    Gives (commaSeparated name fuel)
      ⟨(columns.flatMap fun c => [.name c, .symbol ',']) ++ t :: ts, n⟩ (· = none) := by
  induction columns generalizing fuel with
  | nil =>
      cases fuel with
      | zero =>
          rintro c -
          rfl
      | succ fuel => exact (gives_no_name ht).fail rfl
  | cons c columns ih =>
      cases fuel with
      | zero =>
          rintro c -
          rfl
      | succ fuel =>
          rw [List.flatMap_cons, List.append_assoc]
          exact (gives_name c).took fun m _ => Gives.on_symbol ((ih fuel).fail rfl)

/-- An insert is refused if its list of columns does not end. -/
theorem gives_insert_columns_none {sql : List Char} {t : Token} (ht : NoName t)
    (columns : List String) :
    Gives (statement sql)
      ⟨.word "INSERT" :: .word "INTO" :: .name table :: .symbol '(' ::
        ((columns.flatMap fun c => [.name c, .symbol ',']) ++ t :: ts), 0⟩ (· = none) := by
  unfold statement
  refine Gives.unless_keyword rfl (Gives.on_keyword rfl ?_)
  refine (gives_keyword rfl).then ?_
  refine (gives_name table).took fun m hm => ?_
  have hseveral : Gives (several name)
      ⟨(columns.flatMap fun c => [.name c, .symbol ',']) ++ t :: ts, 0⟩ (· = none) :=
    fun c hc => gives_commaSeparated_none ht columns _ c hc
  exact ((gives_symbol '(').then (hseveral.fail (Q := (· = none)) rfl)).fail rfl

/-- The statement asks for the largest value of a column. -/
def SelectsMax (table column : String) (s : Statement) : Prop :=
  ∃ (m k : Name) (label : String), s = .select [.max k label] m none none ∧ m.text = table ∧
    k.text = column

/-- A result without a label has its own text for one. -/
theorem gives_selected {sql : List Char} (column : String) :
    Gives (selected sql)
      ⟨.word "MAX" :: .symbol '(' :: .name column :: .symbol ')' :: .word "FROM" :: ts, n⟩
      (Took (fun what => ∃ (k : Name) (label : String), what = .max k label ∧ k.text = column)
        ⟨.word "FROM" :: ts, n⟩) := by
  intro c hc
  obtain ⟨s₁, o₁, ls₁, rfl, h₁⟩ := exists_of_view hc
  obtain ⟨l₂, ls₂, rfl, h₂, h₃⟩ := List.map_eq_cons_iff.mp h₁
  obtain ⟨l₃, ls₃, rfl, h₄, h₅⟩ := List.map_eq_cons_iff.mp h₃
  obtain ⟨l₄, ls₄, rfl, h₆, h₇⟩ := List.map_eq_cons_iff.mp h₅
  obtain ⟨l₅, ls₅, rfl, h₈, h₉⟩ := List.map_eq_cons_iff.mp h₇
  obtain ⟨t₂, s₂, o₂⟩ := l₂
  obtain ⟨t₃, s₃, o₃⟩ := l₃
  obtain ⟨t₄, s₄, o₄⟩ := l₄
  obtain ⟨t₅, s₅, o₅⟩ := l₅
  cases h₂; cases h₄; cases h₆; cases h₈; cases h₉
  exact ⟨_, ⟨_, _, rfl, rfl⟩, rfl⟩

/-- A list of one. -/
theorem gives_several_one (h : Gives r v (Took R v₁)) (hend : symbolIs ',' v₁.tokens = false) :
    Gives (several r) v (Took (fun as => ∃ a, as = [a] ∧ R a) v₁) := by
  have hlist : ∀ fuel, Gives (commaSeparated r (fuel + 1)) v
      (Took (fun as => ∃ a, as = [a] ∧ R a) v₁) := fun fuel =>
    h.took fun a ha => Gives.unless_symbol hend (Gives.pure ⟨[a], ⟨a, rfl, ha⟩, rfl⟩)
  exact fun c hc => hlist _ c hc

/-- A look ahead takes nothing. -/
theorem gives_peek (t : Token) :
    Gives peek ⟨t :: ts, n⟩
      (Took (fun l => ∃ spelling offset, l = some ⟨t, spelling, offset⟩) ⟨t :: ts, n⟩) := by
  intro c hc
  obtain ⟨spelling, offset, ls, rfl, rfl⟩ := exists_of_view hc
  exact ⟨_, ⟨spelling, offset, rfl⟩, rfl⟩

/-- The tokens of the query for a largest value are read as that query. -/
theorem gives_selectMax {sql : List Char} (table column : String) :
    Gives (statement sql)
      ⟨[.word "SELECT", .word "MAX", .symbol '(', .name column, .symbol ')', .word "FROM",
        .name table], 0⟩
      (Took (SelectsMax table column) ⟨[], 0⟩) := by
  unfold statement
  refine Gives.unless_keyword rfl <| Gives.unless_keyword rfl <| Gives.unless_keyword rfl <|
    Gives.unless_keyword rfl <| Gives.on_keyword rfl ?_
  refine (gives_peek _).took ?_
  rintro l ⟨spelling, offset, rfl⟩
  have hname : startsItem (some ⟨.word "MAX", spelling, offset⟩) = false := rfl
  rw [hname, if_neg Bool.false_ne_true]
  refine (gives_several_one (gives_selected column) rfl).took ?_
  rintro whats ⟨what, rfl, k, label, rfl, hk⟩
  refine (gives_keyword rfl).then ?_
  refine (gives_name table).took fun m hm => ?_
  have hcondition : Gives condition? ⟨[], 0⟩ (· = some (none, ⟨[], 0⟩)) :=
    Gives.unless_keyword rfl (Gives.pure rfl)
  have horder : Gives order? ⟨[], 0⟩ (· = some (none, ⟨[], 0⟩)) :=
    Gives.unless_keyword rfl (Gives.pure rfl)
  exact hcondition.then (horder.then (Gives.pure ⟨_, ⟨m, k, label, rfl, hm, hk⟩, rfl⟩))

end Statement

end SlotQuery.Engine
