import SlotQuery.Proofs.Engine.Laws
import SlotQuery.Proofs.Template.Front
import SlotQuery.Session.Insertion

/-!
# Batches never control a transaction

A batch of rows is sent as an `INSERT` statement, and after a load the largest id is asked for
with a `SELECT`.  Both go through the session's markers, which may be any two tokens and may
stand in those very words.  Whatever comes of them then is still no control of a transaction
(`noControl_statement`, `noControl_maxIdStatement`).
-/

namespace SlotQuery.Session

open Engine (controlWords leadingWord mayPrecede)
open Template (Begins IsMark)

variable {E : Engine} (hE : E.Transactional)

include hE

/-- A text that starts with a mark is no control of transactions. -/
theorem noControl_of_mark {c : Char} (hc : IsMark c) {sql : String} {rest : List Char}
    (hsql : sql.toList = c :: rest) : E.NoControl sql := by
  have hsign : c.isAlpha = false → c ∉ mayPrecede → E.NoControl sql := by
    intro hletter hfirst
    refine hE.noControl_of_word (fun d hd => ?_) ?_
    · rw [hsql, List.head?_cons] at hd
      exact Option.some.inj hd ▸ hfirst
    · rw [leadingWord, hsql, List.takeWhile_cons, hletter, if_neg Bool.false_ne_true]
      decide
  rcases hc with rfl | rfl | rfl
  · exact hsign (by decide) (by decide)
  · exact hsign (by decide) (by decide)
  · exact hE.noControl_of_letter hsql (by decide) (by decide)

/-- A text that begins with another letter than the control words controls no transaction. -/
theorem noControl_of_begins_letter {c : Char} (hc : c.isAlpha = true)
    (hother : ∀ k ∈ controlWords, k.toList.head? ≠ some c.toLower) {sql : String}
    (h : Begins [c] sql.toList) : E.NoControl sql := by
  have hletter : ∀ rest, sql.toList = c :: rest → E.NoControl sql := fun rest hsql =>
    hE.noControl_of_letter hsql hc hother
  rcases h with ⟨rest, hrest⟩ | ⟨part, d, rest, hpart, hd, hsql⟩
  · exact hletter rest hrest.symm
  · cases part with
    | nil => exact noControl_of_mark hE hd hsql
    | cons d' part =>
        obtain ⟨rfl, -⟩ := List.cons_prefix_cons.mp hpart
        exact hletter _ hsql

/-- The first letter of a template can tell that its statement does not control transactions. -/
theorem noControl_prepare_of_letter {c : Char} (hc : c.isAlpha = true)
    (hother : ∀ k ∈ controlWords, k.toList.head? ≠ some c.toLower)
    (hfront : Template.IsFront [c]) {s : Settings} {sql : String} (hsql : [c] <+: sql.toList)
    {p : Template.Prepared} (hp : Template.prepare s sql = .ok p) : E.NoControl p.sql :=
  noControl_of_begins_letter hE hc hother (Template.begins_prepare hfront hsql hp)

/-- Behind an `s`, the next character can tell: only one of the words begins with that letter. -/
theorem noControl_of_letters {d : Char} (hd : d.toLower ≠ 'a') {sql : String} {rest : List Char}
    (hsql : sql.toList = 'S' :: d :: rest) : E.NoControl sql := by
  refine hE.noControl_of_word (fun c hc => ?_) fun hword => ?_
  · rw [hsql, List.head?_cons] at hc
    exact Option.some.inj hc ▸ by decide
  · have hletters : (leadingWord sql).toList = 's' :: ((d :: rest).takeWhile Char.isAlpha).map
        Char.toLower := by
      rw [leadingWord, String.toList_ofList, hsql, List.takeWhile_cons, if_pos (by decide)]
      rfl
    have hsecond : ∀ k ∈ controlWords, k.toList.head? = some 's' → k.toList[1]? = some 'a' := by
      decide
    have hnext := hsecond _ hword (by rw [hletters]; rfl)
    rw [hletters, List.takeWhile_cons] at hnext
    split at hnext
    · exact hd (Option.some.inj hnext)
    · cases hnext

/-- The front of a query is none of the control words. -/
theorem noControl_of_begins_select {sql : String} (h : Begins ['S', 'E'] sql.toList) :
    E.NoControl sql := by
  rcases h with ⟨rest, hrest⟩ | ⟨part, c, rest, hpart, hc, hsql⟩
  · exact noControl_of_letters hE (d := 'E') (by decide) hrest.symm
  · rcases part with _ | ⟨d, _ | ⟨d', part⟩⟩
    · exact noControl_of_mark hE hc hsql
    · obtain ⟨rfl, -⟩ := List.cons_prefix_cons.mp hpart
      have hother : c.toLower ≠ 'a' := by
        rcases hc with rfl | rfl | rfl <;> decide
      exact noControl_of_letters hE hother hsql
    · obtain ⟨rfl, htail⟩ := List.cons_prefix_cons.mp hpart
      obtain ⟨rfl, -⟩ := List.cons_prefix_cons.mp htail
      exact noControl_of_letters hE (d := 'E') (by decide) hsql

/-- The statement for a batch does not control transactions. -/
theorem noControl_statement {s : Settings} {table : String} {columns : List String}
    {rows : List (List Cell)} {sql : String} (h : Batch.statement s table columns rows = .ok sql)
    {p : Template.Prepared} (hp : Template.prepare s sql = .ok p) : E.NoControl p.sql := by
  have hfront : ['I'] <+: sql.toList := by
    unfold Batch.statement at h
    cases hgroups : rows.mapM (Batch.group s) with
    | error e =>
        rw [hgroups] at h
        cases h
    | ok groups =>
        rw [hgroups] at h
        cases h
        simp only [String.toList_append, List.append_assoc]
        have hword : ['I'] <+: "INSERT INTO ".toList := by decide
        exact hword.trans (List.prefix_append _ _)
  exact noControl_prepare_of_letter hE (by decide) (by decide) (by decide) hfront hp

/-- The query for the largest id does not control transactions. -/
theorem noControl_maxIdStatement {s : Settings} {table : String} {p : Template.Prepared}
    (hp : Template.prepare s (maxIdStatement table) = .ok p) : E.NoControl p.sql := by
  have hfront : ['S', 'E'] <+: (maxIdStatement table).toList := by
    unfold maxIdStatement
    simp only [String.toList_append, List.append_assoc]
    have hword : ['S', 'E'] <+: "SELECT MAX(".toList := by decide
    exact hword.trans (List.prefix_append _ _)
  exact noControl_of_begins_select hE (Template.begins_prepare (by decide) hfront hp)

end SlotQuery.Session
