import Mathlib.Data.List.TakeWhile
import SlotQuery.Engine.Ledger

/-!
# Going back in a ledger

Going back to a savepoint looks for the newest one of the name.  `Ledger.rollbackTo_below` says that
it is found under savepoints of other names, whatever they are, and `Ledger.rollbackTo_newer` that a
name which stands in the upper part of the stack is found in that part.

What has become of a step is told by the answer: it was taken, or refused and nothing has changed
(`Ledger.Stepped`).  The contents to which the running transaction goes back are its cover
(`Ledger.cover?`).
-/

namespace SlotQuery.Engine

theorem sameName_iff {a b : String} :
    sameName a b = true ↔ a.toList.map Char.toLower = b.toList.map Char.toLower := by
  rw [sameName, decide_eq_true_eq]

theorem sameName_refl (a : String) : sameName a a = true :=
  sameName_iff.mpr rfl

/-- The step ends the transaction. -/
def Step.Ends : Step → Prop
  | commit | rollback => True
  | begin | savepoint _ | rollbackTo _ => False

namespace Ledger

variable {Contents : Type} {l l' : Ledger Contents}

/-- A transaction begins where none runs, and starts from the contents. -/
theorem begin_eq_some_iff :
    l.begin = some l' ↔ l.transaction = none ∧ l' = ⟨l.contents, some ⟨l.contents, []⟩⟩ := by
  unfold begin
  cases l.transaction <;> simp [eq_comm]

/-- A commit ends the transaction that runs, and keeps the contents. -/
theorem commit_eq_some_iff :
    l.commit = some l' ↔ l.transaction ≠ none ∧ l' = ⟨l.contents, none⟩ := by
  unfold commit
  cases l.transaction <;> simp [eq_comm]

/-- Rolling back leaves what was committed. -/
theorem rollback_eq_some_iff :
    l.rollback = some l' ↔ l.transaction ≠ none ∧ l' = ⟨l.committed, none⟩ := by
  unfold rollback committed
  cases l.transaction <;> simp [eq_comm]

/-- Going back to a savepoint of the stack that is the newest of its name. -/
theorem rollbackTo_eq {name : String} {t : Transaction Contents} {p : Savepoint Contents}
    {older : List (Savepoint Contents)} (ht : l.transaction = some t)
    (hfound : (t.savepoints.dropWhile fun p => !sameName p.name name) = p :: older) :
    l.rollbackTo name = some ⟨p.contents, some { t with savepoints := p :: older }⟩ := by
  unfold rollbackTo
  rw [ht]
  dsimp only
  rw [hfound]

/-- Savepoints of other names do not stand in the way. -/
theorem rollbackTo_below {base : Contents} {newer older : List (Savepoint Contents)}
    {p : Savepoint Contents} (ht : l.transaction = some ⟨base, newer ++ p :: older⟩)
    (hnewer : ∀ q ∈ newer, sameName q.name p.name = false) :
    l.rollbackTo p.name = some ⟨p.contents, some ⟨base, p :: older⟩⟩ := by
  refine rollbackTo_eq ht ?_
  have hdropped : ∀ q ∈ newer, (!sameName q.name p.name) = true := by
    intro q hq
    rw [hnewer q hq]
    rfl
  rw [List.dropWhile_append_of_pos hdropped, List.dropWhile_cons, sameName_refl]
  rfl

/-- A name that stands in the upper part of the stack is found there. -/
theorem rollbackTo_newer {base : Contents} {newer older : List (Savepoint Contents)}
    {name : String} (ht : l.transaction = some ⟨base, newer ++ older⟩)
    (hname : ∃ q ∈ newer, sameName q.name name = true) :
    ∃ contents, l.rollbackTo name = some ⟨contents,
      some ⟨base, (newer.dropWhile fun q => !sameName q.name name) ++ older⟩⟩ := by
  cases hfound : newer.dropWhile fun q => !sameName q.name name with
  | nil =>
      obtain ⟨q, hq, hsame⟩ := hname
      have hother := List.dropWhile_eq_nil_iff.mp hfound q hq
      rw [hsame] at hother
      cases hother
  | cons p rest =>
      refine ⟨p.contents, rollbackTo_eq ht ?_⟩
      dsimp only
      rw [List.dropWhile_append, hfound]
      rfl

/-- Setting a savepoint while a transaction runs. -/
theorem savepoint_eq {t : Transaction Contents} (ht : l.transaction = some t) (name : String) :
    l.savepoint name =
      { l with
        transaction := some { t with savepoints := ⟨name, l.contents⟩ :: t.savepoints } } := by
  unfold savepoint
  rw [ht]
  rfl

/-- What a request to take a step has come to, by its answer: the step was taken, or it was refused
and nothing has changed. -/
def Stepped {ε α : Type} (l : Ledger Contents) (step : Step) : Except ε α → Ledger Contents → Prop
  | .ok _, l' => l.after step = some l'
  | .error _, l' => l' = l

/-- A step that cannot be taken is refused. -/
theorem Stepped.of_none {ε α : Type} {step : Step} {answer : Except ε α}
    (h : l.Stepped step answer l') (hnone : l.after step = none) :
    (∃ e, answer = .error e) ∧ l' = l := by
  cases answer with
  | error e => exact ⟨⟨e, rfl⟩, h⟩
  | ok a =>
      have htaken : l.after step = some l' := h
      rw [hnone] at htaken
      cases htaken

/-- A step that ends the transaction can be taken exactly while one runs. -/
theorem after_of_ends {step : Step} (h : step.Ends) :
    (l.after step = none ↔ l.transaction = none) ∧
      ∀ l', l.after step = some l' → l'.transaction = none := by
  cases step with
  | commit =>
      refine ⟨?_, fun l' hafter => ?_⟩
      · unfold after commit
        cases l.transaction <;> simp
      · rw [(commit_eq_some_iff.mp hafter).2]
  | rollback =>
      refine ⟨?_, fun l' hafter => ?_⟩
      · unfold after rollback
        cases l.transaction <;> simp
      · rw [(rollback_eq_some_iff.mp hafter).2]
  | begin | savepoint | rollbackTo => exact h.elim

/-- The contents to which the transaction goes back, if one runs. -/
def cover? (l : Ledger Contents) : Option Contents :=
  l.transaction.map Transaction.base

theorem committed_eq (l : Ledger Contents) : l.committed = l.cover?.getD l.contents := by
  unfold committed cover?
  cases l.transaction <;> rfl

/-- A savepoint begins a transaction where none runs. -/
theorem cover?_savepoint (l : Ledger Contents) (name : String) :
    (l.savepoint name).cover? = some l.committed := by
  unfold savepoint cover? committed
  cases l.transaction <;> rfl

/-- Going back to a savepoint, whether it is there or not, does not change the cover. -/
theorem Stepped.cover?_eq {ε α : Type} {name : String} {answer : Except ε α}
    (h : l.Stepped (.rollbackTo name) answer l') : l'.cover? = l.cover? := by
  cases answer with
  | error e => rw [show l' = l from h]
  | ok a =>
      have htaken : l.rollbackTo name = some l' := h
      unfold rollbackTo at htaken
      split at htaken
      · cases htaken
      · next t ht =>
          split at htaken
          · cases htaken
          · rw [← Option.some.inj htaken, cover?, cover?, ht]
            rfl

end Ledger

end SlotQuery.Engine
