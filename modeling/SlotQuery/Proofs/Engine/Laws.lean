import SlotQuery.Batch.Keyword
import SlotQuery.Batch.Staged
import SlotQuery.Engine.Basic
import SlotQuery.Proofs.Engine.Ledger
import SlotQuery.Proofs.Outcome

/-!
# What is asked of an engine

An engine is a parameter, and what its documentation promises of it are properties: a theorem about
embedded connections takes those that it needs.

* `Transactional`: it keeps transactions as a ledger does, and knows the statements that take the
  steps.  Any step may be refused, a commit too, and then nothing has changed; only going back is
  never refused where there is something to go back to.
* `Granting`: it grants every step that can be taken.
* `Careful`: a statement that fails changes nothing.
* `Returning`: a statement that brings back rows, but none at all, has changed none.
* `Counting`: the counter keeps the count of the newest statement that inserted, updated or deleted
  rows.
* `Fileless`: it does not load files itself.

The rest follows for every such engine.  Texts may hold several statements; `NoControl` is about the
first of them and `ControlFree` about all.
-/

namespace SlotQuery.Engine

/-- The engine can hold the name: no NUL ends it early. -/
def Holdable (name : String) : Prop :=
  '\x00' ∉ name.toList

instance (name : String) : Decidable (Holdable name) :=
  inferInstanceAs (Decidable (¬ _))

/-- The savepoint of the step has a name that the engine can hold. -/
def Step.Holdable : Step → Prop
  | savepoint name | rollbackTo name => Engine.Holdable name
  | begin | commit | rollback => True

/-- The step goes back to what was kept. -/
def Step.GoesBack : Step → Prop
  | rollback | rollbackTo _ => True
  | begin | commit | savepoint _ => False

/-- The words that statements begin with which control a transaction. -/
def controlWords : List String :=
  ["begin", "commit", "end", "rollback", "savepoint", "release"]

/-- What may stand in front of the first word of a text: blanks, comments and empty statements. -/
def mayPrecede : List Char :=
  [' ', '\t', '\n', '\x0c', '\r', '\uFEFF', '-', '/', ';']

/-- The letters at the start of a text, as small ones. -/
def leadingWord (sql : String) : String :=
  String.ofList ((sql.toList.takeWhile Char.isAlpha).map Char.toLower)

variable (E : Engine)

/-- Whether a text holds a statement does not depend on the database. -/
def Uniform : Prop :=
  ∀ db db' sql rest, E.compileFirst db sql = .ok (none, rest) →
    E.compileFirst db' sql = .ok (none, rest)

/-- The engine keeps transactions as a ledger does. -/
structure Transactional : Prop where
  uniform : E.Uniform
  /-- Every step has a statement, whatever the name of the savepoint. -/
  spelled : ∀ db (step : Step), step.Holdable →
    ∃ p, E.compile db step.text = .ok (some p) ∧ E.control? p = some (.step step)
  /-- A statement that controls transactions begins with one of a few words. -/
  word : ∀ {db sql p rest}, E.compileFirst db sql = .ok (some p, rest) → E.control? p ≠ none →
    (∀ c ∈ sql.toList.head?, c ∉ mayPrecede) → leadingWord sql ∈ controlWords
  /-- A statement that does not control transactions leaves the running one alone. -/
  aside : ∀ {db db' p params rows}, E.control? p = none →
    E.execute db p params = (.ok rows, db') → (E.ledger db').transaction = (E.ledger db).transaction
  taken : ∀ {db db' p params rows step}, E.control? p = some (.step step) →
    E.execute db p params = (.ok rows, db') →
      rows = none ∧ (E.ledger db).after step = some (E.ledger db')
  /-- A step that is refused changes nothing. -/
  refused : ∀ {db db' p params e step}, E.control? p = some (.step step) →
    E.execute db p params = (.error e, db') → E.ledger db' = E.ledger db
  /-- Going back is granted, where there is something to go back to. -/
  back : ∀ {db p params step}, E.control? p = some (.step step) → step.GoesBack →
    (E.ledger db).after step ≠ none → ∃ rows, (E.execute db p params).1 = .ok rows
  /-- An open database answers. -/
  alive : ∀ db, (E.probe db).1 = true ∧ E.ledger (E.probe db).2 = E.ledger db

/-- The engine grants every step that can be taken. -/
def Granting : Prop :=
  ∀ {db p params step}, E.control? p = some (.step step) → (E.ledger db).after step ≠ none →
    ∃ rows, (E.execute db p params).1 = .ok rows

/-- A statement that fails changes nothing.  This is how an engine resolves conflicts unless it is
told otherwise. -/
def Careful : Prop :=
  ∀ {db db' p params e}, E.execute db p params = (.error e, db') → E.ledger db' = E.ledger db

/-- A statement that brings back rows brings back one for each that it changes.  So one that brings
back none at all has changed nothing. -/
def Returning : Prop :=
  ∀ {db db' p params set}, E.execute db p params = (.ok (some set), db') → set.rows = [] →
    (E.ledger db').contents = (E.ledger db).contents

/-- The counter shows how many rows the newest statement has changed that is one to change rows.  It
may show anything after such a statement has failed. -/
structure Counting : Prop where
  done : ∀ {db db' p params rows}, E.execute db p params = (.ok rows, db') →
    E.changes db' = if E.writes p then E.changed db p params else E.changes db
  failed : ∀ {db db' p params e}, E.execute db p params = (.error e, db') → E.writes p = false →
    E.changes db' = E.changes db
  /-- What is taken for an insert by its first word, and can be compiled, is one to change rows. -/
  known : ∀ {db sql p}, Batch.isInsert sql = true → E.compile db sql = .ok (some p) →
    E.writes p = true

/-- The engine does not know the statement that asks for a file to be loaded. -/
def Fileless : Prop :=
  ∀ db (file : Batch.Load) p, E.compile db file.statement ≠ .ok (some p)

/-- Whatever the first statement of the text is, it does not control transactions. -/
def NoControl (sql : String) : Prop :=
  ∀ db p rest, E.compileFirst db sql = .ok (some p, rest) → E.control? p = none

/-- The text is what is left of another one behind some of its statements. -/
inductive Leaves : String → String → Prop
  | whole (sql : String) : Leaves sql sql
  | later {db : E.Database} {sql rest tail : String} {p : E.Program}
      (h : E.compileFirst db sql = .ok (some p, rest)) (ht : Leaves rest tail) : Leaves sql tail

/-- No statement of the text controls transactions. -/
def ControlFree (sql : String) : Prop :=
  ∀ tail, E.Leaves sql tail → E.NoControl tail

variable {E} {db db' : E.Database} {sql : String} {p : E.Program} {params : List Cell}

/-- What is compiled is what was compiled first, and nothing follows it. -/
theorem exists_of_compile (h : E.compile db sql = .ok (some p)) :
    ∃ rest, E.compileFirst db sql = .ok (some p, rest) ∧
      (sql = "" ∨ ∃ after, E.compileFirst db rest = .ok (none, after)) := by
  obtain ⟨⟨first, rest⟩, hfirst, htail⟩ := exists_of_bind_eq_ok h
  obtain ⟨u, hrefused, hpure⟩ := exists_of_bind_eq_ok htail
  cases hpure
  refine ⟨rest, hfirst, ?_⟩
  cases hlength : sql.length with
  | zero => exact .inl (String.length_eq_zero_iff.mp hlength)
  | succ fuel =>
      rw [hlength, refuseTail] at hrefused
      obtain ⟨⟨second, after⟩, hsecond, hthrow⟩ := exists_of_bind_eq_ok hrefused
      cases second with
      | none => exact .inr ⟨after, hsecond⟩
      | some _ =>
          obtain ⟨-, -, herror⟩ := exists_of_bind_eq_ok hthrow
          cases herror

/-- Running a text that holds one statement is running this statement. -/
theorem runAll_of_compile (hE : E.Uniform) (h : E.compile db sql = .ok (some p)) :
    E.runAll sql db = ((E.execute db p []).1.map fun _ => (), (E.execute db p []).2) := by
  obtain ⟨rest, hfirst, hrest⟩ := exists_of_compile h
  rw [runAll, runFrom, hfirst]
  dsimp only
  rcases E.execute db p [] with ⟨error | rows, db'⟩
  · rfl
  · rcases hrest with rfl | ⟨after, hnone⟩
    · rfl
    · cases hlength : sql.length with
      | zero => rfl
      | succ fuel =>
          dsimp only
          rw [runFrom, hE _ _ _ _ hnone]
          rfl

/-- The one statement of a compiled text does not control transactions either. -/
theorem NoControl.of_compile (hsql : E.NoControl sql) (h : E.compile db sql = .ok (some p)) :
    E.control? p = none := by
  obtain ⟨rest, hfirst, -⟩ := exists_of_compile h
  exact hsql _ _ _ hfirst

theorem ControlFree.first (h : E.ControlFree sql) : E.NoControl sql :=
  h sql (.whole sql)

theorem ControlFree.rest {rest : String} (h : E.ControlFree sql)
    (hfirst : E.compileFirst db sql = .ok (some p, rest)) : E.ControlFree rest :=
  fun tail htail => h tail (.later hfirst htail)

/-- What is kept by each statement that does not control transactions is kept by a script of
them. -/
theorem runAll_preserves {P : E.Database → Prop} (hsql : E.ControlFree sql)
    (hstep : ∀ db p, E.control? p = none → P db → P (E.execute db p []).2) (h : P db) :
    P (E.runAll sql db).2 := by
  unfold runAll
  generalize sql.length + 1 = fuel
  induction fuel generalizing sql db with
  | zero => exact h
  | succ fuel ih =>
      rw [runFrom]
      cases hfirst : E.compileFirst db sql with
      | error e => exact h
      | ok parts =>
          obtain ⟨_ | p, rest⟩ := parts
          · exact h
          · have hnext := hstep db p (hsql.first _ _ _ hfirst) h
            dsimp only
            rcases hrun : E.execute db p [] with ⟨error | rows, db'⟩
            · rw [hrun] at hnext
              exact hnext
            · rw [hrun] at hnext
              exact ih (hsql.rest hfirst) hnext

namespace Transactional

variable (hE : E.Transactional)

include hE

/-- A statement that does not control transactions leaves the running one alone, also where it
fails. -/
theorem transaction_execute (db : E.Database) (hcareful : E.Careful) (hp : E.control? p = none)
    (params : List Cell) :
    (E.ledger (E.execute db p params).2).transaction = (E.ledger db).transaction := by
  rcases hrun : E.execute db p params with ⟨error | rows, db'⟩
  · exact congrArg Ledger.transaction (hcareful hrun)
  · exact hE.aside hp hrun

/-- What becomes of a step. -/
theorem stepped (db : E.Database) {step : Step} (hp : E.control? p = some (.step step))
    (params : List Cell) :
    (E.ledger db).Stepped step (E.execute db p params).1 (E.ledger (E.execute db p params).2) := by
  rcases hrun : E.execute db p params with ⟨error | rows, db'⟩
  · exact hE.refused hp hrun
  · exact (hE.taken hp hrun).2

/-- A text whose first word is another one does not control transactions. -/
theorem noControl_of_word (hfirst : ∀ c ∈ sql.toList.head?, c ∉ mayPrecede)
    (hword : leadingWord sql ∉ controlWords) : E.NoControl sql := by
  intro db p rest hcompile
  by_contra hcontrol
  exact hword (hE.word hcompile hcontrol hfirst)

/-- The first letter can tell. -/
theorem noControl_of_letter {c : Char} {rest : List Char} (hsql : sql.toList = c :: rest)
    (hc : c.isAlpha = true) (hother : ∀ k ∈ controlWords, k.toList.head? ≠ some c.toLower) :
    E.NoControl sql := by
  refine hE.noControl_of_word (fun d hd => ?_) fun hmem => hother _ hmem ?_
  · rw [hsql, List.head?_cons, Option.mem_some_iff] at hd
    subst hd
    intro hmem
    simp only [mayPrecede, List.mem_cons, List.not_mem_nil, or_false] at hmem
    rcases hmem with rfl | rfl | rfl | rfl | rfl | rfl | rfl | rfl | rfl <;> cases hc
  · rw [leadingWord, String.toList_ofList, hsql, List.takeWhile_cons, if_pos hc]
    rfl

end Transactional

end SlotQuery.Engine
