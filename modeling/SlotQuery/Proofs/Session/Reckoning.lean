import SlotQuery.Proofs.Batch.Keyword
import SlotQuery.Proofs.Session.Loading
import SlotQuery.Proofs.Session.Requests

/-!
# Where ids are reckoned

Only a statement that inserts makes a session or its embedded connection reckon ids.  So what steers
the connection does not leave the 64 bits (`Embedded.overflowed_respond`), and neither does the load
of a staged file: a unit in which a file is loaded stays in range if it starts in range
(`State.InRange.unit_of_load`), be it kept or not.
-/

namespace SlotQuery

open Act Session

variable {E : Engine} {c : ConnId}

namespace Embedded

/-- Preparing a statement does no arithmetic on ids. -/
theorem overflowed_prepare (e : Embedded E) (sql : String) :
    (e.prepare sql).2.overflowed = e.overflowed := by
  unfold prepare
  split
  · rfl
  · split <;> rfl

theorem overflowed_fetch (e : Embedded E) : e.fetch.2.overflowed = e.overflowed := by
  unfold fetch
  split
  · rfl
  · split <;> rfl

theorem overflowed_record (e : Embedded E) (affected : Nat) (lastId : Int64) :
    (e.record false affected lastId).overflowed = e.overflowed := by
  unfold record
  rw [if_neg fun h => Bool.false_ne_true h.1]

/-- A statement that does not insert reckons no ids. -/
theorem overflowed_execute {e : Embedded E}
    (h : ∀ o, e.statement = some o → o.inserts = false) :
    e.execute.2.overflowed = e.overflowed := by
  unfold execute
  split
  · next db o _ hhand =>
      split
      · rfl
      · split
        · rfl
        · dsimp only
          rw [h o hhand, overflowed_record]
  · rfl

theorem overflowed_query {sql : String} (hsql : Batch.isInsert sql = false) (e : Embedded E) :
    (e.query sql).2.overflowed = e.overflowed := by
  have hprepared := overflowed_prepare e sql
  have hhand : (e.prepare sql).1 = .ok () →
      ∀ o, (e.prepare sql).2.statement = some o → o.inserts = false := by
    intro hok o ho
    unfold prepare at hok ho
    split at hok
    · cases hok
    · next db hstore =>
        rw [hstore] at ho
        dsimp only at ho
        split at hok
        · cases hok
        · next hcompile =>
            rw [hcompile] at ho
            obtain rfl := Option.some.inj ho
            exact hsql
  unfold query
  rcases hprepare : e.prepare sql with ⟨error | _, e₁⟩
  · rw [hprepare] at hprepared
    exact hprepared
  · rw [hprepare] at hprepared hhand
    have hexecuted := overflowed_execute (hhand rfl)
    dsimp only at hprepared hexecuted ⊢
    rcases hexecute : e₁.execute with ⟨error | _, e₂⟩
    · rw [hexecute] at hexecuted
      exact hexecuted.trans hprepared
    · rw [hexecute] at hexecuted
      exact (overflowed_fetch e₂).trans (hexecuted.trans hprepared)

theorem overflowed_runAll (e : Embedded E) (sql : String) :
    (e.runAll sql).2.overflowed = e.overflowed := by
  unfold runAll
  split <;> rfl

theorem overflowed_setAutocommit (e : Embedded E) (on : Bool) :
    (e.setAutocommit on).2.overflowed = e.overflowed := by
  have htaken := overflowed_runAll e Engine.Step.commit.text
  unfold setAutocommit
  split
  · split
    · rfl
    · split
      · rcases htake : e.take .commit with ⟨error | _, e'⟩
        · exact (congrArg (fun r => r.2.overflowed) htake).symm.trans htaken
        · exact (congrArg (fun r => r.2.overflowed) htake).symm.trans htaken
      · rfl
  · rfl

/-- What steers a connection reckons no ids. -/
theorem overflowed_respond {r : Request} (hr : r.Steers) (e : Embedded E) :
    (e.respond r).2.overflowed = e.overflowed := by
  cases r with
  | query sql =>
      refine overflowed_query ?_ e
      obtain ⟨name, rfl | rfl⟩ := hr
      · have hword : "SAVEPOINT ".toList = 'S' :: 'A' :: "VEPOINT ".toList := by decide
        exact Batch.isInsert_of_word hword (by decide) (by decide) (by decide) _
      · have hword : "ROLLBACK TO SAVEPOINT ".toList =
            'R' :: 'O' :: "LLBACK TO SAVEPOINT ".toList := by decide +kernel
        exact Batch.isInsert_of_word hword (by decide) (by decide) (by decide) _
  | begin | commit | rollback => exact overflowed_runAll e _
  | autocommit on => exact overflowed_setAutocommit e on
  | isAlive =>
      show e.isAlive.2.overflowed = _
      unfold isAlive
      split <;> rfl
  | reconnect | close => rfl
  | charset | prepare | bind | execute | fetch | closeStatement | batch | load => cases hr

theorem overflowed_load (e : Embedded E) (file : Batch.Load) :
    (e.load file).2.overflowed = e.overflowed := by
  unfold load
  split
  · rfl
  · split
    · rfl
    · rfl
    · split <;> rfl

end Embedded

/-- The statement that asks for a file to be loaded is not taken for an insert. -/
theorem Batch.Load.isInsert_statement (file : Load) : isInsert file.statement = false := by
  obtain ⟨rest, hrest⟩ : ∃ rest, file.statement.toList = 'L' :: 'O' :: rest := by
    unfold statement
    simp only [String.toList_append, List.append_assoc]
    exact ⟨_, rfl⟩
  exact isInsert_of_front hrest (by decide) (by decide) (by decide)

/-- No reckoning of ids has left the 64 bits, neither in the session nor on the connection. -/
structure State.InRange (c : ConnId) (s : State (Bench E)) : Prop where
  session : s.overflowed = false
  connection : s.wire.world.Has c fun e => e.overflowed = false

/-- The connection stays in range while a file is loaded. -/
theorem Bench.keeps_inRange_load (file : Batch.Load) :
    Driver.Keeps (Bench.Has (E := E) c fun e => e.overflowed = false) (driver.load c file) := by
  unfold Driver.load
  refine Driver.Keeps.get.bind fun w => ?_
  by_cases hloads : driver.loads c w.world
  · simp only [hloads, if_true]
    exact Driver.keeps_send fun b hb => hb.respond fun e he =>
      (Embedded.overflowed_load e file).trans he
  · simp only [hloads, Bool.false_eq_true, if_false]
    refine (Driver.Keeps.note _).bind fun _ => Driver.Keeps.bind ?_ fun answer => ?_
    · exact Driver.keeps_send fun b hb => hb.respond fun e he =>
        (Embedded.overflowed_query file.isInsert_statement e).trans he
    · exact (Driver.Keeps.note _).bind fun _ => Driver.Keeps.get.bind fun _ =>
        Driver.Keeps.pure _

/-- A unit in which a file is loaded stays in range. -/
theorem State.InRange.unit_of_load {s : State (Bench E)} (h : s.InRange c)
    (hc : s.session.connection = some c) (file : Batch.Load) (st : Settings) (propagate : Bool) :
    (run (transact Bench.driver propagate (loadStaged Bench.driver file st)) s).2.InRange c := by
  have hsession : Steered (Bench.driver (E := E)) fun s =>
      s.session.connection = some c ∧ s.overflowed = false :=
    { silent := fun hs hsilent =>
        ⟨hsilent.connection.trans hs.1, hsilent.overflowed.trans hs.2⟩
      ask := fun hs _ _ => hs
      look := fun hs _ => hs }
  have hconnection : Steered (Bench.driver (E := E))
      (OnConnection c (Bench.Has c fun e => e.overflowed = false)) :=
    OnConnection.steered fun r hr b hb => hb.respond fun e he =>
      (Embedded.overflowed_respond hr e).trans he
  refine ⟨(hsession.transact (fun s hs => ?_) propagate s ⟨hc, h.session⟩).2,
    (hconnection.transact (fun s hs => ?_) propagate s ⟨hc, h.connection⟩).2⟩
  · rw [run_loadStaged hs.1]
    exact hs
  · rw [run_loadStaged hs.1]
    exact ⟨hs.1, Bench.keeps_inRange_load file s.wire hs.2⟩

end SlotQuery
