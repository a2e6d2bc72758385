import SlotQuery.Proofs.Driver.Barren

/-!
# What a reply stands for

Where an embedded connection replies to a statement, the statement has been executed, and the
counters of the connection are those of the execution.  This holds whichever way the statement went
over the wire, and whatever the faults of the connection are: `attains_performUnder` is the main
statement.  A fault can only report a success as a failure (`Reply.PassesAs`).

`Execution` is a text that was compiled and executed on a database, together with what came of it.
The first id of an insert is reckoned back in 64 bits, and where that leaves them (`beyond`) the
connection has noted it.  A staged file is loaded by the connection (`attains_load`).
-/

namespace SlotQuery

open Batch (isInsert)
open Number (FitsInt64 saturated)

variable {E : Engine}

/-- What a connection reports of a reply: the reply itself, or of a success that it was none. -/
inductive Reply.PassesAs : Reply → Reply → Prop
  | same (reply : Reply) : PassesAs reply reply
  | disowned : PassesAs (.done true) (.done false)

/-- Whatever an endpoint makes of a reply, it passes as that reply. -/
theorem Endpoint.passesAs_reported (endpoint : Endpoint E) (sql : String) (reply : Reply) :
    reply.PassesAs (endpoint.reported sql reply) := by
  cases reply with
  | rows set => exact .same _
  | done ok =>
      cases ok with
      | false => exact .same _
      | true =>
          unfold Endpoint.reported
          cases endpoint.faults.unsuccessful.any fun fragment => holds fragment sql with
          | false => exact .same _
          | true => exact .disowned

namespace Embedded

/-- A text that was compiled and executed on a database. -/
structure Execution (before : E.Database) (sql : String) (params : List Cell) where
  program : E.Program
  rows : Option RowSet
  after : E.Database
  compiled : E.compile before sql = .ok (some program)
  executed : E.execute before program params = (.ok rows, after)

namespace Execution

variable {before : E.Database} {sql : String} {params : List Cell}

/-- What the execution brought back. -/
def reply (x : Execution before sql params) : Reply :=
  (outcome (isInsert sql) x.rows (E.changes x.after)).1

/-- The number of rows that the execution counts as changed. -/
def affected (x : Execution before sql params) : Nat :=
  (outcome (isInsert sql) x.rows (E.changes x.after)).2

/-- The reckoning of the first id leaves the 64 bits. -/
def beyond (x : Execution before sql params) : Bool :=
  decide ((isInsert sql = true ∧ 0 < x.affected) ∧
    ¬ FitsInt64 ((E.lastId x.after).toInt - (saturated x.affected).toInt))

/-- The database and the counters of the connection are those after the execution.  `flag` tells
whether a reckoning had left the 64 bits before. -/
structure Shown (x : Execution before sql params) (flag : Bool) (e : Embedded E) : Prop where
  store : e.store = some x.after
  affected : e.affected = x.affected
  firstId : isInsert sql = true → 0 < x.affected →
    e.lastInsertId = E.lastId x.after - saturated x.affected + 1
  overflowed : e.overflowed = (flag || x.beyond)

/-- The connection shows the execution and has its reply in hand. -/
def Pending (x : Execution before sql params) (flag : Bool) (e : Embedded E) : Prop :=
  x.Shown flag e ∧ ∃ o, e.statement = some o ∧ o.outcome = some x.reply

end Execution

/-- The connection has the database open; `flag` tells whether a reckoning of ids has left the 64
bits. -/
def At (before : E.Database) (flag : Bool) (e : Embedded E) : Prop :=
  e.store = some before ∧ e.overflowed = flag

/-- The compiled text is in hand with its parameters. -/
def Opened (before : E.Database) (flag : Bool) (sql : String) (params : List Cell)
    (e : Embedded E) : Prop :=
  e.At before flag ∧ ∃ found, E.compile before sql = .ok found ∧
    e.statement = some ⟨found, isInsert sql, params, none⟩

variable {e : Embedded E} {before : E.Database} {flag : Bool} {sql : String} {params : List Cell}

/-- A statement that was prepared is in hand, without parameters. -/
theorem opened_prepare (h : e.At before flag) (hok : (e.prepare sql).1 = .ok ()) :
    (e.prepare sql).2.Opened before flag sql [] := by
  obtain ⟨hstore, hflag⟩ := h
  unfold prepare at hok ⊢
  rw [hstore] at hok ⊢
  dsimp only at hok ⊢
  cases hcompile : E.compile before sql with
  | error error =>
      rw [hcompile] at hok
      cases hok
  | ok found => exact ⟨⟨rfl, hflag⟩, found, hcompile, rfl⟩

/-- Parameters that were bound are in hand. -/
theorem opened_bind {given : List Param} (h : e.Opened before flag sql params)
    (hok : (e.bind given).1 = .ok ()) :
    (e.bind given).2.Opened before flag sql (given.map boundCell) := by
  obtain ⟨hat, found, hcompile, hhand⟩ := h
  unfold bind at hok ⊢
  rw [hhand] at hok ⊢
  dsimp only at hok ⊢
  split at hok
  · cases hok
  · next hcount =>
      rw [if_neg hcount]
      exact ⟨hat, found, hcompile, rfl⟩

/-- The counters show what is recorded of a statement. -/
theorem record_counters (e : Embedded E) (inserts : Bool) (affected : Nat) (lastId : Int64) :
    (e.record inserts affected lastId).affected = affected ∧
      (inserts = true → 0 < affected →
        (e.record inserts affected lastId).lastInsertId = lastId - saturated affected + 1) ∧
      (e.record inserts affected lastId).overflowed =
        (e.overflowed || decide ((inserts = true ∧ 0 < affected) ∧
          ¬ FitsInt64 (lastId.toInt - (saturated affected).toInt))) := by
  unfold record
  dsimp only
  split
  · next hsome =>
      refine ⟨rfl, fun _ _ => rfl, ?_⟩
      simp only [hsome, true_and]
  · next hnot =>
      refine ⟨rfl, fun hinserts hsome => absurd ⟨hinserts, hsome⟩ hnot, ?_⟩
      simp only [hnot, false_and, decide_false, Bool.or_false]

/-- What is executed was compiled, and its reply is in hand. -/
theorem pending_execute (h : e.Opened before flag sql params) (hok : e.execute.1 = .ok ()) :
    ∃ x : Execution before sql params, x.Pending flag e.execute.2 := by
  obtain ⟨⟨hstore, rfl⟩, found, hcompile, hhand⟩ := h
  unfold execute at hok ⊢
  rw [hstore, hhand] at hok ⊢
  dsimp only at hok ⊢
  cases found with
  | none => cases hok
  | some p =>
      dsimp only at hok ⊢
      rcases hrun : E.execute before p params with ⟨error | rows, after⟩
      · rw [hrun] at hok
        cases hok
      · let x : Execution before sql params := ⟨p, rows, after, hcompile, hrun⟩
        obtain ⟨haffected, hfirst, hflag⟩ := record_counters
          { e with
            store := some after
            statement := some ⟨some p, isInsert sql, params, some x.reply⟩ }
          (isInsert sql) x.affected (E.lastId after)
        exact ⟨x, ⟨(record_store _ _ _ _).1, haffected, hfirst, hflag⟩, _,
          (record_store _ _ _ _).2, rfl⟩

/-- The outcome that is taken is that of the execution, and the counters show it. -/
theorem shown_fetch {x : Execution before sql params} (h : x.Pending flag e) {reply : Reply}
    (hok : e.fetch.1 = .ok reply) : reply = x.reply ∧ x.Shown flag e.fetch.2 := by
  obtain ⟨hshown, o, hhand, houtcome⟩ := h
  unfold fetch at hok ⊢
  rw [hhand] at hok ⊢
  dsimp only at hok ⊢
  rw [houtcome] at hok ⊢
  exact ⟨(Except.ok.inj hok).symm, hshown.store, hshown.affected, hshown.firstId,
    hshown.overflowed⟩

theorem Execution.Shown.closeStatement {x : Execution before sql params} (h : x.Shown flag e) :
    x.Shown flag e.closeStatement :=
  ⟨h.store, h.affected, h.firstId, h.overflowed⟩

/-- A query that is answered was executed. -/
theorem shown_query (h : e.At before flag) {reply : Reply}
    (hok : (e.query sql).1 = .ok reply) :
    ∃ x : Execution before sql [], reply = x.reply ∧ x.Shown flag (e.query sql).2 := by
  have hopened : (e.prepare sql).1 = .ok () → (e.prepare sql).2.Opened before flag sql [] :=
    opened_prepare h
  unfold query at hok ⊢
  rcases hprepared : e.prepare sql with ⟨error | _, e₁⟩
  · rw [hprepared] at hok
    cases hok
  · rw [hprepared] at hopened hok
    have hpending := pending_execute (hopened rfl)
    dsimp only at hpending hok ⊢
    rcases hexecuted : e₁.execute with ⟨error | _, e₂⟩
    · rw [hexecuted] at hok
      cases hok
    · rw [hexecuted] at hpending hok
      obtain ⟨x, hx⟩ := hpending rfl
      obtain ⟨hreply, hshown⟩ := shown_fetch hx hok
      exact ⟨x, hreply, hshown.closeStatement⟩

end Embedded

namespace Driver

variable {World α β ε : Type} {J : World → Prop}

/-- Where the action succeeds from a world with the first property, its value and the world have the
second one. -/
def Attains (J : World → Prop) (Q : α → World → Prop)
    (m : StateM (Wire World) (Except ε α)) : Prop :=
  Ends J (fun answer w => ∀ a, answer = .ok a → Q a w) m

variable {P : α → World → Prop} {Q : β → World → Prop}

theorem Attains.error (e : ε) :
    Attains J Q (Pure.pure (.error e) : StateM (Wire World) (Except ε β)) :=
  Ends.pure fun _ _ _ h => nomatch h

theorem Attains.mono {m : StateM (Wire World) (Except ε α)} {P' : α → World → Prop}
    (hm : Attains J P m) (h : ∀ a w, P a w → P' a w) : Attains J P' m :=
  fun w hw a ha => h a _ (hm w hw a ha)

/-- What follows an action that fails must fail, too, or attain the property from any world. -/
theorem Attains.bind {ε' : Type} {m : StateM (Wire World) (Except ε α)}
    {k : Except ε α → StateM (Wire World) (Except ε' β)} (hm : Attains J P m)
    (hok : ∀ a, Attains (P a) Q (k (.ok a)))
    (herror : ∀ e, Attains (fun _ => True) Q (k (.error e))) : Attains J Q (m >>= k) := by
  refine Ends.bind hm fun answer => ?_
  cases answer with
  | error e => exact fun w _ => herror e w trivial
  | ok a => exact fun w hw => hok a w (hw a rfl)

end Driver

namespace Bench

open Driver (Ends Attains ends_send)
open Embedded (At Execution Opened)

variable {c : ConnId} {b : Bench E} {r : Request} {before : E.Database}
variable {flag : Bool}

/-- What the connection answers is attained through its endpoint. -/
theorem attains_send {P Q : Embedded E → Prop}
    (hr : ∀ e a, P e → (e.respond r).1 = .ok a → Q (e.respond r).2) :
    Attains (Has c P) (fun _ => Has c Q) (driver.send c r) :=
  ends_send fun _ hb _ hok => hb.respond_ok hok hr

/-- What a request that succeeds brings about, and what it is answered with. -/
theorem attains_send_passed {P : Embedded E → Prop} {Q : r.Answer → Embedded E → Prop}
    (hr : ∀ e a, P e → (e.respond r).1 = .ok a → Q a (e.respond r).2) :
    Attains (Has c P)
      (fun a b => ∃ (endpoint : Endpoint E) (own : r.Answer), a = endpoint.passed r own ∧
        Has c (Q own) b) (driver.send c r) := by
  refine ends_send fun b hb a hok => ?_
  obtain ⟨e, he, hP⟩ := hb
  rcases respond_embedded he r with ⟨⟨endpoint, error, -, herror⟩, -⟩ | ⟨⟨endpoint, hanswer⟩, hnext⟩
  · cases herror.symm.trans hok
  · have hpassed := hanswer.symm.trans hok
    cases hown : (e.respond r).1 with
    | error error =>
        rw [hown] at hpassed
        cases hpassed
    | ok own =>
        rw [hown] at hpassed
        exact ⟨endpoint, own, (Except.ok.inj hpassed).symm, _, hnext, hr e own hP hown⟩

/-- A statement was executed, and the reply is what the connection reports of it. -/
def Replied (c : ConnId) (before : E.Database) (flag : Bool) (sql : String) (params : List Cell)
    (reply : Reply) (b : Bench E) : Prop :=
  ∃ x : Execution before sql params, b.Has c (x.Shown flag) ∧ x.reply.PassesAs reply

/-- A query that is answered was executed without parameters. -/
theorem attains_query (sql : String) :
    Attains (Has c (At before flag)) (Replied c before flag sql [])
      (driver.send c (.query sql)) := by
  have hsent := attains_send_passed (c := c) (r := .query sql)
    (Q := fun reply e => ∃ x : Execution before sql [], reply = x.reply ∧ x.Shown flag e)
    fun e _ h hok => Embedded.shown_query h hok
  refine hsent.mono ?_
  rintro reply b ⟨endpoint, own, rfl, e, he, x, rfl, hshown⟩
  exact ⟨x, ⟨e, he, hshown⟩, endpoint.passesAs_reported sql x.reply⟩

/-- The outcome of a statement is that of its execution. -/
theorem attains_fetch {sql : String} {params : List Cell} :
    Attains (Has c fun e => ∃ x : Execution before sql params, x.Pending flag e)
      (Replied c before flag sql params) (driver.send c .fetch) := by
  have hsent := attains_send_passed (c := c) (r := .fetch)
    (P := fun e => ∃ x : Execution before sql params, x.Pending flag e)
    (Q := fun reply e => ∃ x : Execution before sql params, reply = x.reply ∧ x.Shown flag e)
    fun e _ ⟨x, hx⟩ hok => ⟨x, Embedded.shown_fetch hx hok⟩
  refine hsent.mono ?_
  rintro reply b ⟨endpoint, own, rfl, e, he, x, rfl, hshown⟩
  exact ⟨x, ⟨e, he, hshown⟩, endpoint.passesAs_reported endpoint.statement x.reply⟩

/-- A prepared statement that is answered was executed with its parameters. -/
theorem attains_runPrepared (sql : String) (params : List Param) :
    Attains (Has c (Opened before flag sql []))
      (Replied c before flag sql (params.map Embedded.boundCell))
      (Session.runPrepared driver c params) := by
  have hbind : Attains (Has c (Opened before flag sql []))
      (fun _ => Has c (Opened before flag sql (params.map Embedded.boundCell)))
      (driver.send c (.bind params)) := attains_send fun e _ h hok => Embedded.opened_bind h hok
  have hexecute : Attains (Has c (Opened before flag sql (params.map Embedded.boundCell)))
      (fun _ => Has c fun e =>
        ∃ x : Execution before sql (params.map Embedded.boundCell), x.Pending flag e)
      (driver.send c .execute) := attains_send fun e _ h hok => Embedded.pending_execute h hok
  unfold Session.runPrepared
  refine hbind.bind (fun _ => ?_) fun e => .error e
  exact hexecute.bind (fun _ => attains_fetch) fun e => .error e

/-- Closing the statement changes nothing in that. -/
theorem Replied.closed {sql : String} {params : List Cell} {reply : Reply}
    (h : Replied c before flag sql params reply b) :
    Replied c before flag sql params reply (Bench.respond c .closeStatement b).2 := by
  obtain ⟨x, hhas, hpasses⟩ := h
  exact ⟨x, hhas.respond fun e hshown => hshown.closeStatement, hpasses⟩

/-- A statement that is answered was executed, be it prepared or not. -/
theorem attains_perform (p : Template.Prepared) :
    Attains (Has c (At before flag))
      (Replied c before flag p.sql (p.params.map Embedded.boundCell))
      (Session.perform driver c p) := by
  unfold Session.perform
  split
  · next hnone =>
      rw [hnone]
      refine Ends.bind (attains_query p.sql) fun answer => Ends.pure fun b hb reply hreply => ?_
      cases answer with
      | error e => cases hreply
      | ok reply' => exact hb reply (by rw [Except.ok.inj hreply])
  · refine Attains.bind (attains_send (r := .prepare p.sql)
      fun e _ h hok => Embedded.opened_prepare h hok) (fun _ => ?_) fun e => .error _
    refine Ends.bind (attains_runPrepared p.sql p.params) fun answer => ?_
    refine Ends.bind (ends_send (Q := fun _ b => ∀ reply, answer = .ok reply →
      Replied c before flag p.sql (p.params.map Embedded.boundCell) reply b)
        fun b hb reply hreply => (hb reply hreply).closed) fun _ => ?_
    refine Ends.pure fun b hb reply hreply => ?_
    cases answer with
    | error e => cases hreply
    | ok reply' => exact hb reply (by rw [Except.ok.inj hreply])

/-- Where a statement is answered, it was executed on the database with its parameters. -/
theorem attains_performUnder (charset : String) (p : Template.Prepared) :
    Attains (Has c (At before flag))
      (Replied c before flag p.sql (p.params.map Embedded.boundCell))
      (Session.performUnder driver charset c p) := by
  unfold Session.performUnder
  exact Attains.bind (attains_send (r := .charset charset) fun e _ h _ => h)
    (fun _ => attains_perform p) fun e => .error _

/-- The counters of an embedded connection are its own. -/
theorem counters_of_embedded {e : Embedded E} (h : b.embedded? c = some e) :
    driver.affected c b = e.affected ∧ driver.lastInsertId c b = e.lastInsertId := by
  obtain ⟨endpoint, hendpoint, hpeer⟩ := Option.bind_eq_some_iff.mp h
  cases hembedded : endpoint.peer with
  | scripted s =>
      rw [hembedded] at hpeer
      cases hpeer
  | embedded e' =>
      rw [hembedded] at hpeer
      obtain rfl := Option.some.inj hpeer
      have hread : ∀ {α : Type} (default : α) (f : Peer E → α),
          b.read default f c = f (.embedded e') := by
        intro α default f
        rw [read, hendpoint, Option.map_some, Option.getD_some, hembedded]
      exact ⟨hread 0 Peer.affected, hread 0 Peer.lastInsertId⟩

/-- A staged file is loaded by the connection itself, if it is loaded at all: the engine does not
know the statement that would be sent in its place. -/
theorem attains_load (hfileless : E.Fileless) {file : Batch.Load} {Q : Nat → Embedded E → Prop}
    (hload : ∀ (e : Embedded E) count, e.At before flag → (e.load file).1 = .ok count →
      Q count (e.load file).2) :
    Attains (Has c (At before flag)) (fun count => Has c (Q count)) (driver.load c file) := by
  intro w hw
  by_cases hloads : driver.loads c w.world
  · have hsent : Attains (Has c (At before flag))
        (fun count b => ∃ (endpoint : Endpoint E) (own : Nat),
          count = endpoint.passed (.load file) own ∧ Has c (Q own) b)
        (driver.send c (.load file)) :=
      attains_send_passed (r := .load file) fun e count hat hok => hload e count hat hok
    have hrun : driver.load c file w = driver.send c (.load file) w := by
      show (if driver.loads c w.world then _ else _ : StateM (Wire (Bench E)) _) w = _
      rw [if_pos hloads]
    rw [hrun]
    intro count hok
    obtain ⟨endpoint, own, rfl, hhas⟩ := hsent w hw count hok
    exact hhas
  · have hasked := attains_query (c := c) file.statement
      { w with trace := w.trace ++ [.sent c (.load file)] } hw
    have hrun : (driver.load c file w).1 = ((driver.send c (.query file.statement)
        { w with trace := w.trace ++ [.sent c (.load file)] }).1.map fun _ =>
          driver.affected c (driver.send c (.query file.statement)
            { w with trace := w.trace ++ [.sent c (.load file)] }).2.world) := by
      show ((if driver.loads c w.world then _ else _ : StateM (Wire (Bench E)) _) w).1 = _
      rw [if_neg hloads]
      rfl
    rw [hrun]
    intro count hok
    obtain ⟨reply, hreply, -⟩ := exists_of_map_eq_ok hok
    obtain ⟨x, -, -⟩ := hasked reply hreply
    exact absurd x.compiled (hfileless _ _ _)

end Bench

end SlotQuery
