import SlotQuery.Proofs.Driver.Bench

/-!
# Statements that nothing comes of

A statement has come to nothing if it failed, brought back no rows or reports that it did not
succeed (`Barren`).  On an embedded connection the database then holds what it held, whichever
way the statement went over the wire: `ends_performUnder` is the main statement.

The connection may have faults, as long as they do not spoil what has been done already: a fault
may answer in the place of any request but the one for the outcome, and no success may be reported
as a failure (`Endpoint.Candid`).

`Ends` is the Hoare triple for actions on the wire that this takes, since what the database holds
depends on the answer.
-/

namespace SlotQuery

variable {E : Engine}

/-- The outcome of a statement that nothing has come of: an error, no rows, or no success. -/
def Barren {ε : Type} : Except ε Reply → Prop
  | .error _ => True
  | .ok (.rows set) => set.rows = []
  | .ok (.done ok) => ok = false

/-- Another error in its place leaves an answer barren. -/
theorem barren_mapError {ε ε' : Type} {f : ε → ε'} {answer : Except ε Reply} :
    Barren (answer.mapError f) ↔ Barren answer := by
  cases answer with
  | error e => exact Iff.rfl
  | ok reply =>
      cases reply with
      | rows set => exact Iff.rfl
      | done ok => exact Iff.rfl

namespace Embedded

variable {e : Embedded E} {found : Option E.Contents}

/-- The contents are the given ones if nothing comes of the outcome in hand. -/
def Holding (found : Option E.Contents) (e : Embedded E) : Prop :=
  ∃ o reply, e.statement = some o ∧ o.outcome = some reply ∧
    (Barren (.ok reply : Except DriverError Reply) → e.contents? = found)

theorem contents?_of_store {e' : Embedded E} (h : e'.store = e.store) :
    e'.contents? = e.contents? :=
  congrArg (Option.map Engine.Ledger.contents) (ledger?_of_store h)

section

variable (hcareful : E.Careful) (hreturning : E.Returning)

include hcareful hreturning

/-- Executing either fails, and the contents are what they were, or leaves an outcome in hand. -/
theorem execute_holding (h : e.contents? = found) :
    (∀ error, e.execute.1 = .error error → e.execute.2.contents? = found) ∧
      (∀ u, e.execute.1 = .ok u → e.execute.2.Holding found) := by
  unfold execute
  cases hstore : e.store with
  | none => exact ⟨fun _ _ => h, fun _ hok => (by cases hok)⟩
  | some db =>
      cases hopen : e.statement with
      | none => exact ⟨fun _ _ => h, fun _ hok => (by cases hok)⟩
      | some o =>
          dsimp only
          cases hstatement : o.statement with
          | none => exact ⟨fun _ _ => h, fun _ hok => (by cases hok)⟩
          | some p =>
              have hbefore : some (E.ledger db).contents = found := by
                rw [← h, contents?, ledger?_of_some hstore]
                rfl
              dsimp only
              rcases hrun : E.execute db p o.params with ⟨error | rows, db'⟩
              · have hkept := congrArg Engine.Ledger.contents (hcareful hrun)
                exact ⟨fun _ _ => (congrArg some hkept).trans hbefore, fun _ hok => (by cases hok)⟩
              · -- Something may have been done, and then the outcome in hand tells of it.
                refine ⟨fun _ hok => (by cases hok), fun _ _ => ?_⟩
                refine ⟨_, _, (record_store _ _ _ _).2, rfl, fun hbarren => ?_⟩
                rw [contents?_of_store (record_store _ _ _ _).1]
                cases rows with
                | none => cases hbarren
                | some set => exact (congrArg some (hreturning hrun hbarren)).trans hbefore

end

/-- An outcome in hand can be fetched. -/
theorem fetch_of_holding (h : e.Holding found) :
    ∃ reply, e.fetch.1 = .ok reply ∧
      (Barren (.ok reply : Except DriverError Reply) → e.fetch.2.contents? = found) := by
  obtain ⟨o, reply, hopen, houtcome, hcontents⟩ := h
  refine ⟨reply, ?_, fun hbarren => ?_⟩
  · unfold fetch
    rw [hopen]
    dsimp only
    rw [houtcome]
  · exact (contents?_of_store (fetch_store e).1).trans (hcontents hbarren)

/-- A query that nothing comes of leaves the contents as they were. -/
theorem query_barren (hcareful : E.Careful) (hreturning : E.Returning) {sql : String}
    (h : e.contents? = found) (hbarren : Barren (e.query sql).1) :
    (e.query sql).2.contents? = found := by
  have hprepare := contents?_of_store (prepare_store e sql)
  unfold query at hbarren ⊢
  rcases hprepared : e.prepare sql with ⟨error | _, e₁⟩
  · rw [hprepared] at hprepare
    exact hprepare.trans h
  · rw [hprepared] at hprepare hbarren
    obtain ⟨herror, hholding⟩ := execute_holding hcareful hreturning (hprepare.trans h)
    dsimp only at herror hholding hbarren ⊢
    rcases hexecuted : e₁.execute with ⟨error | _, e₂⟩
    · rw [hexecuted] at herror
      exact herror error rfl
    · rw [hexecuted] at hholding hbarren
      obtain ⟨reply, hfetched, hcontents⟩ := fetch_of_holding (hholding _ rfl)
      dsimp only at hbarren ⊢
      rw [hfetched] at hbarren
      exact hcontents hbarren

end Embedded

namespace Driver

variable {World α β : Type}

/-- From every world with the first property, the action ends with an answer and a world that have
the second one. -/
def Ends (J : World → Prop) (Q : α → World → Prop) (m : StateM (Wire World) α) : Prop :=
  ∀ w, J w.world → Q (m w).1 (m w).2.world

variable {J : World → Prop} {Q : α → World → Prop} {R : β → World → Prop}

theorem Ends.pure {a : α} (h : ∀ b, J b → Q a b) :
    Ends J Q (Pure.pure a : StateM (Wire World) α) :=
  fun w hw => h w.world hw

theorem Ends.bind {m : StateM (Wire World) α} {f : α → StateM (Wire World) β} (hm : Ends J Q m)
    (hf : ∀ a, Ends (Q a) R (f a)) : Ends J R (m >>= f) :=
  fun w hw => hf (m w).1 (m w).2 (hm w hw)

/-- A request ends as the driver answers it. -/
theorem ends_send {Address : Type} {D : Driver Address World} {c : ConnId} {r : Request}
    {Q : Except DriverError r.Answer → World → Prop}
    (h : ∀ b, J b → Q (D.respond c r b).1 (D.respond c r b).2) : Ends J Q (D.send c r) := by
  intro w hw
  rw [send_eq]
  exact h w.world hw

end Driver

namespace Endpoint

/-- No fault spoils an outcome: outcomes can be fetched, and no success is reported as a failure. -/
def Candid (endpoint : Endpoint E) : Prop :=
  endpoint.faults.fetch = [] ∧ endpoint.faults.unsuccessful = []

variable {endpoint : Endpoint E}

/-- The faults of an endpoint stay as they are. -/
theorem respond_faults (endpoint : Endpoint E) (r : Request) :
    (endpoint.respond r).2.faults = endpoint.faults := by
  unfold respond
  cases endpoint.fault? r with
  | some error => rfl
  | none => rfl

/-- A candid endpoint reports a reply as it is. -/
theorem Candid.reported (h : endpoint.Candid) (sql : String) (reply : Reply) :
    endpoint.reported sql reply = reply := by
  cases reply with
  | rows set => rfl
  | done ok =>
      cases ok with
      | false => rfl
      | true =>
          unfold Endpoint.reported
          rw [h.2]
          rfl

/-- A candid endpoint passes an answer on as it is. -/
theorem Candid.passed (h : endpoint.Candid) (r : Request) (answer : r.Answer) :
    endpoint.passed r answer = answer := by
  cases r with
  | query sql => exact h.reported sql answer
  | fetch => exact h.reported endpoint.statement answer
  | _ => rfl

/-- Taking the outcome of a statement has no fault of its own. -/
theorem Candid.fault?_fetch (h : endpoint.Candid) : endpoint.fault? .fetch = none := by
  unfold fault? firstHolding?
  rw [h.1]
  rfl

end Endpoint

namespace Bench

open Driver (Ends ends_send)

variable {c : ConnId} {b : Bench E} {e : Embedded E} {r : Request}

/-- The number stands for an embedded connection with the property, and no fault of it spoils an
outcome. -/
def HasCandid (c : ConnId) (P : Embedded E → Prop) (b : Bench E) : Prop :=
  ∃ endpoint e, b.endpoints[c]? = some endpoint ∧ endpoint.Candid ∧
    endpoint.peer = .embedded e ∧ P e

/-- What is known of the connection can be weakened. -/
theorem HasCandid.mono {P Q : Embedded E → Prop} (h : HasCandid c P b) (hPQ : ∀ e, P e → Q e) :
    HasCandid c Q b := by
  obtain ⟨endpoint, e, hendpoint, hcandid, hpeer, hP⟩ := h
  exact ⟨endpoint, e, hendpoint, hcandid, hpeer, hPQ e hP⟩

/-- A connection without such faults is a connection. -/
theorem HasCandid.has {P : Embedded E → Prop} (h : HasCandid c P b) : b.Has c P := by
  obtain ⟨endpoint, e, hendpoint, -, hpeer, hP⟩ := h
  refine ⟨e, ?_, hP⟩
  rw [embedded?, hendpoint]
  show endpoint.peer.embedded? = some e
  rw [hpeer]
  rfl

/-- Such a connection offers every feature. -/
theorem HasCandid.capabilities {P : Embedded E → Prop} (h : HasCandid c P b) :
    driver.capabilities c b = .all := by
  obtain ⟨endpoint, e, hendpoint, -, hpeer, -⟩ := h
  rw [capabilities_eq hendpoint, hpeer]
  rfl

/-- A request meets a fault, which changes nothing, or has the answer of the connection. -/
theorem HasCandid.respond {P : Embedded E → Prop} {Q : Except DriverError r.Answer → Bench E → Prop}
    (h : HasCandid c P b)
    (hfault : ∀ error, r ≠ .fetch → ∀ b', HasCandid c P b' → Q (.error error) b')
    (hanswer : ∀ e, P e → ∀ b', HasCandid c (· = (e.respond r).2) b' → Q (e.respond r).1 b') :
    Q (Bench.respond c r b).1 (Bench.respond c r b).2 := by
  obtain ⟨endpoint, e, hendpoint, hcandid, hpeer, hP⟩ := h
  have hlt : c < b.endpoints.length := (List.getElem?_eq_some_iff.mp hendpoint).1
  have hfaults := endpoint.respond_faults r
  have hkept : ∀ e', (endpoint.respond r).2.peer = .embedded e' →
      HasCandid c (· = e') ⟨b.endpoints.set c (endpoint.respond r).2⟩ := by
    intro e' hpeer'
    refine ⟨_, e', List.getElem?_set_self hlt, ?_, hpeer', rfl⟩
    rw [Endpoint.Candid, hfaults]
    exact hcandid
  unfold Bench.respond
  rw [hendpoint]
  dsimp only
  cases hr : endpoint.fault? r with
  | some error =>
      have hresponse : endpoint.respond r = (.error error, endpoint) := by
        rw [Endpoint.respond, hr]
      have hkept' := hkept e (by rw [hresponse]; exact hpeer)
      rw [hresponse] at hkept' ⊢
      refine hfault error ?_ _ (hkept'.mono fun e' he' => he' ▸ hP)
      -- The fault is not at a request for the outcome: there the endpoint has none.
      rintro rfl
      rw [hcandid.fault?_fetch] at hr
      cases hr
  | none =>
      have hresponse : (endpoint.respond r).1 = (e.respond r).1 ∧
          (endpoint.respond r).2.peer = .embedded (e.respond r).2 := by
        rw [Endpoint.respond, hr]
        dsimp only
        rw [hpeer]
        refine ⟨?_, rfl⟩
        show (e.respond r).1.map (endpoint.passed r) = (e.respond r).1
        cases (e.respond r).1 with
        | error error => rfl
        | ok answer => exact congrArg Except.ok (hcandid.passed r answer)
      rw [hresponse.1]
      exact hanswer e hP _ (hkept _ hresponse.2)

variable {found : Option E.Contents}

/-- The contents are the given ones if nothing has come of the answer. -/
abbrev Told {ε : Type} (c : ConnId) (found : Option E.Contents) (answer : Except ε Reply) :
    Bench E → Prop :=
  HasCandid c fun e => Barren answer → e.contents? = found

/-- The contents are the given ones after a refusal, and the property holds after a success. -/
def Granted {ε α : Type} (c : ConnId) (found : Option E.Contents) (P : Embedded E → Prop) :
    Except ε α → Bench E → Prop
  | .error _ => HasCandid c fun e => e.contents? = found
  | .ok _ => HasCandid c P

theorem told_of_contents {ε : Type} {answer : Except ε Reply}
    (h : HasCandid c (fun e => e.contents? = found) b) : Told c found answer b :=
  h.mono fun _ hcontents _ => hcontents

/-- A request whose answer the connection itself decides on. -/
theorem ends_granted {P Q : Embedded E → Prop} (hP : ∀ e, P e → e.contents? = found)
    (hr : ∀ e, P e →
      (∀ error, (e.respond r).1 = .error error → (e.respond r).2.contents? = found) ∧
        (∀ answer, (e.respond r).1 = .ok answer → Q (e.respond r).2)) :
    Ends (HasCandid c P) (Granted c found Q) (driver.send c r) := by
  refine ends_send fun b hb => HasCandid.respond hb ?_ ?_
  · exact fun error _ b' hb' => hb'.mono hP
  · intro e he b' hb'
    obtain ⟨herror, hok⟩ := hr e he
    cases hsent : (e.respond r).1 with
    | error error => exact hb'.mono fun e' he' => he' ▸ herror error hsent
    | ok answer => exact hb'.mono fun e' he' => he' ▸ hok answer hsent

/-- Preparing a statement leaves the contents as they were. -/
theorem ends_prepare (sql : String) :
    Ends (HasCandid c fun e => e.contents? = found)
      (Granted c found fun e => e.contents? = found) (driver.send c (.prepare sql)) := by
  refine ends_granted (fun _ he => he) fun e he => ?_
  have hkept : (e.prepare sql).2.contents? = found :=
    (Embedded.contents?_of_store (Embedded.prepare_store e sql)).trans he
  exact ⟨fun _ _ => hkept, fun _ _ => hkept⟩

theorem ends_bind (params : List Param) :
    Ends (HasCandid c fun e => e.contents? = found)
      (Granted c found fun e => e.contents? = found) (driver.send c (.bind params)) := by
  refine ends_granted (fun _ he => he) fun e he => ?_
  have hkept : (e.bind params).2.contents? = found :=
    (Embedded.contents?_of_store (Embedded.bind_store e params).1).trans he
  exact ⟨fun _ _ => hkept, fun _ _ => hkept⟩

section

variable (hcareful : E.Careful) (hreturning : E.Returning)

include hcareful hreturning

/-- Executing it changes them only if there is an outcome to take. -/
theorem ends_execute :
    Ends (HasCandid c fun e => e.contents? = found) (Granted c found (Embedded.Holding found))
      (driver.send c .execute) :=
  ends_granted (fun _ he => he) fun _ he => Embedded.execute_holding hcareful hreturning he

/-- A query of which nothing comes has left them as they were. -/
theorem ends_query (sql : String) :
    Ends (HasCandid c fun e => e.contents? = found) (Told c found)
      (driver.send c (.query sql)) := by
  refine ends_send fun b hb => HasCandid.respond hb ?_ ?_
  · exact fun error _ b' hb' => told_of_contents hb'
  · exact fun e he b' hb' => hb'.mono fun e' he' hbarren =>
      he' ▸ Embedded.query_barren hcareful hreturning he hbarren

end

theorem ends_fetch :
    Ends (HasCandid c (Embedded.Holding found)) (Told c found) (driver.send c .fetch) := by
  refine ends_send fun b hb => HasCandid.respond hb ?_ ?_
  · exact fun error hne => absurd rfl hne
  · intro e he b' hb'
    obtain ⟨reply, hfetched, hcontents⟩ := Embedded.fetch_of_holding he
    show Told c found e.fetch.1 b'
    rw [hfetched]
    exact hb'.mono fun e' he' hbarren => he' ▸ hcontents hbarren

/-- A request that leaves the store alone whatever it is answered. -/
theorem ends_aside {P : Embedded E → Prop} (hP : ∀ e, P e → P (e.respond r).2) :
    Ends (HasCandid c P) (fun _ => HasCandid c P) (driver.send c r) := by
  refine ends_send fun b hb => HasCandid.respond (Q := fun _ => HasCandid c P) hb ?_ ?_
  · exact fun error _ b' hb' => hb'
  · exact fun e he b' hb' => hb'.mono fun e' he' => he' ▸ hP e he

section

variable (hcareful : E.Careful) (hreturning : E.Returning)

include hcareful hreturning

theorem ends_runPrepared (params : List Param) :
    Ends (HasCandid c fun e => e.contents? = found) (Told c found)
      (Session.runPrepared driver c params) := by
  unfold Session.runPrepared
  refine (ends_bind params).bind fun bound => ?_
  cases bound with
  | error e => exact Ends.pure fun _ hb => told_of_contents hb
  | ok _ =>
      refine (ends_execute hcareful hreturning).bind fun executed => ?_
      cases executed with
      | error e => exact Ends.pure fun _ hb => told_of_contents hb
      | ok _ => exact ends_fetch

theorem ends_perform (p : Template.Prepared) :
    Ends (HasCandid c fun e => e.contents? = found) (Told c found)
      (Session.perform driver c p) := by
  unfold Session.perform
  by_cases hparams : p.params = []
  · simp only [hparams, if_true]
    refine (ends_query hcareful hreturning p.sql).bind fun answer => Ends.pure fun b hb => ?_
    exact hb.mono fun e he hbarren => he (barren_mapError.mp hbarren)
  · simp only [hparams, if_false]
    refine (ends_prepare p.sql).bind fun prepared => ?_
    cases prepared with
    | error e => exact Ends.pure fun _ hb => told_of_contents hb
    | ok _ =>
        refine (ends_runPrepared hcareful hreturning p.params).bind fun answer => ?_
        have hclose : Ends (Told c found answer) (fun _ => Told c found answer)
            (driver.send c .closeStatement) := ends_aside fun _ he => he
        refine hclose.bind fun _ => Ends.pure fun b hb => ?_
        exact hb.mono fun e he hbarren => he (barren_mapError.mp hbarren)

/-- A statement that nothing comes of leaves the contents as they were. -/
theorem ends_performUnder (charset : String) (p : Template.Prepared) :
    Ends (HasCandid c fun e => e.contents? = found) (Told c found)
      (Session.performUnder driver charset c p) := by
  have hcharset : Ends (HasCandid c fun e => e.contents? = found)
      (fun _ => HasCandid c fun e => e.contents? = found) (driver.send c (.charset charset)) :=
    ends_aside fun _ he => he
  unfold Session.performUnder
  refine hcharset.bind fun set => ?_
  cases set with
  | error e => exact Ends.pure fun _ hb => told_of_contents hb
  | ok _ => exact ends_perform hcareful hreturning p

end

end Bench

end SlotQuery
