import SlotQuery.Driver.Bench
import SlotQuery.Proofs.Driver.Embedded
import SlotQuery.Session.Transaction

/-!
# Embedded connections on a bench

An embedded connection answers from behind its faults: a fault answers in its place and changes
nothing, and any other request takes it where it would go by itself (`respond_embedded`).  So
what the connection keeps on every request the bench keeps too (`Has.respond`).

This carries over to what a session sends for a statement, a script or a staged file.  A
transaction that runs on the connection is left alone by each of them, as long as none of the
statements controls transactions: `keeps_performUnder`, `keeps_performBatch`, `keeps_load`.
-/

namespace SlotQuery

open Engine (Ledger Step Transaction)

variable {E : Engine}

/-- The connection, if it is an embedded one. -/
def Peer.embedded? : Peer E → Option (Embedded E)
  | scripted _ => none
  | embedded e => some e

/-- No fault answers in the place of the request. -/
def Request.Spared (r : Request) : Prop :=
  ∀ {E : Engine} (endpoint : Endpoint E), endpoint.fault? r = none

theorem spared_request (step : Step) : step.request.Spared := by
  intro E endpoint
  cases step <;> rfl

namespace Bench

/-- The embedded connection with a number. -/
def embedded? (c : ConnId) (b : Bench E) : Option (Embedded E) :=
  b.endpoints[c]?.bind fun endpoint => endpoint.peer.embedded?

/-- What the open database behind the connection with a number holds. -/
def ledger? (c : ConnId) (b : Bench E) : Option (Ledger E.Contents) :=
  (b.embedded? c).bind Embedded.ledger?

/-- The number stands for an embedded connection with the property. -/
def Has (c : ConnId) (P : Embedded E → Prop) (b : Bench E) : Prop :=
  ∃ e, b.embedded? c = some e ∧ P e

variable {c : ConnId} {b : Bench E} {e : Embedded E} {r : Request}

/-- A connection on the bench offers what its far end does. -/
theorem capabilities_eq {endpoint : Endpoint E} (h : b.endpoints[c]? = some endpoint) :
    driver.capabilities c b = endpoint.peer.capabilities := by
  show read .all Peer.capabilities c b = _
  unfold read
  rw [h]
  rfl

/-- Where an endpoint is put, its connection is found. -/
theorem embedded?_set {endpoint endpoint' : Endpoint E} (h : b.endpoints[c]? = some endpoint) :
    embedded? c ⟨b.endpoints.set c endpoint'⟩ = endpoint'.peer.embedded? := by
  have hlt : c < b.endpoints.length := (List.getElem?_eq_some_iff.mp h).1
  show (b.endpoints.set c endpoint')[c]?.bind (fun endpoint => endpoint.peer.embedded?) = _
  rw [List.getElem?_set_self hlt]
  rfl

/-- A request meets a fault or goes to the connection. -/
theorem respond_embedded (h : b.embedded? c = some e) (r : Request) :
    ((∃ (endpoint : Endpoint E) (error : DriverError), endpoint.fault? r = some error ∧
        (respond c r b).1 = .error error) ∧
        (respond c r b).2.embedded? c = some e) ∨
      ((∃ endpoint : Endpoint E, (respond c r b).1 = (e.respond r).1.map (endpoint.passed r)) ∧
        (respond c r b).2.embedded? c = some (e.respond r).2) := by
  obtain ⟨endpoint, hendpoint, hpeer⟩ := Option.bind_eq_some_iff.mp h
  have hembedded : endpoint.peer = .embedded e := by
    cases hpeer' : endpoint.peer with
    | scripted s =>
        rw [hpeer'] at hpeer
        cases hpeer
    | embedded e' =>
        rw [hpeer'] at hpeer
        rw [Option.some.inj hpeer]
  unfold respond Endpoint.respond
  rw [hendpoint]
  dsimp only
  cases hfault : endpoint.fault? r with
  | some error =>
      refine .inl ⟨⟨endpoint, error, hfault, rfl⟩, ?_⟩
      dsimp only
      rw [embedded?_set hendpoint, hembedded]
      rfl
  | none =>
      refine .inr ⟨⟨endpoint, ?_⟩, ?_⟩
      · dsimp only
        rw [hembedded]
        rfl
      · dsimp only
        rw [embedded?_set hendpoint, hembedded]
        rfl

/-- A request that faults spare reaches the connection and is answered by it. -/
theorem respond_of_spared (hr : r.Spared) (h : b.embedded? c = some e) :
    (∃ endpoint : Endpoint E, (respond c r b).1 = (e.respond r).1.map (endpoint.passed r)) ∧
      (respond c r b).2.embedded? c = some (e.respond r).2 := by
  rcases respond_embedded h r with ⟨⟨endpoint, error, hfault, -⟩, -⟩ | hpassed
  · rw [hr endpoint] at hfault
    cases hfault
  · exact hpassed

namespace Has

variable {P Q : Embedded E → Prop}

theorem mono (h : Has c P b) (hPQ : ∀ e, P e → Q e) : Has c Q b := by
  obtain ⟨e, he, hP⟩ := h
  exact ⟨e, he, hPQ e hP⟩

/-- What the connection keeps on a request the bench keeps. -/
theorem respond (h : Has c P b) (hr : ∀ e, P e → P (e.respond r).2) :
    Has c P (Bench.respond c r b).2 := by
  obtain ⟨e, he, hP⟩ := h
  rcases respond_embedded he r with ⟨-, hsame⟩ | ⟨-, hnext⟩
  · exact ⟨e, hsame, hP⟩
  · exact ⟨_, hnext, hr e hP⟩

/-- What a request that succeeds brings about. -/
theorem respond_ok (h : Has c P b) {a : r.Answer} (hok : (Bench.respond c r b).1 = .ok a)
    (hr : ∀ e a', P e → (e.respond r).1 = .ok a' → Q (e.respond r).2) :
    Has c Q (Bench.respond c r b).2 := by
  obtain ⟨e, he, hP⟩ := h
  rcases respond_embedded he r with ⟨⟨endpoint, error, -, herror⟩, -⟩ | ⟨⟨endpoint, hanswer⟩, hnext⟩
  · rw [herror] at hok
    cases hok
  · cases hown : (e.respond r).1 with
    | error error =>
        rw [hanswer, hown] at hok
        cases hok
    | ok a' => exact ⟨_, hnext, hr e a' hP hown⟩

end Has

variable {l l' : Ledger E.Contents}

theorem ledger?_eq_some_iff :
    b.ledger? c = some l ↔ b.Has c fun e => e.ledger? = some l :=
  Option.bind_eq_some_iff

/-- A request that no fault meets, and that the connection grants. -/
theorem respond_granted (hr : r.Spared) (h : b.ledger? c = some l)
    (hgrant : ∀ e : Embedded E, e.ledger? = some l → ∃ a, (e.respond r).1 = .ok a) :
    ∃ a, (respond c r b).1 = .ok a := by
  obtain ⟨e, he, hl⟩ := ledger?_eq_some_iff.mp h
  obtain ⟨a, ha⟩ := hgrant e hl
  obtain ⟨⟨endpoint, hpass⟩, -⟩ := respond_of_spared hr he
  refine ⟨endpoint.passed r a, ?_⟩
  rw [hpass, ha]
  rfl

/-- Where a request that no fault meets takes the ledger, whatever the answer. -/
theorem ledger?_respond (hr : r.Spared) (h : b.ledger? c = some l)
    (hnext : ∀ e : Embedded E, e.ledger? = some l → (e.respond r).2.ledger? = some l') :
    (respond c r b).2.ledger? c = some l' := by
  obtain ⟨e, he, hl⟩ := ledger?_eq_some_iff.mp h
  exact ledger?_eq_some_iff.mpr ⟨_, (respond_of_spared hr he).2, hnext e hl⟩

section

variable (hE : E.Transactional) (step : Step) (hstep : step.Holdable)

include hE hstep

/-- What becomes of a step that is asked for on the bench. -/
theorem respond_stepped (h : b.ledger? c = some l) :
    ∃ l', (respond c step.request b).2.ledger? c = some l' ∧
      l.Stepped step (respond c step.request b).1 l' := by
  obtain ⟨e, he, hl⟩ := ledger?_eq_some_iff.mp h
  obtain ⟨l', hl', hstepped⟩ := Embedded.respond_stepped hE _ hstep hl
  obtain ⟨⟨endpoint, hpass⟩, hnext⟩ := respond_of_spared (spared_request step) he
  refine ⟨l', ledger?_eq_some_iff.mpr ⟨_, hnext, hl'⟩, ?_⟩
  rw [hpass]
  cases hown : (e.respond step.request).1 with
  | error error =>
      rw [hown] at hstepped
      exact hstepped
  | ok a =>
      rw [hown] at hstepped
      exact hstepped

/-- A step that is refused changes nothing, be the connection open or closed. -/
theorem has_of_refused {found : Option (Ledger E.Contents)}
    (h : b.Has c fun e => e.ledger? = found) {error : DriverError}
    (hrefused : (respond c step.request b).1 = .error error) :
    (respond c step.request b).2.Has c fun e => e.ledger? = found := by
  obtain ⟨e, he, hl⟩ := h
  obtain ⟨⟨endpoint, hpass⟩, hnext⟩ := respond_of_spared (spared_request step) he
  refine ⟨_, hnext, ?_⟩
  rw [hpass] at hrefused
  cases hown : (e.respond step.request).1 with
  | error error' => exact (Embedded.ledger?_of_refused hE _ hstep hown).trans hl
  | ok a =>
      rw [hown] at hrefused
      cases hrefused

/-- Going back succeeds where there is something to go back to. -/
theorem respond_goesBack (h : b.ledger? c = some l) (hback : step.GoesBack)
    (hafter : l.after step = some l') :
    (∃ a, (respond c step.request b).1 = .ok a) ∧
      (respond c step.request b).2.ledger? c = some l' := by
  obtain ⟨a, ha⟩ := respond_granted (spared_request step) h fun e hl =>
    Embedded.respond_of_goesBack hE _ hstep hl hback (by rw [hafter]; nofun)
  obtain ⟨l₁, hl₁, hstepped⟩ := respond_stepped hE _ hstep h
  rw [ha] at hstepped
  exact ⟨⟨a, ha⟩, hl₁.trans (hstepped.symm.trans hafter)⟩

/-- Every step that can be taken is taken, if the engine grants them all. -/
theorem respond_granting (hgrants : E.Granting) (h : b.ledger? c = some l)
    (hafter : l.after step = some l') :
    (∃ a, (respond c step.request b).1 = .ok a) ∧
      (respond c step.request b).2.ledger? c = some l' := by
  obtain ⟨a, ha⟩ := respond_granted (spared_request step) h fun e hl =>
    Embedded.respond_of_granting hE _ hstep hl hgrants (by rw [hafter]; nofun)
  obtain ⟨l₁, hl₁, hstepped⟩ := respond_stepped hE _ hstep h
  rw [ha] at hstepped
  exact ⟨⟨a, ha⟩, hl₁.trans (hstepped.symm.trans hafter)⟩

/-- An engine that grants every step leaves no transaction behind a step that ends it, be there one
to end or not. -/
theorem ledger?_of_ends (hgrants : E.Granting) (h : b.ledger? c = some l) (hends : step.Ends) :
    ∃ l', (respond c step.request b).2.ledger? c = some l' ∧ l'.transaction = none := by
  obtain ⟨hnone, hended⟩ := Ledger.after_of_ends (l := l) hends
  cases hafter : l.after step with
  | none =>
      obtain ⟨l', hl', hstepped⟩ := respond_stepped hE _ hstep h
      obtain ⟨-, rfl⟩ := hstepped.of_none hafter
      exact ⟨_, hl', hnone.mp hafter⟩
  | some l' => exact ⟨l', (respond_granting hE _ hstep hgrants h hafter).2, hended l' hafter⟩

end

/-- A step is taken on an open connection only. -/
theorem open_of_taken (step : Step) (h : b.embedded? c = some e) {a : step.request.Answer}
    (hok : (respond c step.request b).1 = .ok a) : ∃ l, e.ledger? = some l := by
  obtain ⟨⟨endpoint, hpass⟩, -⟩ := respond_of_spared (spared_request step) h
  cases hown : (e.respond step.request).1 with
  | error error =>
      rw [hpass, hown] at hok
      cases hok
  | ok a' => exact Embedded.open_of_taken step hown

/-- Rolling back leaves what was committed and no transaction, be there one to roll back or not. -/
theorem ledger?_rollback (hE : E.Transactional) (h : b.ledger? c = some l) :
    (respond c .rollback b).2.ledger? c = some ⟨l.committed, none⟩ := by
  cases ht : l.transaction with
  | some t =>
      have hafter := Ledger.rollback_eq_some_iff.mpr ⟨by rw [ht]; nofun, rfl⟩
      exact (respond_goesBack hE .rollback trivial h trivial hafter).2
  | none =>
      obtain ⟨contents, transaction⟩ := l
      obtain rfl : transaction = none := ht
      obtain ⟨l', hl', hstepped⟩ := respond_stepped hE .rollback trivial h
      obtain ⟨-, rfl⟩ := hstepped.of_none rfl
      exact hl'

/-- While no transaction runs, the flag is set at once and the ledger stays. -/
theorem respond_autocommit (h : b.ledger? c = some l) (hidle : l.transaction = none) (on : Bool) :
    (∃ a, (respond c (.autocommit on) b).1 = .ok a) ∧
      (respond c (.autocommit on) b).2.ledger? c = some l := by
  refine ⟨respond_granted (fun _ => rfl) h fun e hl => ?_,
    ledger?_respond (fun _ => rfl) h fun e hl => ?_⟩
  · show ∃ a, (e.setAutocommit on).1 = .ok a
    rw [Embedded.setAutocommit_of_idle hl hidle on]
    exact ⟨(), rfl⟩
  · show (e.setAutocommit on).2.ledger? = some l
    rw [Embedded.setAutocommit_of_idle hl hidle on]
    exact hl

/-- An open embedded connection is alive. -/
theorem respond_isAlive (hE : E.Transactional) (h : b.ledger? c = some l) :
    (respond c .isAlive b).1 = .ok true ∧ (respond c .isAlive b).2.ledger? c = some l := by
  obtain ⟨e, he, hl⟩ := ledger?_eq_some_iff.mp h
  obtain ⟨halive, hkept⟩ := Embedded.isAlive_of_open hE hl
  obtain ⟨⟨endpoint, hpass⟩, hnext⟩ := respond_of_spared (r := .isAlive) (fun _ => rfl) he
  refine ⟨?_, ledger?_eq_some_iff.mpr ⟨_, hnext, hkept⟩⟩
  rw [hpass]
  exact congrArg Except.ok halive

end Bench

namespace Driver

variable {World α β : Type} {J : World → Prop}

/-- The property holds of the world after the action wherever it held before. -/
def Keeps (J : World → Prop) (m : StateM (Wire World) α) : Prop :=
  ∀ w, J w.world → J (m w).2.world

theorem Keeps.pure (a : α) : Keeps J (Pure.pure a : StateM (Wire World) α) :=
  fun _ hw => hw

theorem Keeps.get : Keeps J (MonadState.get : StateM (Wire World) (Wire World)) :=
  fun _ hw => hw

theorem Keeps.note (e : Event) : Keeps J (Driver.note e : StateM (Wire World) Unit) :=
  fun _ hw => hw

theorem Keeps.bind {m : StateM (Wire World) α} {f : α → StateM (Wire World) β} (hm : Keeps J m)
    (hf : ∀ a, Keeps J (f a)) : Keeps J (m >>= f) :=
  fun w hw => hf (m w).1 (m w).2 (hm w hw)

/-- A request keeps what the driver keeps in answering it. -/
theorem keeps_send {Address : Type} {D : Driver Address World} {c : ConnId} {r : Request}
    (hr : ∀ b, J b → J (D.respond c r b).2) : Keeps J (D.send c r) := by
  intro w hw
  rw [send_eq]
  exact hr w.world hw

/-- The question whether a connection is alive comes to the driver's answer. -/
theorem isAlive_of_respond {Address : Type} {D : Driver Address World} {c : ConnId}
    {w : Wire World} {alive : Bool} (h : (D.respond c .isAlive w.world).1 = .ok alive) :
    (D.isAlive c w).1 = alive := by
  cases hanswer : D.respond c .isAlive w.world with
  | mk answer world =>
      rw [hanswer] at h
      subst h
      unfold Driver.isAlive
      simp only [bind, StateT.bind, MonadState.get, getThe, MonadStateOf.get, StateT.get,
        Pure.pure, hanswer]
      rfl

/-- What follows a request depends on its answer. -/
theorem keeps_send_bind {Address : Type} {D : Driver Address World} {c : ConnId} {r : Request}
    {f : Except DriverError r.Answer → StateM (Wire World) β}
    (hf : ∀ b, J b → ∀ w : Wire World, w.world = (D.respond c r b).2 →
      J (f (D.respond c r b).1 w).2.world) : Keeps J (D.send c r >>= f) := by
  intro w hw
  show J (f (D.send c r w).1 (D.send c r w).2).2.world
  rw [send_eq]
  exact hf w.world hw _ rfl

end Driver

namespace Bench

open Driver (Keeps keeps_send)

variable {c : ConnId} {t : Option (Transaction E.Contents)}

/-- A request that an embedded connection answers without touching its transaction. -/
theorem keeps_request {r : Request} (hr : ∀ e : Embedded E, e.Open t → (e.respond r).2.Open t) :
    Keeps (Has c (Embedded.Open t)) (driver.send c r) :=
  keeps_send fun _ h => h.respond hr

theorem keeps_charset (name : String) :
    Keeps (Has c (Embedded.Open t)) (driver.send c (.charset name)) :=
  keeps_request fun _ h => h.of_store rfl

/-- The connection has a tame statement in hand beside its transaction. -/
abbrev HasTame (c : ConnId) (t : Option (Transaction E.Contents)) : Bench E → Prop :=
  Has c fun e => e.Open t ∧ e.Tame

section

variable (hE : E.Transactional) (hcareful : E.Careful)

include hE hcareful

theorem keeps_query {sql : String} (hsql : E.NoControl sql) :
    Keeps (Has c (Embedded.Open t)) (driver.send c (.query sql)) :=
  keeps_request fun _ h => Embedded.query_open hE hcareful hsql h

theorem keeps_performBatch {text charset : String} (htext : E.ControlFree text) :
    Keeps (Has c (Embedded.Open t)) (Session.performBatch driver charset c text) := by
  unfold Session.performBatch
  refine (keeps_charset charset).bind fun set => ?_
  rcases set with e | _
  · exact Keeps.pure _
  · exact keeps_request (r := .batch text) fun _ h => Embedded.batch_open hE hcareful htext h

/-- A staged file is loaded, or its statement is sent, which is no control of transactions. -/
theorem keeps_load (file : Batch.Load) : Keeps (Has c (Embedded.Open t)) (driver.load c file) := by
  unfold Driver.load
  refine Keeps.get.bind fun w => ?_
  by_cases hloads : driver.loads c w.world
  · simp only [hloads, if_true]
    refine keeps_request (r := .load file) fun e h => ?_
    rw [Embedded.respond]
    exact Embedded.load_open hE hcareful file h
  · simp only [hloads, Bool.false_eq_true, if_false]
    have hstatement : E.NoControl file.statement := by
      have hhead : file.statement.toList.head? = some 'L' := by
        unfold Batch.Load.statement
        simp only [String.toList_append, List.append_assoc]
        rfl
      obtain ⟨rest, hrest⟩ := List.head?_eq_some_iff.mp hhead
      exact hE.noControl_of_letter hrest (by decide) (by decide)
    refine (Keeps.note _).bind fun _ => (keeps_query hE hcareful hstatement).bind fun answer => ?_
    exact (Keeps.note _).bind fun _ => Keeps.get.bind fun _ => Keeps.pure _

theorem keeps_runPrepared (params : List Param) :
    Keeps (HasTame c t) (Session.runPrepared driver c params) := by
  have hbind : Keeps (HasTame c t) (driver.send c (.bind params)) :=
    keeps_send fun _ h => h.respond fun e he =>
      ⟨he.1.of_store (Embedded.bind_store e params).1,
        he.2.of_hand (Embedded.bind_store e params).2⟩
  have hexecute : Keeps (HasTame c t) (driver.send c .execute) :=
    keeps_send fun _ h => h.respond fun _ he => Embedded.execute_open hE hcareful he.1 he.2
  have hfetch : Keeps (HasTame c t) (driver.send c .fetch) :=
    keeps_send fun _ h => h.respond fun e he =>
      ⟨he.1.of_store (Embedded.fetch_store e).1, he.2.of_hand (Embedded.fetch_store e).2⟩
  unfold Session.runPrepared
  refine hbind.bind fun bound => ?_
  rcases bound with e | _
  · exact Keeps.pure _
  · refine hexecute.bind fun executed => ?_
    rcases executed with e | _
    · exact Keeps.pure _
    · exact hfetch

theorem keeps_perform {p : Template.Prepared} (hp : E.NoControl p.sql) :
    Keeps (Has c (Embedded.Open t)) (Session.perform driver c p) := by
  unfold Session.perform
  by_cases hparams : p.params = []
  · simp only [hparams, if_true]
    exact (keeps_query hE hcareful hp).bind fun _ => Keeps.pure _
  · simp only [hparams, if_false]
    have hclose : Keeps (HasTame c t) (driver.send c .closeStatement) :=
      keeps_send fun _ h => h.respond fun _ he => ⟨he.1.of_store rfl, fun _ hnone => nomatch hnone⟩
    have hrest : Keeps (HasTame c t) (do
        let reply ← Session.runPrepared driver c p.params
        let _ ← driver.send c .closeStatement
        return reply.mapError Error.executionFailed) :=
      (keeps_runPrepared hE hcareful p.params).bind fun _ => hclose.bind fun _ => Keeps.pure _
    refine Driver.keeps_send_bind fun b hb w hw => ?_
    cases hprepared : (driver.respond c (.prepare p.sql) b).1 with
    | error error =>
        have hkept : Has c (Embedded.Open t) (driver.respond c (.prepare p.sql) b).2 :=
          hb.respond fun e h => h.of_store (Embedded.prepare_store e p.sql)
        exact hw ▸ hkept
    | ok _ =>
        have htame : HasTame c t w.world := by
          rw [hw]
          exact hb.respond_ok hprepared fun e _ h hok =>
            ⟨h.of_store (Embedded.prepare_store e p.sql), Embedded.prepare_tame hp hok⟩
        exact (hrest w htame).mono fun _ h => h.1

theorem keeps_performUnder {p : Template.Prepared} (hp : E.NoControl p.sql) (charset : String) :
    Keeps (Has c (Embedded.Open t)) (Session.performUnder driver charset c p) := by
  unfold Session.performUnder
  refine (keeps_charset charset).bind fun set => ?_
  rcases set with e | _
  · exact Keeps.pure _
  · exact keeps_perform hE hcareful hp

end

end Bench

end SlotQuery
