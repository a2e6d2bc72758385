import SlotQuery.Proofs.Driver.Written

/-!
# What a statement asks of a driver

A statement goes to the driver as a row of requests (`Template.Prepared.requests`).  They are made
one after the other up to the first that is refused, and the answer to the last is the reply
(`Exchanged`).  A statement that could be prepared is closed afterwards, whatever became of the
other requests, and one that could not is not (`Conversed`).

`conversed_performUnder` says that sending a statement does this and nothing else.  The error that
it comes to is named after the request that was refused (`Request.blame`).
-/

namespace SlotQuery

variable {Address World : Type}

namespace Request

/-- The reply that the answer to a request is, for the requests that bring one. -/
def reply? : (r : Request) → r.Answer → Option Reply
  | query _, reply => some reply
  | fetch, reply => some reply
  | _, _ => none

/-- What an error of the driver counts as, depending on the request that was refused. -/
def blame : Request → DriverError → Error
  | prepare _ => .preparationFailed
  | bind _ | execute | fetch => .executionFailed
  | _ => .queryFailed

end Request

/-- The requests of a statement in their order.  One with parameters is prepared first. -/
def Template.Prepared.requests (charset : String) (p : Template.Prepared) : List Request :=
  .charset charset ::
    if p.params = [] then [.query p.sql]
    else [.prepare p.sql, .bind p.params, .execute, .fetch]

/-- A row of requests is made, up to the first that is refused.  It comes to the reply that the last
one brings, or to the refusal. -/
inductive Exchanged (D : Driver Address World) (c : ConnId) :
    List Request → Wire World → List Request → Except (Request × DriverError) Reply →
      Wire World → Prop
  | refused {r : Request} {rs : List Request} {e : DriverError} {w w' : Wire World}
      (h : D.send c r w = (.error e, w')) : Exchanged D c (r :: rs) w [] (.error (r, e)) w'
  | replied {r : Request} {answer : r.Answer} {reply : Reply} {w w' : Wire World}
      (h : D.send c r w = (.ok answer, w')) (hreply : r.reply? answer = some reply) :
      Exchanged D c [r] w [r] (.ok reply) w'
  | granted {r next : Request} {rs granted : List Request} {answer : r.Answer}
      {outcome : Except (Request × DriverError) Reply} {w w' w'' : Wire World}
      (h : D.send c r w = (.ok answer, w'))
      (hrest : Exchanged D c (next :: rs) w' granted outcome w'') :
      Exchanged D c (r :: next :: rs) w (r :: granted) outcome w''

/-- All requests were granted, or those before the one that was refused. -/
inductive InOrder (rs : List Request) :
    List Request → Except (Request × DriverError) Reply → Prop
  | replied (reply : Reply) : InOrder rs rs (.ok reply)
  | refused {granted : List Request} {r : Request} (h : granted ++ [r] <+: rs) (e : DriverError) :
      InOrder rs granted (.error (r, e))

/-- What a row of requests writes to the trace. -/
def exchange (c : ConnId) (granted : List Request)
    (outcome : Except (Request × DriverError) Reply) : List Event :=
  (granted.flatMap fun r => [.sent c r, .accepted]) ++
    match outcome with
    | .ok _ => []
    | .error (r, e) => [.sent c r, .refused e]

/-- The error of a refusal. -/
def blamed (outcome : Except (Request × DriverError) Reply) : Except Error Reply :=
  outcome.mapError fun refusal => refusal.1.blame refusal.2

namespace Exchanged

variable {D : Driver Address World} {c : ConnId} {rs granted : List Request}
variable {outcome : Except (Request × DriverError) Reply} {w w' : Wire World}

/-- An exchange is written to the trace as it went. -/
theorem trace (h : Exchanged D c rs w granted outcome w') :
    w'.trace = w.trace ++ exchange c granted outcome := by
  induction h with
  | refused h => exact trace_send _ h
  | replied h => exact trace_send _ h
  | granted h _ ih =>
      rw [ih, trace_send _ h]
      simp only [Driver.call, Driver.ending, exchange, List.flatMap_cons, List.append_assoc]

/-- Requests are granted in the order in which they are made. -/
theorem inOrder (h : Exchanged D c rs w granted outcome w') : InOrder rs granted outcome := by
  induction h with
  | refused h => exact .refused (List.prefix_append [_] _) _
  | replied h => exact .replied _
  | granted h hrest ih =>
      cases ih with
      | replied reply => exact .replied reply
      | refused hprefix e => exact .refused (List.cons_prefix_cons.mpr ⟨rfl, hprefix⟩) e

end Exchanged

/-- The wire once a statement has been closed, if it was prepared. -/
def Driver.closed (D : Driver Address World) (c : ConnId) (sql : String)
    (granted : List Request) (w : Wire World) : Wire World :=
  if .prepare sql ∈ granted then (D.send c .closeStatement w).2 else w

/-- A statement was sent: its requests were made in their order up to the first that was refused,
and it was closed exactly if it had been prepared. -/
structure Conversed (D : Driver Address World) (c : ConnId) (charset : String)
    (p : Template.Prepared) (w : Wire World) (granted : List Request)
    (outcome : Except (Request × DriverError) Reply) (w' : Wire World) : Prop where
  row : ∃ mid, Exchanged D c (p.requests charset) w granted outcome mid ∧
    w' = D.closed c p.sql granted mid
  order : InOrder (p.requests charset) granted outcome
  trace : ∃ closing, w'.trace = w.trace ++ (exchange c granted outcome ++ closing) ∧
    ((.prepare p.sql ∈ granted ∧ ∃ answer : Except DriverError Unit,
        closing = Driver.call c .closeStatement answer) ∨
      (.prepare p.sql ∉ granted ∧ closing = []))

section

variable {D : Driver Address World} {c : ConnId} {p : Template.Prepared} {w : Wire World}

theorem Driver.send_bind {β : Type} (r : Request)
    (f : Except DriverError r.Answer → StateM (Wire World) β) (w : Wire World) :
    (D.send c r >>= f) w = f (D.send c r w).1 (D.send c r w).2 := rfl

variable {charset : String} {granted : List Request}
variable {outcome : Except (Request × DriverError) Reply} {mid : Wire World}

/-- Where nothing was prepared, the conversation is over with its last request. -/
theorem Conversed.unprepared (h : Exchanged D c (p.requests charset) w granted outcome mid)
    (hnot : .prepare p.sql ∉ granted) : Conversed D c charset p w granted outcome mid where
  row := ⟨mid, h, (if_neg hnot).symm⟩
  order := h.inOrder
  trace := ⟨[], by rw [h.trace, List.append_nil], .inr ⟨hnot, rfl⟩⟩

/-- Where a statement was prepared, it is closed at the end. -/
theorem Conversed.prepared (h : Exchanged D c (p.requests charset) w granted outcome mid)
    (hmem : .prepare p.sql ∈ granted) :
    Conversed D c charset p w granted outcome (D.send c .closeStatement mid).2 where
  row := ⟨mid, h, (if_pos hmem).symm⟩
  order := h.inOrder
  trace := by
    refine ⟨_, ?_, .inl ⟨hmem, (D.send c .closeStatement mid).1, rfl⟩⟩
    rw [Driver.send_eq, h.trace, List.append_assoc]

/-- What binding, executing and fetching come to, as the rest of a row of requests. -/
theorem exchanged_runPrepared (params : List Param) (w : Wire World) :
    ∃ granted outcome, Exchanged D c [.bind params, .execute, .fetch] w granted outcome
        (Session.runPrepared D c params w).2 ∧
      (Session.runPrepared D c params w).1.mapError .executionFailed = blamed outcome := by
  unfold Session.runPrepared
  rw [Driver.send_bind]
  rcases hbind : D.send c (.bind params) w with ⟨e | answer, w₁⟩
  · exact ⟨_, _, .refused hbind, rfl⟩
  dsimp only
  rw [Driver.send_bind]
  rcases hexecute : D.send c .execute w₁ with ⟨e | answer', w₂⟩
  · exact ⟨_, _, .granted hbind (.refused hexecute), rfl⟩
  dsimp only
  rcases hfetch : D.send c .fetch w₂ with ⟨e | reply, w₃⟩
  · exact ⟨_, _, .granted hbind (.granted hexecute (.refused hfetch)), rfl⟩
  · exact ⟨_, _, .granted hbind (.granted hexecute (.replied hfetch rfl)), rfl⟩

/-- Sending a statement is a row of requests, after which the statement is closed if it was
prepared. -/
theorem conversed_performUnder (charset : String) (p : Template.Prepared) (w : Wire World) :
    ∃ granted outcome, Conversed D c charset p w granted outcome
        (Session.performUnder D charset c p w).2 ∧
      (Session.performUnder D charset c p w).1 = blamed outcome := by
  unfold Session.performUnder
  rw [Driver.send_bind]
  rcases hcharset : D.send c (.charset charset) w with ⟨e | _, w₁⟩
  · exact ⟨_, _, .unprepared (.refused hcharset) List.not_mem_nil, rfl⟩
  dsimp only
  unfold Session.perform
  by_cases hparams : p.params = []
  · have hrequests : p.requests charset = [.charset charset, .query p.sql] := by
      rw [Template.Prepared.requests, if_pos hparams]
    rw [if_pos hparams, Driver.send_bind]
    rcases hquery : D.send c (.query p.sql) w₁ with ⟨e | reply, w₂⟩
    · have hrow : Exchanged D c (p.requests charset) w [.charset charset]
          (.error (.query p.sql, e)) w₂ := by
        rw [hrequests]
        exact .granted hcharset (.refused hquery)
      exact ⟨_, _, .unprepared hrow (by simp), rfl⟩
    · have hrow : Exchanged D c (p.requests charset) w [.charset charset, .query p.sql]
          (.ok reply) w₂ := by
        rw [hrequests]
        exact .granted hcharset (.replied hquery rfl)
      exact ⟨_, _, .unprepared hrow (by simp), rfl⟩
  · have hrequests : p.requests charset =
        [.charset charset, .prepare p.sql, .bind p.params, .execute, .fetch] := by
      rw [Template.Prepared.requests, if_neg hparams]
    rw [if_neg hparams, Driver.send_bind]
    rcases hprepare : D.send c (.prepare p.sql) w₁ with ⟨e | _, w₂⟩
    · have hrow : Exchanged D c (p.requests charset) w [.charset charset]
          (.error (.prepare p.sql, e)) w₂ := by
        rw [hrequests]
        exact .granted hcharset (.refused hprepare)
      exact ⟨_, _, .unprepared hrow (by simp), rfl⟩
    · obtain ⟨granted, outcome, hrest, hanswer⟩ :=
        exchanged_runPrepared (D := D) (c := c) p.params w₂
      have hrow : Exchanged D c (p.requests charset) w
          (.charset charset :: .prepare p.sql :: granted) outcome
          (Session.runPrepared D c p.params w₂).2 := by
        rw [hrequests]
        exact .granted hcharset (.granted hprepare hrest)
      exact ⟨_, outcome, .prepared hrow (by simp), hanswer⟩

end

end SlotQuery
