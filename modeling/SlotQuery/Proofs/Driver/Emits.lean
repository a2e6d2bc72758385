import SlotQuery.Proofs.Driver.Written

/-!
# What actions on the wire write to its trace

The trace of a wire only ever grows.  `Emits D c ok m` says by what: running `m` adds requests on
the connection `c` that satisfy `ok`, how they ended, and answers to whether `c` is alive.

Running a statement, a script or a staged file emits nothing but the nine requests that carry
statements (`Request.IsStatement`): `emits_performUnder`, `emits_performBatch`, `emits_load`.
-/

namespace SlotQuery

/-- The request carries a statement, or is part of carrying one; none of these controls a
transaction by itself. -/
def Request.IsStatement : Request → Prop
  | charset _ | prepare _ | bind _ | execute | fetch | closeStatement | query _ | batch _
  | load _ => True
  | _ => False

/-- The event is a request on a connection that is allowed there, or how one ended, or the answer to
whether that connection is alive. -/
def Event.Allowed (c : ConnId) (ok : Request → Prop) : Event → Prop
  | sent d r => d = c ∧ ok r
  | alive d _ => d = c
  | accepted => True
  | refused _ => True

theorem Event.allowed_ending {c : ConnId} {ok : Request → Prop} {α : Type}
    (answer : Except DriverError α) : (Driver.ending answer).Allowed c ok := by
  cases answer <;> trivial

/-- What is allowed under few requests is allowed under more. -/
theorem Event.Allowed.mono {c : ConnId} {ok ok' : Request → Prop} (h : ∀ r, ok r → ok' r)
    {e : Event} (he : e.Allowed c ok) : e.Allowed c ok' := by
  cases e with
  | sent d r => exact ⟨he.1, h r he.2⟩
  | accepted => trivial
  | refused e => trivial
  | alive d answer => exact he

/-- A call is allowed if its request is. -/
theorem allowed_call {c : ConnId} {ok : Request → Prop} {α : Type} {r : Request} (hr : ok r)
    (answer : Except DriverError α) : ∀ e ∈ Driver.call c r answer, e.Allowed c ok :=
  List.forall_mem_cons.mpr
    ⟨⟨rfl, hr⟩, List.forall_mem_singleton.mpr (Event.allowed_ending answer)⟩

theorem allowed_accepted {c : ConnId} {ok : Request → Prop} {r : Request} (hr : ok r) :
    ∀ e ∈ [Event.sent c r, .accepted], e.Allowed c ok :=
  allowed_call hr (.ok () : Except DriverError Unit)

theorem allowed_refused {c : ConnId} {ok : Request → Prop} {r : Request} (hr : ok r)
    (error : DriverError) : ∀ e ∈ [Event.sent c r, .refused error], e.Allowed c ok :=
  allowed_call hr (.error error : Except DriverError Unit)

namespace Driver

variable {Address World α : Type} (D : Driver Address World) {c : ConnId} {ok : Request → Prop}

/-- Running the action adds only allowed events to the trace. -/
def Emits (c : ConnId) (ok : Request → Prop) (m : StateM (Wire World) α) : Prop :=
  ∀ w, ∃ own, (m w).2.trace = w.trace ++ own ∧ ∀ e ∈ own, e.Allowed c ok

/-- The trace only grows. -/
theorem Emits.grows {m : StateM (Wire World) α} (hm : Emits c ok m) (w : Wire World) :
    w.trace <+: (m w).2.trace := by
  obtain ⟨more, htrace, -⟩ := hm w
  exact ⟨more, htrace.symm⟩

/-- A request writes itself and its end. -/
theorem emits_send {r : Request} (hr : ok r) : Emits c ok (D.send c r) := by
  intro w
  refine ⟨call c r (D.respond c r w.world).1, ?_, ?_⟩
  · rw [send_eq]
  · exact allowed_call hr _

end Driver

section

variable {α : Type} {c : ConnId} {ok : Request → Prop} {own : List Event}

/-- What becomes of a statement in hand is allowed where all statements are. -/
theorem Handled.allowed (hok : ∀ r, r.IsStatement → (∀ file, r ≠ .load file) → ok r)
    {params : List Param} {answer : Except DriverError Reply} (h : Handled c params answer own) :
    ∀ e ∈ own, e.Allowed c ok := by
  have hbind := hok (.bind params) trivial fun _ h => nomatch h
  have hexecute := hok .execute trivial fun _ h => nomatch h
  cases h with
  | unbound e => exact allowed_refused hbind e
  | unexecuted e =>
      exact List.forall_mem_append.mpr ⟨allowed_accepted hbind, allowed_refused hexecute e⟩
  | executed answer =>
      refine List.forall_mem_append.mpr ⟨?_, allowed_call (hok .fetch trivial ?_) answer⟩
      · exact List.forall_mem_append.mpr ⟨allowed_accepted hbind, allowed_accepted hexecute⟩
      · exact fun _ h => nomatch h

/-- What becomes of a statement under its character set is allowed where all statements are. -/
theorem Performed.allowed (hok : ∀ r, r.IsStatement → (∀ file, r ≠ .load file) → ok r)
    {charset : String} {p : Template.Prepared} {answer : Except Error Reply}
    (h : Performed c charset p answer own) : ∀ e ∈ own, e.Allowed c ok := by
  have hcharset := hok (.charset charset) trivial fun _ h => nomatch h
  have hquery := hok (.query p.sql) trivial fun _ h => nomatch h
  have hprepare := hok (.prepare p.sql) trivial fun _ h => nomatch h
  have hclose := hok .closeStatement trivial fun _ h => nomatch h
  cases h with
  | refused e => exact allowed_refused hcharset e
  | executed h =>
      refine List.forall_mem_append.mpr ⟨allowed_accepted hcharset, ?_⟩
      cases h with
      | direct _ answer => exact allowed_call hquery answer
      | unprepared _ e => exact allowed_refused hprepare e
      | prepared _ h closed =>
          refine List.forall_mem_append.mpr ⟨?_, allowed_call hclose closed⟩
          exact List.forall_mem_append.mpr ⟨allowed_accepted hprepare, h.allowed hok⟩

/-- What becomes of a script is allowed where all statements are. -/
theorem PerformedBatch.allowed (hok : ∀ r, r.IsStatement → (∀ file, r ≠ .load file) → ok r)
    {charset script : String} {answer : Except DriverError Unit}
    (h : PerformedBatch c charset script answer own) : ∀ e ∈ own, e.Allowed c ok := by
  have hcharset := hok (.charset charset) trivial fun _ h => nomatch h
  have hbatch := hok (.batch script) trivial fun _ h => nomatch h
  cases h with
  | refused e => exact allowed_refused hcharset e
  | executed answer =>
      exact List.forall_mem_append.mpr ⟨allowed_accepted hcharset, allowed_call hbatch answer⟩

/-- What becomes of a file is allowed where the load and its statement are. -/
theorem Loaded.allowed {file : Batch.Load} (hload : ok (.load file))
    (hquery : ok (.query file.statement)) {answer : Except DriverError Nat}
    (h : Loaded c file answer own) : ∀ e ∈ own, e.Allowed c ok := by
  cases h with
  | itself answer => exact allowed_call hload answer
  | stated answer count =>
      refine List.forall_mem_cons.mpr ⟨⟨rfl, hload⟩, ?_⟩
      exact List.forall_mem_append.mpr ⟨allowed_call hquery answer,
        List.forall_mem_singleton.mpr (Event.allowed_ending answer)⟩

end

namespace Driver

variable {Address World : Type} (D : Driver Address World) {c : ConnId} {ok : Request → Prop}

/-- What the action writes is allowed. -/
theorem Writes.emits {α : Type} {m : StateM (Wire World) α} {P : α → List Event → Prop}
    (h : Writes m P) (hP : ∀ a own, P a own → ∀ e ∈ own, e.Allowed c ok) : Emits c ok m := by
  intro w
  obtain ⟨own, htrace, hown⟩ := h w
  exact ⟨own, htrace, hP _ own hown⟩

variable (hok : ∀ r, r.IsStatement → ok r)

include hok

theorem emits_load (file : Batch.Load) : Emits c ok (D.load c file) :=
  (D.writes_load file).emits fun _ _ h => h.allowed (hok _ trivial) (hok _ trivial)

theorem emits_performUnder (charset : String) (p : Template.Prepared) :
    Emits c ok (Session.performUnder D charset c p) :=
  (D.writes_performUnder charset p).emits fun _ _ h => h.allowed fun r hr _ => hok r hr

theorem emits_performBatch (charset text : String) :
    Emits c ok (Session.performBatch D charset c text) :=
  (D.writes_performBatch charset text).emits fun _ _ h => h.allowed fun r hr _ => hok r hr

end Driver

end SlotQuery
