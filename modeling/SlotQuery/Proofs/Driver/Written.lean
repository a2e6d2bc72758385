import SlotQuery.Session.Run

/-!
# What a statement writes to the wire

The trace of a wire says which requests were made and how they ended.  `Writes m P` says what
running `m` adds to it, together with what `m` comes to.

A statement is preceded by the request for its character set, and is executed only if that is
accepted (`Performed`); the same goes for a script (`PerformedBatch`).  A staged file is loaded by a
request of its own, or by that request and the statement in its place (`Loaded`), and nothing
precedes it.  `writes_performUnder`, `writes_performBatch` and `writes_load` say that these are all
the possibilities.
-/

namespace SlotQuery

/-- What the bound parameters, the execution and the taking of the outcome write, up to the first
failure. -/
inductive Handled (c : ConnId) (params : List Param) :
    Except DriverError Reply → List Event → Prop
  | unbound (e : DriverError) : Handled c params (.error e) [.sent c (.bind params), .refused e]
  | unexecuted (e : DriverError) :
    Handled c params (.error e)
      [.sent c (.bind params), .accepted, .sent c .execute, .refused e]
  | executed (answer : Except DriverError Reply) :
    Handled c params answer
      ([.sent c (.bind params), .accepted, .sent c .execute, .accepted] ++
        Driver.call c .fetch answer)

/-- What a statement writes that is run: directly if it has no parameters, and prepared if it
has. -/
inductive Executed (c : ConnId) (p : Template.Prepared) : Except Error Reply → List Event → Prop
  | direct (hparams : p.params = []) (answer : Except DriverError Reply) :
    Executed c p (answer.mapError .queryFailed) (Driver.call c (.query p.sql) answer)
  | unprepared (hparams : p.params ≠ []) (e : DriverError) :
    Executed c p (.error (.preparationFailed e)) [.sent c (.prepare p.sql), .refused e]
  | prepared (hparams : p.params ≠ []) {answer : Except DriverError Reply} {own : List Event}
    (h : Handled c p.params answer own) (closed : Except DriverError Unit) :
    Executed c p (answer.mapError .executionFailed)
      ([.sent c (.prepare p.sql), .accepted] ++ own ++ Driver.call c .closeStatement closed)

/-- What a statement writes: the character set is requested, and the statement is run if that is
accepted. -/
inductive Performed (c : ConnId) (charset : String) (p : Template.Prepared) :
    Except Error Reply → List Event → Prop
  | refused (e : DriverError) :
    Performed c charset p (.error (.queryFailed e)) [.sent c (.charset charset), .refused e]
  | executed {answer : Except Error Reply} {own : List Event} (h : Executed c p answer own) :
    Performed c charset p answer ([.sent c (.charset charset), .accepted] ++ own)

/-- What a script writes. -/
inductive PerformedBatch (c : ConnId) (charset script : String) :
    Except DriverError Unit → List Event → Prop
  | refused (e : DriverError) :
    PerformedBatch c charset script (.error e) [.sent c (.charset charset), .refused e]
  | executed (answer : Except DriverError Unit) :
    PerformedBatch c charset script answer
      ([.sent c (.charset charset), .accepted] ++ Driver.call c (.batch script) answer)

/-- What a staged file writes: a request of its own, in place of which the statement may be
sent. -/
inductive Loaded (c : ConnId) (file : Batch.Load) : Except DriverError Nat → List Event → Prop
  | itself (answer : Except DriverError Nat) :
    Loaded c file answer (Driver.call c (.load file) answer)
  | stated (answer : Except DriverError Reply) (count : Nat) :
    Loaded c file (answer.map fun _ => count)
      (.sent c (.load file) ::
        (Driver.call c (.query file.statement) answer ++ [Driver.ending answer]))

/-- The first that is heard of a staged file is that it is to be loaded. -/
theorem Loaded.exists_cons {c : ConnId} {file : Batch.Load} {answer : Except DriverError Nat}
    {own : List Event} (h : Loaded c file answer own) :
    ∃ more, own = .sent c (.load file) :: more := by
  cases h with
  | itself answer => exact ⟨_, rfl⟩
  | stated answer count => exact ⟨_, rfl⟩

/-- A request writes its call. -/
theorem trace_send {Address World : Type} {D : Driver Address World} {c : ConnId} (r : Request)
    {w w' : Wire World} {answer : Except DriverError r.Answer}
    (h : D.send c r w = (answer, w')) : w'.trace = w.trace ++ Driver.call c r answer := by
  rw [Driver.send_eq] at h
  obtain ⟨rfl, rfl⟩ := Prod.mk.inj h
  rfl

namespace Driver

variable {Address World α β : Type} {c : ConnId}

/-- Running the action adds something to the trace, and what that is goes with what it comes to. -/
def Writes (m : StateM (Wire World) α) (P : α → List Event → Prop) : Prop :=
  ∀ w, ∃ own, (m w).2.trace = w.trace ++ own ∧ P (m w).1 own

namespace Writes

variable {m : StateM (Wire World) α} {f : α → StateM (Wire World) β}
variable {P : α → List Event → Prop} {Q : β → List Event → Prop}

theorem pure {a : α} (h : P a []) : Writes (Pure.pure a : StateM (Wire World) α) P :=
  fun w => ⟨[], (List.append_nil w.trace).symm, h⟩

theorem get {P : Wire World → List Event → Prop} (h : ∀ w, P w []) :
    Writes (MonadState.get : StateM (Wire World) (Wire World)) P :=
  fun w => ⟨[], (List.append_nil w.trace).symm, h w⟩

theorem note {P : Unit → List Event → Prop} {e : Event} (h : P () [e]) :
    Writes (Driver.note e : StateM (Wire World) Unit) P :=
  fun _ => ⟨[e], rfl, h⟩

/-- What comes second is judged together with what came first. -/
theorem bind (hm : Writes m P)
    (hf : ∀ a own, P a own → Writes (f a) fun b more => Q b (own ++ more)) :
    Writes (m >>= f) Q := by
  intro w
  obtain ⟨own, htrace, hown⟩ := hm w
  obtain ⟨more, htrace', hmore⟩ := hf (m w).1 own hown (m w).2
  refine ⟨own ++ more, ?_, hmore⟩
  show (f (m w).1 (m w).2).2.trace = w.trace ++ (own ++ more)
  rw [htrace', htrace, List.append_assoc]

end Writes

variable (D : Driver Address World)

/-- What a request writes is its call, with the answer that it gives. -/
theorem writes_send (r : Request) :
    Writes (D.send c r) fun answer own => own = call c r answer := by
  intro w
  refine ⟨call c r (D.send c r w).1, ?_, rfl⟩
  rw [send_eq]

/-- A request that is all there is to an action, but for what is made of its answer. -/
theorem writes_send_map {r : Request} {f : Except DriverError r.Answer → β}
    {Q : β → List Event → Prop} (h : ∀ answer, Q (f answer) (call c r answer)) :
    Writes (D.send c r >>= fun answer => Pure.pure (f answer)) Q := by
  refine (D.writes_send r).bind ?_
  rintro answer _ rfl
  refine Writes.pure ?_
  rw [List.append_nil]
  exact h answer

/-- A statement in hand writes the steps that it goes through. -/
theorem writes_runPrepared (params : List Param) :
    Writes (Session.runPrepared D c params) (Handled c params) := by
  unfold Session.runPrepared
  refine (D.writes_send (.bind params)).bind ?_
  rintro (e | _) _ rfl
  · exact .pure (.unbound e)
  refine (D.writes_send .execute).bind ?_
  rintro (e | _) _ rfl
  · exact .pure (.unexecuted e)
  intro w
  obtain ⟨own, htrace, rfl⟩ := D.writes_send (c := c) .fetch w
  exact ⟨_, htrace, .executed _⟩

/-- A statement writes the steps that it goes through, prepared or not. -/
theorem writes_perform (p : Template.Prepared) :
    Writes (Session.perform D c p) (Executed c p) := by
  unfold Session.perform
  by_cases hparams : p.params = []
  · rw [if_pos hparams]
    exact D.writes_send_map fun answer => .direct hparams answer
  rw [if_neg hparams]
  refine (D.writes_send (.prepare p.sql)).bind ?_
  rintro (e | _) _ rfl
  · exact .pure (.unprepared hparams e)
  refine (D.writes_runPrepared p.params).bind fun answer own hown => ?_
  refine D.writes_send_map fun closed => ?_
  have hrun := Executed.prepared hparams hown closed
  rw [List.append_assoc] at hrun
  exact hrun

/-- Every statement is preceded by its character set. -/
theorem writes_performUnder (charset : String) (p : Template.Prepared) :
    Writes (Session.performUnder D charset c p) (Performed c charset p) := by
  unfold Session.performUnder
  refine (D.writes_send (.charset charset)).bind ?_
  rintro (e | _) _ rfl
  · exact .pure (.refused e)
  intro w
  obtain ⟨own, htrace, hown⟩ := D.writes_perform (c := c) p w
  exact ⟨own, htrace, .executed hown⟩

/-- Every script is preceded by its character set. -/
theorem writes_performBatch (charset script : String) :
    Writes (Session.performBatch D charset c script) (PerformedBatch c charset script) := by
  unfold Session.performBatch
  refine (D.writes_send (.charset charset)).bind ?_
  rintro (e | _) _ rfl
  · exact .pure (.refused e)
  intro w
  obtain ⟨own, htrace, rfl⟩ := D.writes_send (c := c) (.batch script) w
  exact ⟨_, htrace, .executed _⟩

/-- A file writes its load, or what stands in its place. -/
theorem writes_load (file : Batch.Load) : Writes (D.load c file) (Loaded c file) := by
  unfold Driver.load
  refine Writes.bind (P := fun _ own => own = []) (Writes.get fun _ => rfl) ?_
  rintro w _ rfl
  by_cases hloads : D.loads c w.world
  · simp only [hloads, if_true]
    intro w
    obtain ⟨own, htrace, rfl⟩ := D.writes_send (c := c) (.load file) w
    exact ⟨_, htrace, .itself _⟩
  · simp only [hloads, Bool.false_eq_true, if_false]
    refine Writes.bind (P := fun _ own => own = [.sent c (.load file)]) (.note rfl) ?_
    rintro _ _ rfl
    refine (D.writes_send (.query file.statement)).bind ?_
    rintro answer _ rfl
    refine Writes.bind (P := fun _ own => own = [ending answer]) (.note rfl) ?_
    rintro _ _ rfl
    refine Writes.bind (P := fun _ own => own = []) (Writes.get fun _ => rfl) ?_
    rintro w _ rfl
    exact .pure (.stated answer _)

end Driver

end SlotQuery
