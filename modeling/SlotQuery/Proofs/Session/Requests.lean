import SlotQuery.Proofs.Driver.Bench
import SlotQuery.Proofs.Session.Steering

/-!
# What every request keeps

A property of the world that no request on the session's connection destroys is kept by everything
a session does with that connection: by statements, scripts and staged files, and by units of work
whose own work keeps it (`undisturbed_of_requests`).  Nothing is said of the answers, so this holds
on every path through a unit, those on which it does not start included.
-/

namespace SlotQuery

open Act Session
open Driver (Keeps keeps_send)

variable {Address World α : Type}

/-- No request on the connection destroys the property. -/
def Driver.KeptByRequests (D : Driver Address World) (c : ConnId) (J : World → Prop) : Prop :=
  ∀ r b, J b → J (D.respond c r b).2

/-- The session is on the connection, and the world has the property. -/
def OnConnection (c : ConnId) (J : World → Prop) (s : State World) : Prop :=
  s.session.connection = some c ∧ J s.wire.world

section

variable {D : Driver Address World} {c : ConnId} {J : World → Prop}
variable (hJ : D.KeptByRequests c J)

include hJ

namespace Driver.KeptByRequests

/-- A request keeps what every request keeps. -/
theorem send (r : Request) : Keeps J (D.send c r) :=
  keeps_send (hJ r)

/-- The look whether a connection is alive keeps it. -/
theorem isAlive : Keeps J (D.isAlive c) := by
  intro w hw
  have hasked : (D.isAlive c w).2.world = (D.respond c .isAlive w.world).2 := rfl
  rw [hasked]
  exact hJ .isAlive w.world hw

/-- A load keeps it. -/
theorem load (file : Batch.Load) : Keeps J (D.load c file) := by
  unfold Driver.load
  refine Keeps.get.bind fun w => ?_
  by_cases hloads : D.loads c w.world
  · simp only [hloads, if_true]
    exact hJ.send (.load file)
  · simp only [hloads, Bool.false_eq_true, if_false]
    refine (Keeps.note _).bind fun _ => (hJ.send (.query file.statement)).bind fun answer => ?_
    exact (Keeps.note _).bind fun _ => Keeps.get.bind fun _ => Keeps.pure _

/-- Performing a script keeps it. -/
theorem performBatch (charset text : String) : Keeps J (performBatch D charset c text) := by
  unfold Session.performBatch
  refine (hJ.send (.charset charset)).bind fun set => ?_
  cases set with
  | error e => exact Keeps.pure _
  | ok _ => exact hJ.send (.batch text)

/-- Running a statement that is prepared keeps it. -/
theorem runPrepared (params : List Param) : Keeps J (runPrepared D c params) := by
  unfold Session.runPrepared
  refine (hJ.send (.bind params)).bind fun bound => ?_
  cases bound with
  | error e => exact Keeps.pure _
  | ok _ =>
      refine (hJ.send .execute).bind fun executed => ?_
      cases executed with
      | error e => exact Keeps.pure _
      | ok _ => exact hJ.send .fetch

/-- Performing a statement under a character set keeps it. -/
theorem performUnder (charset : String) (p : Template.Prepared) :
    Keeps J (performUnder D charset c p) := by
  unfold Session.performUnder Session.perform
  refine (hJ.send (.charset charset)).bind fun set => ?_
  cases set with
  | error e => exact Keeps.pure _
  | ok _ =>
      by_cases hparams : p.params = []
      · simp only [hparams, if_true]
        exact (hJ.send (.query p.sql)).bind fun _ => Keeps.pure _
      · simp only [hparams, if_false]
        refine (hJ.send (.prepare p.sql)).bind fun prepared => ?_
        cases prepared with
        | error e => exact Keeps.pure _
        | ok _ =>
            exact (hJ.runPrepared p.params).bind fun _ =>
              (hJ.send .closeStatement).bind fun _ => Keeps.pure _

end Driver.KeptByRequests

namespace OnConnection

omit hJ in
theorem onWire {m : StateM (Wire World) α} (hm : Keeps J m) :
    Maintains (OnConnection c J) (Act.onWire m) :=
  fun s hs => ⟨hs.1, hm s.wire hs.2⟩

omit hJ in
/-- For this the requests that steer are enough. -/
theorem steered (hJ : ∀ r : Request, r.Steers → ∀ b, J b → J (D.respond c r b).2) :
    Steered D (OnConnection c J) where
  silent hs hsilent := ⟨hsilent.connection.trans hs.1, hsilent.wire ▸ hs.2⟩
  ask {s d r} hs hd hr := by
    obtain rfl : d = c := Option.some.inj (hd.symm.trans hs.1)
    exact ⟨hs.1, keeps_send (hJ r hr) s.wire hs.2⟩
  look {s d} hs hd := by
    obtain rfl : d = c := Option.some.inj (hd.symm.trans hs.1)
    exact ⟨hs.1, hJ .isAlive trivial s.wire.world hs.2⟩

theorem outlives_steering : Steered D (OnConnection c J) :=
  steered fun r _ => hJ r

end OnConnection

/-- Whatever every request keeps, the operations of a session on the connection keep. -/
theorem undisturbed_of_requests :
    Undisturbed D c (fun _ => True) (fun _ => True) (fun _ : Unit => OnConnection c J) where
  connected hs := hs.1
  aside hs hbeside := ⟨hbeside.connection.trans hs.1, hbeside.wire ▸ hs.2⟩
  statement {p charset} _ _ := OnConnection.onWire (hJ.performUnder charset p)
  batch {text charset} _ _ := OnConnection.onWire (hJ.performBatch charset text)
  load _ _ file _ := OnConnection.onWire (hJ.load file)
  unit hwork propagate _ := (OnConnection.outlives_steering hJ).transact (hwork ()) propagate

end

end SlotQuery
