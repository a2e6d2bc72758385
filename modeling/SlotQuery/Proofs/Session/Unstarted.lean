import SlotQuery.Proofs.Driver.Occupied
import SlotQuery.Proofs.Session.Atomicity

/-!
# Units that cannot start on an embedded connection

An outermost unit turns the autocommit flag off and begins a transaction.  On an embedded connection
the first always succeeds, and the second fails if the connection is closed or if a transaction that
the caller has begun is still pending.  Then the flag is given back, the error is raised, and the
work is not run.

Giving the flag back is not harmless.  If it was on, it is turned on, and that commits the pending
transaction; on a closed connection it fails, and the flag stays off.  `Embedded.interrupted` is
what the requests leave of the connection, and `unstarted_unit` says that this is what a unit that
cannot start leaves behind.  So it leaves the database, the transaction and the flag as they were
exactly if the flag was off or nothing was pending on an open connection.
-/

namespace SlotQuery

open Act Session
open Engine (Ledger Transaction Tables Store)

variable {E : Engine}

namespace Embedded

/-- What is left of a connection on which a unit could not start. -/
def interrupted (e : Embedded E) : Embedded E :=
  (setAutocommit { (e.take .begin).2 with autocommit := false } e.autocommit).2

/-- What is there when the connection is lost now. -/
def durable? (e : Embedded E) : Option E.Contents :=
  e.ledger?.map Ledger.committed

/-- What an outermost unit that cannot start writes to the trace. -/
def interruption (c : ConnId) (e : Embedded E) : List Event :=
  Driver.call c (.autocommit false) (.ok () : Except DriverError Unit) ++
    Driver.call c .begin (e.take .begin).1 ++
    Driver.call c (.autocommit e.autocommit)
      (setAutocommit { (e.take .begin).2 with autocommit := false } e.autocommit).1

section

variable {e : Embedded E} (hE : E.Transactional) (h : e.Occupied)

include hE h

/-- With the flag off, nothing has become of the connection. -/
theorem interrupted_of_off (hoff : e.autocommit = false) :
    e.interrupted.ledger? = e.ledger? ∧ e.interrupted.autocommit = false := by
  rw [interrupted, hoff, setAutocommit_off]
  exact ⟨ledger?_of_occupied hE h, rfl⟩

/-- With the flag on, it is given back where nothing is pending, and lost on a closed connection. -/
theorem interrupted_of_on (hon : e.autocommit = true) :
    (e.Open none → e.interrupted.ledger? = e.ledger? ∧ e.interrupted.autocommit = true) ∧
      (e.ledger? = none → e.interrupted.ledger? = none ∧ e.interrupted.autocommit = false) := by
  have hsame := ledger?_of_occupied hE h
  rw [interrupted, hon]
  constructor
  · rintro ⟨l, hl, hidle⟩
    rw [setAutocommit_of_idle (e := { (e.take .begin).2 with autocommit := false })
      (hsame.trans hl) hidle]
    exact ⟨hsame, rfl⟩
  · intro hnone
    rw [setAutocommit_of_closed (e := { (e.take .begin).2 with autocommit := false })
      (hsame.trans hnone) rfl]
    exact ⟨hsame.trans hnone, rfl⟩

/-- With the flag on and a transaction pending, that is committed and the flag is given back, or the
engine refuses to commit and the flag is lost. -/
theorem interrupted_of_pending (hon : e.autocommit = true) {l : Ledger E.Contents}
    (hl : e.ledger? = some l) (hruns : l.transaction ≠ none) :
    (e.interrupted.ledger? = some ⟨l.contents, none⟩ ∧ e.interrupted.autocommit = true) ∨
      (¬ E.Granting ∧ e.interrupted.ledger? = some l ∧ e.interrupted.autocommit = false) := by
  have hsame := ledger?_of_occupied hE h
  rw [interrupted, hon]
  obtain ⟨l', hl', hstepped, hflag, hgranted⟩ := setAutocommit_of_running hE
    (e := { (e.take .begin).2 with autocommit := false }) (hsame.trans hl) hruns rfl
  rw [hl', hflag]
  cases hanswer : (setAutocommit { (e.take .begin).2 with autocommit := false } true).1 with
  | ok u =>
      rw [hanswer] at hstepped
      obtain ⟨-, rfl⟩ := Ledger.commit_eq_some_iff.mp hstepped
      exact .inl ⟨rfl, rfl⟩
  | error error =>
      rw [hanswer] at hstepped
      obtain rfl : l' = l := hstepped
      refine .inr ⟨fun hgrants => ?_, rfl, rfl⟩
      have hok := hgranted hgrants
      rw [hanswer] at hok
      cases hok

/-- The database, the transaction and the flag are as they were exactly if the flag was off or
nothing was pending on an open connection. -/
theorem interrupted_kept_iff :
    (e.interrupted.ledger? = e.ledger? ∧ e.interrupted.autocommit = e.autocommit) ↔
      (e.autocommit = true → e.Open none) := by
  cases hflag : e.autocommit with
  | false => exact iff_of_true (interrupted_of_off hE h hflag) nofun
  | true =>
      obtain ⟨hidle, hclosed⟩ := interrupted_of_on hE h hflag
      refine ⟨fun hkept _ => ?_, fun hopen => hidle (hopen rfl)⟩
      obtain ⟨hledger, hon⟩ := hkept
      cases hl : e.ledger? with
      | none =>
          rw [(hclosed hl).2] at hon
          cases hon
      | some l =>
          refine ⟨l, hl, ?_⟩
          by_contra hruns
          rcases interrupted_of_pending hE h hflag hl hruns with ⟨hcommitted, -⟩ | ⟨-, -, hoff⟩
          · rw [hl, hcommitted] at hledger
            exact hruns (congrArg Ledger.transaction (Option.some.inj hledger)).symm
          · rw [hoff] at hon
            cases hon

/-- Where the engine grants every step, a pending transaction is committed if the flag was on. -/
theorem interrupted_of_granting (hgrants : E.Granting) :
    ¬ e.Open none ∧
      e.interrupted.ledger? =
        (if e.autocommit then e.ledger?.map fun l => ⟨l.contents, none⟩ else e.ledger?) ∧
      e.interrupted.autocommit = (e.autocommit && e.ledger?.isSome) := by
  have hbusy := (occupied_iff hE hgrants).mp h
  refine ⟨hbusy, ?_⟩
  cases hflag : e.autocommit with
  | false => exact interrupted_of_off hE h hflag
  | true =>
      rw [if_pos rfl]
      cases hl : e.ledger? with
      | none => exact (interrupted_of_on hE h hflag).2 hl
      | some l =>
          have hruns : l.transaction ≠ none := fun hidle => hbusy ⟨l, hl, hidle⟩
          rcases interrupted_of_pending hE h hflag hl hruns with hcommitted | ⟨hrefuses, -⟩
          · exact hcommitted
          · exact (hrefuses hgrants).elim

end

end Embedded

/-- What is read off an embedded connection. -/
theorem Bench.read_of_embedded {α : Type} (default : α) (f : Peer E → α) {c : ConnId} {b : Bench E}
    {e : Embedded E} (he : b.embedded? c = some e) : read default f c b = f (.embedded e) := by
  obtain ⟨endpoint, hendpoint, hpeer⟩ := Option.bind_eq_some_iff.mp he
  unfold read
  rw [hendpoint]
  cases hfar : endpoint.peer with
  | scripted scripted =>
      rw [hfar] at hpeer
      cases hpeer
  | embedded e' =>
      rw [hfar] at hpeer
      obtain rfl := Option.some.inj hpeer
      exact congrArg f hfar

section

variable {c : ConnId} {s : State (Bench E)} {e : Embedded E}
variable (hc : s.session.connection = some c) (hout : s.session.scopes = [])
variable (he : s.wire.world.embedded? c = some e)

include he

/-- What a unit asks for that cannot start. -/
theorem send_interrupted :
    ∃ w₁ w₂ w₃, Bench.driver.send c (.autocommit false) s.wire = (.ok (), w₁) ∧
      Bench.driver.send c .begin w₁ = ((e.take .begin).1, w₂) ∧
      (Bench.driver.send c (.autocommit e.autocommit) w₂).2 = w₃ ∧
      w₃.trace = s.wire.trace ++ e.interruption c ∧
      w₃.world.embedded? c = some e.interrupted ∧ s.wire.world.OthersKept c w₃.world := by
  obtain ⟨w₁, w₂, hflag, hbegin, he₂, htrace₂, hothers⟩ := Bench.send_flag_begin he
  obtain ⟨w₃, hback, he₃, htrace₃, hothers₃⟩ :=
    Bench.send_of_spared (r := .autocommit e.autocommit) (fun _ => rfl) (fun _ _ => rfl) he₂
  refine ⟨w₁, w₂, w₃, hflag, hbegin, congrArg Prod.snd hback, ?_, he₃, hothers.trans hothers₃⟩
  rw [htrace₃, htrace₂, Embedded.interruption]
  simp only [List.append_assoc]
  rfl

include hout

/-- The unit cannot start exactly if no transaction can begin. -/
theorem refuses_iff_occupied :
    (∃ error, s.Refuses Bench.driver c error) ↔ e.Occupied := by
  have hfree : s.session.inTransaction = false := State.inTransaction_eq_false_iff.mpr hout
  obtain ⟨w₁, w₂, -, hflag, hbegin, -⟩ := send_interrupted he
  simp only [State.Refuses, hfree, Bool.false_eq_true, if_false]
  constructor
  · rintro ⟨error, error', w₀, -, hflag' | ⟨w₁', hflag', hbegin'⟩⟩
    · rw [hflag] at hflag'
      cases hflag'
    · rw [hflag] at hflag'
      obtain ⟨-, rfl⟩ := Prod.mk.inj hflag'
      rw [hbegin] at hbegin'
      exact ⟨error', (Prod.mk.inj hbegin').1⟩
  · rintro ⟨error, herror⟩
    rw [herror] at hbegin
    exact ⟨.queryFailed error, error, w₂, rfl, .inr ⟨w₁, hflag, hbegin⟩⟩

include hc

/-- An outermost unit cannot start exactly if no transaction can begin.  Then its error is raised
whatever its work is, which is not run; the session is as before, and so are all other connections.
The database, the transaction and the flag are as before exactly if the flag was off or nothing was
pending on an open connection.

Where the engine grants every step, the connection was closed or a transaction pending.  If the flag
was on, the pending transaction has been committed. -/
theorem unstarted_unit (hE : E.Transactional) :
    ((∃ error, s.Refuses Bench.driver c error) ↔ e.Occupied) ∧
      (∀ error, (e.take .begin).1 = .error error → ∃ w,
        (∀ (α : Type) (propagate : Bool) (work : Act (Bench E) α),
          run (transact Bench.driver propagate work) s =
            (.error (.queryFailed error), s.onto w)) ∧
        w.trace = s.wire.trace ++ e.interruption c ∧
        w.world.embedded? c = some e.interrupted ∧ s.wire.world.OthersKept c w.world) ∧
      (e.Occupied →
        ((e.interrupted.ledger? = e.ledger? ∧ e.interrupted.autocommit = e.autocommit) ↔
          (e.autocommit = true → e.Open none)) ∧
        (E.Granting → ¬ e.Open none ∧
          e.interrupted.ledger? =
            (if e.autocommit then e.ledger?.map fun l => ⟨l.contents, none⟩ else e.ledger?) ∧
          e.interrupted.autocommit = (e.autocommit && e.ledger?.isSome) ∧
          e.interrupted.durable? = if e.autocommit then e.contents? else e.durable?)) := by
  refine ⟨refuses_iff_occupied hout he, fun error herror => ?_, fun h =>
    ⟨Embedded.interrupted_kept_iff hE h, fun hgrants => ?_⟩⟩
  · have hfree : s.session.inTransaction = false := State.inTransaction_eq_false_iff.mpr hout
    have hprior : Bench.driver.autocommit c s.wire.world = e.autocommit :=
      Bench.read_of_embedded true Peer.autocommit he
    obtain ⟨w₁, w₂, w₃, hflag, hbegin, hback, htrace, he₃, hothers⟩ := send_interrupted he
    rw [herror] at hbegin
    refine ⟨w₃, fun α propagate work => ?_, htrace, he₃, hothers⟩
    rw [run_transact, unitBody_outermost _ hfree,
      run_outermost_of_begin_refused Bench.driver hc hflag hbegin work, hprior, hback]
    rfl
  · obtain ⟨hbusy, hledger, hflag⟩ := Embedded.interrupted_of_granting hE h hgrants
    refine ⟨hbusy, hledger, hflag, ?_⟩
    rw [Embedded.durable?, hledger]
    split
    · rw [Option.map_map]
      rfl
    · rfl

end

/-- The caller has begun a transaction, with the flag on, and inserted a row.  A unit cannot start,
and the row is committed. -/
theorem unstarted_unit_of_pending_row :
    let before : Tables := [⟨"t", ["a"], none, []⟩]
    let pending : Tables := [⟨"t", ["a"], none, [⟨1, [.int 5]⟩]⟩]
    let store : Store := ⟨⟨pending, some ⟨before, []⟩⟩, 1, 1⟩
    let e : Embedded Engine.small := { Embedded.opened none with store := some store }
    let s : State (Bench Engine.small) :=
      { wire := ⟨⟨[⟨default, .embedded e, ""⟩]⟩, []⟩
        session := { Session.new with connection := some 0 }
        defaults := .builtin
        clock := id
        reports := [] }
    let error : DriverError := ⟨1, "cannot start a transaction within a transaction"⟩
    s.session.connection = some 0 ∧ s.session.scopes = [] ∧
      s.wire.world.embedded? 0 = some e ∧ (e.take .begin).1 = .error error ∧
      e.durable? = some before ∧
      ∃ w, run (transact Bench.driver true (pure ())) s = (.error (.queryFailed error), s.onto w) ∧
        w.world.embedded? 0 = some e.interrupted ∧ e.interrupted.ledger? ≠ e.ledger? ∧
        e.interrupted.durable? = some pending := by
  intro before pending store e s error
  have hrefused : (e.take .begin).1 = .error error := by decide +kernel
  obtain ⟨-, hunstarted, hleft⟩ :=
    unstarted_unit (c := 0) (s := s) (e := e) rfl rfl rfl Engine.small_transactional
  obtain ⟨w, hrun, -, he, -⟩ := hunstarted error hrefused
  obtain ⟨-, hgranted⟩ := hleft ⟨error, hrefused⟩
  obtain ⟨-, hledger, -, hdurable⟩ := hgranted Engine.small_granting
  refine ⟨rfl, rfl, rfl, hrefused, rfl, w, hrun Unit true (pure ()), he, ?_, hdurable⟩
  rw [hledger]
  nofun

end SlotQuery
