import SlotQuery.Proofs.Driver.Bench
import SlotQuery.Proofs.Driver.Written

/-!
# Connections on which no transaction can begin

An embedded connection refuses to begin a transaction if it is closed or if one is pending, and it
refuses in no other case if its engine grants every step that can be taken (`occupied_iff`).  The
flag that a unit turns off before can be turned off all the same.  `send_flag_begin` says what the
two requests come to and leave behind, on the connection, on the others and on the wire.
-/

namespace SlotQuery

open Engine (Ledger Step)

variable {E : Engine}

namespace Embedded

/-- No transaction can begin. -/
def Occupied (e : Embedded E) : Prop :=
  ∃ error, (e.take .begin).1 = .error error

variable {e : Embedded E}

/-- Where no transaction can begin, the request to begin one changes nothing. -/
theorem ledger?_of_occupied (hE : E.Transactional) (h : e.Occupied) :
    (e.take .begin).2.ledger? = e.ledger? := by
  obtain ⟨error, herror⟩ := h
  exact ledger?_of_refused hE .begin trivial herror

/-- An engine that grants every step refuses to begin only on a closed connection and where a
transaction is pending. -/
theorem occupied_iff (hE : E.Transactional) (hgrants : E.Granting) :
    e.Occupied ↔ ¬ e.Open none := by
  constructor
  · rintro ⟨error, herror⟩ ⟨l, hl, hidle⟩
    have hafter : l.after .begin ≠ none := by
      rw [Ledger.after, Ledger.begin_eq_some_iff.mpr ⟨hidle, rfl⟩]
      exact Option.some_ne_none _
    obtain ⟨a, ha⟩ := respond_of_granting hE .begin trivial hl hgrants hafter
    cases herror.symm.trans ha
  · intro hbusy
    cases hanswer : (e.take .begin).1 with
    | error error => exact ⟨error, hanswer⟩
    | ok u =>
        obtain ⟨l, hl⟩ := open_of_taken .begin hanswer
        obtain ⟨l', -, hstepped⟩ := take_stepped hE .begin trivial hl
        rw [hanswer] at hstepped
        exact absurd ⟨l, hl, (Ledger.begin_eq_some_iff.mp hstepped).1⟩ hbusy

/-- Steps have nothing to do with the flag. -/
theorem take_flag (e : Embedded E) (on : Bool) (step : Step) :
    Embedded.take { e with autocommit := on } step =
      ((e.take step).1, { (e.take step).2 with autocommit := on }) := by
  unfold take runAll
  dsimp only
  split
  · rfl
  · rfl

/-- The flag can always be turned off. -/
theorem setAutocommit_off (e : Embedded E) :
    e.setAutocommit false = (.ok (), { e with autocommit := false }) := by
  unfold setAutocommit
  rw [if_neg fun h => Bool.false_ne_true h.1]

end Embedded

namespace Bench

variable {c : ConnId} {e : Embedded E} {w : Wire (Bench E)}

/-- The connections other than one are as they were. -/
def OthersKept (c : ConnId) (b b' : Bench E) : Prop :=
  ∀ d, d ≠ c → b'.endpoints[d]? = b.endpoints[d]?

theorem OthersKept.trans {b b' b'' : Bench E} (h : b.OthersKept c b')
    (h' : b'.OthersKept c b'') : b.OthersKept c b'' :=
  fun d hd => (h' d hd).trans (h d hd)

/-- A request to one connection is no business of the others. -/
theorem respond_others (c : ConnId) (r : Request) (b : Bench E) :
    b.OthersKept c (respond c r b).2 := by
  intro d hd
  unfold respond
  cases b.endpoints[c]? with
  | none => rfl
  | some endpoint => exact List.getElem?_set_ne hd.symm

/-- A request for an effect alone, which no fault can answer, goes to the connection. -/
theorem send_of_spared {r : Request} (hr : r.Spared)
    (hpassed : ∀ (endpoint : Endpoint E) (a : r.Answer), endpoint.passed r a = a)
    (he : w.world.embedded? c = some e) :
    ∃ w', driver.send c r w = ((e.respond r).1, w') ∧
      w'.world.embedded? c = some (e.respond r).2 ∧
      w'.trace = w.trace ++ Driver.call c r (e.respond r).1 ∧ w.world.OthersKept c w'.world := by
  obtain ⟨⟨endpoint, hanswer⟩, hnext⟩ := respond_of_spared hr he
  have hsame : (respond c r w.world).1 = (e.respond r).1 := by
    rw [hanswer]
    cases (e.respond r).1 with
    | error error => rfl
    | ok a => exact congrArg Except.ok (hpassed endpoint a)
  have hsent : driver.send c r w = ((e.respond r).1, (driver.send c r w).2) :=
    Prod.ext hsame rfl
  exact ⟨_, hsent, hnext, trace_send _ hsent, respond_others c r w.world⟩

/-- The flag is turned off, and the request to begin is answered as the connection does. -/
theorem send_flag_begin (he : w.world.embedded? c = some e) :
    ∃ w₁ w₂, driver.send c (.autocommit false) w = (.ok (), w₁) ∧
      driver.send c .begin w₁ = ((e.take .begin).1, w₂) ∧
      w₂.world.embedded? c = some { (e.take .begin).2 with autocommit := false } ∧
      w₂.trace = w.trace ++
        Driver.call c (.autocommit false) (.ok () : Except DriverError Unit) ++
        Driver.call c .begin (e.take .begin).1 ∧
      w.world.OthersKept c w₂.world := by
  obtain ⟨w₁, hflag, he₁, htrace₁, hothers₁⟩ :=
    send_of_spared (r := .autocommit false) (fun _ => rfl) (fun _ _ => rfl) he
  rw [Embedded.respond, e.setAutocommit_off] at hflag he₁ htrace₁
  obtain ⟨w₂, hbegin, he₂, htrace₂, hothers₂⟩ :=
    send_of_spared (r := .begin) (fun _ => rfl) (fun _ _ => rfl) he₁
  rw [Embedded.respond, e.take_flag] at hbegin he₂ htrace₂
  refine ⟨w₁, w₂, hflag, hbegin, he₂, ?_, hothers₁.trans hothers₂⟩
  rw [htrace₂, htrace₁]

end Bench

end SlotQuery
