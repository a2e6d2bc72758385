import SlotQuery.Proofs.Session.Requests

/-!
# What a connection offers, it offers for good

A connection reports which features it offers.  A driver is steady if a connection keeps to that
report as long as it stands, whatever is asked of it and whichever others are opened and hang up
(`Driver.Steady`).  Which connections there are is left to the driver to say.

The bench is steady: the connections that stand on it are those that were opened, and each of them
keeps to its script or is an embedded one (`Bench.steady`).
-/

namespace SlotQuery

section

variable {Address World : Type}

/-- The features that a session cannot do without. -/
structure Capabilities.Suffice (features : Capabilities) : Prop where
  preparedStatements : features.preparedStatements = true
  transactions : features.transactions = true

namespace Driver

/-- The connections of the first world are there in the second, and offer what they did. -/
def Retains (D : Driver Address World) (known : World → ConnId → Prop) (w w' : World) : Prop :=
  ∀ c, known w c → known w' c ∧ D.capabilities c w' = D.capabilities c w

/-- A connection is known once it was opened, and from then on it offers the same. -/
structure Steady (D : Driver Address World) (known : World → ConnId → Prop) : Prop where
  opened : ∀ address w, known (D.dial address w).2 (D.dial address w).1
  dial : ∀ address w, D.Retains known w (D.dial address w).2
  hangUp : ∀ w, D.Retains known w (D.hangUp w)
  respond : ∀ c r w, D.Retains known w (D.respond c r w).2

/-- A session can take the connection. -/
structure Serves (D : Driver Address World) (known : World → ConnId → Prop) (w : World)
    (c : ConnId) : Prop where
  known : known w c
  suffice : (D.capabilities c w).Suffice

variable {D : Driver Address World} {known : World → ConnId → Prop} {w w' w'' : World}

theorem Retains.refl (D : Driver Address World) (known : World → ConnId → Prop) (w : World) :
    D.Retains known w w :=
  fun _ hc => ⟨hc, rfl⟩

/-- What is retained twice is retained. -/
theorem Retains.trans (h : D.Retains known w w') (h' : D.Retains known w' w'') :
    D.Retains known w w'' := by
  intro c hc
  obtain ⟨hmid, hsame⟩ := h c hc
  obtain ⟨hlast, hsame'⟩ := h' c hmid
  exact ⟨hlast, hsame'.trans hsame⟩

/-- A connection that is served goes on to be. -/
theorem Serves.mono {c : ConnId} (h : D.Serves known w c) (hretains : D.Retains known w w') :
    D.Serves known w' c := by
  obtain ⟨hknown, hsame⟩ := hretains c h.known
  exact ⟨hknown, hsame.symm ▸ h.suffice⟩

theorem Steady.kept (hD : D.Steady known) (c : ConnId) (w : World) :
    D.KeptByRequests c (D.Retains known w) :=
  fun r w' h => h.trans (hD.respond c r w')

end Driver

end

namespace Scripted

/-- A statement leaves the scenario as it is. -/
theorem scenario_runStatement (s : Scripted) (sql : String) :
    (s.runStatement sql).2.scenario = s.scenario := by
  unfold runStatement count
  dsimp only
  split
  · rfl
  split
  · rfl
  split
  · split <;> rfl
  · split <;> rfl

theorem scenario_command (s : Scripted) (sql : String) :
    (s.command sql).2.scenario = s.scenario :=
  s.scenario_runStatement sql

/-- A scripted connection keeps to its script. -/
theorem scenario_respond (s : Scripted) (r : Request) : (s.respond r).2.scenario = s.scenario := by
  cases r with
  | execute =>
      have h := s.scenario_runStatement s.prepared
      simp only [respond]
      generalize s.runStatement s.prepared = outcome at h ⊢
      rcases outcome with ⟨_ | _, s'⟩ <;> exact h
  | autocommit on =>
      have h := s.scenario_command (autocommitStatement on)
      simp only [respond]
      generalize s.command (autocommitStatement on) = outcome at h ⊢
      rcases outcome with ⟨_ | _, s'⟩ <;> exact h
  | load file =>
      have h := s.scenario_runStatement file.statement
      simp only [respond]
      generalize s.runStatement file.statement = outcome at h ⊢
      rcases outcome with ⟨_ | _, s'⟩ <;> exact h
  | fetch =>
      unfold respond
      cases s.outcome <;> rfl
  | query sql => exact s.scenario_runStatement sql
  | batch sql => exact s.scenario_command sql
  | begin => exact s.scenario_command "BEGIN"
  | commit => exact s.scenario_command "COMMIT"
  | rollback => exact s.scenario_command "ROLLBACK"
  | close => exact s.scenario_command "CLOSE"
  | charset | prepare | bind | closeStatement | isAlive | reconnect => rfl

end Scripted

variable {E : Engine}

/-- A connection reports the same capabilities after a request. -/
theorem Peer.capabilities_respond (p : Peer E) (r : Request) :
    (p.respond r).2.capabilities = p.capabilities := by
  cases p with
  | scripted s => exact congrArg Scenario.capabilities (s.scenario_respond r)
  | embedded e => rfl

theorem Endpoint.capabilities_respond (e : Endpoint E) (r : Request) :
    (e.respond r).2.peer.capabilities = e.peer.capabilities := by
  unfold Endpoint.respond
  cases e.fault? r with
  | some error => rfl
  | none => exact e.peer.capabilities_respond r

namespace Bench

/-- The connection stands on the bench. -/
def Holds (b : Bench E) (c : ConnId) : Prop :=
  c < b.endpoints.length

/-- What stays on the bench with the features that it had. -/
theorem retains_of_forall {b b' : Bench E}
    (h : ∀ (c : ConnId) (e : Endpoint E), b.endpoints[c]? = some e →
      ∃ e' : Endpoint E, b'.endpoints[c]? = some e' ∧
        e'.peer.capabilities = e.peer.capabilities) : driver.Retains Holds b b' := by
  intro c hc
  obtain ⟨e', he', hsame⟩ := h c _ (List.getElem?_eq_getElem hc)
  refine ⟨(List.getElem?_eq_some_iff.mp he').1, ?_⟩
  rw [capabilities_eq he', capabilities_eq (List.getElem?_eq_getElem hc), hsame]

/-- Hanging up leaves what the connections report. -/
theorem capabilities_hangUpLast {es : List (Endpoint E)} {c : ConnId} {e : Endpoint E}
    (h : es[c]? = some e) : ∃ e' : Endpoint E, (hangUpLast es)[c]? = some e' ∧
      e'.peer.capabilities = e.peer.capabilities := by
  induction es generalizing c with
  | nil => cases h
  | cons first es ih =>
      unfold hangUpLast
      split
      · cases c with
        | zero => exact ⟨e, h, rfl⟩
        | succ c => exact ih h
      · cases c with
        | zero =>
            obtain rfl := Option.some.inj h
            split
            · next s hpeer => exact ⟨_, rfl, by rw [hpeer]; rfl⟩
            · exact ⟨_, rfl, rfl⟩
        | succ c =>
            split
            · exact ⟨e, h, rfl⟩
            · exact ⟨e, h, rfl⟩

/-- On a bench a connection offers the same for good. -/
theorem steady : (driver (E := E)).Steady Holds where
  opened e b := by
    show b.endpoints.length < (b.endpoints ++ [e]).length
    rw [List.length_append]
    exact Nat.lt_succ_self _
  dial e b := by
    refine retains_of_forall fun c e' h => ⟨e', ?_, rfl⟩
    exact (List.getElem?_append_left (List.getElem?_eq_some_iff.mp h).1).trans h
  hangUp b := retains_of_forall fun c e h => capabilities_hangUpLast h
  respond c r b := by
    refine retains_of_forall fun d e h => ?_
    show ∃ e', (respond c r b).2.endpoints[d]? = some e' ∧ _
    unfold respond
    cases hc : b.endpoints[c]? with
    | none => exact ⟨e, h, rfl⟩
    | some asked =>
        show ∃ e', (b.endpoints.set c (asked.respond r).2)[d]? = some e' ∧ _
        by_cases hcd : c = d
        · subst hcd
          obtain rfl := Option.some.inj (hc.symm.trans h)
          refine ⟨_, List.getElem?_set_self (List.getElem?_eq_some_iff.mp h).1, ?_⟩
          exact asked.capabilities_respond r
        · exact ⟨e, (List.getElem?_set_ne hcd).trans h, rfl⟩

end Bench

end SlotQuery
