import SlotQuery.Proofs.Session.Effect
import SlotQuery.Proofs.Session.Expressible

/-!
# The log is append-only

Commands add to the log or leave it alone, and only one of them clears it (`Command.effect`).
Nothing else that work can do touches the log: not what a unit asks for before its work and after
it, and not what is asked of the driver directly.  `Composed.maintains` turns this into a rule: what
the commands of some work maintain, and what outlives a growing trace, the work maintains.

Two properties of the log follow, for every driver, every session and every outcome.

* `log_append_only`: work that does not clear the log leaves the entries that were there as they
  were and where they were.
* `log_consistent`: wherever work takes a session, its log is consistent if it was so at the start.
  `Reaches` lists the states that work passes through, also inside a running unit.
-/

namespace SlotQuery

open Act Session

variable {Address World α β : Type}

/-- The log has stayed, and the trace has only grown. -/
structure LogKept (s s' : State World) : Prop where
  log : s'.session.log = s.session.log
  trace : s.wire.trace <+: s'.wire.trace

theorem Unlogged.logKept {s s' : State World} (h : Unlogged s s') : LogKept s s' where
  log := h.log
  trace := (Added.of_unlogged h).trace

/-- Work put together from commands of some kind, from units, and from requests that are made of the
session's connection directly; whatever else it does, it leaves the wire and the session alone. -/
inductive Composed (D : Driver Address World) (kind : Command Address → Prop) :
    {α : Type} → Act World α → Prop
  | aside {α : Type} {a : Act World α}
      (h : ∀ s, (run a s).2.wire = s.wire ∧ (run a s).2.session = s.session) : Composed D kind a
  | command {command : Command Address} (h : kind command) : Composed D kind (command.run D)
  | direct {α : Type} {m : ConnId → StateM (Wire World) α}
      (h : ∀ c, Driver.Emits c (fun _ => True) (m c)) :
      Composed D kind (connected >>= fun c => onWire (m c))
  | bind {α β : Type} {a : Act World α} {f : α → Act World β}
      (ha : Composed D kind a) (hf : ∀ v, Composed D kind (f v)) : Composed D kind (a >>= f)
  | caught {α : Type} {a : Act World α} (ha : Composed D kind a) : Composed D kind (observe a)
  | unit {α : Type} {work : Act World α} (propagate : Bool) (h : Composed D kind work) :
      Composed D kind (transact D propagate work)

/-- All expressible work is composed of commands of whatever kind. -/
theorem Expressible.composed {D : Driver Address World} {work : Act World α}
    (h : Expressible D work) : Composed D (fun _ => True) work := by
  induction h with
  | aside h => exact .aside h
  | command command => exact .command trivial
  | direct h => exact .direct h
  | bind _ _ iha ihf => exact .bind iha ihf
  | caught _ iha => exact .caught iha
  | unit propagate _ ih => exact .unit propagate ih

section

variable {D : Driver Address World} {kind : Command Address → Prop} {s : State World}

/-- A property that every growth of the trace leaves alone, and that the commands of the work
maintain, is maintained by the work. -/
theorem Composed.maintains {I : State World → Prop} (hkept : ∀ s s', LogKept s s' → I s → I s')
    (hcommand : ∀ command, kind command → Maintains I (command.run D)) {work : Act World α}
    (h : Composed D kind work) : Maintains I work := by
  induction h with
  | aside h =>
      intro s hs
      obtain ⟨hwire, hsession⟩ := h s
      exact hkept s _ ⟨congrArg Session.log hsession, hwire ▸ List.prefix_refl _⟩ hs
  | command h => exact hcommand _ h
  | direct h =>
      exact Maintains.connected.bind fun c s hs =>
        hkept s _ ⟨rfl, (h c).grows s.wire⟩ hs
  | bind _ _ iha ihf => exact iha.bind ihf
  | caught _ iha => exact iha.observe
  | unit propagate _ ih =>
      exact Unlogged.maintains_transact (fun s s' h => hkept s s' h.logKept) ih propagate

/-- Every command but the one that clears the log lets it grow at its end. -/
theorem Command.log_grows {command : Command Address} (h : command ≠ .clearLog) :
    s.session.log <+: (Act.run (command.run D) s).2.session.log := by
  have heffect := Command.effect (D := D) (s := s) command
  generalize Act.run (command.run D) s = outcome at heffect ⊢
  cases heffect with
  | logged _ _ hlogged =>
      obtain ⟨own, hadded, -⟩ := hlogged
      exact ⟨own, hadded.log.symm⟩
  | cleared => exact absurd rfl h
  | configured | reset | processConfigured | processReset | refused => exact List.prefix_refl _

/-- Work that does not clear the log only adds to it, whatever it comes to: the entries that were
there are there as they were, and a position names the entry that it named before. -/
theorem log_append_only {work : Act World α} (h : Composed D (· ≠ .clearLog) work) :
    s.session.log <+: (run work s).2.session.log ∧
      ∀ i < s.session.log.length, (run work s).2.session.log[i]? = s.session.log[i]? := by
  have hgrown : s.session.log <+: (run work s).2.session.log := by
    refine h.maintains (I := fun s' => s.session.log <+: s'.session.log)
      (fun s' s'' hkept hs' => ?_) (fun command hcommand s' hs' => ?_) s (List.prefix_refl _)
    · rwa [hkept.log]
    · exact hs'.trans (Command.log_grows hcommand)
  obtain ⟨own, hown⟩ := hgrown
  refine ⟨⟨own, hown⟩, fun i hi => ?_⟩
  rw [← hown, List.getElem?_append_left hi]

/-- A unit that fails over its second insert, on a session that has already run a statement. -/
theorem log_append_only_of_failed_unit :
    let D := Driver.refusing 2 ⟨1146, "no such table"⟩
    let insert (row : String) := Command.run D (.query ("INSERT INTO t (a) VALUES " ++ row) none)
    let work : Act Nat (Option Answer) := transact D false do
      let _ ← insert "(2)"
      insert "(3)"
    let s := (run (insert "(1)")
      { wire := ⟨0, []⟩
        session := { Session.new with connection := some 0 }
        defaults := .builtin
        clock := id
        reports := [] }).2
    s.session.log.length = 1 ∧ (run work s).2.session.log.length = 3 ∧
      s.session.log <+: (run work s).2.session.log := by
  intro D insert work s
  have hwork : Composed D (· ≠ .clearLog) work :=
    .unit false (.bind (.command nofun) fun _ => .command nofun)
  refine ⟨?_, ?_, (log_append_only hwork).1⟩
  · decide +kernel
  · decide +kernel

/-- The entries of the log are complete and consistent. -/
def State.LogConsistent (s : State World) : Prop :=
  ∀ e ∈ s.session.log, e.Consistent s.wire.trace

/-- A log that only grows by consistent entries stays consistent. -/
theorem LogKept.logConsistent {s s' : State World} (h : LogKept s s') (hs : s.LogConsistent) :
    s'.LogConsistent := by
  intro e he
  rw [h.log] at he
  exact (hs e he).mono h.trace

/-- No command leaves an inconsistent entry behind. -/
theorem Command.maintains_logConsistent (command : Command Address) :
    Maintains State.LogConsistent (command.run D) := by
  intro s hs
  have heffect := Command.effect (D := D) (s := s) command
  generalize Act.run (command.run D) s = outcome at heffect ⊢
  cases heffect with
  | logged _ _ hlogged =>
      obtain ⟨own, hadded, -⟩ := hlogged
      intro e he
      rw [hadded.log] at he
      exact (List.mem_append.mp he).elim (fun he => (hs e he).mono hadded.trace)
        (hadded.consistent e)
  | cleared => exact fun e he => absurd he List.not_mem_nil
  | configured | reset | processConfigured | processReset | refused => exact hs

theorem Expressible.maintains_logConsistent {work : Act World α} (h : Expressible D work) :
    Maintains State.LogConsistent work :=
  h.composed.maintains (fun _ _ hkept => hkept.logConsistent) fun command _ =>
    Command.maintains_logConsistent command

/-- When the work runs in the first state it passes through the second: at its start, at its end, or
in the course of a part of it. -/
inductive Reaches (D : Driver Address World) : {α : Type} → State World → Act World α →
    State World → Prop
  | start {α : Type} {s : State World} {work : Act World α} : Reaches D s work s
  | ended {α : Type} {s : State World} {work : Act World α} (h : Expressible D work) :
      Reaches D s work (run work s).2
  | first {α β : Type} {s s' : State World} {a : Act World α} {f : α → Act World β}
      (h : Reaches D s a s') : Reaches D s (a >>= f) s'
  | later {α β : Type} {s mid s' : State World} {a : Act World α} {f : α → Act World β} {v : α}
      (ha : Expressible D a) (hrun : run a s = (.ok v, mid)) (h : Reaches D mid (f v) s') :
      Reaches D s (a >>= f) s'
  | caught {α : Type} {s s' : State World} {a : Act World α} (h : Reaches D s a s') :
      Reaches D s (observe a) s'
  | unit {α : Type} {s s' : State World} {work : Act World α} {c : ConnId} (propagate : Bool)
      (hc : s.session.connection = some c) (hstart : s.Starts D c)
      (h : Reaches D (s.starting D c) work s') : Reaches D s (transact D propagate work) s'

/-- Wherever work takes a session, its log is consistent, if it was so when the work began. -/
theorem log_consistent {work : Act World α} {s' : State World} (h : Reaches D s work s')
    (hs : s.LogConsistent) : s'.LogConsistent := by
  induction h with
  | start => exact hs
  | ended h => exact h.maintains_logConsistent _ hs
  | first _ ih => exact ih hs
  | later ha hrun _ ih =>
      refine ih ?_
      have hmid := ha.maintains_logConsistent _ hs
      rwa [hrun] at hmid
  | caught _ ih => exact ih hs
  | unit propagate hc hstart _ ih => exact ih (hstart.unlogged.logKept.logConsistent hs)

end

/-- A unit after its first insert, when it is about to make the second. -/
theorem log_consistent_of_running_unit :
    let D := Driver.refusing 1 ⟨1146, "no such table"⟩
    let first := Command.run D (.query "INSERT INTO t (a) VALUES (<%1%>)" none)
    let second := Command.run D (.query "INSERT INTO t (a) VALUES (2)" none)
    let work : Act Nat (Option Answer) := transact D true (first >>= fun _ => second)
    let s : State Nat :=
      { wire := ⟨0, []⟩
        session := { Session.new with connection := some 0 }
        defaults := .builtin
        clock := id
        reports := [] }
    let inside := (run first (s.starting D 0)).2
    Reaches D s work inside ∧ inside.session.log.length = 1 ∧ inside.LogConsistent := by
  intro D first second work s inside
  have hstart : s.Starts D 0 := ⟨_, _, rfl, rfl⟩
  have hreaches : Reaches D s work inside := .unit true rfl hstart (.first (.ended (.command _)))
  refine ⟨hreaches, ?_, log_consistent hreaches fun e he => absurd he List.not_mem_nil⟩
  decide +kernel

end SlotQuery
