import SlotQuery.Proofs.Session.Loading

/-!
# What a command does to the log and to the settings

Four commands change settings, of the session or of the process.  They succeed and change just that,
or fail over their overrides and change nothing.  One command clears the log.  Every other one
leaves all settings alone and only adds to the log, under settings that are in force
(`Command.logged`).

`Command.Effect` lists these cases and `Command.effect` says that there are no others, for every
driver and whatever a command comes to.
-/

namespace SlotQuery

open Act Session

variable {Address World α : Type}

section

variable {D : Driver Address World} {s₀ s : State World}

theorem Logged.maintains {a : Act World α} (h : ∀ s, Logged s (Act.run a s).2) :
    Maintains (Logged s₀) a :=
  fun s hs => hs.trans (h s)

theorem Unlogged.maintains_logged {a : Act World α} (h : ∀ s₀, Maintains (Unlogged s₀) a) :
    Maintains (Logged s₀) a :=
  Logged.maintains fun s => .of_unlogged (h s s (.refl s))

/-- The command changes settings, of the session or of the process. -/
def Command.Configures : Command Address → Prop
  | configure _ | configureDefaults _ | resetConfiguration | resetDefaults => True
  | _ => False

/-- A command that neither changes settings nor clears the log adds entries, under settings that are
in force. -/
theorem Command.logged {command : Command Address} (hsettings : ¬ command.Configures)
    (hclear : command ≠ .clearLog) : Logged s (Act.run (command.run D) s).2 := by
  refine (?_ : Maintains (Logged s) (command.run D)) s (.refl s)
  cases command with
  | query sql changes =>
      refine (Command.maintains_overrides changes).bind fun o => ?_
      exact (Logged.maintains fun _ => .query sql o).bind fun _ => Maintains.pure _
  | insertRows table columns rows changes =>
      refine (Command.maintains_overrides changes).bind fun o => ?_
      exact (Logged.maintains fun _ => .insertRows table columns rows o).bind fun _ =>
        Maintains.pure _
  | runSaved name changes =>
      refine (Command.maintains_overrides changes).bind fun o => ?_
      exact (Logged.maintains fun _ => .runSaved name o).bind fun _ => Maintains.pure _
  | runFile file =>
      exact (Logged.maintains fun _ => .runFile file).bind fun _ => Maintains.pure _
  | saveQuery name sql =>
      refine Command.maintains_silently (Unlogged.maintains_logged fun s₀ => ?_)
      exact Unlogged.updateSession (fun _ => rfl) fun _ => rfl
  | hangUp =>
      exact Command.maintains_silently
        (Logged.maintains fun _ => .of_unlogged (.unseen rfl rfl rfl rfl))
  | connect address on =>
      exact Command.maintains_silently
        (Unlogged.maintains_logged fun _ => Unlogged.connect address on)
  | disconnect =>
      exact Command.maintains_silently (Unlogged.maintains_logged fun _ => Unlogged.disconnect)
  | setAutocommit | commit | rollback | savepoint | rollbackTo =>
      exact Unlogged.maintains_logged fun _ =>
        Command.OnlySteers.maintains Unlogged.outlives_steering trivial
  | configure | configureDefaults | resetConfiguration | resetDefaults =>
      exact absurd trivial hsettings
  | clearLog => exact absurd rfl hclear
  | _ => exact Command.OnlyLooks.maintains trivial

/-- Everything that a command can do to the log and to the settings. -/
inductive Command.Effect (s : State World) :
    Command Address → Except Error Answer × State World → Prop
  | logged {command : Command Address} {result : Except Error Answer} {s' : State World}
    (hsettings : ¬ command.Configures) (hclear : command ≠ .clearLog) (h : Logged s s') :
    Effect s command (result, s')
  | cleared : Effect s .clearLog (.ok .unit, { s with session := { s.session with log := [] } })
  | configured {changes : Option Json} {o : Overrides} {st : Settings}
    (ho : Command.parsed changes = .ok o)
    (hset : (s.session.currentSettings s.defaults).override o = .ok st) :
    Effect s (.configure changes)
      (.ok (.settings st), { s with session := { s.session with settings := some st } })
  | reset :
    Effect s .resetConfiguration
      (.ok .unit, { s with session := { s.session with settings := none } })
  | processConfigured {changes : Option Json} {o : Overrides} {st : Settings}
    (ho : Command.parsed changes = .ok o)
    (hset : s.defaults.override o = .ok st) :
    Effect s (.configureDefaults changes) (.ok (.settings st), { s with defaults := st })
  | processReset : Effect s .resetDefaults (.ok .unit, { s with defaults := .builtin })
  | refused {command : Command Address} (hsettings : command.Configures) (fault : ConfigFault) :
    Effect s command (.error (.config fault), s)

/-- Overrides that cannot be read are a fault of configuration. -/
theorem Command.exists_fault_of_parsed {changes : Option Json} {e : Error}
    (h : Command.parsed changes = .error e) : ∃ fault, e = .config fault := by
  cases changes with
  | none => cases h
  | some j =>
      unfold Command.parsed Overrides.ofJson at h
      dsimp only at h
      split at h
      · cases h
      · exact ⟨_, (Except.error.inj h).symm⟩

/-- A command that reads overrides and puts settings under them fails for what is wrong with them
and changes nothing, or does what it does with the settings that come of them. -/
theorem Command.effect_of_override {command : Command Address} (hsettings : command.Configures)
    {changes : Option Json} {base : Settings} {f : Overrides → Act World Settings}
    (hchanged : ∀ o st, Command.parsed changes = .ok o → base.override o = .ok st →
      ∃ s', Act.run (f o) s = (.ok st, s') ∧ Command.Effect s command (.ok (.settings st), s'))
    (hrefused : ∀ o e, base.override o = .error e → Act.run (f o) s = (.error e, s)) :
    Command.Effect s command (Act.run (Command.overrides changes >>= fun o =>
      f o >>= fun st => pure (Answer.settings st)) s) := by
  rw [run_bind, Command.run_overrides]
  cases ho : Command.parsed changes with
  | error e =>
      obtain ⟨fault, rfl⟩ := Command.exists_fault_of_parsed ho
      exact .refused hsettings fault
  | ok o =>
      dsimp only
      cases hset : base.override o with
      | error e =>
          rw [run_bind_of_error (hrefused o e hset)]
          obtain ⟨fault, rfl⟩ := Settings.exists_fault_of_override hset
          exact .refused hsettings fault
      | ok st =>
          obtain ⟨s', hrun, heffect⟩ := hchanged o st ho hset
          rw [run_bind_of_ok hrun]
          exact heffect

/-- Every command has its effect on the log. -/
theorem Command.effect (command : Command Address) :
    Command.Effect s command (Act.run (command.run D) s) := by
  by_cases hsettings : command.Configures
  · cases command with
    | configure changes =>
        refine Command.effect_of_override hsettings
          (fun o st ho hset => ⟨_, ?_, .configured ho hset⟩) fun o e hset => ?_
        · rw [run_configure, hset]
        · rw [run_configure, hset]
    | configureDefaults changes =>
        refine Command.effect_of_override hsettings
          (fun o st ho hset => ⟨_, ?_, .processConfigured ho hset⟩) fun o e hset => ?_
        · rw [run_configureDefaults, hset]
        · rw [run_configureDefaults, hset]
    | resetConfiguration => exact .reset
    | resetDefaults => exact .processReset
    | _ => exact hsettings.elim
  · by_cases hclear : command = .clearLog
    · subst hclear
      exact .cleared
    · exact .logged hsettings hclear (Command.logged hsettings hclear)

end

end SlotQuery
