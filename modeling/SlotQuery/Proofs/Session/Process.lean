import SlotQuery.Proofs.Session.Effect

/-!
# The settings of a process and of its sessions

A process has settings that all its sessions start out from.  A session that is configured takes a
snapshot of them, with its own changes, and keeps to that; one that is not, or not any more, follows
the process.  A `Process` is any number of sessions with what they share, and `Process.after` lets
them run commands in any order.

`Process.settings_kept_apart` collects what holds of the settings at every point of such a run: all
of them are well formed, a change that fails changes nothing, no session changes what another one
reports, and only its own commands change the settings of a session that is configured.  What one
step does is `Command.effect`; the rest follows by going through the steps
(`Process.WellConfigured.after`, `Process.settings_after`).
-/

namespace SlotQuery

open Act Session

variable {Address World α β : Type}

/-- All settings around a session are well formed: those of the process, those of the session, and
those that its log tells of. -/
structure State.WellConfigured (s : State World) : Prop where
  defaults : s.defaults.WellFormed
  session : ∀ st, s.session.settings = some st → st.WellFormed
  log : ∀ e ∈ s.session.log, e.settings.WellFormed

/-- The settings in force are well formed in a well configured state. -/
theorem State.WellConfigured.current {s : State World} (h : s.WellConfigured) :
    (s.session.currentSettings s.defaults).WellFormed := by
  unfold Session.currentSettings
  cases hst : s.session.settings with
  | none => exact h.defaults
  | some st => exact h.session st hst

/-- Whatever the action answers has the property. -/
def Act.Answers (P : α → Prop) (a : Act World α) : Prop :=
  ∀ s v, (run a s).1 = .ok v → P v

/-- A value answers as it is. -/
theorem Act.Answers.pure {P : α → Prop} {a : α} (h : P a) :
    Answers P (Pure.pure a : Act World α) := by
  intro s v hv
  rwa [← Except.ok.inj hv]

theorem Act.Answers.throw {P : α → Prop} (e : Error) :
    Answers P (MonadExcept.throw e : Act World α) :=
  fun _ _ hv => nomatch hv

/-- What follows an action decides its answer. -/
theorem Act.Answers.bind {P : β → Prop} {a : Act World α} {f : α → Act World β}
    (h : ∀ v, Answers P (f v)) : Answers P (a >>= f) := by
  intro s v hv
  rw [run_bind] at hv
  rcases hrun : run a s with ⟨_ | v', s'⟩
  · rw [hrun] at hv
    cases hv
  · rw [hrun] at hv
    exact h v' s' v hv

namespace Command

variable {D : Driver Address World} {s : State World}

/-- The command answers with settings, those of the session or those for one call. -/
def Reports : Command Address → Prop
  | settings | effective _ => True
  | _ => False

/-- The command changes the settings of the process. -/
def OnProcess : Command Address → Prop
  | configureDefaults _ | resetDefaults => True
  | _ => False

/-- The command changes the settings of the session. -/
def Reconfigures : Command Address → Prop
  | configure _ | resetConfiguration => True
  | _ => False

theorem run_settings : Act.run (run D (.settings : Command Address)) s =
    (.ok (.settings (s.session.currentSettings s.defaults)), s) :=
  rfl

/-- The effective command lays its overrides over the settings in force. -/
theorem run_effective (changes : Option Json) :
    Act.run (run D (.effective changes : Command Address)) s =
      ((parsed changes >>= fun o => (s.session.currentSettings s.defaults).override o).map
        Answer.settings, s) := by
  show Act.run (overrides changes >>= fun o => Session.effective o >>= fun st =>
    pure (Answer.settings st)) s = _
  rw [run_bind, run_overrides]
  cases parsed changes with
  | error e => rfl
  | ok o =>
      dsimp only
      rw [run_bind, Session.run_effective]
      show _ = (((s.session.currentSettings s.defaults).override o).map Answer.settings, s)
      cases (s.session.currentSettings s.defaults).override o with
      | error e => rfl
      | ok st => rfl

/-- A command that reports on the settings depends on nothing else of the state. -/
theorem Reports.answer_congr {command : Command Address} (h : command.Reports) {s' : State World}
    (hs : s'.session.currentSettings s'.defaults = s.session.currentSettings s.defaults) :
    (Act.run (run D command) s').1 = (Act.run (run D command) s).1 := by
  cases command with
  | settings => rw [run_settings, run_settings, hs]
  | effective changes => rw [run_effective, run_effective, hs]
  | _ => exact h.elim

/-- A session that was configured has taken a snapshot, which it answers with. -/
theorem snapshot_of_configure {changes : Option Json} {st : Settings}
    (h : (Act.run (run D (.configure changes)) s).1 = .ok (.settings st)) :
    (Act.run (run D (.configure changes)) s).2.session.settings = some st ∧
      ∃ o, parsed changes = .ok o ∧
        (s.session.currentSettings s.defaults).override o = .ok st := by
  have heffect := effect (D := D) (s := s) (.configure changes)
  generalize Act.run (run D (.configure changes)) s = outcome at heffect h ⊢
  cases heffect with
  | logged hsettings => exact absurd trivial hsettings
  | configured ho hset =>
      cases h
      exact ⟨rfl, _, ho, hset⟩
  | refused => cases h

/-- A command that is about settings fails for what is wrong with its overrides, and then it has
changed nothing. -/
theorem unchanged_of_error {command : Command Address}
    (h : command.Configures ∨ ∃ changes, command = .effective changes) {e : Error}
    {s' : State World}
    (hrun : Act.run (run D command) s = (.error e, s')) :
    (∃ fault, e = .config fault) ∧ s' = s := by
  rcases h with h | ⟨changes, rfl⟩
  · have heffect := effect (D := D) (s := s) command
    rw [hrun] at heffect
    cases heffect with
    | logged hsettings => exact absurd h hsettings
    | refused _ fault => exact ⟨⟨fault, rfl⟩, rfl⟩
  · rw [run_effective] at hrun
    cases ho : parsed changes with
    | error e' =>
        rw [ho] at hrun
        cases hrun
        exact ⟨exists_fault_of_parsed ho, rfl⟩
    | ok o =>
        rw [ho] at hrun
        change (((s.session.currentSettings s.defaults).override o).map Answer.settings, s) = _
          at hrun
        cases hset : (s.session.currentSettings s.defaults).override o with
        | error e' =>
            rw [hset] at hrun
            cases hrun
            exact ⟨Settings.exists_fault_of_override hset, rfl⟩
        | ok st =>
            rw [hset] at hrun
            cases hrun

/-- No command makes the settings ill formed. -/
theorem maintains_wellConfigured (command : Command Address) :
    Maintains State.WellConfigured (run D command) := by
  intro s hs
  have heffect := effect (D := D) (s := s) command
  generalize Act.run (run D command) s = outcome at heffect ⊢
  cases heffect with
  | logged _ _ hlogged =>
      obtain ⟨own, hadded, hown⟩ := hlogged
      refine ⟨?_, fun st hst => hs.session st (hadded.settings.symm.trans hst), fun e he => ?_⟩
      · rw [hadded.defaults]
        exact hs.defaults
      rw [hadded.log] at he
      rcases List.mem_append.mp he with he | he
      · exact hs.log e he
      · obtain ⟨changes, hset⟩ := hown e he
        exact hs.current.override hset
  | cleared => exact ⟨hs.defaults, hs.session, fun e he => absurd he List.not_mem_nil⟩
  | configured _ hset =>
      refine ⟨hs.defaults, fun st hst => ?_, hs.log⟩
      exact Option.some.inj hst ▸ hs.current.override hset
  | reset => exact ⟨hs.defaults, fun _ hst => (nomatch hst), hs.log⟩
  | processConfigured _ hset => exact ⟨hs.defaults.override hset, hs.session, hs.log⟩
  | processReset => exact ⟨Settings.wellFormed_builtin, hs.session, hs.log⟩
  | refused => exact hs

/-- Only commands on the process change the defaults. -/
theorem defaults_kept {command : Command Address} (h : ¬ command.OnProcess) :
    (Act.run (run D command) s).2.defaults = s.defaults := by
  have heffect := effect (D := D) (s := s) command
  generalize Act.run (run D command) s = outcome at heffect ⊢
  cases heffect with
  | logged _ _ hlogged =>
      obtain ⟨own, hadded, -⟩ := hlogged
      exact hadded.defaults
  | cleared | configured | reset | refused => rfl
  | processConfigured | processReset => exact absurd trivial h

/-- Only commands that reconfigure change the settings of their session. -/
theorem settings_kept {command : Command Address} (h : ¬ command.Reconfigures) :
    (Act.run (run D command) s).2.session.settings = s.session.settings := by
  have heffect := effect (D := D) (s := s) command
  generalize Act.run (run D command) s = outcome at heffect ⊢
  cases heffect with
  | logged _ _ hlogged =>
      obtain ⟨own, hadded, -⟩ := hlogged
      exact hadded.settings
  | cleared | processConfigured | processReset | refused => rfl
  | configured | reset => exact absurd trivial h

/-- The answer is a record of settings. -/
def Told : Answer → Prop
  | .settings _ => True
  | _ => False

/-- Settings that a command answers with are well formed. -/
theorem wellFormed_of_answer (hs : s.WellConfigured) {command : Command Address} {st : Settings}
    (h : (Act.run (run D command) s).1 = .ok (.settings st)) : st.WellFormed := by
  have hother : ¬ Answers (fun answer => ¬ Told answer) (run D command) :=
    fun hanswers => hanswers s _ h trivial
  cases command with
  | settings =>
      cases h
      exact hs.current
  | defaults =>
      cases h
      exact hs.defaults
  | effective changes =>
      rw [run_effective] at h
      obtain ⟨st', hset, hst'⟩ := exists_of_map_eq_ok h
      obtain ⟨o, -, hset⟩ := exists_of_bind_eq_ok hset
      cases hst'
      exact hs.current.override hset
  | configure changes =>
      obtain ⟨-, o, -, hset⟩ := snapshot_of_configure h
      exact hs.current.override hset
  | configureDefaults changes =>
      have heffect := effect (D := D) (s := s) (.configureDefaults changes)
      generalize Act.run (run D (.configureDefaults changes)) s = outcome at heffect h
      cases heffect with
      | logged hsettings => exact absurd trivial hsettings
      | processConfigured _ hset =>
          cases h
          exact hs.defaults.override hset
      | refused => cases h
  | query | insertRows | runSaved | secure | database | autocommit =>
      exact absurd (.bind fun _ => .bind fun _ => .pure id) hother
  | template =>
      exact absurd (.bind fun _ => .bind fun _ => .bind fun _ => .pure id) hother
  | fail e => exact absurd (.throw e) hother
  | _ => exact absurd (.bind fun _ => .pure id) hother

end Command

/-- Any number of sessions, and what they share. -/
structure Process (World : Type) where
  sessions : Nat → Session
  wire : Wire World
  defaults : Settings
  clock : Nat → Nat
  reports : List Report
  overflowed : Bool := false

namespace Process

/-- One of the sessions, and what stands around it. -/
def seen (p : Process World) (i : Nat) : State World where
  wire := p.wire
  session := p.sessions i
  defaults := p.defaults
  clock := p.clock
  reports := p.reports
  overflowed := p.overflowed

/-- The process after one of its sessions has come to a state. -/
def put (p : Process World) (i : Nat) (s : State World) : Process World where
  sessions := Function.update p.sessions i s.session
  wire := s.wire
  defaults := s.defaults
  clock := s.clock
  reports := s.reports
  overflowed := s.overflowed

/-- One of the sessions runs a command. -/
def step (D : Driver Address World) (p : Process World) (i : Nat) (command : Command Address) :
    Except Error Answer × Process World :=
  let outcome := run (command.run D) (p.seen i)
  (outcome.1, p.put i outcome.2)

/-- The sessions run commands, in this order. -/
def after (D : Driver Address World) (p : Process World) :
    List (Nat × Command Address) → Process World
  | [] => p
  | (i, command) :: rest => (p.step D i command).2.after D rest

/-- A process in which nothing has been done yet. -/
def started (world : World) : Process World where
  sessions _ := Session.new
  wire := ⟨world, []⟩
  defaults := .builtin
  clock := id
  reports := []

/-- All settings in the process are well formed. -/
def WellConfigured (p : Process World) : Prop :=
  ∀ i, (p.seen i).WellConfigured

variable {D : Driver Address World} {p : Process World} {i j : Nat} {s : State World}

/-- A process starts well configured. -/
theorem wellConfigured_started (world : World) : (started world).WellConfigured :=
  fun _ =>
    { defaults := Settings.wellFormed_builtin
      session := fun _ hst => nomatch hst
      log := fun _ he => absurd he List.not_mem_nil }

@[simp] theorem put_seen (p : Process World) (i : Nat) : p.put i (p.seen i) = p := by
  simp [put, seen]

@[simp] theorem seen_put (p : Process World) (i : Nat) (s : State World) :
    (p.put i s).seen i = s := by
  simp [put, seen]

/-- The others see what the session has changed around it. -/
theorem seen_put_of_ne (h : j ≠ i) :
    (p.put i s).seen j = { s with session := p.sessions j } := by
  simp [put, seen, h]

/-- A step of any session keeps the process well configured. -/
theorem WellConfigured.step (h : p.WellConfigured) (i : Nat) (command : Command Address) :
    (p.step D i command).2.WellConfigured := by
  have hended := command.maintains_wellConfigured (D := D) (p.seen i) (h i)
  intro j
  unfold Process.step
  by_cases hj : j = i
  · subst hj
    rw [seen_put]
    exact hended
  · rw [seen_put_of_ne hj]
    exact ⟨hended.defaults, (h j).session, (h j).log⟩

theorem WellConfigured.after (h : p.WellConfigured) (steps : List (Nat × Command Address)) :
    (p.after D steps).WellConfigured := by
  induction steps generalizing p with
  | nil => exact h
  | cons first rest ih => exact ih (h.step first.1 first.2)

/-- Only its own commands change the settings of a session. -/
theorem settings_step {command : Command Address} (h : j = i → ¬ command.Reconfigures) :
    ((p.step D i command).2.seen j).session.settings = (p.seen j).session.settings := by
  unfold step
  by_cases hj : j = i
  · subst hj
    rw [seen_put]
    exact Command.settings_kept (h rfl)
  · rw [seen_put_of_ne hj]
    rfl

/-- The settings of a session are kept while no step of its own reconfigures it. -/
theorem settings_after {steps : List (Nat × Command Address)}
    (h : ∀ x ∈ steps, x.1 = j → ¬ x.2.Reconfigures) :
    ((p.after D steps).seen j).session.settings = (p.seen j).session.settings := by
  induction steps generalizing p with
  | nil => rfl
  | cons first rest ih =>
      obtain ⟨hfirst, hrest⟩ := List.forall_mem_cons.mp h
      exact (ih hrest).trans (settings_step fun hj => hfirst hj.symm)

/-- What the session reports: its settings, or those of the process while it has none. -/
def reported (p : Process World) (i : Nat) : Settings :=
  (p.sessions i).currentSettings p.defaults

/-- The state of the settings of a process and its sessions at any point of any run.

* All settings are well formed, those that commands answer with included.
* A command about settings fails for what is wrong with its overrides, and then leaves the whole
  process as it was.
* A session leaves the others as they are, and unless its command is on the process, that too: so
  the others go on reporting what they reported.
* A session that is configured takes what it reports, with its overrides, as a snapshot; one that is
  reset has none.
* Until the next of these two commands of its own, a session reports its snapshot, or without one
  the settings that the process has by then. -/
theorem settings_kept_apart {p₀ : Process World} (h₀ : p₀.WellConfigured)
    (steps : List (Nat × Command Address)) :
    let p := p₀.after D steps
    p.WellConfigured ∧
    (∀ i command,
      (∀ st, (p.step D i command).1 = .ok (.settings st) → st.WellFormed) ∧
      ((command.Configures ∨ ∃ changes, command = .effective changes) →
        ∀ e, (p.step D i command).1 = .error e →
          (∃ fault, e = .config fault) ∧ (p.step D i command).2 = p) ∧
      (∀ j ≠ i, (p.step D i command).2.sessions j = p.sessions j) ∧
      (¬ command.OnProcess → (p.step D i command).2.defaults = p.defaults ∧
        ∀ j ≠ i, ∀ report : Command Address, report.Reports →
          ((p.step D i command).2.step D j report).1 = (p.step D j report).1)) ∧
    ∀ j,
      (∀ changes st, (p.step D j (.configure changes)).1 = .ok (.settings st) →
        ((p.step D j (.configure changes)).2.sessions j).settings = some st ∧
          ∃ o, Command.parsed changes = .ok o ∧ (p.reported j).override o = .ok st) ∧
      ((p.step D j .resetConfiguration).2.sessions j).settings = none ∧
      ∀ more, (∀ x ∈ more, x.1 = j → ¬ x.2.Reconfigures) →
        (∀ st, (p.sessions j).settings = some st →
          ((p.after D more).step D j .settings).1 = .ok (.settings st)) ∧
        ((p.sessions j).settings = none →
          ((p.after D more).step D j .settings).1 = .ok (.settings (p.after D more).defaults)) := by
  intro p
  have hp : p.WellConfigured := h₀.after steps
  have hothers : ∀ i command, ∀ j ≠ i, (p.step D i command).2.sessions j = p.sessions j :=
    fun i command j hj => congrArg State.session (seen_put_of_ne hj)
  refine ⟨hp, fun i command => ⟨fun st h => ?_, fun hsettings e he => ?_, hothers i command,
    fun hprocess => ?_⟩, fun j => ⟨fun changes st h => ?_, ?_, fun more hmore => ?_⟩⟩
  · exact Command.wellFormed_of_answer (hp i) h
  · obtain ⟨hfault, hkept⟩ := Command.unchanged_of_error hsettings (Prod.ext he rfl)
    exact ⟨hfault, (congrArg (p.put i) hkept).trans (put_seen p i)⟩
  · have hdefaults : (p.step D i command).2.defaults = p.defaults :=
      Command.defaults_kept (s := p.seen i) hprocess
    refine ⟨hdefaults, fun j hj report hreport => hreport.answer_congr ?_⟩
    show ((p.step D i command).2.sessions j).currentSettings (p.step D i command).2.defaults =
      (p.sessions j).currentSettings p.defaults
    rw [hothers i command j hj, hdefaults]
  · obtain ⟨hsnapshot, hset⟩ := Command.snapshot_of_configure h
    refine ⟨?_, hset⟩
    rw [← hsnapshot]
    exact congrArg (Session.settings ∘ State.session) (seen_put p j _)
  · exact congrArg (Session.settings ∘ State.session) (seen_put p j _)
  · have hkept : ((p.after D more).sessions j).settings = (p.sessions j).settings :=
      settings_after hmore
    have hanswer : ((p.after D more).step D j .settings).1 =
        .ok (.settings (((p.after D more).sessions j).settings.getD (p.after D more).defaults)) :=
      rfl
    rw [hanswer, hkept]
    refine ⟨fun st hst => ?_, fun hnone => ?_⟩
    · rw [hst, Option.getD_some]
    · rw [hnone, Option.getD_none]

/-- A session that is configured before the process is, and one that is not configured at all. -/
theorem settings_kept_apart_of_pinned_session :
    let D := Driver.refusing 0 ⟨1146, "no such table"⟩
    let pin : Nat × Command Unit := (1, .configure (some (.obj [("charset", .str "latin1")])))
    let change : Nat × Command Unit :=
      (0, .configureDefaults (some (.obj [("omitSingleKey", .bool true)])))
    let p := (started 0).after D [pin, change]
    (p.step D 1 .settings).1 =
        .ok (.settings { Settings.builtin with charset := "latin1" }) ∧
      (p.step D 0 .settings).1 =
        .ok (.settings { Settings.builtin with omitSingleKey := true }) := by
  intro D pin change p
  have hstarted : (started 0).WellConfigured := wellConfigured_started 0
  have hpin : (((started 0).after D [pin]).sessions 1).settings =
      some { Settings.builtin with charset := "latin1" } := by decide +kernel
  have hchange : p.defaults = { Settings.builtin with omitSingleKey := true } := by decide +kernel
  obtain ⟨-, -, hpinned⟩ := settings_kept_apart (D := D) hstarted [pin]
  obtain ⟨-, -, hplain⟩ := settings_kept_apart (D := D) hstarted []
  refine ⟨((hpinned 1).2.2 [change] ?_).1 _ hpin, ?_⟩
  · exact List.forall_mem_singleton.mpr nofun
  · rw [← hchange]
    refine ((hplain 0).2.2 [pin, change] ?_).2 rfl
    exact List.forall_mem_cons.mpr ⟨nofun, List.forall_mem_singleton.mpr fun _ => id⟩

end Process

end SlotQuery
