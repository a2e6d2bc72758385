import SlotQuery.Session.Script

/-!
# What the actions of a session maintain

A property of states is maintained by an action if it holds after the action wherever it held
before, however the action ends.  This is the safe half of a Hoare triple, and it composes:
`Maintains.bind`, `Maintains.observe` and the lemmas beside them follow the way actions are
built.

Most of a session's operations differ only in what they write to the log.  `Undisturbed` collects
what a family of properties has to satisfy so that these operations maintain each of its members:
a statement, a script and a staged file may go over the wire, the log, the newest error, the
clock and the reports may change, and work that maintains the whole family still does when it is
run as a unit.  From this follow

* `Undisturbed.run`, `Undisturbed.query`, `Undisturbed.runSaved` for single statements,
* `Undisturbed.runFile` for files of statements,
* `Undisturbed.insertRows` for batches, whichever way they take.
-/

namespace SlotQuery

namespace Act

variable {World α β : Type} {I : State World → Prop}

/-- The property holds after the action wherever it held before. -/
def Maintains (I : State World → Prop) (a : Act World α) : Prop :=
  ∀ s, I s → I (run a s).2

namespace Maintains

theorem pure (a : α) : Maintains I (Pure.pure a : Act World α) :=
  fun _ hs => hs

theorem throw (e : Error) : Maintains I (MonadExcept.throw e : Act World α) :=
  fun _ hs => hs

theorem get : Maintains I (MonadState.get : Act World (State World)) :=
  fun _ hs => hs

/-- A result that is known maintains everything. -/
theorem orThrow (r : Except Error α) : Maintains I (Act.orThrow r : Act World α) := by
  intro s hs
  cases r with
  | ok a => exact hs
  | error e => exact hs

/-- Two actions in a row maintain what each of them does. -/
theorem bind {a : Act World α} {f : α → Act World β} (ha : Maintains I a)
    (hf : ∀ v, Maintains I (f v)) : Maintains I (a >>= f) := by
  intro s hs
  have hmid := ha s hs
  rw [run_bind]
  rcases hrun : run a s with ⟨r, s'⟩
  rw [hrun] at hmid
  cases r with
  | ok v => exact hf v s' hmid
  | error e => exact hmid

/-- What follows a look at the state may rely on the property of that state. -/
theorem get_bind {f : State World → Act World β} (hf : ∀ s, I s → Maintains I (f s)) :
    Maintains I (MonadState.get >>= f) :=
  fun s hs => hf s hs s hs

/-- Working out the settings maintains everything. -/
theorem effective (changes : Overrides) :
    Maintains I (Session.effective changes : Act World Settings) := by
  intro s hs
  rw [Session.run_effective]
  exact hs

theorem observe {a : Act World α} (ha : Maintains I a) : Maintains I (Act.observe a) :=
  fun s hs => ha s hs

/-- A result that is known may be counted on by what follows. -/
theorem orThrow_bind {r : Except Error α} {f : α → Act World β}
    (hf : ∀ v, r = .ok v → Maintains I (f v)) : Maintains I (Act.orThrow r >>= f) := by
  cases r with
  | ok v => exact hf v rfl
  | error e => exact Maintains.throw e

/-- An action that is only taken if nothing speaks against it. -/
theorem unless_throw {a : Act World α} (ha : Maintains I a) (e : Error) {p : Prop}
    [Decidable p] :
    Maintains I (if p then (MonadExcept.throw e : Act World PUnit) >>= fun _ => a else a) := by
  split
  · exact (throw e).bind fun _ => ha
  · exact ha

/-- Where the property fixes the connection, looking it up gives that one. -/
theorem connected_bind {c : ConnId} {f : ConnId → Act World β}
    (hI : ∀ s, I s → s.session.connection = some c) (hf : Maintains I (f c)) :
    Maintains I (connected >>= f) := by
  intro s hs
  rw [run_bind_of_ok (run_connected (hI s hs))]
  exact hf s hs

/-- A batch maintains what its statement and the load of its file do. -/
theorem insertRows {Address : Type} {D : Driver Address World} {table : String}
    {columns : List String} {rows : List (List Cell)} {changes : Overrides}
    (hinline : ∀ st sql, Batch.statement st table columns rows = .ok sql →
      Maintains I (Session.run D sql st))
    (hstaged : ∀ st, Maintains I (Session.bulkLoad D table columns rows st)) :
    Maintains I (Session.insertRows D table columns rows changes) := by
  unfold Session.insertRows
  cases rows with
  | nil => exact pure _
  | cons row rows =>
      simp only [List.isEmpty_cons]
      cases Session.ragged? columns.length (row :: rows) with
      | some place => exact throw _
      | none =>
          refine (effective changes).bind fun st => ?_
          by_cases hfits : Session.fitsInline st (row :: rows).length
          · simp only [hfits, if_true]
            exact orThrow_bind fun sql hsql => hinline st sql hsql
          · simp only [hfits]
            exact hstaged st

/-- Asking for the connection maintains everything. -/
theorem connected : Maintains I (Act.connected : Act World ConnId) := by
  refine Maintains.bind get fun s => ?_
  cases s.session.connection with
  | some c => exact pure c
  | none => exact throw _

end Maintains

end Act

/-- The command reads and does not write, or only fails. -/
def Command.OnlyLooks {Address : Type} : Command Address → Prop
  | template .. | secure _ | effective _ | settings | defaults | savedQuery _ | log | logAt _
  | logLast | logText _ | lastInsertIds | database | autocommit | fail _ => True
  | _ => False

/-- Reading the overrides of a command maintains everything. -/
theorem Command.maintains_overrides {World : Type} {I : State World → Prop}
    (changes : Option Json) :
    Act.Maintains I (Command.overrides changes : Act World Overrides) := by
  cases changes with
  | none => exact Act.Maintains.pure _
  | some j => exact Act.Maintains.orThrow _

theorem Command.maintains_silently {World : Type} {I : State World → Prop} {a : Act World Unit}
    (ha : Act.Maintains I a) : Act.Maintains I (Command.silently a) :=
  ha.bind fun _ => Act.Maintains.pure _

/-- A command that only looks maintains everything. -/
theorem Command.OnlyLooks.maintains {Address World : Type} {D : Driver Address World}
    {I : State World → Prop} {command : Command Address} (h : command.OnlyLooks) :
    Act.Maintains I (command.run D) := by
  unfold Command.run
  cases command with
  | template sql changes =>
      refine (maintains_overrides changes).bind fun o => ?_
      refine (Act.Maintains.effective o).bind fun s => ?_
      exact (Act.Maintains.orThrow _).bind fun _ => Act.Maintains.pure _
  | secure cell =>
      exact Act.Maintains.get.bind fun _ => (Act.Maintains.orThrow _).bind fun _ =>
        Act.Maintains.pure _
  | effective changes =>
      exact (maintains_overrides changes).bind fun o => (Act.Maintains.effective o).bind fun _ =>
        Act.Maintains.pure _
  | database | autocommit =>
      exact Act.Maintains.connected.bind fun _ => Act.Maintains.get.bind fun _ =>
        Act.Maintains.pure _
  | settings | defaults | savedQuery | log | logAt | logLast | logText | lastInsertIds =>
      exact Act.Maintains.get.bind fun _ => Act.Maintains.pure _
  | fail e => exact Act.Maintains.throw e
  | _ => exact h.elim

/-- The command changes the settings, the log or the saved queries, and nothing else. -/
def Command.OnlyAdjusts {Address : Type} : Command Address → Prop
  | configure _ | configureDefaults _ | resetConfiguration | resetDefaults | clearLog
  | saveQuery .. => True
  | _ => False

/-- A command that only adjusts shows neither on the wire nor in the connection and the scopes. -/
theorem Command.OnlyAdjusts.maintains {Address World : Type} {D : Driver Address World}
    {I : State World → Prop}
    (hI : ∀ s s', s'.wire = s.wire → s'.session.connection = s.session.connection →
      s'.session.scopes = s.session.scopes → I s → I s')
    {command : Command Address} (h : command.OnlyAdjusts) :
    Act.Maintains I (command.run D) := by
  have hmodify : ∀ f : State World → State World,
      (∀ s, (f s).wire = s.wire ∧ (f s).session.connection = s.session.connection ∧
        (f s).session.scopes = s.session.scopes) →
      Act.Maintains I (modify f : Act World PUnit) :=
    fun f hf s hs => hI s (f s) (hf s).1 (hf s).2.1 (hf s).2.2 hs
  unfold Command.run
  cases command with
  | configure changes =>
      refine (maintains_overrides changes).bind fun o => ?_
      refine Act.Maintains.bind ?_ fun _ => Act.Maintains.pure _
      refine (Act.Maintains.effective o).bind fun _ => ?_
      exact Act.Maintains.bind (hmodify _ fun _ => ⟨rfl, rfl, rfl⟩) fun _ => Act.Maintains.pure _
  | configureDefaults changes =>
      refine (maintains_overrides changes).bind fun o => ?_
      refine Act.Maintains.bind ?_ fun _ => Act.Maintains.pure _
      refine Act.Maintains.get.bind fun _ => (Act.Maintains.orThrow _).bind fun _ => ?_
      exact Act.Maintains.bind (hmodify _ fun _ => ⟨rfl, rfl, rfl⟩) fun _ => Act.Maintains.pure _
  | resetConfiguration | resetDefaults | clearLog | saveQuery =>
      exact maintains_silently (hmodify _ fun _ => ⟨rfl, rfl, rfl⟩)
  | _ => exact h.elim

/-- The command runs a statement, a script or a batch. -/
def Command.RunsStatements {Address : Type} : Command Address → Prop
  | query .. | runSaved .. | runFile _ | insertRows .. => True
  | _ => False

/-- The two states differ at most in the log, the newest error, the clock and the reports, and in
whether ids have left the 64 bits. -/
structure Beside {World : Type} (s s' : State World) : Prop where
  wire : s'.wire = s.wire
  connection : s'.session.connection = s.session.connection
  scopes : s'.session.scopes = s.session.scopes
  settings : s'.session.settings = s.session.settings
  saved : s'.session.saved = s.session.saved
  defaults : s'.defaults = s.defaults

open Act

/-- Every member of a family of properties outlives statements, scripts and files on a connection,
and so do units of work that maintain the whole family.  `plain` and `script` say which statements
and which scripts are meant.  Files matter only where the connection offers to load them. -/
structure Undisturbed {Address World ι : Type} (D : Driver Address World) (c : ConnId)
    (plain : Template.Prepared → Prop) (script : String → Prop) (I : ι → State World → Prop) :
    Prop where
  connected : ∀ {i s}, I i s → s.session.connection = some c
  aside : ∀ {i s s'}, I i s → Beside s s' → I i s'
  statement : ∀ {p charset}, plain p →
    ∀ i, Maintains (I i) (onWire (Session.performUnder D charset c p))
  batch : ∀ {text charset}, script text →
    ∀ i, Maintains (I i) (onWire (Session.performBatch D charset c text))
  load : ∀ {j s}, I j s → (D.capabilities c s.wire.world).bulkLoad = true →
    ∀ file i, Maintains (I i) (onWire (D.load c file))
  unit : ∀ {α : Type} {work : Act World α}, (∀ i, Maintains (I i) work) →
    ∀ propagate i, Maintains (I i) (Session.transact D propagate work)

namespace Undisturbed

variable {Address World ι : Type} {D : Driver Address World} {c : ConnId}
variable {plain : Template.Prepared → Prop} {script : String → Prop} {I : ι → State World → Prop}
variable (H : Undisturbed D c plain script I) (i : ι)

include H

/-- What leaves the wire, the connection and the units alone is outlived. -/
theorem updateSession {f : Session → Session}
    (hf : ∀ s : State World, Beside s { s with session := f s.session }) :
    Maintains (I i) (Act.updateSession f) :=
  fun s hs => H.aside hs (hf s)

theorem tick : Maintains (I i) Act.tick :=
  fun _ hs => H.aside hs ⟨rfl, rfl, rfl, rfl, rfl, rfl⟩

theorem recordError (e : Error) : Maintains (I i) (Act.recordError e) :=
  H.updateSession i fun _ => ⟨rfl, rfl, rfl, rfl, rfl, rfl⟩

theorem failWith {α : Type} (e : Error) : Maintains (I i) (Act.failWith e : Act World α) :=
  (H.recordError i e).bind fun _ => Maintains.throw e

theorem amendEntry (n : Nat) (f : LogEntry → LogEntry) :
    Maintains (I i) (Act.amendEntry n f) :=
  H.updateSession i fun _ => ⟨rfl, rfl, rfl, rfl, rfl, rfl⟩

theorem noteOverflow (beyond : Bool) : Maintains (I i) (Act.noteOverflow beyond) :=
  fun _ hs => H.aside hs ⟨rfl, rfl, rfl, rfl, rfl, rfl⟩

/-- Opening an entry is outlived. -/
theorem openEntry (query statement : String) (settings : Settings) (params : List Param) :
    Maintains (I i) (Act.openEntry D c query statement settings params) := by
  unfold Act.openEntry Act.pushEntry
  refine (H.tick i).bind fun now => Maintains.get.bind fun s => Maintains.get.bind fun s' => ?_
  exact Maintains.bind (H.updateSession i fun _ => ⟨rfl, rfl, rfl, rfl, rfl, rfl⟩)
    fun _ => Maintains.pure _

/-- A statement on the connection is outlived, if it is of the kind that is meant. -/
theorem runOn (sql : String) (s : Settings) {p : Template.Prepared} (hp : plain p) :
    Maintains (I i) (Session.runOn D c sql s p) := by
  unfold Session.runOn
  refine (H.openEntry i _ _ _ _).bind fun n => (H.statement hp i).bind fun reply =>
    Maintains.get.bind fun w => ?_
  cases reply with
  | ok reply =>
      exact (H.amendEntry i _ _).bind fun _ => (H.noteOverflow i _).bind fun _ => Maintains.pure _
  | error e =>
      refine (H.amendEntry i _ _).bind fun _ => (H.recordError i e).bind fun _ => ?_
      by_cases hthrow : s.throwErrors
      · simp only [hthrow, if_true]
        exact Maintains.throw e
      · simp only [hthrow]
        exact Maintains.pure _

/-- A template maintains what the statement does that comes of it. -/
theorem run {sql : String} {s : Settings} (hp : ∀ p, Template.prepare s sql = .ok p → plain p) :
    Maintains (I i) (Session.run D sql s) := by
  unfold Session.run
  cases hprep : Template.prepare s sql with
  | error e => exact H.failWith i e
  | ok p =>
      refine Maintains.get_bind fun s₀ hs₀ => ?_
      rw [H.connected hs₀]
      exact H.runOn i sql s (hp p hprep)

/-- A script is outlived, if it is of the kind that is meant. -/
theorem runBatch {text : String} {s : Settings}
    (ht : script (Template.condense s.delimiters text)) :
    Maintains (I i) (Session.runBatch D text s) := by
  unfold Session.runBatch
  refine Maintains.connected_bind (fun s hs => H.connected hs) ?_
  refine (H.openEntry i _ _ _ _).bind fun n => (H.batch ht i).bind fun result =>
    Maintains.get.bind fun w => ?_
  cases result with
  | ok _ => exact H.amendEntry i _ _
  | error e => exact (H.amendEntry i _ _).bind fun _ => Maintains.throw _

/-- A staged file is outlived, if its load is. -/
theorem loadStaged {file : Batch.Load} (hload : Maintains (I i) (onWire (D.load c file)))
    (s : Settings) : Maintains (I i) (Session.loadStaged D file s) := by
  unfold Session.loadStaged
  refine Maintains.connected_bind (fun s hs => H.connected hs) ?_
  refine (H.openEntry i _ _ _ _).bind fun n => hload.bind fun result => ?_
  cases result with
  | ok _ => exact (H.amendEntry i _ _).bind fun _ => Maintains.pure _
  | error e => exact (H.amendEntry i _ _).bind fun _ => Maintains.throw _

/-- The query for the largest id is outlived, if it is of the kind that is meant. -/
theorem maxId {table : String}
    (hp : ∀ s p, Template.prepare s (Session.maxIdStatement table) = .ok p → plain p)
    (s : Settings) : Maintains (I i) (Session.maxId D table s) := by
  unfold Session.maxId
  refine (H.run i (hp _)).observe.bind fun output => ?_
  refine Maintains.bind (H.updateSession i fun _ => ⟨rfl, rfl, rfl, rfl, rfl, rfl⟩) fun _ => ?_
  exact (Maintains.orThrow output).bind fun _ => Maintains.pure _

/-- A large batch is outlived, if its file and its query are. -/
theorem bulkLoad {table : String} (columns : List String) (rows : List (List Cell))
    (hp : ∀ s p, Template.prepare s (Session.maxIdStatement table) = .ok p → plain p)
    (s : Settings) : Maintains (I i) (Session.bulkLoad D table columns rows s) := by
  unfold Session.bulkLoad
  refine Maintains.connected_bind (fun s hs => H.connected hs) ?_
  refine Maintains.get_bind fun s₀ hs₀ => ?_
  by_cases hbulk : (D.capabilities c s₀.wire.world).bulkLoad
  · simp only [hbulk, not_true_eq_false, if_false]
    refine (Maintains.orThrow _).bind fun contents => (H.tick i).bind fun now => ?_
    refine (H.unit (fun j => H.loadStaged j (H.load hs₀ hbulk _ j) s) _ i).bind fun position => ?_
    cases position with
    | none => exact Maintains.pure _
    | some n =>
        refine (H.maxId i hp s).bind fun last => ?_
        cases last with
        | none => exact Maintains.pure _
        | some last =>
            exact (H.amendEntry i _ _).bind fun _ => (H.noteOverflow i _).bind fun _ =>
              Maintains.pure _
  · simp only [hbulk]
    exact Maintains.throw _

/-- A batch maintains what the statements do that may come of it. -/
theorem insertRows {table : String} {columns : List String} {rows : List (List Cell)}
    {changes : Overrides}
    (hinline : ∀ s sql p, Batch.statement s table columns rows = .ok sql →
      Template.prepare s sql = .ok p → plain p)
    (hmax : ∀ s p, Template.prepare s (Session.maxIdStatement table) = .ok p → plain p) :
    Maintains (I i) (Session.insertRows D table columns rows changes) := by
  exact Maintains.insertRows (fun s sql hsql => H.run i (hinline s sql · hsql))
    (H.bulkLoad i columns rows hmax)

/-- A template with overrides: what counts are the settings in force where it runs. -/
theorem query {sql : String} {changes : Overrides} {s : State World} (hs : I i s)
    (hp : ∀ settings, (s.session.currentSettings s.defaults).override changes = .ok settings →
      ∀ p, Template.prepare settings sql = .ok p → plain p) :
    I i (Act.run (Session.query D sql changes) s).2 := by
  unfold Session.query
  rw [run_bind, Session.run_effective]
  cases hset : (s.session.currentSettings s.defaults).override changes with
  | error e => exact hs
  | ok settings => exact H.run i (hp settings hset) s hs

/-- A saved statement: what counts is what is saved where it runs. -/
theorem runSaved {name : String} {changes : Overrides} {s : State World} (hs : I i s)
    (hp : ∀ sql, s.session.savedQuery? name = some sql → ∀ settings,
      (s.session.currentSettings s.defaults).override changes = .ok settings →
      ∀ p, Template.prepare settings sql = .ok p → plain p) :
    I i (Act.run (Session.runSaved D name changes) s).2 := by
  unfold Session.runSaved
  rw [run_get_bind]
  cases hsaved : s.session.savedQuery? name with
  | none => exact hs
  | some sql => exact H.query i hs (hp sql hsaved)

/-- A file: what counts is the script that its text becomes where it runs. -/
theorem runFile {file : Session.ScriptFile} {s : State World} (hs : I i s)
    (ht : ∀ bytes text, file.contents = some bytes → Text.decode? bytes = some text →
      script (Template.condense (s.session.currentSettings s.defaults).delimiters text)) :
    I i (Act.run (Session.runFile D file) s).2 := by
  unfold Session.runFile
  cases hbytes : file.contents with
  | none => exact hs
  | some bytes =>
      dsimp only
      cases htext : Text.decode? bytes with
      | none => exact hs
      | some text =>
          dsimp only
          rw [run_bind, Session.run_activeSettings]
          refine Maintains.bind ?_ (fun _ => Maintains.pure _) s hs
          exact H.unit (fun j => H.runBatch j (ht bytes text hbytes htext)) _ i

end Undisturbed

end SlotQuery
