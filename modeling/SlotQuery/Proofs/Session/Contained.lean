import SlotQuery.Proofs.Session.Standing
import SlotQuery.Proofs.Text.Letters

/-!
# Work that stays within its unit

Work is contained in its unit if it is put together from session commands and from units inside
it, and if what it asks of the transaction is its own affair: no statement of it controls the
transaction, the savepoints that it goes back to are live ones that it set itself under names of
its own, and only a unit inside another commits or rolls back by itself.  `Contained` follows a
run, command by command and through the failures that are caught or passed on, and keeps the list
of live savepoints.

A running unit stays standing under contained work (`Contained.standing`).
-/

namespace SlotQuery

open Act Session
open Engine (Ledger sameName sameName_iff Holdable)

variable {E : Engine} {Address World α β : Type}

/-- A name that the engine can hold, and that is none of the generated ones. -/
def Ordinary (name : String) : Prop :=
  Holdable name ∧ ∀ clock depth, sameName name (savepointName clock depth) = false

/-- The running unit is guarded by a savepoint. -/
def State.Guarded (s : State World) : Prop :=
  (s.session.scopes.head?.bind Scope.savepoint).isSome = true

namespace Command

/-- What the overrides of a call are read as. -/
def parsed : Option Json → Except Error Overrides
  | none => .ok .none
  | some j => Overrides.ofJson j

/-- Reading the overrides of a command looks at nothing else. -/
theorem run_overrides (changes : Option Json) (s : State World) :
    Act.run (overrides changes) s = (parsed changes, s) := by
  cases changes with
  | none => rfl
  | some j => exact run_orThrow _ s

/-- A command that reads its overrides first goes on with them, or changes nothing. -/
theorem after_overrides (I : State World → Prop) {s : State World} (hs : I s)
    {changes : Option Json} {f : Overrides → Act World β}
    (hf : ∀ o, parsed changes = .ok o → I (Act.run (f o) s).2) :
    I (Act.run (overrides changes >>= f) s).2 := by
  rw [run_bind, run_overrides]
  cases ho : parsed changes with
  | error e => exact hs
  | ok o => exact hf o ho

/-- Under the settings in force, with the overrides of the call, the template becomes no statement
that controls transactions. -/
def TemplateFree (s : State (Bench E)) (sql : String) (changes : Option Json) : Prop :=
  ∀ o settings p, parsed changes = .ok o →
    (s.session.currentSettings s.defaults).override o = .ok settings →
    Template.prepare settings sql = .ok p → E.NoControl p.sql

/-- The command neither changes the connection nor controls its transaction. -/
def Plain (s : State (Bench E)) : Command (Endpoint E) → Prop
  | query sql changes => TemplateFree s sql changes
  | runSaved name changes =>
    ∀ sql, s.session.savedQuery? name = some sql → TemplateFree s sql changes
  | runFile file =>
    ∀ bytes text, file.contents = some bytes → Text.decode? bytes = some text →
      E.ControlFree (Template.condense (s.session.currentSettings s.defaults).delimiters text)
  | connect .. | disconnect | hangUp | setAutocommit _ | commit | rollback | savepoint _
  | rollbackTo _ => False
  | _ => True

/-- The command stays within the unit that runs, and takes its live savepoints from one list to
another. -/
inductive Moves (s : State (Bench E)) (live : List String) :
    Command (Endpoint E) → List String → Prop
  | plain {command : Command (Endpoint E)} (h : command.Plain s) : Moves s live command live
  | savepoint {name : String} (h : Ordinary name) : Moves s live (.savepoint name) (name :: live)
  | rollbackTo {name : String} (h : ∃ x ∈ live, sameName x name = true) :
      Moves s live (.rollbackTo name) (live.dropWhile fun x => !sameName x name)
  | rollback (h : s.Guarded) : Moves s live .rollback []
  | commit (h : s.Guarded) : Moves s live .commit live

end Command

/-- Work that stays within its unit as it runs in a state, with the savepoints that are live
before and after. -/
inductive Contained (c : ConnId) :
    {α : Type} → List String → State (Bench E) → Act (Bench E) α → List String → Prop
  | aside {α : Type} {live : List String} {s : State (Bench E)} {a : Act (Bench E) α}
      (h : Beside s (run a s).2) : Contained c live s a live
  | command {live live' : List String} {s : State (Bench E)} {command : Command (Endpoint E)}
      (h : command.Moves s live live') : Contained c live s (command.run Bench.driver) live'
  | bind_ok {α β : Type} {live₀ live₁ live₂ : List String} {s s₁ : State (Bench E)}
      {a : Act (Bench E) α} {f : α → Act (Bench E) β} {v : α} (ha : Contained c live₀ s a live₁)
      (hrun : run a s = (.ok v, s₁)) (hf : Contained c live₁ s₁ (f v) live₂) :
      Contained c live₀ s (a >>= f) live₂
  | bind_error {α β : Type} {live₀ live₁ : List String} {s s₁ : State (Bench E)}
      {a : Act (Bench E) α} {f : α → Act (Bench E) β} {e : Error}
      (ha : Contained c live₀ s a live₁) (hrun : run a s = (.error e, s₁)) :
      Contained c live₀ s (a >>= f) live₁
  | caught {α : Type} {live live' : List String} {s : State (Bench E)} {a : Act (Bench E) α}
      (ha : Contained c live s a live') : Contained c live s (observe a) live'
  | unit {α : Type} {live live' : List String} {s : State (Bench E)} {work : Act (Bench E) α}
      (propagate : Bool) (h : Contained c [] (s.starting Bench.driver c) work live') :
      Contained c live s (transact Bench.driver propagate work) live

/-- A name that starts with another letter than the generated ones. -/
theorem ordinary_of_letter {name : String} (hname : Holdable name) {c : Char}
    (hc : c.toLower ≠ 's') (hfirst : name.toList.head? = some c) : Ordinary name := by
  refine ⟨hname, fun clock depth => ?_⟩
  cases hsame : sameName name (savepointName clock depth) with
  | false => rfl
  | true =>
      obtain ⟨rest, hrest⟩ := List.head?_eq_some_iff.mp hfirst
      have hlower := sameName_iff.mp hsame
      rw [hrest, lower_savepointName, toList_savepointName] at hlower
      exact absurd (List.cons.inj hlower).1 hc

namespace Contained

variable {c : ConnId} {live live₀ live₁ live₂ : List String} {s : State (Bench E)}

/-- Work that goes on, however one part of it ends. -/
theorem observed {a : Act (Bench E) α} {f : Except Error α → Act (Bench E) β}
    (ha : Contained c live₀ s a live₁)
    (hf : Contained c live₁ (run a s).2 (f (run a s).1) live₂) :
    Contained c live₀ s (observe a >>= f) live₂ :=
  .bind_ok (.caught ha) (run_observe a s) hf

theorem failing (e : Error) : Contained c live s (throw e : Act (Bench E) α) live :=
  .aside ⟨rfl, rfl, rfl, rfl, rfl, rfl⟩

end Contained

/-- A function that is applied to the value of an action changes nothing but the value. -/
theorem run_bind_pure (a : Act World α) (g : α → β) (s : State World) :
    run (a >>= fun v => pure (g v)) s = ((run a s).1.map g, (run a s).2) := by
  rw [run_bind]
  rcases run a s with ⟨_ | _, s'⟩
  · rfl
  · rfl

theorem run_bind_pure_snd (a : Act World α) (g : α → β) (s : State World) :
    (run (a >>= fun v => pure (g v)) s).2 = (run a s).2 :=
  congrArg Prod.snd (run_bind_pure a g s)

/-- A name is holdable if the engine takes it for one that is. -/
theorem holdable_of_sameName {a b : String} (ha : Holdable a) (h : sameName a b = true) :
    Holdable b := by
  intro hmem
  have hnul : Char.toLower '\x00' ∈ a.toList.map Char.toLower := by
    rw [sameName_iff.mp h]
    exact List.mem_map_of_mem hmem
  obtain ⟨c, hc, hcl⟩ := List.mem_map.mp hnul
  exact ha (Text.eq_nul_of_toLower hcl ▸ hc)

/-- Dropping from the front of a list drops at least as far from a part of it. -/
theorem sublist_dropWhile (p : α → Bool) {xs ys : List α} (h : xs.Sublist ys) :
    (xs.dropWhile p).Sublist (ys.dropWhile p) := by
  induction h with
  | slnil => exact .slnil
  | @cons xs ys y h ih =>
      rw [List.dropWhile_cons (x := y)]
      split
      · exact ih
      · exact ((List.dropWhile_sublist p).trans h).cons y
  | @cons_cons xs ys x h ih =>
      rw [List.dropWhile_cons, List.dropWhile_cons]
      split
      · exact ih
      · exact h.cons_cons x

namespace Standing

variable {c : ConnId} {f : Footing E.Contents} {live : List String} {s : State (Bench E)}

/-- A savepoint of an ordinary name is live once it is set. -/
theorem savepoint (hE : E.Transactional) (hgrants : E.Granting) (hs : Standing c f live s)
    {name : String} (hname : Ordinary name) :
    Standing c f (name :: live) (run (Session.savepoint Bench.driver name) s).2 := by
  obtain ⟨own, hruns, hown, hlive⟩ := hs.savepoints
  obtain ⟨l, hl, ht⟩ := has_open_iff.mp hruns
  obtain ⟨reply, w, hsent, hl'⟩ := exists_send (w := s.wire) (Bench.respond_granting hE
    (.savepoint name) hname.1 hgrants hl rfl)
  have hsent' : Bench.driver.send c (.query (savepointStatement name)) s.wire = (.ok reply, w) :=
    hsent
  have hrun : (run (Session.savepoint Bench.driver name) s).2 = s.onto w := by
    rw [Session.savepoint, run_issue Bench.driver hs.connection, hsent']
  rw [hrun]
  refine ⟨hs.grounded, hs.connection, hs.scopes, ⟨⟨name, l.contents⟩ :: own, ?_, ?_, ?_⟩, ?_⟩
  · refine has_open_iff.mpr ⟨_, hl', ?_⟩
    rw [Ledger.savepoint_eq ht]
    rfl
  · intro p hp
    rcases List.mem_cons.mp hp with rfl | hp
    · exact fun clock d _ => hname.2 clock d
    · exact hown p hp
  · exact hlive.cons_cons name
  · exact List.forall_mem_cons.mpr ⟨hname.1, hs.holdable⟩

section

variable (hE : E.Transactional)

include hE

/-- Going back to a savepoint that is there. -/
theorem exists_rollbackTo (hc : s.session.connection = some c) {l l' : Ledger E.Contents}
    (hl : s.ledger? c = some l) {name : String} (hname : Holdable name)
    (hback : l.rollbackTo name = some l') :
    ∃ w, (run (Session.rollbackTo Bench.driver name) s).2 = s.onto w ∧
      w.world.ledger? c = some l' := by
  obtain ⟨reply, w, hsent, hl'⟩ := exists_send (w := s.wire) (Bench.respond_goesBack hE
    (.rollbackTo name) hname hl trivial hback)
  have hsent' : Bench.driver.send c (.query (rollbackToStatement name)) s.wire = (.ok reply, w) :=
    hsent
  refine ⟨w, ?_, hl'⟩
  rw [Session.rollbackTo, run_issue Bench.driver hc, hsent']

/-- Going back to a live savepoint drops the newer ones of the unit and touches nothing else. -/
theorem rollbackTo (hs : Standing c f live s) {name : String}
    (hname : ∃ x ∈ live, sameName x name = true) :
    Standing c f (live.dropWhile fun x => !sameName x name)
      (run (Session.rollbackTo Bench.driver name) s).2 := by
  obtain ⟨own, hruns, hown, hlive⟩ := hs.savepoints
  obtain ⟨l, hl, ht⟩ := has_open_iff.mp hruns
  obtain ⟨x, hx, hsame⟩ := hname
  have hholdable : Holdable name := holdable_of_sameName (hs.holdable x hx) hsame
  have hset : ∃ p ∈ own, sameName p.name name = true := by
    obtain ⟨p, hp, hpx⟩ := List.mem_map.mp (hlive.subset hx)
    exact ⟨p, hp, hpx ▸ hsame⟩
  obtain ⟨contents, hback⟩ := Ledger.rollbackTo_newer ht hset
  obtain ⟨w, hrun, hl'⟩ := exists_rollbackTo hE hs.connection hl hholdable hback
  rw [hrun]
  refine ⟨hs.grounded, hs.connection, hs.scopes,
    ⟨own.dropWhile fun p => !sameName p.name name, ?_, ?_, ?_⟩, ?_⟩
  · exact has_open_iff.mpr ⟨_, hl', rfl⟩
  · exact fun p hp => hown p ((List.dropWhile_sublist _).subset hp)
  · have hdropped := sublist_dropWhile (fun x => !sameName x name) hlive
    rw [List.dropWhile_map] at hdropped
    exact hdropped
  · exact fun y hy => hs.holdable y ((List.dropWhile_sublist _).subset hy)

end

/-- The savepoint that guards a session is that of the unit that it stands in. -/
theorem guard?_eq (hs : Standing c f live s) : s.guard? = f.guard := by
  obtain ⟨settled, hscopes, -⟩ := hs.scopes
  rw [State.guard?, hscopes]
  rfl

/-- A unit inside another may count as settled. -/
theorem settling (hs : Standing c f live s) {name : String} (hguard : f.guard = some name) :
    Standing c f live s.settling := by
  obtain ⟨settled, hscopes, -⟩ := hs.scopes
  refine ⟨hs.grounded, hs.connection, ⟨true, ?_, fun hnone => ?_⟩, hs.savepoints, hs.holdable⟩
  · show s.session.scopes.modifyHead _ = _
    rw [hscopes]
    rfl
  · rw [hguard] at hnone
    cases hnone

theorem exists_guard (hs : Standing c f live s) (h : s.Guarded) : ∃ name, f.guard = some name :=
  hs.guard?_eq ▸ Option.isSome_iff_exists.mp h

/-- A commit in a guarded unit leaves it standing. -/
theorem commit (hs : Standing c f live s) (h : s.Guarded) :
    Standing c f live (run (Session.commit Bench.driver) s).2 := by
  obtain ⟨name, hguard⟩ := hs.exists_guard h
  rw [run_commit, hs.guard?_eq, hguard]
  exact hs.settling hguard

/-- A unit inside another that rolls back by itself goes back to its own savepoint. -/
theorem rollback (hE : E.Transactional) (hs : Standing c f live s) (h : s.Guarded) :
    Standing c f [] (run (Session.rollback Bench.driver) s).2 := by
  obtain ⟨name, hguard⟩ := hs.exists_guard h
  have hsettled := hs.settling hguard
  rw [run_rollback, hs.guard?_eq, hguard]
  obtain ⟨clock, contents, older, hgenerated, hbelow⟩ := hs.grounded name hguard
  obtain ⟨own, hruns, hown, -⟩ := hsettled.savepoints
  obtain ⟨l, hl, ht⟩ := has_open_iff.mp hruns
  rw [hbelow] at ht
  have hnewer : ∀ q ∈ own, sameName q.name name = false := by
    intro q hq
    rw [hgenerated]
    exact hown q hq clock f.outer.length (Nat.le_refl _)
  have hholdable : Holdable name := hgenerated ▸ holdable_savepointName clock f.outer.length
  have hback := Ledger.rollbackTo_below (p := ⟨name, contents⟩) ht hnewer
  obtain ⟨w, hleft, hl'⟩ := exists_rollbackTo hE hsettled.connection hl hholdable hback
  dsimp only
  rw [hleft]
  refine ⟨hs.grounded, hsettled.connection, hsettled.scopes, ⟨[], ?_, ?_, .slnil⟩, ?_⟩
  · exact has_open_iff.mpr ⟨_, hl', by rw [hbelow]; rfl⟩
  · intro p hp
    cases hp
  · intro x hx
    cases hx

section

variable (hE : E.Transactional) (hcareful : E.Careful)

include hE hcareful

/-- A template without control leaves the unit standing. -/
theorem query (hs : Standing c f live s) {sql : String} {changes : Option Json}
    (h : Command.TemplateFree s sql changes) {o : Overrides} (ho : Command.parsed changes = .ok o) :
    Standing c f live (run (Session.query Bench.driver sql o) s).2 :=
  (undisturbed hE hcareful c).query (i := (f, live)) hs fun settings hsettings p hp =>
    h o settings p ho hsettings hp

/-- A command that neither changes the connection nor controls its transaction leaves the unit
standing. -/
theorem plain (hs : Standing c f live s) {command : Command (Endpoint E)} (h : command.Plain s) :
    Standing c f live (run (command.run Bench.driver) s).2 := by
  have H := undisturbed hE hcareful c
  cases command with
  | connect | disconnect | hangUp | setAutocommit | commit | rollback | savepoint | rollbackTo =>
      exact h.elim
  | query sql changes =>
      refine Command.after_overrides (Standing c f live) hs fun o ho => ?_
      rw [run_bind_pure_snd]
      exact query hE hcareful hs h ho
  | runSaved name changes =>
      refine Command.after_overrides (Standing c f live) hs fun o ho => ?_
      rw [run_bind_pure_snd]
      exact H.runSaved (i := (f, live)) hs fun sql hsql settings hsettings p hp =>
        h sql hsql o settings p ho hsettings hp
  | runFile file =>
      show Standing c f live (run (Session.runFile Bench.driver file >>= fun done =>
        pure (Answer.bool done)) s).2
      rw [run_bind_pure_snd]
      exact H.runFile (i := (f, live)) hs h
  | insertRows table columns rows changes =>
      refine (Command.maintains_overrides changes).bind (fun o => ?_) s hs
      refine Maintains.bind ?_ fun _ => Maintains.pure _
      exact H.insertRows (f, live) (fun _ _ _ hsql hp => noControl_statement hE hsql hp)
        fun _ _ hp => noControl_maxIdStatement hE hp
  | configure | configureDefaults | resetConfiguration | resetDefaults | clearLog | saveQuery =>
      refine (?_ : Maintains (Standing c f live) (Command.run Bench.driver _)) s hs
      exact Command.OnlyAdjusts.maintains
        (fun _ _ hwire hconn hscopes hs => hs.beside (congrArg Wire.world hwire) hconn hscopes)
        trivial
  | _ =>
      refine (?_ : Maintains (Standing c f live) (Command.run Bench.driver _)) s hs
      exact Command.OnlyLooks.maintains trivial

/-- Every command of contained work leaves the unit standing. -/
theorem moves (hgrants : E.Granting) (hs : Standing c f live s) {command : Command (Endpoint E)}
    {live' : List String} (h : command.Moves s live live') :
    Standing c f live' (run (command.run Bench.driver) s).2 := by
  have hsilently : ∀ a : Act (Bench E) Unit, (run (Command.silently a) s).2 = (run a s).2 :=
    fun a => run_bind_pure_snd a (fun _ => Answer.unit) s
  cases h with
  | plain h => exact plain hE hcareful hs h
  | @savepoint name h =>
      show Standing c f _ (run (Command.silently (Session.savepoint Bench.driver name)) s).2
      rw [hsilently]
      exact savepoint hE hgrants hs h
  | @rollbackTo name h =>
      show Standing c f _ (run (Command.silently (Session.rollbackTo Bench.driver name)) s).2
      rw [hsilently]
      exact rollbackTo hE hs h
  | rollback h =>
      show Standing c f _ (run (Command.silently (Session.rollback Bench.driver)) s).2
      rw [hsilently]
      exact rollback hE hs h
  | commit h =>
      show Standing c f _ (run (Command.silently (Session.commit Bench.driver)) s).2
      rw [hsilently]
      exact hs.commit h

end

end Standing

/-- Contained work leaves every unit standing that it is run in. -/
theorem Contained.standing (hE : E.Transactional) (hcareful : E.Careful) (hgrants : E.Granting)
    {c : ConnId} {live live' : List String} {s : State (Bench E)} {work : Act (Bench E) α}
    (h : Contained c live s work live') :
    ∀ f, Standing c f live s → Standing c f live' (run work s).2 := by
  induction h with
  | aside h =>
      exact fun f hs => hs.beside (congrArg Wire.world h.wire) h.connection h.scopes
  | command h => exact fun f hs => hs.moves hE hcareful hgrants h
  | bind_ok _ hrun _ iha ihf =>
      intro f hs
      have hmid := iha f hs
      rw [hrun] at hmid
      rw [run_bind_of_ok hrun]
      exact ihf f hmid
  | bind_error _ hrun iha =>
      intro f hs
      have hmid := iha f hs
      rw [hrun] at hmid
      rw [run_bind_of_error hrun]
      exact hmid
  | caught _ iha => exact iha
  | unit propagate _ ih =>
      exact fun f hs => hs.transact hE propagate fun l hstarted => ⟨_, ih _ hstarted⟩

end SlotQuery
