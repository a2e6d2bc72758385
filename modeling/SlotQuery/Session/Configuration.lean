import SlotQuery.Session.State
/-!
# Configuring a session

Settings come in three layers: those of the process, those of the session, those of one call.  A
session that was never configured follows the process; configuring it takes a snapshot.  A change
that fails leaves every layer as it was.
-/

namespace SlotQuery.Session

open Act

variable {World : Type}

/-- The settings that a session without overrides runs under. -/
def activeSettings : Act World Settings := do
  let s ← get
  return s.session.currentSettings s.defaults

/-- The settings for one call. -/
def effective (changes : Overrides) : Act World Settings := do
  let s ← activeSettings
  orThrow (s.override changes)

@[simp] theorem run_activeSettings (s : State World) :
    run activeSettings s = (.ok (s.session.currentSettings s.defaults), s) := rfl

@[simp] theorem run_effective (changes : Overrides) (s : State World) :
    run (effective changes) s = ((s.session.currentSettings s.defaults).override changes, s) := by
  unfold effective
  rw [run_bind, run_activeSettings]
  exact run_orThrow _ s

/-- Changes the settings of the session. -/
def configure (changes : Overrides) : Act World Settings := do
  let updated ← effective changes
  updateSession fun s => { s with settings := some updated }
  return updated

/-- Lets the session follow the process again. -/
def resetConfiguration : Act World Unit :=
  updateSession fun s => { s with settings := none }

/-- Changes the settings of the process. -/
def configureDefaults (changes : Overrides) : Act World Settings := do
  let updated ← orThrow ((← get).defaults.override changes)
  modify fun s => { s with defaults := updated }
  return updated

/-- Gives the process the built-in settings again. -/
def resetDefaults : Act World Unit :=
  modify fun s => { s with defaults := .builtin }

end SlotQuery.Session
