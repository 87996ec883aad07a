import LogtalkNavigation.Engine.Run
import LogtalkNavigation.Freshness
import LogtalkNavigation.Request
import LogtalkNavigation.Settings.Load

/-! The service as a whole: settings, freshness of results, and one engine for each workspace, made when it
is first needed and with the settings of that time. New settings close all engines. What an engine is matters
only to those who run goals with it; the engines of this service are sessions. -/

namespace LogtalkNavigation

/-- How engines are made, and how they are closed. -/
structure Maker (ε : Type) where
  -- The engine that is made for a workspace and with some settings when others have been made before.
  make : Nat → Path → Settings → ε
  close? : ε → Option (Act Unit)

def Session.maker : Maker Session where
  make number root settings := ⟨number, root, settings.engine⟩
  close? session := some session.close

structure Office (ε : Type := Session) where
  world : World
  settings : Settings := {}
  freshness : Freshness := {}
  sessions : List (Path × ε) := []
  made : Nat := 0

-- Work on the office. What has been done before a failure stays done.
abbrev Work (ε : Type) := EStateM Failure (Office ε)

abbrev Job := Work Session

namespace Job

variable {ε : Type}

def act {α : Type} (action : Act α) : Work ε α := fun office =>
  match action office.world with
  | .ok value world => .ok value { office with world }
  | .error failure world => .error failure { office with world }

def attempt {α : Type} (job : Work ε α) : Work ε (Except Failure α) := fun office =>
  match job office with
  | .ok value office => .ok (.ok value) office
  | .error failure office => .ok (.error failure) office

def ofExcept {α : Type} (value : Except Failure α) : Work ε α := act (Act.ofExcept value)

def note (level : Level) (message : String) : Work ε Unit := act (Act.note level message)

def engineFor (maker : Maker ε) (root : Path) : Work ε ε := do
  let office ← get
  match office.sessions.lookup root with
  | some engine => return engine
  | none =>
    let engine := maker.make office.made root office.settings
    set { office with sessions := office.sessions ++ [(root, engine)], made := office.made + 1 }
    return engine

def closeEach (maker : Maker ε) : List (Path × ε) → Work ε Unit
  | [] => return
  | (_, engine) :: rest => do
    if let some close := maker.close? engine then act close
    closeEach maker rest

def closeEngines (maker : Maker ε) : Work ε Unit := do
  let engines := (← get).sessions
  modify fun office => { office with sessions := [] }
  closeEach maker engines

def setLevel (name : String) : Work ε Unit :=
  modify fun office =>
    { office with
      world := { office.world with log := { office.world.log with threshold := Level.ofName name } } }

/-- Reads the settings again. Settings with faults change nothing. -/
def reloadWith (maker : Maker ε) (root : Option Path) (client : Value) : Work ε Unit := do
  match ← attempt (act (Settings.load root none client)) with
  | .ok settings =>
    modify fun office => { office with settings }
    setLevel settings.level
    closeEngines maker
  | .error (.invalidSettings _) => note .warning "invalid settings ignored"
  | .error failure => throw failure

def sessionFor (root : Path) : Job Session := engineFor Session.maker root

def closeSessions : Job Unit := closeEngines Session.maker

def reload (root : Option Path) (client : Value) : Job Unit := reloadWith Session.maker root client

def setFreshness (freshness : Freshness) : Job Unit :=
  modify fun office => { office with freshness }

end Job

end LogtalkNavigation
