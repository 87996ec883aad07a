import LogtalkNavigation.Artifact.Claim
import LogtalkNavigation.Engine.Session
import LogtalkNavigation.Engine.Wait

/-! Runs of a goal. A run removes the sentinel, sends the goal, and looks for the sentinel until it is
there or the timeout is over, asleep in between. Time passes only in sleep. -/

namespace LogtalkNavigation

namespace Engine.Pending

def later (pending : List Pending) : List Pending :=
  (pending.filter (1 < ·.sleeps)).map fun p => { p with sleeps := p.sleeps - 1 }

def land (pending : List Pending) : Act Unit := do
  let machine ← Act.machine
  appear ((pending.filter fun p => p.sleeps ≤ 1 && machine.runs p.process).flatMap (·.files))

end Engine.Pending

open Engine

structure Run where
  session : Session
  sentinel : Path
  elapsed : Nat
  patience : Nat
  pending : List Pending
deriving DecidableEq

namespace Run

/-- After how many sleeps a timeout is over, at the latest. Times are compared as doubles, so it may be
earlier. -/
def sleepsUntil (timeout interval : Settings.Duration) : Nat :=
  match Wait.nap interval.1 with
  | .ok nap => (timeout.1 + nap.toNat - 1) / nap.toNat
  | .error _ => 1

def submit (session : Session) (goal : Text) (sentinel : Path) : Act Run := do
  let pending ← session.send goal
  let patience := sleepsUntil session.settings.timeout session.settings.pollInterval
  return ⟨session, sentinel, 0, patience, pending⟩

-- These are two calls: the engine may act after the sentinel is removed and before the goal is sent.
def start (session : Session) (goal : Text) (sentinel : Path) : Act Run := do
  Artifact.discard sentinel
  submit session goal sentinel

def cancel (session : Session) (sentinel : Path) : Act Unit := do
  session.abort
  Artifact.discard sentinel

/-- What the loop needs to go on. If it is not to be had, the sentinel is removed, and the process goes
on with the goal. -/
def need {α : Type} (sentinel : Path) : Except Failure α → Act α
  | .ok value => return value
  | .error failure => do
    Artifact.discard sentinel
    throw failure

/-- A turn of the loop. If the sentinel is there, it is removed; if the timeout is over, the goal is given
up; else there is some time to sleep. The `last` turn does not go to sleep. -/
def turn (session : Session) (sentinel : Path) (elapsed : Nat) (last : Bool) : Act (Option Nat) := do
  let timeout := session.settings.timeout.1
  let deadline ← need sentinel (Wait.deadline 0 timeout)
  if ← need sentinel ((← Act.disk).isThere sentinel) then
    Artifact.discard sentinel
    return none
  let now ← need sentinel (Wait.seconds elapsed)
  if last || deadline.le now then
    cancel session sentinel
    throw (.engineTimeout sentinel.text timeout)
  let nap ← need sentinel (Wait.nap session.settings.pollInterval.1)
  return some nap.toNat

/-- Looks for the sentinel until it is there or the timeout is over. If `held`, nobody sleeps: the run
is returned as it goes to sleep. -/
def pollFrom (held : Bool) (session : Session) (sentinel : Path) :
    Nat → Nat → List Pending → Act (Option Run)
  | elapsed, 0, _ => do
    let _ ← turn session sentinel elapsed true
    return none
  | elapsed, patience + 1, pending => do
    match ← turn session sentinel elapsed false with
    | none => return none
    | some nap =>
      if held then return some ⟨session, sentinel, elapsed, patience + 1, pending⟩
      Pending.land pending
      pollFrom held session sentinel (elapsed + nap) patience (Pending.later pending)

def poll (held : Bool) (run : Run) : Act (Option Run) :=
  pollFrom held run.session run.sentinel run.elapsed run.patience run.pending

def perform (held : Bool) (session : Session) (goal : Text) (sentinel : Path) : Act (Option Run) := do
  (← start session goal sentinel).poll held

def resume (held : Bool) (run : Run) : Act (Option Run) := do
  Pending.land run.pending
  let nap ← need run.sentinel (Wait.nap run.session.settings.pollInterval.1)
  pollFrom held run.session run.sentinel (run.elapsed + nap.toNat) (run.patience - 1)
    (Pending.later run.pending)

end Run

end LogtalkNavigation
