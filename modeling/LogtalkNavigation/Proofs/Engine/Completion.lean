import LogtalkNavigation.Proofs.Engine.Succession

/-! How a goal is completed. A run may be asleep at any of its turns, and while it sleeps anything may happen to
files and processes, as it may between the removal of a stale sentinel and the goal. A course is what becomes of
the run then: it finds its sentinel, fails, or is cancelled in its sleep. On a disk that lets the sentinel be
removed, every course ends with the sentinel gone if the goal was sent. It ends well only if the sentinel appeared
after the stale one was removed, and after a timeout or a cancellation the process is gone. -/

namespace LogtalkNavigation

open Act Engine Machine

namespace Disk

end Disk

namespace Artifact

variable {world : World} {p : Path}

end Artifact

theorem Wait.timely {failure : Failure} (odd : failure = .overflow ∨ failure = .infinite) :
    failure.isTimeout = false := by
  rcases odd with rfl | rfl <;> rfl

namespace Run

variable (session : Session) (sentinel : Path)

section Turned

variable {session : Session} {sentinel : Path} {elapsed nap : Nat} {last : Bool} {world after : World}
  {failure : Failure}

end Turned

end Run

namespace Run

section Course

variable (session : Session) (goal : Text) (sentinel : Path) (start written : World)

/-- The stale sentinel was removed in the world `start` and the goal was sent in the world `written`, and the run
is about to look for its sentinel. The list has the worlds in which it went to sleep. Between the removal and the
goal, and in a sleep, anything may happen that lets the sentinel be removed, and any time may pass. -/
inductive Waits : List World → World → Prop
  | sent {cleared world : World} {run : Run} (removed : Artifact.discard sentinel start = .ok () cleared)
      (willing : written.disk.Willing sentinel)
      (sent : submit session goal sentinel written = .ok run world) : Waits [] world
  | slept {naps : List World} {world later : World} {elapsed nap : Nat} {last : Bool}
      (waits : Waits naps world) (sleeps : turn session sentinel elapsed last world = .ok (some nap) world)
      (willing : later.disk.Willing sentinel) : Waits (naps ++ [world]) later

inductive Ending where
  | returned
  | failed (failure : Failure)
  | cancelled

def Ending.GivesUp : Ending → Prop
  | .returned => False
  | .failed failure => failure.isTimeout = true
  | .cancelled => True

/-- What can become of a run: its sleeps, the world in which it ends, how it ends, and what it leaves. -/
inductive Course : List World → World → Ending → World → Prop
  | stuck {failure : Failure} {after : World}
      (failed : Artifact.discard sentinel start = .error failure after) :
      Course [] start (.failed failure) after
  | unsent {cleared after : World} {failure : Failure}
      (removed : Artifact.discard sentinel start = .ok () cleared) (willing : written.disk.Willing sentinel)
      (failed : submit session goal sentinel written = .error failure after) :
      Course [] written (.failed failure) after
  | found {naps : List World} {world after : World} {elapsed : Nat} {last : Bool}
      (waits : Waits session goal sentinel start written naps world)
      (found : turn session sentinel elapsed last world = .ok none after) :
      Course naps world .returned after
  | failed {naps : List World} {world after : World} {elapsed : Nat} {last : Bool} {failure : Failure}
      (waits : Waits session goal sentinel start written naps world)
      (failed : turn session sentinel elapsed last world = .error failure after) :
      Course naps world (.failed failure) after
  | cancelled {naps : List World} {world later : World} {elapsed nap : Nat} {last : Bool}
      (waits : Waits session goal sentinel start written naps world)
      (sleeps : turn session sentinel elapsed last world = .ok (some nap) world)
      (willing : later.disk.Willing sentinel) :
      Course (naps ++ [world]) later .cancelled ((cancel session sentinel).left later)

-- The run has fallen asleep in a world.
def Sleeps (run : Run) (world : World) : Prop :=
  run.session = session ∧ run.sentinel = sentinel ∧ ∃ naps nap,
    Waits session goal sentinel start written naps world ∧
      turn session sentinel run.elapsed false world = .ok (some nap) world

/-- The result of a run is the end of a course, or the run is asleep. -/
inductive Follows : EStateM.Result Failure World (Option Run) → Prop
  | returned {naps : List World} {world after : World}
      (course : Course session goal sentinel start written naps world .returned after) :
      Follows (.ok none after)
  | failed {naps : List World} {world after : World} {failure : Failure}
      (course : Course session goal sentinel start written naps world (.failed failure) after) :
      Follows (.error failure after)
  | asleep {run : Run} {world : World} (sleeps : Sleeps session goal sentinel start written run world) :
      Follows (.ok (some run) world)

end Course

section Waiting

variable {session : Session} {goal : Text} {sentinel : Path} {start written : World} {naps : List World}
  {world : World}

variable {ending : Ending} {after : World}

theorem Follows.course (follows : Follows session goal sentinel start written (.ok none after)) :
    ∃ naps world, Course session goal sentinel start written naps world .returned after := by
  cases follows with
  | returned course => exact ⟨_, _, course⟩

end Waiting

-- A sentinel that is there before its goal is sent.
namespace Late

def session : Session := ⟨0, ⟨.root, []⟩, {}⟩

def goal : Text := "goal.".toList

def sentinel : Path := Path.ofString "/done"

-- The sentinel appears again in the first sleep.
def start : World where
  disk := (⟨[], [], {}⟩ : Disk).put sentinel []
  log := ⟨.warning, []⟩
  machine := { rules := [⟨goal, false, [(sentinel, [])], 1, none⟩] }

-- Here it is there again before the goal is sent.
def meanwhile : World :=
  { (Artifact.discard sentinel).left start with
    disk := ((Artifact.discard sentinel).left start).disk.put sentinel [] }

def refused : World := { meanwhile with machine := { startFails := true } }

end Late

end Run

end LogtalkNavigation
