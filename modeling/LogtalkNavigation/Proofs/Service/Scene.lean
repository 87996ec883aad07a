import LogtalkNavigation.Proofs.Service.Queue
import LogtalkNavigation.Proofs.Service.Refreshing

/-! Requests of one workspace and an engine that keeps its promises. A scene is a schedule together with
what its tasks have sent and got. It moves when a task arrives, is run or is cancelled, and when the engine
acts: it writes for a goal that it was sent, first the artifact and then the sentinel, as long as the process
that the goal went to can act. -/

namespace LogtalkNavigation

open Engine Machine

-- Stages can be compared, so that what happens in a scene can be computed.
deriving instance DecidableEq for Stage, Task

structure Sent where
  process : Nat
  output : Output
deriving DecidableEq

structure Scene where
  schedule : Schedule
  -- Which tasks have had their turn.
  begun : Nat → Bool
  -- The goals that tasks have sent.
  sent : Nat → Option Sent
  -- What requests have got from the engine, once their sentinel was there.
  fetched : Nat → Option (Except Failure (Option (List UInt8)))

def Job.yields (first : Job (Option Run)) (office : Office) : Option Office :=
  match first office with
  | .ok none later => some later
  | _ => none

def Job.outcome {α : Type} (job : Job α) (office : Office) : Except Failure α :=
  match job office with
  | .ok value _ => .ok value
  | .error failure _ => .error failure

namespace Errand

inductive Belongs (root : Path) : Errand → Prop
  | fetch (request : Request) : Belongs root (.fetch request (some root))
  | refresh (report : Report) (directory : Path) (recursive : Bool) :
      Belongs root (.refresh report directory root recursive)

def sends (office : Office) (output : Output) : Errand → Option Sent
  | .fetch request (some root) =>
      (Job.yields ((Errand.fetch request (some root)).launch sendOnly) office).bind fun middle =>
        (middle.sessions.lookup root).bind fun session =>
          (middle.world.machine.heldBy session.number).map fun process => ⟨process, output⟩
  | _ => none

def fetches (first : Job (Option Run)) (office : Office) :
    Errand → Option (Except Failure (Option (List UInt8)))
  | .fetch request (some root) => (Job.yields first office).map (Job.outcome (collect request root))
  | _ => none

section Sends

variable {request : Request} {root : Path} {office middle : Office} {output : Output}

theorem sends_failed {failure : Failure}
    (failed : (Errand.fetch request (some root)).launch sendOnly office = .error failure middle) :
    (Errand.fetch request (some root)).sends office output = none := by
  rw [sends, Job.yields, failed]
  rfl

theorem sends_sent {session : Session} {process : Nat}
    (sent : (Errand.fetch request (some root)).launch sendOnly office = .ok none middle)
    (seated : middle.sessions.lookup root = some session)
    (holds : middle.world.machine.heldBy session.number = some process) :
    (Errand.fetch request (some root)).sends office output = some ⟨process, output⟩ := by
  rw [sends, Job.yields, sent, Option.bind_some, seated, Option.bind_some, holds]
  rfl

end Sends

section Fetches

variable {errand : Errand} {first : Job (Option Run)} {office later : Office}

theorem fetches_unfound (unfound : Job.yields first office = none) :
    errand.fetches first office = none := by
  unfold fetches
  split
  · rw [unfound]
    rfl
  · rfl

theorem fetches_asleep {run : Run} (slept : first office = .ok (some run) later) :
    errand.fetches first office = none := by
  apply fetches_unfound
  rw [Job.yields, slept]

theorem fetches_failed {failure : Failure} (failed : first office = .error failure later) :
    errand.fetches first office = none := by
  apply fetches_unfound
  rw [Job.yields, failed]

theorem fetches_found {request : Request} {root : Path} {artifact : Option (List UInt8)} {last : Office}
    (found : first office = .ok none later) (collected : collect request root later = .ok artifact last) :
    (Errand.fetch request (some root)).fetches first office = some (.ok artifact) := by
  rw [fetches, Job.yields, found, Option.map_some, Job.outcome, collected]

end Fetches

/-- What an engine that keeps its promises does at once with the goal of an errand: for a request it writes
the output and nothing else, and for new results it writes elsewhere. -/
def Honest (root : Path) (base : Location) (office : Office) (output : Output) : Errand → Prop
  | .fetch request _ =>
      let goal := Goal.ofRequest request root ++ ['\n']
      office.world.machine.Prompt goal ∧ office.world.machine.written goal = output.files request root
  | .refresh report directory _ recursive =>
      let goal := refreshGoal report directory recursive (office.sessionOf root) ++ ['\n']
      office.world.machine.Prompt goal ∧ LieElsewhere root base (office.world.machine.written goal)
  | .direct _ _ _ => True

end Errand

namespace Scene

def inWorld (scene : Scene) (world : World) : Schedule :=
  { scene.schedule with office := { scene.schedule.office with world } }

def world (scene : Scene) : World := scene.schedule.office.world

def begin (scene : Scene) (number : Nat) (errand : Errand) (output : Output) : Scene where
  schedule := (scene.schedule.runTask number).1
  begun := Function.update scene.begun number true
  sent := Function.update scene.sent number (errand.sends scene.schedule.office output)
  fetched := Function.update scene.fetched number
    (errand.fetches (errand.launch (Run.perform scene.schedule.held)) scene.schedule.office)

def resume (scene : Scene) (number : Nat) (errand : Errand) (run : Run) : Scene :=
  { scene with
    schedule := (scene.schedule.runTask number).1
    fetched := Function.update scene.fetched number
      (errand.fetches (errand.wake scene.schedule.held run) scene.schedule.office) }

def writes (scene : Scene) (number : Nat) (p : Path) (content : List UInt8) (sent : Sent) : Scene :=
  { scene with
    schedule := scene.inWorld { scene.world with disk := scene.world.disk.put p content }
    sent := Function.update scene.sent number (some sent) }

theorem writes_tasks (scene : Scene) (number : Nat) (p : Path) (content : List UInt8) (sent : Sent) :
    (scene.writes number p content sent).schedule.tasks = scene.schedule.tasks := by
  simp only [writes, inWorld]

theorem writes_machine (scene : Scene) (number : Nat) (p : Path) (content : List UInt8) (sent : Sent) :
    (scene.writes number p content sent).world.machine = scene.world.machine := by
  simp only [writes, inWorld, world]

/-- No request of the workspace has ended for want of a double that is near to one of its times. -/
def NoOverflow (root : Path) (scene : Scene) : Prop :=
  ∀ (number : Nat) name request failure,
    scene.schedule.tasks[number]? =
        some ⟨name, some (.fetch request (some root)), .done (.error failure)⟩ →
      failure ≠ .overflow ∧ failure ≠ .infinite

def Asks (root : Path) (scene : Scene) (number : Nat) (request : Request) : Prop :=
  ∃ name stage, scene.schedule.tasks[number]? = some ⟨name, some (.fetch request (some root)), stage⟩

inductive Move (root : Path) (base : Location) : Scene → Scene → Prop
  | arrive (scene : Scene) (name : String) (errand : Errand) (belongs : errand.Belongs root) :
      Move root base scene { scene with schedule := scene.schedule.enlist name errand }
  | begin (scene : Scene) (number : Nat) (name : String) (errand : Errand) (output : Output)
      (waits : scene.schedule.tasks[number]? = some ⟨name, some errand, .queued⟩)
      (first : ∀ turn, errand.turn = some turn → scene.schedule.holder? turn = some number)
      (honest : errand.Honest root base scene.schedule.office output) :
      Move root base scene (scene.begin number errand output)
  | resume (scene : Scene) (number : Nat) (name : String) (errand : Errand) (run : Run)
      (sleeps : scene.schedule.tasks[number]? = some ⟨name, some errand, .asleep run⟩) :
      Move root base scene (scene.resume number errand run)
  | cancel (scene : Scene) (number : Nat) :
      Move root base scene { scene with schedule := (scene.schedule.dismiss number).1 }
  | hold (scene : Scene) (held : Bool) :
      Move root base scene { scene with schedule := { scene.schedule with held } }
  -- The engine writes the artifact of a goal that it has not finished.
  | write (scene : Scene) (number : Nat) (request : Request) (sent : Sent) (content : List UInt8)
      (asks : scene.Asks root number request) (known : scene.sent number = some sent)
      (alive : scene.world.machine.Alive sent.process) (unfinished : sent.output.sentinel = none) :
      Move root base scene (scene.writes number (Errand.artifactOf request root) content
        { sent with output := { sent.output with artifact := some content } })
  -- The engine finishes a goal: it writes the sentinel.
  | finish (scene : Scene) (number : Nat) (request : Request) (sent : Sent) (content : List UInt8)
      (asks : scene.Asks root number request) (known : scene.sent number = some sent)
      (alive : scene.world.machine.Alive sent.process) (unfinished : sent.output.sentinel = none) :
      Move root base scene (scene.writes number (Errand.sentinelOf request.kind.artifact root) content
        { sent with output := { sent.output with sentinel := some content } })
  | exit (scene : Scene) (process : Nat) (code : Int) :
      Move root base scene { scene with
        schedule := scene.inWorld { scene.world with machine := scene.world.machine.setExit process code } }
  -- Other circumstances, for goals and processes to come.
  | change (scene : Scene) (machine : Machine) (processes : machine.processes = scene.world.machine.processes)
      (held : machine.held = scene.world.machine.held) :
      Move root base scene { scene with schedule := scene.inWorld { scene.world with machine } }
  | elsewhere (scene : Scene) (disk : Disk) (apart : Elsewhere root base scene.world.disk disk) :
      Move root base scene { scene with schedule := scene.inWorld { scene.world with disk } }

inductive Reached (root : Path) (base : Location) (start : Scene) : Scene → Prop
  | start : Reached root base start start
  | move {scene later : Scene} (before : Reached root base start scene)
      (next : Move root base scene later) : Reached root base start later

/-- A scene before the first task, whatever earlier runs have left at the places of the artifacts and
sentinels. -/
structure Begins (root : Path) (base : Location) (scene : Scene) : Prop where
  grounded : Grounded root base scene.world.disk
  rooted : ∀ session, scene.schedule.office.sessions.lookup root = some session → session.root = root
  noTasks : scene.schedule.tasks = []
  notBegun : ∀ number, scene.begun number = false
  notSent : ∀ number, scene.sent number = none
  notFetched : ∀ number, scene.fetched number = none

end Scene

end LogtalkNavigation
