import LogtalkNavigation.Service.Errand

/-! Tasks: errands that run beside each other. Errands of the same turn queue up, first come first
served; the first in the queue is the one that runs. While the service is held nobody's sleep ends; when
it is released the sleepers go on in the order in which they fell asleep, and after them those whose
turn has come. -/

namespace LogtalkNavigation

inductive Stage where
  | queued
  | asleep (run : Run)
  | done (result : Except Failure Answer)
  | cancelled

structure Task where
  name : String
  errand : Option Errand
  stage : Stage

structure Schedule where
  office : Office
  tasks : List Task := []
  queue : List (Turn × Nat) := []
  sleepers : List Nat := []
  held : Bool := false

namespace Schedule

def holder? (schedule : Schedule) (turn : Turn) : Option Nat := schedule.queue.lookup turn

def setStage (schedule : Schedule) (number : Nat) (stage : Stage) : Schedule :=
  { schedule with tasks := schedule.tasks.modify number fun task => { task with stage } }

/-- Takes a task out of its queue. The task whose turn has come thereby is yielded. -/
def leave (schedule : Schedule) (number : Nat) : Schedule × List Nat :=
  let left := { schedule with queue := schedule.queue.filter (·.2 ≠ number) }
  match schedule.queue.find? (·.2 = number) with
  | some (turn, _) =>
    if schedule.holder? turn = some number then (left, (left.holder? turn).toList)
    else (left, [])
  | none => (left, [])

def advance (schedule : Schedule) (number : Nat) (work : Job Errand.Progress) : Schedule × List Nat :=
  match work schedule.office with
  | .ok (.asleep run) office =>
    let asleep := { schedule with office, sleepers := schedule.sleepers ++ [number] }
    (asleep.setStage number (.asleep run), [])
  | .ok (.ended result) office =>
    ({ schedule with office }.setStage number (.done result)).leave number
  | .error failure office =>
    ({ schedule with office }.setStage number (.done (.error failure))).leave number

def runTask (schedule : Schedule) (number : Nat) : Schedule × List Nat :=
  match schedule.tasks[number]? with
  | some ⟨_, some errand, .queued⟩ => schedule.advance number (errand.begin schedule.held)
  | some ⟨_, some errand, .asleep run⟩ => schedule.advance number (errand.resume schedule.held run)
  | _ => (schedule, [])

def drain : Nat → List Nat → Schedule → Schedule
  | 0, _, schedule => schedule
  | _ + 1, [], schedule => schedule
  | fuel + 1, number :: ready, schedule =>
    let (schedule, woken) := schedule.runTask number
    drain fuel (ready ++ woken) schedule

/-- Runs tasks until all have ended or wait. A task is run at most twice: when its turn has come, and
when it is woken. -/
def settle (schedule : Schedule) (ready : List Nat) : Schedule :=
  drain (2 * schedule.tasks.length + 1) ready schedule

def enlist (schedule : Schedule) (name : String) (errand : Errand) : Schedule :=
  { schedule with
    tasks := schedule.tasks ++ [⟨name, some errand, .queued⟩]
    queue := schedule.queue ++ (errand.turn.map fun turn => (turn, schedule.tasks.length)).toList }

def start (schedule : Schedule) (name : String) (errand : Errand) : Schedule :=
  let enlisted := schedule.enlist name errand
  if (errand.turn.bind schedule.holder?).isSome then enlisted
  else enlisted.settle [schedule.tasks.length]

def startDone (schedule : Schedule) (name : String) (result : Except Failure Answer) : Schedule :=
  let task : Task := ⟨name, none, .done result⟩
  { schedule with tasks := schedule.tasks ++ [task] }

/-- Lets a task that has not ended be cancelled. The task whose turn has come thereby is yielded. -/
def dismiss (schedule : Schedule) (number : Nat) : Schedule × List Nat :=
  match schedule.tasks[number]? with
  | some ⟨_, _, .queued⟩ => (schedule.setStage number .cancelled).leave number
  | some ⟨_, some errand, .asleep run⟩ =>
    let office := match errand.cancel run schedule.office with
      | .ok _ office => office
      | .error _ office => office
    let sleepers := schedule.sleepers.filter (· ≠ number)
    ({ schedule with office, sleepers }.setStage number .cancelled).leave number
  | _ => (schedule, [])

def cancel (schedule : Schedule) (number : Nat) : Schedule :=
  let (schedule, woken) := schedule.dismiss number
  schedule.settle woken

def hold (schedule : Schedule) : Schedule := { schedule with held := true }

def release (schedule : Schedule) : Schedule :=
  { schedule with held := false, sleepers := [] }.settle schedule.sleepers

def find? (schedule : Schedule) (name : String) : Option Nat :=
  (List.range schedule.tasks.length).reverse.find? fun number =>
    (schedule.tasks[number]?).any (·.name = name)

end Schedule

end LogtalkNavigation
