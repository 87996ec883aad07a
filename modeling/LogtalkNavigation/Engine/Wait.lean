import LogtalkNavigation.Double.Basic
import LogtalkNavigation.Failure

/-! Waiting for a file. Each turn of the loop looks for the file, then at the clock, and then sleeps, so
a file that is there is never missed, however late it is. -/

namespace LogtalkNavigation.Wait

def seconds (ms : Int) : Except Failure Double :=
  match Double.ofRatio (ms < 0) ms.natAbs 1000 with
  | .infinite _ => .error .overflow
  | number => .ok number

def milliseconds (length : Double) : Except Failure Int :=
  match (length.times 1000).round? with
  | some ms => .ok ms
  | none => .error .infinite

/-- How long a sleep of some milliseconds lasts: what is left of them when they are turned into seconds
and back. -/
def nap (interval : Int) : Except Failure Int := do
  milliseconds (← seconds interval)

def deadlineFrom (first : Except Failure Double) (timeout : Int) : Except Failure Double :=
  return (← first).add (← seconds timeout)

def deadline (first timeout : Int) : Except Failure Double :=
  deadlineFrom (seconds first) timeout

/-- What a turn of the loop meets: whether the file is there as it starts, and what the clock reads if the
turn comes to look at it. -/
structure Glimpse where
  there : Except Failure Bool
  reading : Except Failure Double

structure Progress where
  ended : Option (Except Failure Unit)
  sleeps : List Double

def turn (p : Path) (timeout interval : Int) (deadline : Double) (glimpse : Glimpse) :
    Except Failure (Option Double) := do
  if ← glimpse.there then return none
  if deadline.le (← glimpse.reading) then throw (.engineTimeout p.text timeout)
  return some (← seconds interval)

def advance (p : Path) (timeout interval : Int) (deadline : Double) (progress : Progress)
    (glimpse : Glimpse) : Progress :=
  match progress.ended with
  | some _ => progress
  | none =>
    match turn p timeout interval deadline glimpse with
    | .ok (some length) => { progress with sleeps := progress.sleeps ++ [length] }
    | .ok none => { progress with ended := some (.ok ()) }
    | .error failure => { progress with ended := some (.error failure) }

def progress (p : Path) (timeout interval : Int) (first : Except Failure Double)
    (glimpses : List Glimpse) : Progress :=
  match deadlineFrom first timeout with
  | .error failure => ⟨some (.error failure), []⟩
  | .ok deadline => glimpses.foldl (advance p timeout interval deadline) ⟨none, []⟩

def readingAt (first : Int) (readings : List Int) (turn : Nat) : Int :=
  readings.getD turn (readings.getLastD first)

def arrival (there : Bool) (appears : Option Nat) : Option Nat :=
  if there then some 0 else appears.filter (0 < ·)

def glimpses (there : Except Failure Bool) (appears : Option Nat) (first : Int) (readings : List Int)
    (turns : Nat) : List Glimpse :=
  (List.range turns).map fun turn =>
    { there := return (arrival (← there) appears).any (· ≤ turn)
      reading := seconds (readingAt first readings turn) }

structure Outcome where
  result : Except Failure Unit
  naps : List Int

/-- Waits for a file with sleeps of an interval. `there` says whether the file is there at first, and
`appears` after which sleep it is otherwise. Failures other than a timeout have no outcome. A script that
does not end the wait is taken for a timeout. -/
def forFile (p : Path) (there : Except Failure Bool) (appears : Option Nat)
    (timeout interval first : Int) (readings : List Int) : Except Failure Outcome := do
  let turns := readings.length + appears.getD 0 + 1
  let progress := progress p timeout interval (seconds first)
    (glimpses there appears first readings turns)
  let naps ← progress.sleeps.mapM milliseconds
  let timedOut : Failure := .engineTimeout p.text timeout
  match progress.ended with
  | some (.ok ()) => return ⟨.ok (), naps⟩
  | some (.error failure) =>
    if failure = timedOut then return ⟨.error timedOut, naps⟩ else throw failure
  | none => return ⟨.error timedOut, naps⟩

end LogtalkNavigation.Wait
