import LogtalkNavigation.Disk.Basic

/-! Engine processes as the service sees them: it starts one, writes goals to it, asks whether it has
exited, kills it and waits for it. What a process does with a goal is given by rules: the first rule
whose trigger occurs in the goal says which files appear, at once or after some of the sleeps of the
request that wrote the goal. -/

namespace LogtalkNavigation.Engine

inductive Event where
  | start (command : List String) (directory : Text)
  | write (text : Text)
  | kill
  | wait
deriving DecidableEq, Repr

structure Process where
  writable : Bool
  exit : Option Int
  -- What has been written to it. The last of it may have failed to arrive.
  told : List Text := []
deriving DecidableEq, Repr

structure Rule where
  trigger : Text
  broken : Bool
  files : List (Path × List UInt8)
  delay : Nat
  exit : Option Int

structure Pending where
  process : Nat
  sleeps : Nat
  files : List (Path × List UInt8)
deriving DecidableEq

/-- All processes ever started, by number, which one each session holds, and the circumstances of the
next ones. -/
structure Machine where
  processes : List Process := []
  held : List (Nat × Nat) := []
  rules : List Rule := []
  startFails : Bool := false
  startsMute : Bool := false
  waitHangs : Bool := false
  events : List Event := []

namespace Machine

def runs (machine : Machine) (process : Nat) : Bool :=
  match machine.processes[process]? with
  | some p => p.exit.isNone
  | none => false

def isWritable (machine : Machine) (process : Nat) : Bool :=
  match machine.processes[process]? with
  | some p => p.writable
  | none => false

def heldBy (machine : Machine) (session : Nat) : Option Nat := machine.held.lookup session

def release (machine : Machine) (session : Nat) : Machine :=
  { machine with held := machine.held.filter (·.1 ≠ session) }

def hold (machine : Machine) (session process : Nat) : Machine :=
  { machine with held := (session, process) :: (machine.release session).held }

def record (machine : Machine) (event : Event) : Machine :=
  { machine with events := machine.events ++ [event] }

def setExit (machine : Machine) (process : Nat) (code : Int) : Machine :=
  { machine with
    processes := machine.processes.modify process fun p => { p with exit := some code } }

def breakPipe (machine : Machine) (process : Nat) : Machine :=
  { machine with processes := machine.processes.modify process fun p => { p with writable := false } }

def write (machine : Machine) (process : Nat) (text : Text) : Machine :=
  { machine.record (.write text) with
    processes := machine.processes.modify process fun p => { p with told := p.told ++ [text] } }

def start (machine : Machine) (command : List String) (directory : Text) :
    Except Failure (Nat × Machine) :=
  if machine.startFails then
    .error (.os ⟨.notFound, [(command.headD "").toList]⟩)
  else
    .ok (machine.processes.length,
      { machine.record (.start command directory) with
        processes := machine.processes ++ [{ writable := !machine.startsMute, exit := none }] })

def ruleFor? (machine : Machine) (text : Text) : Option Rule :=
  machine.rules.find? fun rule => (Text.indexOf? rule.trigger text).isSome

def kill (machine : Machine) (process : Nat) : Machine :=
  (machine.record .kill).setExit process (-9)

def wait (machine : Machine) (process : Nat) : Bool × Machine :=
  let machine := machine.record .wait
  if machine.waitHangs then (false, machine)
  else (true, if machine.runs process then machine.setExit process 0 else machine)

end Machine

end LogtalkNavigation.Engine
