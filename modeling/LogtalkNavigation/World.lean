import LogtalkNavigation.Disk.Access
import LogtalkNavigation.Engine.Machine
import LogtalkNavigation.Log

/-! What the service acts on: the disk, the log and the engine processes. An action changes the world
and yields a value or a failure; what it did before a failure stays done. -/

namespace LogtalkNavigation

structure World where
  disk : Disk
  log : Log
  machine : Engine.Machine := {}

abbrev Act := EStateM Failure World

namespace Act

def ofExcept {α : Type} : Except Failure α → Act α
  | .ok value => pure value
  | .error failure => throw failure

def attempt {α : Type} (action : Act α) : Act (Except Failure α) := fun world =>
  match action world with
  | .ok value world => .ok (.ok value) world
  | .error failure world => .ok (.error failure) world

def note (level : Level) (message : String) : Act Unit :=
  modify fun world => { world with log := world.log.add level message }

def disk : Act Disk := return (← get).disk

def setDisk (disk : Disk) : Act Unit := modify fun world => { world with disk }

def machine : Act Engine.Machine := return (← get).machine

def setMachine (machine : Engine.Machine) : Act Unit := modify fun world => { world with machine }

end Act

end LogtalkNavigation
