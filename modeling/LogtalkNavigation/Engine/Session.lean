import LogtalkNavigation.Settings.Basic
import LogtalkNavigation.World

namespace LogtalkNavigation

structure Session where
  number : Nat
  root : Path
  settings : EngineSettings
deriving DecidableEq

namespace Engine

def appear (files : List (Path × List UInt8)) : Act Unit := do
  let disk ← Act.disk
  Act.setDisk (files.foldl (fun disk (p, content) => disk.put p content) disk)

-- Writes a text to a process, which answers by its rules. What is yet to appear is returned.
def tell (process : Nat) (text : Text) : Act (List Pending) := do
  let machine := (← Act.machine).write process text
  Act.setMachine machine
  match machine.ruleFor? text with
  | none => return []
  | some rule =>
    if rule.broken then
      Act.setMachine (machine.breakPipe process)
      throw (.os ⟨.brokenPipe, []⟩)
    if rule.delay = 0 then appear rule.files
    if let some code := rule.exit then
      Act.setMachine ((← Act.machine).setExit process code)
    return if rule.delay = 0 then [] else [⟨process, rule.delay, rule.files⟩]

end Engine

namespace Session

open Engine

def command (session : Session) : List String := session.settings.command :: session.settings.args

def start (session : Session) : Act Nat := do
  let line := " ".intercalate session.command
  Act.note .info s!"starting engine: {line} (cwd={session.root})"
  match (← Act.machine).start session.command session.root.text with
  | .ok (process, machine) =>
    Act.setMachine (machine.hold session.number process)
    return process
  | .error failure =>
    let command := Text.quoted session.settings.command.toList
    throw (.engine s!"Cannot start engine {command}: {failure.message}")

def ready (session : Session) : Act Nat := do
  let machine ← Act.machine
  match machine.heldBy session.number with
  | some process => if machine.runs process then return process else session.start
  | none => session.start

/-- Sends a goal. A process that cannot be written to is given up. -/
def send (session : Session) (goal : Text) : Act (List Pending) := do
  let process ← session.ready
  if !(← Act.machine).isWritable process then
    throw (unreachable "engine started without stdin pipe" [])
  Act.note .debug s!"goal: {String.ofList goal}"
  match ← Act.attempt (tell process (goal ++ ['\n'])) with
  | .ok pending => return pending
  | .error failure =>
    Act.setMachine ((← Act.machine).release session.number)
    throw (.engine s!"Engine stdin closed: {failure.message}")

def letGo (session : Session) : Act (Option Nat) := do
  let machine ← Act.machine
  Act.setMachine (machine.release session.number)
  return (machine.heldBy session.number).filter machine.runs

def await (process : Nat) : Act Bool := do
  let (exited, machine) := (← Act.machine).wait process
  Act.setMachine machine
  return exited

def kill (process : Nat) : Act Unit := do Act.setMachine ((← Act.machine).kill process)

def abort (session : Session) : Act Unit := do
  match ← session.letGo with
  | none => return
  | some process =>
    Act.note .warning s!"abandoning engine goal, restarting {session.settings.command}"
    kill process
    if !(← await process) then
      Act.note .error s!"engine process {session.settings.command} did not exit after kill"

def close (session : Session) : Act Unit := do
  match ← session.letGo with
  | none => return
  | some process =>
    if (← Act.machine).isWritable process then
      if let .error failure ← Act.attempt (tell process "halt.\n".toList) then
        Act.note .debug s!"engine stdin already closed: {failure.message}"
    if !(← await process) then kill process

end Session

end LogtalkNavigation
