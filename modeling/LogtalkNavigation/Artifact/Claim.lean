import LogtalkNavigation.Artifact.Kind
import LogtalkNavigation.Artifact.Private
import LogtalkNavigation.World

/-! Results are messages that are taken once. Taking one renames it to a private name, so that of
several takers only one gets it, reads it there and removes it. -/

namespace LogtalkNavigation.Artifact

/-- Removes a file. That it is missing is fine, and that it cannot be removed is only logged. -/
def discard (p : Path) : Act Unit := do
  match (← Act.disk).unlink p with
  | .ok disk => Act.setDisk disk
  | .error (.os error) =>
    if error.code ≠ .notFound then
      Act.note .error (Failure.notDeleted p.text error.message).message
  | .error failure => throw failure

def privatePath (disk : Disk) (p : Path) : Except Failure Path :=
  match p.name? with
  | none => .error (.namelessPath p.text)
  | some name =>
    let candidate (token : Nat) : Path := p.parent.child (privateName name token)
    let token := (List.range (disk.nodes.length + 1)).find? fun token =>
      (disk.nodeAt? (candidate token)).isNone
    .ok (candidate (token.getD 0))

def readClaimed (p : Path) : Act (List UInt8) := do
  let content := (← Act.disk).read p
  discard p
  Act.ofExcept content

def readInPlace (p : Path) : Act (Option (List UInt8)) := do
  match (← Act.disk).read p with
  | .ok content =>
    discard p
    return some content
  | .error (.os error) =>
    if error.code = .notFound then return none else throw (.os error)
  | .error failure => throw failure

def take (p : Path) : Act (Option (List UInt8)) := do
  let disk ← Act.disk
  let claimed ← Act.ofExcept (privatePath disk p)
  match disk.rename p claimed with
  | .ok disk =>
    Act.setDisk disk
    return some (← readClaimed claimed)
  | .error (.os error) =>
    if error.code = .notFound then return none
    else
      Act.note .warning s!"Cannot claim {p} ({error.message}), reading in place"
      readInPlace p
  | .error failure => throw failure

def firstFile? (disk : Disk) : List Path → Except Failure (Option Path)
  | [] => return none
  | p :: rest => do if ← disk.isFile p then return some p else firstFile? disk rest

/-- The result that is kept for a source file: the one of the workspace, else the one beside it. -/
def kept? (disk : Disk) (root : Option Path) (directory : Path) (kind : Kind) :
    Except Failure (Option Path) :=
  let name := Path.ofString kind.result
  firstFile? disk ((root.map (· / name)).toList ++ [directory / name])

end LogtalkNavigation.Artifact
