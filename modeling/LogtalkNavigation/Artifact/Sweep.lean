import LogtalkNavigation.Disk.Pattern
import LogtalkNavigation.Artifact.Claim

namespace LogtalkNavigation.Artifact

def sweepFile (p : Path) : Act Bool := do
  let disk ← Act.disk
  if !(← Act.ofExcept (disk.isFile p)) then return false
  match disk.unlink p with
  | .ok disk =>
    Act.setDisk disk
    Act.note .debug s!"Deleted old temporary file: {p}"
    return true
  | .error (.os error) =>
    if error.code ≠ .notFound then
      Act.note .error (Failure.notDeleted p.text error.message).message
    return false
  | .error failure => throw failure

def sweepFiles : List Path → Act (List Path)
  | [] => return []
  | p :: rest => do
    let removed ← sweepFile p
    let others ← sweepFiles rest
    return if removed then p :: others else others

def sweepNames (root : Path) : List String → Act (List Path)
  | [] => return []
  | name :: rest => do
    let found ← Act.ofExcept ((← Act.disk).search root name.toList)
    let removed ← sweepFiles found
    return removed ++ (← sweepNames root rest)

/-- Removes the files below `root` that have one of the names; the removed ones, by name and then
by path. -/
def sweep (root : Option Path) (names : List String) : Act (List Path) := do
  match root with
  | none => return []
  | some root =>
    if !(← Act.ofExcept ((← Act.disk).isDirectory root)) then
      Act.note .debug s!"Skipping cleanup of missing directory {root}"
      return []
    let names := names.eraseDups.mergeSort fun a b => Text.le a.toList b.toList
    sweepNames root names

end LogtalkNavigation.Artifact
