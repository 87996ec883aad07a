import LogtalkNavigation.Disk.Basic

/-! Reading, writing, unlinking and renaming by path. An access that fails leaves the disk as it
was. A path that the disk has been told to refuse is refused before it is looked up, and one with a NUL
character when it is. The refusal shows paths as they are written, other failures as they are looked
up. -/

namespace LogtalkNavigation.Disk

def allow (denied : List Text) (paths : List Path) : Except Failure Unit :=
  if (paths.head?.map fun p => denied.contains p.text).getD false then
    .error (.os ⟨.denied, paths.map Path.text⟩)
  else .ok ()

def find (disk : Disk) (p : Path) (paths : List Path) : Except Failure Location :=
  if paths.any fun p => p.text.contains '\x00' then .error .nulInPath
  else (disk.locate p).mapError (disk.failure · paths)

def read (disk : Disk) (p : Path) : Except Failure (List UInt8) := do
  allow disk.faults.openDenied [p]
  let place ← disk.find p [p]
  match disk.node? place with
  | none => .error (disk.failure .notFound [p])
  | some .directory => .error (disk.failure .isDirectory [p])
  | some (.file content) => .ok content

def write (disk : Disk) (p : Path) (content : List UInt8) : Except Failure Disk := do
  allow disk.faults.openDenied [p]
  let place ← disk.find p [p]
  match disk.node? place with
  | some .directory => .error (disk.failure .isDirectory [p])
  | _ => .ok (disk.set place (.file content))

def unlink (disk : Disk) (p : Path) : Except Failure Disk := do
  allow disk.faults.unlinkDenied [p]
  if disk.faults.vanished.contains p.text then .error (.os ⟨.notFound, [p.text]⟩)
  let place ← disk.find p [p]
  match disk.node? place with
  | none => .error (disk.failure .notFound [p])
  | some .directory => .error (disk.failure .isDirectory [p])
  | some (.file _) => .ok (disk.erase place)

def move (disk : Disk) (source target : Location) : Disk :=
  { disk with
    nodes := (disk.erase target).nodes.map fun (place, node) =>
      if source.isPrefixOf place then (target ++ place.drop source.length, node) else (place, node) }

/-- Renames a file or a directory, in one step. The source is looked up before the target. -/
def rename (disk : Disk) (source target : Path) : Except Failure Disk := do
  let paths := [source, target]
  allow disk.faults.renameDenied paths
  let sourcePlace ← disk.find source paths
  if source.name? = some Name.up ∨ sourcePlace = [] then .error (disk.failure .busy paths)
  if (disk.node? sourcePlace).isNone then .error (disk.failure .notFound paths)
  return disk.move sourcePlace (← disk.find target paths)

end LogtalkNavigation.Disk
