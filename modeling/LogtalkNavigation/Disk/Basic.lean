import LogtalkNavigation.Failure

namespace LogtalkNavigation

abbrev Location := List Name

inductive Node where
  | directory
  | file (content : List UInt8)
deriving DecidableEq

/-- Paths, as they are written, on which an access is refused; unlinking one that has `vanished`
reports it missing. -/
structure Faults where
  openDenied : List Text := []
  unlinkDenied : List Text := []
  renameDenied : List Text := []
  vanished : List Text := []

structure Disk where
  nodes : List (Location × Node)
  home : Location
  faults : Faults

namespace Disk

def node? (disk : Disk) (place : Location) : Option Node :=
  if place = [] then some .directory else disk.nodes.lookup place

def maxName : Nat := 255

def maxPath : Nat := 4095

def walk (disk : Disk) : Location → List Name → Except OsCode Location
  | place, [] => .ok place
  | place, name :: rest =>
    match disk.node? place with
    | none => .error .notFound
    | some (.file _) => .error .notDirectory
    | some .directory =>
      if maxName < name.size then .error .nameTooLong
      else walk disk (if name = Name.up then place.dropLast else place ++ [name]) rest

def absolute (disk : Disk) (p : Path) : Path :=
  if p.isAbsolute then p else ⟨.root, disk.home ++ p.names⟩

-- A path as it is looked up and as failures show it: a relative one behind the current directory.
def shown (disk : Disk) (p : Path) : Text :=
  if p.isAbsolute then p.text else (disk.home.flatMap fun name => '/' :: name.1) ++ '/' :: p.text

def locate (disk : Disk) (p : Path) : Except OsCode Location :=
  if maxPath < (Utf8.encode (disk.shown p)).length then .error .nameTooLong
  else disk.walk [] (disk.absolute p).names

def nodeAt? (disk : Disk) (p : Path) : Option Node :=
  match disk.locate p with
  | .ok place => disk.node? place
  | .error _ => none

def failure (disk : Disk) (code : OsCode) (paths : List Path) : Failure :=
  .os ⟨code, paths.map disk.shown⟩

def stat (disk : Disk) (p : Path) : Except Failure (Option Node) :=
  if p.text.contains '\x00' then .ok none
  else match disk.locate p with
    | .ok place => .ok (disk.node? place)
    | .error .notFound | .error .notDirectory => .ok none
    | .error code => .error (disk.failure code [p])

def isFile (disk : Disk) (p : Path) : Except Failure Bool := do
  match ← disk.stat p with
  | some (.file _) => return true
  | _ => return false

def isDirectory (disk : Disk) (p : Path) : Except Failure Bool :=
  return (← disk.stat p) = some .directory

def isThere (disk : Disk) (p : Path) : Except Failure Bool := return (← disk.stat p).isSome

def set (disk : Disk) (place : Location) (node : Node) : Disk :=
  if disk.nodes.any fun (spot, _) => spot = place then
    { disk with
      nodes := disk.nodes.map fun (spot, old) => if spot = place then (spot, node) else (spot, old) }
  else { disk with nodes := disk.nodes ++ [(place, node)] }

def erase (disk : Disk) (place : Location) : Disk :=
  { disk with nodes := disk.nodes.filter fun (spot, _) => spot ≠ place }

/-- Follows names from a location and makes the directories that are missing. -/
def enter (disk : Disk) (place : Location) : List Name → Disk × Location
  | [] => (disk, place)
  | name :: rest =>
    if name = Name.up then enter disk place.dropLast rest
    else
      let next := place ++ [name]
      enter (if (disk.node? next).isSome then disk else disk.set next .directory) next rest

def makeDirectory (disk : Disk) (p : Path) : Disk := (disk.enter [] (disk.absolute p).names).1

def put (disk : Disk) (p : Path) (content : List UInt8) : Disk :=
  let p := disk.absolute p
  match p.name? with
  | none => disk
  | some name =>
    let (disk, place) := disk.enter [] p.parent.names
    disk.set (place ++ [name]) (.file content)

def drop (disk : Disk) (p : Path) : Disk :=
  match disk.locate p with
  | .ok place => disk.erase place
  | .error _ => disk

def files (disk : Disk) : List (Location × List UInt8) :=
  disk.nodes.filterMap fun (place, node) =>
    match node with
    | .file content => some (place, content)
    | .directory => none

end Disk

end LogtalkNavigation
