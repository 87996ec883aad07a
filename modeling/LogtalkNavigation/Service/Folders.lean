import LogtalkNavigation.Failure

namespace LogtalkNavigation

structure Folders where
  uris : List Text := []
  rootPath : Option Text := none

def pathOfUri (uri : Text) : Except Failure Path :=
  match Uri.toPath uri with
  | .ok p => .ok p
  | .error fault => .error (.uri fault)

namespace Folders

-- The paths of the folders; the root path counts only if there are none.
def roots (folders : Folders) : Except Failure (List Path) := do
  let paths ← folders.uris.mapM pathOfUri
  match paths, folders.rootPath with
  | [], some (c :: rest) => return [Path.ofText (c :: rest)]
  | paths, _ => return paths

def encloses (p root : Path) : Bool := p = root || p.parents.contains root

def deepest? : List Path → Option Path
  | [] => none
  | root :: rest =>
    match deepest? rest with
    | some other => some (if root.depth < other.depth then other else root)
    | none => some root

/-- The folder among some that a path belongs to: the deepest that encloses it, else the first. -/
def ownerAmong (roots : List Path) (p : Option Path) : Option Path :=
  match p with
  | some p => deepest? (roots.filter (encloses p)) <|> roots.head?
  | none => roots.head?

def owner (folders : Folders) (p : Option Path) : Except Failure (Option Path) := do
  return ownerAmong (← folders.roots) p

end Folders

end LogtalkNavigation
