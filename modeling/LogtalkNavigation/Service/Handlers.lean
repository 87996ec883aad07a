import LogtalkNavigation.Artifact.Prune
import LogtalkNavigation.Artifact.Sweep
import LogtalkNavigation.Service.Errand
import LogtalkNavigation.Service.Folders

namespace LogtalkNavigation

inductive Reply where
  | now (answer : Answer)
  | errand (errand : Errand)

namespace Request

def ofItem (kind : Query) (item : Item) : Except Failure Request := do
  let start := item.range.start
  return ⟨kind, ← pathOfUri item.uri, start.line, start.character, item.name⟩

end Request

namespace Reply

def related (kind : Query) (item : Item) (root : Option Path) : Except Failure Reply := do
  return .errand (.fetch (← Request.ofItem kind item) root)

def references (p : Path) (document : Text) (position : Position) (root : Option Path) :
    Except Failure Reply := do
  match ← Cursor.call? document position.line position.character with
  | some symbol =>
    return .errand (.fetch ⟨.references, p, position.line, position.character, symbol⟩ root)
  | none => return .now (.places [])

def typeDefinition (p : Path) (document : Text) (position : Position) (root : Option Path) : Reply :=
  match Cursor.entity? document position.line position.character with
  | some symbol =>
    .errand (.fetch ⟨.typeDefinition, p, position.line, position.character, symbol⟩ root)
  | none => .now (.place none)

def refresh (kind : Report) (directory : Path) (root : Option Path) (recursive : Bool) : Reply :=
  .errand (.refresh kind directory (root.getD directory) recursive)

end Reply

structure Document where
  path : Path
  source : Text
  language : Option String

structure Client where
  folders : Folders := {}
  documents : List (Text × Document) := []

namespace Client

def document (client : Client) (uri : Text) : Except Failure Document := do
  match client.documents.lookup uri with
  | some document => return document
  | none => return ⟨← pathOfUri uri, [], none⟩

def owner (client : Client) (p : Option Path) : Job (Option Path) :=
  Job.ofExcept (client.folders.owner p)

def sweepRoot (root : Path) : Job Unit := do
  let removed ← Job.act (Artifact.sweep (some root) Artifact.leftoverNames)
  if !removed.isEmpty then
    Job.note .info s!"removed {removed.length} leftover artifact(s) under {root}"

def sweepRoots : List Path → Job Unit
  | [] => return
  | root :: rest => do
    sweepRoot root
    sweepRoots rest

def initialized (client : Client) : Job Unit := do
  let roots ← Job.ofExcept client.folders.roots
  Job.reload roots.head? .null
  sweepRoots roots

def foldersAdded : List Text → Job Unit
  | [] => return
  | uri :: rest => do
    sweepRoot (← Job.ofExcept (pathOfUri uri))
    foldersAdded rest

def configurationChanged (client : Client) (settings : Value) : Job Unit := do
  Job.setFreshness (← Job.act ((← get).freshness.configurationChanged))
  Job.reload (← client.owner none) settings

def documentChanged (client : Client) (uri : Text) : Job Unit := do
  let document ← Job.ofExcept (client.document uri)
  Job.setFreshness (← Job.ofExcept ((← get).freshness.documentChanged uri document.language))

/-- A document is about to be saved. If that makes results stale, its complexities are removed. -/
def willSave (client : Client) (uri : Text) : Job Unit := do
  let document ← Job.ofExcept (client.document uri)
  let (stale, freshness) ← Job.act ((← get).freshness.willSave uri document.language)
  Job.setFreshness freshness
  if stale then
    let root ← client.owner (some document.path)
    let _ ← Job.act (Artifact.dropMetrics document.path root.toList)

def settled (uri : Text) : Job Unit := do Job.setFreshness ((← get).freshness.settled uri)

def prepareCall (client : Client) (uri : Text) (position : Position) : Job Answer := do
  let document ← Job.ofExcept (client.document uri)
  return .prepared (← Job.act (Hierarchy.prepareCall document.path document.source position))

def prepareType (client : Client) (uri : Text) (position : Position) : Job Answer := do
  let document ← Job.ofExcept (client.document uri)
  return .prepared (← Job.act (Hierarchy.prepareType document.path document.source position))

def related (client : Client) (kind : Query) (item : Item) : Job Reply := do
  let p ← Job.ofExcept (pathOfUri item.uri)
  Job.ofExcept (Reply.related kind item (← client.owner (some p)))

def references (client : Client) (uri : Text) (position : Position) : Job Reply := do
  let document ← Job.ofExcept (client.document uri)
  let root ← client.owner (some document.path)
  Job.ofExcept (Reply.references document.path document.source position root)

def typeDefinition (client : Client) (uri : Text) (position : Position) : Job Reply := do
  let document ← Job.ofExcept (client.document uri)
  let root ← client.owner (some document.path)
  return Reply.typeDefinition document.path document.source position root

def lenses (client : Client) (uri : Text) : Job Answer := do
  let office ← get
  if !office.settings.lensesEnabled then return .lenses []
  let p ← Job.ofExcept (pathOfUri uri)
  let root ← client.owner (some p)
  let metrics ← Job.act (Lens.metrics office.freshness p root (some uri))
  let tests ← Job.act (Lens.tests office.freshness p root (some uri))
  return .lenses (metrics ++ tests)

/-- The directory and the workspace that a command is about: those of a URI, else the workspace. -/
def target (client : Client) (uri : Option Text) : Job (Path × Option Path) := do
  let disk := (← get).world.disk
  match uri with
  | some (c :: rest) =>
    let p ← Job.ofExcept (pathOfUri (c :: rest))
    let directory := if ← Job.ofExcept (disk.isDirectory p) then p else p.parent
    return (directory, ← client.owner (some p))
  | _ =>
    let root ← client.owner none
    return (root.getD ⟨.root, disk.home⟩, root)

def refresh (client : Client) (kind : Report) (uri : Option Text) (recursive : Bool) :
    Job Reply := do
  let (directory, root) ← client.target uri
  return Reply.refresh kind directory root recursive

/-- Serves until the client is gone; then, and also if the transport fails, all sessions are closed. -/
def serve (transportFails : Bool) : Job Unit := do
  Job.closeSessions
  if transportFails then throw .transportClosed

end Client

end LogtalkNavigation
