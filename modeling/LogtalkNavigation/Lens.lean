import LogtalkNavigation.Artifact.Claim
import LogtalkNavigation.Freshness
import LogtalkNavigation.Hierarchy

namespace LogtalkNavigation

structure Lens where
  range : Range
  kind : Report
  title : Text
  uri : Text
deriving DecidableEq

namespace Report

def command : Report → String
  | .tests => "lgtnav.runTests"
  | .metrics => "lgtnav.computeMetrics"

def tooltip : Report → String
  | .tests => "Re-run tests"
  | .metrics => "Re-compute metrics"

end Report

namespace Lens

def keptText (root : Option Path) (document : Path) (kind : Artifact.Kind) : Act (Option Text) := do
  let disk ← Act.disk
  match ← Act.ofExcept (Artifact.kept? disk root document.parent kind) with
  | none => return none
  | some artifact =>
    match disk.read artifact with
    | .ok content => return some (Source.textOf content)
    | .error (.os error) =>
      Act.note .warning s!"Cannot read {artifact}: {error.message}"
      return none
    | .error failure => throw failure

def ofRecord (freshness : Freshness) (kind : Report) (uri : Text) (title : Text) (line : Int) :
    Except Failure Lens := do
  let position ← Position.ofInts (max (line - 1) 0) 0
  return ⟨Range.empty position, kind, freshness.titled title kind uri, uri⟩

def uriOf (document : Path) (uri : Option Text) : Act Text := do
  match uri with
  | some (c :: rest) => return c :: rest
  | _ => Act.ofExcept ((← Act.disk).uriOf document)

/-- The lenses of complexities, in the order of the artifact. Each is made as soon as its line is
read. -/
def metrics (freshness : Freshness) (document : Path) (root : Option Path) (uri : Option Text) :
    Act (List Lens) := do
  match ← keptText root document .metrics with
  | none => return []
  | some text =>
    let uri ← uriOf document uri
    Record.collect .metrics
      (fun
        | .metric record => do
          if Record.sameFile record.file document.text then
            let title := "Cyclomatic complexity: ".toList ++ Text.ofInt record.score
            return [← Act.ofExcept (ofRecord freshness .metrics uri title record.line)]
          else return []
        | _ => return [])
      (Text.lines text)

-- What makes two records about the same test outcome.
inductive Subject where
  | test (object test : Text)
  | summary (object : Text)
  | file (line : Int)
deriving DecidableEq

def subject : Record → Subject
  | .test record => .test record.object record.test
  | .summary record => .summary record.object
  | record => .file record.line

def outcomeTitle : Record → Option Text
  | .test record =>
    match record.reason with
    | some (c :: reason) => some (record.status ++ " (".toList ++ c :: reason ++ [')'])
    | _ => some record.status
  | .summary record => some record.status
  | .status record => some record.status
  | _ => none

def tests (freshness : Freshness) (document : Path) (root : Option Path) (uri : Option Text) :
    Act (List Lens) := do
  match ← keptText root document .tests with
  | none => return []
  | some text =>
    let uri ← uriOf document uri
    let records := Record.about document.text (← Record.ofText .tests text)
    let shown := (Record.latest subject records).filterMap fun record =>
      (outcomeTitle record).map fun title => (title, record.line)
    shown.mapM fun (title, line) => Act.ofExcept (ofRecord freshness .tests uri title line)

end Lens

end LogtalkNavigation
