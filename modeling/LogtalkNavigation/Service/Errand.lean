import LogtalkNavigation.Hierarchy
import LogtalkNavigation.Lens
import LogtalkNavigation.Service.Basic

/-! Errands: what the engine is sent for. An errand that shares an artifact with others waits for its
turn, so that nobody takes the artifact of another. Failures of the service, of the engine and of the
operating system end in an empty answer and an entry in the log. -/

namespace LogtalkNavigation

inductive Answer where
  | nothing
  | flag (value : Bool)
  | prepared (items : Option (List Item))
  | incoming (calls : List Call)
  | outgoing (calls : List Call)
  | items (items : List Item)
  | places (places : List Place)
  | place (place : Option Place)
  | lenses (lenses : List Lens)
deriving DecidableEq

inductive Errand where
  | direct (session : Session) (goal : Text) (sentinel : Path)
  | fetch (request : Request) (root : Option Path)
  | refresh (kind : Report) (directory root : Path) (recursive : Bool)
deriving DecidableEq

abbrev Turn := Path × Artifact.Kind

namespace Query

def feature : Query → String
  | .incomingCalls => "incoming calls"
  | .outgoingCalls => "outgoing calls"
  | .supertypes => "supertypes"
  | .subtypes => "subtypes"
  | .references => "references"
  | .typeDefinition => "type definition"

def emptyAnswer : Query → Answer
  | .incomingCalls => .incoming []
  | .outgoingCalls => .outgoing []
  | .supertypes | .subtypes => .items []
  | .references => .places []
  | .typeDefinition => .place none

end Query

namespace Request

def answer (request : Request) (content : List UInt8) : Act Answer := do
  let text := Utf8.decode content
  match request.kind with
  | .incomingCalls =>
    let records := Hierarchy.calls (← Record.ofText .callers text)
    return .incoming (← Hierarchy.incomingCalls request.symbol records)
  | .outgoingCalls =>
    let records := Hierarchy.calls (← Record.ofText .callees text)
    return .outgoing (← Hierarchy.outgoingCalls request.file (request.line + 1) records)
  | .supertypes =>
    return .items (← Hierarchy.typeItems (Hierarchy.entities (← Record.ofText .ancestors text)))
  | .subtypes =>
    return .items (← Hierarchy.typeItems (Hierarchy.entities (← Record.ofText .descendants text)))
  | .references => return .places (← Hierarchy.placesOfText text)
  | .typeDefinition => return .place (← Hierarchy.typeDefinitionOfText text)

end Request

namespace Errand

def turn : Errand → Option Turn
  | .direct _ _ _ => none
  | .fetch request root => root.map fun root => (root, request.kind.artifact)
  | .refresh kind _ root _ => some (root, kind.artifact)

def feature : Errand → Option String
  | .direct _ _ _ => none
  | .fetch request _ => some request.kind.feature
  | .refresh kind _ _ _ => some kind.word

def emptyAnswer : Errand → Answer
  | .direct _ _ _ => .nothing
  | .fetch request _ => request.kind.emptyAnswer
  | .refresh _ _ _ _ => .flag false

def artifactOf (request : Request) (root : Path) : Path :=
  root / Path.ofString request.kind.artifact.result

def sentinelOf (kind : Artifact.Kind) (directory : Path) : Path :=
  directory / Path.ofString kind.sentinel

def refreshGoal (kind : Report) (directory : Path) (recursive : Bool) (session : Session) : Text :=
  match kind with
  | .tests => Goal.tests directory session.settings.tester
  | .metrics => Goal.metrics directory recursive

def discardResult : Errand → Act Unit
  | .fetch request (some root) => do
    let artifact := artifactOf request root
    Artifact.discard artifact
    Act.note .debug s!"{request.kind.word} abandoned, {artifact} discarded"
  | _ => return

/-- Work with the engine. If the engine fails, what it may have left is removed. -/
def withEngine {α : Type} (errand : Errand) (work : Act α) : Act α := do
  match ← Act.attempt work with
  | .ok value => return value
  | .error failure =>
    if failure.isEngine then errand.discardResult
    throw failure

abbrev Runner := Session → Text → Path → Act (Option Run)

/-- Takes away the artifact that an earlier request may have left, and yields the session to send the
goal to. -/
def prepare (request : Request) (root : Path) : Job Session := do
  let artifact := artifactOf request root
  if (← Job.act (Artifact.take artifact)).isSome then
    Job.note .warning s!"discarded stale {artifact} before {request.kind.word}"
  Job.sessionFor root

def launch (errand : Errand) (runner : Runner) : Job (Option Run) := do
  match errand with
  | .direct session goal sentinel => Job.act (runner session goal sentinel)
  | .fetch request root =>
    let _ ← Job.ofExcept (Artifact.inWorkspace root request.kind.artifact.result)
    let root ← Job.ofExcept (required root "artifact root" [])
    let session ← prepare request root
    let sentinel := sentinelOf request.kind.artifact session.root
    Job.act (errand.withEngine (runner session (Goal.ofRequest request session.root) sentinel))
  | .refresh kind directory root recursive =>
    let session ← Job.sessionFor root
    let goal := refreshGoal kind directory recursive session
    Job.act (runner session goal (sentinelOf kind.artifact directory))

def collect (request : Request) (root : Path) : Job (Option (List UInt8)) := do
  let artifact := artifactOf request root
  let content ← Job.act (Artifact.take artifact)
  if content.isNone then Job.note .info (Failure.artifactMissing artifact.text).message
  return content

def conclude (errand : Errand) : Job Answer := do
  match errand with
  | .direct _ _ _ => return .nothing
  | .fetch _ none => return errand.emptyAnswer
  | .fetch request (some root) =>
    match ← collect request root with
    | none => return errand.emptyAnswer
    | some content => Job.act (request.answer content)
  | .refresh kind _ _ _ =>
    Job.setFreshness ((← get).freshness.renew kind)
    return .flag true

def contain (errand : Errand) (work : Job Answer) : Job Answer := do
  match ← Job.attempt work, errand.feature with
  | .ok answer, _ => return answer
  | .error failure, some feature =>
    if failure.isContained then
      Job.note .error s!"{feature} failed: {failure.message}"
      return errand.emptyAnswer
    else throw failure
  | .error failure, none => throw failure

inductive Progress where
  | asleep (run : Run)
  | ended (result : Except Failure Answer)

def proceed (errand : Errand) (first : Job (Option Run)) : Job Progress := do
  match ← Job.attempt first with
  | .ok (some run) => return .asleep run
  | .ok none => return .ended (← Job.attempt (errand.contain errand.conclude))
  | .error failure => return .ended (← Job.attempt (errand.contain (throw failure)))

def wake (held : Bool) (errand : Errand) (run : Run) : Job (Option Run) :=
  Job.act (errand.withEngine (run.resume held))

/-- Runs an errand that has its turn. If `held`, it falls asleep at its first sleep. -/
def begin (held : Bool) (errand : Errand) : Job Progress :=
  errand.proceed (errand.launch (Run.perform held))

def resume (held : Bool) (errand : Errand) (run : Run) : Job Progress :=
  errand.proceed (errand.wake held run)

def cancel (errand : Errand) (run : Run) : Job Unit :=
  Job.act do
    Run.cancel run.session run.sentinel
    errand.discardResult

end Errand

end LogtalkNavigation
