import LogtalkNavigation.Artifact.Claim
import LogtalkNavigation.Record.Basic
import LogtalkNavigation.Source

namespace LogtalkNavigation.Artifact

-- Whether a line of an artifact is about a file, by what is in front of its first semicolon.
def isAbout (file : Text) (line : Text) : Bool :=
  let head := line.takeWhile (· ≠ ';')
  head.length < line.length && Text.lower (head.take 5) = "file:".toList
    && Record.sameFile (head.drop 5) file

/-- Removes the lines about a file from an artifact, and the artifact when nothing is left; says
whether anything changed. -/
def dropRecords (artifact : Path) (file : Path) : Act Bool := do
  let disk ← Act.disk
  match disk.read artifact with
  | .error (.os error) =>
    if error.code = .notFound then return false else throw (.os error)
  | .error failure => throw failure
  | .ok content =>
    let lines := Text.lines (Source.textOf content)
    let file := Record.tidy file.text
    let kept := lines.filter fun line => !isAbout file line
    if kept.length = lines.length then return false
    if kept.all Text.allBlank then discard artifact
    else
      let text := Text.join ['\n'] kept ++ ['\n']
      Act.setDisk (← Act.ofExcept (disk.write artifact (Utf8.encode text)))
    let count := lines.length - kept.length
    Act.note .debug s!"pruned {count} record(s) for {String.ofList file} from {artifact}"
    return true

def dropRecordsAll (file : Path) : List Path → Act (List Path)
  | [] => return []
  | artifact :: rest => do
    let changed ← dropRecords artifact file
    let others ← dropRecordsAll file rest
    return if changed then artifact :: others else others

def dropMetrics (document : Path) (roots : List Path) : Act (List Path) :=
  let name := Path.ofString Kind.metrics.result
  dropRecordsAll document ((document.parent :: roots).map (· / name)).eraseDups

end LogtalkNavigation.Artifact
