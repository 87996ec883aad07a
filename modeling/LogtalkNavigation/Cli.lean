import LogtalkNavigation.Artifact.Sweep
import LogtalkNavigation.Record.Artifact
import LogtalkNavigation.Record.Json
import LogtalkNavigation.Text.Terminal

namespace LogtalkNavigation.Cli

structure Arguments where
  options : List (String × String) := []
  others : List String := []

/-- Takes arguments apart. `options` are the options that there are, each with a value behind it or
behind an equals sign. Two dashes end the options. -/
def split? (options : List String) : List String → Option Arguments
  | [] => some {}
  | "--" :: rest => some { others := rest }
  | argument :: rest =>
    let name := String.ofList (argument.toList.takeWhile (· ≠ '='))
    if argument.startsWith "-" && argument ≠ "-" then
      if !options.contains name then none
      else if name ≠ argument then do
        let more ← split? options rest
        let value := String.ofList (argument.toList.drop (name.length + 1))
        some { more with options := (name, value) :: more.options }
      else
        match rest with
        | value :: rest => do
          let more ← split? options rest
          some { more with options := (name, value) :: more.options }
        | [] => none
    else do
      let more ← split? options rest
      some { more with others := argument :: more.others }

def Arguments.option? (arguments : Arguments) (name : String) : Option String :=
  arguments.options.reverse.lookup name

inductive Command where
  | serve (level : String)
  | cleanup (root : Path)
  | records (kind : Artifact.Kind) (artifact : Path) (file : Option Text)

-- What is at a path that is given as text; the empty text names nothing. What cannot be looked up is not there.
def node? (disk : Disk) (text : String) : Option Node :=
  if text.isEmpty || text.toList.contains '\x00' then none else disk.nodeAt? (Path.ofString text)

def command? (disk : Disk) (arguments : List String) : Option Command := do
  match if arguments.head? = some "--" then arguments.drop 1 else arguments with
  | "serve" :: rest =>
    let arguments ← split? ["--log-level"] rest
    match arguments.others with
    | [] => some (.serve ((arguments.option? "--log-level").getD "warning"))
    | _ => none
  | "cleanup" :: rest =>
    match (← split? [] rest).others with
    | [root] => if node? disk root = some .directory then some (.cleanup (Path.ofString root)) else none
    | _ => none
  | "records" :: rest =>
    let arguments ← split? ["--file"] rest
    match arguments.others with
    | [word, artifact] =>
      let kind ← Artifact.Kind.ofWord? word.toList
      match node? disk artifact with
      | some (.file _) =>
        let file := (arguments.option? "--file").map String.toList
        some (.records kind (Path.ofString artifact) file)
      | _ => none
    | _ => none
  | _ => none

structure Outcome where
  output : Text := []
  errors : Text := []
  serves : Bool := false

def setLevel (name : String) : Act Unit :=
  modify fun world => { world with log := { world.log with threshold := Level.ofName name } }

def run : Command → Act Outcome
  | .serve level => do
    setLevel level
    return { serves := true }
  | .cleanup root => do
    setLevel "info"
    let removed ← Artifact.sweep (some root) Artifact.leftoverNames
    return {
      output := removed.flatMap fun p => Text.dropControls p.text ++ ['\n']
      errors := s!"Removed {removed.length} file(s).\n".toList }
  | .records kind artifact file => do
    let content ← Act.ofExcept ((← Act.disk).read artifact)
    let records ← Record.ofBytes kind content
    let shown := match file with
      | some file => Record.about file records
      | none => records
    return { output := Record.json kind shown ++ ['\n'] }

inductive Ending where
  | usage
  | failed (failure : Failure)
  | done (outcome : Outcome)

def Ending.code : Ending → Nat
  | .usage => 2
  | .failed _ => 1
  | .done _ => 0

def call (arguments : List String) (world : World) : Ending × World :=
  match command? world.disk arguments with
  | none => (.usage, world)
  | some command =>
    match run command world with
    | .ok outcome world => (.done outcome, world)
    | .error failure world => (.failed failure, world)

end LogtalkNavigation.Cli
