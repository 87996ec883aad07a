import LogtalkNavigation.Settings.Basic
import LogtalkNavigation.Text.Lines
import LogtalkNavigation.Toml.Document
import LogtalkNavigation.World

/-! Where settings come from: a configuration file of the workspace, and over it what the client sends.
A file that is missing or damaged counts as empty. -/

namespace LogtalkNavigation.Settings

def fileName : String := "lgtnav.toml"

def ofToml (p : Path) (text : Text) : Act (List (String × Value)) := do
  match Toml.ofText text with
  | .ok entries => return entries
  | .error .invalid =>
    Act.note .warning s!"Invalid TOML in {p}, using defaults"
    return []
  | .error (.tooManyDigits count) => throw (.tooManyDigits count)

def strictText (content : List UInt8) : Except Failure Text :=
  match Utf8.decodeStrict content with
  | .ok text => .ok (Text.unifyBreaks text)
  | .error damage => .error (.notUtf8 (content.getD damage.position 0) damage)

def ofFile (p : Path) : Act (List (String × Value)) := do
  match (← Act.disk).read p with
  | .ok content => ofToml p (← Act.ofExcept (strictText content))
  | .error (.os error) =>
    if error.code ≠ .notFound then Act.note .warning s!"Cannot read {p}, using defaults"
    return []
  | .error failure => throw failure

/-- The configuration of a workspace, or of the current directory if none is open; `file` may name
another file. -/
def configuration (root : Option Path) (file : Option Path) : Act (List (String × Value)) := do
  match file with
  | some file => ofFile file
  | none =>
    let home : Path := ⟨.root, (← Act.disk).home⟩
    ofFile (root.getD home / Path.ofString fileName)

def sectionOf (entries : List (String × Value)) (name : String) : List (String × Value) :=
  ((entries.lookup name).bind Value.table?).getD []

def clientName : String := "lgtnav"

-- A section of what a client sends: under the name of the service if that is there.
def sectionOfClient (settings : Value) (name : String) : List (String × Value) :=
  match settings with
  | .table entries =>
    match entries.lookup clientName with
    | some inner => sectionOf (inner.table?.getD []) name
    | none => sectionOf entries name
  | _ => []

/-- Entries over others. Entries without a value do not count. -/
def overlay (upper entries : List (String × Value)) : List (String × Value) :=
  upper.foldl (fun entries (key, value) =>
    match value with
    | .null => entries
    | value => setEntry key value entries) entries

def withArguments (entries : List (String × Value)) : Except Failure (List (String × Value)) := do
  match entries.lookup "args" with
  | some value => return setEntry "args" (.list ((← arguments value).map Value.string)) entries
  | none => return entries

def load (root : Option Path) (file : Option Path) (client : Value) : Act Settings := do
  let entries ← configuration root file
  let merged (name : String) : List (String × Value) :=
    overlay (sectionOfClient client name) (sectionOf entries name)
  let engine ← Act.ofExcept (withArguments (merged "engine"))
  let engine ← Act.ofExcept (checked (EngineSettings.ofEntries engine))
  let level ← Act.ofExcept (checked (levelOfEntries (merged "logging")))
  let lensesEnabled := truth (((merged "code_lens").lookup "enabled").getD (.bool true))
  return ⟨engine, level, lensesEnabled⟩

end LogtalkNavigation.Settings
