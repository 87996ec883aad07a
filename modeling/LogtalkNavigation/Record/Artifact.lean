import LogtalkNavigation.Record.Line
import LogtalkNavigation.Text.Lines
import LogtalkNavigation.World

/-! All records of an artifact. Blank lines are passed over, and so, with a note in the log, are
lines that are no record; only a number with too many digits stops the reading. -/

namespace LogtalkNavigation.Record

def ofLine? (kind : Artifact.Kind) (text : Text) : Act (Option Record) := do
  if Text.allBlank text then return none
  match ofLine kind text with
  | .ok record => return some record
  | .error (.malformedRecord word line) =>
    Act.note .debug (Failure.malformedRecord word line).message
    return none
  | .error failure => throw failure

/-- What `each` makes of the records of some lines, each record as soon as its line is read. -/
def collect {α : Type} (kind : Artifact.Kind) (each : Record → Act (List α)) :
    List Text → Act (List α)
  | [] => return []
  | text :: rest => do
    match ← ofLine? kind text with
    | some record =>
      let made ← each record
      return made ++ (← collect kind each rest)
    | none => collect kind each rest

def first? (kind : Artifact.Kind) : List Text → Act (Option Record)
  | [] => return none
  | text :: rest => do
    match ← ofLine? kind text with
    | some record => return some record
    | none => first? kind rest

def ofText (kind : Artifact.Kind) (text : Text) : Act (List Record) :=
  collect kind (fun record => return [record]) (Text.lines text)

def ofBytes (kind : Artifact.Kind) (bytes : List UInt8) : Act (List Record) :=
  ofText kind (Utf8.decode bytes)

def unknownKind (word : Text) : Failure :=
  unreachable "unknown artifact kind" [("kind", Text.quoted word)]

def ofLineNamed (word : Text) (text : Text) : Except Failure Record :=
  match Artifact.Kind.ofWord? word with
  | some kind => ofLine kind text
  | none => .error (unknownKind word)

/-- The records of an artifact whose kind is given by a word. A kind that does not exist is noticed
at the first line that is not blank. -/
def ofTextNamed (word : Text) (text : Text) : Act (List Record) :=
  match Artifact.Kind.ofWord? word with
  | some kind => ofText kind text
  | none => if (Text.lines text).all Text.allBlank then return [] else throw (unknownKind word)

def about (file : Text) (records : List Record) : List Record :=
  records.filter fun record => sameFile record.file file

def putLatest {α κ : Type} [DecidableEq κ] (key : α → κ) (record : α) : List α → List α
  | [] => [record]
  | other :: rest =>
    if key other = key record then record :: rest else other :: putLatest key record rest

/-- One record for each key: the last one, in the place of the first. -/
def latest {α κ : Type} [DecidableEq κ] (key : α → κ) (records : List α) : List α :=
  records.foldl (fun kept record => putLatest key record kept) []

end LogtalkNavigation.Record
