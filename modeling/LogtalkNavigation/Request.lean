import LogtalkNavigation.Artifact.Kind
import LogtalkNavigation.Text.Digit

namespace LogtalkNavigation

namespace Atom

def double (c : Char) : Text := if c = '\\' ∨ c = '\'' then [c, c] else [c]

def quoted (text : Text) : Text := '\'' :: text.flatMap double ++ ['\'']

def ofPath (p : Path) : Text := quoted p.text

end Atom

inductive Query where
  | incomingCalls
  | outgoingCalls
  | supertypes
  | subtypes
  | references
  | typeDefinition
deriving DecidableEq, Repr

namespace Query

def all : List Query :=
  [.incomingCalls, .outgoingCalls, .supertypes, .subtypes, .references, .typeDefinition]

def word : Query → String
  | .incomingCalls => "incoming-calls"
  | .outgoingCalls => "outgoing-calls"
  | .supertypes => "supertypes"
  | .subtypes => "subtypes"
  | .references => "references"
  | .typeDefinition => "type-definition"

def ofWord? (word : Text) : Option Query := all.find? fun kind => kind.word.toList = word

def artifact : Query → Artifact.Kind
  | .incomingCalls => .callers
  | .outgoingCalls => .callees
  | .supertypes => .ancestors
  | .subtypes => .descendants
  | .references => .references
  | .typeDefinition => .typeDefinition

def predicate : Query → String
  | .incomingCalls => "find_callers"
  | .outgoingCalls => "find_callees"
  | .supertypes => "find_ancestors"
  | .subtypes => "find_descendants"
  | .references => "find_references"
  | .typeDefinition => "find_type_definition"

def isPositional : Query → Bool
  | .supertypes | .subtypes => false
  | _ => true

end Query

structure Request where
  kind : Query
  file : Path
  line : Int
  character : Int
  symbol : Text
deriving DecidableEq

namespace Goal

def clause (predicate : String) (arguments : List Text) : Text :=
  "vscode::".toList ++ predicate.toList ++ '(' :: Text.join [',', ' '] arguments ++ [')', '.']

def ofRequest (request : Request) (root : Path) : Text :=
  clause request.kind.predicate <|
    [Atom.ofPath root, request.symbol]
      ++ if request.kind.isPositional then
          [Atom.ofPath request.file, Text.ofInt (request.line + 1)]
        else []

/-- The goal of a request on any line. It cannot be written if the line has too many digits. -/
def checked (request : Request) (root : Path) : Except Failure Text :=
  if request.kind.isPositional && !fitsText (request.line + 1) then .error .tooLongToWrite
  else .ok (ofRequest request root)

def ofWord (word : Text) (file : Path) (line character : Int) (symbol : Text) (root : Path) :
    Except Failure Text :=
  match Query.ofWord? word with
  | some kind => checked ⟨kind, file, line, character, symbol⟩ root
  | none => .error (unreachable "no goal for request kind" [("kind", Text.quoted word)])

def metrics (directory : Path) (recursive : Bool) : Text :=
  clause (if recursive then "metrics_recursive" else "metrics") [Atom.ofPath directory]

def tests (directory : Path) (tester : String) : Text :=
  let loader := directory / Path.ofText (Path.ofString tester).stem
  clause "tests" [Atom.ofPath directory, Atom.ofPath loader]

end Goal

end LogtalkNavigation
