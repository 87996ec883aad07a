import LogtalkNavigation.Failure

/-! The kinds of artifact that the engine leaves for the service, and the names of their files. The
engine writes a result and then, empty, the sentinel that says the result is complete. -/

namespace LogtalkNavigation.Artifact

inductive Kind where
  | callers
  | callees
  | ancestors
  | descendants
  | references
  | typeDefinition
  | tests
  | metrics
deriving DecidableEq, Repr

namespace Kind

def all : List Kind :=
  [.callers, .callees, .ancestors, .descendants, .references, .typeDefinition, .tests, .metrics]

def word : Kind → String
  | .callers => "callers"
  | .callees => "callees"
  | .ancestors => "ancestors"
  | .descendants => "descendants"
  | .references => "references"
  | .typeDefinition => "type_definition"
  | .tests => "tests"
  | .metrics => "metrics"

def ofWord? (word : Text) : Option Kind := all.find? fun kind => kind.word.toList = word

def ofWord (word : Text) : Except Failure Kind :=
  match ofWord? word with
  | some kind => .ok kind
  | none => .error (.unknownArtifactKind word)

def result : Kind → String
  | .callers => ".vscode_callers"
  | .callees => ".vscode_callees"
  | .ancestors => ".vscode_ancestors"
  | .descendants => ".vscode_descendants"
  | .references => ".vscode_references"
  | .typeDefinition => ".vscode_type_definition"
  | .tests => ".vscode_test_results"
  | .metrics => ".vscode_metrics_results"

def sentinel : Kind → String
  | .callers => ".vscode_callers_done"
  | .callees => ".vscode_callees_done"
  | .ancestors => ".vscode_ancestors_done"
  | .descendants => ".vscode_descendants_done"
  | .references => ".vscode_references_done"
  | .typeDefinition => ".vscode_type_definition_done"
  | .tests => ".vscode_tests_done"
  | .metrics => ".vscode_metrics_done"

/-- Whether the result is read once and removed. The others are kept and shown again and again. -/
def isOnce : Kind → Bool
  | .tests | .metrics => false
  | _ => true

end Kind

def scratchNames : List String :=
  [".vscode_loading_done", ".vscode_make_done", ".vscode_tester_output", ".vscode_doclet_output"]

def leftoverNames : List String :=
  Kind.all.flatMap (fun kind => kind.sentinel :: if kind.isOnce then [kind.result] else [])
    ++ scratchNames

def openRoot : Option Text → Option Path
  | some (c :: rest) => some (Path.ofText (c :: rest))
  | _ => none

def inWorkspace (root : Option Path) (name : String) : Except Failure Path :=
  match root with
  | some root => .ok (root / Path.ofString name)
  | none => .error (.noWorkspace ("cannot resolve " ++ name))

end LogtalkNavigation.Artifact
